/-!
# Sets of code points as range tables

A Unicode property is stored as an increasing array of inclusive ranges;
membership is decided by bisection.
-/

namespace PreferenceSchema
namespace Text

/-- Inclusive ranges of code points, in increasing order and without overlap. -/
abbrev RangeTable : Type := Array (Nat × Nat)

namespace RangeTable

/-- The last index from `low` up to but not including `high` whose range starts
at or before `point`, found by at most `steps` bisections; `low` where there is
none. -/
def locate
    (table : RangeTable)
    (point : Nat) : (steps low high : Nat) → Nat
  | 0, low, _ => low
  | steps + 1, low, high =>
    if high ≤ low + 1 then low
    else
      let middle := (low + high) / 2
      if (table.getD middle (0, 0)).1 ≤ point then
        table.locate point steps middle high
      else table.locate point steps low middle

/-- Whether some range of the table holds `point`. -/
def containsPoint
    (table : RangeTable)
    (point : Nat) : Bool :=
  match table[table.locate point table.size 0 table.size]? with
  | some (first, last) => first ≤ point && point ≤ last
  | none => false

/-- Whether some range of the table holds the code point of `c`. -/
def contains
    (table : RangeTable)
    (c : Char) : Bool :=
  table.containsPoint c.toNat

end RangeTable
end Text
end PreferenceSchema
