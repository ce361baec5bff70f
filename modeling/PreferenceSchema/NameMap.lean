/-!
# Maps and sets of names

Finite maps from names and finite sets of names, kept in the order of the names
by code point, so that two of them with the same content are equal.
-/

namespace PreferenceSchema

/-- A finite map from names, as its entries in the strict order of the names. -/
structure NameMap (α : Type) where
  entries : List (String × α)
  ordered : entries.Pairwise fun left right => left.1 < right.1
deriving DecidableEq

namespace NameMap

variable {α : Type}

/-- The map without entries. -/
def empty : NameMap α where
  entries := []
  ordered := .nil

/-- The value of a name. -/
def get?
    (map : NameMap α)
    (name : String) : Option α :=
  map.entries.lookup name

/-- Whether the map has an entry for the name. -/
def contains
    (map : NameMap α)
    (name : String) : Bool :=
  (map.get? name).isSome

/-- The number of entries. -/
def size (map : NameMap α) : Nat :=
  map.entries.length

/-- Entries with one more, in its place; an entry of the same name is
replaced. -/
def insertEntry
    (name : String)
    (value : α) : List (String × α) → List (String × α)
  | [] => [(name, value)]
  | entry :: rest =>
    if name < entry.1 then (name, value) :: entry :: rest
    else if name = entry.1 then (name, value) :: rest
    else entry :: insertEntry name value rest

theorem mem_insertEntry
    {name : String}
    {value : α}
    {entries : List (String × α)}
    {entry : String × α}
    (h : entry ∈ insertEntry name value entries) :
    entry = (name, value) ∨ entry ∈ entries := by
  induction entries with
  | nil => simpa [insertEntry] using h
  | cons first rest ih =>
    unfold insertEntry at h
    split at h
    · simpa using h
    split at h
    · rcases List.mem_cons.1 h with rfl | h
      · exact .inl rfl
      · exact .inr (List.mem_cons_of_mem _ h)
    · rcases List.mem_cons.1 h with rfl | h
      · exact .inr List.mem_cons_self
      · exact (ih h).imp_right (List.mem_cons_of_mem _)

/-- The value of a name in entries behind a first one. -/
theorem lookup_entry
    (key name : String)
    (value : α)
    (rest : List (String × α)) :
    ((key, value) :: rest).lookup name = if name = key then
      some value else rest.lookup name := by
  rw [List.lookup_cons]
  by_cases same : name = key
  · simp [same]
  · simp [same, beq_eq_false_iff_ne.2 same]

/-- Insertion changes the value of one name only. -/
theorem lookup_insertEntry
    (name other : String)
    (value : α)
    (entries : List (String × α)) :
    (insertEntry name value entries).lookup other =
      if other = name then some value else entries.lookup other := by
  induction entries with
  | nil => rw [insertEntry, lookup_entry]
  | cons first rest ih =>
    obtain ⟨key, held⟩ := first
    unfold insertEntry
    split
    · rw [lookup_entry]
    split
    case isTrue equal =>
      have equal : name = key := equal
      rw [lookup_entry, lookup_entry, ← equal]
      split <;> rfl
    case isFalse different =>
      have different : name ≠ key := different
      rw [lookup_entry, lookup_entry, ih]
      by_cases same : other = name
      · simp [same, different]
      · simp [same]

/-- Insertion keeps the entries in order. -/
theorem pairwise_insertEntry
    (name : String)
    (value : α)
    {entries : List (String × α)}
    (h : entries.Pairwise fun left right => left.1 < right.1) :
    (insertEntry name value entries).Pairwise fun left right =>
      left.1 < right.1 := by
  induction entries with
  | nil => simp [insertEntry]
  | cons first rest ih =>
    have ⟨before, tail⟩ := List.pairwise_cons.1 h
    unfold insertEntry
    split
    case isTrue less =>
      refine List.pairwise_cons.2 ⟨fun entry mem => ?_, h⟩
      rcases List.mem_cons.1 mem with rfl | mem
      · exact less
      · exact String.lt_trans less (before entry mem)
    case isFalse notLess =>
      split
      case isTrue equal =>
        exact List.pairwise_cons.2
          ⟨fun entry mem => equal ▸ before entry mem, tail⟩
      case isFalse different =>
        refine List.pairwise_cons.2 ⟨fun entry mem => ?_, ih tail⟩
        rcases mem_insertEntry mem with rfl | mem
        · exact Decidable.byContradiction fun notGreater =>
            different (String.le_antisymm notGreater notLess)
        · exact before entry mem

/-- The map with the value of one name set. -/
def insert
    (map : NameMap α)
    (name : String)
    (value : α) : NameMap α where
  entries := insertEntry name value map.entries
  ordered := pairwise_insertEntry name value map.ordered

@[simp] theorem get?_empty
    (name : String) :
    (empty : NameMap α).get? name = none := rfl

/-- The value of a name after an insertion. -/
theorem get?_insert
    (map : NameMap α)
    (name other : String)
    (value : α) :
    (map.insert name value).get? other = if other = name then
      some value else map.get? other :=
  lookup_insertEntry name other value map.entries

/-- The names of a map with their values are its entries. -/
theorem get?_eq_some_iff_mem
    {map : NameMap α}
    {name : String}
    {value : α} :
    map.get? name = some value ↔ (name, value) ∈ map.entries := by
  obtain ⟨entries, ordered⟩ := map
  change entries.lookup name = some value ↔ (name, value) ∈ entries
  induction entries with
  | nil => simp
  | cons first rest ih =>
    obtain ⟨key, held⟩ := first
    have ⟨before, tail⟩ := List.pairwise_cons.1 ordered
    rw [lookup_entry, List.mem_cons, Prod.mk.injEq]
    split
    case isTrue same =>
      subst same
      have absent : (name, value) ∉ rest := fun present =>
        String.lt_irrefl name (before (name, value) present)
      simp [absent, eq_comm]
    case isFalse different => simp [different, ih tail]

end NameMap

/-- A finite set of names, as a list in their strict order. -/
structure NameSet where
  names : List String
  ordered : names.Pairwise (· < ·)
deriving DecidableEq

namespace NameSet

/-- The set without names. -/
def empty : NameSet where
  names := []
  ordered := .nil

/-- Whether the name is in the set. -/
def contains
    (set : NameSet)
    (name : String) : Bool :=
  set.names.contains name

/-- Names with one more, in its place, unless it is there. -/
def insertName (name : String) : List String → List String
  | [] => [name]
  | first :: rest =>
    if name < first then name :: first :: rest
    else if name = first then first :: rest
    else first :: insertName name rest

@[simp] theorem mem_insertName
    {name other : String}
    {names : List String} :
    other ∈ insertName name names ↔ other = name ∨ other ∈ names := by
  induction names with
  | nil => simp [insertName]
  | cons first rest ih =>
    unfold insertName
    split
    · simp
    split
    · simp_all
    · simp [ih, or_left_comm]

/-- Insertion keeps the names in order. -/
theorem pairwise_insertName
    (name : String)
    {names : List String}
    (h : names.Pairwise (· < ·)) :
    (insertName name names).Pairwise (· < ·) := by
  induction names with
  | nil => simp [insertName]
  | cons first rest ih =>
    have ⟨before, tail⟩ := List.pairwise_cons.1 h
    unfold insertName
    split
    case isTrue less =>
      refine List.pairwise_cons.2 ⟨fun other mem => ?_, h⟩
      rcases List.mem_cons.1 mem with rfl | mem
      · exact less
      · exact String.lt_trans less (before other mem)
    case isFalse notLess =>
      split
      case isTrue => exact h
      case isFalse different =>
        refine List.pairwise_cons.2 ⟨fun other mem => ?_, ih tail⟩
        rcases mem_insertName.1 mem with rfl | mem
        · exact Decidable.byContradiction fun notGreater =>
            different (String.le_antisymm notGreater notLess)
        · exact before other mem

/-- The set with one more name. -/
def insert
    (set : NameSet)
    (name : String) : NameSet where
  names := insertName name set.names
  ordered := pairwise_insertName name set.ordered

/-- The set of the names in a list. -/
def ofList (names : List String) : NameSet :=
  names.foldl insert empty

@[simp] theorem contains_empty
    (name : String) :
    empty.contains name = false := rfl

@[simp] theorem contains_insert
    (set : NameSet)
    (name other : String) :
    (set.insert name).contains other =
      (other == name || set.contains other) := by
  rw [Bool.eq_iff_iff]
  simp [contains, insert]

/-- The set of a list has the names of the list. -/
@[simp] theorem contains_ofList
    (names : List String)
    (name : String) :
    (ofList names).contains name = names.contains name := by
  have member (set : NameSet) :
      (names.foldl insert set).contains name =
        (set.contains name || names.contains name) := by
    induction names generalizing set with
    | nil => simp
    | cons first rest ih =>
      rw [List.foldl_cons, ih, contains_insert, List.contains_cons,
        Bool.or_assoc, Bool.or_left_comm]
  exact member empty

end NameSet
end PreferenceSchema
