import PreferenceSchema.Text.Blank
import PreferenceSchema.Text.Segment

/-!
# Simple type names

A type is described by its name, which may be qualified with dots or double
colons.  The simple name is the last segment.
-/

namespace PreferenceSchema

/-- The last segment of a type name given by its characters. -/
def simpleTypeChars (descriptor : List Char) : List Char :=
  Text.afterLast ['.'] (Text.afterLast [':', ':'] (Text.trim descriptor))

/-- The last segment of a qualified type name, without the blanks around the
whole name. -/
def simpleTypeName (descriptor : String) : String :=
  String.ofList (simpleTypeChars descriptor.toList)

end PreferenceSchema
