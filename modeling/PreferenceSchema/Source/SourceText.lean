import PreferenceSchema.Source.Harvest
import PreferenceSchema.Source.Reading

/-!
# From source text to declarations

The whole way from the text of a source to the declarations in it.  A text that
cannot be read has none; one that can be read has none if attributes in it are
wrong.
-/

namespace PreferenceSchema
namespace Source

/-- Why a source has no declarations. -/
inductive SourceError where
  /-- The text does not consist of items. -/
  | unreadable
  /-- Attributes are wrong, or stand where they cannot. -/
  | attributes (error : AttributeError)

namespace SourceDeclarations

/-- The declarations of a source in a package, given the items that were read
from it. -/
def ofRead
    (items : Option (List Item))
    (package : Option String) : Traced SourceError SourceDeclarations :=
  match items with
  | some items => (ofItems items package).mapError .attributes
  | none => Traced.fail .unreadable

/-- The declarations of a file in a package. -/
def ofFile
    (text : String)
    (package : Option String) : Traced SourceError SourceDeclarations :=
  ofRead (Item.listOfFile? text) package

/-- The declarations of items that stand in no file of their own, so that no
line in front of them names a program. -/
def ofText
    (text : String)
    (package : Option String) : Traced SourceError SourceDeclarations :=
  ofRead (Item.listOfText? text) package

@[simp] theorem outcome_ofRead_some
    (items : List Item)
    (package : Option String) :
    (ofRead (some items) package).outcome =
      (ofItems items package).outcome.mapError .attributes := rfl

end SourceDeclarations
end Source
end PreferenceSchema
