import CrossQuery.Plan
import CrossQuery.Text.Casing

/-!
# Capabilities

What sets the kinds of stores apart for the compiler and for the description of results: foreign
keys, the width of identifiers, and the spelling of names.
-/

set_option autoImplicit false

namespace CrossQuery

inductive IdentifierWidth where
  | narrow
  | wide
deriving DecidableEq

def IdentifierWidth.name : IdentifierWidth → String
  | .narrow => "narrow"
  | .wide => "wide"

/-- The storage type of identifiers of a width. -/
def IdentifierWidth.baseType : IdentifierWidth → BaseType
  | .narrow => .integer
  | .wide => .bigInteger

/-- How a store spells the names in its results. -/
inductive Naming where
  | upperCase
  | lowerCase
  /-- Names as in the catalog, and `_id` for the primary key. -/
  | documentKeys
deriving DecidableEq

namespace Naming

/-- The name of a convention. -/
def name : Naming → String
  | .upperCase => "upper_case"
  | .lowerCase => "lower_case"
  | .documentKeys => "document_keys"

def spell (naming : Naming) (name : String) : String :=
  match naming with
  | .upperCase => String.ofList (Text.upper name.toList)
  | .lowerCase => String.ofList (Text.lower name.toList)
  | .documentKeys => name

def spellField (naming : Naming) (field : Field) : String :=
  if naming = .documentKeys ∧ field.isPrimaryKey = true then "_id"
  else naming.spell field.name

/-- A name behind a separator of underscores is spelled part by part. -/
theorem spell_separated (naming : Naming) (left right : String) :
    naming.spell (left ++ "__" ++ right) = naming.spell left ++ "__" ++ naming.spell right := by
  have chars : (left ++ "__" ++ right).toList = left.toList ++ '_' :: '_' :: right.toList := by
    simp
  have separated (before after : List Char) :
      String.ofList (before ++ '_' :: '_' :: after) =
        String.ofList before ++ "__" ++ String.ofList after := by
    rw [← String.toList_inj]
    simp
  cases naming with
  | upperCase =>
      have image (rest : List Char) : Text.upper ('_' :: rest) = '_' :: Text.upper rest := by rfl
      rw [spell, chars, Text.upper_append, image, image, separated]
      rfl
  | lowerCase =>
      have image : Text.lower ('_' :: right.toList) = '_' :: Text.lower right.toList :=
        Text.lower_append_underscore [] right.toList
      rw [spell, chars, Text.lower_append_underscore, image, separated]
      rfl
  | documentKeys => rfl

end Naming

structure Capabilities where
  supportsForeignKeys : Bool
  identifierWidth : IdentifierWidth
  naming : Naming
deriving DecidableEq

def Capabilities.toJson (capabilities : Capabilities) : Json :=
  .object
    [("supports_foreign_keys", .bool capabilities.supportsForeignKeys),
      ("identifier_width", .string capabilities.identifierWidth.name),
      ("naming", .string capabilities.naming.name)]

/-- The name of a column of the result. A field that is reached through a foreign key carries the
name of the key in front of its own. -/
def Capabilities.columnName (capabilities : Capabilities) : PlanColumn → String
  | .field field =>
    match field.via with
    | some key => capabilities.naming.spell (key.name ++ "__" ++ field.field.name)
    | none => capabilities.naming.spellField field.field
  | .aggregate kind _ => kind.columnName

end CrossQuery
