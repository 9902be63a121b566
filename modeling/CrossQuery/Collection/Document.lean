import CrossQuery.Cell.Order
import CrossQuery.Failure
import CrossQuery.Text.Search

/-!
# Documents

Objects of JSON values, kept in collections. A missing field counts as null wherever a value is
compared.
-/

set_option autoImplicit false

namespace CrossQuery.Collection

/-- A document: fields in the order in which they were added. -/
abbrev Document := List (String × Json)

/-- Why a store refuses a pipeline. -/
inductive Refusal where
  | stageShape
  | noStage (name : String)
  | countExpected (stage : String)
  | filterShape
  | noConnective (name : String)
  | arrayExpected (operator : String)
  | patternShape
  | patternMalformed
  | noOperator (name : String)
  | sizeShape
  | noExpression (name : String)
  | groupShape
  | groupWithoutId
  | accumulatorShape (field : String)
  | noAccumulator (name : String)
  | sortShape
  | sortDirection (field : String)
  | projectShape
deriving DecidableEq

def Refusal.message : Refusal → String
  | .stageShape => "A pipeline stage specification must contain exactly one field"
  | .noStage name => "Unrecognized pipeline stage name: '" ++ name ++ "'"
  | .countExpected stage => stage ++ " requires a non-negative integer"
  | .filterShape => "$match filter must be an object"
  | .noConnective name => "unknown top level operator: " ++ name
  | .arrayExpected operator => operator ++ " must be an array"
  | .patternShape => "$regex has to be a string"
  | .patternMalformed => "invalid regular expression"
  | .noOperator name => "unknown operator: " ++ name
  | .sizeShape => "The argument to $size must be an array"
  | .noExpression name => "Unrecognized expression '" ++ name ++ "'"
  | .groupShape => "a group's fields must be specified in an object"
  | .groupWithoutId => "a group specification must include an _id"
  | .accumulatorShape field => "The field '" ++ field ++ "' must be an accumulator object"
  | .noAccumulator name => "unknown group operator '" ++ name ++ "'"
  | .sortShape => "$sort key specification must be an object"
  | .sortDirection field => "$sort key ordering must be 1 or -1 for '" ++ field ++ "'"
  | .projectShape => "$project specification must be an object"

def Refusal.failure (refusal : Refusal) : Failure :=
  .execution refusal.message

/-- Whether a name begins with the dollar sign that marks operators and paths. -/
def isOperator (name : String) : Bool :=
  name.toList.head? == some '$'

/-- The value at the end of a path of field names. -/
def follow (value : Json) : List String → Option Json
  | [] => some value
  | name :: rest =>
    match value with
    | .object entries =>
      match Json.lookup? name entries with
      | some inner => follow inner rest
      | none => none
    | _ => none

/-- The value of a document at a path of field names with dots between them. -/
def atPath? (document : Document) (path : String) : Option Json :=
  follow (.object document) ((Text.splitAt '.' path.toList).map String.ofList)

/-- The cell of a value that may be missing. -/
def cellOf (value : Option Json) : Cell :=
  match value with
  | some value => .ofJson value
  | none => .null

/-- Whether a value that may be missing equals another one. Numbers are equal across widths, and
values without an order only to the same data. -/
def equals (value : Option Json) (other : Json) : Bool :=
  let left := cellOf value
  let right := Cell.ofJson other
  match left.isNull, right.isNull with
  | true, true => true
  | false, false =>
    match left.compare right with
    | some ordering => ordering == .eq
    | none => value.any fun value => value.same other
  | _, _ => false

/-- Collections of documents under their names. -/
structure Store where
  collections : List (String × List Document)

namespace Store

def empty : Store :=
  ⟨[]⟩

/-- The documents of a collection. One that is not there has none. -/
def documents (store : Store) (name : String) : List Document :=
  (store.collections.lookup name).getD []

def insert (store : Store) (name : String) (document : Document) : Store :=
  if (store.collections.lookup name).isSome then
    ⟨store.collections.map fun entry =>
      if entry.1 = name then (name, entry.2 ++ [document]) else entry⟩
  else
    ⟨store.collections ++ [(name, [document])]⟩

def insertAll (store : Store) (name : String) (documents : List Document) : Store :=
  documents.foldl (fun store document => store.insert name document) store

/-- The names of the collections in ascending order. -/
def names (store : Store) : List String :=
  (store.collections.map Prod.fst).mergeSort fun left right => decide (left ≤ right)

end Store

end CrossQuery.Collection
