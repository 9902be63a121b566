import CrossQuery.Collection.Group
import CrossQuery.Collection.Match

/-!
# Pipelines over collections

Stages that filter, group, order, cut and project documents, run one after the other.
-/

set_option autoImplicit false

namespace CrossQuery.Collection

/-- A field that documents are ordered by. -/
structure SortField where
  path : String
  ascending : Bool
deriving DecidableEq

/-- A field of an order, with one for ascending and minus one for descending. -/
def readSortField (entry : String × Json) : Except Refusal SortField :=
  match entry.2 with
  | .whole 1 => .ok ⟨entry.1, true⟩
  | .whole (-1) => .ok ⟨entry.1, false⟩
  | _ => .error (.sortDirection entry.1)

def readSort : Json → Except Refusal (List SortField)
  | .object entries => entries.mapM readSortField
  | _ => .error .sortShape

def SortField.compare (field : SortField) (left right : Document) : Ordering :=
  let ordering := (cellOf (atPath? left field.path)).sortCompare (cellOf (atPath? right field.path))
  if field.ascending then ordering else ordering.swap

/-- The order of two documents by fields, of which the first that tells them apart decides. -/
def compareDocuments (left right : Document) : List SortField → Ordering
  | [] => .eq
  | field :: rest => (field.compare left right).then (compareDocuments left right rest)

/-- Documents in the order of fields. Documents that tie keep their order. -/
def sortDocuments (documents : List Document) (fields : List SortField) : List Document :=
  documents.mergeSort fun left right => compareDocuments left right fields != .gt

/-- What a projection does with a field. -/
inductive Projected where
  | leftOut
  /-- The value of the field of that name. -/
  | kept
  | computed (expression : Json)

/-- What a projection does with a field, by the value that it gives for the field. -/
def Projected.ofJson : Json → Projected
  | .bool false => .leftOut
  | .whole 0 => .leftOut
  | .bool true | .whole _ | .real _ => .kept
  | expression => .computed expression

/-- The fields that entries of a projection yield on a document. -/
def projectEntries (document : Document) :
    List (String × Json) → Except Refusal Document
  | [] => .ok []
  | (name, choice) :: rest => do
    let value ←
      match Projected.ofJson choice with
      | .leftOut => .ok none
      | .kept => .ok (atPath? document name)
      | .computed expression => evaluate document expression
    let others ← projectEntries document rest
    return match value with
      | some value => (name, value) :: others
      | none => others

/-- The identifier of a document, which a projection keeps unless it says otherwise. -/
def keptId (document : Document) (entries : List (String × Json)) : Document :=
  match Json.lookup? "_id" entries, Json.lookup? "_id" document with
  | none, some id => [("_id", id)]
  | _, _ => []

def project (specification : Json) (document : Document) : Except Refusal Document :=
  match specification with
  | .object entries => do
    return keptId document entries ++ (← projectEntries document entries)
  | _ => .error .projectShape

/-- The number that a stage is given. -/
def readCount (stage : String) (value : Json) : Except Refusal Nat :=
  match Json.readUnsigned? 64 value with
  | some count => .ok count
  | none => .error (.countExpected stage)

/-- The documents behind a stage. -/
def runStage (documents : List Document) : Json → Except Refusal (List Document)
  | .object [(name, specification)] =>
    match name with
    | "$match" => keepPassing specification documents
    | "$group" => groupDocuments documents specification
    | "$sort" => do return sortDocuments documents (← readSort specification)
    | "$skip" => do return documents.drop (← readCount name specification)
    | "$limit" => do return documents.take (← readCount name specification)
    | "$project" => documents.mapM (project specification)
    | other => .error (.noStage other)
  | _ => .error .stageShape

/-- The documents that a pipeline makes of a collection. -/
def Store.aggregate (store : Store) (collection : String) (stages : List Json) :
    Except Refusal (List Document) :=
  stages.foldlM runStage (store.documents collection)

end CrossQuery.Collection
