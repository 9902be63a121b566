import CrossQuery.Collection.Document
import CrossQuery.Grouping
import CrossQuery.Json.Shape

/-!
# Grouping documents

Expressions over documents, the accumulators that sum up the values of a group, and the stage that
makes one document of each group.
-/

set_option autoImplicit false

namespace CrossQuery.Collection

/-- The value of a path expression, or of a constant text. -/
def evaluateText (document : Document) (text : String) : Option Json :=
  match text.toList with
  | '$' :: path => atPath? document (String.ofList path)
  | _ => some (.string text)

/-- The number of items of an array. -/
def sizeOf? : Option Json → Except Refusal (Option Json)
  | some (.array items) => .ok (some (Json.ofNat items.length))
  | _ => .error .sizeShape

mutual

/-- The value of an expression on a document, if there is one. -/
def evaluate (document : Document) : Json → Except Refusal (Option Json)
  | .string text => .ok (evaluateText document text)
  | .object [("$size", inner)] => do sizeOf? (← evaluate document inner)
  | .object entries => do return some (.object (← evaluateEntries document entries))
  | constant => .ok (some constant)

/-- The values of the entries of an object. What is missing becomes null. -/
def evaluateEntries (document : Document) :
    List (String × Json) → Except Refusal (List (String × Json))
  | [] => .ok []
  | (name, expression) :: rest => do
    if isOperator name then throw (.noExpression name)
    let value ← evaluate document expression
    let others ← evaluateEntries document rest
    return (name, value.getD .null) :: others

end

/-- What sums up the values of a group. -/
inductive Accumulator where
  | sum
  | average
  | least
  | greatest
  /-- The values, each once. -/
  | set
deriving DecidableEq

def Accumulator.ofName? : String → Option Accumulator
  | "$sum" => some .sum
  | "$avg" => some .average
  | "$min" => some .least
  | "$max" => some .greatest
  | "$addToSet" => some .set
  | _ => none

/-- A sum, which becomes a float once it does not fit 64 bits or meets a float. -/
inductive Total where
  | whole (value : Int)
  | real (value : Float)

/-- The sum with another cell. What is not a number does not count. -/
def Total.add (total : Total) (cell : Cell) : Total :=
  match total, cell.integer?, cell.number? with
  | .whole sum, some value, _ =>
    if Cell.fitsInt64 (sum + value) then .whole (sum + value)
    else .real (Float.ofInt sum + Float.ofInt value)
  | .whole sum, none, some value => .real (Float.ofInt sum + value)
  | .real sum, _, some value => .real (sum + value)
  | total, _, none => total

def Total.toJson : Total → Json
  | .whole value => .whole value
  | .real value => Cell.realJson value

/-- The sum of the numbers among cells, which is null without any. -/
def sumJson (cells : List Cell) : Json :=
  if cells.any fun cell => cell.number?.isSome then
    (cells.foldl Total.add (.whole 0)).toJson
  else .null

/-- The mean of the numbers among cells, which is null without any. -/
def averageJson (cells : List Cell) : Json :=
  match cells.filterMap Cell.number? with
  | [] => .null
  | numbers =>
    Cell.realJson (numbers.foldl (fun total value => total + value) 0.0 /
      Float.ofNat numbers.length)

/-- The first cell that no other one precedes in the wanted direction. -/
def extremeJson (wanted : Ordering) : List Cell → Json
  | [] => .null
  | first :: rest =>
    (rest.foldl (fun best cell => if cell.sortCompare best == wanted then cell else best)
      first).toJson

/-- The values that differ in the key under which they are grouped, each once. -/
def distinctJson (values : List Json) : Json :=
  .array (Grouping.firsts (fun value => (Cell.ofJson value).groupKey) values)

/-- The result of an accumulator for values, of which null does not count. -/
def Accumulator.apply (accumulator : Accumulator) (values : List Json) : Json :=
  let values := values.filter fun value => !value.isNull
  match accumulator with
  | .sum => sumJson (values.map Cell.ofJson)
  | .average => averageJson (values.map Cell.ofJson)
  | .least => extremeJson .lt (values.map Cell.ofJson)
  | .greatest => extremeJson .gt (values.map Cell.ofJson)
  | .set => distinctJson values

mutual

/-- The key under which a value is grouped. The key of an object is made of those of its
entries. -/
def groupKey : Json → String
  | .object entries => "\x7b" ++ String.intercalate "," (groupKeys entries) ++ "\x7d"
  | value => (Cell.ofJson value).groupKey

/-- The keys of entries, each behind its name. -/
def groupKeys : List (String × Json) → List String
  | [] => []
  | (name, value) :: rest => (name ++ "=" ++ groupKey value) :: groupKeys rest

end

/-- A field of the result of a group: the name of its accumulator, and what it sums up. -/
structure Output where
  name : String
  accumulator : String
  argument : Json

structure GroupSpec where
  id : Json
  outputs : List Output

def readOutput (entry : String × Json) : Except Refusal Output :=
  match entry.2 with
  | .object [(accumulator, argument)] => .ok ⟨entry.1, accumulator, argument⟩
  | _ => .error (.accumulatorShape entry.1)

def readGroup : Json → Except Refusal GroupSpec
  | .object entries =>
    match Json.lookup? "_id" entries with
    | some id => do
      return ⟨id, ← (entries.filter fun entry => entry.1 != "_id").mapM readOutput⟩
    | none => .error .groupWithoutId
  | _ => .error .groupShape

def Output.accumulate (output : Output) : Except Refusal Accumulator :=
  match Accumulator.ofName? output.accumulator with
  | some accumulator => .ok accumulator
  | none => .error (.noAccumulator output.accumulator)

/-- What a document contributes to an output of its group. -/
structure Share where
  name : String
  accumulator : Accumulator
  value : Json

/-- What a document contributes: the identifier of its group, and a share of each output. -/
structure Contribution where
  id : Json
  shares : List Share

def Output.share (document : Document) (output : Output) (accumulator : Accumulator) :
    Except Refusal Share := do
  return ⟨output.name, accumulator, (← evaluate document output.argument).getD .null⟩

def GroupSpec.contribution (spec : GroupSpec) (document : Document) :
    Except Refusal Contribution := do
  let id ← evaluate document spec.id
  let accumulators ← spec.outputs.mapM Output.accumulate
  let shares ← (spec.outputs.zip accumulators).mapM fun (output, accumulator) =>
    output.share document accumulator
  return ⟨id.getD .null, shares⟩

/-- The fields of the result of a group, given the shares of its first member and of all. -/
def resultFields : List Share → List (List Share) → Document
  | [], _ => []
  | first :: rest, members =>
    let values := members.filterMap fun shares => shares.head?.map Share.value
    (first.name, first.accumulator.apply values) :: resultFields rest (members.map List.tail)

def groupResult (group : Contribution × List Contribution) : Document :=
  ("_id", group.1.id) :: resultFields group.1.shares (group.2.map Contribution.shares)

def groupDocuments (documents : List Document) (specification : Json) :
    Except Refusal (List Document) := do
  let spec ← readGroup specification
  let contributions ← documents.mapM spec.contribution
  return (Grouping.groups (fun contribution => groupKey contribution.id) contributions).map
    groupResult

end CrossQuery.Collection
