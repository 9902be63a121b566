import CrossQuery.Collection.Document
import CrossQuery.Json.Shape
import CrossQuery.Pattern.Reader
import CrossQuery.Request

/-!
# Matching documents

Filters over documents: conditions on fields, joined by connectives. A test has two answers only;
a comparison of order with null or across kinds is false.
-/

set_option autoImplicit false

namespace CrossQuery.Collection

/-- Whether a condition is made of operators, and not a value that the field must equal. -/
def isOperatorObject (entries : List (String × Json)) : Bool :=
  !entries.isEmpty && entries.all fun entry => isOperator entry.1

/-- Whether the order of a value against another one is among those wanted. -/
def ordered (value : Option Json) (other : Json) (wanted : Ordering → Bool) : Bool :=
  match (cellOf value).compare (.ofJson other) with
  | some ordering => wanted ordering
  | none => false

/-- Whether a value is one of those in a list. -/
def among (operator : String) (value : Option Json) : Json → Except Refusal Bool
  | .array items => .ok (items.any fun item => equals value item)
  | _ => .error (.arrayExpected operator)

/-- Whether a regular expression occurs in a value, which must be a text. -/
def matchesPattern (value : Option Json) : Json → Except Refusal Bool
  | .string pattern =>
    match Pattern.parse? pattern.toList with
    | some pattern =>
      .ok (((value.bind Json.text?).map fun text => pattern.occursIn text.toList).getD false)
    | none => .error .patternMalformed
  | _ => .error .patternShape

/-- Whether a value that may be missing satisfies an operator with an argument. -/
def satisfies (value : Option Json) (operator : String) (argument : Json) :
    Except Refusal Bool :=
  match operator with
  | "$eq" => .ok (equals value argument)
  | "$ne" => .ok !(equals value argument)
  | "$lt" => .ok (ordered value argument fun ordering => ordering == .lt)
  | "$lte" => .ok (ordered value argument fun ordering => ordering != .gt)
  | "$gt" => .ok (ordered value argument fun ordering => ordering == .gt)
  | "$gte" => .ok (ordered value argument fun ordering => ordering != .lt)
  | "$in" => among operator value argument
  | "$nin" => do return !(← among operator value argument)
  | "$regex" => matchesPattern value argument
  | "$exists" => .ok (value.isSome == (Json.readBool? argument).getD true)
  | other => .error (.noOperator other)

/-- Whether a value satisfies operators one after the other, up to the first that fails. -/
def satisfiesAll (value : Option Json) : List (String × Json) → Except Refusal Bool
  | [] => .ok true
  | (operator, argument) :: rest => do
    if ← satisfies value operator argument then satisfiesAll value rest else return false

/-- Whether the value of a field meets a condition. -/
def meets (value : Option Json) (condition : Json) : Except Refusal Bool :=
  match condition with
  | .object entries =>
    if isOperatorObject entries then satisfiesAll value entries
    else .ok (equals value condition)
  | _ => .ok (equals value condition)

/-- What joins the filters of a list. -/
inductive Connective where
  | and
  | or
  | nor
deriving DecidableEq

def Connective.name : Connective → String
  | .and => "$and"
  | .or => "$or"
  | .nor => "$nor"

def Connective.ofName? : String → Option Connective
  | "$and" => some .and
  | "$or" => some .or
  | "$nor" => some .nor
  | _ => none

/-- The answer of a connective to the answers of the filters that it joins. -/
def Connective.decide : Connective → List Bool → Bool
  | .and, answers => answers.all id
  | .or, answers => answers.any id
  | .nor, answers => !answers.any id

mutual

def passes (document : Document) : Json → Except Refusal Bool
  | .object entries => passesEntries document entries
  | _ => .error .filterShape

/-- Whether a document passes all entries of a filter, tested up to the first that fails. -/
def passesEntries (document : Document) : List (String × Json) → Except Refusal Bool
  | [] => .ok true
  | (name, condition) :: rest => do
    let passed ←
      match Connective.ofName? name with
      | some connective => do
        return connective.decide (← passesClauses document connective.name condition)
      | none =>
        if isOperator name then throw (.noConnective name)
        else meets (atPath? document name) condition
    if passed then passesEntries document rest else return false

/-- The answers of the filters in a list. -/
def passesClauses (document : Document) (operator : String) : Json → Except Refusal (List Bool)
  | .array clauses => passesEach document clauses
  | _ => .error (.arrayExpected operator)

def passesEach (document : Document) : List Json → Except Refusal (List Bool)
  | [] => .ok []
  | clause :: rest => do
    let answer ← passes document clause
    let answers ← passesEach document rest
    return answer :: answers

end

def keepPassing (filter : Json) : List Document → Except Refusal (List Document)
  | [] => .ok []
  | document :: rest => do
    let passed ← passes document filter
    let kept ← keepPassing filter rest
    return if passed then document :: kept else kept

end CrossQuery.Collection
