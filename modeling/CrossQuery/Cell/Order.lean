import CrossQuery.Cell

/-!
# Order of cells

The comparison of a query, which has no answer for nulls and for values of different kinds; the
total order by which rows are sorted; and the keys under which rows are grouped.
-/

set_option autoImplicit false

namespace CrossQuery.Cell

/-- The order of two floats. What is not a number has none. -/
def compareFloats (left right : Float) : Option Ordering :=
  if left < right then some .lt
  else if right < left then some .gt
  else if left == right then some .eq
  else none

/-- The order of two cells of one kind that is neither null nor a number. -/
def compareKinds : Cell → Cell → Option Ordering
  | .bool left, .bool right => some (Ord.compare left right)
  | .date left, .date right => some (left.compare right)
  | .timestamp left, .timestamp right => some (left.compare right)
  | .moment left, .moment right => some (left.compare right)
  | left, right =>
    match left.text?, right.text? with
    | some left, some right => some (Ord.compare left right)
    | _, _ => none

/-- The order of two cells. There is none with a null and between different kinds. Integers are
compared exactly, other numbers as floats. -/
def compare (left right : Cell) : Option Ordering :=
  if left.isNull || right.isNull then none
  else
    match left.integer?, right.integer? with
    | some left, some right => some (Ord.compare left right)
    | _, _ =>
      match left.number?, right.number? with
      | some left, some right => compareFloats left right
      | _, _ => compareKinds left right

/-- The order of rows by a cell: nulls come first, and cells without an order are put in the
order of the texts that show them. -/
def sortCompare (left right : Cell) : Ordering :=
  match left.isNull, right.isNull with
  | true, true => .eq
  | true, false => .lt
  | false, true => .gt
  | false, false => (left.compare right).getD (Ord.compare left.display right.display)

/-- A text read as a date or timestamp, whichever the other cell holds. -/
def readLike? (cell like : Cell) : Option Cell :=
  cell.text?.bind fun text =>
    match like with
    | .date _ => (Calendar.readDate? text.toList).map .date
    | .timestamp _ => (Calendar.readTimestamp? text.toList).map .timestamp
    | _ => none

/-- The bound below which a float that is whole shares its group with the integer. -/
def wholeGroupBound : Nat := 9000000000000000

def floatGroupKey (value : Float) : String :=
  match Decimal.wholeOfFloat? value with
  | some whole =>
    if whole.natAbs < wholeGroupBound then "n:" ++ integerText whole
    else "f:" ++ Decimal.Notation.display.floatText value
  | none => "f:" ++ Decimal.Notation.display.floatText value

/-- The key under which a cell is grouped. Numbers share a key across widths. -/
def groupKey (cell : Cell) : String :=
  if cell.isNull then "\x00null"
  else
    match cell.integer? with
    | some value => "n:" ++ integerText value
    | none =>
      match cell.number? with
      | some value => floatGroupKey value
      | none => "s:" ++ cell.display

end CrossQuery.Cell
