import CrossQuery.Cell.Order
import CrossQuery.Pattern.Like
import CrossQuery.Relational.Database
import CrossQuery.Truth

/-!
# Operations on cells

The operators of statements, with three truth values: a comparison with null is unknown. Texts are
compared with dates and timestamps by reading them as such.
-/

set_option autoImplicit false

namespace CrossQuery.Relational

def cellOfTruth : Truth → Cell
  | .yes => .bool true
  | .no => .bool false
  | .unknown => .null

def truthOfCell : Cell → Except Refusal Truth
  | .null => .ok .unknown
  | .bool value => .ok (.ofBool value)
  | cell => .error (.notTruth cell)

/-- The order of two cells, where a text stands for the date or timestamp that it spells. -/
def compareCells (left right : Cell) : Option Ordering :=
  match left.compare right with
  | some ordering => some ordering
  | none =>
    match left.readLike? right, right.readLike? left with
    | some left, _ => left.compare right
    | none, some right => left.compare right
    | none, none => none

/-- Whether an ordering answers a comparison with yes. -/
def admits : Comparison → Ordering → Bool
  | .equal, ordering => ordering == .eq
  | .notEqual, ordering => ordering != .eq
  | .less, ordering => ordering == .lt
  | .lessOrEqual, ordering => ordering != .gt
  | .greater, ordering => ordering == .gt
  | .greaterOrEqual, ordering => ordering != .lt

/-- A comparison, which is unknown with null on a side. -/
def compareTruth (comparison : Comparison) (left right : Cell) : Except Refusal Truth :=
  if left.isNull || right.isNull then .ok .unknown
  else
    match compareCells left right with
    | some ordering => .ok (.ofBool (admits comparison ordering))
    | none => .error (.incomparable left right)

/-- The text of a cell: its own, or else the one that shows it. -/
def textOf (cell : Cell) : String :=
  cell.text?.getD cell.display

/-- Whether a cell is like a pattern. -/
def likeTruth (cell pattern : Cell) : Except Refusal Truth :=
  if cell.isNull || pattern.isNull then .ok .unknown
  else
    match pattern.text? with
    | some like => .ok (.ofBool (Like.holds like.toList (textOf cell).toList))
    | none => .error .notPattern

/-- The truth value of an operator between two cells. -/
def operate : Select.BinaryOperator → Cell → Cell → Except Refusal Truth
  | .compare comparison, left, right => compareTruth comparison left right
  | .and, left, right => do
    let left ← truthOfCell left
    let right ← truthOfCell right
    return left.and right
  | .or, left, right => do
    let left ← truthOfCell left
    let right ← truthOfCell right
    return left.or right
  | .like, left, right => likeTruth left right
  | .notLike, left, right => do return (← likeTruth left right).not

/-- A number with its sign changed. Integers of all widths become 64 bits wide. -/
def negate : Cell → Except Refusal Cell
  | .null => .ok .null
  | .float32 value => .ok (.float32 (-value))
  | .float64 value => .ok (.float64 (-value))
  | cell =>
    match cell.integer? with
    | some value =>
      if Cell.fitsInt64 (-value) then .ok (.int64 (Int64.ofInt (-value)))
      else .error (.notNegatable cell)
    | none => .error (.notNegatable cell)

/-- An operator in front of a cell. -/
def operateUnary : Select.UnaryOperator → Cell → Except Refusal Cell
  | .not, cell => do return cellOfTruth (← truthOfCell cell).not
  | .minus, cell => negate cell

/-- Whether a cell is among others. It is unknown for null, and where only null could be it. -/
def memberTruth (cell : Cell) (items : List Cell) : Truth :=
  if cell.isNull then .unknown
  else if items.any fun item => compareCells cell item == some .eq then .yes
  else if items.any Cell.isNull then .unknown
  else .no

/-- Whether a cell lies between two others, or does not. -/
def betweenTruth (cell least greatest : Cell) (negated : Bool) : Except Refusal Truth := do
  let above ← compareTruth .greaterOrEqual cell least
  let below ← compareTruth .lessOrEqual cell greatest
  let within := above.and below
  return if negated then within.not else within

/-- The integer that a cell converts to: a float loses its fraction, and a text is read. -/
def toInteger (cell : Cell) : Except Refusal Int :=
  match cell.integer?, cell.number? with
  | some value, _ => .ok value
  | none, some value =>
    .ok (Decimal.clampedTruncation (-9223372036854775808) 9223372036854775807 value)
  | none, none =>
    match cell.text?.bind fun text => Text.readInt? (Text.trim text.toList) with
    | some value => if Cell.fitsInt64 value then .ok value else .error (.notConvertible cell)
    | none => .error (.notConvertible cell)

def toFloat (cell : Cell) : Except Refusal Float :=
  match cell.number? with
  | some value => .ok value
  | none =>
    match cell.text?.bind fun text =>
        Decimal.readFloat? (String.ofList (Text.trim text.toList)) with
    | some value => .ok value
    | none => .error (.notConvertible cell)

def toDate (cell : Cell) : Except Refusal Cell :=
  match cell with
  | .date value => .ok (.date value)
  | .timestamp value => .ok (.date value.date)
  | cell =>
    match cell.text?.bind fun text => Calendar.readDate? text.toList with
    | some value => .ok (.date value)
    | none => .error (.notConvertible cell)

/-- The timestamp that a cell converts to. A date stands for its midnight. -/
def toTimestamp (cell : Cell) : Except Refusal Cell :=
  match cell with
  | .timestamp value => .ok (.timestamp value)
  | .date value => .ok (.timestamp ⟨value, .midnight⟩)
  | cell =>
    match cell.text?.bind fun text => Calendar.readTimestamp? text.toList with
    | some value => .ok (.timestamp value)
    | none => .error (.notConvertible cell)

/-- The conversion of a cell to the type of the given name. Null is of every type. -/
def convert (cell : Cell) (type : String) : Except Refusal Cell :=
  if cell.isNull then .ok .null
  else
    match type with
    | "BIGINT" => do return .int64 (Int64.ofInt (← toInteger cell))
    | "INTEGER" | "INT" => do
      let value ← toInteger cell
      if Cell.fitsInt32 value then return .int32 (Int32.ofInt value) else throw .outOfRange
    | "DOUBLE PRECISION" | "DOUBLE" | "FLOAT" | "REAL" => do return .float64 (← toFloat cell)
    | "DATE" => toDate cell
    | "TIMESTAMP" => toTimestamp cell
    | "VARCHAR" | "TEXT" => .ok (.text (textOf cell))
    | other => .error (.noType other)

end CrossQuery.Relational
