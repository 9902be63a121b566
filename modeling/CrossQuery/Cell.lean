import CrossQuery.Calendar.Reader
import CrossQuery.Decimal.Reading
import CrossQuery.Json.Writer

/-!
# Cells

The values of result rows. A cell keeps the width in which a store holds its number, so that a
reader sees what the store returned; its JSON form drops the width.
-/

set_option autoImplicit false

namespace CrossQuery

/-- A value in a row. -/
inductive Cell where
  | null
  | bool (value : Bool)
  | int16 (value : Int16)
  | int32 (value : Int32)
  | int64 (value : Int64)
  | float32 (value : Float32)
  | float64 (value : Float)
  | text (value : String)
  | bytes (value : List UInt8)
  | date (value : Date)
  | time (value : TimeOfDay)
  | timestamp (value : Timestamp)
  | moment (value : Moment)
  | json (value : Json)
  | array (items : List Cell)
  /-- A value of a type without a form of its own, by its text. -/
  | unknown (value : String)
deriving Inhabited

namespace Cell

def isNull : Cell → Bool
  | .null => true
  | _ => false

def integer? : Cell → Option Int
  | .int16 value => some value.toInt
  | .int32 value => some value.toInt
  | .int64 value => some value.toInt
  | _ => none

/-- The number in a cell. Integers become the nearest float. -/
def number? : Cell → Option Float
  | .float32 value => some value.toFloat
  | .float64 value => some value
  | cell => cell.integer?.map Float.ofInt

def text? : Cell → Option String
  | .text value => some value
  | .unknown value => some value
  | _ => none

def integerText (value : Int) : String :=
  String.ofList (Text.writeInt value)

mutual

def display : Cell → String
  | .null => "NULL"
  | .bool value => if value then "true" else "false"
  | .int16 value => integerText value.toInt
  | .int32 value => integerText value.toInt
  | .int64 value => integerText value.toInt
  | .float32 value => Decimal.Notation.display.float32Text value
  | .float64 value => Decimal.Notation.display.floatText value
  | .text value => value
  | .bytes value => "[" ++ integerText value.length ++ " bytes]"
  | .date value => String.ofList value.write
  | .time value => String.ofList value.write
  | .timestamp value => String.ofList value.write
  | .moment value => String.ofList value.write
  | .json value => value.compact
  | .array items => "\x7b" ++ displayItems items ++ "\x7d"
  | .unknown value => value

/-- The texts of several cells with commas between them. -/
def displayItems : List Cell → String
  | [] => ""
  | [item] => item.display
  | item :: rest => item.display ++ ", " ++ displayItems rest

end

/-- A float as JSON; what is not finite is null. -/
def realJson (value : Float) : Json :=
  match Decimal.Binary.ofFloat value with
  | .finite _ _ => .real value
  | _ => .null

mutual

def toJson : Cell → Json
  | .null => .null
  | .bool value => .bool value
  | .int16 value => .whole value.toInt
  | .int32 value => .whole value.toInt
  | .int64 value => .whole value.toInt
  | .float32 value => realJson value.toFloat
  | .float64 value => realJson value
  | .text value => .string value
  | .bytes value => .array (value.map fun byte => .whole byte.toNat)
  | .date value => .string (String.ofList value.write)
  | .time value => .string (String.ofList value.write)
  | .timestamp value => .string (String.ofList value.write)
  | .moment value => .string (String.ofList value.writeWithOffset)
  | .json value => value
  | .array items => .array (toJsonItems items)
  | .unknown value => .string value

def toJsonItems : List Cell → List Json
  | [] => []
  | item :: rest => item.toJson :: toJsonItems rest

end

def fitsInt32 (value : Int) : Bool :=
  -2147483648 ≤ value && value < 2147483648

def fitsInt64 (value : Int) : Bool :=
  -9223372036854775808 ≤ value && value < 9223372036854775808

mutual

/-- The cell of a JSON value. Whole numbers are held in 64 bits where they fit. -/
def ofJson : Json → Cell
  | .null => .null
  | .bool value => .bool value
  | .whole value =>
    if fitsInt64 value then .int64 (Int64.ofInt value) else .float64 (Float.ofInt value)
  | .real value => .float64 value
  | .string value => .text value
  | .array items => .array (ofJsonItems items)
  | .object entries => .json (.object entries)

def ofJsonItems : List Json → List Cell
  | [] => []
  | item :: rest => ofJson item :: ofJsonItems rest

end

mutual

/-- Whether two cells hold the same value in the same width. What is not a number is not the same
as itself. -/
def same : Cell → Cell → Bool
  | .null, .null => true
  | .bool left, .bool right => left == right
  | .int16 left, .int16 right => left == right
  | .int32 left, .int32 right => left == right
  | .int64 left, .int64 right => left == right
  | .float32 left, .float32 right => left == right
  | .float64 left, .float64 right => left == right
  | .text left, .text right => left == right
  | .bytes left, .bytes right => left == right
  | .date left, .date right => left == right
  | .time left, .time right => left == right
  | .timestamp left, .timestamp right => left == right
  | .moment left, .moment right => left == right
  | .json left, .json right => left.same right
  | .array left, .array right => sameItems left right
  | .unknown left, .unknown right => left == right
  | _, _ => false

/-- Whether two lists hold the same cells at the same places. -/
def sameItems : List Cell → List Cell → Bool
  | [], [] => true
  | left :: leftRest, right :: rightRest => same left right && sameItems leftRest rightRest
  | _, _ => false

end

@[simp] theorem isNull_null : isNull .null = true := rfl

theorem isNull_eq_true_iff {cell : Cell} : cell.isNull = true ↔ cell = .null := by
  cases cell <;> simp [isNull]

end Cell

end CrossQuery
