import CrossQuery.Json

/-!
# Values of a given shape

Readers from JSON values to typed data. A record is written as an object, whose unknown entries
are ignored and whose known ones may not be repeated, or as an array with its fields in order.
-/

set_option autoImplicit false

namespace CrossQuery.Json

/-- What a written record has in the place of one field. -/
inductive Slot where
  | value (value : Json)
  /-- The record is an object that leaves the field out. -/
  | absent
  /-- The record is an array that ends before the field. -/
  | beyond

/-- A written record, by the names of its fields. -/
structure Record where
  slot : String → Slot

/-- Whether no field of the given names occurs twice. -/
def namesOnce (names : List String) (entries : List (String × Json)) : Bool :=
  names.all fun name => (entries.filter (·.1 == name)).length ≤ 1

/-- The slot of a field among the entries of an object. -/
def slotOfEntry (entries : List (String × Json)) (name : String) : Slot :=
  match lookup? name entries with
  | some value => .value value
  | none => .absent

/-- The slot of a field among items that are listed in the order of the names. -/
def slotOfItem : List String → List Json → String → Slot
  | first :: names, item :: items, name =>
    if first = name then .value item else slotOfItem names items name
  | _, _, _ => .beyond

/-- A value as a record with the given fields. -/
def record? (names : List String) : Json → Option Record
  | .object entries =>
    if namesOnce names entries then some ⟨slotOfEntry entries⟩ else none
  | .array items =>
    if items.length ≤ names.length then some ⟨slotOfItem names items⟩ else none
  | _ => none

/-- A field that must be present. -/
def Record.required {α : Type} (record : Record) (name : String) (read : Json → Option α) :
    Option α :=
  match record.slot name with
  | .value value => read value
  | _ => none

/-- A field with a value that stands in when it is left out. -/
def Record.defaulted {α : Type} (record : Record) (name : String) (default : α)
    (read : Json → Option α) : Option α :=
  match record.slot name with
  | .value value => read value
  | _ => some default

/-- A reader that takes null for the absence of a value. -/
def nullable {α : Type} (read : Json → Option α) : Json → Option (Option α)
  | .null => some none
  | value => (read value).map some

/-- A field that an object may leave out or set to null. An array has to list it. -/
def Record.optional {α : Type} (record : Record) (name : String) (read : Json → Option α) :
    Option (Option α) :=
  match record.slot name with
  | .value value => nullable read value
  | .absent => some none
  | .beyond => none

def readText? : Json → Option String
  | .string text => some text
  | _ => none

def readBool? : Json → Option Bool
  | .bool value => some value
  | _ => none

/-- A whole number between two bounds. -/
def readWhole? (least greatest : Int) : Json → Option Int
  | .whole value => if least ≤ value ∧ value ≤ greatest then some value else none
  | _ => none

/-- A signed number of 64 bits. -/
def readInt64? : Json → Option Int :=
  readWhole? (-9223372036854775808) 9223372036854775807

/-- An unsigned number of the given number of bits. -/
def readUnsigned? (bits : Nat) (value : Json) : Option Nat :=
  (readWhole? 0 (Nat.pow 2 bits - 1) value).map Int.toNat

/-- A list of values of one shape. -/
def readList? {α : Type} (read : Json → Option α) : Json → Option (List α)
  | .array items => items.mapM read
  | _ => none

/-- One of several named values: its name, or an object with the name as its only key and null
as its value. -/
def readChoice? {α : Type} (choices : List (String × α)) : Json → Option α
  | .string name => (choices.find? (·.1 == name)).map (·.2)
  | .object [(name, .null)] => (choices.find? (·.1 == name)).map (·.2)
  | _ => none

/-- A tag and what stands beside it: the entry with the given key and the other entries of an
object, or the first item and the other items of an array. -/
def tagged? (key : String) : Json → Option (Json × Json)
  | .object entries =>
    match entries.filter (·.1 == key) with
    | [(_, tag)] => some (tag, .object (entries.filter (·.1 != key)))
    | _ => none
  | .array (tag :: rest) => some (tag, .array rest)
  | _ => none

/-- Any value, with repeated keys merged. -/
def readAny? (value : Json) : Option Json :=
  some value.normalise

/-- A value, or null in its absence. -/
def ofOption {α : Type} (write : α → Json) : Option α → Json
  | some value => write value
  | none => .null

def ofNat (value : Nat) : Json :=
  .whole value

end CrossQuery.Json
