/-!
# JSON values

Values of the JSON data model. Whole numbers and floats are told apart, so `2` and `2.0` differ,
and the entries of an object keep their order.
-/

set_option autoImplicit false

namespace CrossQuery

inductive Json where
  | null
  | bool (value : Bool)
  /-- A number written without fraction and exponent that fits 64 bits. -/
  | whole (value : Int)
  /-- Any other number. -/
  | real (value : Float)
  | string (text : String)
  | array (items : List Json)
  | object (entries : List (String × Json))
deriving Inhabited

namespace Json

/-- The value of the first entry with the given key. -/
def lookup? (key : String) : List (String × Json) → Option Json
  | [] => none
  | (name, value) :: rest => if name = key then some value else lookup? key rest

/-- Entries in which a key has the given value: the first entry of that key is overwritten in
place, and a new key comes last. -/
def assign (key : String) (value : Json) : List (String × Json) → List (String × Json)
  | [] => [(key, value)]
  | (name, old) :: rest =>
    if name = key then (name, value) :: rest else (name, old) :: assign key value rest

/-- Entries without the first entry of a key. -/
def erase (key : String) : List (String × Json) → List (String × Json)
  | [] => []
  | (name, value) :: rest => if name = key then rest else (name, value) :: erase key rest

theorem lookup?_assign_self (key : String) (value : Json) (entries : List (String × Json)) :
    lookup? key (assign key value entries) = some value := by
  induction entries with
  | nil => simp [assign, lookup?]
  | cons entry rest ih =>
      obtain ⟨name, old⟩ := entry
      by_cases same : name = key <;> simp [assign, lookup?, same, ih]

theorem lookup?_assign_of_ne {key other : String} (different : key ≠ other) (value : Json)
    (entries : List (String × Json)) :
    lookup? other (assign key value entries) = lookup? other entries := by
  induction entries with
  | nil => simp [assign, lookup?, different]
  | cons entry rest ih =>
      obtain ⟨name, old⟩ := entry
      by_cases same : name = key
      · subst same; simp [assign, lookup?, different]
      · simp [assign, lookup?, same, ih]

mutual

/-- The value with one entry per key: a repeated key keeps its first place and its last value. -/
def normalise : Json → Json
  | .array items => .array (normaliseItems items)
  | .object entries => .object (normaliseEntries [] entries)
  | scalar => scalar

def normaliseItems : List Json → List Json
  | [] => []
  | item :: rest => normalise item :: normaliseItems rest

/-- The entries of an object, put after those already collected. -/
def normaliseEntries : List (String × Json) → List (String × Json) → List (String × Json)
  | collected, [] => collected
  | collected, (key, value) :: rest =>
    normaliseEntries (assign key (normalise value) collected) rest

end

mutual

/-- Whether two values are equal as data. Objects are compared without regard to the order of
their entries, floats as numbers, and a whole number never equals a float. -/
def same : Json → Json → Bool
  | .null, .null => true
  | .bool left, .bool right => left == right
  | .whole left, .whole right => left == right
  | .real left, .real right => left == right
  | .string left, .string right => left == right
  | .array left, .array right => sameItems left right
  | .object left, .object right => left.length == right.length && sameEntries left right
  | _, _ => false

/-- Whether two lists have equal items at equal places. -/
def sameItems : List Json → List Json → Bool
  | [], [] => true
  | left :: leftRest, right :: rightRest => same left right && sameItems leftRest rightRest
  | _, _ => false

/-- Whether every entry on the left has an equal one on the right. -/
def sameEntries : List (String × Json) → List (String × Json) → Bool
  | [], _ => true
  | (key, value) :: rest, right =>
    (match lookup? key right with
      | some other => same value other
      | none => false) && sameEntries rest right

end

mutual

/-- How deep a value nests: none below a scalar. -/
def depth : Json → Nat
  | .array items => depthItems items + 1
  | .object entries => depthEntries entries + 1
  | _ => 0

def depthItems : List Json → Nat
  | [] => 0
  | item :: rest => max item.depth (depthItems rest)

def depthEntries : List (String × Json) → Nat
  | [] => 0
  | (_, value) :: rest => max value.depth (depthEntries rest)

end

def text? : Json → Option String
  | .string text => some text
  | _ => none

def isNull : Json → Bool
  | .null => true
  | _ => false

end Json

end CrossQuery
