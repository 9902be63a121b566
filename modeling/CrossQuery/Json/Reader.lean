import CrossQuery.Json.Numeral

/-!
# Reading JSON texts

A text is one value with blanks around it. Values nest fewer than 128 levels deep. The entries of
an object are kept as written, repeated keys included.
-/

set_option autoImplicit false

namespace CrossQuery.Json

/-- The blanks that may stand between the parts of a JSON text. -/
def isSpace (c : Char) : Bool :=
  c = ' ' || c = '\n' || c = '\t' || c = '\r'

/-- A text without the blanks at its front. -/
def skipSpace (text : List Char) : List Char :=
  text.dropWhile isSpace

def hexValue? (c : Char) : Option Nat :=
  let code := c.toNat
  if 48 ≤ code ∧ code ≤ 57 then some (code - 48)
  else if 97 ≤ code ∧ code ≤ 102 then some (code - 87)
  else if 65 ≤ code ∧ code ≤ 70 then some (code - 55)
  else none

/-- The code unit of four hexadecimal digits. -/
def codeUnit? (a b c d : Char) : Option Nat := do
  let a ← hexValue? a
  let b ← hexValue? b
  let c ← hexValue? c
  let d ← hexValue? d
  some (((a * 16 + b) * 16 + c) * 16 + d)

def escapedChar? (c : Char) : Option Char :=
  if c = '"' ∨ c = '\\' ∨ c = '/' then some c
  else if c = 'b' then some (Char.ofNat 8)
  else if c = 'f' then some (Char.ofNat 12)
  else if c = 'n' then some '\n'
  else if c = 'r' then some '\r'
  else if c = 't' then some '\t'
  else none

/-- What a code unit means after the first half of a surrogate pair, if one is pending: a
character, or the first half of a pair. -/
def joinUnit? (pending : Option Nat) (unit : Nat) : Option (Nat ⊕ Char) :=
  match pending with
  | some first =>
    if 0xDC00 ≤ unit ∧ unit ≤ 0xDFFF then
      some (.inr (Char.ofNat (0x10000 + (first - 0xD800) * 0x400 + (unit - 0xDC00))))
    else none
  | none =>
    if 0xD800 ≤ unit ∧ unit ≤ 0xDBFF then some (.inl unit)
    else if 0xDC00 ≤ unit ∧ unit ≤ 0xDFFF then none
    else some (.inr (Char.ofNat unit))

/-- The characters of a quoted text after its opening quote, and what follows the closing one.
`pending` is the first half of a surrogate pair that the next escape must complete. -/
def readQuoted? (pending : Option Nat) : List Char → Option (List Char × List Char)
  | [] => none
  | '\\' :: 'u' :: a :: b :: c :: d :: rest => do
    match ← joinUnit? pending (← codeUnit? a b c d) with
    | .inl first => readQuoted? (some first) rest
    | .inr character =>
      let (characters, after) ← readQuoted? none rest
      some (character :: characters, after)
  | '\\' :: letter :: rest =>
    if pending.isSome then none
    else do
      let character ← escapedChar? letter
      let (characters, after) ← readQuoted? none rest
      some (character :: characters, after)
  | c :: rest =>
    if pending.isSome || c = '\\' || c.toNat < 32 then none
    else if c = '"' then some ([], rest)
    else do
      let (characters, after) ← readQuoted? none rest
      some (c :: characters, after)

/-- How deep values may nest. -/
def depthBound : Nat := 127

mutual

/-- The value at the front of a text. `fuel` bounds the calls, `depth` the levels that may still
be opened. -/
def readValue? : Nat → Nat → List Char → Option (Json × List Char)
  | 0, _, _ => none
  | fuel + 1, depth, text =>
    match skipSpace text with
    | 'n' :: 'u' :: 'l' :: 'l' :: rest => some (.null, rest)
    | 't' :: 'r' :: 'u' :: 'e' :: rest => some (.bool true, rest)
    | 'f' :: 'a' :: 'l' :: 's' :: 'e' :: rest => some (.bool false, rest)
    | '"' :: rest => do
      let (characters, rest) ← readQuoted? none rest
      some (.string (String.ofList characters), rest)
    | '[' :: rest =>
      match depth with
      | 0 => none
      | depth + 1 =>
        match skipSpace rest with
        | ']' :: rest => some (.array [], rest)
        | rest => do
          let (items, rest) ← readItems? fuel depth rest
          some (.array items, rest)
    | '\x7b' :: rest =>
      match depth with
      | 0 => none
      | depth + 1 =>
        match skipSpace rest with
        | '\x7d' :: rest => some (.object [], rest)
        | rest => do
          let (entries, rest) ← readEntries? fuel depth rest
          some (.object entries, rest)
    | '-' :: rest => do
      let (numeral, rest) ← readNumeral? true rest
      some (← numeral.value?, rest)
    | rest => do
      let (numeral, rest) ← readNumeral? false rest
      some (← numeral.value?, rest)

/-- One or more items up to the end of an array. -/
def readItems? : Nat → Nat → List Char → Option (List Json × List Char)
  | 0, _, _ => none
  | fuel + 1, depth, text => do
    let (item, rest) ← readValue? fuel depth text
    match skipSpace rest with
    | ',' :: rest =>
      let (items, rest) ← readItems? fuel depth rest
      some (item :: items, rest)
    | ']' :: rest => some ([item], rest)
    | _ => none

/-- One or more entries up to the end of an object. -/
def readEntries? : Nat → Nat → List Char → Option (List (String × Json) × List Char)
  | 0, _, _ => none
  | fuel + 1, depth, text =>
    match skipSpace text with
    | '"' :: rest => do
      let (key, rest) ← readQuoted? none rest
      match skipSpace rest with
      | ':' :: rest =>
        let (value, rest) ← readValue? fuel depth rest
        match skipSpace rest with
        | ',' :: rest =>
          let (entries, rest) ← readEntries? fuel depth rest
          some ((String.ofList key, value) :: entries, rest)
        | '\x7d' :: rest => some ([(String.ofList key, value)], rest)
        | _ => none
      | _ => none
    | _ => none

end

/-- The value of a text, with the entries of its objects as written. -/
def parse? (text : String) : Option Json := do
  let characters := text.toList
  let (value, rest) ← readValue? (characters.length + 1) depthBound characters
  if (skipSpace rest).isEmpty then some value else none

end CrossQuery.Json
