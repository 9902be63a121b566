import CrossQuery.Decimal.Notation
import CrossQuery.Json

/-!
# JSON texts

A value as compact text, and as text with one item a line.
-/

set_option autoImplicit false

namespace CrossQuery.Json

def hexDigit (digit : Nat) : Char :=
  Char.ofNat (if digit < 10 then 48 + digit else 87 + digit)

/-- A character inside a quoted text. Quotes, backslashes and control characters are escaped. -/
def writeChar (c : Char) : List Char :=
  if c = '"' then ['\\', '"']
  else if c = '\\' then ['\\', '\\']
  else if c.toNat = 8 then ['\\', 'b']
  else if c.toNat = 9 then ['\\', 't']
  else if c.toNat = 10 then ['\\', 'n']
  else if c.toNat = 12 then ['\\', 'f']
  else if c.toNat = 13 then ['\\', 'r']
  else if c.toNat < 32 then
    ['\\', 'u', '0', '0', hexDigit (c.toNat / 16), hexDigit (c.toNat % 16)]
  else [c]

def writeText (text : String) : List Char :=
  '"' :: (text.toList.flatMap writeChar ++ ['"'])

/-- A float. What is not finite has no number and becomes null. -/
def writeReal (value : Float) : List Char :=
  match Decimal.Binary.ofFloat value with
  | .finite negative magnitude => Decimal.Notation.document.text (.finite negative magnitude)
  | _ => "null".toList

mutual

/-- A value without spaces between its parts. -/
def writeCompact : Json → List Char
  | .null => "null".toList
  | .bool value => (if value then "true" else "false").toList
  | .whole value => Text.writeInt value
  | .real value => writeReal value
  | .string text => writeText text
  | .array items => '[' :: (writeItems items ++ [']'])
  | .object entries => '\x7b' :: (writeEntries entries ++ ['\x7d'])

def writeItems : List Json → List Char
  | [] => []
  | [item] => writeCompact item
  | item :: rest => writeCompact item ++ ',' :: writeItems rest

def writeEntries : List (String × Json) → List Char
  | [] => []
  | [(key, value)] => writeText key ++ ':' :: writeCompact value
  | (key, value) :: rest =>
    writeText key ++ ':' :: (writeCompact value ++ ',' :: writeEntries rest)

end

def compact (value : Json) : String :=
  String.ofList value.writeCompact

/-- A new line with two blanks per level. -/
def newLine (level : Nat) : List Char :=
  '\n' :: List.replicate (2 * level) ' '

mutual

/-- A value with one item or entry a line, at the given level of indentation. -/
def writeIndented (level : Nat) : Json → List Char
  | .array (item :: rest) =>
    '[' :: (newLine (level + 1) ++ writeIndentedItems (level + 1) (item :: rest) ++
      newLine level ++ [']'])
  | .object (entry :: rest) =>
    '\x7b' :: (newLine (level + 1) ++ writeIndentedEntries (level + 1) (entry :: rest) ++
      newLine level ++ ['\x7d'])
  | short => short.writeCompact

def writeIndentedItems (level : Nat) : List Json → List Char
  | [] => []
  | [item] => writeIndented level item
  | item :: rest =>
    writeIndented level item ++ ',' :: (newLine level ++ writeIndentedItems level rest)

def writeIndentedEntries (level : Nat) : List (String × Json) → List Char
  | [] => []
  | [(key, value)] => writeText key ++ ':' :: ' ' :: writeIndented level value
  | (key, value) :: rest =>
    writeText key ++ ':' :: ' ' :: (writeIndented level value ++
      ',' :: (newLine level ++ writeIndentedEntries level rest))

end

/-- The text of a value with one item or entry a line. -/
def indented (value : Json) : String :=
  String.ofList (value.writeIndented 0)

end CrossQuery.Json
