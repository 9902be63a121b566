import CrossQuery.Toml
import CrossQuery.Toml.Scalar

/-!
# Reading TOML

The JSON value of a document. Values nest in arrays and inline tables; a document is read line by
line into the tables that its headers define.
-/

set_option autoImplicit false

namespace CrossQuery.Toml

/-- Whether a character may stand in a key without quotes. -/
def isBare (c : Char) : Bool :=
  (c.toNat < 128 && c.isAlphanum) || c == '_' || c == '-'

def readKeyPart? (text : List Char) : Option (String × List Char) :=
  match text with
  | '"' :: _ | '\'' :: _ => (readLineText? text).map fun (key, rest) => (String.ofList key, rest)
  | _ =>
    let key := text.takeWhile isBare
    if key.isEmpty then none else some (String.ofList key, text.dropWhile isBare)

/-- A key with dots between its parts, and blanks around them. The fuel exceeds the length. -/
def readKey? : Nat → List Char → Option (List String × List Char)
  | 0, _ => none
  | fuel + 1, text => do
    let (part, rest) ← readKeyPart? (skipSpaces text)
    match skipSpaces rest with
    | '.' :: rest => do
      let (parts, rest) ← readKey? fuel rest
      return (part :: parts, rest)
    | rest => return ([part], rest)

/-- The path to the last part of a key, and that part. -/
def splitLast? : List String → Option (List String × String)
  | [] => none
  | [key] => some ([], key)
  | part :: rest => (splitLast? rest).map fun (path, key) => (part :: path, key)

mutual

/-- A value. The fuel exceeds twice the length. -/
def readValue? : Nat → List Char → Option (Json × List Char)
  | 0, _ => none
  | fuel + 1, text =>
    match text with
    | '[' :: rest => do
      let (items, rest) ← readItems? fuel (skipLines rest.length rest)
      return (.array items, rest)
    | '\x7b' :: rest => do
      match skipSpaces rest with
      | '\x7d' :: rest => return (.object [], rest)
      | rest => do
        let (entries, rest) ← readPairs? fuel [] rest
        return (.object (entriesToJson entries), rest)
    | '"' :: _ | '\'' :: _ =>
      (readText? text).map fun (content, rest) => (.string (String.ofList content), rest)
    | text => readScalar? text

/-- The items of an array, behind blanks and line ends. -/
def readItems? : Nat → List Char → Option (List Json × List Char)
  | 0, _ => none
  | _ + 1, ']' :: rest => some ([], rest)
  | fuel + 1, text => do
    let (item, rest) ← readValue? fuel text
    match skipLines rest.length rest with
    | ']' :: rest => return ([item], rest)
    | ',' :: rest => do
      let (items, rest) ← readItems? fuel (skipLines rest.length rest)
      return (item :: items, rest)
    | _ => none

/-- The entries of an inline table, added to those before. -/
def readPairs? : Nat → Entries → List Char → Option (Entries × List Char)
  | 0, _, _ => none
  | fuel + 1, entries, text => do
    let (keys, rest) ← readKey? (text.length + 1) text
    let (path, key) ← splitLast? keys
    let (value, rest) ← readValue? fuel (skipSpaces (← expect? '=' rest))
    let entries ← Entries.defineValue path key value .header entries
    match skipSpaces rest with
    | '\x7d' :: rest => return (entries, rest)
    | ',' :: rest => readPairs? fuel entries rest
    | _ => none

end

/-- A document under construction: its entries, and the path of the table that lines add to. -/
structure Draft where
  entries : Entries
  current : List String

/-- The header of a table in an array, behind its opening brackets. -/
def Draft.readItemHeader? (draft : Draft) (text : List Char) : Option (Draft × List Char) := do
  let (keys, rest) ← readKey? (text.length + 1) text
  let (path, key) ← splitLast? keys
  let rest ← expect? ']' (← expect? ']' rest)
  return (⟨← draft.entries.defineItem path key, keys⟩, rest)

/-- The header of a table, behind its opening bracket. -/
def Draft.readTableHeader? (draft : Draft) (text : List Char) : Option (Draft × List Char) := do
  let (keys, rest) ← readKey? (text.length + 1) text
  let (path, key) ← splitLast? keys
  let rest ← expect? ']' rest
  return (⟨← draft.entries.defineTable path key, keys⟩, rest)

def Draft.readPair? (draft : Draft) (text : List Char) : Option (Draft × List Char) := do
  let (keys, rest) ← readKey? (text.length + 1) text
  let (path, key) ← splitLast? keys
  let rest := skipSpaces (← expect? '=' rest)
  let (value, rest) ← readValue? (2 * rest.length + 1) rest
  let entries ←
    draft.entries.within false (fun origin entries => entries.defineValue path key value origin)
      draft.current .header
  return ({ draft with entries := entries }, rest)

/-- What a line defines, without the end of the line. -/
def Draft.readLine? (draft : Draft) (text : List Char) : Option (Draft × List Char) :=
  match text with
  | '[' :: '[' :: rest => draft.readItemHeader? rest
  | '[' :: rest => draft.readTableHeader? rest
  | text => draft.readPair? text

/-- The document that lines continue. The fuel exceeds the length. -/
def Draft.readAll? : Nat → Draft → List Char → Option Draft
  | 0, _, _ => none
  | fuel + 1, draft, text =>
    match skipLines (text.length + 1) text with
    | [] => some draft
    | '#' :: rest => if (skipComment ('#' :: rest)).isEmpty then some draft else none
    | rest => do
      let (draft, rest) ← draft.readLine? rest
      Draft.readAll? fuel draft (← skipLineEnd? rest)

def parse? (text : String) : Option Json := do
  let chars :=
    match text.toList with
    | '\uFEFF' :: rest => rest
    | chars => chars
  let draft ← Draft.readAll? (chars.length + 1) ⟨[], []⟩ chars
  return .object (entriesToJson draft.entries)

end CrossQuery.Toml
