import CrossQuery.Json.Writer
import CrossQuery.Text.Numeral

/-!
# Texts in TOML

Blanks, comments and line ends, and the four kinds of quoted texts. Readers return what follows. What
is written is in double quotes, each value on a line of its own.
-/

set_option autoImplicit false

namespace CrossQuery.Toml

/-- Whether a character separates words on a line. -/
def isSpace (c : Char) : Bool :=
  c == ' ' || c == '\t'

/-- What follows the blanks of a line. -/
def skipSpaces (text : List Char) : List Char :=
  text.dropWhile isSpace

/-- Whether a character may stand in a comment or a text. -/
def isPrintable (c : Char) : Bool :=
  c == '\t' || (' ' ≤ c && c != '\x7f')

/-- What follows the end of a line. -/
def skipNewline? : List Char → Option (List Char)
  | '\n' :: rest => some rest
  | '\r' :: '\n' :: rest => some rest
  | _ => none

/-- What follows a comment, which may be missing. -/
def skipComment : List Char → List Char
  | '#' :: rest => rest.dropWhile isPrintable
  | rest => rest

/-- What follows the rest of a line: blanks, a comment and the end of the line or text. -/
def skipLineEnd? (text : List Char) : Option (List Char) :=
  match skipComment (skipSpaces text) with
  | [] => some []
  | rest => skipNewline? rest

/-- What follows blanks, comments and line ends. The fuel exceeds the length. -/
def skipLines : Nat → List Char → List Char
  | 0, text => text
  | fuel + 1, text =>
    let rest := skipSpaces text
    match skipNewline? (skipComment rest) with
    | some next => skipLines fuel next
    | none => rest

def hexValue? (c : Char) : Option Nat :=
  if '0' ≤ c && c ≤ '9' then some (c.toNat - '0'.toNat)
  else if 'a' ≤ c && c ≤ 'f' then some (c.toNat - 'a'.toNat + 10)
  else if 'A' ≤ c && c ≤ 'F' then some (c.toNat - 'A'.toNat + 10)
  else none

def charOfHex? (digits : List Char) : Option Char := do
  let values ← digits.mapM hexValue?
  let code := values.foldl (fun code digit => 16 * code + digit) 0
  if h : code.isValidChar then some (Char.ofNatAux code h) else none

/-- The character that an escape stands for, and the rest. -/
def readEscape? : List Char → Option (Char × List Char)
  | 'b' :: rest => some ('\x08', rest)
  | 't' :: rest => some ('\t', rest)
  | 'n' :: rest => some ('\n', rest)
  | 'f' :: rest => some ('\x0c', rest)
  | 'r' :: rest => some ('\r', rest)
  | '"' :: rest => some ('"', rest)
  | '\\' :: rest => some ('\\', rest)
  | 'u' :: a :: b :: c :: d :: rest => (charOfHex? [a, b, c, d]).map fun c => (c, rest)
  | 'U' :: a :: b :: c :: d :: e :: f :: g :: h :: rest =>
    (charOfHex? [a, b, c, d, e, f, g, h]).map fun c => (c, rest)
  | _ => none

/-- A text with a character in front. -/
def prepend (c : Char) (read : Option (List Char × List Char)) : Option (List Char × List Char) :=
  read.map fun (text, rest) => (c :: text, rest)

/-- A text in double quotes, behind the opening one. The fuel exceeds the length. -/
def readBasic? : Nat → List Char → Option (List Char × List Char)
  | 0, _ => none
  | _ + 1, [] => none
  | _ + 1, '"' :: rest => some ([], rest)
  | fuel + 1, '\\' :: rest => do
    let (c, rest) ← readEscape? rest
    prepend c (readBasic? fuel rest)
  | fuel + 1, c :: rest => if isPrintable c then prepend c (readBasic? fuel rest) else none

/-- A text in single quotes, behind the opening one. -/
def readLiteral? : List Char → Option (List Char × List Char)
  | [] => none
  | '\'' :: rest => some ([], rest)
  | c :: rest => if isPrintable c then prepend c (readLiteral? rest) else none

/-- The quotes at the end of a text over several lines: three that close it, and up to two that
belong to it. -/
def readClosing? (quote : Char) (text : List Char) : Option (List Char × List Char) :=
  let quotes := text.takeWhile fun c => c == quote
  if quotes.length < 3 then none
  else
    let inside := min (quotes.length - 3) 2
    some (List.replicate inside quote, text.drop (inside + 3))

/-- What follows a backslash at the end of a line: the blanks and line ends behind it. -/
def skipContinuation? (text : List Char) : Option (List Char) :=
  (skipNewline? (skipSpaces text)).map fun rest =>
    rest.dropWhile fun c => isSpace c || c == '\n' || c == '\r'

/-- A text over several lines in double quotes, behind the opening ones. Every line end is read as
one character. The fuel exceeds the length. -/
def readBasicLines? : Nat → List Char → Option (List Char × List Char)
  | 0, _ => none
  | _ + 1, [] => none
  | fuel + 1, '\\' :: rest =>
    match skipContinuation? rest with
    | some rest => readBasicLines? fuel rest
    | none => do
      let (c, rest) ← readEscape? rest
      prepend c (readBasicLines? fuel rest)
  | fuel + 1, c :: rest =>
    match readClosing? '"' (c :: rest) with
    | some closed => some closed
    | none =>
      match skipNewline? (c :: rest) with
      | some rest => prepend '\n' (readBasicLines? fuel rest)
      | none => if isPrintable c then prepend c (readBasicLines? fuel rest) else none

/-- A text over several lines in single quotes, behind the opening ones. Every line end is read as
one character. The fuel exceeds the length. -/
def readLiteralLines? : Nat → List Char → Option (List Char × List Char)
  | 0, _ => none
  | _ + 1, [] => none
  | fuel + 1, c :: rest =>
    match readClosing? '\'' (c :: rest) with
    | some closed => some closed
    | none =>
      match skipNewline? (c :: rest) with
      | some rest => prepend '\n' (readLiteralLines? fuel rest)
      | none => if isPrintable c then prepend c (readLiteralLines? fuel rest) else none

/-- A text over several lines without the line end behind the opening quotes. -/
def skipFirstNewline (text : List Char) : List Char :=
  (skipNewline? text).getD text

def readLineText? : List Char → Option (List Char × List Char)
  | '"' :: rest => readBasic? (rest.length + 1) rest
  | '\'' :: rest => readLiteral? rest
  | _ => none

def readText? : List Char → Option (List Char × List Char)
  | '"' :: '"' :: '"' :: rest => readBasicLines? (rest.length + 1) (skipFirstNewline rest)
  | '\'' :: '\'' :: '\'' :: rest => readLiteralLines? (rest.length + 1) (skipFirstNewline rest)
  | text => readLineText? text

/-! ## Writing -/

def writeHex (code : Nat) : List Char :=
  [code / 4096, code / 256, code / 16, code].map fun digits => Json.hexDigit (digits % 16)

/-- A character of a text in double quotes. -/
def writeChar (c : Char) : List Char :=
  match c with
  | '"' => ['\\', '"']
  | '\\' => ['\\', '\\']
  | '\n' => ['\\', 'n']
  | '\r' => ['\\', 'r']
  | '\t' => ['\\', 't']
  | c => if c.toNat < 32 || c.toNat == 127 then '\\' :: 'u' :: writeHex c.toNat else [c]

def writeText (text : String) : String :=
  String.ofList ('"' :: text.toList.flatMap writeChar ++ ['"'])

/-- A line with a key and its value. -/
def writeLine (key value : String) : String :=
  key ++ " = " ++ value ++ "\n"

def writeWhole (key : String) (value : Int) : String :=
  writeLine key (String.ofList (Text.writeInt value))

def writeString (key value : String) : String :=
  writeLine key (writeText value)

def writeBool (key : String) (value : Bool) : String :=
  writeLine key (if value then "true" else "false")

end CrossQuery.Toml
