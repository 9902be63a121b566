import CrossQuery.Text.Blank
import CrossQuery.Text.Casing
import CrossQuery.Text.Letter
import CrossQuery.Text.Numeral

/-!
# Tokens of statements

The words, constants and signs of a statement's text. Blanks and comments separate tokens and are
dropped. A sign takes up every operator character that follows it, so `<-` is one operator.
-/

set_option autoImplicit false

namespace CrossQuery.Select

inductive Token where
  /-- A word, and its upper-case form. -/
  | word (text keyword : String)
  /-- An identifier in double quotes. -/
  | quotedName (name : String)
  /-- A number as it is spelled, and whether a letter marks it as long. -/
  | number (text : String) (long : Bool)
  | text (value : String)
  /-- A text in which backslashes escape. -/
  | escapedText (value : String)
  /-- Another constant, by its spelling. -/
  | constant (spelling : String)
  | sign (spelling : String)
  /-- An operator that is not among the known ones. -/
  | customOperator (spelling : String)
deriving DecidableEq

namespace Token

def beginsWord (c : Char) : Bool :=
  Text.isLetter c || c = '_'

def continuesWord (c : Char) : Bool :=
  Text.isLetter c || Text.isDecimalDigit c || c = '$' || c = '_'

/-- Whether a character may be part of an operator. -/
def isOperatorPart (c : Char) : Bool :=
  ['+', '-', '*', '/', '<', '>', '=', '~', '!', '@', '#', '%', '^', '&', '|', '\x60', '?'].contains c

def ofWord (characters : List Char) : Token :=
  .word (String.ofList characters) (String.ofList (Text.upper characters))

/-- The word at the front of a text that begins with one. -/
def readWord (text : List Char) : Token × List Char :=
  (ofWord (text.takeWhile continuesWord), text.dropWhile continuesWord)

/-- The characters up to the closing quote, and what follows it. A quote inside is written
twice. -/
def readEnclosed? (quote : Char) : List Char → Option (List Char × List Char)
  | [] => none
  | [c] => if c = quote then some ([], []) else none
  | c :: next :: rest =>
    if c = quote then
      if next = quote then do
        let (characters, after) ← readEnclosed? quote rest
        some (quote :: characters, after)
      else
        some ([], next :: rest)
    else do
      let (characters, after) ← readEnclosed? quote (next :: rest)
      some (c :: characters, after)

/-- The character that a letter stands for after a backslash. -/
def escapedChar (c : Char) : Char :=
  if c = 'b' then Char.ofNat 8
  else if c = 'f' then Char.ofNat 12
  else if c = 'n' then '\n'
  else if c = 'r' then '\r'
  else if c = 't' then '\t'
  else c

/-- The characters up to the closing quote of a text in which backslashes escape. -/
def readEscaped? : List Char → Option (List Char × List Char)
  | [] => none
  | '\'' :: '\'' :: rest => do
    let (characters, after) ← readEscaped? rest
    some ('\'' :: characters, after)
  | '\'' :: rest => some ([], rest)
  | '\\' :: c :: rest => do
    let (characters, after) ← readEscaped? rest
    some (escapedChar c :: characters, after)
  | c :: rest => do
    let (characters, after) ← readEscaped? rest
    some (c :: characters, after)

/-- What follows a comment between slashes and stars. Comments nest. -/
def skipComment? : Nat → List Char → Option (List Char)
  | _, [] => none
  | depth, '/' :: '*' :: rest => skipComment? (depth + 1) rest
  | 0, '*' :: '/' :: rest => some rest
  | depth + 1, '*' :: '/' :: rest => skipComment? depth rest
  | depth, _ :: rest => skipComment? depth rest

/-- What follows the end of a line. -/
def skipLine (text : List Char) : List Char :=
  (text.dropWhile (· ≠ '\n')).drop 1

/-- The exponent of a number, if the text begins with a complete one. -/
def readExponent (text : List Char) : List Char × List Char :=
  match text with
  | mark :: rest =>
    if mark = 'e' ∨ mark = 'E' then
      let (plusOrMinus, rest) :=
        match rest with
        | c :: rest => if c = '+' ∨ c = '-' then ([c], rest) else ([], c :: rest)
        | [] => ([], [])
      match Text.spanDigits rest with
      | ([], _) => ([], text)
      | (digits, after) => (mark :: (plusOrMinus ++ digits), after)
    else ([], text)
  | [] => ([], [])

/-- The number or the point at the front of a text that begins with a digit or a point. -/
def readNumber (text : List Char) : Token × List Char :=
  let (whole, rest) := Text.spanDigits text
  match whole, rest with
  | ['0'], 'x' :: rest =>
    let isHex (c : Char) : Bool := Text.isDecimalDigit c || ('a' ≤ c.toLower && c.toLower ≤ 'f')
    (.constant ("X'" ++ String.ofList (rest.takeWhile isHex) ++ "'"), rest.dropWhile isHex)
  | whole, rest =>
    let (point, rest) :=
      match rest with
      | '.' :: rest => (['.'], rest)
      | rest => ([], rest)
    let (fraction, rest) := Text.spanDigits rest
    let digits := whole ++ point ++ fraction
    if digits = ['.'] then (.sign ".", rest)
    else
      let (exponent, rest) := readExponent rest
      let (long, rest) :=
        match rest with
        | 'L' :: rest => (true, rest)
        | rest => (false, rest)
      (.number (String.ofList (digits ++ exponent)) long, rest)

/-- A sign with the operator characters that follow it. -/
def readOperator (known : List Char) (rest : List Char) : Token × List Char :=
  match rest.takeWhile isOperatorPart with
  | [] => (.sign (String.ofList known), rest)
  | more => (.customOperator (String.ofList (known ++ more)), rest.dropWhile isOperatorPart)

/-- The text between two equal marks of dollar signs. `fuel` bounds the search. -/
def readDollarQuoted? (mark : List Char) : Nat → List Char → Option (List Char × List Char)
  | 0, _ => none
  | _, [] => none
  | fuel + 1, c :: rest =>
    if mark.isPrefixOf (c :: rest) then some ([], (c :: rest).drop mark.length)
    else do
      let (characters, after) ← readDollarQuoted? mark fuel rest
      some (c :: characters, after)

/-- A parameter, or a text between marks of dollar signs. -/
def readDollar? (text : List Char) : Option (Token × List Char) :=
  let isName (c : Char) : Bool := Text.isLetter c || Text.isDecimalDigit c || c = '_'
  let name := text.takeWhile isName
  match text.dropWhile isName with
  | '$' :: rest => do
    let mark := '$' :: (name ++ ['$'])
    let (characters, after) ← readDollarQuoted? mark (rest.length + 1) rest
    some (.constant (String.ofList (mark ++ characters ++ mark)), after)
  | rest => some (.constant (String.ofList ('$' :: name)), rest)

def readIntroduced? (introducer : String) (text : List Char) : Option (Token × List Char) := do
  let (characters, rest) ← readEnclosed? '\'' text
  some (.constant (introducer ++ "'" ++ String.ofList characters ++ "'"), rest)

/-- A constant between double quotes that a letter introduces. -/
def readIntroducedName? (introducer : String) (text : List Char) : Option (Token × List Char) := do
  let (characters, rest) ← readEnclosed? '"' text
  some (.constant (introducer ++ "\"" ++ String.ofList characters ++ "\""), rest)

/-- Characters that begin the signs of more than one character. -/
def signStarts : List Char :=
  ['-', '%', '|', '=', '!', '<', '>', ':', '&', '^', '~', '#', '@', '?']

/-- The sign at the front of a text that begins with one of `signStarts`. -/
def readSign : List Char → Token × List Char
  | [] => (.sign "", [])
  | '-' :: '>' :: '>' :: rest => (.sign "->>", rest)
  | '-' :: '>' :: rest => readOperator ['-', '>'] rest
  | '-' :: rest => readOperator ['-'] rest
  | '%' :: c :: rest =>
    if Text.isBlank c then (.sign "%", c :: rest) else readOperator ['%'] (c :: rest)
  | '|' :: '/' :: rest => readOperator ['|', '/'] rest
  | '|' :: '|' :: '/' :: rest => readOperator ['|', '|', '/'] rest
  | '|' :: '|' :: rest => readOperator ['|', '|'] rest
  | '|' :: rest => readOperator ['|'] rest
  | '=' :: '>' :: rest => (.sign "=>", rest)
  | '=' :: '=' :: rest => (.sign "==", rest)
  | '!' :: '=' :: rest => (.sign "<>", rest)
  | '!' :: '!' :: rest => (.sign "!!", rest)
  | '!' :: '~' :: '~' :: '*' :: rest => readOperator ['!', '~', '~', '*'] rest
  | '!' :: '~' :: '~' :: rest => readOperator ['!', '~', '~'] rest
  | '!' :: '~' :: '*' :: rest => readOperator ['!', '~', '*'] rest
  | '!' :: '~' :: rest => readOperator ['!', '~'] rest
  | '<' :: '=' :: '>' :: rest => readOperator ['<', '=', '>'] rest
  | '<' :: '=' :: rest => readOperator ['<', '='] rest
  | '<' :: '>' :: rest => readOperator ['<', '>'] rest
  | '<' :: '<' :: rest => readOperator ['<', '<'] rest
  | '<' :: '@' :: rest => readOperator ['<', '@'] rest
  | '<' :: rest => readOperator ['<'] rest
  | '>' :: '=' :: rest => readOperator ['>', '='] rest
  | '>' :: '>' :: rest => readOperator ['>', '>'] rest
  | '>' :: rest => readOperator ['>'] rest
  | ':' :: ':' :: rest => (.sign "::", rest)
  | ':' :: '=' :: rest => (.sign ":=", rest)
  | '&' :: '&' :: rest => readOperator ['&', '&'] rest
  | '&' :: rest => readOperator ['&'] rest
  | '^' :: '@' :: rest => (.sign "^@", rest)
  | '~' :: '~' :: '*' :: rest => readOperator ['~', '~', '*'] rest
  | '~' :: '~' :: rest => readOperator ['~', '~'] rest
  | '~' :: '*' :: rest => readOperator ['~', '*'] rest
  | '~' :: rest => readOperator ['~'] rest
  | '#' :: '-' :: rest => readOperator ['#', '-'] rest
  | '#' :: '>' :: '>' :: rest => readOperator ['#', '>', '>'] rest
  | '#' :: '>' :: rest => readOperator ['#', '>'] rest
  | '#' :: ' ' :: rest => (.sign "#", rest)
  | '#' :: rest => readOperator ['#'] rest
  | '@' :: '>' :: rest => readOperator ['@', '>'] rest
  | '@' :: '?' :: rest => readOperator ['@', '?'] rest
  | '@' :: '@' :: rest => readOperator ['@', '@'] rest
  | '@' :: ' ' :: rest => (.sign "@", rest)
  | '@' :: rest => readOperator ['@'] rest
  | '?' :: '|' :: rest => readOperator ['?', '|'] rest
  | '?' :: '&' :: rest => readOperator ['?', '&'] rest
  | '?' :: rest => readOperator ['?'] rest
  | c :: rest => (.sign (String.singleton c), rest)

/-- The word, the number or the sign of one character that a character begins. -/
def readPlain (c : Char) (rest : List Char) : Token × List Char :=
  if beginsWord c then readWord (c :: rest)
  else if Text.isDecimalDigit c || c = '.' then readNumber (c :: rest)
  else (.sign (String.singleton c), rest)

/-- The token that a character begins which may be a letter in front of a quote. -/
def readLettered? (c : Char) (rest : List Char) : Option (Token × List Char) :=
  match rest with
  | '"' :: inner =>
    if c = 'b' ∨ c = 'B' then readIntroducedName? "B" inner else some (readPlain c rest)
  | '\'' :: inner =>
    if c = 'N' ∨ c = 'n' then readIntroduced? "N" inner
    else if c = 'X' ∨ c = 'x' then readIntroduced? "X" inner
    else if c = 'B' ∨ c = 'b' then readIntroduced? "B" inner
    else if c = 'E' ∨ c = 'e' then do
      let (characters, rest) ← readEscaped? inner
      some (.escapedText (String.ofList characters), rest)
    else some (readPlain c rest)
  | '&' :: '\'' :: inner =>
    if c = 'U' ∨ c = 'u' then readIntroduced? "U&" inner else some (readPlain c rest)
  | rest => some (readPlain c rest)

/-- The token at the front of a text that does not begin with a blank or a comment. -/
def read? : List Char → Option (Token × List Char)
  | [] => none
  | c :: rest =>
    if c = '\'' then do
      let (characters, rest) ← readEnclosed? '\'' rest
      some (.text (String.ofList characters), rest)
    else if c = '"' then do
      let (characters, rest) ← readEnclosed? '"' rest
      some (.quotedName (String.ofList characters), rest)
    else if signStarts.contains c then some (readSign (c :: rest))
    else if c = '$' then readDollar? rest
    else readLettered? c rest

/-- The tokens of a text. `fuel` bounds the steps, each of which takes at least one character. -/
def readAll? : Nat → List Char → Option (List Token)
  | _, [] => some []
  | 0, _ :: _ => none
  | fuel + 1, '-' :: '-' :: rest => readAll? fuel (skipLine rest)
  | fuel + 1, '/' :: '*' :: rest => do readAll? fuel (← skipComment? 0 rest)
  | fuel + 1, c :: rest =>
    if Text.isBlank c then readAll? fuel rest
    else do
      let (token, rest) ← read? (c :: rest)
      let tokens ← readAll? fuel rest
      some (token :: tokens)

def ofText? (text : String) : Option (List Token) :=
  let characters := text.toList
  readAll? (characters.length + 1) characters

/-- Whether a token is the given word, in any case and without quotes. -/
def isWord (keyword : String) : Token → Bool
  | .word _ key => key == keyword
  | _ => false

end Token

end CrossQuery.Select
