import CrossQuery.Select.DataType

/-!
# Expressions of the grammar

Expressions, tables and queries nest in each other. Each phrase is read by a function of the
readers one level below, so that the levels form a recursion on how deep phrases may nest.
Operators bind by precedence: a higher number binds tighter.
-/

set_option autoImplicit false

namespace CrossQuery.Select.Grammar

/-- The readers of nested phrases. -/
structure Nested where
  /-- An expression whose operators bind tighter than the given precedence. -/
  expression : Nat → Grammar Tree
  /-- An expression without operators after it. -/
  primary : Grammar Tree
  query : Grammar TreeQuery
  /-- A table with its joins. -/
  source : Grammar TreeSource
  table : Grammar TreeTable

/-- The readers below the lowest level, which fail. -/
def Nested.bottom : Nested :=
  ⟨fun _ => failure, failure, failure, failure, failure⟩

def Nested.whole (below : Nested) : Grammar Tree :=
  below.expression 0

/-- The precedence of the sign at the front, if it can stand between expressions. -/
def signPrecedence (spelling : String) : Nat :=
  if ["=", "<", "<=", "<>", ">", ">=", "==", "~", "~*", "!~", "!~*", "~~", "~~*", "!~~", "!~~*",
      "<=>"].contains spelling then 50
  else if ["|", "#", ">>", "<<", "&", "||", "->", "->>", "#>", "#>>", "@>", "<@", "#-", "@?", "@@",
      "?", "?&", "?|", "!", "&&", "^@"].contains spelling then 70
  else if ["+", "-"].contains spelling then 80
  else if ["*", "/", "%"].contains spelling then 90
  else if spelling = "^" then 100
  else if spelling = "[" then 130
  else if spelling = "::" then 140
  else 0

/-- The precedence of a keyword at the front, in view of the tokens behind it. -/
def wordPrecedence (keyword : String) (behind : List Token) : Nat :=
  if keyword = "OR" then 10
  else if keyword = "AND" then 20
  else if keyword = "XOR" then 75
  else if keyword = "AT" then
    match behind with
    | first :: second :: _ => if first.isWord "TIME" && second.isWord "ZONE" then 110 else 0
    | _ => 0
  else if keyword = "NOT" then
    match behind with
    | .word _ key :: _ =>
      if ["IN", "BETWEEN", "LIKE", "ILIKE", "RLIKE", "REGEXP", "SIMILAR"].contains key then 60
      else 0
    | _ => 0
  else if keyword = "IS" then 40
  else if ["IN", "BETWEEN", "OVERLAPS", "OPERATOR", "LIKE", "ILIKE", "RLIKE", "REGEXP",
      "SIMILAR"].contains keyword then 60
  else if keyword = "DIV" then 90
  else if keyword = "COLLATE" then 120
  else 0

/-- The precedence of what stands at the front; zero if it cannot follow an expression. -/
def precedence : List Token → Nat
  | .word _ keyword :: rest => wordPrecedence keyword rest
  | .sign spelling :: _ => signPrecedence spelling
  | .customOperator _ :: _ => 70
  | _ => 0

def signOperators : List (String × InfixOperator) :=
  [("=", .known (.compare .equal)), ("==", .known (.compare .equal)),
    ("<>", .known (.compare .notEqual)), ("<", .known (.compare .less)),
    ("<=", .known (.compare .lessOrEqual)), (">", .known (.compare .greater)),
    (">=", .known (.compare .greaterOrEqual)), ("+", .other "Plus" "+"),
    ("-", .other "Minus" "-"), ("*", .other "Multiply" "*"), ("/", .other "Divide" "/"),
    ("%", .other "Modulo" "%"), ("||", .other "StringConcat" "||"),
    ("<=>", .other "Spaceship" "<=>"), ("|", .other "BitwiseOr" "|"),
    ("&", .other "BitwiseAnd" "&"), ("^", .other "PGExp" "^"),
    ("<<", .other "PGBitwiseShiftLeft" "<<"), (">>", .other "PGBitwiseShiftRight" ">>"),
    ("#", .other "PGBitwiseXor" "#"), ("&&", .other "PGOverlap" "&&"),
    ("~", .other "PGRegexMatch" "~"), ("~*", .other "PGRegexIMatch" "~*"),
    ("!~", .other "PGRegexNotMatch" "!~"), ("!~*", .other "PGRegexNotIMatch" "!~*"),
    ("~~", .other "PGLikeMatch" "~~"), ("~~*", .other "PGILikeMatch" "~~*"),
    ("!~~", .other "PGNotLikeMatch" "!~~"), ("!~~*", .other "PGNotILikeMatch" "!~~*"),
    ("^@", .other "PGStartsWith" "^@"), ("->", .other "Arrow" "->"),
    ("->>", .other "LongArrow" "->>"), ("#>", .other "HashArrow" "#>"),
    ("#>>", .other "HashLongArrow" "#>>"), ("@>", .other "AtArrow" "@>"),
    ("<@", .other "ArrowAt" "<@"), ("#-", .other "HashMinus" "#-"),
    ("@?", .other "AtQuestion" "@?"), ("@@", .other "AtAt" "@@"), ("?", .other "Question" "?"),
    ("?&", .other "QuestionAnd" "?&"), ("?|", .other "QuestionPipe" "?|")]

/-- The parts of the name in `OPERATOR(...)`, at most `fuel`. -/
def operatorName : Nat → Grammar String
  | 0 => failure
  | fuel + 1 => do
    let part ←
      match ← next with
      | .word text _ => pure text
      | .quotedName name => pure (displayQuoted '"' name)
      | .sign spelling => pure spelling
      | .customOperator spelling => pure spelling
      | _ => failure
    if ← acceptSign "." then
      pure (part ++ "." ++ (← operatorName fuel))
    else pure part

/-- The operator at the front that joins two expressions, if there is one. -/
def infixOperator : Grammar (Option InfixOperator) := fun tokens =>
  match tokens with
  | .sign spelling :: rest =>
    match signOperators.lookup spelling with
    | some operator => some (some operator, rest)
    | none => some (none, tokens)
  | .customOperator spelling :: rest =>
    some (some (InfixOperator.other ("Custom(" ++ displayQuoted '"' spelling ++ ")") spelling), rest)
  | .word _ keyword :: rest =>
    if keyword = "AND" then some (some (InfixOperator.known .and), rest)
    else if keyword = "OR" then some (some (InfixOperator.known .or), rest)
    else if keyword = "XOR" then some (some (InfixOperator.other "Xor" "XOR"), rest)
    else if keyword = "OVERLAPS" then some (some (InfixOperator.other "Overlaps" "OVERLAPS"), rest)
    else if keyword = "OPERATOR" then
      (do
        let name ← parenthesised (operatorName tokens.length)
        pure (some (InfixOperator.other "PGCustomBinaryOperator" ("OPERATOR(" ++ name ++ ")")))).run rest
    else some (none, tokens)
  | _ => some (none, tokens)

def peekQuery : Grammar Bool := do
  let word ← peekWord
  pure (word == "SELECT" || word == "WITH")

/-- The right side of a comparison with any or all of several values. -/
def quantified (below : Nested) (bound : Nat) (operator : InfixOperator) : Grammar Tree := do
  expectSign "("
  if ← peekQuery then
    let _ ← below.query
    expectSign ")"
  else
    let _ ← below.expression bound
    expectSign ")"
  if operator.isComparison then pure (.unsupported "") else failure

def optionalEscape : Grammar (Option String) := do
  if ← acceptWord "ESCAPE" then some <$> literalText else pure none

def inTail (below : Nested) (left : Tree) (negated : Bool) : Grammar Tree := do
  if ← acceptWord "UNNEST" then
    let _ ← parenthesised below.whole
    pure (.unsupported "")
  else
    expectSign "("
    if ← peekQuery then
      let _ ← below.query
      expectSign ")"
      pure (.unsupported "")
    else
      let list ← items below.whole
      expectSign ")"
      pure (.inList left list negated)

/-- What follows `BETWEEN`. Its bounds bind tighter than it does. -/
def betweenTail (below : Nested) (left : Tree) (negated : Bool) : Grammar Tree := do
  let least ← below.expression 60
  expectWord "AND"
  let greatest ← below.expression 60
  pure (.between left least greatest negated)

/-- What follows an expression and its optional `NOT`: a range, a list or a pattern. -/
def testTail (below : Nested) (left : Tree) (negated : Bool) : Grammar Tree := do
  if ← acceptWord "IN" then inTail below left negated
  else if ← acceptWord "BETWEEN" then betweenTail below left negated
  else if ← acceptWord "LIKE" then
    let _ ← acceptWord "ANY"
    let pattern ← below.expression 60
    let escape ← optionalEscape
    pure (.like left pattern escape negated)
  else if ← acceptWord "ILIKE" then
    let _ ← acceptWord "ANY"
    let _ ← below.expression 60
    let _ ← optionalEscape
    pure (.unsupported "")
  else if ← acceptWords ["SIMILAR", "TO"] then
    let _ ← below.expression 60
    let _ ← optionalEscape
    pure (.unsupported "")
  else
    match ← acceptAnyWord ["REGEXP", "RLIKE"] with
    | some _ =>
      let _ ← below.expression 60
      pure (.unsupported "")
    | none => failure

def isTail (below : Nested) (left : Tree) : Grammar Tree := do
  if ← acceptWord "NULL" then pure (.isNull left false)
  else if ← acceptWords ["NOT", "NULL"] then pure (.isNull left true)
  else
    let _ ← acceptWord "NOT"
    match ← acceptAnyWord ["TRUE", "FALSE", "UNKNOWN"] with
    | some _ => pure (.unsupported "")
    | none =>
      expectWords ["DISTINCT", "FROM"]
      let _ ← below.whole
      pure (.unsupported "")

/-- The bounds in the brackets of a subscript. -/
def subscriptTail (below : Nested) : Grammar Tree := do
  if !(← acceptSign ":") then
    let _ ← below.whole
    let _ ← acceptSign ":"
  if !(← acceptSign "]") then
    let _ ← below.whole
    if ← acceptSign ":" then
      if !(← peekSign "]") then
        let _ ← below.whole
    expectSign "]"
  pure (.unsupported "")

/-- The expression that `left` becomes with the operator behind it, which has the given
precedence. -/
def follow (below : Nested) (left : Tree) (bound : Nat) : Grammar Tree := do
  match ← infixOperator with
  | some operator =>
    match ← acceptAnyWord ["ANY", "ALL", "SOME"] with
    | some _ => quantified below bound operator
    | none => pure (.binary operator left (← below.expression bound))
  | none =>
    if ← acceptWord "IS" then isTail below left
    else if ← acceptWords ["AT", "TIME", "ZONE"] then
      let _ ← below.expression bound
      pure (.unsupported "")
    else if ← acceptSign "::" then
      let type ← dataType
      pure (.cast left type.text .doubleColon)
    else if ← acceptSign "!" then
      pure (.unary (.other "PGPostfixFactorial" "!") left)
    else if ← acceptSign "[" then subscriptTail below
    else
      let negated ← acceptWord "NOT"
      testTail below left negated

/-- The expression that `left` becomes with the operators behind it that bind tighter than the
given precedence. `fuel` bounds their number. -/
def climb (below : Nested) (bound : Nat) : Nat → Tree → Grammar Tree
  | 0, _ => failure
  | fuel + 1, left => do
    let ahead := precedence (← get)
    if ahead ≤ bound then pure left
    else climb below bound fuel (← follow below left ahead)

/-- The units of time that may follow an interval. -/
def timeUnits : List String :=
  ["YEAR", "YEARS", "MONTH", "MONTHS", "WEEK", "WEEKS", "DAY", "DAYS", "HOUR", "HOURS", "MINUTE",
    "MINUTES", "SECOND", "SECONDS", "CENTURY", "DECADE", "DOW", "DOY", "EPOCH", "ISODOW",
    "ISOYEAR", "JULIAN", "MICROSECOND", "MICROSECONDS", "MILLENIUM", "MILLENNIUM", "MILLISECOND",
    "MILLISECONDS", "NANOSECOND", "NANOSECONDS", "QUARTER", "TIMEZONE", "TIMEZONE_HOUR",
    "TIMEZONE_MINUTE", "DATE", "DATETIME", "TIME"]

def intervalTail (below : Nested) : Grammar Tree := do
  let _ ← below.primary
  let unit ← acceptAnyWord timeUnits
  if unit == some "SECOND" then
    let _ ← optionalExact
  else
    let _ ← optionalSize
    if ← acceptWord "TO" then
      match ← acceptAnyWord timeUnits with
      | some _ => let _ ← optionalSize
      | none => failure
  pure (.unsupported "")

/-- A text with the type that it is a constant of. -/
def typedText (below : Nested) : Grammar Tree := do
  match ← dataType with
  | .interval => intervalTail below
  | .known type =>
    let text ← literalText
    pure (.unsupported (type ++ " " ++ displayQuoted '\'' text))
  | .custom _ => failure

def optionalDirection : Grammar (Option Bool) := do
  if ← acceptWord "ASC" then pure (some true)
  else if ← acceptWord "DESC" then pure (some false)
  else pure none

/-- Where the nulls of a key go. -/
def optionalNulls : Grammar (Option Bool) := do
  if ← acceptWords ["NULLS", "FIRST"] then pure (some true)
  else if ← acceptWords ["NULLS", "LAST"] then pure (some false)
  else pure none

def sortKey (below : Nested) : Grammar TreeKey := do
  let expression ← below.whole
  let ascending ← optionalDirection
  let nullsFirst ← optionalNulls
  pure ⟨expression, ascending, nullsFirst⟩

/-- The keys of an order, if one follows. -/
def optionalOrder (below : Nested) : Grammar (List TreeKey) := do
  if ← acceptWords ["ORDER", "BY"] then items (sortKey below) else pure []

/-- The parts of a name behind its first, up to a star that may end it. `fuel` bounds them. -/
def pathTail : Nat → Grammar (List Identifier × Bool)
  | 0 => failure
  | fuel + 1 => do
    if ← acceptSign "." then
      if ← acceptSign "*" then pure ([], true)
      else
        let part ← identifier
        let (parts, starred) ← pathTail fuel
        pure (part :: parts, starred)
    else pure ([], false)

/-- A star, a name that ends in a star, or an expression. -/
def wildcardOr (below : Nested) : Grammar Tree := do
  if ← acceptSign "*" then pure .star
  else
    let starred ← attempt do
      let first ← identifier
      let (parts, starred) ← pathTail ((← get).length + 1)
      if starred then pure (.argument (displayName (first :: parts) ++ ".*")) else failure
    match starred with
    | some tree => pure tree
    | none => below.whole

/-- The name of a named argument with its arrow. -/
def argumentName : Grammar Identifier := do
  let name ← identifier
  if ← acceptSign "=>" then pure name
  else
    expectSign ":="
    pure name

def callArgument (below : Nested) : Grammar Tree := do
  let named ← attempt do
    let name ← argumentName
    let value ← wildcardOr below
    pure (.argument (name.display ++ " => " ++ value.display))
  match named with
  | some tree => pure tree
  | none => wildcardOr below

def frameBound (below : Nested) : Grammar Unit := do
  if ← acceptWords ["CURRENT", "ROW"] then pure ()
  else
    if !(← acceptWord "UNBOUNDED") then
      let _ ← below.whole
    match ← acceptAnyWord ["PRECEDING", "FOLLOWING"] with
    | some _ => pure ()
    | none => failure

def windowFrame (below : Nested) : Grammar Unit := do
  match ← acceptAnyWord ["ROWS", "RANGE", "GROUPS"] with
  | some _ =>
    if ← acceptWord "BETWEEN" then
      frameBound below
      expectWord "AND"
      frameBound below
    else frameBound below
  | none => failure

/-- The description of a window between parentheses. -/
def windowSpec (below : Nested) : Grammar Unit := do
  let word ← peekWord
  if word ≠ "" ∧ knownWords.contains word = false then
    let _ ← next
  if ← acceptWords ["PARTITION", "BY"] then
    let _ ← items below.whole
  let _ ← optionalOrder below
  if !(← peekSign ")") then windowFrame below

def nullTreatment : Grammar Unit := do
  if ← acceptWords ["IGNORE", "NULLS"] then pure ()
  else
    let _ ← acceptWords ["RESPECT", "NULLS"]

/-- What may follow the arguments of a call. The result is whether it is computed over a window. -/
def callTail (below : Nested) : Grammar Bool := do
  if ← acceptWords ["WITHIN", "GROUP"] then
    let _ ← parenthesised do
      expectWords ["ORDER", "BY"]
      items (sortKey below)
  if ← acceptWord "FILTER" then
    if ← acceptSign "(" then
      if ← acceptWord "WHERE" then
        let _ ← below.whole
        expectSign ")"
  nullTreatment
  if ← acceptWord "OVER" then
    if ← peekSign "(" then
      parenthesised (windowSpec below)
    else
      let _ ← identifier
    pure true
  else pure false

/-- The arguments of a call after the opening parenthesis. -/
def callArguments (below : Nested) : Grammar (List Tree × Bool) := do
  if ← acceptSign ")" then pure ([], false)
  else
    let all ← acceptWord "ALL"
    let distinct ← acceptWord "DISTINCT"
    if all && distinct then failure
    let arguments ← items (callArgument below)
    let _ ← optionalOrder below
    if ← acceptWord "LIMIT" then
      let _ ← below.whole
    expectSign ")"
    pure (arguments, distinct)

/-- A call of the named function, from its opening parenthesis on. -/
def call (below : Nested) (name : List Identifier) : Grammar Tree := do
  expectSign "("
  let (arguments, distinct) ← callArguments below
  let windowed ← callTail below
  pure (.call name (some arguments) distinct windowed)

/-- Take a text, if one comes next. -/
def acceptText : Grammar Bool := fun tokens =>
  match tokens with
  | .text _ :: rest => some (true, rest)
  | tokens => some (false, tokens)

/-- What an identifier begins: a name, a call or a path. A text after a name that begins with an
underscore belongs to it. -/
def named (below : Nested) (first : Identifier) : Grammar Tree := do
  let (parts, starred) ← pathTail ((← get).length + 1)
  let name := first :: parts
  if starred then pure (.argument (displayName name ++ ".*"))
  else if ← peekSign "(" then call below name
  else if !parts.isEmpty then pure (.path name)
  else if first.name.toList.head? = some '_' then
    if ← acceptText then pure (.unsupported "") else pure (.identifier first)
  else pure (.identifier first)

/-- The branches of a case, each with its condition and its result. -/
def caseBranch (below : Nested) : Grammar (Option Unit) := do
  if ← acceptWord "WHEN" then
    let _ ← below.whole
    expectWord "THEN"
    let _ ← below.whole
    pure (some ())
  else pure none

def caseTail (below : Nested) : Grammar Tree := do
  if (← peekWord) ≠ "WHEN" then
    let _ ← below.whole
  match ← many (caseBranch below) with
  | [] => failure
  | _ =>
    if ← acceptWord "ELSE" then
      let _ ← below.whole
    expectWord "END"
    pure (.unsupported "")

def castTail (below : Nested) (word : String) : Grammar Tree := do
  expectSign "("
  let operand ← below.whole
  expectWord "AS"
  let type ← dataType
  if ← acceptWord "FORMAT" then
    let _ ← literalText
  expectSign ")"
  pure (.cast operand type.text (.call word))

def existsTail (below : Nested) : Grammar Tree := do
  let _ ← parenthesised below.query
  pure (.unsupported "")

def extractTail (below : Nested) : Grammar Tree := do
  expectSign "("
  let _ ← identifier
  if !(← acceptWord "FROM") then expectSign ","
  let _ ← below.whole
  expectSign ")"
  pure (.unsupported "")

def roundTail (below : Nested) : Grammar Tree := do
  expectSign "("
  let _ ← below.whole
  if ← acceptWord "TO" then
    let _ ← identifier
  else if ← acceptSign "," then
    let _ ← below.whole
  expectSign ")"
  pure (.unsupported "")

def substringTail (below : Nested) : Grammar Tree := do
  expectSign "("
  let _ ← below.whole
  if (← acceptWord "FROM") || (← acceptSign ",") then
    let _ ← below.whole
  if (← acceptWord "FOR") || (← acceptSign ",") then
    let _ ← below.whole
  expectSign ")"
  pure (.unsupported "")

def overlayTail (below : Nested) : Grammar Tree := do
  expectSign "("
  let _ ← below.whole
  expectWord "PLACING"
  let _ ← below.whole
  expectWord "FROM"
  let _ ← below.whole
  if ← acceptWord "FOR" then
    let _ ← below.whole
  expectSign ")"
  pure (.unsupported "")

def trimTail (below : Nested) : Grammar Tree := do
  expectSign "("
  let _ ← acceptAnyWord ["BOTH", "LEADING", "TRAILING"]
  let _ ← below.whole
  if ← acceptWord "FROM" then
    let _ ← below.whole
  expectSign ")"
  pure (.unsupported "")

/-- What follows `POSITION`: one expression in another, or else the arguments of a call. -/
def positionTail (below : Nested) (word : Identifier) : Grammar Tree := do
  let found ← attempt do
    expectSign "("
    let _ ← below.expression 60
    expectWord "IN"
    let _ ← below.whole
    expectSign ")"
  match found with
  | some _ => pure (.unsupported "")
  | none => call below [word]

/-- What follows `NOT` at the front of an expression. -/
def notTail (below : Nested) : Grammar Tree := do
  if ← acceptWord "EXISTS" then existsTail below
  else pure (.unary (.known .not) (← below.expression 30))

/-- A function of the clock, which needs no parentheses. -/
def clockTail (below : Nested) (word : Identifier) : Grammar Tree := do
  if ← acceptSign "(" then
    let (arguments, distinct) ← callArguments below
    pure (.call [word] (some arguments) distinct false)
  else pure (.call [word] none false false)

/-- The items of an array between brackets. -/
def arrayTail (below : Nested) : Grammar Tree := do
  if ← acceptSign "]" then pure (.unsupported "")
  else
    let _ ← items below.whole
    expectSign "]"
    pure (.unsupported "")

/-- What a word with a meaning of its own begins; nothing if it has none. -/
def special (below : Nested) (keyword : String) (word : Identifier) :
    Grammar (Option Tree) := do
  match keyword with
  | "TRUE" => pure (some (.boolean true))
  | "FALSE" => pure (some (.boolean false))
  | "NULL" => pure (some .null)
  | "CURRENT_CATALOG" | "CURRENT_USER" | "SESSION_USER" | "USER" =>
    pure (some (.call [word] none false false))
  | "CURRENT_TIMESTAMP" | "CURRENT_TIME" | "CURRENT_DATE" | "LOCALTIME" | "LOCALTIMESTAMP" =>
    some <$> clockTail below word
  | "CASE" => some <$> caseTail below
  | "CAST" | "TRY_CAST" | "SAFE_CAST" => some <$> castTail below keyword
  | "EXISTS" => some <$> existsTail below
  | "EXTRACT" => some <$> extractTail below
  | "CEIL" | "FLOOR" => some <$> roundTail below
  | "POSITION" => if ← peekSign "(" then some <$> positionTail below word else pure none
  | "SUBSTRING" => some <$> substringTail below
  | "OVERLAY" => some <$> overlayTail below
  | "TRIM" => some <$> trimTail below
  | "INTERVAL" => some <$> intervalTail below
  | "ARRAY" =>
    if ← acceptSign "[" then some <$> arrayTail below
    else if ← peekSign "(" then
      let _ ← parenthesised below.query
      pure (some (.call [word] none false false))
    else pure none
  | "NOT" => some <$> notTail below
  | _ => pure none

/-- Words that name nothing even where their own construct fails. -/
def reservedForNames : List String :=
  ["EXISTS", "STRUCT", "TRIM"]

/-- What a word begins: its own construct, or else what a name begins. -/
def wordPhrase (below : Nested) (keyword : String) (word : Identifier) : Grammar Tree := do
  match ← attempt (special below keyword word) with
  | some (some tree) => pure tree
  | some none => named below word
  | none => if reservedForNames.contains keyword then failure else named below word

/-- What an opening parenthesis begins: a query, an expression or several. -/
def parenthesisPhrase (below : Nested) : Grammar Tree := do
  let tree ←
    if ← peekQuery then
      let _ ← below.query
      pure (Tree.unsupported "")
    else
      match ← items below.whole with
      | [inner] => pure (.nested inner)
      | _ => pure (.unsupported "")
  expectSign ")"
  if ← acceptSign "." then
    match ← next with
    | .word _ _ => pure (.unsupported "")
    | .quotedName _ => pure (.unsupported "")
    | _ => failure
  else pure tree

/-- A parameter by its name or number. -/
def parameter : Grammar Tree := do
  match ← next with
  | .word text _ => pure (.constant (":" ++ text))
  | .quotedName name => pure (.constant (":" ++ name))
  | .number text false => pure (.constant (":" ++ text))
  | _ => failure

/-- What a token begins, if no type with a text does. -/
def tokenPhrase (below : Nested) : Grammar Tree := do
  match ← next with
  | .word text keyword => wordPhrase below keyword ⟨text, none⟩
  | .quotedName name => named below ⟨name, some '"'⟩
  | .number text long => pure (.number text long)
  | .text value => pure (.text value)
  | .escapedText value => pure (.constant ("E" ++ displayQuoted '\'' value))
  | .constant spelling => pure (.constant spelling)
  | .sign "(" => parenthesisPhrase below
  | .sign "[" => arrayTail below
  | .sign "-" => pure (.unary (.known .minus) (← below.expression 90))
  | .sign "+" => pure (.unary (.other "Plus" "+") (← below.expression 90))
  | .sign "!!" => pure (.unary (.other "PGPrefixFactorial" "!!") (← below.expression 80))
  | .sign "|/" => pure (.unary (.other "PGSquareRoot" "|/") (← below.expression 80))
  | .sign "||/" => pure (.unary (.other "PGCubeRoot" "||/") (← below.expression 80))
  | .sign "@" => pure (.unary (.other "PGAbs" "@") (← below.expression 80))
  | .sign "~" => pure (.unary (.other "PGBitwiseNot" "~") (← below.expression 80))
  | .sign ":" => parameter
  | _ => failure

/-- An expression without operators after it, apart from a collation. -/
def primaryPhrase (below : Nested) : Grammar Tree := do
  match ← attempt (typedText below) with
  | some tree => pure tree
  | none =>
    let tree ← tokenPhrase below
    if ← acceptWord "COLLATE" then
      let _ ← objectName
      pure (.unsupported "")
    else pure tree

/-- An expression whose operators bind tighter than the given precedence. -/
def expressionPhrase (below : Nested) (bound : Nat) : Grammar Tree := do
  let first ← primaryPhrase below
  climb below bound ((← get).length + 1) first

end CrossQuery.Select.Grammar
