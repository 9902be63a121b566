import CrossQuery.Select.Tree

/-!
# Grammar steps

Readers on lists of tokens. A step takes tokens from the front or fails; a step that is tried and
fails leaves the tokens as they were. Words are keywords only where the grammar asks for them.
-/

set_option autoImplicit false

namespace CrossQuery.Select

/-- A step of the grammar. -/
abbrev Grammar (α : Type) := StateT (List Token) Option α

namespace Grammar

def next : Grammar Token := fun tokens =>
  match tokens with
  | token :: rest => some (token, rest)
  | [] => none

/-- The upper-case form of the next token if it is a word, else nothing. -/
def peekWord : Grammar String := fun tokens =>
  match tokens with
  | .word text keyword :: rest => some (keyword, .word text keyword :: rest)
  | tokens => some ("", tokens)

/-- Whether the next token is the given sign. -/
def peekSign (spelling : String) : Grammar Bool := fun tokens =>
  some (tokens.head? == some (.sign spelling), tokens)

/-- Take the next token if it is the given word, and say whether it was. -/
def acceptWord (keyword : String) : Grammar Bool := fun tokens =>
  match tokens with
  | token :: rest => if token.isWord keyword then some (true, rest) else some (false, token :: rest)
  | [] => some (false, [])

/-- Take the next tokens if they are the given words, all or none. -/
def acceptWords (keywords : List String) : Grammar Bool := fun tokens =>
  let ahead := tokens.take keywords.length
  if ahead.length = keywords.length ∧ (keywords.zip ahead).all fun pair => pair.2.isWord pair.1 then
    some (true, tokens.drop keywords.length)
  else
    some (false, tokens)

/-- Take the next token if it is one of the given words, and return the word. -/
def acceptAnyWord : List String → Grammar (Option String)
  | [] => pure none
  | keyword :: rest => do
    if ← acceptWord keyword then pure (some keyword) else acceptAnyWord rest

/-- Take the next token if it is the given sign, and say whether it was. -/
def acceptSign (spelling : String) : Grammar Bool := fun tokens =>
  match tokens with
  | token :: rest =>
    if token = .sign spelling then some (true, rest) else some (false, token :: rest)
  | [] => some (false, [])

/-- Take the given word, which has to come next. -/
def expectWord (keyword : String) : Grammar Unit := do
  if ← acceptWord keyword then pure () else failure

def expectWords (keywords : List String) : Grammar Unit := do
  if ← acceptWords keywords then pure () else failure

def expectSign (spelling : String) : Grammar Unit := do
  if ← acceptSign spelling then pure () else failure

/-- Take what a step takes, or nothing if it fails. -/
def attempt {α : Type} (step : Grammar α) : Grammar (Option α) :=
  (some <$> step) <|> pure none

/-- Items with commas between them, at most `fuel` of them. -/
def itemsWithin {α : Type} (item : Grammar α) : Nat → Grammar (List α)
  | 0 => failure
  | fuel + 1 => do
    let first ← item
    if ← acceptSign "," then
      pure (first :: (← itemsWithin item fuel))
    else
      pure [first]

/-- One or more items with commas between them. -/
def items {α : Type} (item : Grammar α) : Grammar (List α) := do
  itemsWithin item ((← get).length + 1)

def parenthesised {α : Type} (step : Grammar α) : Grammar α := do
  expectSign "("
  let value ← step
  expectSign ")"
  pure value

/-- Repeat a step as long as it takes something, at most `fuel` times. -/
def manyWithin {α : Type} (step : Grammar (Option α)) : Nat → Grammar (List α)
  | 0 => pure []
  | fuel + 1 => do
    match ← step with
    | some value => pure (value :: (← manyWithin step fuel))
    | none => pure []

/-- Repeat a step as long as it takes something. -/
def many {α : Type} (step : Grammar (Option α)) : Grammar (List α) := do
  manyWithin step ((← get).length + 1)

/-- The identifier of a token. Any word may name something, and so may a text in quotes. -/
def identifierOf? : Token → Option Identifier
  | .word text _ => some ⟨text, none⟩
  | .quotedName name => some ⟨name, some '"'⟩
  | .text value => some ⟨value, some '\''⟩
  | _ => none

def identifier : Grammar Identifier := do
  match identifierOf? (← next) with
  | some identifier => pure identifier
  | none => failure

/-- A name of one or more parts with points between them. -/
def objectName : Grammar (List Identifier) := do
  let first ← identifier
  let rest ← many (do if ← acceptSign "." then some <$> identifier else pure none)
  pure (first :: rest)

/-- The alias that follows, if any. After `AS` any identifier is one; without it the given words
are not. -/
def optionalAlias (reserved : List String) : Grammar (Option String) := do
  let marked ← acceptWord "AS"
  let tokens ← get
  match tokens with
  | .word text keyword :: rest =>
    if marked || !reserved.contains keyword then
      set rest
      pure (some text)
    else pure none
  | .quotedName name :: rest => set rest; pure (some name)
  | .text value :: rest => set rest; pure (some value)
  | _ => if marked then failure else pure none

/-- Words that are not taken for the alias of an expression. -/
def reservedForColumns : List String :=
  ["WITH", "EXPLAIN", "ANALYZE", "SELECT", "WHERE", "GROUP", "SORT", "HAVING", "ORDER", "TOP",
    "LATERAL", "VIEW", "LIMIT", "OFFSET", "FETCH", "UNION", "EXCEPT", "INTERSECT", "CLUSTER",
    "DISTRIBUTE", "RETURNING", "FROM", "INTO", "END"]

/-- Words that are not taken for the alias of a table. -/
def reservedForTables : List String :=
  ["WITH", "EXPLAIN", "ANALYZE", "SELECT", "WHERE", "GROUP", "SORT", "HAVING", "ORDER", "PIVOT",
    "UNPIVOT", "TOP", "LATERAL", "VIEW", "LIMIT", "OFFSET", "FETCH", "UNION", "EXCEPT",
    "INTERSECT", "ON", "JOIN", "INNER", "CROSS", "FULL", "LEFT", "RIGHT", "NATURAL", "USING",
    "CLUSTER", "DISTRIBUTE", "GLOBAL", "ANTI", "SEMI", "RETURNING", "ASOF", "MATCH_CONDITION",
    "OUTER", "SET", "QUALIFY", "WINDOW", "END", "FOR", "PARTITION", "PREWHERE", "SETTINGS",
    "FORMAT", "START", "CONNECT", "MATCH_RECOGNIZE", "SAMPLE", "TABLESAMPLE"]

/-- Words with a meaning of their own, which are not taken for a text. -/
def knownWords : List String :=
  ["ALL", "ALTER", "ANALYZE", "AND", "ANTI", "ANY", "ARRAY", "AS", "ASC", "AT", "AVG", "BEGIN",
    "BETWEEN", "BIGINT", "BINARY", "BIT", "BLOB", "BOOL", "BOOLEAN", "BY", "BYTEA", "CASCADE", "CASE",
    "CAST", "CEIL", "CHAR", "CHARACTER", "CHECK", "CLOB", "CLUSTER", "COLLATE", "COLUMN", "COMMENT",
    "COMMIT", "CONSTRAINT", "CONVERT", "COUNT", "CREATE", "CROSS", "CUBE", "CURRENT",
    "CURRENT_DATE", "CURRENT_TIME", "CURRENT_TIMESTAMP", "CURRENT_USER", "DATA", "DATABASE", "DATE",
    "DATETIME", "DAY", "DECIMAL", "DEFAULT", "DELETE", "DESC", "DESCRIBE", "DISTINCT", "DISTRIBUTE",
    "DIV", "DOUBLE", "DROP", "ELSE", "END", "ESCAPE", "EXCEPT", "EXECUTE", "EXISTS", "EXPLAIN",
    "EXTRACT", "FALSE", "FETCH", "FILTER", "FIRST", "FLOAT", "FLOOR", "FOLLOWING", "FOR", "FOREIGN",
    "FORMAT", "FROM", "FULL", "FUNCTION", "GLOBAL", "GRANT", "GROUP", "GROUPING", "GROUPS", "HAVING",
    "HOUR", "IF", "IGNORE", "ILIKE", "IN", "INDEX", "INNER", "INSERT", "INT", "INTEGER", "INTERSECT",
    "INTERVAL", "INTO", "IS", "JOIN", "JSON", "JSONB", "KEY", "LANGUAGE", "LAST", "LATERAL", "LEFT",
    "LIKE", "LIMIT", "LOCALTIME", "LOCALTIMESTAMP", "LOCATION", "MATCH", "MAX", "MERGE", "MIN",
    "MINUTE", "MONTH", "NAME", "NATURAL", "NEXT", "NO", "NOT", "NULL", "NULLS", "NUMERIC", "OF",
    "OFFSET", "ON", "ONLY", "OPERATOR", "OPTION", "OR", "ORDER", "OUTER", "OVER", "OVERLAPS",
    "OVERLAY", "OWNER", "PARTITION", "PERCENT", "PLAN", "POSITION", "PRECEDING", "PRECISION",
    "PRIMARY", "QUALIFY", "RANGE", "REAL", "RECURSIVE", "REFERENCES", "REGEXP", "REPLACE", "RESPECT",
    "RESTRICT", "RETURNING", "RIGHT", "RLIKE", "ROLE", "ROLLBACK", "ROLLUP", "ROW", "ROWS", "SCHEMA",
    "SECOND", "SELECT", "SEMI", "SEQUENCE", "SET", "SETS", "SHOW", "SIMILAR", "SMALLINT", "SOME",
    "SORT", "START", "STRING", "SUBSTRING", "TABLE", "TABLESAMPLE", "TEMP", "TEMPORARY", "TEXT",
    "THEN", "TIES", "TIME", "TIMESTAMP", "TIMESTAMPTZ", "TIMETZ", "TINYINT", "TO", "TOP", "TRIGGER",
    "TRIM", "TRUE", "TRUNCATE", "TYPE", "UNBOUNDED", "UNION", "UNIQUE", "UNKNOWN", "UNNEST",
    "UPDATE", "USER", "USING", "UUID", "VALUE", "VALUES", "VARBINARY", "VARCHAR", "VARYING", "VIEW",
    "WEEK", "WHEN", "WHERE", "WINDOW", "WITH", "WITHIN", "WITHOUT", "WORK", "XOR", "YEAR", "ZONE"]

/-- A text: one in quotes, or a word without a meaning of its own. -/
def literalText : Grammar String := do
  match ← next with
  | .text value => pure value
  | .escapedText value => pure value
  | .quotedName name => pure name
  | .word text keyword => if knownWords.contains keyword then failure else pure text
  | _ => failure

/-- An unsigned number of 64 bits, as it is shown. -/
def unsignedNumber : Grammar String := do
  match ← next with
  | .number text _ =>
    match Text.readNat? text.toList with
    | some number =>
      if number < 18446744073709551616 then pure (String.ofList (Text.writeNat number)) else failure
    | none => failure
  | _ => failure

end Grammar

end CrossQuery.Select
