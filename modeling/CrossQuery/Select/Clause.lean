import CrossQuery.Select.Phrase

/-!
# Clauses of the grammar

Tables, joins, queries and statements. Clauses without a part in the result are read past.
-/

set_option autoImplicit false

namespace CrossQuery.Select.Grammar

/-- The columns of an alias, each with a type or without. -/
def aliasColumn : Grammar Unit := do
  let _ ← identifier
  let _ ← attempt dataType

/-- The alias of a table and the names it gives to the columns. -/
def tableAlias : Grammar (Option String) := do
  match ← optionalAlias reservedForTables with
  | some name =>
    if ← acceptSign "(" then
      let _ ← items aliasColumn
      expectSign ")"
    pure (some name)
  | none => pure none

/-- A query in parentheses as a table, after the opening one. -/
def derivedTable (below : Nested) : Grammar TreeTable := do
  let _ ← below.query
  expectSign ")"
  let _ ← tableAlias
  pure .other

/-- Joined tables in parentheses, after the opening one. -/
def joinedTable (below : Nested) : Grammar TreeTable := do
  let source ← below.source
  match source.joins, source.table with
  | [], .joined => pure ()
  | [], _ => failure
  | _, _ => pure ()
  expectSign ")"
  let _ ← tableAlias
  pure .joined

/-- A table by its name, with what may follow the name. -/
def namedTable (below : Nested) : Grammar TreeTable := do
  let name ← objectName
  if ← acceptSign "(" then
    if !(← acceptSign ")") then
      let _ ← items (callArgument below)
      expectSign ")"
  let _ ← acceptWords ["WITH", "ORDINALITY"]
  let givenName ← tableAlias
  let _ ← attempt do
    expectWord "WITH"
    parenthesised (items below.whole)
  pure (.named name givenName)

def unnestTable (below : Nested) : Grammar TreeTable := do
  let _ ← parenthesised (items below.whole)
  let _ ← acceptWords ["WITH", "ORDINALITY"]
  let _ ← tableAlias
  if ← acceptWords ["WITH", "OFFSET"] then
    let _ ← optionalAlias reservedForColumns
  pure .other

def tablePhrase (below : Nested) : Grammar TreeTable := do
  if ← acceptWord "LATERAL" then
    if ← acceptSign "(" then derivedTable below
    else
      let _ ← objectName
      expectSign "("
      if !(← acceptSign ")") then
        let _ ← items (callArgument below)
        expectSign ")"
      let _ ← tableAlias
      pure .other
  else if ← acceptWord "TABLE" then
    let _ ← parenthesised below.whole
    let _ ← tableAlias
    pure .other
  else if ← acceptSign "(" then
    match ← attempt (derivedTable below) with
    | some table => pure table
    | none => joinedTable below
  else if ← acceptWord "UNNEST" then unnestTable below
  else namedTable below

def constraint (below : Nested) (natural : Bool) : Grammar TreeConstraint := do
  if natural then pure .other
  else if ← acceptWord "ON" then pure (.on (← below.whole))
  else if ← acceptWord "USING" then
    let _ ← parenthesised (items identifier)
    pure .other
  else pure .other

/-- The words that introduce a join of two sides, and its kind if it is supported. -/
def joinWords (natural : Bool) : Grammar (Option (Option JoinKind)) := do
  let side (kind : Option JoinKind) : Grammar (Option (Option JoinKind)) := do
    match ← acceptAnyWord ["OUTER", "SEMI", "ANTI", "JOIN"] with
    | some "JOIN" => pure (some kind)
    | some "OUTER" => expectWord "JOIN"; pure (some kind)
    | some _ => expectWord "JOIN"; pure (some none)
    | none => failure
  match ← peekWord with
  | "INNER" => expectWord "INNER"; expectWord "JOIN"; pure (some (some .inner))
  | "JOIN" => expectWord "JOIN"; pure (some (some .inner))
  | "LEFT" => expectWord "LEFT"; side (some .left)
  | "RIGHT" => expectWord "RIGHT"; side none
  | "ANTI" => expectWord "ANTI"; expectWord "JOIN"; pure (some none)
  | "SEMI" => expectWord "SEMI"; expectWord "JOIN"; pure (some none)
  | "FULL" =>
    expectWord "FULL"
    let _ ← acceptWord "OUTER"
    expectWord "JOIN"
    pure (some none)
  | _ => if natural then failure else pure none

def join (below : Nested) : Grammar (Option TreeJoin) := do
  let _ ← acceptWord "GLOBAL"
  if ← acceptWord "CROSS" then
    match ← acceptAnyWord ["JOIN", "APPLY"] with
    | some _ => pure (some ⟨none, ← below.table, .other⟩)
    | none => failure
  else if ← acceptWord "OUTER" then
    expectWord "APPLY"
    pure (some ⟨none, ← below.table, .other⟩)
  else if ← acceptWord "ASOF" then
    expectWord "JOIN"
    let table ← below.table
    expectWord "MATCH_CONDITION"
    let _ ← parenthesised below.whole
    pure (some ⟨none, table, ← constraint below false⟩)
  else
    let natural ← acceptWord "NATURAL"
    match ← joinWords natural with
    | some kind =>
      let table ← below.table
      pure (some ⟨kind, table, ← constraint below natural⟩)
    | none => pure none

def sourcePhrase (below : Nested) : Grammar TreeSource := do
  let table ← tablePhrase below
  let joins ← many (join below)
  pure ⟨table, joins⟩

/-- Whether an expression is the bare word that ends a projection. -/
def isBareFrom : Tree → Bool
  | .identifier ⟨name, none⟩ => name.toList.map Char.toLower == ['f', 'r', 'o', 'm']
  | _ => false

def projection (below : Nested) : Grammar TreeProjection := do
  match ← wildcardOr below with
  | .star => pure .star
  | .argument _ => pure .star
  | expression =>
    if isBareFrom expression then failure
    let givenName ← optionalAlias reservedForColumns
    pure (.expression expression givenName)

/-- Whether duplicates are dropped. The expressions that decide it are read past. -/
def distinctness (below : Nested) : Grammar Bool := do
  let all ← acceptWord "ALL"
  if ← acceptWord "DISTINCT" then
    if all then failure
    if ← acceptWord "ON" then
      expectSign "("
      if !(← acceptSign ")") then
        let _ ← items below.whole
        expectSign ")"
    pure true
  else pure false

/-- The number of rows behind `TOP`. -/
def topCount (below : Nested) : Grammar Unit := do
  if ← acceptSign "(" then
    let _ ← below.whole
    expectSign ")"
  else
    let _ ← unsignedNumber
  let _ ← acceptWord "PERCENT"
  let _ ← acceptWords ["WITH", "TIES"]

def intoTable : Grammar Unit := do
  let _ ← acceptAnyWord ["TEMP", "TEMPORARY"]
  let _ ← acceptWord "UNLOGGED"
  let _ ← acceptWord "TABLE"
  let _ ← objectName

/-- Several expressions in parentheses, possibly none. -/
def tuple (below : Nested) : Grammar Unit := do
  expectSign "("
  if !(← acceptSign ")") then
    let _ ← items below.whole
    expectSign ")"

/-- Several expressions in parentheses, or a single one without them. -/
def liftedTuple (below : Nested) : Grammar Unit := do
  if ← peekSign "(" then tuple below
  else
    let _ ← below.whole

def groupKey (below : Nested) : Grammar Tree := do
  if ← acceptWords ["GROUPING", "SETS"] then
    let _ ← parenthesised (items (tuple below))
    pure (.unsupported "")
  else
    match ← acceptAnyWord ["CUBE", "ROLLUP"] with
    | some _ =>
      let _ ← parenthesised (items (liftedTuple below))
      pure (.unsupported "")
    | none =>
      let empty ← attempt do
        expectSign "("
        expectSign ")"
      match empty with
      | some _ => pure (.unsupported "")
      | none => below.whole

/-- The expressions to group by, if any. -/
def groups (below : Nested) : Grammar TreeGroups := do
  if ← acceptWords ["GROUP", "BY"] then
    if ← acceptWord "ALL" then pure .all
    else .expressions <$> items (groupKey below)
  else pure (.expressions [])

/-- A list of expressions behind two words, if the words follow. -/
def listBehind (below : Nested) (words : List String) : Grammar Unit := do
  if ← acceptWords words then
    let _ ← items below.whole

def namedWindow (below : Nested) : Grammar Unit := do
  let _ ← identifier
  expectWord "AS"
  parenthesised (windowSpec below)

/-- An expression behind a word, if the word follows. -/
def expressionBehind (below : Nested) (word : String) : Grammar (Option Tree) := do
  if ← acceptWord word then some <$> below.whole else pure none

/-- A SELECT up to its groups and windows. -/
def select (below : Nested) : Grammar TreeSelect := do
  expectWord "SELECT"
  let distinct ← distinctness below
  if ← acceptWord "TOP" then topCount below
  let projections ← items (projection below)
  if ← acceptWord "INTO" then intoTable
  let sources ← if ← acceptWord "FROM" then items below.source else pure []
  let filter ← expressionBehind below "WHERE"
  let grouped ← groups below
  listBehind below ["CLUSTER", "BY"]
  listBehind below ["DISTRIBUTE", "BY"]
  listBehind below ["SORT", "BY"]
  let having ← expressionBehind below "HAVING"
  let windows (_ : Unit) : Grammar Bool := do
    if ← acceptWord "WINDOW" then
      let _ ← items (namedWindow below)
      pure true
    else pure false
  let windowed ← windows ()
  if (← expressionBehind below "QUALIFY").isSome && !windowed then
    let _ ← windows ()
  pure
    { distinct := distinct
      projections := projections
      sources := sources
      filter := filter
      groups := grouped
      having := having.isSome }

def valuesRow (below : Nested) : Grammar Unit := do
  let _ ← acceptWord "ROW"
  let _ ← parenthesised (items below.whole)

/-- A part of a query body between the operators on sets. -/
def bodyPart (below : Nested) : Grammar TreeBody := do
  if (← peekWord) = "SELECT" then .select <$> select below
  else if ← acceptSign "(" then
    let _ ← below.query
    expectSign ")"
    pure .other
  else if ← acceptWord "VALUES" then
    let _ ← items (valuesRow below)
    pure .other
  else
    expectWord "TABLE"
    let _ ← objectName
    pure .other

/-- A further part of a query body behind an operator on sets. -/
def furtherPart (below : Nested) : Grammar (Option Unit) := do
  match ← acceptAnyWord ["UNION", "EXCEPT", "INTERSECT"] with
  | some _ =>
    let _ ← acceptAnyWord ["ALL", "DISTINCT"]
    let _ ← acceptWords ["BY", "NAME"]
    let _ ← bodyPart below
    pure (some ())
  | none => pure none

def body (below : Nested) : Grammar TreeBody := do
  let first ← bodyPart below
  match ← many (furtherPart below) with
  | [] => pure first
  | _ => pure .other

/-- A named query in front of another. -/
def commonTable (below : Nested) : Grammar Unit := do
  let _ ← identifier
  if ← acceptSign "(" then
    let _ ← items aliasColumn
    expectSign ")"
  expectWord "AS"
  let _ ← acceptWord "NOT"
  let _ ← acceptWord "MATERIALIZED"
  let _ ← parenthesised below.query

/-- A limit, unless one is known. -/
def limitClause (below : Nested) (known : Option Tree) : Grammar (Option Tree) := do
  if known.isSome then pure known
  else if ← acceptWord "LIMIT" then
    if ← acceptWord "ALL" then pure none else some <$> below.whole
  else pure none

/-- An offset, unless one is known. -/
def offsetClause (below : Nested) (known : Option Tree) : Grammar (Option Tree) := do
  if known.isSome then pure known
  else if ← acceptWord "OFFSET" then
    let value ← below.whole
    let _ ← acceptAnyWord ["ROW", "ROWS"]
    pure (some value)
  else pure none

/-- The number of rows that are fetched. -/
def fetchClause : Grammar Unit := do
  if ← acceptWord "FETCH" then
    match ← acceptAnyWord ["FIRST", "NEXT"] with
    | none => failure
    | some _ =>
      match ← acceptAnyWord ["ROW", "ROWS"] with
      | some _ => pure ()
      | none =>
        match ← next with
        | .number _ _ | .text _ | .constant _ | .escapedText _ => pure ()
        | token =>
          if token.isWord "NULL" || token.isWord "TRUE" || token.isWord "FALSE" then pure ()
          else failure
        let _ ← acceptWord "PERCENT"
        match ← acceptAnyWord ["ROW", "ROWS"] with
        | some _ => pure ()
        | none => failure
      if !(← acceptWord "ONLY") then expectWords ["WITH", "TIES"]

/-- A lock on the rows, if one follows. -/
def lock : Grammar (Option Unit) := do
  if ← acceptWord "FOR" then
    match ← acceptAnyWord ["UPDATE", "SHARE"] with
    | none => failure
    | some _ =>
      if ← acceptWord "OF" then
        let _ ← objectName
      if !(← acceptWord "NOWAIT") then
        let _ ← acceptWords ["SKIP", "LOCKED"]
      pure (some ())
  else pure none

def queryPhrase (below : Nested) : Grammar TreeQuery := do
  let hasWith ← acceptWord "WITH"
  if hasWith then
    let _ ← acceptWord "RECURSIVE"
    let _ ← items (commonTable below)
  let body ← body below
  let orderBy ← optionalOrder below
  let limit ← limitClause below none
  let offset ← offsetClause below none
  let limit ← limitClause below limit
  let offset ← offsetClause below offset
  fetchClause
  let _ ← many lock
  pure ⟨hasWith, body, orderBy, limit, offset⟩

/-- The readers of phrases that nest fewer levels than the given number. -/
def level : Nat → Nested
  | 0 => .bottom
  | depth + 1 =>
    let below := level depth
    { expression := expressionPhrase below
      primary := primaryPhrase below
      query := queryPhrase below
      source := sourcePhrase below
      table := tablePhrase below }

def assignment (below : Nested) : Grammar Unit := do
  if ← peekSign "(" then
    let _ ← parenthesised (items objectName)
  else
    let _ ← objectName
  expectSign "="
  let _ ← below.whole

/-- What a statement returns of the rows that it changes. -/
def returning (below : Nested) : Grammar Unit := do
  if ← acceptWord "RETURNING" then
    let _ ← items (projection below)

def deleteTail (below : Nested) : Grammar Unit := do
  if !(← acceptWord "FROM") then
    let _ ← items objectName
    expectWord "FROM"
  let _ ← items below.source
  if ← acceptWord "USING" then
    let _ ← items below.source
  let _ ← expressionBehind below "WHERE"
  returning below
  let _ ← optionalOrder below
  let _ ← limitClause below none

def updateTail (below : Nested) : Grammar Unit := do
  let _ ← below.source
  expectWord "SET"
  let _ ← items (assignment below)
  if ← acceptWord "FROM" then
    let _ ← below.source
  let _ ← expressionBehind below "WHERE"
  returning below

def insertTail (below : Nested) : Grammar Unit := do
  let _ ← acceptWord "INTO"
  let _ ← acceptWord "TABLE"
  let _ ← objectName
  if ← acceptWord "AS" then
    let _ ← identifier
  if !(← acceptWords ["DEFAULT", "VALUES"]) then
    let _ ← attempt (parenthesised (items identifier))
    let _ ← below.query
  if ← acceptWords ["ON", "CONFLICT"] then
    if ← peekSign "(" then
      let _ ← parenthesised (items identifier)
    expectWord "DO"
    if ← acceptWord "NOTHING" then pure ()
    else
      expectWords ["UPDATE", "SET"]
      let _ ← items (assignment below)
      let _ ← expressionBehind below "WHERE"
  returning below

def dropTail : Grammar Unit := do
  match ← acceptAnyWord ["TABLE", "VIEW", "INDEX", "ROLE", "SCHEMA", "DATABASE", "SEQUENCE",
      "STAGE", "TYPE"] with
  | none => failure
  | some _ =>
    let _ ← acceptWords ["IF", "EXISTS"]
    let _ ← items objectName
    let _ ← acceptAnyWord ["CASCADE", "RESTRICT"]
    let _ ← acceptWord "PURGE"

/-- The tokens up to the end of the statement. Parentheses have to match. -/
def skipStatement : Nat → List Token → Option (List Token)
  | 0, [] => some []
  | _ + 1, [] => none
  | depth, .sign "(" :: rest => skipStatement (depth + 1) rest
  | depth + 1, .sign ")" :: rest => skipStatement depth rest
  | 0, .sign ")" :: _ => none
  | 0, .sign ";" :: rest => some (.sign ";" :: rest)
  | depth, _ :: rest => skipStatement depth rest

/-- A statement that is not looked into, apart from its needing at least one more token. -/
def skippedTail : Grammar Unit := fun tokens =>
  match tokens with
  | [] => none
  | .sign ";" :: _ => none
  | tokens => (skipStatement 0 tokens).map fun rest => ((), rest)

/-- A statement that is not looked into. -/
def looseTail : Grammar Unit := fun tokens =>
  (skipStatement 0 tokens).map fun rest => ((), rest)

/-- Words that begin statements of other kinds and need more words. -/
def otherStatements : List String :=
  ["KILL", "FLUSH", "DESC", "DESCRIBE", "EXPLAIN", "ANALYZE", "TRUNCATE", "ATTACH", "DETACH", "MSCK",
    "CREATE", "CACHE", "DISCARD", "DECLARE", "FETCH", "REPLACE", "UNCACHE", "ALTER", "CALL", "COPY",
    "CLOSE", "SET", "SHOW", "USE", "GRANT", "REVOKE", "START", "SAVEPOINT", "RELEASE", "ASSERT",
    "DEALLOCATE", "EXECUTE", "EXEC", "PREPARE", "MERGE", "LISTEN", "UNLISTEN", "NOTIFY", "PRAGMA",
    "UNLOAD", "INSTALL", "LOAD", "OPTIMIZE", "COMMENT"]

def statement (below : Nested) : Grammar TreeStatement := do
  if ← peekSign "(" then .query <$> below.query
  else
    let word ← peekWord
    if ["SELECT", "WITH", "VALUES", "FROM"].contains word then .query <$> below.query
    else
      let _ ← next
      if word = "DELETE" then deleteTail below
      else if word = "UPDATE" then updateTail below
      else if word = "INSERT" then insertTail below
      else if word = "DROP" then dropTail
      else if ["BEGIN", "COMMIT", "ROLLBACK", "END"].contains word then looseTail
      else if otherStatements.contains word then skippedTail
      else failure
      pure .other

/-- The statements of a text, each of which ends at a semicolon or at the end of the text. `ended`
says that one has just been read. `fuel` bounds the steps. -/
def statementsWithin (below : Nested) : Nat → Bool → Grammar (List TreeStatement)
  | 0, _ => failure
  | fuel + 1, ended => do
    if ← acceptSign ";" then statementsWithin below fuel false
    else
      match ← get with
      | [] => pure []
      | token :: _ =>
        if ended then
          if token.isWord "END" then pure [] else failure
        else
          let first ← statement below
          pure (first :: (← statementsWithin below fuel true))

end Grammar

def readStatements? (text : String) : Option (List TreeStatement) := do
  let tokens ← Token.ofText? text
  let below := Grammar.level (tokens.length + 1)
  let (statements, _) ← (Grammar.statementsWithin below (2 * tokens.length + 2) false).run tokens
  some statements

end CrossQuery.Select
