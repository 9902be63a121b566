import CrossQuery.Select.Grammar

/-!
# Names of data types

The types that an expression may be converted to, by the text that shows them.
-/

set_option autoImplicit false

namespace CrossQuery.Select

inductive DataType where
  | known (text : String)
  | interval
  /-- A type that only its name makes one. -/
  | custom (text : String)

def DataType.text : DataType → String
  | .known text => text
  | .interval => "INTERVAL"
  | .custom text => text

namespace Grammar

/-- What may stand behind the name of a type. -/
inductive TypeSuffix where
  | none
  /-- A number in parentheses. -/
  | size
  /-- A number in parentheses, and the word that makes integers unsigned. -/
  | integer
  /-- A count of characters in parentheses. -/
  | characters
  /-- A precision and a scale. -/
  | exact

/-- The types of one word and what may stand behind them. -/
def simpleTypes : List (String × TypeSuffix) :=
  [("BOOLEAN", .none), ("BOOL", .none), ("FLOAT", .size), ("REAL", .none), ("FLOAT4", .none),
    ("FLOAT8", .none), ("FLOAT32", .none), ("FLOAT64", .none), ("TINYINT", .integer),
    ("SMALLINT", .integer), ("MEDIUMINT", .integer), ("INT", .integer), ("INT2", .integer),
    ("INT4", .integer), ("INT8", .integer), ("INT16", .none), ("INT32", .none), ("INT64", .none),
    ("INT128", .none), ("INT256", .none), ("INTEGER", .integer), ("BIGINT", .integer),
    ("UINT8", .none), ("UINT16", .none), ("UINT32", .none), ("UINT64", .none),
    ("UINT128", .none), ("UINT256", .none), ("VARCHAR", .characters), ("NVARCHAR", .characters),
    ("CLOB", .size), ("BINARY", .size), ("VARBINARY", .size), ("BLOB", .size),
    ("TINYBLOB", .none), ("MEDIUMBLOB", .none), ("LONGBLOB", .none), ("BYTES", .size),
    ("UUID", .none), ("DATE", .none), ("DATE32", .none), ("DATETIME", .size), ("JSON", .none),
    ("JSONB", .none), ("REGCLASS", .none), ("STRING", .size), ("TEXT", .none),
    ("TINYTEXT", .none), ("MEDIUMTEXT", .none), ("LONGTEXT", .none), ("BYTEA", .none),
    ("NUMERIC", .exact), ("DECIMAL", .exact), ("DEC", .exact), ("BIGNUMERIC", .exact),
    ("BIGDECIMAL", .exact), ("TRIGGER", .none)]

def optionalSize : Grammar String := do
  if ← peekSign "(" then
    let size ← parenthesised unsignedNumber
    pure ("(" ++ size ++ ")")
  else pure ""

/-- A count of characters with its unit, or the word for the greatest one. -/
def characterCount : Grammar String := do
  if ← acceptWord "MAX" then pure "MAX"
  else
    let size ← unsignedNumber
    match ← acceptAnyWord ["CHARACTERS", "OCTETS"] with
    | some unit => pure (size ++ " " ++ unit)
    | none => pure size

/-- A count of characters in parentheses, or nothing. -/
def optionalCharacters : Grammar String := do
  if ← peekSign "(" then
    let size ← parenthesised characterCount
    pure ("(" ++ size ++ ")")
  else pure ""

/-- A precision and possibly a scale in parentheses, or nothing. -/
def optionalExact : Grammar String := do
  if ← acceptSign "(" then
    let precision ← unsignedNumber
    let scale ← if ← acceptSign "," then (fun scale => "," ++ scale) <$> unsignedNumber else pure ""
    expectSign ")"
    pure ("(" ++ precision ++ scale ++ ")")
  else pure ""

def typeSuffix : TypeSuffix → Grammar String
  | .none => pure ""
  | .size => optionalSize
  | .integer => do
    let size ← optionalSize
    if ← acceptWord "UNSIGNED" then pure (size ++ " UNSIGNED") else pure size
  | .characters => optionalCharacters
  | .exact => optionalExact

/-- Whether a time is kept with its zone. -/
def optionalZone : Grammar String := do
  if ← acceptWord "WITH" then
    expectWords ["TIME", "ZONE"]
    pure " WITH TIME ZONE"
  else if ← acceptWord "WITHOUT" then
    expectWords ["TIME", "ZONE"]
    pure " WITHOUT TIME ZONE"
  else pure ""

/-- The types of characters that begin with the given word. -/
def characterType (word : String) : Grammar String := do
  if ← acceptWord "VARYING" then
    pure (word ++ " VARYING" ++ (← optionalCharacters))
  else if ← acceptWords ["LARGE", "OBJECT"] then
    pure (word ++ " LARGE OBJECT" ++ (← optionalSize))
  else
    pure (word ++ (← optionalCharacters))

/-- The words, numbers and texts in the parentheses behind a custom type, at most `fuel`. -/
def modifiersWithin : Nat → Grammar (List String)
  | 0 => failure
  | fuel + 1 => do
    match ← next with
    | .word text _ => pure (text :: (← modifiersWithin fuel))
    | .quotedName name => pure (displayQuoted '"' name :: (← modifiersWithin fuel))
    | .number text _ => pure (text :: (← modifiersWithin fuel))
    | .text value => pure (value :: (← modifiersWithin fuel))
    | .sign "," => modifiersWithin fuel
    | .sign ")" => pure []
    | _ => failure

/-- A type that only its name makes one. -/
def customType : Grammar String := do
  let name ← objectName
  if ← acceptSign "(" then
    match ← modifiersWithin ((← get).length + 1) with
    | [] => pure (displayName name)
    | modifiers => pure (displayName name ++ "(" ++ String.intercalate ", " modifiers ++ ")")
  else pure (displayName name)

/-- A data type without the brackets of an array. -/
def elementType : Grammar DataType := do
  match ← peekWord with
  | "DOUBLE" =>
    expectWord "DOUBLE"
    if ← acceptWord "PRECISION" then pure (.known "DOUBLE PRECISION") else pure (.known "DOUBLE")
  | "CHARACTER" =>
    expectWord "CHARACTER"
    .known <$> characterType "CHARACTER"
  | "CHAR" =>
    expectWord "CHAR"
    .known <$> characterType "CHAR"
  | "BIT" =>
    expectWord "BIT"
    if ← acceptWord "VARYING" then
      pure (.known ("BIT VARYING" ++ (← optionalSize)))
    else
      pure (.known ("BIT" ++ (← optionalSize)))
  | "TIMESTAMP" =>
    expectWord "TIMESTAMP"
    let size ← optionalSize
    pure (.known ("TIMESTAMP" ++ size ++ (← optionalZone)))
  | "TIME" =>
    expectWord "TIME"
    let size ← optionalSize
    pure (.known ("TIME" ++ size ++ (← optionalZone)))
  | "TIMESTAMPTZ" =>
    expectWord "TIMESTAMPTZ"
    pure (.known ("TIMESTAMPTZ" ++ (← optionalSize)))
  | "TIMETZ" =>
    expectWord "TIMETZ"
    pure (.known ("TIMETZ" ++ (← optionalSize)))
  | "INTERVAL" =>
    expectWord "INTERVAL"
    pure .interval
  | "ENUM" | "SET" | "ARRAY" => failure
  | word =>
    match simpleTypes.lookup word with
    | some suffix =>
      expectWord word
      pure (.known (word ++ (← typeSuffix suffix)))
    | none => .custom <$> customType

/-- The brackets behind the type of an array's items. -/
def arrayBrackets : Grammar (Option String) := do
  if ← acceptSign "[" then
    let size ← attempt unsignedNumber
    expectSign "]"
    pure (some ("[" ++ size.getD "" ++ "]"))
  else pure none

def dataType : Grammar DataType := do
  let element ← elementType
  match ← many arrayBrackets with
  | [] => pure element
  | brackets => pure (.known (element.text ++ String.join brackets))

end Grammar

end CrossQuery.Select
