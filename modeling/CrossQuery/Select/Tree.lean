import CrossQuery.Select.Token
import CrossQuery.Select.Writer

/-!
# Syntax trees

Statements and expressions as they are written, before it is checked whether they belong to the
supported part of the language. What never belongs to it is kept by its text alone.
-/

set_option autoImplicit false

namespace CrossQuery.Select

/-- An identifier, with the quote it is written in. -/
structure Identifier where
  name : String
  quote : Option Char
deriving DecidableEq

/-- A text as it is shown between quotes: a quote is doubled unless a backslash or a quote stands
before it. -/
def shownQuoted (quote : Char) : Char → List Char → List Char
  | _, [] => []
  | previous, c :: rest =>
    if c = quote then
      if previous = '\\' then c :: shownQuoted quote previous rest
      else
        match rest with
        | next :: rest =>
          if next = quote then c :: c :: shownQuoted quote c rest
          else c :: c :: shownQuoted quote c (next :: rest)
        | [] => [c, c]
    else c :: shownQuoted quote c rest
termination_by _ text => text.length

/-- A text as it is shown between quotes. -/
def displayQuoted (quote : Char) (text : String) : String :=
  String.ofList (quote :: (shownQuoted quote (Char.ofNat 0) text.toList ++ [quote]))

def Identifier.display (identifier : Identifier) : String :=
  match identifier.quote with
  | some quote => displayQuoted quote identifier.name
  | none => identifier.name

/-- A name of several parts as it is shown. -/
def displayName (parts : List Identifier) : String :=
  String.intercalate "." (parts.map Identifier.display)

/-- The written operators that an expression may have between its parts. -/
inductive InfixOperator where
  | known (operator : BinaryOperator)
  /-- Another operator, by its name and its sign. -/
  | other (name sign : String)

def InfixOperator.display : InfixOperator → String
  | .known operator => operator.write
  | .other _ sign => sign

/-- Whether an operator compares, so that it may stand before `ANY` and `ALL`. -/
def InfixOperator.isComparison : InfixOperator → Bool
  | .known (.compare _) => true
  | _ => false

/-- The written operators that an expression may begin with. -/
inductive PrefixOperator where
  | known (operator : UnaryOperator)
  | other (name sign : String)

def PrefixOperator.display : PrefixOperator → String
  | .known .not => "NOT "
  | .known .minus => "-"
  | .other _ sign => sign

/-- How a conversion is written. -/
inductive CastForm where
  | call (name : String)
  | doubleColon
deriving DecidableEq

/-- An expression as it is written. -/
inductive Tree where
  | identifier (identifier : Identifier)
  | path (parts : List Identifier)
  | number (text : String) (long : Bool)
  | text (value : String)
  | boolean (value : Bool)
  | null
  /-- A constant of a kind that is not supported. -/
  | constant (shown : String)
  | binary (operator : InfixOperator) (left right : Tree)
  | unary (operator : PrefixOperator) (operand : Tree)
  /-- A call; `arguments` is empty for a function that is named without parentheses. -/
  | call (name : List Identifier) (arguments : Option (List Tree)) (distinct windowed : Bool)
  | star
  /-- An argument that is not a plain expression. -/
  | argument (shown : String)
  | inList (operand : Tree) (items : List Tree) (negated : Bool)
  | between (operand least greatest : Tree) (negated : Bool)
  | isNull (operand : Tree) (negated : Bool)
  | cast (operand : Tree) (type : String) (form : CastForm)
  | like (operand pattern : Tree) (escape : Option String) (negated : Bool)
  | nested (inner : Tree)
  /-- An expression of a kind that is not supported. -/
  | unsupported (shown : String)
deriving Inhabited

namespace Tree

mutual

def display : Tree → String
  | .identifier name => name.display
  | .path parts => displayName parts
  | .number digits long => if long then digits ++ "L" else digits
  | .text value => displayQuoted '\'' value
  | .boolean value => if value then "true" else "false"
  | .null => "NULL"
  | .constant shown => shown
  | .binary operator left right => left.display ++ " " ++ operator.display ++ " " ++ right.display
  | .unary operator operand => operator.display ++ operand.display
  | .call name none _ _ => displayName name
  | .call name (some arguments) distinct _ =>
    displayName name ++ "(" ++ (if distinct then "DISTINCT " else "") ++ displayAll arguments ++ ")"
  | .star => "*"
  | .argument shown => shown
  | .inList operand items negated =>
    operand.display ++ (if negated then " NOT IN (" else " IN (") ++ displayAll items ++ ")"
  | .between operand least greatest negated =>
    operand.display ++ (if negated then " NOT BETWEEN " else " BETWEEN ") ++ least.display ++ " AND " ++
      greatest.display
  | .isNull operand negated => operand.display ++ (if negated then " IS NOT NULL" else " IS NULL")
  | .cast operand type (.call name) => name ++ "(" ++ operand.display ++ " AS " ++ type ++ ")"
  | .cast operand type .doubleColon => operand.display ++ "::" ++ type
  | .like operand pattern escape negated =>
    operand.display ++ (if negated then " NOT LIKE " else " LIKE ") ++ pattern.display ++
      (match escape with
        | some character => " ESCAPE '" ++ character ++ "'"
        | none => "")
  | .nested inner => "(" ++ inner.display ++ ")"
  | .unsupported shown => shown

def displayAll : List Tree → String
  | [] => ""
  | [only] => only.display
  | first :: rest => first.display ++ ", " ++ displayAll rest

end

end Tree

inductive TreeProjection where
  | expression (expression : Tree) (givenName : Option String)
  | star
deriving Inhabited

inductive TreeTable where
  | named (name : List Identifier) (givenName : Option String)
  /-- A table of a kind that is not supported. -/
  | other
  /-- Joined tables in parentheses. -/
  | joined
deriving Inhabited

/-- What a written join is joined on. -/
inductive TreeConstraint where
  | on (condition : Tree)
  | other

/-- A written join. An unsupported kind has no name here. -/
structure TreeJoin where
  kind : Option JoinKind
  table : TreeTable
  constraint : TreeConstraint

structure TreeSource where
  table : TreeTable
  joins : List TreeJoin

/-- What a written statement is grouped by. -/
inductive TreeGroups where
  | expressions (expressions : List Tree)
  | all

structure TreeKey where
  expression : Tree
  ascending : Option Bool
  nullsFirst : Option Bool

structure TreeSelect where
  distinct : Bool
  projections : List TreeProjection
  sources : List TreeSource
  filter : Option Tree
  groups : TreeGroups
  having : Bool

inductive TreeBody where
  | select (select : TreeSelect)
  | other

structure TreeQuery where
  hasWith : Bool
  body : TreeBody
  orderBy : List TreeKey
  limit : Option Tree
  offset : Option Tree

inductive TreeStatement where
  | query (query : TreeQuery)
  | other

end CrossQuery.Select
