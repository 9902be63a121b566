import CrossQuery.Proofs.Select.Stepping

/-!
# Shapes that are read back

Operators bind by precedence and parentheses are written only where an expression has them. An
expression is read back if each operator in it stands where reading would have put it, and if its
constants and the names of its types are read as themselves.
-/

set_option autoImplicit false

namespace CrossQuery.Select

open Token Grammar

/-- How tightly an operator binds its sides. -/
def BinaryOperator.precedence : BinaryOperator → Nat
  | .or => 10
  | .and => 20
  | .compare _ => 50
  | .like | .notLike => 60

theorem BinaryOperator.precedence_le (operator : BinaryOperator) : operator.precedence ≤ 60 := by
  cases operator <;> exact Nat.le_of_ble_eq_true rfl

def Literal.isNegative : Literal → Bool
  | .integer value => value.toInt < 0
  | .float value => isSigned value
  | _ => false

namespace Expression

/-- The greatest precedence of an operator that may stand behind an expression and still take the
whole of it for its left side. Nothing binds tighter than 140. -/
def edge : Expression → Nat
  | .literal value => if value.isNegative then 90 else 140
  | .binary .like _ _ => 140
  | .binary .notLike _ _ => 140
  | .binary operator _ right => min operator.precedence right.edge
  | .unary .not operand => min 30 operand.edge
  | .unary .minus operand => min 90 operand.edge
  | .between _ _ greatest _ => min 60 greatest.edge
  | _ => 140

/-- The operators of an expression that stand outside of parentheses bind tighter than the bound,
and every part of it is as reading its text would find it. -/
inductive Binds : Expression → Nat → Prop where
  | column {table : Option String} {name : String} {bound : Nat} : Binds (.column table name) bound
  | literal {value : Literal} {bound : Nat} : Binds (.literal value) bound
  | binary {operator : BinaryOperator} {left right : Expression} {bound : Nat} :
      bound < operator.precedence → Binds left bound → operator.precedence ≤ left.edge →
      Binds right operator.precedence → Binds (.binary operator left right) bound
  | not {operand : Expression} {bound : Nat} : Binds operand 30 → Binds (.unary .not operand) bound
  | minus {operand : Expression} {bound : Nat} :
      Binds operand 90 → Binds (.unary .minus operand) bound
  | count {distinct : Bool} {bound : Nat} : Binds (.aggregate "COUNT" [.wildcard] distinct) bound
  | aggregate {name : String} {argument : Expression} {distinct : Bool} {bound : Nat} :
      name ∈ aggregateNames → Binds argument 0 → Binds (.aggregate name [argument] distinct) bound
  | inList {operand : Expression} {items : List Expression} {negated : Bool} {bound : Nat} :
      bound < 60 → Binds operand bound → 60 ≤ operand.edge → items ≠ [] →
      (∀ item ∈ items, Binds item 0) → Binds (.inList operand items negated) bound
  | between {operand least greatest : Expression} {negated : Bool} {bound : Nat} :
      bound < 60 → Binds operand bound → 60 ≤ operand.edge → Binds least 60 → Binds greatest 60 →
      Binds (.between operand least greatest negated) bound
  | isNull {operand : Expression} {negated : Bool} {bound : Nat} :
      bound < 40 → Binds operand bound → 40 ≤ operand.edge → Binds (.isNull operand negated) bound
  | cast {operand : Expression} {type : String} {bound : Nat} :
      Binds operand 0 → Binds (.cast operand type) bound
  | nested {inner : Expression} {bound : Nat} : Binds inner 0 → Binds (.nested inner) bound

variable {expression : Expression} {bound : Nat}

theorem Binds.mono (binds : expression.Binds bound) {lower : Nat} (below : lower ≤ bound) :
    expression.Binds lower := by
  induction binds with
  | column => exact .column
  | literal => exact .literal
  | binary tighter _ apart right leftIH _ =>
      exact .binary (Nat.lt_of_le_of_lt below tighter) (leftIH below) apart right
  | not operand _ => exact .not operand
  | minus operand _ => exact .minus operand
  | count => exact .count
  | aggregate isName argument _ => exact .aggregate isName argument
  | inList tighter _ apart nonempty items operandIH _ =>
      exact .inList (Nat.lt_of_le_of_lt below tighter) (operandIH below) apart nonempty items
  | between tighter _ apart least greatest operandIH _ _ =>
      exact .between (Nat.lt_of_le_of_lt below tighter) (operandIH below) apart least greatest
  | isNull tighter _ apart operandIH =>
      exact .isNull (Nat.lt_of_le_of_lt below tighter) (operandIH below) apart
  | cast operand _ => exact .cast operand
  | nested inner _ => exact .nested inner

/-- Behind an expression whose operators bind tighter than a negation, a conjunction may follow. -/
theorem Binds.le_edge (binds : expression.Binds bound) (tight : 30 ≤ bound) :
    30 ≤ expression.edge := by
  induction binds with
  | @literal value =>
      rw [edge]
      split <;> decide
  | @binary operator left right bound tighter _ _ _ _ rightIH =>
      have isRight := rightIH (by omega)
      cases operator with
      | like => exact show 30 ≤ 140 by decide
      | notLike => exact show 30 ≤ 140 by decide
      | _ => exact Nat.le_min.mpr ⟨by omega, isRight⟩
  | not _ ih => exact Nat.le_min.mpr ⟨Nat.le_refl 30, ih (Nat.le_refl 30)⟩
  | minus _ ih => exact Nat.le_min.mpr ⟨by decide, ih (by decide)⟩
  | between _ _ _ _ _ _ _ greatestIH => exact Nat.le_min.mpr ⟨by decide, greatestIH (by decide)⟩
  | _ => exact show 30 ≤ 140 by decide

end Expression

/-! ## Conditions on what is written -/

/-- The first parenthesis, if there is one, is an opening one. -/
def Opened : List Token → Prop
  | [] => True
  | token :: rest => token = .sign "(" ∨ token ≠ .sign ")" ∧ Opened rest

theorem Opened.append {left right : List Token} (isLeft : Opened left) (isRight : Opened right) :
    Opened (left ++ right) := by
  induction left with
  | nil => exact isRight
  | cons token left ih =>
      rcases isLeft with opens | ⟨plain, later⟩
      · exact .inl opens
      · exact .inr ⟨plain, ih later⟩

theorem Opened.keyword {tokens : List Token} (opened : Opened tokens) (word : String) :
    Opened (keyword word :: tokens) := by
  refine .inr ⟨?_, opened⟩
  rintro ⟨⟩

/-- The name of a type that is read as itself in front of a closing parenthesis. -/
structure ReadsType (type : String) : Prop where
  lexes : Lexes type.toList (typeTokens type)
  opened : Opened (typeTokens type)
  reads : ∀ rest, ∃ read,
    Takes dataType (typeTokens type ++ .sign ")" :: rest) read (.sign ")" :: rest) ∧
      read.text = type
  upper : String.ofList (Text.upper type.toList) = type

theorem typeTokens_eq {type : String} {tokens : List Token} (lexes : Lexes type.toList tokens) :
    typeTokens type = tokens := by
  rw [typeTokens, lexes.ofText?, Option.getD_some]

/-- The types that values are converted to. -/
def convertedTypes : List String :=
  ["BIGINT", "INTEGER", "INT", "DOUBLE PRECISION", "DOUBLE", "FLOAT", "REAL", "DATE", "TIMESTAMP",
    "VARCHAR", "TEXT"]

theorem readsType_keyword {word : String} (isKeyword : word ∈ keywords)
    (reads : ∀ rest, Takes dataType (keyword word :: .sign ")" :: rest) (.known word)
      (.sign ")" :: rest))
    (upper : String.ofList (Text.upper word.toList) = word) : ReadsType word := by
  have lexes := Lexes.keyword word isKeyword
  have ended : Opened [] := trivial
  have same := typeTokens_eq lexes
  refine ⟨same ▸ lexes, same ▸ ended.keyword word, fun rest => ⟨.known word, ?_, rfl⟩, upper⟩
  rw [same]
  exact reads rest

/-- The names of the types that values are converted to are read as themselves. -/
theorem readsType_of_converted {type : String} (isType : type ∈ convertedTypes) :
    ReadsType type := by
  simp only [convertedTypes, List.mem_cons, List.not_mem_nil, or_false] at isType
  rcases isType with rfl | rfl | rfl | rfl | rfl | rfl | rfl | rfl | rfl | rfl | rfl
  case inr.inr.inr.inl =>
    have ended : Opened [] := trivial
    have lexes : Lexes "DOUBLE PRECISION".toList [keyword "DOUBLE", keyword "PRECISION"] :=
      (Lexes.keyword "DOUBLE" (by decide)).spaced (.keyword "PRECISION" (by decide))
    have same := typeTokens_eq lexes
    constructor <;> try rw [same]
    · exact lexes
    · exact (ended.keyword _).keyword _
    · exact fun rest => ⟨.known "DOUBLE PRECISION", rfl, rfl⟩
    · decide
  all_goals exact readsType_keyword (by decide) (fun rest => rfl) (by decide)

/-- A constant whose text can be read again. -/
def Literal.Writable : Literal → Prop
  | .float value => value.isFinite = true
  | _ => True

namespace Expression

/-- Whether the text of an expression begins with the minus sign of an operand. -/
def beginsWithMinus : Expression → Bool
  | .literal value => value.isNegative
  | .unary .minus _ => true
  | _ => false

mutual

/-- The floats of an expression are finite, the names of its types are read as themselves, and no
minus sign stands directly in front of another. -/
def Writable : Expression → Prop
  | .column _ _ => True
  | .literal value => value.Writable
  | .binary _ left right => left.Writable ∧ right.Writable
  | .unary .not operand => operand.Writable
  | .unary .minus operand => operand.Writable ∧ operand.beginsWithMinus = false
  | .aggregate _ arguments _ => WritableAll arguments
  | .inList operand items _ => operand.Writable ∧ WritableAll items
  | .between operand least greatest _ => operand.Writable ∧ least.Writable ∧ greatest.Writable
  | .isNull operand _ => operand.Writable
  | .cast operand type => operand.Writable ∧ ReadsType type
  | .wildcard => True
  | .nested inner => inner.Writable

def WritableAll : List Expression → Prop
  | [] => True
  | first :: rest => first.Writable ∧ WritableAll rest

end

mutual

/-- A test that an expression can be written, whose values are converted to known types only. -/
def isWritable : Expression → Bool
  | .column _ _ => true
  | .literal (.float value) => value.isFinite
  | .literal _ => true
  | .binary _ left right => left.isWritable && right.isWritable
  | .unary .not operand => operand.isWritable
  | .unary .minus operand => operand.isWritable && !operand.beginsWithMinus
  | .aggregate _ arguments _ => areWritable arguments
  | .inList operand items _ => operand.isWritable && areWritable items
  | .between operand least greatest _ =>
    operand.isWritable && (least.isWritable && greatest.isWritable)
  | .isNull operand _ => operand.isWritable
  | .cast operand type => operand.isWritable && convertedTypes.contains type
  | .wildcard => true
  | .nested inner => inner.isWritable

def areWritable : List Expression → Bool
  | [] => true
  | first :: rest => first.isWritable && areWritable rest

end

mutual

theorem writable_of_isWritable : (expression : Expression) →
    expression.isWritable = true → expression.Writable
  | .column _ _, _ => trivial
  | .literal (.float _), passed => passed
  | .literal .null, _ => trivial
  | .literal (.boolean _), _ => trivial
  | .literal (.integer _), _ => trivial
  | .literal (.text _), _ => trivial
  | .binary _ left right, passed =>
    have ⟨isLeft, isRight⟩ := Bool.and_eq_true_iff.mp passed
    ⟨writable_of_isWritable left isLeft, writable_of_isWritable right isRight⟩
  | .unary .not operand, passed => writable_of_isWritable operand passed
  | .unary .minus operand, passed =>
    have ⟨isOperand, unsigned⟩ := Bool.and_eq_true_iff.mp passed
    ⟨writable_of_isWritable operand isOperand, (Bool.not_eq_true' _).mp unsigned⟩
  | .aggregate _ arguments _, passed => writableAll_of_areWritable arguments passed
  | .inList operand items _, passed =>
    have ⟨isOperand, areItems⟩ := Bool.and_eq_true_iff.mp passed
    ⟨writable_of_isWritable operand isOperand, writableAll_of_areWritable items areItems⟩
  | .between operand least greatest _, passed =>
    have ⟨isOperand, passed⟩ := Bool.and_eq_true_iff.mp passed
    have ⟨isLeast, isGreatest⟩ := Bool.and_eq_true_iff.mp passed
    ⟨writable_of_isWritable operand isOperand, writable_of_isWritable least isLeast,
      writable_of_isWritable greatest isGreatest⟩
  | .isNull operand _, passed => writable_of_isWritable operand passed
  | .cast operand _, passed =>
    have ⟨isOperand, isType⟩ := Bool.and_eq_true_iff.mp passed
    ⟨writable_of_isWritable operand isOperand,
      readsType_of_converted (List.contains_iff_mem.mp isType)⟩
  | .wildcard, _ => trivial
  | .nested inner, passed => writable_of_isWritable inner passed

theorem writableAll_of_areWritable : (expressions : List Expression) →
    areWritable expressions = true → WritableAll expressions
  | [], _ => trivial
  | first :: rest, passed =>
    have ⟨isFirst, areRest⟩ := Bool.and_eq_true_iff.mp passed
    ⟨writable_of_isWritable first isFirst, writableAll_of_areWritable rest areRest⟩

end

theorem writableAll_iff {expressions : List Expression} :
    WritableAll expressions ↔ ∀ expression ∈ expressions, expression.Writable := by
  induction expressions with
  | nil => simp [WritableAll]
  | cons first rest ih => simp [WritableAll, ih]

end Expression

def Statement.expressions (statement : Statement) : List Expression :=
  statement.projections.map Projection.expression ++
    (statement.joins.map Join.condition ++
      (statement.filter.toList ++ (statement.groupBy ++ statement.orderBy.map SortKey.expression)))

/-- A statement that projects something and whose parts are as reading its text would find
them. -/
structure Statement.Shaped (statement : Statement) : Prop where
  projects : statement.projections ≠ []
  binds : ∀ expression ∈ statement.expressions, expression.Binds 0
  limited : ∀ count ∈ statement.limit, count < 2 ^ 64
  skipped : ∀ count ∈ statement.offset, count < 2 ^ 64

def Statement.Writable (statement : Statement) : Prop :=
  ∀ expression ∈ statement.expressions, expression.Writable

def Statement.isWritable (statement : Statement) : Bool :=
  statement.expressions.all Expression.isWritable

namespace Statement

variable {statement : Statement}

theorem writable_of_isWritable (passed : statement.isWritable = true) : statement.Writable :=
  fun expression member =>
    Expression.writable_of_isWritable expression (List.all_eq_true.mp passed expression member)

theorem mem_expressions_of_projection {projection : Projection}
    (member : projection ∈ statement.projections) :
    projection.expression ∈ statement.expressions :=
  List.mem_append_left _ (List.mem_map_of_mem member)

theorem mem_expressions_of_join {join : Join} (member : join ∈ statement.joins) :
    join.condition ∈ statement.expressions :=
  List.mem_append_right _ (List.mem_append_left _ (List.mem_map_of_mem member))

theorem mem_expressions_of_filter {condition : Expression}
    (isFilter : condition ∈ statement.filter) : condition ∈ statement.expressions := by
  refine List.mem_append_right _ (List.mem_append_right _ (List.mem_append_left _ ?_))
  exact Option.mem_toList.mpr isFilter

theorem mem_expressions_of_group {key : Expression} (member : key ∈ statement.groupBy) :
    key ∈ statement.expressions := by
  refine List.mem_append_right _ (List.mem_append_right _ (List.mem_append_right _ ?_))
  exact List.mem_append_left _ member

theorem mem_expressions_of_order {key : SortKey} (member : key ∈ statement.orderBy) :
    key.expression ∈ statement.expressions := by
  refine List.mem_append_right _ (List.mem_append_right _ (List.mem_append_right _ ?_))
  exact List.mem_append_right _ (List.mem_map_of_mem member)

theorem cases_expressions {expression : Expression} (member : expression ∈ statement.expressions) :
    (∃ projection ∈ statement.projections, projection.expression = expression) ∨
      (∃ join ∈ statement.joins, join.condition = expression) ∨ expression ∈ statement.filter ∨
      expression ∈ statement.groupBy ∨ ∃ key ∈ statement.orderBy, key.expression = expression := by
  simpa only [expressions, List.mem_append, List.mem_map, Option.mem_toList,
    Option.mem_def] using member

end Statement

end CrossQuery.Select
