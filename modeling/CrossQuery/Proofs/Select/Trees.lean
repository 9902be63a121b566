import CrossQuery.Proofs.Outcome
import CrossQuery.Proofs.Select.Texts

/-!
# The trees of written statements

The syntax tree of a statement's text, and the statement that the tree stands for: the one that was
written, with the signs of negative constants apart, and with its numbers as they are read.
-/

set_option autoImplicit false

namespace CrossQuery.Select

/-! ## Signs apart from their constants -/

/-- A constant with its sign as an operator of its own. -/
def Literal.signApart : Literal → Expression
  | .integer value =>
    if value < 0 then .unary .minus (.literal (.integer (-value))) else .literal (.integer value)
  | value => .literal value

namespace Expression

mutual

/-- An expression in which every negative integer is its opposite behind a minus sign. -/
def signsApart : Expression → Expression
  | .column table name => .column table name
  | .literal value => value.signApart
  | .binary operator left right => .binary operator left.signsApart right.signsApart
  | .unary operator operand => .unary operator operand.signsApart
  | .aggregate name arguments distinct => .aggregate name (signsApartInAll arguments) distinct
  | .inList operand items negated => .inList operand.signsApart (signsApartInAll items) negated
  | .between operand least greatest negated =>
    .between operand.signsApart least.signsApart greatest.signsApart negated
  | .isNull operand negated => .isNull operand.signsApart negated
  | .cast operand type => .cast operand.signsApart type
  | .wildcard => .wildcard
  | .nested inner => .nested inner.signsApart

def signsApartInAll : List Expression → List Expression
  | [] => []
  | first :: rest => first.signsApart :: signsApartInAll rest

end

end Expression

def Statement.signsApart (statement : Statement) : Statement :=
  { projections := statement.projections.map fun projection =>
      { projection with expression := projection.expression.signsApart }
    source := statement.source
    joins := statement.joins.map fun join => { join with condition := join.condition.signsApart }
    filter := statement.filter.map Expression.signsApart
    groupBy := statement.groupBy.map Expression.signsApart
    orderBy := statement.orderBy.map fun key =>
      { key with expression := key.expression.signsApart }
    limit := statement.limit
    offset := statement.offset }

/-! ## Numbers as they are read -/

/-- The constant that a number is read as. -/
def numberOf (spelling : String) : Literal :=
  match readNumber spelling with
  | .ok value => value
  | .error _ => .null

/-- A number that is read behind a minus sign, or one without. -/
def signedNumber (negative : Bool) (spelling : String) : Expression :=
  if negative then .unary .minus (.literal (numberOf spelling)) else .literal (numberOf spelling)

def Literal.reread : Literal → Expression
  | .integer value =>
    signedNumber (value.toInt < 0) (String.ofList (Text.writeNat value.toInt.natAbs))
  | .float value => signedNumber (isSigned value) (floatSpelling value)
  | value => .literal value

namespace Expression

mutual

/-- An expression as its text is read. -/
def reread : Expression → Expression
  | .column table name => .column table name
  | .literal value => value.reread
  | .binary operator left right => .binary operator left.reread right.reread
  | .unary operator operand => .unary operator operand.reread
  | .aggregate name arguments distinct => .aggregate name (rereadAll arguments) distinct
  | .inList operand items negated => .inList operand.reread (rereadAll items) negated
  | .between operand least greatest negated =>
    .between operand.reread least.reread greatest.reread negated
  | .isNull operand negated => .isNull operand.reread negated
  | .cast operand type => .cast operand.reread type
  | .wildcard => .wildcard
  | .nested inner => .nested inner.reread

def rereadAll : List Expression → List Expression
  | [] => []
  | first :: rest => first.reread :: rereadAll rest

end

end Expression

def Statement.reread (statement : Statement) : Statement :=
  { projections := statement.projections.map fun projection =>
      { projection with expression := projection.expression.reread }
    source := statement.source
    joins := statement.joins.map fun join => { join with condition := join.condition.reread }
    filter := statement.filter.map Expression.reread
    groupBy := statement.groupBy.map Expression.reread
    orderBy := statement.orderBy.map fun key => { key with expression := key.expression.reread }
    limit := statement.limit
    offset := statement.offset }

/-! ## Trees -/

def quotedIdentifier (name : String) : Identifier :=
  ⟨name, some '"'⟩

def integerTree : Int → Tree
  | .ofNat number => .number (String.ofList (Text.writeNat number)) false
  | .negSucc below =>
    .unary (.known .minus) (.number (String.ofList (Text.writeNat (below + 1))) false)

/-- The tree of a number behind a minus sign, or of one without. -/
def signedTree (negative : Bool) (spelling : String) : Tree :=
  if negative then .unary (.known .minus) (.number spelling false) else .number spelling false

def Literal.tree : Literal → Tree
  | .null => .null
  | .boolean value => .boolean value
  | .integer value => integerTree value.toInt
  | .float value => signedTree (isSigned value) (floatSpelling value)
  | .text value => .text value

def BinaryOperator.tree (operator : BinaryOperator) (left right : Tree) : Tree :=
  match operator with
  | .like => .like left right (some "\\") false
  | .notLike => .like left right (some "\\") true
  | operator => .binary (.known operator) left right

namespace Expression

mutual

def tree : Expression → Tree
  | .column none name => .identifier (quotedIdentifier name)
  | .column (some table) name => .path [quotedIdentifier table, quotedIdentifier name]
  | .literal value => value.tree
  | .binary operator left right => operator.tree left.tree right.tree
  | .unary operator operand => .unary (.known operator) operand.tree
  | .aggregate name arguments distinct =>
    .call [⟨name, none⟩] (some (treesOfAll arguments)) distinct false
  | .inList operand items negated => .inList operand.tree (treesOfAll items) negated
  | .between operand least greatest negated =>
    .between operand.tree least.tree greatest.tree negated
  | .isNull operand negated => .isNull operand.tree negated
  | .cast operand type => .cast operand.tree type (.call "CAST")
  | .wildcard => .star
  | .nested inner => .nested inner.tree

def treesOfAll : List Expression → List Tree
  | [] => []
  | first :: rest => first.tree :: treesOfAll rest

end

end Expression

def TableName.tree (table : TableName) : TreeTable :=
  .named [quotedIdentifier table.name] table.givenName

def Join.tree (join : Join) : TreeJoin :=
  ⟨some join.kind, join.table.tree, .on join.condition.tree⟩

def Projection.tree (projection : Projection) : TreeProjection :=
  .expression projection.expression.tree projection.givenName

def SortKey.tree (key : SortKey) : TreeKey :=
  ⟨key.expression.tree, some key.ascending, key.nullsFirst⟩

def countTree (count : Nat) : Tree :=
  .number (String.ofList (Text.writeNat count)) false

/-- The tree of a statement without its order and its window. -/
def Statement.selectTree (statement : Statement) : TreeSelect :=
  { distinct := false
    projections := statement.projections.map Projection.tree
    sources := [⟨statement.source.tree, statement.joins.map Join.tree⟩]
    filter := statement.filter.map Expression.tree
    groups := .expressions (statement.groupBy.map Expression.tree)
    having := false }

def Statement.tree (statement : Statement) : TreeQuery :=
  { hasWith := false
    body := .select statement.selectTree
    orderBy := statement.orderBy.map SortKey.tree
    limit := statement.limit.map countTree
    offset := statement.offset.map countTree }

/-! ## When a tree stands for an expression -/

section

variable {tree operand left right least greatest pattern inner : Tree} {trees : List Tree}
  {expression : Expression} {expressions : List Expression} {negated : Bool}

theorem readTree_number_iff {text : String} {long : Bool} :
    readTree (.number text long) = .ok expression ↔
      ∃ literal, readNumber text = .ok literal ∧ .literal literal = expression :=
  Outcome.map_eq_ok

theorem readTree_unary_iff {operator : PrefixOperator} :
    readTree (.unary operator operand) = .ok expression ↔
      ∃ known content, readPrefix operator = .ok known ∧ readTree operand = .ok content ∧
        .unary known content = expression := by
  constructor
  · intro read
    obtain ⟨known, isKnown, read⟩ := Outcome.bind_eq_ok.mp read
    obtain ⟨content, isContent, read⟩ := Outcome.bind_eq_ok.mp read
    exact ⟨known, content, isKnown, isContent, Except.ok.inj read⟩
  · rintro ⟨known, content, isKnown, isContent, rfl⟩
    exact Outcome.bind_eq_ok.mpr ⟨known, isKnown, Outcome.bind_eq_ok.mpr ⟨content, isContent, rfl⟩⟩

theorem readTree_binary_iff {operator : InfixOperator} :
    readTree (.binary operator left right) = .ok expression ↔
      ∃ known first second, readInfix operator = .ok known ∧ readTree left = .ok first ∧
        readTree right = .ok second ∧ .binary known first second = expression := by
  constructor
  · intro read
    obtain ⟨first, isFirst, read⟩ := Outcome.bind_eq_ok.mp read
    obtain ⟨known, isKnown, read⟩ := Outcome.bind_eq_ok.mp read
    obtain ⟨second, isSecond, read⟩ := Outcome.bind_eq_ok.mp read
    exact ⟨known, first, second, isKnown, isFirst, isSecond, Except.ok.inj read⟩
  · rintro ⟨known, first, second, isKnown, isFirst, isSecond, rfl⟩
    refine Outcome.bind_eq_ok.mpr ⟨first, isFirst, Outcome.bind_eq_ok.mpr ⟨known, isKnown, ?_⟩⟩
    exact Outcome.bind_eq_ok.mpr ⟨second, isSecond, rfl⟩

theorem readTree_like_iff {escape : Option String} :
    readTree (.like operand pattern escape negated) = .ok expression ↔
      ∃ content spelled respelled, readTree operand = .ok content ∧
        readTree pattern = .ok spelled ∧ readPattern spelled escape = .ok respelled ∧
        .binary (if negated then .notLike else .like) content respelled = expression := by
  constructor
  · intro read
    obtain ⟨spelled, isSpelled, read⟩ := Outcome.bind_eq_ok.mp read
    obtain ⟨respelled, isRespelled, read⟩ := Outcome.bind_eq_ok.mp read
    obtain ⟨content, isContent, read⟩ := Outcome.bind_eq_ok.mp read
    exact ⟨content, spelled, respelled, isContent, isSpelled, isRespelled, Except.ok.inj read⟩
  · rintro ⟨content, spelled, respelled, isContent, isSpelled, isRespelled, rfl⟩
    refine Outcome.bind_eq_ok.mpr ⟨spelled, isSpelled, ?_⟩
    refine Outcome.bind_eq_ok.mpr ⟨respelled, isRespelled, ?_⟩
    exact Outcome.bind_eq_ok.mpr ⟨content, isContent, rfl⟩

theorem readTree_inList_iff :
    readTree (.inList operand trees negated) = .ok expression ↔
      ∃ content items, readTree operand = .ok content ∧ readTrees trees = .ok items ∧
        .inList content items negated = expression := by
  constructor
  · intro read
    obtain ⟨content, isContent, read⟩ := Outcome.bind_eq_ok.mp read
    obtain ⟨items, areItems, read⟩ := Outcome.bind_eq_ok.mp read
    exact ⟨content, items, isContent, areItems, Except.ok.inj read⟩
  · rintro ⟨content, items, isContent, areItems, rfl⟩
    exact Outcome.bind_eq_ok.mpr ⟨content, isContent, Outcome.bind_eq_ok.mpr ⟨items, areItems, rfl⟩⟩

theorem readTree_between_iff :
    readTree (.between operand least greatest negated) = .ok expression ↔
      ∃ content lower upper, readTree operand = .ok content ∧ readTree least = .ok lower ∧
        readTree greatest = .ok upper ∧ .between content lower upper negated = expression := by
  constructor
  · intro read
    obtain ⟨content, isContent, read⟩ := Outcome.bind_eq_ok.mp read
    obtain ⟨lower, isLower, read⟩ := Outcome.bind_eq_ok.mp read
    obtain ⟨upper, isUpper, read⟩ := Outcome.bind_eq_ok.mp read
    exact ⟨content, lower, upper, isContent, isLower, isUpper, Except.ok.inj read⟩
  · rintro ⟨content, lower, upper, isContent, isLower, isUpper, rfl⟩
    refine Outcome.bind_eq_ok.mpr ⟨content, isContent, Outcome.bind_eq_ok.mpr ⟨lower, isLower, ?_⟩⟩
    exact Outcome.bind_eq_ok.mpr ⟨upper, isUpper, rfl⟩

theorem readTree_isNull_iff :
    readTree (.isNull operand negated) = .ok expression ↔
      ∃ content, readTree operand = .ok content ∧ .isNull content negated = expression := by
  constructor
  · intro read
    obtain ⟨content, isContent, read⟩ := Outcome.bind_eq_ok.mp read
    exact ⟨content, isContent, Except.ok.inj read⟩
  · rintro ⟨content, isContent, rfl⟩
    exact Outcome.bind_eq_ok.mpr ⟨content, isContent, rfl⟩

theorem readTree_cast_iff {type : String} {form : CastForm} :
    readTree (.cast operand type form) = .ok expression ↔
      ∃ content, readTree operand = .ok content ∧
        .cast content (String.ofList (Text.upper type.toList)) = expression := by
  constructor
  · intro read
    obtain ⟨content, isContent, read⟩ := Outcome.bind_eq_ok.mp read
    exact ⟨content, isContent, Except.ok.inj read⟩
  · rintro ⟨content, isContent, rfl⟩
    exact Outcome.bind_eq_ok.mpr ⟨content, isContent, rfl⟩

theorem readTree_nested_iff :
    readTree (.nested inner) = .ok expression ↔
      ∃ content, readTree inner = .ok content ∧ .nested content = expression := by
  constructor
  · intro read
    obtain ⟨content, isContent, read⟩ := Outcome.bind_eq_ok.mp read
    exact ⟨content, isContent, Except.ok.inj read⟩
  · rintro ⟨content, isContent, rfl⟩
    exact Outcome.bind_eq_ok.mpr ⟨content, isContent, rfl⟩

theorem readTree_call {name : List Identifier} {function : String}
    (shown : String.ofList (Text.upper (displayName name).toList) = function)
    (arguments : Option (List Tree)) (distinct windowed : Bool) :
    readTree (.call name arguments distinct windowed) =
      if windowed then .error .windowFunction
      else if !aggregateNames.contains function then .error (.unknownFunction function)
      else
        match arguments with
        | none => .error (.argumentList function)
        | some trees => readArguments trees >>= fun arguments =>
          readAggregate function arguments distinct := by
  subst shown
  cases arguments <;> rfl

theorem readTree_call_iff {name : List Identifier} {distinct windowed : Bool} :
    readTree (.call name (some trees) distinct windowed) = .ok expression ↔
      windowed = false ∧ ∃ function arguments,
        String.ofList (Text.upper (displayName name).toList) = function ∧
        function ∈ aggregateNames ∧ readArguments trees = .ok arguments ∧
        readAggregate function arguments distinct = .ok expression := by
  rw [readTree_call rfl]
  constructor
  · intro read
    split at read
    · cases read
    split at read
    · cases read
    · next plain known =>
        obtain ⟨arguments, areRead, read⟩ := Outcome.bind_eq_ok.mp read
        exact ⟨by simpa using plain, _, arguments, rfl, by simpa using known, areRead, read⟩
  · rintro ⟨rfl, _, arguments, rfl, isName, areRead, read⟩
    have known : aggregateNames.contains
        (String.ofList (Text.upper (displayName name).toList)) = true :=
      List.contains_iff_mem.mpr isName
    simp only [known, Bool.false_eq_true, Bool.not_true, if_false]
    exact Outcome.bind_eq_ok.mpr ⟨arguments, areRead, read⟩

/-- A function that is named without parentheses is none of the language. -/
theorem readTree_bareCall (name : List Identifier) (distinct windowed : Bool) :
    readTree (.call name none distinct windowed) ≠ .ok expression := by
  intro read
  rw [readTree_call rfl] at read
  split at read
  · cases read
  split at read <;> cases read

theorem readTrees_eq_mapM (trees : List Tree) : readTrees trees = trees.mapM readTree := by
  induction trees with
  | nil => rfl
  | cons first rest ih =>
      rw [List.mapM_cons, ← ih]
      rfl

end

/-! ## What the trees stand for -/

theorem readNumber_writeNat {number : Nat} (small : number < 2 ^ 63) :
    readNumber (String.ofList (Text.writeNat number)) = .ok (.integer (Int64.ofNat number)) := by
  have fits : number < 9223372036854775808 := by omega
  simp only [readNumber, String.toList_ofList, Text.readNat?_writeNat, if_pos fits]

theorem readTree_integer {value : Int64} (opposite : value ≠ Int64.minValue) :
    readTree (integerTree value.toInt) = .ok (Literal.integer value).signApart := by
  have range := value.toInt_lt
  have above : Int64.minValue.toInt < value.toInt := by
    have least := value.minValue_le_toInt
    have different : Int64.minValue.toInt ≠ value.toInt := fun same =>
      opposite (Int64.toInt_inj.mp same).symm
    omega
  rw [Int64.toInt_minValue] at above
  cases shown : value.toInt with
  | ofNat number =>
      have nonneg : ¬ value < 0 := by
        rw [Int64.lt_iff_toInt_lt, shown]
        simp
      have same : Int64.ofNat number = value := by
        rw [← Int64.ofInt_toInt value, shown]
        rfl
      have small : number < 2 ^ 63 := by
        rw [shown] at range
        exact Int.ofNat_lt.mp range
      refine readTree_number_iff.mpr ⟨_, readNumber_writeNat small, ?_⟩
      rw [Literal.signApart, if_neg nonneg, same]
  | negSucc below =>
      have negative : value < 0 := by
        rw [Int64.lt_iff_toInt_lt, shown]
        exact Int.negSucc_lt_zero below
      have same : Int64.ofNat (below + 1) = -value := by
        rw [← Int64.ofInt_toInt value, shown, ← Int64.ofInt_neg]
        rfl
      have small : below + 1 < 2 ^ 63 := by
        rw [shown] at above
        omega
      refine readTree_unary_iff.mpr
        ⟨.minus, _, rfl, readTree_number_iff.mpr ⟨_, readNumber_writeNat small, rfl⟩, ?_⟩
      rw [Literal.signApart, if_pos negative, same]

theorem readTree_signed {spelling : String} {literal : Literal}
    (isRead : readNumber spelling = .ok literal) (negative : Bool) :
    readTree (signedTree negative spelling) = .ok (signedNumber negative spelling) := by
  rw [signedNumber, numberOf, isRead]
  cases negative with
  | false => exact readTree_number_iff.mpr ⟨literal, isRead, rfl⟩
  | true =>
      exact readTree_unary_iff.mpr
        ⟨.minus, _, rfl, readTree_number_iff.mpr ⟨literal, isRead, rfl⟩, rfl⟩

theorem integerTree_eq (value : Int) :
    integerTree value = signedTree (value < 0) (String.ofList (Text.writeNat value.natAbs)) := by
  cases value with
  | ofNat number =>
      simp [integerTree, signedTree]
  | negSucc below =>
      simp [integerTree, signedTree, Int.negSucc_lt_zero]

def Numeral.ofNat (number : Nat) : Numeral where
  whole := Text.writeNat number
  fraction := none
  exponent := none
  someDigit := Text.writeNat_ne_nil number
  wholeDigits := Token.all_writeNat number
  fractionDigits := nofun

theorem Numeral.text_ofNat (number : Nat) : (Numeral.ofNat number).text = Text.writeNat number :=
  List.append_nil _

theorem readTree_tree_integer (value : Int64) :
    readTree (Literal.integer value).tree = .ok (Literal.integer value).reread := by
  obtain ⟨literal, isRead, _⟩ := (Numeral.ofNat value.toInt.natAbs).readNumber_ofList
  rw [Numeral.text_ofNat] at isRead
  rw [Literal.tree, integerTree_eq]
  exact readTree_signed isRead _

theorem readTree_tree_float {value : Float} (isFinite : value.isFinite = true) :
    readTree (Literal.float value).tree = .ok (Literal.float value).reread := by
  obtain ⟨numeral, spelled, -⟩ := exists_numeral_float isFinite
  obtain ⟨literal, isRead, _⟩ := numeral.readNumber_ofList
  rw [← spelled] at isRead
  exact readTree_signed isRead _

namespace Expression

/-- The tree of an expression is read as the expression with its numbers as they are read. -/
def ReadsBack (expression : Expression) : Prop :=
  readTree expression.tree = .ok expression.reread

theorem readsBack_column (table : Option String) (name : String) :
    ReadsBack (.column table name) := by
  cases table <;> rfl

theorem readsBack_literal {value : Literal} (writable : value.Writable) :
    ReadsBack (.literal value) := by
  cases value with
  | integer value => exact readTree_tree_integer value
  | float value => exact readTree_tree_float writable
  | _ => rfl

theorem ReadsBack.unary {operator : UnaryOperator} {operand : Expression}
    (reads : ReadsBack operand) : ReadsBack (.unary operator operand) :=
  readTree_unary_iff.mpr ⟨operator, _, rfl, reads, rfl⟩

theorem ReadsBack.cast {operand : Expression} {type : String} (reads : ReadsBack operand)
    (upper : String.ofList (Text.upper type.toList) = type) :
    ReadsBack (.cast operand type) := by
  refine readTree_cast_iff.mpr ⟨_, reads, ?_⟩
  rw [upper]
  rfl

theorem ReadsBack.nested {inner : Expression} (reads : ReadsBack inner) :
    ReadsBack (.nested inner) :=
  readTree_nested_iff.mpr ⟨_, reads, rfl⟩

theorem ReadsBack.binary {operator : BinaryOperator} {left right : Expression}
    (isLeft : ReadsBack left) (isRight : ReadsBack right) :
    ReadsBack (.binary operator left right) := by
  cases operator with
  | like => exact readTree_like_iff.mpr ⟨_, _, _, isLeft, isRight, rfl, rfl⟩
  | notLike => exact readTree_like_iff.mpr ⟨_, _, _, isLeft, isRight, rfl, rfl⟩
  | _ => exact readTree_binary_iff.mpr ⟨_, _, _, rfl, isLeft, isRight, rfl⟩

theorem readTrees_treesOfAll {expressions : List Expression}
    (all : ∀ expression ∈ expressions, expression.ReadsBack) :
    readTrees (treesOfAll expressions) = .ok (rereadAll expressions) := by
  induction expressions with
  | nil => rfl
  | cons first rest ih =>
      have later := ih fun other member => all other (List.mem_cons_of_mem _ member)
      refine Outcome.bind_eq_ok.mpr ⟨_, all first List.mem_cons_self, ?_⟩
      exact Outcome.bind_eq_ok.mpr ⟨_, later, rfl⟩

/-- An argument that is read as an expression is neither a star nor of another kind. -/
theorem readArguments_of_readTree {tree : Tree} {argument : Expression}
    (read : readTree tree = .ok argument) : readArguments [tree] = .ok [argument] := by
  cases tree with
  | star => cases read
  | argument => cases read
  | _ => exact Outcome.bind_eq_ok.mpr ⟨argument, read, rfl⟩

theorem Binds.reread_ne_wildcard {expression : Expression} {bound : Nat}
    (binds : expression.Binds bound) : expression.reread ≠ .wildcard := by
  have signed : ∀ negative spelling, signedNumber negative spelling ≠ .wildcard := by
    rintro (_ | _) spelling ⟨⟩
  cases binds with
  | @literal value =>
      cases value with
      | integer value => exact signed _ _
      | float value => exact signed _ _
      | _ => rintro ⟨⟩
  | _ => rintro ⟨⟩

theorem readsBack_aggregate {name : String} {argument : Expression} {distinct : Bool}
    (isName : name ∈ aggregateNames) (reads : readArguments [argument.tree] = .ok [argument.reread])
    (plain : argument.reread = .wildcard → name = "COUNT") :
    ReadsBack (.aggregate name [argument] distinct) := by
  have shown : String.ofList (Text.upper (displayName [⟨name, none⟩]).toList) = name := by
    simp only [aggregateNames, List.mem_cons, List.not_mem_nil, or_false] at isName
    rcases isName with rfl | rfl | rfl | rfl | rfl <;> decide
  have accepted : readAggregate name [argument.reread] distinct =
      .ok (.aggregate name [argument.reread] distinct) := by
    cases shape : argument.reread with
    | wildcard => simp [readAggregate, plain shape]
    | _ => rfl
  exact readTree_call_iff.mpr ⟨rfl, name, _, shown, isName, reads, accepted⟩

/-- The tree of an expression that can be written is read as the expression with its numbers as they
are read. -/
theorem Binds.readsBack {expression : Expression} {bound : Nat}
    (binds : expression.Binds bound) (writable : expression.Writable) : ReadsBack expression := by
  induction binds with
  | column => exact readsBack_column _ _
  | literal => exact readsBack_literal writable
  | binary _ _ _ _ leftIH rightIH => exact (leftIH writable.1).binary (rightIH writable.2)
  | not _ ih => exact (ih writable).unary
  | minus _ ih => exact (ih writable.1).unary
  | count => exact readsBack_aggregate (by decide) rfl fun _ => rfl
  | aggregate isName argument ih =>
      have read := readArguments_of_readTree (ih writable.1)
      exact readsBack_aggregate isName read fun same => absurd same argument.reread_ne_wildcard
  | inList _ _ _ _ _ operandIH itemsIH =>
      have all := writableAll_iff.mp writable.2
      have read := readTrees_treesOfAll fun item member => itemsIH item member (all item member)
      exact readTree_inList_iff.mpr ⟨_, _, operandIH writable.1, read, rfl⟩
  | between _ _ _ _ _ operandIH leastIH greatestIH =>
      exact readTree_between_iff.mpr
        ⟨_, _, _, operandIH writable.1, leastIH writable.2.1, greatestIH writable.2.2, rfl⟩
  | isNull _ _ _ ih => exact readTree_isNull_iff.mpr ⟨_, ih writable, rfl⟩
  | cast _ ih => exact (ih writable.1).cast writable.2.upper
  | nested _ ih => exact (ih writable).nested

theorem treesOfAll_eq (expressions : List Expression) :
    treesOfAll expressions = expressions.map tree := by
  induction expressions with
  | nil => rfl
  | cons first rest ih => rw [treesOfAll, ih, List.map_cons]

theorem rereadAll_eq (expressions : List Expression) :
    rereadAll expressions = expressions.map reread := by
  induction expressions with
  | nil => rfl
  | cons first rest ih => rw [rereadAll, ih, List.map_cons]

end Expression

theorem readCount_tree {count : Nat} (small : count < 2 ^ 64) :
    readCount (countTree count) = .ok count := by
  have fits : count < 18446744073709551616 := by omega
  simp only [readCount, countTree, String.toList_ofList, Text.readNat?_writeNat, if_pos fits]

theorem readOptionalCount_tree {count : Option Nat} (small : ∀ number ∈ count, number < 2 ^ 64) :
    readOptionalCount (count.map countTree) = .ok count := by
  cases count with
  | none => rfl
  | some number =>
      have read := readCount_tree (small number rfl)
      rw [Option.map_some, readOptionalCount, read]
      rfl

theorem mapM_trees {α β γ : Type} {tree : α → β} {read : β → Except ReadError γ} {image : α → γ}
    {items : List α} (all : ∀ item ∈ items, read (tree item) = .ok (image item)) :
    (items.map tree).mapM read = .ok (items.map image) := by
  rw [Outcome.mapM_eq_ok_iff, List.map_map, List.map_map]
  exact List.map_congr_left all

/-- The tree of a statement is read as the statement with its numbers as they are read. -/
theorem Statement.readQuery_tree {statement : Statement}
    (each : ∀ expression ∈ statement.expressions, expression.ReadsBack)
    (limited : ∀ count ∈ statement.limit, count < 2 ^ 64)
    (skipped : ∀ count ∈ statement.offset, count < 2 ^ 64) :
    readQuery statement.tree = .ok statement.reread := by
  have joins : (statement.joins.map Join.tree).mapM readJoin = .ok statement.reread.joins := by
    refine mapM_trees fun join member => ?_
    have condition := each _ (mem_expressions_of_join member)
    simp only [readJoin, Join.tree]
    rw [condition]
    rfl
  have projections : (statement.projections.map Projection.tree).mapM readProjection =
      .ok statement.reread.projections := by
    refine mapM_trees fun projection member => ?_
    have expression := each _ (mem_expressions_of_projection member)
    simp only [readProjection, Projection.tree]
    rw [expression]
    rfl
  have filter : readOptional (statement.filter.map Expression.tree) =
      .ok statement.reread.filter := by
    cases filtered : statement.filter with
    | none => simp [readOptional, reread, filtered]
    | some condition =>
        have reads := each _ (mem_expressions_of_filter filtered)
        simp only [readOptional, Option.map_some, reread, filtered]
        rw [reads]
        rfl
  have groups : readTrees (statement.groupBy.map Expression.tree) =
      .ok statement.reread.groupBy := by
    have read := Expression.readTrees_treesOfAll fun key member =>
      each key (mem_expressions_of_group member)
    rwa [Expression.treesOfAll_eq, Expression.rereadAll_eq] at read
  have order : (statement.orderBy.map SortKey.tree).mapM readKey =
      .ok statement.reread.orderBy := by
    refine mapM_trees fun key member => ?_
    have expression := each _ (mem_expressions_of_order member)
    simp only [readKey, SortKey.tree]
    rw [expression]
    rfl
  have limit := readOptionalCount_tree limited
  have offset := readOptionalCount_tree skipped
  have select : readSelect statement.selectTree =
      .ok { statement.reread with orderBy := [], limit := none, offset := none } := by
    simp only [readSelect, selectTree, readGroups, joins, projections, filter, groups]
    rfl
  simp only [readQuery, tree]
  rw [select, order, limit, offset]
  rfl

end CrossQuery.Select
