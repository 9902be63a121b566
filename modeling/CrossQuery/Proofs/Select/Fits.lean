import CrossQuery.Proofs.Outcome
import CrossQuery.Proofs.Select.Trees

/-!
# Trees that can be read again

What a tree stands for can be read again where its parts can and its operators bind as they are
read: no operator behind a tree may bind into it.
-/

set_option autoImplicit false

namespace CrossQuery.Select

namespace Grammar

open Token

variable {tokens middle rest : List Token}

theorem Takes.of_acceptWord {word : String} {accepted : Bool}
    (takes : Takes (acceptWord word) tokens accepted rest) :
    (accepted = true ∧ ∃ text, tokens = .word text word :: rest) ∨
      (accepted = false ∧ rest = tokens) := by
  cases tokens with
  | nil =>
      cases takes
      exact .inr ⟨rfl, rfl⟩
  | cons token behind =>
      simp only [Takes, acceptWord] at takes
      split at takes
      · next isWord =>
          cases takes
          cases token with
          | word text key => exact .inl ⟨rfl, text, by rw [eq_of_beq isWord]⟩
          | _ => cases isWord
      · cases takes
        exact .inr ⟨rfl, rfl⟩

theorem Takes.of_acceptSign {spelling : String} {accepted : Bool}
    (takes : Takes (acceptSign spelling) tokens accepted rest) :
    (accepted = true ∧ tokens = .sign spelling :: rest) ∨ (accepted = false ∧ rest = tokens) := by
  cases tokens with
  | nil =>
      cases takes
      exact .inr ⟨rfl, rfl⟩
  | cons token behind =>
      simp only [Takes, acceptSign] at takes
      split at takes
      · next isSign =>
          cases takes
          exact .inl ⟨rfl, by rw [isSign]⟩
      · cases takes
        exact .inr ⟨rfl, rfl⟩

theorem Takes.of_acceptWords_false {words : List String}
    (takes : Takes (acceptWords words) tokens false rest) : rest = tokens := by
  simp only [Takes, acceptWords] at takes
  split at takes
  · cases takes
  · cases takes
    rfl

/-! ## Precedences -/

theorem precedence_le (tokens : List Token) : precedence tokens ≤ 140 := by
  unfold precedence
  split
  · unfold wordPrecedence
    repeat' split
    all_goals decide
  · unfold signPrecedence
    repeat' split
    all_goals decide
  · decide
  · decide

def bindsAlike : String × InfixOperator → Bool
  | (spelling, .known (.compare _)) => signPrecedence spelling == 50
  | (_, .known _) => false
  | (_, .other _ _) => true

/-- An operator of the language binds as tightly as its sign or its word, and is no pattern's. -/
theorem precedence_of_infixOperator {operator : BinaryOperator}
    (takes : Takes infixOperator tokens (some (.known operator)) rest) :
    precedence tokens = operator.precedence ∧
      ∀ left right, Expression.edge (.binary operator left right) =
        min operator.precedence right.edge := by
  unfold Takes infixOperator at takes
  split at takes
  · next spelling behind =>
      split at takes
      · next found isFound =>
          cases takes
          obtain ⟨before, others, listed, _⟩ := List.lookup_eq_some_iff.mp isFound
          have all : signOperators.all bindsAlike = true := by decide
          have alike := List.all_eq_true.mp all (spelling, .known operator) (by simp [listed])
          cases operator with
          | compare comparison => exact ⟨eq_of_beq alike, fun _ _ => rfl⟩
          | _ => cases alike
      · cases takes
  · cases takes
  · next text key behind =>
      repeat' split at takes
      all_goals try cases takes
      · next isAnd => exact ⟨by rw [isAnd]; rfl, fun _ _ => rfl⟩
      · next isOr => exact ⟨by rw [isOr]; rfl, fun _ _ => rfl⟩
      · obtain ⟨name, middle, _, last⟩ := Takes.exists_bind takes
        cases last
  · cases takes

theorem Takes.of_infixOperator_none (takes : Takes infixOperator tokens none rest) :
    rest = tokens := by
  unfold Takes infixOperator at takes
  split at takes
  · split at takes
    · cases takes
    · cases takes
      rfl
  · cases takes
  · repeat' split at takes
    all_goals try cases takes
    · obtain ⟨name, middle, _, last⟩ := Takes.exists_bind takes
      cases last
    · rfl
  · cases takes
    rfl

/-- The word or the sign in front of a list, a range or a pattern binds as they do. -/
theorem precedence_of_test {negated : Bool} {text key : String}
    (takes : Takes (acceptWord "NOT") tokens negated (.word text key :: rest))
    (isTest : key ∈ ["IN", "BETWEEN", "LIKE"]) : precedence tokens = 60 := by
  have all : ∀ key ∈ ["IN", "BETWEEN", "LIKE"],
      wordPrecedence key rest = 60 ∧ wordPrecedence "NOT" (.word text key :: rest) = 60 := by
    intro key member
    simp only [List.mem_cons, List.not_mem_nil, or_false] at member
    rcases member with rfl | rfl | rfl <;> exact ⟨rfl, rfl⟩
  rcases takes.of_acceptWord with ⟨-, front, rfl⟩ | ⟨-, rfl⟩
  · exact (all key isTest).2
  · exact (all key isTest).1

end Grammar

/-! ## Trees that stand for what can be read again -/

/-- A tree that stands for no expression. -/
def Tree.Refused (tree : Tree) : Prop :=
  ∀ expression, readTree tree ≠ .ok expression

/-- What a tree stands for has a shape that is read back, and what stands behind it does not bind
into it. -/
def Tree.Fits (bound : Nat) (rest : List Token) (tree : Tree) : Prop :=
  ∀ expression, readTree tree = .ok expression →
    expression.Binds bound ∧ Grammar.precedence rest ≤ expression.edge

/-- What a tree stands for has a shape that is read back. -/
def Tree.Sound (tree : Tree) : Prop :=
  ∀ expression, readTree tree = .ok expression → expression.Binds 0

namespace Tree

variable {bound : Nat} {middle rest : List Token} {tree : Tree}

theorem Refused.fits (refused : tree.Refused) : tree.Fits bound rest :=
  fun expression read => absurd read (refused expression)

theorem Refused.sound (refused : tree.Refused) : tree.Sound :=
  fun expression read => absurd read (refused expression)

theorem Fits.sound (fits : tree.Fits bound rest) : tree.Sound :=
  fun expression read => (fits expression read).1.mono (Nat.zero_le bound)

theorem refused_unsupported (shown : String) : Refused (.unsupported shown) := by
  rintro expression ⟨⟩

theorem refused_constant (shown : String) : Refused (.constant shown) := by
  rintro expression ⟨⟩

theorem refused_argument (shown : String) : Refused (.argument shown) := by
  rintro expression ⟨⟩

theorem refused_star : Refused .star := by
  rintro expression ⟨⟩

theorem refused_unary (name sign : String) (operand : Tree) :
    Refused (.unary (.other name sign) operand) := by
  rintro expression ⟨⟩

theorem refused_binary (name sign : String) (left right : Tree) :
    Refused (.binary (.other name sign) left right) := by
  intro expression read
  obtain ⟨_, _, _, impossible, _⟩ := readTree_binary_iff.mp read
  cases impossible

theorem refused_call (name : List Identifier) (distinct windowed : Bool) :
    Refused (.call name none distinct windowed) :=
  fun _ => readTree_bareCall name distinct windowed

/-! ## Operands -/

theorem fits_of_edge {expression : Expression} (read : readTree tree = .ok expression)
    (binds : expression.Binds bound) (last : expression.edge = 140) : tree.Fits bound rest := by
  intro other isOther
  cases read.symm.trans isOther
  exact ⟨binds, last ▸ Grammar.precedence_le rest⟩

theorem fits_path (parts : List Identifier) : Fits bound rest (.path parts) := by
  intro expression read
  have isColumn : ∃ table name, expression = .column table name := by
    change readPath parts = .ok expression at read
    unfold readPath at read
    split at read <;> cases read <;> exact ⟨_, _, rfl⟩
  obtain ⟨table, name, rfl⟩ := isColumn
  exact ⟨.column, Grammar.precedence_le rest⟩

theorem fits_number (text : String) (long : Bool) : Fits bound rest (.number text long) := by
  intro expression read
  obtain ⟨literal, isRead, rfl⟩ := readTree_number_iff.mp read
  have nonnegative : literal.isNegative = false := by
    cases unsigned_of_readNumber isRead with
    | @integer number small =>
        have value : (Int64.ofNat number).toInt = number := Int64.toInt_ofNat_of_lt small
        simp [Literal.isNegative, value]
    | float _ unsigned => exact unsigned
  refine ⟨.literal, ?_⟩
  rw [Expression.edge, nonnegative]
  exact Grammar.precedence_le rest

theorem Fits.not {operand : Tree} (fits : operand.Fits 30 rest)
    (stops : Grammar.precedence rest ≤ 30) :
    Fits bound rest (.unary (.known .not) operand) := by
  intro expression read
  obtain ⟨operator, inner, isOperator, isInner, rfl⟩ := readTree_unary_iff.mp read
  cases isOperator
  obtain ⟨binds, apart⟩ := fits inner isInner
  exact ⟨.not binds, Nat.le_min.mpr ⟨stops, apart⟩⟩

theorem Fits.minus {operand : Tree} (fits : operand.Fits 90 rest)
    (stops : Grammar.precedence rest ≤ 90) :
    Fits bound rest (.unary (.known .minus) operand) := by
  intro expression read
  obtain ⟨operator, inner, isOperator, isInner, rfl⟩ := readTree_unary_iff.mp read
  cases isOperator
  obtain ⟨binds, apart⟩ := fits inner isInner
  exact ⟨.minus binds, Nat.le_min.mpr ⟨stops, apart⟩⟩

theorem Sound.nested {inner : Tree} (sound : inner.Sound) :
    Fits bound rest (.nested inner) := by
  intro expression read
  obtain ⟨content, isContent, rfl⟩ := readTree_nested_iff.mp read
  exact ⟨.nested (sound content isContent), Grammar.precedence_le rest⟩

theorem Sound.cast {operand : Tree} {type : String} {form : CastForm}
    (sound : operand.Sound) : Fits bound rest (.cast operand type form) := by
  intro expression read
  obtain ⟨content, isContent, rfl⟩ := readTree_cast_iff.mp read
  exact ⟨.cast (sound content isContent), Grammar.precedence_le rest⟩

/-- The first argument is a star or an expression. -/
theorem exists_of_readArguments {first : Tree} {rest : List Tree} {expressions : List Expression}
    (read : readArguments (first :: rest) = .ok expressions) :
    ∃ argument others, expressions = argument :: others ∧
      (argument = .wildcard ∨ readTree first = .ok argument) ∧ readArguments rest = .ok others := by
  cases first with
  | star =>
      obtain ⟨others, areRead, read⟩ := Outcome.bind_eq_ok.mp read
      cases read
      exact ⟨.wildcard, others, rfl, .inl rfl, areRead⟩
  | argument => cases read
  | _ =>
      obtain ⟨argument, isRead, read⟩ := Outcome.bind_eq_ok.mp read
      obtain ⟨others, areRead, read⟩ := Outcome.bind_eq_ok.mp read
      cases read
      exact ⟨argument, others, rfl, .inr isRead, areRead⟩

/-- An aggregate has one argument, which is a star only if it counts. -/
theorem cases_readAggregate {name : String} {arguments : List Expression} {distinct : Bool}
    {expression : Expression} (read : readAggregate name arguments distinct = .ok expression) :
    (name = "COUNT" ∧ expression = .aggregate "COUNT" [.wildcard] distinct) ∨
      ∃ argument, argument ≠ .wildcard ∧ arguments = [argument] ∧
        expression = .aggregate name [argument] distinct := by
  unfold readAggregate at read
  split at read
  · split at read
    · next isCount =>
        cases read
        exact .inl ⟨isCount, by rw [isCount]⟩
    · cases read
  · next argument notWildcard =>
      cases read
      exact .inr ⟨argument, fun same => notWildcard (by rw [same]), rfl, rfl⟩
  · cases read

theorem fits_call {name : List Identifier} {arguments : List Tree} {distinct windowed : Bool}
    (sound : ∀ argument ∈ arguments, argument.Sound) :
    Fits bound rest (.call name (some arguments) distinct windowed) := by
  intro expression read
  obtain ⟨-, function, expressions, -, isName, areRead, isAggregate⟩ := readTree_call_iff.mp read
  rcases cases_readAggregate isAggregate with ⟨-, rfl⟩ | ⟨argument, notStar, rfl, rfl⟩
  · exact ⟨.count, Grammar.precedence_le rest⟩
  · have some : arguments ≠ [] := by
      rintro rfl
      cases areRead
    obtain ⟨first, others, rfl⟩ := List.exists_cons_of_ne_nil some
    obtain ⟨_, _, same, isFirst, _⟩ := exists_of_readArguments areRead
    cases same
    have isArgument := isFirst.resolve_left notStar
    have binds := sound first List.mem_cons_self argument isArgument
    exact ⟨.aggregate isName binds, Grammar.precedence_le rest⟩

/-! ## Operators behind a left side -/

section Operators

variable {tokens : List Token} {left : Tree}

theorem Fits.isNull (fits : left.Fits bound tokens) (tighter : bound < 40)
    (isNull : Grammar.precedence tokens = 40) (negated : Bool) :
    Fits bound rest (.isNull left negated) := by
  intro expression read
  obtain ⟨operand, isOperand, rfl⟩ := readTree_isNull_iff.mp read
  obtain ⟨binds, apart⟩ := fits operand isOperand
  exact ⟨.isNull tighter binds (isNull ▸ apart), Grammar.precedence_le rest⟩

theorem Fits.binary {operator : BinaryOperator} {right : Tree} (fits : left.Fits bound tokens)
    (tighter : bound < operator.precedence) (same : Grammar.precedence tokens = operator.precedence)
    (edge : ∀ left right, Expression.edge (.binary operator left right) =
      min operator.precedence right.edge)
    (fitsRight : right.Fits operator.precedence rest)
    (stops : Grammar.precedence rest ≤ operator.precedence) :
    Fits bound rest (.binary (.known operator) left right) := by
  intro expression read
  obtain ⟨known, leftRead, rightRead, isKnown, isLeft, isRight, rfl⟩ := readTree_binary_iff.mp read
  cases isKnown
  obtain ⟨binds, apart⟩ := fits leftRead isLeft
  obtain ⟨bindsRight, apartRight⟩ := fitsRight rightRead isRight
  refine ⟨.binary tighter binds (same ▸ apart) bindsRight, ?_⟩
  rw [edge]
  exact Nat.le_min.mpr ⟨stops, apartRight⟩

theorem Fits.inList {items : List Tree} (fits : left.Fits bound tokens) (tighter : bound < 60)
    (isTest : Grammar.precedence tokens = 60) (nonempty : items ≠ [])
    (sound : ∀ item ∈ items, item.Sound) (negated : Bool) :
    Fits bound rest (.inList left items negated) := by
  intro expression read
  obtain ⟨operand, list, isOperand, isList, rfl⟩ := readTree_inList_iff.mp read
  obtain ⟨binds, apart⟩ := fits operand isOperand
  rw [readTrees_eq_mapM] at isList
  have some : list ≠ [] := by
    rintro rfl
    exact nonempty (List.map_eq_nil_iff.mp (Outcome.mapM_eq_ok_iff.mp isList))
  refine ⟨.inList tighter binds (isTest ▸ apart) some fun item member => ?_,
    Grammar.precedence_le rest⟩
  obtain ⟨tree, listed, isRead⟩ := Outcome.exists_of_mem_mapM isList member
  exact sound tree listed item isRead

theorem Fits.between {least greatest : Tree} (fits : left.Fits bound tokens)
    (tighter : bound < 60) (isTest : Grammar.precedence tokens = 60)
    (fitsLeast : least.Fits 60 middle) (fitsGreatest : greatest.Fits 60 rest)
    (stops : Grammar.precedence rest ≤ 60) (negated : Bool) :
    Fits bound rest (.between left least greatest negated) := by
  intro expression read
  obtain ⟨operand, lower, upper, isOperand, isLower, isUpper, rfl⟩ := readTree_between_iff.mp read
  obtain ⟨binds, apart⟩ := fits operand isOperand
  obtain ⟨bindsUpper, apartUpper⟩ := fitsGreatest upper isUpper
  have bindsLower := (fitsLeast lower isLower).1
  exact ⟨.between tighter binds (isTest ▸ apart) bindsLower bindsUpper,
    Nat.le_min.mpr ⟨stops, apartUpper⟩⟩

theorem cases_readPattern {pattern spelled : Expression} {escape : Option String}
    (read : readPattern pattern escape = .ok spelled) :
    spelled = pattern ∨ ∃ text, spelled = .literal (.text text) := by
  unfold readPattern at read
  split at read
  · cases read
    exact .inl rfl
  split at read
  · cases read
    exact .inl rfl
  split at read
  · obtain ⟨text, _, rfl⟩ := Outcome.map_eq_ok.mp read
    exact .inr ⟨text, rfl⟩
  · cases read

/-- A pattern is written with its escape, behind which everything may stand. -/
theorem Fits.like {pattern : Tree} {escape : Option String} (fits : left.Fits bound tokens)
    (tighter : bound < 60) (isTest : Grammar.precedence tokens = 60)
    (fitsPattern : pattern.Fits 60 middle) (negated : Bool) :
    Fits bound rest (.like left pattern escape negated) := by
  intro expression read
  obtain ⟨operand, spelled, respelled, isOperand, isSpelled, isRespelled, rfl⟩ :=
    readTree_like_iff.mp read
  have bindsPattern : respelled.Binds 60 := by
    rcases cases_readPattern isRespelled with rfl | ⟨text, rfl⟩
    · exact (fitsPattern respelled isSpelled).1
    · exact .literal
  obtain ⟨binds, apart⟩ := fits operand isOperand
  rw [isTest] at apart
  have last := Grammar.precedence_le rest
  cases negated with
  | false => exact ⟨.binary tighter binds apart bindsPattern, last⟩
  | true => exact ⟨.binary tighter binds apart bindsPattern, last⟩

end Operators

end Tree

end CrossQuery.Select
