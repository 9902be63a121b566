import CrossQuery.Proofs.Select.Heads

/-!
# Reading expressions

The tokens of an expression are read as its tree. A first operand is read, and then one operator
after the other is taken as long as it binds tighter than the bound: the tree grows from the left, up
to the operator that the expression itself is.
-/

set_option autoImplicit false

namespace CrossQuery.Select

open Token Grammar

namespace Grammar

variable {below : Nested} {bound : Nat} {tokens middle rest : List Token} {first tree : Tree}

/-- No operator is taken that binds less than it has to. -/
theorem takes_climb_none {fuel : Nat} (stops : precedence tokens ≤ bound) :
    Takes (climb below bound (fuel + 1) tree) tokens tree tokens := by
  refine .bind (takes_get tokens) ?_
  rw [if_pos stops]
  exact .pure _ _

/-- Behind a first operand, operators are taken until the tree is reached. Each of them leaves fewer
tokens. -/
def Climbs (below : Nested) (bound : Nat) (tokens : List Token) (tree : Tree)
    (rest : List Token) : Prop :=
  ∃ count first middle, Takes (primaryPhrase below) tokens first middle ∧
    count + rest.length ≤ middle.length ∧
    ∀ fuel, climb below bound (fuel + count) first middle = climb below bound fuel tree rest

theorem Climbs.of_primary (takes : Takes (primaryPhrase below) tokens tree rest) :
    Climbs below bound tokens tree rest :=
  ⟨0, tree, rest, takes, Nat.le_of_eq (Nat.zero_add _), fun _ => rfl⟩

/-- One more operator behind what has been read. -/
theorem Climbs.follow (climbs : Climbs below bound tokens first middle)
    (binds : bound < precedence middle)
    (takes : Takes (Grammar.follow below first (precedence middle)) middle tree rest)
    (shorter : rest.length < middle.length) : Climbs below bound tokens tree rest := by
  obtain ⟨count, operand, start, takesFirst, room, climbed⟩ := climbs
  refine ⟨count + 1, operand, start, takesFirst, by omega, fun fuel => ?_⟩
  have step : climb below bound (fuel + 1) first middle =
      (Grammar.follow below first (precedence middle) >>= climb below bound fuel) middle := by
    have ahead : (climb below bound (fuel + 1) first) middle =
        (if precedence middle ≤ bound then pure first
          else Grammar.follow below first (precedence middle) >>= climb below bound fuel) middle :=
      rfl
    rw [ahead, if_neg (Nat.not_le.mpr binds)]
  have run : (Grammar.follow below first (precedence middle) >>= climb below bound fuel) middle =
      (Grammar.follow below first (precedence middle) middle).bind
        fun taken => climb below bound fuel taken.1 taken.2 := rfl
  calc climb below bound (fuel + (count + 1)) operand start
      = climb below bound (fuel + 1) first middle := by
        rw [← climbed (fuel + 1)]
        congr 1
        omega
    _ = climb below bound fuel tree rest := by
        rw [step, run, takes]
        rfl

theorem Climbs.takes (climbs : Climbs below bound tokens tree rest)
    (stops : precedence rest ≤ bound) : Takes (expressionPhrase below bound) tokens tree rest := by
  obtain ⟨count, first, middle, takesFirst, room, climbed⟩ := climbs
  refine .bind takesFirst (.bind (takes_get middle) ?_)
  -- Every operator takes a token at least, so a step is left that finds none.
  obtain ⟨spare, split⟩ : ∃ spare, middle.length + 1 = spare + 1 + count :=
    ⟨middle.length - count, by omega⟩
  have reached := climbed (spare + 1)
  rw [Takes, split, reached]
  exact takes_climb_none stops

/-! ## Operands -/

/-- What a token begins, where no type does and no collation follows. -/
theorem takes_primary (heads : Heads tokens) (takes : Takes (tokenPhrase below) tokens tree rest)
    (ends : EndsOperand rest) : Takes (primaryPhrase below) tokens tree rest := by
  refine .bind heads.fails_typedText.attempt (.bind takes ?_)
  exact .bind (ends.acceptWord (by decide)) (.pure _ _)

theorem takes_name {name : String} (ends : EndsOperand rest) :
    Takes (primaryPhrase below) (.quotedName name :: rest) (.identifier (quotedIdentifier name))
      rest := by
  have noParts : Takes (pathTail (rest.length + 1)) rest ([], false) rest :=
    .bind (ends.acceptSign (by decide)) (.pure _ _)
  have noText : Takes acceptText rest false rest := by
    cases rest with
    | nil => rfl
    | cons token rest =>
        cases token with
        | text value => exact ends.elim
        | _ => rfl
  refine takes_primary (.name ends) (.bind (takes_next _ _) ?_) ends
  refine .bind (takes_get _) (.bind noParts (.bind (ends.peekSign (by decide)) ?_))
  change Takes (if name.toList.head? = some '_' then _ else _) rest _ rest
  split
  · exact .bind noText (.pure _ _)
  · exact .pure _ _

theorem takes_path {table name : String} (ends : EndsOperand rest) :
    Takes (primaryPhrase below) (.quotedName table :: .sign "." :: .quotedName name :: rest)
      (.path [quotedIdentifier table, quotedIdentifier name]) rest := by
  have path : Takes (pathTail ((Token.sign "." :: .quotedName name :: rest).length + 1))
      (.sign "." :: .quotedName name :: rest) ([quotedIdentifier name], false) rest := by
    refine .bind (takes_acceptSign "." _) (.bind rfl (.bind (takes_identifier rfl) ?_))
    exact .bind (.bind (ends.acceptSign (by decide)) (.pure _ _)) (.pure _ _)
  refine takes_primary (.path ends) (.bind (takes_next _ _) ?_) ends
  refine .bind (takes_get _) (.bind path ?_)
  exact .bind (ends.peekSign (by decide)) (.pure _ _)

theorem takes_number {text : String} (ends : EndsOperand rest) :
    Takes (primaryPhrase below) (.number text false :: rest) (.number text false) rest :=
  takes_primary (.number ends) (.bind (takes_next _ _) (.pure _ _)) ends

theorem takes_text {value : String} (ends : EndsOperand rest) :
    Takes (primaryPhrase below) (.text value :: rest) (.text value) rest :=
  takes_primary (.text ends) (.bind (takes_next _ _) (.pure _ _)) ends

theorem takes_word {word : String} (heads : Heads (keyword word :: tokens))
    (takes : Takes (special below word ⟨word, none⟩) tokens (some tree) rest)
    (ends : EndsOperand rest) : Takes (primaryPhrase below) (keyword word :: tokens) tree rest := by
  refine takes_primary heads ?_ ends
  refine .bind (takes_next _ _) ?_
  exact .bind takes.attempt (.pure _ _)

theorem takes_constant {word : String}
    (isConstant : (word, tree) ∈
      [("NULL", Tree.null), ("TRUE", .boolean true), ("FALSE", .boolean false)])
    (ends : EndsOperand rest) : Takes (primaryPhrase below) (keyword word :: rest) tree rest := by
  simp only [List.mem_cons, List.not_mem_nil, or_false, Prod.mk.injEq] at isConstant
  obtain ⟨rfl, rfl⟩ | ⟨rfl, rfl⟩ | ⟨rfl, rfl⟩ := isConstant <;>
    exact takes_word (.constant (by decide) ends) rfl ends

theorem takes_minus (heads : Heads tokens) (takes : Takes (below.expression 90) tokens tree rest)
    (ends : EndsOperand rest) :
    Takes (primaryPhrase below) (.sign "-" :: tokens) (.unary (.known .minus) tree) rest := by
  refine takes_primary (.minus heads) (.bind (takes_next _ _) ?_) ends
  exact .bind takes (.pure _ _)

theorem takes_not (heads : Heads tokens) (takes : Takes (below.expression 30) tokens tree rest)
    (ends : EndsOperand rest) :
    Takes (primaryPhrase below) (keyword "NOT" :: tokens) (.unary (.known .not) tree) rest := by
  have noExists := takes_acceptWord_of_head (heads.not_isWord (by decide : "EXISTS" ∉ headWords))
  have tail : Takes (notTail below) tokens (.unary (.known .not) tree) rest :=
    .bind noExists (.bind takes (.pure _ _))
  exact takes_word (.not heads) tail.map ends

theorem takes_peekQuery (heads : Heads tokens) : Takes peekQuery tokens false tokens := by
  cases heads with
  | @constant word _ isWord _ =>
      simp only [List.mem_cons, List.not_mem_nil, or_false] at isWord
      rcases isWord with rfl | rfl | rfl <;> rfl
  | @call word _ _ isWord _ _ =>
      simp only [callWords, aggregateNames, List.mem_cons, List.not_mem_nil, or_false] at isWord
      rcases isWord with rfl | rfl | rfl | rfl | rfl | rfl <;> rfl
  | _ => rfl

theorem takes_nested {inside : List Token} (opened : Opened inside)
    (heads : Heads (inside ++ .sign ")" :: rest))
    (takes : Takes below.whole (inside ++ .sign ")" :: rest) tree (.sign ")" :: rest))
    (ends : EndsOperand rest) :
    Takes (primaryPhrase below) (.sign "(" :: (inside ++ .sign ")" :: rest)) (.nested tree)
      rest := by
  have single := takes_items_single takes (by simp)
  refine takes_primary (.nested opened heads ends) (.bind (takes_next _ _) ?_) ends
  refine .bind (takes_peekQuery heads) (.bind single (.bind (.pure _ _) ?_))
  refine .bind (takes_expectSign ")" rest) ?_
  exact .bind (ends.acceptSign (by decide)) (.pure _ _)

theorem takes_cast {inside : List Token} {type : String} (opened : Opened inside)
    (readsType : ReadsType type)
    (takes : Takes below.whole (inside ++ keyword "AS" :: (typeTokens type ++ .sign ")" :: rest))
      tree (keyword "AS" :: (typeTokens type ++ .sign ")" :: rest)))
    (ends : EndsOperand rest) :
    Takes (primaryPhrase below)
      (keyword "CAST" :: .sign "(" ::
        (inside ++ keyword "AS" :: (typeTokens type ++ .sign ")" :: rest)))
      (.cast tree type (.call "CAST")) rest := by
  obtain ⟨read, takesType, isType⟩ := readsType.reads rest
  have target := readsType.opened.keyword "AS"
  have heads := Heads.call (by decide : "CAST" ∈ callWords) (opened.append target) ends
  rw [List.append_assoc] at heads
  have tail : Takes (castTail below "CAST") (.sign "(" ::
      (inside ++ keyword "AS" :: (typeTokens type ++ .sign ")" :: rest)))
      (.cast tree type (.call "CAST")) rest := by
    refine .bind (takes_expectSign "(" _) (.bind takes ?_)
    refine .bind (takes_expectWord "AS" _) (.bind takesType ?_)
    rw [isType]
    exact .bind rfl (.bind (takes_expectSign ")" _) (.pure _ _))
  exact takes_word heads tail.map ends

theorem takes_callArguments {inside : List Token} (distinct : Bool)
    (takes : Takes (callArgument below) (inside ++ .sign ")" :: rest) tree (.sign ")" :: rest))
    (noEnd : (inside ++ .sign ")" :: rest).head? ≠ some (.sign ")"))
    (plain : ∀ word ∈ ["ALL", "DISTINCT"], ∀ token ∈ (inside ++ .sign ")" :: rest).head?,
      token.isWord word = false) :
    Takes (callArguments below)
      ((if distinct then [keyword "DISTINCT"] else []) ++ (inside ++ .sign ")" :: rest))
      ([tree], distinct) rest := by
  have single := takes_items_single takes (by simp)
  have noWord : Begins [] [")"] (.sign ")" :: rest) := List.mem_cons_self
  have behind : Takes (optionalOrder below) (.sign ")" :: rest) [] (.sign ")" :: rest) :=
    .bind (noWord.acceptWords (by decide)) (.pure _ _)
  have last := takes_expectSign ")" rest
  cases distinct with
  | true =>
      refine .bind rfl (.bind rfl (.bind rfl (.bind single (.bind behind ?_))))
      exact .bind rfl (.bind last (.pure _ _))
  | false =>
      have noAll := takes_acceptWord_of_head (plain "ALL" (by decide))
      have noDistinct := takes_acceptWord_of_head (plain "DISTINCT" (by decide))
      refine .bind (takes_acceptSign_of_head noEnd) (.bind noAll (.bind noDistinct ?_))
      exact .bind single (.bind behind (.bind rfl (.bind last (.pure _ _))))

theorem takes_callTail (ends : EndsOperand rest) : Takes (callTail below) rest false rest := by
  have nulls : Takes nullTreatment rest () rest :=
    .bind (ends.acceptWords (by decide)) (.bind (ends.acceptWords (by decide)) (.pure _ _))
  refine .bind (ends.acceptWords (by decide)) (.bind (ends.acceptWord (by decide)) ?_)
  exact .bind nulls (.bind (ends.acceptWord (by decide)) (.pure _ _))

theorem takes_aggregate {name : String} {inside : List Token} {distinct : Bool}
    (isName : name ∈ aggregateNames)
    (opened : Opened ((if distinct then [keyword "DISTINCT"] else []) ++ inside))
    (takes : Takes (callArguments below)
      ((if distinct then [keyword "DISTINCT"] else []) ++ (inside ++ .sign ")" :: rest))
      ([tree], distinct) rest)
    (ends : EndsOperand rest) :
    Takes (primaryPhrase below)
      (keyword name :: .sign "(" ::
        ((if distinct then [keyword "DISTINCT"] else []) ++ (inside ++ .sign ")" :: rest)))
      (.call [⟨name, none⟩] (some [tree]) distinct false) rest := by
  have heads := Heads.call (List.mem_cons_of_mem "CAST" isName) opened ends
  rw [List.append_assoc] at heads
  have plain : ∀ tokens, Takes (special below name ⟨name, none⟩) tokens none tokens := by
    intro tokens
    simp only [aggregateNames, List.mem_cons, List.not_mem_nil, or_false] at isName
    rcases isName with rfl | rfl | rfl | rfl | rfl <;> rfl
  refine takes_primary heads (.bind (takes_next _ _) ?_) ends
  refine .bind (plain _).attempt (.bind (takes_get _) (.bind (.bind rfl (.pure _ _)) ?_))
  refine .bind rfl (.bind (takes_expectSign "(" _) (.bind takes ?_))
  exact .bind (takes_callTail ends) (.pure _ _)

/-! ## Operators -/

theorem precedence_operator (operator : BinaryOperator) (rest : List Token) :
    precedence (operator.tokens ++ rest) = operator.precedence := by
  cases operator with
  | compare comparison => cases comparison <;> rfl
  | _ => rfl

theorem precedence_test {word : String} (isTest : word ∈ ["IN", "BETWEEN", "LIKE"])
    (negated : Bool) (rest : List Token) :
    precedence ((if negated then [keyword "NOT"] else []) ++ keyword word :: rest) = 60 := by
  simp only [List.mem_cons, List.not_mem_nil, or_false] at isTest
  rcases isTest with rfl | rfl | rfl <;> cases negated <;> rfl

theorem takes_follow_test {word : String} (isTest : word ∈ ["IN", "BETWEEN", "LIKE"])
    {negated : Bool} {left : Tree}
    (takes : Takes (testTail below left negated) (keyword word :: tokens) tree rest) :
    Takes (follow below left bound)
      ((if negated then [keyword "NOT"] else []) ++ keyword word :: tokens) tree rest := by
  cases negated with
  | false =>
      have begins : Begins ["IN", "BETWEEN", "LIKE"] [] (keyword word :: tokens) := isTest
      have noOperator : Takes infixOperator (keyword word :: tokens) none
          (keyword word :: tokens) := by
        simp only [List.mem_cons, List.not_mem_nil, or_false] at isTest
        rcases isTest with rfl | rfl | rfl <;> rfl
      refine .bind noOperator (.bind (begins.acceptWord (by decide)) ?_)
      refine .bind (begins.acceptWords (by decide)) (.bind (begins.acceptSign (by decide)) ?_)
      refine .bind (begins.acceptSign (by decide)) (.bind (begins.acceptSign (by decide)) ?_)
      exact .bind (begins.acceptWord (by decide)) takes
  | true =>
      have begins : Begins ["NOT"] [] (keyword "NOT" :: keyword word :: tokens) :=
        List.mem_cons_self
      refine .bind rfl (.bind (begins.acceptWord (by decide)) ?_)
      refine .bind (begins.acceptWords (by decide)) (.bind (begins.acceptSign (by decide)) ?_)
      refine .bind (begins.acceptSign (by decide)) (.bind (begins.acceptSign (by decide)) ?_)
      exact .bind (takes_acceptWord "NOT" _) takes

theorem takes_like {negated : Bool} {left pattern : Tree} (heads : Heads tokens)
    (takes : Takes (below.expression 60) tokens pattern
      (keyword "ESCAPE" :: .text "\\" :: rest)) :
    Takes (testTail below left negated) (keyword "LIKE" :: tokens)
      (.like left pattern (some "\\") negated) rest := by
  have noAny := takes_acceptWord_of_head (heads.not_isWord (by decide : "ANY" ∉ headWords))
  have escape : Takes optionalEscape (keyword "ESCAPE" :: .text "\\" :: rest) (some "\\") rest :=
    .bind (takes_acceptWord "ESCAPE" _) (Takes.map rfl)
  refine .bind rfl (.bind rfl (.bind (takes_acceptWord "LIKE" _) (.bind noAny ?_)))
  exact .bind takes (.bind escape (.pure _ _))

theorem takes_between {negated : Bool} {left least greatest : Tree} {others : List Token}
    (isLeast : Takes (below.expression 60) tokens least (keyword "AND" :: others))
    (isGreatest : Takes (below.expression 60) others greatest rest) :
    Takes (testTail below left negated) (keyword "BETWEEN" :: tokens)
      (.between left least greatest negated) rest := by
  refine .bind rfl (.bind (takes_acceptWord "BETWEEN" _) ?_)
  refine .bind isLeast (.bind (takes_expectWord "AND" _) ?_)
  exact .bind isGreatest (.pure _ _)

theorem takes_inList {negated : Bool} {left : Tree} {items : List Tree} (heads : Heads tokens)
    (takes : Takes (Grammar.items below.whole) tokens items (.sign ")" :: rest)) :
    Takes (testTail below left negated) (keyword "IN" :: .sign "(" :: tokens)
      (.inList left items negated) rest := by
  refine .bind (takes_acceptWord "IN" _) (.bind rfl (.bind (takes_expectSign "(" _) ?_))
  refine .bind (takes_peekQuery heads) (.bind takes ?_)
  exact .bind (takes_expectSign ")" rest) (.pure _ _)

theorem takes_isNull (left : Tree) (negated : Bool) (rest : List Token) :
    Takes (follow below left bound)
      (keyword "IS" :: ((if negated then [keyword "NOT"] else []) ++ (keyword "NULL" :: rest)))
      (.isNull left negated) rest := by
  have tail : Takes (isTail below left)
      ((if negated then [keyword "NOT"] else []) ++ (keyword "NULL" :: rest))
      (.isNull left negated) rest := by
    cases negated with
    | false => exact .bind (takes_acceptWord "NULL" rest) (.pure _ _)
    | true => exact .bind rfl (.bind (takes_acceptWords "NOT" "NULL" rest) (.pure _ _))
  exact .bind rfl (.bind (takes_acceptWord "IS" _) tail)

/-- An operator with its right side, and what stands behind a pattern. -/
theorem takes_follow_operator {operator : BinaryOperator} {left right : Tree} (heads : Heads tokens)
    (takes : Takes (below.expression operator.precedence) tokens right
      (operator.escapeTokens ++ rest)) :
    Takes (follow below left operator.precedence) (operator.tokens ++ tokens)
      (operator.tree left right) rest := by
  have noQuantifier : Takes (acceptAnyWord ["ANY", "ALL", "SOME"]) tokens none tokens := by
    refine takes_acceptAnyWord_of_head fun word member => heads.not_isWord ?_
    simp only [List.mem_cons, List.not_mem_nil, or_false] at member
    rcases member with rfl | rfl | rfl <;> decide
  cases operator with
  | compare comparison =>
      have isInfix : Takes infixOperator (.sign (comparisonSign comparison) :: tokens)
          (some (.known (.compare comparison))) tokens := by
        cases comparison <;> rfl
      exact .bind isInfix (.bind noQuantifier (.bind takes (.pure _ _)))
  | and => exact .bind rfl (.bind noQuantifier (.bind takes (.pure _ _)))
  | or => exact .bind rfl (.bind noQuantifier (.bind takes (.pure _ _)))
  | like =>
      have tail : Takes (testTail below left false) (keyword "LIKE" :: tokens) _ rest :=
        takes_like heads takes
      exact takes_follow_test (by decide) tail
  | notLike =>
      have tail : Takes (testTail below left true) (keyword "LIKE" :: tokens) _ rest :=
        takes_like heads takes
      exact takes_follow_test (by decide) tail

end Grammar

/-- A tree that is no star, no argument of another kind and not the bare word that ends a
projection. -/
structure Tree.IsPlain (tree : Tree) : Prop where
  noStar : tree ≠ .star
  noArgument : ∀ shown, tree ≠ .argument shown
  notBare : isBareFrom tree = false

namespace Expression

variable {expression operand : Expression} {bound : Nat}

/-- The tokens of an expression are read as its tree, in front of an operator that takes the whole of
it for its left side. -/
def ReadsAs (expression : Expression) (bound : Nat) : Prop :=
  ∀ depth rest, expression.tokens.length ≤ depth + 1 → EndsOperand rest →
    precedence rest ≤ expression.edge →
    Climbs (level depth) bound (expression.tokens ++ rest) expression.tree rest

/-- The tokens of an expression begin like one. -/
def Begun (expression : Expression) : Prop :=
  ∀ rest, EndsOperand rest → Heads (expression.tokens ++ rest)

theorem Begun.length_pos (begun : expression.Begun) : 0 < expression.tokens.length := by
  have heads := begun [] trivial
  rw [List.append_nil] at heads
  exact heads.length_pos

/-- Behind an expression in which every operator binds tighter than what follows. -/
theorem ReadsAs.takes (reads : expression.ReadsAs bound) (begun : expression.Begun) {depth : Nat}
    {rest : List Token} (deep : expression.tokens.length ≤ depth) (ends : EndsOperand rest)
    (apart : precedence rest ≤ expression.edge) (stops : precedence rest ≤ bound) :
    Takes ((level depth).expression bound) (expression.tokens ++ rest) expression.tree rest := by
  have positive := begun.length_pos
  cases depth with
  | zero => omega
  | succ depth => exact (reads depth rest deep ends apart).takes stops

theorem ReadsAs.whole (reads : expression.ReadsAs 0) (begun : expression.Begun) {depth : Nat}
    {rest : List Token} (deep : expression.tokens.length ≤ depth) (ends : EndsOperand rest)
    (loose : precedence rest = 0) :
    Takes (level depth).whole (expression.tokens ++ rest) expression.tree rest := by
  have stops : precedence rest ≤ 0 := Nat.le_of_eq loose
  exact reads.takes begun deep ends (Nat.le_trans stops (Nat.zero_le _)) stops

theorem readsAs_column (table : Option String) (name : String) :
    ReadsAs (.column table name) bound := by
  intro depth rest _ ends _
  cases table with
  | none => exact .of_primary (takes_name ends)
  | some table => exact .of_primary (takes_path ends)

/-- The tokens of a number behind a minus sign, or of one without. -/
def signedTokens (negative : Bool) (spelling : String) : List Token :=
  if negative then [.sign "-", .number spelling false] else [.number spelling false]

theorem integerTokens_eq (value : Int) :
    integerTokens value =
      signedTokens (value < 0) (String.ofList (Text.writeNat value.natAbs)) := by
  cases value with
  | ofNat number => simp [integerTokens, signedTokens]
  | negSucc below => simp [integerTokens, signedTokens, Int.negSucc_lt_zero]

theorem climbs_signed (negative : Bool) {spelling : String} {depth : Nat} {rest : List Token}
    (deep : (signedTokens negative spelling).length ≤ depth + 1) (ends : EndsOperand rest)
    (stops : precedence rest ≤ if negative then 90 else 140) :
    Climbs (level depth) bound (signedTokens negative spelling ++ rest)
      (signedTree negative spelling) rest := by
  cases negative with
  | false => exact .of_primary (takes_number ends)
  | true =>
      obtain ⟨depth, rfl⟩ := Nat.exists_eq_add_of_le' (Nat.le_of_succ_le_succ deep)
      have magnitude : Takes ((level (depth + 1)).expression 90) (.number spelling false :: rest)
          (.number spelling false) rest :=
        (Climbs.of_primary (takes_number ends)).takes stops
      exact .of_primary (takes_minus (.number ends) magnitude ends)

theorem readsAs_literal (value : Literal) : ReadsAs (.literal value) bound := by
  intro depth rest deep ends stops
  cases value with
  | null => exact .of_primary (takes_constant (.head _) ends)
  | boolean value =>
      cases value with
      | true => exact .of_primary (takes_constant (.tail _ (.head _)) ends)
      | false => exact .of_primary (takes_constant (.tail _ (.tail _ (.head _))) ends)
  | integer value =>
      rw [tokens, Literal.tokens, integerTokens_eq] at deep ⊢
      rw [tree, Literal.tree, integerTree_eq]
      exact climbs_signed _ deep ends stops
  | float value => exact climbs_signed (isSigned value) deep ends stops
  | text value => exact .of_primary (takes_text ends)

theorem ReadsAs.not (reads : operand.ReadsAs 30) (begun : operand.Begun) :
    ReadsAs (.unary .not operand) bound := by
  intro depth rest deep ends stops
  obtain ⟨below, apart⟩ := Nat.le_min.mp stops
  exact .of_primary (takes_not (begun rest ends)
    (reads.takes begun (Nat.le_of_succ_le_succ deep) ends apart below) ends)

theorem ReadsAs.minus (reads : operand.ReadsAs 90) (begun : operand.Begun) :
    ReadsAs (.unary .minus operand) bound := by
  intro depth rest deep ends stops
  obtain ⟨below, apart⟩ := Nat.le_min.mp stops
  exact .of_primary (takes_minus (begun rest ends)
    (reads.takes begun (Nat.le_of_succ_le_succ deep) ends apart below) ends)

theorem ReadsAs.nested (reads : operand.ReadsAs 0) (begun : operand.Begun)
    (opened : Opened operand.tokens) : ReadsAs (.nested operand) bound := by
  intro depth rest deep ends _
  have closing : EndsOperand (.sign ")" :: rest) := show ")" ∈ operandSigns by decide
  simp only [tokens, enclosedTokens, List.length_cons, List.length_append] at deep
  have whole := reads.whole begun (by omega : operand.tokens.length ≤ depth) closing rfl
  have takes := takes_nested opened (begun _ closing) whole ends
  simpa [tokens, enclosedTokens, tree] using Climbs.of_primary takes

theorem ReadsAs.cast {type : String} (reads : operand.ReadsAs 0) (begun : operand.Begun)
    (opened : Opened operand.tokens) (readsType : ReadsType type) :
    ReadsAs (.cast operand type) bound := by
  intro depth rest deep ends _
  have behind : EndsOperand (keyword "AS" :: (typeTokens type ++ .sign ")" :: rest)) :=
    show "AS" ∈ operandWords by decide
  simp only [tokens, enclosedTokens, List.length_cons, List.length_append] at deep
  have whole := reads.whole begun (by omega : operand.tokens.length ≤ depth) behind rfl
  have takes := takes_cast opened readsType whole ends
  simpa [tokens, enclosedTokens, tree] using Climbs.of_primary takes

theorem readsAs_count (distinct : Bool) : ReadsAs (.aggregate "COUNT" [.wildcard] distinct) bound := by
  intro depth rest _ ends _
  have opened : Opened ((if distinct then [keyword "DISTINCT"] else []) ++ [.sign "*"]) := by
    cases distinct <;> simp [Opened, keyword]
  have star : Takes (callArgument (level depth)) ([.sign "*"] ++ .sign ")" :: rest) .star
      (.sign ")" :: rest) := .bind rfl (.bind (takes_acceptSign "*" _) (.pure _ _))
  have arguments := takes_callArguments distinct star (by simp) (by simp [isWord])
  have takes := takes_aggregate (by decide : "COUNT" ∈ aggregateNames) opened arguments ends
  simpa [tokens, tokensOfAll, commaTokens, enclosedTokens, tree, treesOfAll]
    using Climbs.of_primary takes

theorem ReadsAs.aggregate {name : String} {distinct : Bool} (isName : name ∈ aggregateNames)
    (reads : operand.ReadsAs 0) (begun : operand.Begun) (opened : Opened operand.tokens) :
    ReadsAs (.aggregate name [operand] distinct) bound := by
  intro depth rest deep ends _
  have closing : EndsOperand (.sign ")" :: rest) := show ")" ∈ operandSigns by decide
  have heads := begun _ closing
  simp only [tokens, tokensOfAll, commaTokens, enclosedTokens, List.length_cons,
    List.length_append] at deep
  have whole := reads.whole begun (by omega : operand.tokens.length ≤ depth) closing rfl
  have arguments := takes_callArguments distinct (heads.takes_callArgument whole)
    (heads.not_sign (by decide)) fun word member => heads.not_isWord (by
      simp only [List.mem_cons, List.not_mem_nil, or_false] at member
      rcases member with rfl | rfl <;> decide)
  have inside : Opened ((if distinct then [keyword "DISTINCT"] else []) ++ operand.tokens) := by
    refine .append ?_ opened
    cases distinct <;> simp [Opened, keyword]
  have takes := takes_aggregate isName inside arguments ends
  simpa [tokens, tokensOfAll, commaTokens, enclosedTokens, tree, treesOfAll]
    using Climbs.of_primary takes

/-! ## Operators -/

theorem ReadsAs.binary {operator : BinaryOperator} {left right : Expression}
    (tighter : bound < operator.precedence) (isLeft : left.ReadsAs bound)
    (apart : operator.precedence ≤ left.edge) (isRight : right.ReadsAs operator.precedence)
    (begun : right.Begun) : ReadsAs (.binary operator left right) bound := by
  intro depth rest deep ends stops
  have positive := begun.length_pos
  have sign : 0 < operator.tokens.length := by cases operator <;> exact Nat.succ_pos _
  simp only [tokens, List.length_append] at deep
  have endsRight : EndsOperand (operator.escapeTokens ++ rest) := by
    cases operator with
    | like => exact show "ESCAPE" ∈ operandWords by decide
    | notLike => exact show "ESCAPE" ∈ operandWords by decide
    | _ => exact ends
  have stopsRight : precedence (operator.escapeTokens ++ rest) ≤
      min operator.precedence right.edge := by
    cases operator with
    | like => exact Nat.zero_le _
    | notLike => exact Nat.zero_le _
    | _ => exact stops
  obtain ⟨below, apartRight⟩ := Nat.le_min.mp stopsRight
  have takesRight := isRight.takes begun (by omega : right.tokens.length ≤ depth) endsRight
    apartRight below
  have same := precedence_operator operator (right.tokens ++ (operator.escapeTokens ++ rest))
  have climbs := isLeft depth _ (by omega)
    (ends_operator operator (right.tokens ++ (operator.escapeTokens ++ rest)))
    (by rw [same]; exact apart)
  have whole := climbs.follow (by rw [same]; exact tighter)
    (by rw [same]; exact takes_follow_operator (begun _ endsRight) takesRight)
    (by simp only [List.length_append]; omega)
  simpa [tokens, tree] using whole

theorem ReadsAs.isNull {negated : Bool} (tighter : bound < 40) (reads : operand.ReadsAs bound)
    (apart : 40 ≤ operand.edge) : ReadsAs (.isNull operand negated) bound := by
  intro depth rest deep _ _
  have behind : EndsOperand (keyword "IS" ::
      ((if negated then [keyword "NOT"] else []) ++ (keyword "NULL" :: rest))) :=
    show "IS" ∈ operandWords by decide
  simp only [tokens, List.length_append] at deep
  have climbs := reads depth _ (by omega) behind apart
  have whole := climbs.follow tighter (takes_isNull operand.tree negated rest)
    (by simp only [List.length_append, List.length_cons]; omega)
  simpa [tokens, tree] using whole

theorem ReadsAs.between {least greatest : Expression} {negated : Bool} (tighter : bound < 60)
    (reads : operand.ReadsAs bound) (apart : 60 ≤ operand.edge) (isLeast : least.ReadsAs 60)
    (begunLeast : least.Begun) (leastApart : 30 ≤ least.edge) (isGreatest : greatest.ReadsAs 60)
    (begunGreatest : greatest.Begun) : ReadsAs (.between operand least greatest negated) bound := by
  intro depth rest deep ends stops
  have positive := begunGreatest.length_pos
  simp only [tokens, List.length_append, List.length_cons] at deep
  obtain ⟨below, apartGreatest⟩ := Nat.le_min.mp stops
  -- The `AND` between the bounds binds less than the least one, which ends in front of it.
  have endsLeast : EndsOperand (keyword "AND" :: (greatest.tokens ++ rest)) :=
    show "AND" ∈ operandWords by decide
  have conjunction : precedence (keyword "AND" :: (greatest.tokens ++ rest)) = 20 := rfl
  have takesLeast := isLeast.takes begunLeast (by omega : least.tokens.length ≤ depth) endsLeast
    (by omega) (by omega)
  have takesGreatest := isGreatest.takes begunGreatest (by omega : greatest.tokens.length ≤ depth)
    ends apartGreatest below
  have isTest : "BETWEEN" ∈ ["IN", "BETWEEN", "LIKE"] := by decide
  have follows : "BETWEEN" ∈ operandWords := by decide
  have same := precedence_test isTest negated
    (least.tokens ++ keyword "AND" :: (greatest.tokens ++ rest))
  have climbs := reads depth _ (by omega) (ends_test follows negated _)
    (by rw [same]; exact apart)
  have whole := climbs.follow (by rw [same]; exact tighter)
    (takes_follow_test isTest (takes_between takesLeast takesGreatest))
    (by simp only [List.length_append, List.length_cons]; omega)
  simpa [tokens, tree] using whole

theorem length_tokens_le_of_mem {items : List Expression} {item : Expression}
    (member : item ∈ items) : item.tokens.length ≤ (commaTokens (tokensOfAll items)).length := by
  rw [tokensOfAll_eq]
  exact length_le_of_mem_commaTokens (List.mem_map_of_mem member)

theorem ReadsAs.inList {items : List Expression} {negated : Bool} (tighter : bound < 60)
    (reads : operand.ReadsAs bound) (apart : 60 ≤ operand.edge) (nonempty : items ≠ [])
    (areItems : ∀ item ∈ items, item.ReadsAs 0) (begun : ∀ item ∈ items, item.Begun) :
    ReadsAs (.inList operand items negated) bound := by
  intro depth rest deep _ _
  simp only [tokens, enclosedTokens, List.length_append, List.length_cons] at deep
  have closing : Begins [] [")"] (.sign ")" :: rest) := List.mem_cons_self
  have each : ∀ item ∈ items, ∀ after, Begins [] [",", ")"] after →
      Takes (level depth).whole (item.tokens ++ after) item.tree after := by
    intro item member after follows
    have shorter := length_tokens_le_of_mem member
    refine (areItems item member).whole (begun item member) (by omega)
      (follows.mono (List.nil_subset _) (by decide)) ?_
    cases after with
    | nil => rfl
    | cons token after =>
        cases token with
        | sign spelling =>
            have isEnd : spelling ∈ [",", ")"] := follows
            simp only [List.mem_cons, List.not_mem_nil, or_false] at isEnd
            rcases isEnd with rfl | rfl <;> rfl
        | word text key => cases follows
        | _ => exact follows.elim
  have listed := takes_items nonempty each closing (by decide)
  have heads : Heads (commaTokens (items.map tokens) ++ .sign ")" :: rest) :=
    .commas nonempty begun (show ")" ∈ operandSigns by decide)
  have isTest : "IN" ∈ ["IN", "BETWEEN", "LIKE"] := by decide
  have follows : "IN" ∈ operandWords := by decide
  have same := precedence_test isTest negated
    (.sign "(" :: (commaTokens (items.map tokens) ++ .sign ")" :: rest))
  have climbs := reads depth _ (by omega) (ends_test follows negated _)
    (by rw [same]; exact apart)
  have whole := climbs.follow (by rw [same]; exact tighter)
    (takes_follow_test isTest (takes_inList heads listed))
    (by simp only [List.length_append, List.length_cons]; omega)
  simpa [tokens, tree, enclosedTokens, tokensOfAll_eq, treesOfAll_eq] using whole

theorem Binds.begun (binds : expression.Binds bound) (writable : expression.Writable) :
    expression.Begun :=
  fun _ ends => binds.heads writable ends

/-- An expression that can be written is read as its tree. -/
theorem Binds.readsAs (binds : expression.Binds bound) (writable : expression.Writable) :
    expression.ReadsAs bound := by
  induction binds with
  | column => exact readsAs_column _ _
  | literal => exact readsAs_literal _
  | binary tighter _ apart right leftIH rightIH =>
      exact .binary tighter (leftIH writable.1) apart (rightIH writable.2) (right.begun writable.2)
  | not operand ih => exact .not (ih writable) (operand.begun writable)
  | minus operand ih => exact .minus (ih writable.1) (operand.begun writable.1)
  | count => exact readsAs_count _
  | aggregate isName argument ih =>
      exact .aggregate isName (ih writable.1) (argument.begun writable.1) argument.opened
  | inList tighter _ apart nonempty items operandIH itemsIH =>
      have all := writableAll_iff.mp writable.2
      exact .inList tighter (operandIH writable.1) apart nonempty
        (fun item member => itemsIH item member (all item member))
        fun item member => (items item member).begun (all item member)
  | between tighter _ apart least greatest operandIH leastIH greatestIH =>
      exact .between tighter (operandIH writable.1) apart (leastIH writable.2.1)
        (least.begun writable.2.1) (least.le_edge (by decide)) (greatestIH writable.2.2)
        (greatest.begun writable.2.2)
  | isNull tighter _ apart ih => exact .isNull tighter (ih writable) apart
  | cast operand ih =>
      exact .cast (ih writable.1) (operand.begun writable.1) operand.opened writable.2
  | nested inner ih => exact .nested (ih writable) (inner.begun writable) inner.opened

/-- An expression that is read as its tree wherever a whole one may stand. -/
structure Phrased (expression : Expression) : Prop where
  reads : expression.ReadsAs 0
  begun : expression.Begun
  plain : expression.tree.IsPlain

theorem Binds.isPlain_tree (binds : expression.Binds bound) : expression.tree.IsPlain := by
  have signed : ∀ negative spelling, (signedTree negative spelling).IsPlain := by
    rintro (_ | _) spelling <;> constructor <;> simp [signedTree, isBareFrom]
  cases binds with
  | @column table => cases table <;> constructor <;> simp [tree, quotedIdentifier, isBareFrom]
  | @literal value =>
      cases value with
      | integer value =>
          rw [tree, Literal.tree, integerTree_eq]
          exact signed _ _
      | float value => exact signed _ _
      | _ => constructor <;> simp [tree, Literal.tree, isBareFrom]
  | @binary operator =>
      cases operator <;> constructor <;> simp [tree, BinaryOperator.tree, isBareFrom]
  | _ => constructor <;> simp [tree, isBareFrom]

theorem Binds.phrased (binds : expression.Binds 0) (writable : expression.Writable) :
    expression.Phrased :=
  ⟨binds.readsAs writable, binds.begun writable, binds.isPlain_tree⟩

end Expression

end CrossQuery.Select
