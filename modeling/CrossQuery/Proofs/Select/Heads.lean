import CrossQuery.Proofs.Select.Trees

/-!
# How expressions begin

What the first tokens of an expression are. They begin no type with a text behind it, no named
argument and no name that ends in a star.
-/

set_option autoImplicit false

namespace CrossQuery.Select

open Token Grammar

/-! ## What stands behind an operand -/

namespace Grammar

def operandWords : List String :=
  ["AND", "OR", "NOT", "IS", "IN", "BETWEEN", "LIKE", "ESCAPE", "AS", "FROM", "WHERE", "GROUP",
    "ORDER", "LIMIT", "OFFSET", "LEFT", "JOIN", "ASC", "DESC"]

def operandSigns : List String :=
  [",", ")", "=", "<>", "<", "<=", ">", ">="]

/-- What may stand behind an operand. -/
def EndsOperand (tokens : List Token) : Prop :=
  Begins operandWords operandSigns tokens

end Grammar

/-! ## Parentheses -/

namespace Expression

theorem opened_literal (value : Literal) : Opened value.tokens := by
  cases value with
  | boolean value => cases value <;> simp [Literal.tokens, Opened, keyword]
  | integer value =>
      rw [Literal.tokens]
      cases value.toInt <;> simp [integerTokens, Opened]
  | float value =>
      rw [Literal.tokens, floatTokens]
      split <;> simp [Opened]
  | _ => simp [Literal.tokens, Opened, keyword]

theorem Binds.opened {expression : Expression} {bound : Nat} (binds : expression.Binds bound) :
    Opened expression.tokens := by
  have opens : ∀ {behind}, Opened (.sign "(" :: behind) := .inl rfl
  induction binds with
  | @column table _ _ => cases table <;> simp [tokens, Opened]
  | literal => exact opened_literal _
  | @binary operator _ _ _ _ _ _ _ leftIH rightIH =>
      have sign : Opened operator.tokens := by
        cases operator with
        | compare comparison => cases comparison <;> simp [BinaryOperator.tokens, Opened, comparisonSign]
        | _ => simp [BinaryOperator.tokens, Opened, keyword]
      have escape : Opened operator.escapeTokens := by
        cases operator <;> simp [BinaryOperator.escapeTokens, Opened, keyword]
      exact leftIH.append (sign.append (rightIH.append escape))
  | not _ ih => exact ih.keyword _
  | minus _ ih => exact .inr ⟨by decide, ih⟩
  | count => exact opens.keyword _
  | aggregate => exact opens.keyword _
  | @inList _ _ negated _ _ _ _ _ _ operandIH _ =>
      refine operandIH.append ?_
      cases negated with
      | false => exact opens.keyword _
      | true => exact (opens.keyword _).keyword _
  | @between _ least greatest negated _ _ _ _ _ _ operandIH leastIH greatestIH =>
      have bounds := leastIH.append (greatestIH.keyword "AND")
      refine operandIH.append ?_
      cases negated with
      | false => exact bounds.keyword _
      | true => exact (bounds.keyword _).keyword _
  | @isNull _ negated _ _ _ _ operandIH =>
      refine operandIH.append ?_
      cases negated <;> simp [Opened, keyword]
  | cast => exact opens.keyword _
  | nested => exact .inl rfl

end Expression

/-! ## First tokens -/

/-- The words that are followed by parentheses. -/
def callWords : List String :=
  "CAST" :: aggregateNames

/-- Tokens that an expression begins, with what it stands in front of. -/
inductive Heads : List Token → Prop where
  | path {table name : String} {rest : List Token} :
      EndsOperand rest → Heads (.quotedName table :: .sign "." :: .quotedName name :: rest)
  | name {name : String} {rest : List Token} : EndsOperand rest → Heads (.quotedName name :: rest)
  | text {value : String} {rest : List Token} : EndsOperand rest → Heads (.text value :: rest)
  | number {spelling : String} {rest : List Token} :
      EndsOperand rest → Heads (.number spelling false :: rest)
  | constant {word : String} {rest : List Token} :
      word ∈ ["NULL", "TRUE", "FALSE"] → EndsOperand rest → Heads (keyword word :: rest)
  | call {word : String} {inside rest : List Token} :
      word ∈ callWords → Opened inside → EndsOperand rest →
      Heads (keyword word :: .sign "(" :: (inside ++ .sign ")" :: rest))
  | nested {inside rest : List Token} :
      Opened inside → Heads (inside ++ .sign ")" :: rest) → EndsOperand rest →
      Heads (.sign "(" :: (inside ++ .sign ")" :: rest))
  | not {tokens : List Token} : Heads tokens → Heads (keyword "NOT" :: tokens)
  | minus {tokens : List Token} : Heads tokens → Heads (.sign "-" :: tokens)

def headWords : List String :=
  ["NULL", "TRUE", "FALSE", "NOT"] ++ callWords

namespace Heads

variable {tokens : List Token}

theorem length_pos (heads : Heads tokens) : 0 < tokens.length := by
  cases heads <;> exact Nat.succ_pos _

theorem not_isWord (heads : Heads tokens) {word : String} (absent : word ∉ headWords) :
    ∀ token ∈ tokens.head?, token.isWord word = false := by
  have other : ∀ key ∈ headWords, (keyword key).isWord word = false := by
    intro key member
    have different : key ≠ word := by
      rintro rfl
      exact absent member
    simpa [keyword, isWord] using different
  cases heads with
  | constant isWord _ =>
      rintro _ ⟨⟩
      exact other _ (List.mem_append_left _ (List.mem_append_left ["NOT"] isWord))
  | call isWord _ _ =>
      rintro _ ⟨⟩
      exact other _ (List.mem_append_right _ isWord)
  | not _ =>
      rintro _ ⟨⟩
      exact other _ (by decide)
  | _ =>
      rintro _ ⟨⟩
      rfl

theorem not_sign (heads : Heads tokens) {spelling : String} (absent : spelling ∉ ["-", "("]) :
    tokens.head? ≠ some (.sign spelling) := by
  cases heads with
  | nested =>
      rintro ⟨⟩
      exact absent (by decide)
  | minus =>
      rintro ⟨⟩
      exact absent (by decide)
  | _ => rintro ⟨⟩

theorem tail_not_sign {first : Token} {name : Identifier} (heads : Heads (first :: tokens))
    (isName : identifierOf? first = some name) {spelling : String}
    (absent : spelling ∉ "." :: "-" :: "(" :: operandSigns) :
    tokens.head? ≠ some (.sign spelling) := by
  have noSign : spelling ∉ operandSigns := fun member =>
    absent (List.mem_cons_of_mem _ (List.mem_cons_of_mem _ (List.mem_cons_of_mem _ member)))
  cases heads with
  | path =>
      rintro ⟨⟩
      exact absent (by decide)
  | name ends => exact ends.not_sign noSign
  | text ends => exact ends.not_sign noSign
  | number => cases isName
  | constant _ ends => exact ends.not_sign noSign
  | call =>
      rintro ⟨⟩
      exact absent (by decide)
  | nested => cases isName
  | not heads =>
      refine heads.not_sign fun member => absent ?_
      exact List.mem_cons_of_mem _ (List.mem_append_left operandSigns member)
  | minus => cases isName

theorem commas {α : Type} {tokensOf : α → List Token} {items : List α} (nonempty : items ≠ [])
    (each : ∀ item ∈ items, ∀ after, EndsOperand after → Heads (tokensOf item ++ after))
    {rest : List Token} (ends : EndsOperand rest) :
    Heads (commaTokens (items.map tokensOf) ++ rest) := by
  cases items with
  | nil => exact absurd rfl nonempty
  | cons first others =>
      have begun := each first List.mem_cons_self
      cases others with
      | nil => exact begun rest ends
      | cons second others =>
          have comma : EndsOperand
              (.sign "," :: (commaTokens ((second :: others).map tokensOf) ++ rest)) :=
            show "," ∈ operandSigns by decide
          simpa [commaTokens] using begun _ comma

end Heads

namespace Expression

theorem ends_operator (operator : BinaryOperator) (rest : List Token) :
    EndsOperand (operator.tokens ++ rest) := by
  cases operator with
  | compare comparison => cases comparison <;> exact show _ ∈ operandSigns by decide
  | and => exact show "AND" ∈ operandWords by decide
  | or => exact show "OR" ∈ operandWords by decide
  | like => exact show "LIKE" ∈ operandWords by decide
  | notLike => exact show "NOT" ∈ operandWords by decide

theorem ends_test {word : String} (isTest : word ∈ operandWords) (negated : Bool)
    (rest : List Token) :
    EndsOperand ((if negated then [keyword "NOT"] else []) ++ keyword word :: rest) := by
  cases negated with
  | false => exact isTest
  | true => exact show "NOT" ∈ operandWords by decide

theorem heads_literal (value : Literal) {rest : List Token} (ends : EndsOperand rest) :
    Heads (value.tokens ++ rest) := by
  cases value with
  | null => exact .constant (by decide) ends
  | boolean value => cases value <;> exact .constant (by decide) ends
  | integer value =>
      rw [Literal.tokens]
      cases value.toInt with
      | ofNat number => exact .number ends
      | negSucc below => exact .minus (.number ends)
  | float value =>
      rw [Literal.tokens, floatTokens]
      split
      · exact .minus (.number ends)
      · exact .number ends
  | text value => exact .text ends

/-- How the tokens of an expression begin. The induction follows the first operands. -/
theorem Binds.heads {expression : Expression} {bound : Nat}
    (binds : expression.Binds bound) (writable : expression.Writable) {rest : List Token}
    (ends : EndsOperand rest) : Heads (expression.tokens ++ rest) := by
  induction binds generalizing rest with
  | @column table name _ =>
      cases table with
      | none => exact .name ends
      | some table => exact .path ends
  | literal => exact heads_literal _ ends
  | @binary operator left right _ _ _ _ _ leftIH _ =>
      have behind := ends_operator operator (right.tokens ++ (operator.escapeTokens ++ rest))
      simpa [tokens] using leftIH writable.1 behind
  | not _ ih => exact .not (ih writable ends)
  | minus _ ih => exact .minus (ih writable.1 ends)
  | @count distinct _ =>
      have inside : Opened ((if distinct then [keyword "DISTINCT"] else []) ++ [.sign "*"]) := by
        cases distinct <;> simp [Opened, keyword]
      have heads := Heads.call (by decide : "COUNT" ∈ callWords) inside ends
      simpa [tokens, tokensOfAll, commaTokens, enclosedTokens] using heads
  | @aggregate name argument distinct _ isName argumentBinds _ =>
      have inside : Opened ((if distinct then [keyword "DISTINCT"] else []) ++ argument.tokens) := by
        refine .append ?_ argumentBinds.opened
        cases distinct <;> simp [Opened, keyword]
      have heads := Heads.call (List.mem_cons_of_mem "CAST" isName) inside ends
      simpa [tokens, tokensOfAll, commaTokens, enclosedTokens] using heads
  | @inList operand items negated _ _ _ _ _ _ operandIH _ =>
      have behind := ends_test (by decide : "IN" ∈ operandWords) negated
        (enclosedTokens (commaTokens (tokensOfAll items)) ++ rest)
      simpa [tokens] using operandIH writable.1 behind
  | @between operand least greatest negated _ _ _ _ _ _ operandIH _ _ =>
      have behind := ends_test (by decide : "BETWEEN" ∈ operandWords) negated
        (least.tokens ++ (keyword "AND" :: (greatest.tokens ++ rest)))
      simpa [tokens] using operandIH writable.1 behind
  | @isNull operand negated _ _ _ _ operandIH =>
      have behind : EndsOperand (keyword "IS" ::
          ((if negated then [keyword "NOT"] else []) ++ (keyword "NULL" :: rest))) :=
        show "IS" ∈ operandWords by decide
      simpa [tokens] using operandIH writable behind
  | @cast operand type _ operandBinds _ =>
      have target := writable.2.opened.keyword "AS"
      have heads := Heads.call (by decide : "CAST" ∈ callWords) (operandBinds.opened.append target) ends
      simpa [tokens, enclosedTokens] using heads
  | @nested inner _ innerBinds ih =>
      have closing : EndsOperand (.sign ")" :: rest) := show ")" ∈ operandSigns by decide
      have heads := Heads.nested innerBinds.opened (ih writable closing) ends
      simpa [tokens, enclosedTokens] using heads

end Expression

namespace Grammar

/-! ## No type in front of a text -/

/-- A name that is no type's begins no text of a type. -/
theorem fails_typedText {below : Nested} {tokens : List Token}
    (custom : elementType tokens = (DataType.custom <$> customType) tokens)
    (noBracket : ∀ name rest, Takes customType tokens name rest →
      Takes (acceptSign "[") rest false rest) : Fails (typedText below) tokens := by
  cases taken : customType tokens with
  | none =>
      have element : Fails elementType tokens := by
        rw [Fails, custom]
        exact Fails.map taken
      exact element.bind.bind
  | some result =>
      obtain ⟨name, rest⟩ := result
      have isCustom : Takes customType tokens name rest := taken
      have element : Takes elementType tokens (.custom name) rest := by
        rw [Takes, custom]
        exact isCustom.map
      have brackets : Takes arrayBrackets rest none rest :=
        .bind (noBracket name rest isCustom) (.pure _ _)
      have type : Takes dataType tokens (.custom name) rest :=
        .bind element (.bind (takes_many_none brackets) (.pure _ _))
      exact type.bind_fails rfl

theorem takes_identifier {first : Token} {name : Identifier} {rest : List Token}
    (isName : identifierOf? first = some name) : Takes identifier (first :: rest) name rest := by
  refine .bind (takes_next first rest) ?_
  rw [isName]
  exact .pure _ _

theorem takes_objectName {first : Token} {name : Identifier} {rest : List Token}
    (isName : identifierOf? first = some name) (ends : Takes (acceptSign ".") rest false rest) :
    Takes objectName (first :: rest) [name] rest := by
  refine .bind (takes_identifier isName) (.bind (takes_many_none ?_) (.pure _ _))
  exact .bind ends (.pure _ _)

theorem rest_of_modifiersWithin {inside rest after : List Token} {modifiers : List String}
    {fuel : Nat} (opened : Opened inside)
    (takes : Takes (modifiersWithin fuel) (inside ++ .sign ")" :: rest) modifiers after) :
    after = rest := by
  induction inside generalizing fuel modifiers with
  | nil =>
      cases fuel with
      | zero => cases takes
      | succ fuel =>
          cases takes
          rfl
  | cons token inside ih =>
      cases fuel with
      | zero => cases takes
      | succ fuel =>
          have behind := takes.of_bind (takes_next token _)
          rcases opened with rfl | ⟨plain, opened⟩
          · cases behind
          cases token with
          | sign spelling =>
              by_cases isComma : spelling = ","
              · subst isComma
                exact ih opened behind
              · have noEnd : spelling ≠ ")" := fun same => plain (same ▸ rfl)
                simp [isComma] at behind
                cases behind
          | word text key =>
              obtain ⟨_, _, others, last⟩ := behind.exists_bind
              cases last
              exact ih opened others
          | quotedName name =>
              obtain ⟨_, _, others, last⟩ := behind.exists_bind
              cases last
              exact ih opened others
          | number text long =>
              obtain ⟨_, _, others, last⟩ := behind.exists_bind
              cases last
              exact ih opened others
          | text value =>
              obtain ⟨_, _, others, last⟩ := behind.exists_bind
              cases last
              exact ih opened others
          | _ => cases behind

section

variable {first : Token} {name : Identifier} {tokens rest after : List Token} {shown : String}

theorem takes_customType_of_name (isName : identifierOf? first = some name)
    (noPoint : tokens.head? ≠ some (.sign ".")) (noParenthesis : tokens.head? ≠ some (.sign "(")) :
    Takes customType (first :: tokens) (displayName [name]) tokens := by
  refine .bind (takes_objectName isName (takes_acceptSign_of_head noPoint)) ?_
  exact .bind (takes_acceptSign_of_head noParenthesis) (.pure _ _)

/-- A name with something in parentheses behind it ends where the parentheses do. -/
theorem rest_of_customType_call {inside : List Token} (isName : identifierOf? first = some name)
    (opened : Opened inside)
    (takes : Takes customType (first :: .sign "(" :: (inside ++ .sign ")" :: rest)) shown after) :
    after = rest := by
  have behindName := takes.of_bind (takes_objectName isName rfl)
  have inParentheses := behindName.of_bind (takes_acceptSign "(" _)
  obtain ⟨modifiers, middle, listed, last⟩ :=
    (inParentheses.of_bind (takes_get _)).exists_bind
  have ended := rest_of_modifiersWithin opened listed
  cases modifiers <;> cases last <;> exact ended

end

theorem fails_typedText_of_path {below : Nested} {table name : String} {rest : List Token}
    (ends : EndsOperand rest) :
    Fails (typedText below) (.quotedName table :: .sign "." :: .quotedName name :: rest) := by
  refine fails_typedText rfl fun shown after takes => ?_
  have parts : Takes objectName (.quotedName table :: .sign "." :: .quotedName name :: rest)
      [quotedIdentifier table, quotedIdentifier name] rest := by
    refine .bind (takes_identifier rfl) (.bind (.bind (takes_get _) ?_) (.pure _ _))
    refine .bind (.bind (takes_acceptSign "." _) (Takes.map (takes_identifier rfl))) ?_
    refine .bind (.bind (.bind (ends.acceptSign (by decide)) (.pure _ _)) (.pure _ _)) (.pure _ _)
  have whole : Takes customType (.quotedName table :: .sign "." :: .quotedName name :: rest)
      (displayName [quotedIdentifier table, quotedIdentifier name]) rest :=
    .bind parts (.bind (ends.acceptSign (by decide)) (.pure _ _))
  have same := whole.symm.trans takes
  cases same
  exact ends.acceptSign (by decide)

end Grammar

namespace Heads

variable {below : Nested} {first : Token} {tokens rest : List Token} {tree : Tree}

/-- A word or a text that no brackets follow is no type. -/
theorem fails_typedText_of_name {name : Identifier} (heads : Heads (first :: tokens))
    (isName : identifierOf? first = some name)
    (custom : elementType (first :: tokens) = (DataType.custom <$> customType) (first :: tokens))
    (noPoint : tokens.head? ≠ some (.sign ".")) (noParenthesis : tokens.head? ≠ some (.sign "(")) :
    Fails (typedText below) (first :: tokens) := by
  refine Grammar.fails_typedText custom fun shown after takes => ?_
  cases (takes_customType_of_name isName noPoint noParenthesis).symm.trans takes
  exact takes_acceptSign_of_head (heads.tail_not_sign isName (by decide))

/-- A call looks like a type with words in its parentheses, but no text stands behind it. -/
theorem fails_typedText_of_call {inside : List Token} {name : Identifier}
    (isName : identifierOf? first = some name)
    (custom : elementType (first :: .sign "(" :: (inside ++ .sign ")" :: rest)) =
      (DataType.custom <$> customType) (first :: .sign "(" :: (inside ++ .sign ")" :: rest)))
    (opened : Opened inside) (ends : EndsOperand rest) :
    Fails (typedText below) (first :: .sign "(" :: (inside ++ .sign ")" :: rest)) := by
  refine Grammar.fails_typedText custom fun shown after takes => ?_
  rw [rest_of_customType_call isName opened takes]
  exact ends.acceptSign (by decide)

/-- What an expression begins with is no type with a text behind it. -/
theorem fails_typedText (heads : Heads tokens) : Fails (typedText below) tokens := by
  have noName : ∀ {tokens}, elementType tokens = none → customType tokens = none →
      Fails (typedText below) tokens := by
    intro tokens noElement noCustom
    refine Grammar.fails_typedText (by rw [noElement, Fails.map noCustom]) fun _ _ takes => ?_
    rw [Takes, noCustom] at takes
    cases takes
  cases heads with
  | path ends => exact fails_typedText_of_path ends
  | name ends =>
      exact fails_typedText_of_name (.name ends) rfl rfl (ends.not_sign (by decide))
        (ends.not_sign (by decide))
  | text ends =>
      exact fails_typedText_of_name (.text ends) rfl rfl (ends.not_sign (by decide))
        (ends.not_sign (by decide))
  | number => exact noName rfl rfl
  | @constant word _ isWord ends =>
      refine fails_typedText_of_name (.constant isWord ends) rfl ?_ (ends.not_sign (by decide))
        (ends.not_sign (by decide))
      simp only [List.mem_cons, List.not_mem_nil, or_false] at isWord
      rcases isWord with rfl | rfl | rfl <;> rfl
  | @call word _ _ isWord opened ends =>
      refine fails_typedText_of_call rfl ?_ opened ends
      simp only [callWords, aggregateNames, List.mem_cons, List.not_mem_nil, or_false] at isWord
      rcases isWord with rfl | rfl | rfl | rfl | rfl | rfl <;> rfl
  | nested => exact noName rfl rfl
  | minus => exact noName rfl rfl
  | @not tokens heads =>
      have negation := Heads.not heads
      have noPoint := heads.not_sign (by decide : "." ∉ ["-", "("])
      cases heads with
      | nested opened _ ends => exact fails_typedText_of_call rfl rfl opened ends
      | _ => exact fails_typedText_of_name negation rfl rfl noPoint (by simp [keyword])

/-- What an expression begins with is no star and no name that ends in one. -/
theorem takes_wildcardOr (heads : Heads tokens) (takes : Takes below.whole tokens tree rest) :
    Takes (wildcardOr below) tokens tree rest := by
  have noStar := takes_acceptSign_of_head (heads.not_sign (by decide : "*" ∉ ["-", "("]))
  refine .bind noStar (.bind (Fails.attempt ?_) takes)
  have noPath : ∀ {first tokens name}
      {starred : Identifier → List Identifier × Bool → Grammar Tree},
      identifierOf? first = some name → tokens.head? ≠ some (.sign ".") →
      (∀ tokens, Fails (starred name ([], false)) tokens) →
      Fails (identifier >>= fun first => get >>= fun tokens =>
        pathTail (tokens.length + 1) >>= starred first) (first :: tokens) := by
    intro first tokens name starred isName noPoint fails
    refine (takes_identifier isName).bind_fails ((takes_get tokens).bind_fails ?_)
    have path : Takes (pathTail (tokens.length + 1)) tokens ([], false) tokens :=
      .bind (takes_acceptSign_of_head noPoint) (.pure _ _)
    exact path.bind_fails (fails tokens)
  cases heads with
  | @path table name rest ends =>
      refine (takes_identifier rfl).bind_fails ((takes_get _).bind_fails ?_)
      have path : Takes (pathTail ((Token.sign "." :: .quotedName name :: rest).length + 1))
          (.sign "." :: .quotedName name :: rest) ([quotedIdentifier name], false) rest := by
        refine .bind (takes_acceptSign "." _) (.bind rfl (.bind (takes_identifier rfl) ?_))
        exact .bind (.bind (ends.acceptSign (by decide)) (.pure _ _)) (.pure _ _)
      exact path.bind_fails rfl
  | name ends => exact noPath rfl (ends.not_sign (by decide)) fun _ => rfl
  | text ends => exact noPath rfl (ends.not_sign (by decide)) fun _ => rfl
  | constant _ ends => exact noPath rfl (ends.not_sign (by decide)) fun _ => rfl
  | call => exact noPath rfl (by simp) fun _ => rfl
  | not heads => exact noPath rfl (heads.not_sign (by decide)) fun _ => rfl
  | _ => rfl

theorem takes_callArgument (heads : Heads tokens) (takes : Takes below.whole tokens tree rest) :
    Takes (callArgument below) tokens tree rest := by
  refine .bind (Fails.attempt (Fails.bind ?_)) (heads.takes_wildcardOr takes)
  cases tokens with
  | nil => rfl
  | cons first tokens =>
      cases isName : identifierOf? first with
      | none =>
          have noName : Fails identifier (first :: tokens) := by
            refine (takes_next first tokens).bind_fails ?_
            rw [isName]
            rfl
          exact noName.bind
      | some name =>
          have noArrow := takes_acceptSign_of_head
            (heads.tail_not_sign isName (by decide : "=>" ∉ "." :: "-" :: "(" :: operandSigns))
          have noMark := takes_acceptSign_of_head
            (heads.tail_not_sign isName (by decide : ":=" ∉ "." :: "-" :: "(" :: operandSigns))
          refine (takes_identifier isName).bind_fails (noArrow.bind_fails ?_)
          exact Fails.bind (noMark.bind_fails rfl)

end Heads

end CrossQuery.Select
