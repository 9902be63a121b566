import CrossQuery.Proofs.Select.Shapes

/-!
# Texts of written statements

The text of a statement that can be written becomes the tokens of the statement.
-/

set_option autoImplicit false

namespace CrossQuery.Select

open Token

theorem Lexes.minus {text : List Char} {tokens : List Token} (lexes : Lexes text tokens)
    (starts : ∃ c rest, text = c :: rest ∧ c ∈ operandStarts) :
    Lexes ('-' :: text) (.sign "-" :: tokens) := by
  obtain ⟨c, others, rfl, isStart⟩ := starts
  intro rest more apart reads
  exact Reads.minus isStart (lexes rest more apart reads)

/-- Pieces with commas between them. -/
theorem Lexes.commas {α : Type} {write : α → String} {tokens : α → List Token} {items : List α}
    (nonempty : items ≠ []) (all : ∀ item ∈ items, Lexes (write item).toList (tokens item)) :
    Lexes (commaList (items.map write)).toList (commaTokens (items.map tokens)) := by
  induction items with
  | nil => exact absurd rfl nonempty
  | cons first rest ih =>
      have lexes := all first List.mem_cons_self
      cases rest with
      | nil => simpa [commaList, commaTokens] using lexes
      | cons second rest =>
          have behind := ih (List.cons_ne_nil _ _) fun item member =>
            all item (List.mem_cons_of_mem _ member)
          have whole := lexes.append (.comma behind)
          simpa [commaList, commaTokens] using whole

/-! ## Expressions -/

namespace Literal

theorem lexes {value : Literal} (writable : value.Writable) :
    Lexes value.write.toList value.tokens := by
  cases value with
  | null => exact .keyword _ (by decide)
  | boolean value => cases value <;> exact .keyword _ (by decide)
  | integer value => simpa [write, tokens] using .integer value.toInt
  | float value => exact .float writable
  | text value => simpa [write, tokens] using .text value

theorem exists_start {value : Literal} (writable : value.Writable)
    (unsigned : value.isNegative = false) :
    ∃ c rest, value.write.toList = c :: rest ∧ c ∈ operandStarts := by
  cases value with
  | null => exact ⟨'N', _, rfl, by decide⟩
  | boolean value =>
      cases value with
      | true => exact ⟨'T', _, rfl, by decide⟩
      | false => exact ⟨'F', _, rfl, by decide⟩
  | integer value =>
      rw [isNegative, decide_eq_false_iff_not] at unsigned
      obtain ⟨number, shown⟩ := Int.eq_ofNat_of_zero_le (Int.not_lt.mp unsigned)
      cases written : Text.writeNat number with
      | nil => exact absurd written (Text.writeNat_ne_nil number)
      | cons c rest =>
          have digit : Text.isDecimalDigit c = true :=
            Text.isDecimalDigit_of_mem_writeNat (written ▸ List.mem_cons_self)
          exact ⟨c, rest, by simp [write, shown, Text.writeInt, written], mem_operandStarts digit⟩
  | float value =>
      obtain ⟨numeral, spelled, -⟩ := exists_numeral_float writable
      obtain ⟨first, others, isText, digit⟩ := numeral.exists_digit
      refine ⟨first, others, ?_, mem_operandStarts digit⟩
      have unsignedText := String.ofList_injective spelled
      have noSign : (Decimal.Binary.ofFloat value).isNegative = false := unsigned
      simp [write, Decimal.Notation.floatText, Decimal.Notation.text, noSign, unsignedText, isText]
  | text value => exact ⟨'\'', _, by simp [write, enclosed]; rfl, by decide⟩

end Literal

namespace Expression

theorem writeAll_eq (expressions : List Expression) :
    writeAll expressions = commaList (expressions.map write) := by
  induction expressions with
  | nil => rfl
  | cons first rest ih =>
      cases rest with
      | nil => simp [writeAll, commaList]
      | cons second rest =>
          rw [writeAll, ih]
          · simp [commaList]
          · exact nofun

theorem tokensOfAll_eq (expressions : List Expression) :
    tokensOfAll expressions = expressions.map tokens := by
  induction expressions with
  | nil => rfl
  | cons first rest ih => rw [tokensOfAll, ih, List.map_cons]

theorem mem_keywords_of_aggregate {name : String} (isName : name ∈ aggregateNames) :
    name ∈ keywords := by
  simp only [aggregateNames, List.mem_cons, List.not_mem_nil, or_false] at isName
  rcases isName with rfl | rfl | rfl | rfl | rfl <;> decide

theorem exists_start {operand : Expression} (binds : operand.Binds 90)
    (writable : operand.Writable) (unsigned : operand.beginsWithMinus = false) :
    ∃ c rest, operand.write.toList = c :: rest ∧ c ∈ operandStarts := by
  cases binds with
  | @column table name =>
      cases table with
      | none => exact ⟨'"', _, by simp [write, quoteIdentifier, enclosed]; rfl, by decide⟩
      | some table => exact ⟨'"', _, by simp [write, quoteIdentifier, enclosed]; rfl, by decide⟩
  | literal => exact Literal.exists_start writable unsigned
  | @binary operator _ _ _ tighter =>
      exact absurd (Nat.lt_of_lt_of_le tighter operator.precedence_le) (by decide)
  | not => exact ⟨'N', _, by simp [write]; rfl, by decide⟩
  | minus => cases unsigned
  | count => exact ⟨'C', _, by simp [write]; rfl, by decide⟩
  | @aggregate name _ _ _ isName =>
      simp only [aggregateNames, List.mem_cons, List.not_mem_nil, or_false] at isName
      rcases isName with rfl | rfl | rfl | rfl | rfl
      · exact ⟨'C', _, by simp [write]; rfl, by decide⟩
      · exact ⟨'S', _, by simp [write]; rfl, by decide⟩
      · exact ⟨'A', _, by simp [write]; rfl, by decide⟩
      · exact ⟨'M', _, by simp [write]; rfl, by decide⟩
      · exact ⟨'M', _, by simp [write]; rfl, by decide⟩
  | inList tighter => exact absurd tighter (by decide)
  | between tighter => exact absurd tighter (by decide)
  | isNull tighter => exact absurd tighter (by decide)
  | cast => exact ⟨'C', _, by simp [write]; rfl, by decide⟩
  | nested => exact ⟨'(', _, by simp [write]; rfl, by decide⟩

theorem lexes_column (table : Option String) (name : String) :
    Lexes (column table name).write.toList (column table name).tokens := by
  cases table with
  | none => simpa [write, quoteIdentifier, tokens] using Lexes.quotedName name
  | some table => simpa [write, quoteIdentifier, tokens] using Lexes.qualifiedName table name

theorem lexes_aggregate {name : String} (isName : name ∈ aggregateNames) {argument : Expression}
    (lexes : Lexes argument.write.toList argument.tokens) (distinct : Bool) :
    Lexes (aggregate name [argument] distinct).write.toList
      (aggregate name [argument] distinct).tokens := by
  have isKeyword := mem_keywords_of_aggregate isName
  cases distinct with
  | false =>
      have whole := Lexes.call name isKeyword lexes
      simpa [write, writeAll, tokens, tokensOfAll, commaTokens, enclosedTokens] using whole
  | true =>
      have whole := Lexes.call name isKeyword ((Lexes.keyword "DISTINCT" (by decide)).spaced lexes)
      simpa [write, writeAll, tokens, tokensOfAll, commaTokens, enclosedTokens] using whole

theorem lexes_binary {operator : BinaryOperator} {left right : Expression}
    (isLeft : Lexes left.write.toList left.tokens) (isRight : Lexes right.write.toList right.tokens) :
    Lexes (binary operator left right).write.toList (binary operator left right).tokens := by
  have escape := (Lexes.keyword "ESCAPE" (by decide)).spaced (.text "\\")
  have mark : enclosed '\'' "\\" = ['\'', '\\', '\''] := rfl
  have like := Lexes.keyword "LIKE" (by decide)
  cases operator with
  | compare comparison =>
      have whole := isLeft.spaced ((Lexes.comparison comparison).spaced isRight)
      simpa [write, tokens, BinaryOperator.write, BinaryOperator.writeEscape, BinaryOperator.tokens,
        BinaryOperator.escapeTokens] using whole
  | and =>
      have whole := isLeft.spaced ((Lexes.keyword "AND" (by decide)).spaced isRight)
      simpa [write, tokens, BinaryOperator.write, BinaryOperator.writeEscape, BinaryOperator.tokens,
        BinaryOperator.escapeTokens] using whole
  | or =>
      have whole := isLeft.spaced ((Lexes.keyword "OR" (by decide)).spaced isRight)
      simpa [write, tokens, BinaryOperator.write, BinaryOperator.writeEscape, BinaryOperator.tokens,
        BinaryOperator.escapeTokens] using whole
  | like =>
      have whole := isLeft.spaced (like.spaced (isRight.spaced escape))
      simpa [write, tokens, BinaryOperator.write, BinaryOperator.writeEscape, BinaryOperator.tokens,
        BinaryOperator.escapeTokens, mark] using whole
  | notLike =>
      have whole := isLeft.spaced
        ((Lexes.keyword "NOT" (by decide)).spaced (like.spaced (isRight.spaced escape)))
      simpa [write, tokens, BinaryOperator.write, BinaryOperator.writeEscape, BinaryOperator.tokens,
        BinaryOperator.escapeTokens, mark] using whole

/-- The text of an expression becomes the tokens of the expression. -/
theorem Binds.lexes {expression : Expression} {bound : Nat} (binds : expression.Binds bound)
    (writable : expression.Writable) : Lexes expression.write.toList expression.tokens := by
  have negation := Lexes.keyword "NOT" (by decide)
  induction binds with
  | column => exact lexes_column _ _
  | literal => exact Literal.lexes writable
  | binary _ _ _ _ leftIH rightIH => exact lexes_binary (leftIH writable.1) (rightIH writable.2)
  | not _ ih => simpa [write, tokens] using negation.spaced (ih writable)
  | minus operand ih =>
      -- Behind another minus sign the two would begin a comment.
      have starts := exists_start operand writable.1 writable.2
      simpa [write, tokens] using (ih writable.1).minus starts
  | count =>
      have star : Lexes wildcard.write.toList wildcard.tokens := by
        simpa [write, tokens] using Lexes.star
      exact lexes_aggregate (by decide) star _
  | aggregate isName _ ih => exact lexes_aggregate isName (ih writable.1) _
  | @inList operand items negated _ _ _ _ nonempty _ operandIH itemsIH =>
      have all := writableAll_iff.mp writable.2
      have listed := Lexes.commas nonempty fun item member => itemsIH item member (all item member)
      have inside := (Lexes.keyword "IN" (by decide)).spaced listed.parenthesised
      cases negated with
      | false =>
          have whole := (operandIH writable.1).spaced inside
          simpa [write, tokens, enclosedTokens, writeAll_eq, tokensOfAll_eq] using whole
      | true =>
          have whole := (operandIH writable.1).spaced (negation.spaced inside)
          simpa [write, tokens, enclosedTokens, writeAll_eq, tokensOfAll_eq] using whole
  | @between operand least greatest negated _ _ _ _ _ _ operandIH leastIH greatestIH =>
      have bounds := (leastIH writable.2.1).spaced
        ((Lexes.keyword "AND" (by decide)).spaced (greatestIH writable.2.2))
      have inside := (Lexes.keyword "BETWEEN" (by decide)).spaced bounds
      cases negated with
      | false =>
          have whole := (operandIH writable.1).spaced inside
          simpa [write, tokens] using whole
      | true =>
          have whole := (operandIH writable.1).spaced (negation.spaced inside)
          simpa [write, tokens] using whole
  | @isNull operand negated _ _ _ _ ih =>
      have null : Lexes "NULL".toList [keyword "NULL"] := .keyword _ (by decide)
      have is : Lexes "IS".toList [keyword "IS"] := .keyword _ (by decide)
      cases negated with
      | false => simpa [write, tokens] using (ih writable).spaced (is.spaced null)
      | true => simpa [write, tokens] using (ih writable).spaced (is.spaced (negation.spaced null))
  | @cast operand type _ _ ih =>
      have target := (Lexes.keyword "AS" (by decide)).spaced writable.2.lexes
      have whole := Lexes.call "CAST" (by decide) ((ih writable.1).spaced target)
      simpa [write, tokens, enclosedTokens] using whole
  | nested _ ih => simpa [write, tokens, enclosedTokens] using (ih writable).parenthesised

end Expression

/-! ## Statements -/

theorem Projection.lexes {projection : Projection}
    (lexes : Lexes projection.expression.write.toList projection.expression.tokens) :
    Lexes projection.write.toList projection.tokens := by
  obtain ⟨expression, givenName⟩ := projection
  cases givenName with
  | none => simpa [write, tokens] using lexes
  | some name =>
      have behind := (Lexes.keyword "AS" (by decide)).spaced (.quotedName name)
      simpa [write, tokens, quoteIdentifier] using lexes.spaced behind

theorem TableName.lexes (table : TableName) : Lexes table.write.toList table.tokens := by
  obtain ⟨name, givenName⟩ := table
  cases givenName with
  | none => simpa [write, tokens, quoteIdentifier] using Lexes.quotedName name
  | some other =>
      simpa [write, tokens, quoteIdentifier] using (Lexes.quotedName name).spaced (.quotedName other)

theorem Join.lexes {join : Join}
    (lexes : Lexes join.condition.write.toList join.condition.tokens) :
    Lexes join.write.toList join.tokens := by
  obtain ⟨kind, table, condition⟩ := join
  have word := Lexes.keyword "JOIN" (by decide)
  have behind := table.lexes.spaced ((Lexes.keyword "ON" (by decide)).spaced lexes)
  cases kind with
  | inner => simpa [write, tokens] using word.spaced behind
  | left =>
      have whole := (Lexes.keyword "LEFT" (by decide)).spaced (word.spaced behind)
      simpa [write, tokens] using whole

theorem SortKey.lexes {key : SortKey} (lexes : Lexes key.expression.write.toList key.expression.tokens) :
    Lexes key.write.toList key.tokens := by
  obtain ⟨expression, ascending, nullsFirst⟩ := key
  have nulls : ∀ word ∈ ["FIRST", "LAST"],
      Trails (" NULLS ".toList ++ word.toList) [keyword "NULLS", keyword word] := by
    intro word member
    have isKeyword : word ∈ keywords := by
      simp only [List.mem_cons, List.not_mem_nil, or_false] at member
      rcases member with rfl | rfl <;> decide
    have words := (Lexes.keyword "NULLS" (by decide)).spaced (.keyword word isKeyword)
    simpa using Trails.blank words
  have direction : Lexes (expression.write.toList ++ (if ascending then " ASC" else " DESC").toList)
      (expression.tokens ++ [keyword (if ascending then "ASC" else "DESC")]) := by
    cases ascending with
    | false => simpa using lexes.spaced (.keyword "DESC" (by decide))
    | true => simpa using lexes.spaced (.keyword "ASC" (by decide))
  cases nullsFirst with
  | none => simpa [write, tokens] using direction
  | some first =>
      cases first with
      | false => simpa [write, tokens] using direction.append (nulls "LAST" (by decide))
      | true => simpa [write, tokens] using direction.append (nulls "FIRST" (by decide))

theorem Trails.clause {α : Type} {write : α → String} {tokens : α → List Token} {items : List α}
    (title : String) (words : List String) (titled : Lexes title.toList (words.map keyword))
    (all : ∀ item ∈ items, Lexes (write item).toList (tokens item)) :
    Trails (Select.clause title (items.map write)).toList (clauseTokens words (items.map tokens)) := by
  cases items with
  | nil => exact .nil
  | cons first rest =>
      have listed := Lexes.commas (List.cons_ne_nil first rest) all
      simpa [Select.clause, clauseTokens] using Trails.blank (titled.spaced listed)

theorem Trails.joins {joins : List Join}
    (all : ∀ join ∈ joins, Lexes join.condition.write.toList join.condition.tokens) :
    Trails (String.join (joins.map fun join => " " ++ join.write)).toList
      (joins.flatMap Join.tokens) := by
  induction joins with
  | nil => exact .nil
  | cons join rest ih =>
      have first := Trails.blank (Join.lexes (all join List.mem_cons_self))
      have behind := ih fun other member => all other (List.mem_cons_of_mem _ member)
      simpa using first.append behind

/-- The text of a statement becomes the tokens of the statement. -/
theorem Statement.lexes {statement : Statement} (projects : statement.projections ≠ [])
    (each : ∀ expression ∈ statement.expressions,
      Lexes expression.write.toList expression.tokens) :
    Lexes statement.write.toList statement.tokens := by
  have noneEmpty : statement.projections.isEmpty = false := by
    simpa using projects
  have projections := Lexes.commas projects fun projection member =>
    Projection.lexes (each _ (mem_expressions_of_projection member))
  have joins := Trails.joins fun join member => each _ (mem_expressions_of_join member)
  have filter := Trails.clause "WHERE" ["WHERE"] (.keyword _ (by decide))
    fun condition member => each _ (mem_expressions_of_filter (Option.mem_toList.mp member))
  have groupTitle : Lexes "GROUP BY".toList (["GROUP", "BY"].map keyword) := by
    simpa using (Lexes.keyword "GROUP" (by decide)).spaced (.keyword "BY" (by decide))
  have groups := Trails.clause "GROUP BY" ["GROUP", "BY"] groupTitle fun key member =>
    each _ (mem_expressions_of_group member)
  have orderTitle : Lexes "ORDER BY".toList (["ORDER", "BY"].map keyword) := by
    simpa using (Lexes.keyword "ORDER" (by decide)).spaced (.keyword "BY" (by decide))
  have order := Trails.clause "ORDER BY" ["ORDER", "BY"] orderTitle fun key member =>
    SortKey.lexes (each _ (mem_expressions_of_order member))
  have counts : ∀ items : List Nat, ∀ count ∈ items,
      Lexes (String.ofList (Text.writeNat count)).toList (countTokens count) := by
    intro _ count _
    simpa [countTokens] using Lexes.number count
  have limit := Trails.clause "LIMIT" ["LIMIT"] (.keyword _ (by decide))
    (counts statement.limit.toList)
  have offset := Trails.clause "OFFSET" ["OFFSET"] (.keyword _ (by decide))
    (counts statement.offset.toList)
  have clauses := filter.append (groups.append (order.append (limit.append offset)))
  have source := statement.source.lexes.append (joins.append clauses)
  have from_source := projections.spaced ((Lexes.keyword "FROM" (by decide)).spaced source)
  have whole := (Lexes.keyword "SELECT" (by decide)).spaced from_source
  -- The equation of the text is slow to derive, so its definition is opened directly.
  delta write
  simpa [tokens, noneEmpty] using whole

theorem Statement.Shaped.lexes {statement : Statement} (shaped : statement.Shaped)
    (writable : statement.Writable) : Lexes statement.write.toList statement.tokens :=
  statement.lexes shaped.projects fun expression member =>
    (shaped.binds expression member).lexes (writable expression member)

end CrossQuery.Select
