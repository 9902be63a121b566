import CrossQuery.Proofs.Select.Clauses

/-!
# Reading written statements

The text of a statement is read as the statement, with its numbers as they are read: with the signs
of negative constants apart, and otherwise as they were if the statement has no floats.
-/

set_option autoImplicit false

namespace CrossQuery.Select

namespace Grammar

open Token

theorem tokens_eq_selectTokens (statement : Statement) :
    statement.tokens = selectTokens statement
      (clauseTokens ["ORDER", "BY"] (statement.orderBy.map SortKey.tokens) ++
        (clauseTokens ["LIMIT"] (statement.limit.toList.map countTokens) ++
          clauseTokens ["OFFSET"] (statement.offset.toList.map countTokens))) := by
  simp [Statement.tokens, selectTokens, filterTokens]

theorem length_orderBy {statement : Statement} {depth : Nat}
    (deep : statement.tokens.length ≤ depth) :
    ∀ key ∈ statement.orderBy, key.expression.tokens.length ≤ depth := by
  intro key member
  have listed := length_le_clauseTokens ["ORDER", "BY"]
    (List.mem_map_of_mem member : key.tokens ∈ statement.orderBy.map SortKey.tokens)
  simp only [SortKey.tokens, List.length_append] at listed
  rw [tokens_eq_selectTokens] at deep
  simp only [selectTokens, filterTokens, List.length_cons, List.length_append] at deep
  omega

section

variable {statement : Statement} {depth : Nat} (projects : statement.projections ≠ [])
  (phrased : ∀ expression ∈ statement.expressions, expression.Phrased)

include projects phrased

theorem takes_body {rest : List Token} (deep : (selectTokens statement rest).length ≤ depth + 2)
    (ends : Begins ["ORDER", "LIMIT", "OFFSET"] [] rest) :
    Takes (body (level (depth + 2))) (selectTokens statement rest) (.select statement.selectTree)
      rest := by
  have peeked : Takes peekWord (selectTokens statement rest) "SELECT" (selectTokens statement rest) :=
    rfl
  have part : Takes (bodyPart (level (depth + 2))) (selectTokens statement rest)
      (.select statement.selectTree) rest :=
    .bind peeked (takes_select projects phrased deep ends).map
  have noSet : Takes (furtherPart (level (depth + 2))) rest none rest :=
    .bind (ends.acceptAnyWord (by decide)) (.pure _ _)
  exact .bind part (.bind (takes_many_none noSet) (.pure _ _))

/-- A query is read as its tree. -/
theorem takes_query (deep : statement.tokens.length ≤ depth + 2) :
    Takes (queryPhrase (level (depth + 2))) statement.tokens statement.tree [] := by
  have deepOrder := length_orderBy deep
  rw [tokens_eq_selectTokens] at deep ⊢
  have positive : 1 ≤ depth + 2 := Nat.succ_pos (depth + 1)
  have offsetEnds : Begins ["OFFSET"] []
      (clauseTokens ["OFFSET"] (statement.offset.toList.map countTokens)) := by
    cases statement.offset with
    | none => trivial
    | some count => exact List.mem_cons_self
  have limitEnds : Begins ["LIMIT", "OFFSET"] []
      (clauseTokens ["LIMIT"] (statement.limit.toList.map countTokens) ++
        clauseTokens ["OFFSET"] (statement.offset.toList.map countTokens)) :=
    begins_clause offsetEnds
  have orderEnds : Begins ["ORDER", "LIMIT", "OFFSET"] []
      (clauseTokens ["ORDER", "BY"] (statement.orderBy.map SortKey.tokens) ++
        (clauseTokens ["LIMIT"] (statement.limit.toList.map countTokens) ++
          clauseTokens ["OFFSET"] (statement.offset.toList.map countTokens))) :=
    begins_clause limitEnds
  have selected := takes_body projects phrased deep orderEnds
  have ordered := takes_order
    (fun key member => phrased _ (Statement.mem_expressions_of_order member)) deepOrder limitEnds
  have limited := takes_limit statement.limit positive offsetEnds
  have skipped := takes_offset statement.offset positive
  have limitKnown : Takes (limitClause (level (depth + 2)) (statement.limit.map countTree)) []
      (statement.limit.map countTree) [] := by
    cases statement.limit <;> rfl
  have offsetKnown : Takes (offsetClause (level (depth + 2)) (statement.offset.map countTree)) []
      (statement.offset.map countTree) [] := by
    cases statement.offset <;> rfl
  refine .bind rfl (.bind selected (.bind ordered (.bind limited (.bind skipped ?_))))
  refine .bind limitKnown (.bind offsetKnown (.bind rfl ?_))
  exact .bind (takes_many_none rfl) (.pure _ _)

theorem takes_statement (deep : statement.tokens.length ≤ depth + 2) :
    Takes (Grammar.statement (level (depth + 3))) statement.tokens (.query statement.tree) [] := by
  have query := takes_query projects phrased deep
  have noParenthesis : Takes (peekSign "(") statement.tokens false statement.tokens := rfl
  have peeked : Takes peekWord statement.tokens "SELECT" statement.tokens := rfl
  exact .bind noParenthesis (.bind peeked query.map)

end

/-- The only statement of a text, up to its end. -/
theorem takes_statementsWithin {below : Nested} {statement : Statement} {tree : TreeStatement}
    (takes : Takes (Grammar.statement below) statement.tokens tree []) (fuel : Nat) :
    Takes (statementsWithin below (fuel + 2) false) statement.tokens [tree] [] := by
  have noEnd : Takes (acceptSign ";") statement.tokens false statement.tokens := rfl
  have last : Takes (statementsWithin below (fuel + 1) true) [] [] [] := rfl
  exact .bind noEnd (.bind (takes_get _) (.bind takes (.bind last (.pure _ _))))

end Grammar

namespace Statement.Shaped

variable {statement : Statement} (shaped : statement.Shaped) (writable : statement.Writable)

include shaped writable

/-- The text of a statement becomes the tokens of the statement. -/
theorem ofText?_write : Token.ofText? statement.write = some statement.tokens :=
  (shaped.lexes writable).ofText?

theorem readStatements?_write :
    readStatements? statement.write = some [.query statement.tree] := by
  have long : 2 ≤ statement.tokens.length := by
    simp only [tokens, List.length_cons, List.length_append]
    omega
  obtain ⟨depth, same⟩ := Nat.exists_eq_add_of_le' long
  have phrased : ∀ expression ∈ statement.expressions, expression.Phrased :=
    fun expression member => (shaped.binds expression member).phrased (writable expression member)
  have taken := Grammar.takes_statement shaped.projects phrased (Nat.le_of_eq same)
  have whole := Grammar.takes_statementsWithin taken (2 * (depth + 2))
  have run : (Grammar.statementsWithin (Grammar.level (depth + 3)) (2 * (depth + 2) + 2) false).run
      statement.tokens = some ([.query statement.tree], []) := whole
  simp only [readStatements?, shaped.ofText?_write writable, same, Option.bind_eq_bind,
    Option.bind_some, run]

/-- The text of a statement is read as the statement with its numbers as they are read. -/
theorem parse_write_reread : Statement.parse statement.write = .ok statement.reread := by
  have each : ∀ expression ∈ statement.expressions, expression.ReadsBack :=
    fun expression member => (shaped.binds expression member).readsBack (writable expression member)
  simp only [Statement.parse, shaped.readStatements?_write writable]
  exact Statement.readQuery_tree each shaped.limited shaped.skipped

end Statement.Shaped

end CrossQuery.Select
