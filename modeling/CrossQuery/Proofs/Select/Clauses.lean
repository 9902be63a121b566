import CrossQuery.Proofs.Select.Expressions

/-!
# Reading clauses

The tokens of a statement are read clause by clause, and each clause up to the word that introduces
the next one.
-/

set_option autoImplicit false

namespace CrossQuery.Select.Grammar

open Token

/-- The words that may stand behind a whole expression. -/
def phraseWords : List String :=
  ["AS", "FROM", "WHERE", "GROUP", "ORDER", "LIMIT", "OFFSET", "LEFT", "JOIN", "ASC", "DESC"]

/-- What may stand behind a whole expression. -/
def EndsPhrase (tokens : List Token) : Prop :=
  Begins phraseWords [",", ")"] tokens

theorem EndsPhrase.endsOperand {tokens : List Token} (ends : EndsPhrase tokens) :
    EndsOperand tokens :=
  ends.mono (by decide) (by decide)

theorem EndsPhrase.precedence_eq {tokens : List Token} (ends : EndsPhrase tokens) :
    precedence tokens = 0 := by
  cases tokens with
  | nil => rfl
  | cons token behind =>
      cases token with
      | word text key =>
          have known : key ∈ phraseWords := ends
          simp only [phraseWords, List.mem_cons, List.not_mem_nil, or_false] at known
          rcases known with rfl | rfl | rfl | rfl | rfl | rfl | rfl | rfl | rfl | rfl | rfl <;> rfl
      | sign spelling =>
          have all : ∀ spelling ∈ [",", ")"], signPrecedence spelling = 0 := by decide
          exact all spelling ends
      | _ => exact ends.elim

theorem takes_whole {expression : Expression} (phrased : expression.Phrased) {depth : Nat}
    (deep : expression.tokens.length ≤ depth) {rest : List Token} (ends : EndsPhrase rest) :
    Takes (level depth).whole (expression.tokens ++ rest) expression.tree rest :=
  phrased.reads.whole phrased.begun deep ends.endsOperand ends.precedence_eq

/-! ## Projections -/

theorem takes_givenName (reserved : List String) (name : String) (rest : List Token) :
    Takes (optionalAlias reserved) (.quotedName name :: rest) (some name) rest :=
  rfl

theorem takes_noName {reserved words signs : List String} {rest : List Token}
    (begins : Begins words signs rest) (unmarked : "AS" ∉ words)
    (all : ∀ word ∈ words, reserved.contains word = true) :
    Takes (optionalAlias reserved) rest none rest := by
  refine .bind (begins.acceptWord unmarked) (.bind (takes_get rest) ?_)
  cases rest with
  | nil => rfl
  | cons token rest =>
      cases token with
      | word text key =>
          have isReserved : reserved.contains key = true := all key begins
          simp only [isReserved, Bool.not_true, Bool.or_false, Bool.false_eq_true, if_false]
          exact .pure _ _
      | sign spelling => rfl
      | _ => exact begins.elim

/-- What may stand behind an item of a projection. -/
def EndsProjection (tokens : List Token) : Prop :=
  Begins ["FROM"] [","] tokens

theorem takes_projected {expression : Expression} (phrased : expression.Phrased) {depth : Nat}
    (deep : expression.tokens.length ≤ depth) {givenName : Option String}
    {middle rest : List Token} (ends : EndsPhrase middle)
    (named : Takes (optionalAlias reservedForColumns) middle givenName rest) :
    Takes (projection (level depth)) (expression.tokens ++ middle)
      (.expression expression.tree givenName) rest := by
  have heads := phrased.begun middle ends.endsOperand
  refine .bind (heads.takes_wildcardOr (takes_whole phrased deep ends)) ?_
  obtain ⟨noStar, noArgument, notBare⟩ := phrased.plain
  split
  · next same => exact absurd same noStar
  · next same => exact absurd same (noArgument _)
  · rw [notBare]
    exact .bind named (.pure _ _)

theorem takes_projection {item : Projection} (phrased : item.expression.Phrased) {depth : Nat}
    (deep : item.expression.tokens.length ≤ depth) {rest : List Token} (ends : EndsProjection rest) :
    Takes (projection (level depth)) (item.tokens ++ rest) item.tree rest := by
  obtain ⟨expression, givenName⟩ := item
  cases givenName with
  | none =>
      have named : Takes (optionalAlias reservedForColumns) rest none rest :=
        takes_noName ends (by decide) (by decide)
      have whole := takes_projected phrased deep (ends.mono (by decide) (by decide)) named
      simpa [Projection.tokens, Projection.tree] using whole
  | some name =>
      have behind : EndsPhrase (keyword "AS" :: .quotedName name :: rest) :=
        show "AS" ∈ phraseWords by decide
      have named : Takes (optionalAlias reservedForColumns)
          (keyword "AS" :: .quotedName name :: rest) (some name) rest := rfl
      have whole := takes_projected phrased deep behind named
      simpa [Projection.tokens, Projection.tree] using whole

/-! ## Tables -/

/-- The words that introduce the clauses behind the tables. -/
def clauseWords : List String :=
  ["WHERE", "GROUP", "ORDER", "LIMIT", "OFFSET"]

/-- What may stand behind a joined table with its condition. -/
def EndsJoin (tokens : List Token) : Prop :=
  Begins ("LEFT" :: "JOIN" :: clauseWords) [","] tokens

/-- What may stand behind a table. -/
def EndsTable (tokens : List Token) : Prop :=
  Begins ("ON" :: "LEFT" :: "JOIN" :: clauseWords) [","] tokens

theorem takes_tableAlias (givenName : Option String) {rest : List Token} (ends : EndsTable rest) :
    Takes tableAlias (givenName.toList.map .quotedName ++ rest) givenName rest := by
  cases givenName with
  | none => exact .bind (takes_noName ends (by decide) (by decide)) (.pure _ _)
  | some name =>
      exact .bind (takes_givenName _ name rest)
        (.bind (ends.acceptSign (by decide)) (.pure _ _))

theorem takes_table (below : Nested) (table : TableName) {rest : List Token} (ends : EndsTable rest) :
    Takes (tablePhrase below) (table.tokens ++ rest) table.tree rest := by
  obtain ⟨name, givenName⟩ := table
  have noSign : ∀ spelling ∉ [","], Takes (acceptSign spelling)
      (givenName.toList.map .quotedName ++ rest) false
      (givenName.toList.map .quotedName ++ rest) := by
    intro spelling absent
    cases givenName with
    | none => exact ends.acceptSign absent
    | some other => rfl
  have noWord : ∀ token ∈ (givenName.toList.map Token.quotedName ++ rest).head?,
      token.isWord "WITH" = false := by
    cases givenName with
    | none => exact ends.not_isWord (by decide)
    | some other => exact fun token head => by cases head; rfl
  have noHints : Fails (expectWord "WITH") rest := (ends.acceptWord (by decide)).bind_fails rfl
  refine .bind rfl (.bind rfl (.bind rfl (.bind rfl ?_)))
  refine .bind (takes_objectName rfl (noSign "." (by decide))) (.bind (noSign "(" (by decide)) ?_)
  refine .bind (takes_acceptWords_of_head noWord) (.bind (takes_tableAlias givenName ends) ?_)
  exact .bind noHints.bind.attempt (.pure _ _)

theorem takes_joinWords (kind : JoinKind) (rest : List Token) :
    Takes (joinWords false)
      ((match kind with
        | .inner => [keyword "JOIN"]
        | .left => [keyword "LEFT", keyword "JOIN"]) ++ rest)
      (some (some kind)) rest := by
  cases kind <;> rfl

theorem takes_join {item : Join} (phrased : item.condition.Phrased) {depth : Nat}
    (deep : item.condition.tokens.length ≤ depth + 1) {rest : List Token} (ends : EndsJoin rest) :
    Takes (join (level (depth + 1))) (item.tokens ++ rest) (some item.tree) rest := by
  obtain ⟨kind, table, condition⟩ := item
  have words := takes_joinWords kind (table.tokens ++ keyword "ON" :: (condition.tokens ++ rest))
  have behindTable : EndsTable (keyword "ON" :: (condition.tokens ++ rest)) := List.mem_cons_self
  have behindCondition : EndsPhrase rest := ends.mono (by decide) (by decide)
  have on : Takes (constraint (level (depth + 1)) false) (keyword "ON" :: (condition.tokens ++ rest))
      (.on condition.tree) rest :=
    .bind (takes_acceptWord "ON" _) (.bind (takes_whole phrased deep behindCondition) (.pure _ _))
  have joined := takes_table (level depth) table behindTable
  simp only [Join.tokens, List.append_assoc, List.cons_append] at words ⊢
  cases kind <;>
    exact .bind rfl (.bind rfl (.bind rfl (.bind rfl (.bind rfl (.bind words
      (.bind joined (.bind on (.pure _ _))))))))

theorem takes_noJoin {below : Nested} {rest : List Token} (ends : Begins clauseWords [","] rest) :
    Takes (join below) rest none rest := by
  have noWords : Takes (joinWords false) rest none rest := by
    cases rest with
    | nil => rfl
    | cons token rest =>
        cases token with
        | word text key =>
            have known : key ∈ clauseWords := ends
            simp only [clauseWords, List.mem_cons, List.not_mem_nil, or_false] at known
            rcases known with rfl | rfl | rfl | rfl | rfl <;> rfl
        | sign spelling => rfl
        | _ => exact ends.elim
  refine .bind (ends.acceptWord (by decide)) (.bind (ends.acceptWord (by decide)) ?_)
  refine .bind (ends.acceptWord (by decide)) (.bind (ends.acceptWord (by decide)) ?_)
  exact .bind (ends.acceptWord (by decide)) (.bind noWords (.pure _ _))

theorem takes_source {table : TableName} {joins : List Join}
    (phrased : ∀ join ∈ joins, join.condition.Phrased) {depth : Nat}
    (deep : ∀ join ∈ joins, join.condition.tokens.length ≤ depth + 1) {rest : List Token}
    (ends : Begins clauseWords [","] rest) :
    Takes (sourcePhrase (level (depth + 1))) (table.tokens ++ (joins.flatMap Join.tokens ++ rest))
      ⟨table.tree, joins.map Join.tree⟩ rest := by
  have starts : ∀ join ∈ joins, ∀ after, EndsJoin (join.tokens ++ after) := by
    rintro ⟨kind, table, condition⟩ _ after
    cases kind with
    | inner => exact show "JOIN" ∈ "LEFT" :: "JOIN" :: clauseWords by decide
    | left => exact show "LEFT" ∈ "LEFT" :: "JOIN" :: clauseWords by decide
  have nonempty : ∀ join ∈ joins, join.tokens ≠ [] := by
    rintro ⟨kind, table, condition⟩ _
    cases kind <;> exact List.cons_ne_nil _ _
  have behind : EndsJoin rest := ends.mono (by decide) (by decide)
  have joined := takes_many
    (fun join member _ => takes_join (phrased join member) (deep join member)) starts nonempty
    behind (takes_noJoin ends)
  have behindTable : EndsTable (joins.flatMap Join.tokens ++ rest) := by
    cases joins with
    | nil => exact behind.mono (by decide) (by decide)
    | cons join joins =>
        have next := starts join List.mem_cons_self (joins.flatMap Join.tokens ++ rest)
        rw [List.flatMap_cons, List.append_assoc]
        exact next.mono (by decide) (by decide)
  exact .bind (takes_table _ table behindTable) (.bind joined (.pure _ _))

/-! ## Clauses behind the tables -/

theorem begins_clause {words : List String} {word : String} {more : List String}
    {lists : List (List Token)} {rest : List Token} (begins : Begins words [] rest) :
    Begins (word :: words) [] (clauseTokens (word :: more) lists ++ rest) := by
  cases lists with
  | nil => exact begins.mono (List.subset_cons_self _ _) (List.Subset.refl _)
  | cons first lists => exact List.mem_cons_self

theorem length_le_clauseTokens {tokens : List Token} {lists : List (List Token)}
    (title : List String) (member : tokens ∈ lists) :
    tokens.length ≤ (clauseTokens title lists).length := by
  have listed := length_le_of_mem_commaTokens member
  cases lists with
  | nil => cases member
  | cons first others =>
      simp only [clauseTokens, List.isEmpty_cons, Bool.false_eq_true, if_false,
        List.length_append]
      omega

theorem takes_where {filter : Option Expression} (phrased : ∀ condition ∈ filter, condition.Phrased)
    {depth : Nat} (deep : ∀ condition ∈ filter, condition.tokens.length ≤ depth) {rest : List Token}
    (ends : Begins ["GROUP", "ORDER", "LIMIT", "OFFSET"] [] rest) :
    Takes (expressionBehind (level depth) "WHERE")
      (clauseTokens ["WHERE"] (filter.toList.map Expression.tokens) ++ rest)
      (filter.map Expression.tree) rest := by
  cases filter with
  | none => exact .bind (ends.acceptWord (by decide)) (.pure _ _)
  | some condition =>
      have takes := takes_whole (phrased condition rfl) (deep condition rfl)
        (ends.mono (by decide) (by decide))
      exact .bind (takes_acceptWord "WHERE" _) takes.map

/-- Parentheses in which an expression stands are not empty. -/
theorem fails_emptyParentheses {tokens : List Token} (heads : Heads tokens) :
    Fails (do expectSign "("; expectSign ")" : Grammar Unit) tokens := by
  cases heads with
  | nested _ heads _ =>
      have notEmpty := takes_acceptSign_of_head (heads.not_sign (by decide : ")" ∉ ["-", "("]))
      exact (takes_expectSign "(" _).bind_fails (notEmpty.bind_fails rfl)
  | _ => rfl

theorem takes_groupKey {key : Expression} (phrased : key.Phrased) {depth : Nat}
    (deep : key.tokens.length ≤ depth) {rest : List Token} (ends : EndsPhrase rest) :
    Takes (groupKey (level depth)) (key.tokens ++ rest) key.tree rest := by
  have heads := phrased.begun rest ends.endsOperand
  have noSets : Takes (acceptWords ["GROUPING", "SETS"]) (key.tokens ++ rest) false
      (key.tokens ++ rest) := takes_acceptWords_of_head (heads.not_isWord (by decide))
  have noCube : Takes (acceptAnyWord ["CUBE", "ROLLUP"]) (key.tokens ++ rest) none
      (key.tokens ++ rest) := by
    refine takes_acceptAnyWord_of_head fun word member => heads.not_isWord ?_
    simp only [List.mem_cons, List.not_mem_nil, or_false] at member
    rcases member with rfl | rfl <;> decide
  refine .bind noSets (.bind noCube (.bind (fails_emptyParentheses heads).attempt ?_))
  exact takes_whole phrased deep ends

theorem takes_groups {keys : List Expression} (phrased : ∀ key ∈ keys, key.Phrased) {depth : Nat}
    (deep : ∀ key ∈ keys, key.tokens.length ≤ depth) {rest : List Token}
    (ends : Begins ["ORDER", "LIMIT", "OFFSET"] [] rest) :
    Takes (groups (level depth))
      (clauseTokens ["GROUP", "BY"] (keys.map Expression.tokens) ++ rest)
      (.expressions (keys.map Expression.tree)) rest := by
  cases keys with
  | nil => exact .bind (ends.acceptWords (by decide)) (.pure _ _)
  | cons first keys =>
      have each : ∀ key ∈ first :: keys, ∀ after, Begins ["ORDER", "LIMIT", "OFFSET"] [","] after →
          Takes (groupKey (level depth)) (key.tokens ++ after) key.tree after := by
        intro key member after follows
        exact takes_groupKey (phrased key member) (deep key member)
          (follows.mono (by decide) (by decide))
      have listed := takes_items (List.cons_ne_nil first keys) each ends List.not_mem_nil
      have heads : Heads (commaTokens ((first :: keys).map Expression.tokens) ++ rest) :=
        .commas (List.cons_ne_nil first keys) (fun key member => (phrased key member).begun)
          (ends.mono (by decide) (by decide))
      have notAll := takes_acceptWord_of_head (heads.not_isWord (by decide : "ALL" ∉ headWords))
      exact .bind (takes_acceptWords "GROUP" "BY" _) (.bind notAll listed.map)

theorem takes_nulls (nullsFirst : Option Bool) {rest : List Token}
    (ends : Begins ["LIMIT", "OFFSET"] [","] rest) :
    Takes optionalNulls
      ((match nullsFirst with
        | some true => [keyword "NULLS", keyword "FIRST"]
        | some false => [keyword "NULLS", keyword "LAST"]
        | none => []) ++ rest)
      nullsFirst rest := by
  cases nullsFirst with
  | none =>
      exact .bind (ends.acceptWords (by decide)) (.bind (ends.acceptWords (by decide)) (.pure _ _))
  | some first =>
      cases first with
      | true => exact .bind (takes_acceptWords "NULLS" "FIRST" rest) (.pure _ _)
      | false => exact .bind rfl (.bind (takes_acceptWords "NULLS" "LAST" rest) (.pure _ _))

theorem takes_sortKey {key : SortKey} (phrased : key.expression.Phrased) {depth : Nat}
    (deep : key.expression.tokens.length ≤ depth) {rest : List Token} (ends : Begins ["LIMIT", "OFFSET"] [","] rest) :
    Takes (sortKey (level depth)) (key.tokens ++ rest) key.tree rest := by
  obtain ⟨expression, ascending, nullsFirst⟩ := key
  have nulls := takes_nulls nullsFirst ends
  have direction : ∀ after, Takes optionalDirection
      (keyword (if ascending then "ASC" else "DESC") :: after) (some ascending) after := by
    intro after
    cases ascending with
    | true => exact .bind (takes_acceptWord "ASC" after) (.pure _ _)
    | false => exact .bind rfl (.bind (takes_acceptWord "DESC" after) (.pure _ _))
  have behind : ∀ after, EndsPhrase (keyword (if ascending then "ASC" else "DESC") :: after) := by
    intro after
    cases ascending with
    | true => exact show "ASC" ∈ phraseWords by decide
    | false => exact show "DESC" ∈ phraseWords by decide
  simp only [SortKey.tokens, List.append_assoc, List.cons_append]
  exact .bind (takes_whole phrased deep (behind _)) (.bind (direction _) (.bind nulls (.pure _ _)))

theorem takes_order {keys : List SortKey} (phrased : ∀ key ∈ keys, key.expression.Phrased)
    {depth : Nat} (deep : ∀ key ∈ keys, key.expression.tokens.length ≤ depth) {rest : List Token}
    (ends : Begins ["LIMIT", "OFFSET"] [] rest) :
    Takes (optionalOrder (level depth))
      (clauseTokens ["ORDER", "BY"] (keys.map SortKey.tokens) ++ rest) (keys.map SortKey.tree)
      rest := by
  cases keys with
  | nil => exact .bind (ends.acceptWords (by decide)) (.pure _ _)
  | cons first keys =>
      have each : ∀ key ∈ first :: keys, ∀ after, Begins ["LIMIT", "OFFSET"] [","] after →
          Takes (sortKey (level depth)) (key.tokens ++ after) key.tree after :=
        fun key member _ => takes_sortKey (phrased key member) (deep key member)
      have listed := takes_items (List.cons_ne_nil first keys) each ends List.not_mem_nil
      exact .bind (takes_acceptWords "ORDER" "BY" _) listed

theorem takes_count (count : Nat) {depth : Nat} (deep : 1 ≤ depth) {rest : List Token}
    (ends : EndsPhrase rest) :
    Takes (level depth).whole (countTokens count ++ rest) (countTree count) rest := by
  obtain ⟨depth, rfl⟩ := Nat.exists_eq_add_of_le' deep
  exact (Climbs.of_primary (takes_number ends.endsOperand)).takes (Nat.le_of_eq ends.precedence_eq)

theorem takes_limit (limit : Option Nat) {depth : Nat} (deep : 1 ≤ depth) {rest : List Token}
    (ends : Begins ["OFFSET"] [] rest) :
    Takes (limitClause (level depth) none)
      (clauseTokens ["LIMIT"] (limit.toList.map countTokens) ++ rest) (limit.map countTree) rest := by
  cases limit with
  | none => exact .bind (ends.acceptWord (by decide)) (.pure _ _)
  | some count =>
      have counted := takes_count count deep (ends.mono (by decide) (by decide))
      exact .bind (takes_acceptWord "LIMIT" _) (.bind rfl counted.map)

theorem takes_offset (offset : Option Nat) {depth : Nat} (deep : 1 ≤ depth) :
    Takes (offsetClause (level depth) none)
      (clauseTokens ["OFFSET"] (offset.toList.map countTokens)) (offset.map countTree) [] := by
  cases offset with
  | none => rfl
  | some count =>
      have counted : Takes (level depth).whole (countTokens count ++ []) (countTree count) [] :=
        takes_count count deep trivial
      exact .bind (takes_acceptWord "OFFSET" _) (.bind counted (.bind rfl (.pure _ _)))

/-! ## Statements -/

/-- The tokens behind the tables of a SELECT. -/
def filterTokens (statement : Statement) (rest : List Token) : List Token :=
  clauseTokens ["WHERE"] (statement.filter.toList.map Expression.tokens) ++
    (clauseTokens ["GROUP", "BY"] (statement.groupBy.map Expression.tokens) ++ rest)

/-- The tokens of a SELECT up to its groups, and what stands behind them. -/
def selectTokens (statement : Statement) (rest : List Token) : List Token :=
  keyword "SELECT" :: (commaTokens (statement.projections.map Projection.tokens) ++
    (keyword "FROM" :: (statement.source.tokens ++
      (statement.joins.flatMap Join.tokens ++ filterTokens statement rest))))

theorem length_selectTokens {statement : Statement} {rest : List Token} {depth : Nat}
    (deep : (selectTokens statement rest).length ≤ depth + 2) :
    (∀ item ∈ statement.projections, item.expression.tokens.length ≤ depth + 2) ∧
      (∀ join ∈ statement.joins, join.condition.tokens.length ≤ depth + 1) ∧
      (∀ condition ∈ statement.filter, condition.tokens.length ≤ depth + 2) ∧
      ∀ key ∈ statement.groupBy, key.tokens.length ≤ depth + 2 := by
  simp only [selectTokens, filterTokens, List.length_cons, List.length_append] at deep
  refine ⟨fun item member => ?_, fun join member => ?_, fun condition isFilter => ?_,
    fun key member => ?_⟩
  · have listed := length_le_of_mem_commaTokens
      (List.mem_map_of_mem member : item.tokens ∈ statement.projections.map Projection.tokens)
    simp only [Projection.tokens, List.length_append] at listed
    omega
  · obtain ⟨before, behind, split⟩ := List.append_of_mem member
    simp only [split, List.flatMap_append, List.flatMap_cons, List.length_append, Join.tokens,
      List.length_cons] at deep
    omega
  · rw [isFilter] at deep
    simp [clauseTokens, commaTokens] at deep
    omega
  · have listed := length_le_clauseTokens ["GROUP", "BY"]
      (List.mem_map_of_mem member : key.tokens ∈ statement.groupBy.map Expression.tokens)
    omega

theorem heads_projection {item : Projection} (phrased : item.expression.Phrased)
    {rest : List Token} (ends : EndsOperand rest) : Heads (item.tokens ++ rest) := by
  obtain ⟨expression, givenName⟩ := item
  cases givenName with
  | none => simpa [Projection.tokens] using phrased.begun rest ends
  | some name =>
      have marked : EndsOperand (keyword "AS" :: .quotedName name :: rest) :=
        show "AS" ∈ operandWords by decide
      simpa [Projection.tokens] using phrased.begun _ marked

/-- A SELECT is read as its tree, up to the words that introduce its order and its window. -/
theorem takes_select {statement : Statement} (projects : statement.projections ≠ [])
    (phrased : ∀ expression ∈ statement.expressions, expression.Phrased) {depth : Nat}
    {rest : List Token} (deep : (selectTokens statement rest).length ≤ depth + 2)
    (ends : Begins ["ORDER", "LIMIT", "OFFSET"] [] rest) :
    Takes (select (level (depth + 2))) (selectTokens statement rest) statement.selectTree rest := by
  obtain ⟨deepProjections, deepJoins, deepFilter, deepGroups⟩ := length_selectTokens deep
  have groupsEnd : Begins ["GROUP", "ORDER", "LIMIT", "OFFSET"] []
      (clauseTokens ["GROUP", "BY"] (statement.groupBy.map Expression.tokens) ++ rest) :=
    begins_clause ends
  have filterEnd : Begins clauseWords [] (filterTokens statement rest) := begins_clause groupsEnd
  have fromEnds : Begins ["FROM"] [] (keyword "FROM" :: (statement.source.tokens ++
      (statement.joins.flatMap Join.tokens ++ filterTokens statement rest))) :=
    List.mem_cons_self
  have projected : ∀ item ∈ statement.projections, item.expression.Phrased := fun item member =>
    phrased _ (Statement.mem_expressions_of_projection member)
  have heads := Heads.commas projects
    (fun item member _ => heads_projection (projected item member))
    (fromEnds.mono (by decide) (by decide))
  have noWord : ∀ word, word ∉ headWords → Takes (acceptWord word) _ false _ :=
    fun word absent => takes_acceptWord_of_head (heads.not_isWord absent)
  have noDistinct : Takes (distinctness (level (depth + 2))) _ false _ :=
    .bind (noWord "ALL" (by decide)) (.bind (noWord "DISTINCT" (by decide)) (.pure _ _))
  have takesProjections := takes_items projects
    (fun item member _ => takes_projection (projected item member) (deepProjections item member))
    fromEnds List.not_mem_nil
  have source : ∀ after, Begins clauseWords [","] after →
      Takes (level (depth + 2)).source
        ((statement.source.tokens ++ statement.joins.flatMap Join.tokens) ++ after)
        ⟨statement.source.tree, statement.joins.map Join.tree⟩ after := by
    intro after follows
    rw [List.append_assoc]
    have conditions : ∀ join ∈ statement.joins, join.condition.Phrased := fun join member =>
      phrased _ (Statement.mem_expressions_of_join member)
    exact takes_source conditions deepJoins follows
  have sources := takes_item source filterEnd List.not_mem_nil
  have filtered := takes_where
    (fun condition isFilter => phrased _ (Statement.mem_expressions_of_filter isFilter)) deepFilter
    groupsEnd
  have grouped := takes_groups
    (fun key member => phrased _ (Statement.mem_expressions_of_group member)) deepGroups ends
  have noList : ∀ word, word ∉ ["ORDER", "LIMIT", "OFFSET"] →
      Takes (listBehind (level (depth + 2)) [word, "BY"]) rest () rest :=
    fun word absent => .bind (ends.acceptWords absent) (.pure _ _)
  have noExpression : ∀ word, word ∉ ["ORDER", "LIMIT", "OFFSET"] →
      Takes (expressionBehind (level (depth + 2)) word) rest none rest :=
    fun word absent => .bind (ends.acceptWord absent) (.pure _ _)
  rw [List.append_assoc] at sources
  refine .bind (takes_expectWord "SELECT" _) (.bind noDistinct ?_)
  refine .bind (noWord "TOP" (by decide)) (.bind takesProjections ?_)
  refine .bind rfl (.bind (takes_acceptWord "FROM" _) (.bind sources ?_))
  refine .bind filtered (.bind grouped (.bind (noList "CLUSTER" (by decide)) ?_))
  refine .bind (noList "DISTRIBUTE" (by decide)) (.bind (noList "SORT" (by decide)) ?_)
  refine .bind (noExpression "HAVING" (by decide)) ?_
  refine .bind (.bind (ends.acceptWord (by decide)) (.pure _ _)) ?_
  exact .bind (noExpression "QUALIFY" (by decide)) (.pure _ _)

end CrossQuery.Select.Grammar
