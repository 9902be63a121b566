import CrossQuery.Proofs.Select.Phrases
import CrossQuery.Proofs.Select.Planned
import CrossQuery.Relational.Operation

/-!
# Reading and writing again

A statement that is read from any text is written as a text that is read as the statement again, if
its floats are finite, the names of its types are read as themselves and no minus sign stands directly
in front of another.
-/

set_option autoImplicit false

namespace CrossQuery.Select

/-! ## What clauses yield -/

/-- The expressions of a SELECT can be read again. -/
structure TreeSelect.Sound (select : TreeSelect) : Prop where
  projects : select.projections ≠ []
  projected : ∀ expression givenName, .expression expression givenName ∈ select.projections →
    expression.Sound
  joined : ∀ source ∈ select.sources, ∀ join ∈ source.joins, Grammar.SoundJoin join
  filtered : ∀ condition ∈ select.filter, condition.Sound
  grouped : ∀ keys, select.groups = .expressions keys → ∀ key ∈ keys, key.Sound

structure TreeQuery.Sound (query : TreeQuery) : Prop where
  selected : ∀ select, query.body = .select select → select.Sound
  ordered : ∀ key ∈ query.orderBy, key.expression.Sound

namespace Grammar

variable {below : Nested}

theorem ensures_projection (sound : below.Sound) :
    Ensures (projection below) fun item =>
      ∀ expression givenName, item = .expression expression givenName → expression.Sound := by
  refine (ensures_wildcardOr sound).bind fun expression isSound => ?_
  split
  · exact .pure nofun
  · exact .pure nofun
  · refine .ite (.last fun _ => ?_) ?_ <;>
    · refine .last fun name => .pure ?_
      rintro _ _ ⟨⟩
      exact isSound

theorem ensures_groupKey (sound : below.Sound) :
    Ensures (groupKey below) Tree.Sound := by
  have refused : Tree.Sound (.unsupported "") := (Tree.refused_unsupported "").sound
  refine .last fun sets => .ite (.last fun _ => .pure refused) (.last fun cube => ?_)
  split
  · exact .last fun _ => .pure refused
  · refine .last fun empty => ?_
    split
    · exact .pure refused
    · exact sound.whole

theorem ensures_groups (sound : below.Sound) :
    Ensures (groups below) fun groups =>
      ∀ keys, groups = .expressions keys → ∀ key ∈ keys, key.Sound := by
  refine .last fun grouped => .ite (.last fun isAll => .ite (.pure nofun) ?_) ?_
  · refine (ensures_groupKey sound).items.map fun keys areSound => ?_
    rintro _ ⟨⟩
    exact areSound.2
  · refine .pure ?_
    rintro _ ⟨⟩
    exact nofun

theorem ensures_expressionBehind (sound : below.Sound) (word : String) :
    Ensures (expressionBehind below word) fun value => ∀ tree ∈ value, tree.Sound := by
  refine .last fun follows => .ite (sound.whole.map fun tree isSound => ?_) (.pure nofun)
  rintro _ ⟨⟩
  exact isSound

theorem ensures_select (sound : below.Sound) :
    Ensures (select below) TreeSelect.Sound := by
  have selected : ∀ {distinct projections sources filter grouped having},
      (projections ≠ [] ∧ ∀ item ∈ projections, ∀ expression givenName,
        item = TreeProjection.expression expression givenName → expression.Sound) →
      (∀ source ∈ sources, ∀ join ∈ TreeSource.joins source, SoundJoin join) →
      (∀ condition ∈ filter, condition.Sound) →
      (∀ keys, grouped = .expressions keys → ∀ key ∈ keys, key.Sound) →
      TreeSelect.Sound ⟨distinct, projections, sources, filter, grouped, having⟩ :=
    fun areSound areJoined isFiltered areGrouped =>
      ⟨areSound.1, fun expression givenName member => areSound.2 _ member expression givenName rfl,
        areJoined, isFiltered, areGrouped⟩
  have sources : Ensures (items below.source) fun sources =>
      ∀ source ∈ sources, ∀ join ∈ source.joins, SoundJoin join := by
    intro tokens sources rest takes
    exact (takes.ensured sound.source.items).2
  have noSources : Ensures (pure [] : Grammar (List TreeSource)) fun sources =>
      ∀ source ∈ sources, ∀ join ∈ source.joins, SoundJoin join :=
    .pure nofun
  refine .last fun _ => .last fun distinct => .last fun top => .ite (.last fun _ => ?_) ?_ <;>
  · refine (ensures_projection sound).items.bind fun projections areSound => .last fun into => ?_
    refine .ite (.last fun _ => ?_) ?_ <;>
    · refine .last fun _ => .ite (sources.bind fun joined areJoined => ?_)
        (noSources.bind fun joined areJoined => ?_) <;>
      · refine (ensures_expressionBehind sound "WHERE").bind fun filter isFiltered => ?_
        refine (ensures_groups sound).bind fun grouped areGrouped => ?_
        -- The clauses behind the groups may take what they like.
        repeat (first
          | exact .pure (selected areSound areJoined isFiltered areGrouped)
          | refine .last fun _ => ?_
          | refine .ite ?_ ?_)

theorem ensures_body (sound : below.Sound) :
    Ensures (body below) fun body => ∀ select, body = .select select → select.Sound := by
  refine .bind (?_ : Ensures (bodyPart below) fun body =>
    ∀ select, body = .select select → select.Sound) fun first isFirst => .last fun others => ?_
  · refine .last fun word => .ite ((ensures_select sound).map fun select isSound => ?_) ?_
    · rintro _ ⟨⟩
      exact isSound
    · repeat (first | exact .pure nofun | refine .last fun _ => ?_ | refine .ite ?_ ?_)
  · cases others with
    | nil => exact .pure isFirst
    | cons _ _ => exact .pure nofun

theorem ensures_sortKey (sound : below.Sound) :
    Ensures (sortKey below) fun key => key.expression.Sound :=
  sound.whole.bind fun _ isSound => .last fun _ => .last fun _ => .pure isSound

theorem ensures_optionalOrder (sound : below.Sound) :
    Ensures (optionalOrder below) fun keys => ∀ key ∈ keys, key.expression.Sound := by
  refine .last fun ordered => .ite ?_ (.pure nofun)
  intro tokens keys rest takes
  exact (takes.ensured (ensures_sortKey sound).items).2

theorem ensures_queryPhrase (sound : below.Sound) :
    Ensures (queryPhrase below) TreeQuery.Sound := by
  refine .last fun hasWith => .ite (.last fun _ => .last fun _ => ?_) ?_ <;>
  · refine (ensures_body sound).bind fun body isBody => ?_
    refine (ensures_optionalOrder sound).bind fun order areOrdered => ?_
    repeat (first | exact .pure ⟨isBody, areOrdered⟩ | refine .last fun _ => ?_)

/-- A query that is read as a statement can be read again. -/
def SoundStatement (statement : TreeStatement) : Prop :=
  ∀ query, statement = .query query → query.Sound

theorem ensures_statement (depth : Nat) :
    Ensures (statement (level depth)) SoundStatement := by
  have query : Ensures (level depth).query TreeQuery.Sound := by
    cases depth with
    | zero => exact .failure
    | succ depth => exact ensures_queryPhrase (sound_level depth)
  have queries : Ensures (TreeStatement.query <$> (level depth).query) SoundStatement := by
    refine query.map fun tree isSound => ?_
    rintro _ ⟨⟩
    exact isSound
  refine .last fun opens => .ite queries (.last fun word => .ite queries (.last fun _ => ?_))
  repeat (first
    | exact .pure nofun
    | exact .failure
    | refine .last fun _ => ?_
    | refine .ite ?_ ?_)

theorem ensures_statementsWithin (depth fuel : Nat) (ended : Bool) :
    Ensures (statementsWithin (level depth) fuel ended) fun statements =>
      ∀ statement ∈ statements, SoundStatement statement := by
  induction fuel generalizing ended with
  | zero => exact .failure
  | succ fuel ih =>
      refine .last fun empty => .ite (ih false) (.last fun tokens => ?_)
      cases tokens with
      | nil => exact .pure nofun
      | cons token tokens =>
          refine .ite (.ite (.pure nofun) .failure) ?_
          refine (ensures_statement depth).bind fun first isFirst => ?_
          exact (ih true).bind fun others areOthers =>
            .pure (List.forall_mem_cons.mpr ⟨isFirst, areOthers⟩)

end Grammar

/-! ## Statements that are read -/

theorem exists_of_readProjection {item : TreeProjection} {projection : Projection}
    (read : readProjection item = .ok projection) :
    ∃ tree, item = .expression tree projection.givenName ∧
      readTree tree = .ok projection.expression := by
  cases item with
  | star => cases read
  | expression tree givenName =>
      obtain ⟨expression, isRead, last⟩ := Outcome.bind_eq_ok.mp read
      cases last
      exact ⟨tree, rfl, isRead⟩

theorem exists_of_readJoin {tree : TreeJoin} {join : Join} (read : readJoin tree = .ok join) :
    ∃ condition, tree.constraint = .on condition ∧ readTree condition = .ok join.condition := by
  unfold readJoin at read
  split at read
  · cases read
  split at read
  · cases read
  · next condition isOn =>
      obtain ⟨expression, isRead, read⟩ := Outcome.bind_eq_ok.mp read
      obtain ⟨table, _, last⟩ := Outcome.bind_eq_ok.mp read
      cases last
      exact ⟨condition, isOn, isRead⟩

theorem exists_of_readOptional {tree : Option Tree} {expression : Expression}
    (read : readOptional tree = .ok (some expression)) :
    ∃ condition ∈ tree, readTree condition = .ok expression := by
  cases tree with
  | none => cases read
  | some condition =>
      obtain ⟨_, isRead, same⟩ := Outcome.map_eq_ok.mp read
      cases same
      exact ⟨condition, rfl, isRead⟩

theorem exists_of_readGroups {groups : TreeGroups} {keys : List Expression}
    (read : readGroups groups = .ok keys) :
    ∃ trees, groups = .expressions trees ∧ trees.mapM readTree = .ok keys := by
  cases groups with
  | all => cases read
  | expressions trees => exact ⟨trees, rfl, (readTrees_eq_mapM trees).symm.trans read⟩

theorem readTree_of_readKey {tree : TreeKey} {key : SortKey} (read : readKey tree = .ok key) :
    readTree tree.expression = .ok key.expression := by
  obtain ⟨expression, isRead, last⟩ := Outcome.bind_eq_ok.mp read
  cases last
  exact isRead

theorem exists_of_readSelect {select : TreeSelect} {statement : Statement}
    (read : readSelect select = .ok statement) :
    ∃ source ∈ select.sources, source.joins.mapM readJoin = .ok statement.joins ∧
      select.projections.mapM readProjection = .ok statement.projections ∧
      readOptional select.filter = .ok statement.filter ∧
      readGroups select.groups = .ok statement.groupBy := by
  unfold readSelect at read
  split at read
  · cases read
  split at read
  · cases read
  split at read
  · cases read
  · next source same =>
      obtain ⟨table, _, read⟩ := Outcome.bind_eq_ok.mp read
      obtain ⟨joins, areJoins, read⟩ := Outcome.bind_eq_ok.mp read
      obtain ⟨projections, areProjections, read⟩ := Outcome.bind_eq_ok.mp read
      obtain ⟨filter, isFilter, read⟩ := Outcome.bind_eq_ok.mp read
      obtain ⟨groups, areGroups, read⟩ := Outcome.bind_eq_ok.mp read
      cases read
      exact ⟨source, same ▸ List.mem_cons_self, areJoins, areProjections, isFilter, areGroups⟩
  · cases read

theorem exists_of_readQuery {query : TreeQuery} {statement : Statement}
    (read : readQuery query = .ok statement) :
    ∃ select selected, query.body = .select select ∧ readSelect select = .ok selected ∧
      query.orderBy.mapM readKey = .ok statement.orderBy ∧
      readOptionalCount query.limit = .ok statement.limit ∧
      readOptionalCount query.offset = .ok statement.offset ∧
      statement = { selected with
        orderBy := statement.orderBy, limit := statement.limit, offset := statement.offset } := by
  unfold readQuery at read
  split at read
  · cases read
  split at read
  · cases read
  · next select isBody =>
      obtain ⟨selected, isSelected, read⟩ := Outcome.bind_eq_ok.mp read
      obtain ⟨order, isOrder, read⟩ := Outcome.bind_eq_ok.mp read
      obtain ⟨limit, isLimit, read⟩ := Outcome.bind_eq_ok.mp read
      obtain ⟨offset, isOffset, read⟩ := Outcome.bind_eq_ok.mp read
      cases read
      exact ⟨select, selected, isBody, isSelected, isOrder, isLimit, isOffset, rfl⟩

theorem lt_of_readOptionalCount {tree : Option Tree} {count : Option Nat}
    (read : readOptionalCount tree = .ok count) : ∀ number ∈ count, number < 2 ^ 64 := by
  cases tree with
  | none =>
      cases read
      exact nofun
  | some tree =>
      obtain ⟨number, isRead, rfl⟩ := Outcome.map_eq_ok.mp read
      rintro _ ⟨⟩
      unfold readCount at isRead
      split at isRead
      · split at isRead
        · split at isRead
          · next small =>
              cases isRead
              exact small
          · cases isRead
        · cases isRead
      · cases isRead

variable {query : TreeQuery} {statement : Statement}

/-- An expression of a statement is read from a tree of the query, which can be read again if the
query can. -/
theorem exists_tree_of_readQuery (read : readQuery query = .ok statement) {expression : Expression}
    (member : expression ∈ statement.expressions) :
    ∃ tree : Tree, (query.Sound → tree.Sound) ∧
      readTree tree = .ok expression := by
  obtain ⟨select, selected, isBody, isSelected, isOrder, -, -, same⟩ := exists_of_readQuery read
  obtain ⟨source, listed, areJoins, areProjections, isFilter, areGroups⟩ :=
    exists_of_readSelect isSelected
  rcases Statement.cases_expressions member with ⟨projection, isItem, rfl⟩ | ⟨join, isJoin, rfl⟩ |
    isCondition | isKey | ⟨key, isKey, rfl⟩
  · rw [same] at isItem
    obtain ⟨item, isTree, isRead⟩ := Outcome.exists_of_mem_mapM areProjections isItem
    obtain ⟨tree, rfl, isExpression⟩ := exists_of_readProjection isRead
    exact ⟨tree, fun sound => (sound.selected select isBody).projected tree _ isTree, isExpression⟩
  · rw [same] at isJoin
    obtain ⟨item, isTree, isRead⟩ := Outcome.exists_of_mem_mapM areJoins isJoin
    obtain ⟨condition, isOn, isExpression⟩ := exists_of_readJoin isRead
    refine ⟨condition, fun sound => ?_, isExpression⟩
    exact (sound.selected select isBody).joined source listed item isTree condition isOn
  · rw [same] at isCondition
    obtain ⟨tree, isTree, isExpression⟩ := exists_of_readOptional (isCondition ▸ isFilter)
    exact ⟨tree, fun sound => (sound.selected select isBody).filtered tree isTree, isExpression⟩
  · rw [same] at isKey
    obtain ⟨trees, areTrees, areRead⟩ := exists_of_readGroups areGroups
    obtain ⟨tree, isTree, isExpression⟩ := Outcome.exists_of_mem_mapM areRead isKey
    refine ⟨tree, fun sound => ?_, isExpression⟩
    exact (sound.selected select isBody).grouped trees areTrees tree isTree
  · obtain ⟨item, isTree, isRead⟩ := Outcome.exists_of_mem_mapM isOrder isKey
    exact ⟨item.expression, fun sound => sound.ordered item isTree, readTree_of_readKey isRead⟩

/-- A statement that is read has the shapes that are read back. -/
theorem TreeQuery.Sound.shaped (sound : query.Sound) (read : readQuery query = .ok statement) :
    statement.Shaped := by
  obtain ⟨select, selected, isBody, isSelected, -, isLimit, isOffset, same⟩ :=
    exists_of_readQuery read
  obtain ⟨source, -, -, areProjections, -, -⟩ := exists_of_readSelect isSelected
  have projects : statement.projections ≠ [] := by
    rw [same]
    rintro none
    have noItems := Outcome.mapM_eq_ok_iff.mp (none ▸ areProjections)
    exact (sound.selected select isBody).projects (List.map_eq_nil_iff.mp noItems)
  refine ⟨projects, fun expression member => ?_, lt_of_readOptionalCount isLimit,
    lt_of_readOptionalCount isOffset⟩
  obtain ⟨tree, isSound, isRead⟩ := exists_tree_of_readQuery read member
  exact isSound sound expression isRead

/-! ## Numbers that are read as themselves -/

theorem reread_of_readNumber {text : String} {literal : Literal} (read : readNumber text = .ok literal)
    (writable : literal.Writable) : literal.reread = .literal literal := by
  cases unsigned_of_readNumber read with
  | @integer number small =>
      have value : (Int64.ofNat number).toInt = number := Int64.toInt_ofNat_of_lt small
      simp [Literal.reread, signedNumber, numberOf, value, readNumber_writeNat small]
  | float _ unsigned =>
      simp [Literal.reread, signedNumber, numberOf, unsigned,
        readNumber_floatSpelling writable unsigned]

mutual

/-- What a tree stands for is read as itself again. -/
theorem reread_of_readTree : (tree : Tree) → {expression : Expression} →
    readTree tree = .ok expression → expression.Writable →
    expression.reread = expression
  | .identifier _, _, read, _ => by
      cases read
      rfl
  | .path parts, _, read, _ => by
      change readPath parts = .ok _ at read
      unfold readPath at read
      split at read <;> cases read <;> rfl
  | .number text _, _, read, writable => by
      obtain ⟨literal, isRead, rfl⟩ := readTree_number_iff.mp read
      exact reread_of_readNumber isRead writable
  | .text _, _, read, _ => by
      cases read
      rfl
  | .boolean _, _, read, _ => by
      cases read
      rfl
  | .null, _, read, _ => by
      cases read
      rfl
  | .constant _, _, read, _ => by cases read
  | .binary operator left right, _, read, writable => by
      obtain ⟨_, _, _, _, isLeft, isRight, rfl⟩ := readTree_binary_iff.mp read
      rw [Expression.reread, reread_of_readTree left isLeft writable.1,
        reread_of_readTree right isRight writable.2]
  | .unary operator operand, _, read, writable => by
      obtain ⟨known, _, _, isOperand, rfl⟩ := readTree_unary_iff.mp read
      have inside : Expression.Writable _ := match known, writable with
        | .not, writable => writable
        | .minus, writable => writable.1
      rw [Expression.reread, reread_of_readTree operand isOperand inside]
  | .call name none distinct windowed, _, read, _ =>
      absurd read (readTree_bareCall name distinct windowed)
  | .call name (some arguments) distinct windowed, _, read, writable => by
      obtain ⟨-, _, _, -, -, areRead, isAggregate⟩ := readTree_call_iff.mp read
      rcases Tree.cases_readAggregate isAggregate with ⟨-, rfl⟩ | ⟨argument, _, rfl, rfl⟩
      · rfl
      · rw [Expression.reread, rereadAll_of_readArguments arguments areRead writable]
  | .star, _, read, _ => by cases read
  | .argument _, _, read, _ => by cases read
  | .inList operand items _, _, read, writable => by
      obtain ⟨_, _, isOperand, areItems, rfl⟩ := readTree_inList_iff.mp read
      rw [Expression.reread, reread_of_readTree operand isOperand writable.1,
        rereadAll_of_readTrees items areItems writable.2]
  | .between operand least greatest _, _, read, writable => by
      obtain ⟨_, _, _, isOperand, isLeast, isGreatest, rfl⟩ := readTree_between_iff.mp read
      rw [Expression.reread, reread_of_readTree operand isOperand writable.1,
        reread_of_readTree least isLeast writable.2.1,
        reread_of_readTree greatest isGreatest writable.2.2]
  | .isNull operand _, _, read, writable => by
      obtain ⟨_, isOperand, rfl⟩ := readTree_isNull_iff.mp read
      rw [Expression.reread, reread_of_readTree operand isOperand writable]
  | .cast operand _ _, _, read, writable => by
      obtain ⟨_, isOperand, rfl⟩ := readTree_cast_iff.mp read
      rw [Expression.reread, reread_of_readTree operand isOperand writable.1]
  | .like operand pattern escape negated, _, read, writable => by
      obtain ⟨_, _, spelled, isOperand, isPattern, isSpelled, rfl⟩ := readTree_like_iff.mp read
      have respelled : spelled.reread = spelled := by
        rcases Tree.cases_readPattern isSpelled with rfl | ⟨text, rfl⟩
        · cases negated <;> exact reread_of_readTree pattern isPattern writable.2
        · rfl
      rw [Expression.reread, reread_of_readTree operand isOperand writable.1, respelled]
  | .nested inner, _, read, writable => by
      obtain ⟨_, isInner, rfl⟩ := readTree_nested_iff.mp read
      rw [Expression.reread, reread_of_readTree inner isInner writable]
  | .unsupported _, _, read, _ => by cases read

theorem rereadAll_of_readTrees : (trees : List Tree) → {expressions : List Expression} →
    readTrees trees = .ok expressions → Expression.WritableAll expressions →
    Expression.rereadAll expressions = expressions
  | [], _, read, _ => by
      cases read
      rfl
  | first :: rest, _, read, writable => by
      obtain ⟨_, isFirst, read⟩ := Outcome.bind_eq_ok.mp read
      obtain ⟨_, areRest, read⟩ := Outcome.bind_eq_ok.mp read
      cases read
      rw [Expression.rereadAll, reread_of_readTree first isFirst writable.1,
        rereadAll_of_readTrees rest areRest writable.2]

theorem rereadAll_of_readArguments : (arguments : List Tree) → {expressions : List Expression} →
    readArguments arguments = .ok expressions → Expression.WritableAll expressions →
    Expression.rereadAll expressions = expressions
  | [], _, read, _ => by
      cases read
      rfl
  | first :: rest, _, read, writable => by
      obtain ⟨argument, others, rfl, isFirst, areRest⟩ := Tree.exists_of_readArguments read
      have same : argument.reread = argument := by
        rcases isFirst with rfl | isRead
        · rfl
        · exact reread_of_readTree first isRead writable.1
      rw [Expression.rereadAll, same, rereadAll_of_readArguments rest areRest writable.2]

end

theorem Statement.reread_eq_self (each : ∀ expression ∈ statement.expressions,
    expression.reread = expression) : statement.reread = statement := by
  have projections : statement.reread.projections = statement.projections := by
    refine (List.map_congr_left fun projection member => ?_).trans (List.map_id _)
    rw [each _ (mem_expressions_of_projection member)]
    rfl
  have joins : statement.reread.joins = statement.joins := by
    refine (List.map_congr_left fun join member => ?_).trans (List.map_id _)
    rw [each _ (mem_expressions_of_join member)]
    rfl
  have filter : statement.reread.filter = statement.filter := by
    refine (Option.map_congr fun condition isFilter => ?_).trans Option.map_id_apply
    exact each _ (mem_expressions_of_filter isFilter)
  have groups : statement.reread.groupBy = statement.groupBy := by
    refine (List.map_congr_left fun key member => ?_).trans (List.map_id _)
    exact each _ (mem_expressions_of_group member)
  have order : statement.reread.orderBy = statement.orderBy := by
    refine (List.map_congr_left fun key member => ?_).trans (List.map_id _)
    rw [each _ (mem_expressions_of_order member)]
    rfl
  cases statement
  rw [reread, mk.injEq]
  exact ⟨projections, rfl, joins, filter, groups, order, rfl, rfl⟩

theorem exists_query_of_parse {text : String} (parsed : Statement.parse text = .ok statement) :
    ∃ tokens below query rest fuel, Grammar.Takes
      (Grammar.statementsWithin (Grammar.level below) fuel false) tokens [.query query] rest ∧
        readQuery query = .ok statement := by
  unfold Statement.parse at parsed
  split at parsed
  · cases parsed
  · next query isRead =>
      obtain ⟨tokens, lexed, isRead⟩ := Option.bind_eq_some_iff.mp isRead
      obtain ⟨⟨statements, rest⟩, takes, same⟩ := Option.bind_eq_some_iff.mp isRead
      cases same
      exact ⟨tokens, _, query, rest, _, takes, parsed⟩
  · cases parsed
  · cases parsed

/-- A statement that is read from a text is written as a text that is read as the statement. -/
theorem parse_write_of_parse {text : String} (parsed : Statement.parse text = .ok statement)
    (writable : statement.Writable) : Statement.parse statement.write = .ok statement := by
  obtain ⟨tokens, depth, query, rest, fuel, takes, read⟩ := exists_query_of_parse parsed
  have areSound := takes.ensured (Grammar.ensures_statementsWithin depth fuel false)
  have sound : query.Sound := areSound _ List.mem_cons_self query rfl
  have each : ∀ expression ∈ statement.expressions, expression.reread = expression := by
    intro expression member
    obtain ⟨tree, -, isRead⟩ := exists_tree_of_readQuery read member
    exact reread_of_readTree tree isRead (writable expression member)
  rw [(sound.shaped read).parse_write_reread writable, Statement.reread_eq_self each]

/-- A query with most of what the language has, in a spelling that it is not written in. -/
def filteredJoin : String :=
  "select a.x, count(distinct -(-2)) as n from T a left join U b on a.x = b.y
    where cast(b.z as varchar) not like 'p!%' escape '!' and not (a.k is null or k in (3, .25e-7))
    group by a.x order by a.x desc limit 5 -- the last"

theorem parse_write_of_filtered_join :
    ∃ statement, Statement.parse filteredJoin = .ok statement ∧
      Statement.parse statement.write = .ok statement := by
  have passed : (match Statement.parse filteredJoin with
      | .ok statement => statement.isWritable
      | .error _ => false) = true := by decide +kernel
  split at passed
  · next statement parsed =>
      exact ⟨statement, parsed,
        parse_write_of_parse parsed (Statement.writable_of_isWritable passed)⟩
  · cases passed

/-- Two minus signs in a row are written without a blank between them, which begins a comment. -/
theorem not_parse_write_of_opposite_twice :
    ¬ ∀ (text : String) (statement : Statement), Statement.parse text = .ok statement →
      Statement.parse statement.write = .ok statement := by
  intro stable
  have refused : (match Statement.parse "SELECT - -1 AS \"x\" FROM \"T\"" with
      | .ok statement => (Statement.parse statement.write).isOk
      | .error _ => true) = false := by decide +kernel
  split at refused
  · next statement parsed =>
      rw [stable _ statement parsed] at refused
      cases refused
  · cases refused

end CrossQuery.Select
