import Mathlib
import CrossQuery.Proofs.Relational.Answers
import CrossQuery.Proofs.Relational.Conditions
import CrossQuery.Proofs.Dataset.Shared
import CrossQuery.Proofs.Dataset.Storage
import CrossQuery.Proofs.Predicate.Stored

/-!
# Rows that are joined by foreign keys

The joins of a plan are left joins on primary keys, made one after another on ever wider rows. Each
of them adds to every row the one row that its key refers to, or nulls, so that the rows of the
source are neither lost nor repeated. The names of the tables tell their columns apart.
-/

set_option autoImplicit false

namespace CrossQuery.Relational

namespace Database

variable {database : Database}

/-- Databases are made by creating tables and inserting rows. -/
inductive Built : Database → Prop where
  | empty : Built .empty
  | createTable {database : Database} (name : String) (columns : List Column) :
      Built database → Built (database.createTable name columns)
  | insert {database after : Database} {name : String} {row : List Cell} :
      Built database → database.insert name row = .ok after → Built after

/-- Rows are as wide as their tables. -/
def Rectangular (database : Database) : Prop :=
  ∀ name table, database.table name = .ok table →
    ∀ row ∈ table.rows, row.length = table.columns.length

theorem Rectangular.createTable (rectangular : database.Rectangular) (name : String)
    (columns : List Column) : (database.createTable name columns).Rectangular := by
  intro other table found
  rw [table_eq_ok_iff, lookup_createTable] at found
  split at found
  · cases found
    exact fun row member => absurd member List.not_mem_nil
  · exact rectangular other table (table_eq_ok_iff.mpr found)

theorem Rectangular.insert (rectangular : database.Rectangular) {after : Database} {name : String}
    {row : List Cell} (inserted : database.insert name row = .ok after) : after.Rectangular := by
  obtain ⟨before, isBefore, asWide, lookups⟩ := lookup_insert inserted
  intro other table found
  rw [table_eq_ok_iff, lookups] at found
  split at found
  · cases found
    intro each member
    rcases List.mem_append.mp member with earlier | isLast
    · exact rectangular name before (table_eq_ok_iff.mpr isBefore) each earlier
    · obtain rfl := List.mem_singleton.mp isLast
      exact asWide
  · exact rectangular other table (table_eq_ok_iff.mpr found)

theorem Built.insertAll (built : database.Built) {after : Database} {name : String}
    {rows : List (List Cell)} (inserted : database.insertAll name rows = .ok after) :
    after.Built := by
  induction rows generalizing database with
  | nil =>
      cases inserted
      exact built
  | cons row rest ih =>
      obtain ⟨next, first, others⟩ := Outcome.bind_eq_ok.mp inserted
      exact ih (built.insert first) others

theorem Built.rectangular (built : database.Built) : database.Rectangular := by
  induction built with
  | empty => exact fun name table found => nomatch found
  | createTable name columns _ ih => exact ih.createTable name columns
  | insert _ inserted ih => exact ih.insert inserted

end Database

section Resolving

variable {scope : Scope} {binding : Binding} {qualifier : Option String} {name column : String}

@[simp] theorem Scope.width_append :
    Scope.width (scope ++ [binding]) = scope.width + binding.columns.length := by
  simp [Scope.width]

theorem Scope.candidates_append (offset : Nat) (left right : Scope) :
    Scope.candidates qualifier column offset (left ++ right) =
      Scope.candidates qualifier column offset left ++
        Scope.candidates qualifier column (left.foldl (fun cells binding =>
          cells + binding.columns.length) offset) right := by
  induction left generalizing offset with
  | nil => rfl
  | cons first rest ih =>
      simp only [List.cons_append, Scope.candidates, ih, List.foldl_cons]
      split
      · split <;> rfl
      · rfl

theorem Scope.candidates_of_not_covered {offset : Nat}
    (apart : name ∉ scope.map Binding.name) :
    Scope.candidates (some name) column offset scope = [] := by
  induction scope generalizing offset with
  | nil => rfl
  | cons first rest ih =>
      simp only [List.map_cons, List.mem_cons, not_or] at apart
      simp [Scope.candidates, Scope.covers, apart.1, ih apart.2]

/-- A table of another name does not change what the columns of a table mean. -/
theorem Scope.resolve_append_of_ne (other : binding.name ≠ name) :
    Scope.resolve (scope ++ [binding]) (some name) column = scope.resolve (some name) column := by
  have none : ∀ offset, Scope.candidates (some name) column offset [binding] = [] := by
    intro offset
    apply Scope.candidates_of_not_covered
    simpa using other.symm
  simp [Scope.resolve, Scope.candidates_append, none]

/-- The columns of a table that is added stand behind all others. -/
theorem Scope.resolve_append_self {columns : List Column} {found : Column} {place : Nat}
    (apart : name ∉ scope.map Binding.name) (distinct : (columns.map Column.name).Nodup)
    (isColumn : columns[place]? = some found) :
    Scope.resolve (scope ++ [⟨name, columns⟩]) (some name) found.name =
      .ok (found, scope.width + place) := by
  simp [Scope.resolve, Scope.candidates_append, Scope.candidates_of_not_covered apart,
    Scope.candidates, Scope.covers, Scope.position?_of_nodup distinct isColumn, Scope.width]

end Resolving

/-- The columns of a table, by its name, have the values of a row of it. -/
def Scope.Shows (scope : Scope) (wide : List Cell) (name : String) (columns : List Column)
    (row : List Cell) : Prop :=
  ∀ place column, columns[place]? = some column → ∃ wherever,
    scope.resolve (some name) column.name = .ok (column, wherever) ∧
      wherever < wide.length ∧ wide.getD wherever .null = row.getD place .null

section Showing

variable {scope : Scope} {wide row other : List Cell} {name : String} {columns : List Column}

theorem Scope.Shows.evaluate (shown : scope.Shows wide name columns row) {place : Nat}
    {column : Column} (isColumn : columns[place]? = some column) :
    scope.evaluate wide (.column (some name) column.name) = .ok (row.getD place .null) := by
  obtain ⟨wherever, resolved, _, same⟩ := shown place column isColumn
  simp only [Scope.evaluate, resolved, Outcome.ok_bind, same]
  rfl

/-- A table that is added leaves the columns of the others as they are. -/
theorem Scope.Shows.append {binding : Binding} (shown : scope.Shows wide name columns row)
    (apart : binding.name ≠ name) :
    Scope.Shows (scope ++ [binding]) (wide ++ other) name columns row := by
  intro place column isColumn
  obtain ⟨wherever, resolved, below, same⟩ := shown place column isColumn
  refine ⟨wherever, ?_, ?_, ?_⟩
  · rw [Scope.resolve_append_of_ne apart, resolved]
  · rw [List.length_append]
    omega
  · rw [List.getD_append _ _ _ _ below, same]

theorem Scope.shows_append_self (apart : name ∉ scope.map Binding.name)
    (distinct : (columns.map Column.name).Nodup) (isWide : wide.length = scope.width)
    (asWide : other.length = columns.length) :
    Scope.Shows (scope ++ [⟨name, columns⟩]) (wide ++ other) name columns other := by
  intro place column isColumn
  have below := (List.getElem?_eq_some_iff.mp isColumn).1
  refine ⟨scope.width + place, Scope.resolve_append_self apart distinct isColumn, ?_, ?_⟩
  · rw [List.length_append]
    omega
  · rw [List.getD_append_right _ _ _ _ (by omega), isWide, Nat.add_sub_cancel_left]

end Showing

/-- The integer that a row has at a place, if it has one there. -/
def integerAt (place : Nat) (row : List Cell) : Option Int :=
  (row.getD place .null).integer?

/-- What the key of a row refers to: the only row of the target under it, or nulls where the key
is null or no row is under it. -/
inductive Finds (target : Rowset) (keyPlace targetPlace : Nat) (row : List Cell) :
    List Cell → Prop where
  | row {value : Int} {other : List Cell} :
      integerAt keyPlace row = some value → other ∈ target.rows →
      integerAt targetPlace other = some value →
      (∀ another ∈ target.rows, integerAt targetPlace another = some value → another = other) →
      Finds target keyPlace targetPlace row other
  | nothing :
      (∀ value, integerAt keyPlace row = some value →
        ∀ other ∈ target.rows, integerAt targetPlace other ≠ some value) →
      Finds target keyPlace targetPlace row (List.replicate target.columns.length .null)

/-- A key of a source that refers to the primary key of a target, as a join of a plan has it. -/
structure Refers (naming : Naming) (source target : Rowset) (join : PlanJoin)
    (keyPlace targetPlace : Nat) : Prop where
  key : ∃ column, source.columns[keyPlace]? = some column ∧
    column.name = naming.spell join.key.name
  targetKey : ∃ column, target.columns[targetPlace]? = some column ∧
    column.name = naming.spell join.targetKey.name
  columns : (target.columns.map Column.name).Nodup
  keys : ∀ row ∈ source.rows, (row.getD keyPlace .null).isNull = true ∨
    (integerAt keyPlace row).isSome = true
  identifiers : ∀ other ∈ target.rows, (integerAt targetPlace other).isSome = true
  distinct : (target.rows.map (integerAt targetPlace)).Nodup

section Joining

variable {naming : Naming} {source target : Rowset} {join : PlanJoin} {keyPlace targetPlace : Nat}
  {scope : Scope} {wide row : List Cell} {sourceName : String}

theorem compareTruth_of_integers {left right : Cell} {value other : Int}
    (isLeft : left.integer? = some value) (isRight : right.integer? = some other) :
    compareTruth .equal left right = .ok (.ofBool (some other == some value)) := by
  have ordered := Cell.compare_of_integers isLeft isRight
  have sameAnswer : (Ord.compare value other == .eq) = (some other == some value) := by
    rw [Bool.eq_iff_iff, beq_iff_eq, beq_iff_eq, compare_eq_iff_eq, Option.some.injEq, eq_comm]
  simp [compareTruth, Cell.isNull_of_integer? isLeft, Cell.isNull_of_integer? isRight,
    compareCells, ordered, admits, sameAnswer]

theorem compareTruth_null (cell : Cell) : compareTruth .equal .null cell = .ok .unknown := by
  simp [compareTruth, Cell.isNull]

/-- The table that a join adds, under its alias. -/
def bindingOf (naming : Naming) (join : PlanJoin) (target : Rowset) : Binding :=
  ⟨naming.spell join.tableAlias, target.columns⟩

/-- The condition of a join compares the key of the source with that of the target. -/
theorem Refers.truth (refers : Refers naming source target join keyPlace targetPlace)
    (apart : naming.spell join.tableAlias ∉ scope.map Binding.name)
    (sourceApart : naming.spell join.tableAlias ≠ sourceName)
    (isWide : wide.length = scope.width) (shown : scope.Shows wide sourceName source.columns row)
    {other : List Cell} (asWide : other.length = target.columns.length) :
    Scope.truth (scope ++ [bindingOf naming join target])
        (joinOfPlan naming sourceName join).condition (wide ++ other) =
      compareTruth .equal (row.getD keyPlace .null) (other.getD targetPlace .null) := by
  obtain ⟨key, isKey, named⟩ := refers.key
  obtain ⟨targetKey, isTargetKey, targetNamed⟩ := refers.targetKey
  have shownStill : Scope.Shows (scope ++ [bindingOf naming join target]) (wide ++ other)
      sourceName source.columns row := shown.append sourceApart
  have shownOther : Scope.Shows (scope ++ [bindingOf naming join target]) (wide ++ other)
      (naming.spell join.tableAlias) target.columns other :=
    Scope.shows_append_self apart refers.columns isWide asWide
  have left := shownStill.evaluate isKey
  have right := shownOther.evaluate isTargetKey
  rw [named] at left
  rw [targetNamed] at right
  simp only [Scope.truth, joinOfPlan, Scope.evaluate] at left right ⊢
  rw [left, Outcome.ok_bind, right, Outcome.ok_bind, operate]
  cases compareTruth .equal (row.getD keyPlace .null) (other.getD targetPlace .null) with
  | error refusal => rfl
  | ok truth => exact truthOfCell_cellOfTruth truth

/-- The rows of the target that pass the condition are those under the key of the row. -/
theorem Refers.holding (refers : Refers naming source target join keyPlace targetPlace)
    (apart : naming.spell join.tableAlias ∉ scope.map Binding.name)
    (sourceApart : naming.spell join.tableAlias ≠ sourceName)
    (isWide : wide.length = scope.width) (shown : scope.Shows wide sourceName source.columns row)
    (asWide : ∀ other ∈ target.rows, other.length = target.columns.length)
    (isRow : row ∈ source.rows) :
    Scope.holding (scope ++ [bindingOf naming join target])
        (joinOfPlan naming sourceName join).condition (target.rows.map fun other => wide ++ other) =
      .ok ((target.rows.filter fun other => (integerAt keyPlace row).isSome &&
        integerAt targetPlace other == integerAt keyPlace row).map fun other => wide ++ other) := by
  have truthOf := fun other (member : other ∈ target.rows) =>
    refers.truth apart sourceApart isWide shown (asWide other member)
  cases isKey : integerAt keyPlace row with
  | none =>
      have isNull : row.getD keyPlace .null = .null := by
        apply Cell.isNull_eq_true_iff.mp
        simpa [isKey] using refers.keys row isRow
      simp only [isNull, compareTruth_null] at truthOf
      simp [Scope.holding_map truthOf, Truth.holds]
  | some value =>
      have truths : ∀ other ∈ target.rows,
          Scope.truth (scope ++ [bindingOf naming join target])
            (joinOfPlan naming sourceName join).condition (wide ++ other) =
              .ok (.ofBool (integerAt targetPlace other == some value)) := by
        intro other member
        obtain ⟨identifier, isIdentifier⟩ :=
          Option.isSome_iff_exists.mp (refers.identifiers other member)
        rw [truthOf other member, compareTruth_of_integers isKey isIdentifier, isIdentifier]
      simp [Scope.holding_map truths]

/-- A join adds one row of the target, or nulls, to a row. -/
theorem Refers.exists_joinRow (refers : Refers naming source target join keyPlace targetPlace)
    (apart : naming.spell join.tableAlias ∉ scope.map Binding.name)
    (sourceApart : naming.spell join.tableAlias ≠ sourceName)
    (isWide : wide.length = scope.width) (shown : scope.Shows wide sourceName source.columns row)
    (asWide : ∀ other ∈ target.rows, other.length = target.columns.length)
    (isRow : row ∈ source.rows) :
    ∃ other, Scope.joinRow (scope ++ [bindingOf naming join target])
        (joinOfPlan naming sourceName join) target.rows wide = .ok [wide ++ other] ∧
      other.length = target.columns.length ∧ Finds target keyPlace targetPlace row other := by
  have held := refers.holding apart sourceApart isWide shown asWide isRow
  by_cases someRow : ∃ other ∈ target.rows, (integerAt keyPlace row).isSome = true ∧
      integerAt targetPlace other = integerAt keyPlace row
  · obtain ⟨other, member, isSome, same⟩ := someRow
    obtain ⟨value, isKey⟩ := Option.isSome_iff_exists.mp isSome
    have onlyOther := filter_key_of_nodup refers.distinct member
    refine ⟨other, ?_, asWide other member, ?_⟩
    · rw [same] at onlyOther
      simp [Scope.joinRow, held, isSome, onlyOther]
    · apply Finds.row isKey member (same.trans isKey)
      intro another isAnother isUnder
      exact eq_of_key_eq refers.distinct isAnother member (isUnder.trans (same.trans isKey).symm)
  · refine ⟨List.replicate target.columns.length .null, ?_, List.length_replicate, ?_⟩
    · have noRows : (target.rows.filter fun other => (integerAt keyPlace row).isSome &&
          integerAt targetPlace other == integerAt keyPlace row) = [] := by
        rw [List.filter_eq_nil_iff]
        intro other member isUnder
        simp only [Bool.and_eq_true, beq_iff_eq] at isUnder
        exact someRow ⟨other, member, isUnder⟩
      rw [Scope.joinRow, held, noRows]
      simp [joinOfPlan, padded, isWide, bindingOf]
    · apply Finds.nothing
      intro value isKey other member isUnder
      exact someRow ⟨other, member, by rw [isKey]; rfl, isUnder.trans isKey.symm⟩

end Joining

/-- A table that a join of a plan finds in a database, with the places of the keys. -/
structure Target (database : Database) (naming : Naming) (source : Rowset) (join : PlanJoin) where
  table : Rowset
  keyPlace : Nat
  targetPlace : Nat
  isTable : database.table (naming.spell join.target.name) = .ok table
  refers : Refers naming source table join keyPlace targetPlace

/-- A wide row that shows a row of the source, and for each join the row that it finds. -/
structure Widens (database : Database) (naming : Naming) (source : Rowset) (sourceName : String)
    (joins : List PlanJoin) (scope : Scope) (row wide : List Cell) : Prop where
  width : wide.length = scope.width
  shown : scope.Shows wide sourceName source.columns row
  each : ∀ join ∈ joins, ∃ (target : Target database naming source join) (other : List Cell),
    other.length = target.table.columns.length ∧
      Finds target.table target.keyPlace target.targetPlace row other ∧
      scope.Shows wide (naming.spell join.tableAlias) target.table.columns other

/-- What some joins have made of the rows of the source: one wide row of each, in order. -/
structure Joins (database : Database) (naming : Naming) (source : Rowset) (sourceName : String)
    (joins : List PlanJoin) (joined : Joined) : Prop where
  names : joined.scope.map Binding.name =
    sourceName :: joins.map fun join => naming.spell join.tableAlias
  rows : List.Forall₂ (Widens database naming source sourceName joins joined.scope) source.rows
    joined.rows

section Running

variable {database : Database} {naming : Naming} {source : Rowset} {sourceName : String}
  {joins : List PlanJoin} {join : PlanJoin} {joined : Joined} {scope : Scope}
  {row wide : List Cell}

theorem Widens.exists_joinRow
    (widens : Widens database naming source sourceName joins scope row wide)
    (names : scope.map Binding.name =
      sourceName :: joins.map fun join => naming.spell join.tableAlias)
    (apart : naming.spell join.tableAlias ∉ scope.map Binding.name)
    (rectangular : database.Rectangular) (target : Target database naming source join)
    (isRow : row ∈ source.rows) :
    ∃ wider, Scope.joinRow (scope ++ [bindingOf naming join target.table])
        (joinOfPlan naming sourceName join) target.table.rows wide = .ok [wider] ∧
      Widens database naming source sourceName (joins ++ [join])
        (scope ++ [bindingOf naming join target.table]) row wider := by
  have apartEach : ∀ name ∈ scope.map Binding.name, naming.spell join.tableAlias ≠ name := by
    rintro name member rfl
    exact apart member
  have sourceApart := apartEach sourceName (by simp [names])
  obtain ⟨other, run, asWide, finds⟩ := target.refers.exists_joinRow apart sourceApart widens.width
    widens.shown (rectangular _ _ target.isTable) isRow
  refine ⟨wide ++ other, run, ?_, ?_, ?_⟩
  · simp [widens.width, asWide, bindingOf]
  · exact widens.shown.append sourceApart
  · intro each member
    rcases List.mem_append.mp member with earlier | isLast
    · obtain ⟨eachTarget, eachOther, eachWide, eachFinds, eachShown⟩ := widens.each each earlier
      have eachApart := apartEach (naming.spell each.tableAlias) (by
        rw [names]
        exact List.mem_cons_of_mem _ (List.mem_map_of_mem earlier))
      exact ⟨eachTarget, eachOther, eachWide, eachFinds, eachShown.append eachApart⟩
    · obtain rfl := List.mem_singleton.mp isLast
      exact ⟨target, other, asWide, finds,
        Scope.shows_append_self apart target.refers.columns widens.width asWide⟩

/-- Without joins the rows are those of the source. -/
theorem joins_nil (sourceName : String) (rectangular : database.Rectangular) {tableName : String}
    (isSource : database.table tableName = .ok source)
    (columns : (source.columns.map Column.name).Nodup) :
    Joins database naming source sourceName [] ⟨[⟨sourceName, source.columns⟩], source.rows⟩ := by
  constructor
  · rfl
  · rw [List.forall₂_same]
    intro row isRow
    have isWide := rectangular _ _ isSource row isRow
    constructor
    · simp [Scope.width, isWide]
    · change Scope.Shows ([] ++ [⟨sourceName, source.columns⟩]) ([] ++ row) _ _ _
      exact Scope.shows_append_self List.not_mem_nil columns rfl isWide
    · exact fun join member => absurd member List.not_mem_nil

/-- Joining each of some rows, where every row is joined to one. -/
theorem exists_joined {step : List Cell → Except Refusal (List (List Cell))}
    {rows wides : List (List Cell)} {before after : List Cell → List Cell → Prop}
    (held : List.Forall₂ before rows wides)
    (each : ∀ row wide, row ∈ rows → before row wide →
      ∃ wider, step wide = .ok [wider] ∧ after row wider) :
    ∃ results, wides.mapM step = .ok results ∧ List.Forall₂ after rows results.flatten := by
  induction held with
  | nil => exact ⟨[], rfl, .nil⟩
  | cons first _ ih =>
      obtain ⟨wider, run, holds⟩ := each _ _ List.mem_cons_self first
      obtain ⟨results, restRun, restHold⟩ :=
        ih fun row wide member => each row wide (List.mem_cons_of_mem _ member)
      refine ⟨[wider] :: results, ?_, ?_⟩
      · simp [run, restRun]
      · exact .cons holds restHold

/-- A join on the primary key of its target widens each row by one row or by nulls. -/
theorem Joins.exists_join (done : Joins database naming source sourceName joins joined)
    (apart : naming.spell join.tableAlias ∉ joined.scope.map Binding.name)
    (rectangular : database.Rectangular) (target : Target database naming source join) :
    ∃ next, database.join joined (joinOfPlan naming sourceName join) = .ok next ∧
      Joins database naming source sourceName (joins ++ [join]) next := by
  let scope := joined.scope ++ [bindingOf naming join target.table]
  have run : ∃ results,
      joined.rows.mapM (scope.joinRow (joinOfPlan naming sourceName join) target.table.rows) =
        .ok results ∧
      List.Forall₂ (Widens database naming source sourceName (joins ++ [join]) scope)
        source.rows results.flatten := by
    apply exists_joined done.rows
    intro row wide isRow widens
    exact widens.exists_joinRow done.names apart rectangular target isRow
  obtain ⟨results, joinedRows, widened⟩ := run
  refine ⟨⟨scope, results.flatten⟩, ?_, ?_, widened⟩
  · have isTable : database.table (joinOfPlan naming sourceName join).table.name =
        .ok target.table := target.isTable
    rw [Database.join, isTable, Outcome.ok_bind]
    exact Outcome.bind_eq_ok.mpr ⟨results, joinedRows, rfl⟩
  · simp [scope, done.names, bindingOf]

/-- All joins of a plan, one after another. -/
theorem Joins.exists_foldlM (done : Joins database naming source sourceName joins joined)
    (rectangular : database.Rectangular) (others : List PlanJoin)
    (distinct : (sourceName :: (joins ++ others).map fun join =>
      naming.spell join.tableAlias).Nodup)
    (targets : ∀ join ∈ others, Nonempty (Target database naming source join)) :
    ∃ final, (others.map (joinOfPlan naming sourceName)).foldlM database.join joined = .ok final ∧
      Joins database naming source sourceName (joins ++ others) final := by
  induction others generalizing joins joined with
  | nil => exact ⟨joined, rfl, by simpa using done⟩
  | cons join rest ih =>
      obtain ⟨⟨target⟩, restTargets⟩ := List.forall_mem_cons.mp targets
      have apart : naming.spell join.tableAlias ∉ joined.scope.map Binding.name := by
        rw [done.names]
        intro earlier
        rw [List.map_append, ← List.cons_append, List.map_cons, List.nodup_middle,
          List.nodup_cons] at distinct
        exact distinct.1 (List.mem_append_left _ earlier)
      obtain ⟨next, joinedNext, doneNext⟩ := done.exists_join apart rectangular target
      obtain ⟨final, joinedFinal, doneFinal⟩ := ih doneNext (by simpa using distinct) restTargets
      refine ⟨final, ?_, by simpa using doneFinal⟩
      simp [joinedNext, joinedFinal]

/-- The joins of a plan neither lose nor repeat rows. Each row of the source, in order, becomes one
row, which shows the row under the name of the source and, under the alias of each join, the only
row that the key refers to, or nulls. -/
theorem source_of_joins {plan : Plan} {statement : Select.Statement}
    (rendered : statementOfPlan naming plan = .ok statement) (built : database.Built)
    (isSource : database.table (naming.spell plan.source.name) = .ok source)
    (columns : (source.columns.map Column.name).Nodup)
    (apart : (naming.spell plan.source.name ::
      plan.joins.map fun join => naming.spell join.tableAlias).Nodup)
    (targets : ∀ join ∈ plan.joins, Nonempty (Target database naming source join)) :
    ∃ joined, database.source statement = .ok joined ∧
      List.Forall₂ (fun row wide =>
        (∀ place column, source.columns[place]? = some column →
          joined.scope.evaluate wide
            (.column (some (naming.spell plan.source.name)) column.name) =
              .ok (row.getD place .null)) ∧
        ∀ join ∈ plan.joins, ∃ (target : Target database naming source join) (other : List Cell),
          Finds target.table target.keyPlace target.targetPlace row other ∧
          ∀ place column, target.table.columns[place]? = some column →
            joined.scope.evaluate wide
              (.column (some (naming.spell join.tableAlias)) column.name) =
                .ok (other.getD place .null)) source.rows joined.rows := by
  have rectangular := built.rectangular
  obtain ⟨projections, _, same⟩ := Outcome.bind_eq_ok.mp rendered
  cases same
  have start : Joins database naming source (naming.spell plan.source.name) [] _ :=
    joins_nil _ rectangular isSource columns
  obtain ⟨joined, run, done⟩ := start.exists_foldlM rectangular plan.joins apart targets
  refine ⟨joined, ?_, done.rows.imp ?_⟩
  · rw [Database.source, isSource, Outcome.ok_bind]
    exact run
  · intro row wide widens
    constructor
    · exact fun place column isColumn => widens.shown.evaluate isColumn
    · intro join member
      obtain ⟨target, other, _, finds, shown⟩ := widens.each join member
      exact ⟨target, other, finds, fun place column isColumn => shown.evaluate isColumn⟩

end Running

/-- The columns of people, who have a boss among them and a home. -/
def peopleColumns : List Column :=
  [⟨"ID", "BIGINT"⟩, ⟨"BOSS_ID", "INTEGER"⟩, ⟨"HOME_ID", "INTEGER"⟩]

/-- The boss of the first one is not known, and the home of the second one is no place. -/
def peopleRows : List (List Cell) :=
  [[.int64 1, .null, .int32 7], [.int64 2, .int32 1, .int32 8], [.int64 3, .int32 1, .int32 7]]

def placesColumns : List Column :=
  [⟨"ID", "BIGINT"⟩, ⟨"NAME", "VARCHAR"⟩]

def placesRows : List (List Cell) :=
  [[.int64 6, .text "Rome"], [.int64 7, .text "Paris"]]

def staff : Database :=
  ⟨[("PEOPLE", ⟨peopleColumns, peopleRows⟩), ("PLACES", ⟨placesColumns, placesRows⟩)]⟩

theorem staff_built : staff.Built := by
  have tables : ((Database.empty.createTable "PEOPLE" peopleColumns).createTable "PLACES"
      placesColumns).Built := .createTable _ _ (.createTable _ _ .empty)
  have people : Database.Built
      ⟨[("PEOPLE", ⟨peopleColumns, peopleRows⟩), ("PLACES", ⟨placesColumns, []⟩)]⟩ :=
    tables.insertAll (show Database.insertAll _ "PEOPLE" peopleRows = _ from rfl)
  exact people.insertAll (show Database.insertAll _ "PLACES" placesRows = _ from rfl)

def staffField (table : Int) (position : Nat) (name : String) (target : Option Int) : Field :=
  ⟨table * 10 + position, table, name, .integer, none, target, none, position⟩

def peopleTable : Table := ⟨1, 1, "people", none⟩

def placesTable : Table := ⟨2, 1, "places", none⟩

/-- A listing of people that reaches their bosses and their homes. -/
def staffPlan : Plan where
  databaseId := 1
  source := peopleTable
  joins :=
    [⟨staffField 1 1 "boss_id" (some 1), peopleTable, staffField 1 0 "id" none⟩,
      ⟨staffField 1 2 "home_id" (some 2), placesTable, staffField 2 0 "id" none⟩]
  columns := []
  filter := none
  breakout := []
  orderBy := []
  limit := none
  offset := none
  warnings := []

theorem staff_source_of_joins :
    ∃ statement joined, statementOfPlan .upperCase staffPlan = .ok statement ∧
      staff.source statement = .ok joined ∧ joined.rows.length = 3 := by
  have targets : ∀ join ∈ staffPlan.joins,
      Nonempty (Target staff .upperCase ⟨peopleColumns, peopleRows⟩ join) := by
    intro join member
    fin_cases member
    · refine ⟨⟨⟨peopleColumns, peopleRows⟩, 1, 0, rfl, ?_⟩⟩
      constructor
      · exact ⟨_, rfl, by decide⟩
      · exact ⟨_, rfl, by decide⟩
      all_goals decide
    · refine ⟨⟨⟨placesColumns, placesRows⟩, 2, 0, rfl, ?_⟩⟩
      constructor
      · exact ⟨_, rfl, by decide⟩
      · exact ⟨_, rfl, by decide⟩
      all_goals decide
  obtain ⟨joined, run, rows⟩ :=
    source_of_joins (show statementOfPlan .upperCase staffPlan = .ok _ from rfl) staff_built rfl
      (by decide) (by decide) targets
  exact ⟨_, joined, rfl, run, rows.length_eq.symm⟩

end CrossQuery.Relational
