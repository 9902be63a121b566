import CrossQuery.Proofs.Plan.WellFormed
import CrossQuery.Proofs.Relational.Conditions

/-!
# What filters mean

A filter has a truth value on each record, whatever truth the tests in it have there: no clause at
all matches every record, of a conjunction as of a disjunction, and a test of equality with null is
a test for null. The predicate that a filter is lowered to has the same truth on the same record. A
filter that matches every record, however it is put together, is lowered to nothing, and one that
negates such a filter is not lowered at all.
-/

set_option autoImplicit false

namespace CrossQuery

/-- What is asked of the value of one field. -/
inductive FieldTest where
  | compare (comparison : Comparison) (value : Cell)
  | between (least greatest : Cell)
  | isNull (negated : Bool)
  | startsWith (value : String)
  | contains (value : String)

/-- The truth of every test of every field, as it is on some record. -/
abbrev Judge := PlanField → FieldTest → Truth

/-- The answer to a test on the cell of its field. -/
def FieldTest.truth (cell : Cell) : FieldTest → Truth
  | .compare comparison value => comparison.truth cell value
  | .between least greatest =>
    (Comparison.greaterOrEqual.truth cell least).and (Comparison.lessOrEqual.truth cell greatest)
  | .isNull negated => .ofBool (cell.isNull != negated)
  | .startsWith value => cell.textTruth value.toList.isPrefixOf
  | .contains value => cell.textTruth (Text.occurs value.toList)

namespace Predicate

mutual

/-- The truth of a predicate where its tests are judged. -/
def judged (judge : Judge) : Predicate → Truth
  | .and clauses => judgedAll judge clauses
  | .or clauses => judgedAny judge clauses
  | .not clause => (judged judge clause).not
  | .compare field comparison value => judge field (.compare comparison value)
  | .between field least greatest => judge field (.between least greatest)
  | .isNull field negated => judge field (.isNull negated)
  | .startsWith field value => judge field (.startsWith value)
  | .contains field value => judge field (.contains value)

def judgedAll (judge : Judge) : List Predicate → Truth
  | [] => .yes
  | clause :: rest => (judged judge clause).and (judgedAll judge rest)

def judgedAny (judge : Judge) : List Predicate → Truth
  | [] => .no
  | clause :: rest => (judged judge clause).or (judgedAny judge rest)

end

mutual

/-- The truth of a predicate on a record is that of its tests on the cells of the record. -/
theorem judged_truth (value : PlanField → Cell) (predicate : Predicate) :
    predicate.judged (fun field test => test.truth (value field)) = predicate.truth value := by
  cases predicate with
  | and clauses => exact judgedAll_truth value clauses
  | or clauses => exact judgedAny_truth value clauses
  | not clause => exact congrArg Truth.not (judged_truth value clause)
  | compare field comparison cell => rfl
  | between field least greatest => rfl
  | isNull field negated => rfl
  | startsWith field text => rfl
  | contains field text => rfl

theorem judgedAll_truth (value : PlanField → Cell) (clauses : List Predicate) :
    judgedAll (fun field test => test.truth (value field)) clauses = truthOfAll value clauses := by
  cases clauses with
  | nil => rfl
  | cons clause rest =>
      exact congrArg₂ Truth.and (judged_truth value clause) (judgedAll_truth value rest)

theorem judgedAny_truth (value : PlanField → Cell) (clauses : List Predicate) :
    judgedAny (fun field test => test.truth (value field)) clauses = truthOfAny value clauses := by
  cases clauses with
  | nil => rfl
  | cons clause rest =>
      exact congrArg₂ Truth.or (judged_truth value clause) (judgedAny_truth value rest)

end

/-- A predicate without conjunctions or disjunctions of fewer than two clauses. -/
inductive Compact : Predicate → Prop where
  | and {clauses : List Predicate} :
      2 ≤ clauses.length → (∀ clause ∈ clauses, Compact clause) → Compact (.and clauses)
  | or {clauses : List Predicate} :
      2 ≤ clauses.length → (∀ clause ∈ clauses, Compact clause) → Compact (.or clauses)
  | not {clause : Predicate} : Compact clause → Compact (.not clause)
  | compare {field : PlanField} {comparison : Comparison} {value : Cell} :
      Compact (.compare field comparison value)
  | between {field : PlanField} {least greatest : Cell} : Compact (.between field least greatest)
  | isNull {field : PlanField} {negated : Bool} : Compact (.isNull field negated)
  | startsWith {field : PlanField} {value : String} : Compact (.startsWith field value)
  | contains {field : PlanField} {value : String} : Compact (.contains field value)

end Predicate

namespace Filter

/-- A filter without a test that could fail: no clause of a conjunction has one, or some clause of
a disjunction has none. -/
inductive MatchesAll : Filter → Prop where
  | all : MatchesAll .all
  | and {clauses : List Filter} :
      (∀ clause ∈ clauses, MatchesAll clause) → MatchesAll (.and clauses)
  | empty : MatchesAll (.or [])
  | or {clauses : List Filter} {clause : Filter} :
      clause ∈ clauses → MatchesAll clause → MatchesAll (.or clauses)

/-- A filter that negates one that matches every record, at any depth. -/
inductive NegatesAll : Filter → Prop where
  | here {clause : Filter} : MatchesAll clause → NegatesAll (.not clause)
  | not {clause : Filter} : NegatesAll clause → NegatesAll (.not clause)
  | and {clauses : List Filter} {clause : Filter} :
      clause ∈ clauses → NegatesAll clause → NegatesAll (.and clauses)
  | or {clauses : List Filter} {clause : Filter} :
      clause ∈ clauses → NegatesAll clause → NegatesAll (.or clauses)

end Filter

/-- What a value that is compared with a field stands for: a text is a day or a moment to a field
of those, and what has parts is not compared. -/
def PlanField.cellOf? (field : PlanField) : Json → Option Cell
  | .null | .array _ | .object _ => none
  | .string text =>
    match field.field.baseType with
    | .date => (Calendar.readDate? text.toList).map .date
    | .timestamp => (Calendar.readTimestamp? text.toList).map .timestamp
    | _ => some (.text text)
  | value => some (.ofJson value)

/-- What a comparison with a value asks of a field. There is no order against null. -/
def PlanField.comparisonTest? (field : PlanField) (comparison : Comparison) (value : Json) :
    Option FieldTest :=
  match value, comparison with
  | .null, .equal => some (.isNull false)
  | .null, .notEqual => some (.isNull true)
  | .null, _ => none
  | value, comparison => (field.cellOf? value).map (.compare comparison)

/-- What lying between two values asks of a field. -/
def PlanField.rangeTest? (field : PlanField) (least greatest : Json) : Option FieldTest :=
  match field.cellOf? least, field.cellOf? greatest with
  | some least, some greatest => some (.between least greatest)
  | _, _ => none

namespace CompileContext

/-- The field that a reference names: one of the source, or one of the table it lies in. -/
def fieldOf? (context : CompileContext) : FieldRef → Option PlanField
  | .direct id =>
    match context.catalog.field id with
    | .ok field => some (.direct field context.source)
    | .error _ => none
  | .through keyId destinationId =>
    match context.catalog.field keyId, context.catalog.field destinationId with
    | .ok key, .ok destination =>
      match context.catalog.table destination.tableId with
      | .ok table => some ⟨destination, table, some key⟩
      | .error _ => none
    | _, _ => none

/-- The truth of a test of the field that a reference names; what cannot be asked is unknown. -/
def ask (context : CompileContext) (judge : Judge) (ref : FieldRef)
    (test? : PlanField → Option FieldTest) : Truth :=
  match context.fieldOf? ref with
  | none => .unknown
  | some field => ((test? field).map (judge field)).getD .unknown

mutual

/-- The truth of a filter where its tests are judged. A disjunction of nothing is true. -/
def meaning (context : CompileContext) (judge : Judge) : Filter → Truth
  | .all => .yes
  | .and clauses => meaningOfAll context judge clauses
  | .or [] => .yes
  | .or (clause :: rest) => (meaning context judge clause).or (meaningOfAny context judge rest)
  | .not clause => (meaning context judge clause).not
  | .compare comparison ref value =>
    context.ask judge ref fun field => field.comparisonTest? comparison value
  | .between ref least greatest =>
    context.ask judge ref fun field => field.rangeTest? least greatest
  | .isNull ref => context.ask judge ref fun _ => some (.isNull false)
  | .notNull ref => context.ask judge ref fun _ => some (.isNull true)
  | .startsWith ref value => context.ask judge ref fun _ => some (.startsWith value)
  | .contains ref value => context.ask judge ref fun _ => some (.contains value)

def meaningOfAll (context : CompileContext) (judge : Judge) : List Filter → Truth
  | [] => .yes
  | clause :: rest => (meaning context judge clause).and (meaningOfAll context judge rest)

def meaningOfAny (context : CompileContext) (judge : Judge) : List Filter → Truth
  | [] => .no
  | clause :: rest => (meaning context judge clause).or (meaningOfAny context judge rest)

end

end CompileContext

/-- The truth of a predicate that may be absent, and then holds on every record. -/
def Judge.truthOf (judge : Judge) : Option Predicate → Truth
  | none => .yes
  | some predicate => predicate.judged judge

namespace Truth

@[simp] theorem yes_and (truth : Truth) : Truth.yes.and truth = truth := by
  cases truth <;> rfl

@[simp] theorem yes_or (truth : Truth) : Truth.yes.or truth = .yes := by
  cases truth <;> rfl

@[simp] theorem or_yes (truth : Truth) : truth.or .yes = .yes := by
  cases truth <;> rfl

end Truth

namespace CompileContext

variable {context : CompileContext}

/-- What a filter is lowered to: a predicate of the same truth, or nothing for one that matches
every record. -/
structure Means (context : CompileContext) (filter : Filter) (result : Option Predicate) : Prop where
  truth : ∀ judge : Judge, judge.truthOf result = context.meaning judge filter
  compact : ∀ predicate, result = some predicate → predicate.Compact
  absent : result = none ↔ filter.MatchesAll
  lawful : ¬ filter.NegatesAll

section Connectives

variable {clauses : List Filter} {lowered : List (Option Predicate)}

theorem truthOf_conjunction (judge : Judge) (clauses : List Predicate) :
    judge.truthOf (conjunction clauses) = Predicate.judgedAll judge clauses := by
  match clauses with
  | [] => rfl
  | [clause] => simp [conjunction, Judge.truthOf, Predicate.judgedAll]
  | _ :: _ :: _ => rfl

theorem compact_conjunction {clauses : List Predicate}
    (compact : ∀ clause ∈ clauses, clause.Compact) :
    ∀ predicate, conjunction clauses = some predicate → predicate.Compact := by
  intro predicate made
  match clauses with
  | [] => cases made
  | [_] =>
      cases made
      exact compact _ List.mem_cons_self
  | first :: second :: rest =>
      cases made
      exact .and (by simp) compact

theorem conjunction_eq_none_iff {clauses : List Predicate} :
    conjunction clauses = none ↔ clauses = [] := by
  match clauses with
  | [] => simp [conjunction]
  | [_] => simp [conjunction]
  | _ :: _ :: _ => simp [conjunction]

/-- A conjunction of the predicates that are there is true where all clauses are, since an absent
one is true. -/
theorem judgedAll_of_each (judge : Judge) (each : List.Forall₂ context.Means clauses lowered) :
    Predicate.judgedAll judge (lowered.filterMap id) = context.meaningOfAll judge clauses := by
  induction each with
  | nil => rfl
  | @cons clause result rest others means _ ih =>
      have first := means.truth judge
      cases result with
      | none =>
          rw [List.filterMap_cons_none rfl, ih, meaningOfAll, ← first]
          exact (Truth.yes_and _).symm
      | some predicate =>
          rw [List.filterMap_cons_some (f := id) rfl, Predicate.judgedAll, ih, meaningOfAll,
            ← first]
          rfl

/-- A disjunction of predicates is true where some clause is, if none is absent. -/
theorem judgedAny_of_each (judge : Judge) (each : List.Forall₂ context.Means clauses lowered)
    (present : none ∉ lowered) :
    Predicate.judgedAny judge (lowered.filterMap id) = context.meaningOfAny judge clauses := by
  induction each with
  | nil => rfl
  | @cons clause result rest others means _ ih =>
      obtain ⟨isPresent, othersPresent⟩ := not_or.mp (mt List.mem_cons.mpr present)
      obtain ⟨predicate, rfl⟩ := Option.ne_none_iff_exists'.mp (Ne.symm isPresent)
      rw [List.filterMap_cons_some (f := id) rfl, Predicate.judgedAny, ih othersPresent,
        meaningOfAny, ← means.truth judge]
      rfl

/-- One absent clause makes a disjunction true. -/
theorem meaningOfAny_of_absent (judge : Judge) (each : List.Forall₂ context.Means clauses lowered)
    (absent : none ∈ lowered) : context.meaningOfAny judge clauses = .yes := by
  induction each with
  | nil => cases absent
  | @cons clause result rest others means _ ih =>
      rw [meaningOfAny, ← means.truth judge]
      rcases List.mem_cons.mp absent with rfl | later
      · exact Truth.yes_or _
      · rw [ih later, Truth.or_yes]

theorem compact_of_each (each : List.Forall₂ context.Means clauses lowered) :
    ∀ clause ∈ lowered.filterMap id, clause.Compact := by
  induction each with
  | nil => exact fun clause member => by cases member
  | @cons clause result rest others means _ ih =>
      cases result with
      | none => exact ih
      | some predicate => exact List.forall_mem_cons.mpr ⟨means.compact predicate rfl, ih⟩

theorem lawful_of_each (each : List.Forall₂ context.Means clauses lowered) :
    ∀ clause ∈ clauses, ¬ clause.NegatesAll := by
  induction each with
  | nil => exact fun clause member => by cases member
  | cons means _ ih => exact List.forall_mem_cons.mpr ⟨means.lawful, ih⟩

theorem all_absent_iff (each : List.Forall₂ context.Means clauses lowered) :
    lowered.filterMap id = [] ↔ ∀ clause ∈ clauses, clause.MatchesAll := by
  induction each with
  | nil => simp
  | @cons clause result rest others means _ ih =>
      rw [List.forall_mem_cons, ← means.absent, ← ih]
      cases result <;> simp

theorem any_absent_iff (each : List.Forall₂ context.Means clauses lowered) :
    none ∈ lowered ↔ ∃ clause ∈ clauses, clause.MatchesAll := by
  induction each with
  | nil => simp
  | @cons clause result rest others means _ ih =>
      rw [List.exists_mem_cons_iff, ← means.absent, ← ih, List.mem_cons, eq_comm]

theorem means_and (each : List.Forall₂ context.Means clauses lowered) :
    context.Means (.and clauses) (conjunction (lowered.filterMap id)) where
  truth judge := by rw [truthOf_conjunction, judgedAll_of_each judge each, meaning]
  compact := compact_conjunction (compact_of_each each)
  absent := by
    rw [conjunction_eq_none_iff, all_absent_iff each]
    exact ⟨.and, fun | .and every => every⟩
  lawful := fun | .and member negates => lawful_of_each each _ member negates

/-- A disjunction is lowered to nothing if it has no clause or a clause is, and otherwise to the
disjunction of what its clauses are lowered to. -/
theorem disjunction_eq (lowered : List (Option Predicate)) :
    (disjunction lowered = none ∧ (lowered = [] ∨ none ∈ lowered)) ∨
      (lowered ≠ [] ∧ none ∉ lowered ∧ ∃ predicate, disjunction lowered = some predicate ∧
        (∀ judge : Judge, predicate.judged judge =
          Predicate.judgedAny judge (lowered.filterMap id)) ∧
        ((∀ clause ∈ lowered.filterMap id, clause.Compact) → predicate.Compact)) := by
  by_cases absent : lowered = [] ∨ none ∈ lowered
  · refine .inl ⟨?_, absent⟩
    rcases absent with rfl | member
    · rfl
    · have some : lowered.any Option.isNone = true := List.any_eq_true.mpr ⟨none, member, rfl⟩
      simp [disjunction, some]
  · obtain ⟨nonempty, present⟩ := not_or.mp absent
    refine .inr ⟨nonempty, present, ?_⟩
    have noneAbsent : (lowered.isEmpty || lowered.any Option.isNone) = false := by
      rw [Bool.or_eq_false_iff, List.isEmpty_eq_false_iff, List.any_eq_false]
      refine ⟨nonempty, fun result member isNone => present ?_⟩
      rwa [← Option.isNone_iff_eq_none.mp isNone]
    unfold disjunction
    rw [noneAbsent, if_neg Bool.false_ne_true]
    split
    · next clause only =>
        rw [only]
        exact ⟨clause, rfl, fun judge => (Truth.or_no _).symm,
          fun compact => compact clause List.mem_cons_self⟩
    · next notSingle =>
        refine ⟨_, rfl, fun judge => rfl, fun compact => .or ?_ compact⟩
        match found : lowered, nonempty, present, notSingle with
        | none :: _, _, present, _ => exact absurd List.mem_cons_self present
        | [some clause], _, _, notSingle => exact absurd rfl (notSingle clause)
        | some _ :: none :: _, _, present, _ =>
            exact absurd (List.mem_cons_of_mem _ List.mem_cons_self) present
        | some _ :: some _ :: _, _, _, _ => simp

theorem means_or (each : List.Forall₂ context.Means clauses lowered) :
    context.Means (.or clauses) (disjunction lowered) := by
  have lawful : ¬ (Filter.or clauses).NegatesAll :=
    fun | .or member negates => lawful_of_each each _ member negates
  have anyMeaning (judge : Judge) (nonempty : lowered ≠ []) :
      context.meaning judge (.or clauses) = context.meaningOfAny judge clauses := by
    cases each with
    | nil => exact absurd rfl nonempty
    | cons _ _ => rw [meaning, meaningOfAny]
  have matchesAll : (Filter.or clauses).MatchesAll ↔ lowered = [] ∨ none ∈ lowered := by
    rw [any_absent_iff each]
    constructor
    · rintro (_ | _ | _ | ⟨member, matchesOne⟩)
      · cases each
        exact .inl rfl
      · exact .inr ⟨_, member, matchesOne⟩
    · rintro (rfl | ⟨clause, member, matchesOne⟩)
      · cases each
        exact .empty
      · exact .or member matchesOne
  rcases disjunction_eq lowered with ⟨isNone, absent⟩ | ⟨nonempty, present, predicate, isSome, same, compact⟩
  · rw [isNone]
    refine ⟨fun judge => ?_, nofun, iff_of_true rfl (matchesAll.mpr absent), lawful⟩
    rcases absent with rfl | member
    · cases each
      rw [meaning]
      rfl
    · rw [anyMeaning judge (List.ne_nil_of_mem member), meaningOfAny_of_absent judge each member]
      rfl
  · rw [isSome]
    refine ⟨fun judge => ?_, ?_, iff_of_false nofun ?_, lawful⟩
    · rw [anyMeaning judge nonempty, ← judgedAny_of_each judge each present]
      exact same judge
    · intro other isOther
      cases isOther
      exact compact (compact_of_each each)
    · exact fun matchesOne => not_or.mpr ⟨nonempty, present⟩ (matchesAll.mp matchesOne)

theorem means_not {clause : Filter} {predicate : Predicate}
    (means : context.Means clause (some predicate)) :
    context.Means (.not clause) (some (.not predicate)) where
  truth judge := congrArg Truth.not (means.truth judge)
  compact := by
    intro other isOther
    cases isOther
    exact .not (means.compact predicate rfl)
  absent := iff_of_false nofun nofun
  lawful := by
    rintro (matchesOne | negates)
    · cases means.absent.mpr matchesOne
    · exact means.lawful negates

end Connectives

section Lowering

/-- A reference is resolved to the field it names. -/
theorem gives_resolve (clause : String) (ref : FieldRef) :
    Gives (context.resolve clause ref) fun field => context.fieldOf? ref = some field := by
  cases ref with
  | direct id =>
      refine gives_bind (gives_look _) fun field found => ?_
      split
      · refine gives_pure ?_
        simp only [fieldOf?, found]
      · exact gives_throw
  | through keyId destinationId =>
      rw [resolve]
      refine gives_check fun _ => ?_
      refine gives_bind (gives_look _) fun key isKey => ?_
      refine gives_check fun _ => ?_
      cases key.target with
      | none => exact gives_throw
      | some targetId =>
          refine gives_bind (gives_look _) fun destination isDestination => ?_
          refine gives_check fun isThere => ?_
          refine gives_bind (gives_look _) fun table isTable => ?_
          refine gives_bind (gives_any _) fun _ _ => gives_pure ?_
          simp only [fieldOf?, isKey, isDestination, not_not.mp isThere, isTable]

/-- A value is compared with a field as the cell that it stands for there. -/
theorem cellOf?_of_typedScalar {field : PlanField} {role : String} {value : Json} {cell : Cell}
    (typed : typedScalar field role value = .ok cell) : field.cellOf? value = some cell := by
  obtain ⟨_, isScalar, _⟩ := Outcome.bind_eq_ok.mp typed
  obtain ⟨present, read⟩ := typedScalar_eq_ok typed
  have sameCell (noText : (Cell.ofJson value).text? = none) : cell = .ofJson value := by
    rw [noText] at read
    cases type : field.field.baseType <;> simpa only [type] using read
  cases value with
  | null => cases present
  | array => cases isScalar
  | object => cases isScalar
  | bool value => exact congrArg some (sameCell rfl).symm
  | real value => exact congrArg some (sameCell rfl).symm
  | whole value =>
      refine congrArg some (sameCell ?_).symm
      unfold Cell.ofJson
      split <;> rfl
  | string text =>
      unfold PlanField.cellOf?
      cases type : field.field.baseType <;> simp only [type, Cell.ofJson, Cell.text?] at read ⊢
      case date =>
        obtain ⟨date, isDate, rfl⟩ := read
        rw [isDate]
        rfl
      case timestamp =>
        obtain ⟨timestamp, isTimestamp, rfl⟩ := read
        rw [isTimestamp]
        rfl
      all_goals exact congrArg some read.symm

/-- What a test of one field is lowered to. -/
theorem means_test {filter : Filter} {predicate : Predicate} {field : PlanField} {test : FieldTest}
    {ref : FieldRef} {test? : PlanField → Option FieldTest}
    (names : context.fieldOf? ref = some field) (asks : test? field = some test)
    (meaning : ∀ judge, context.meaning judge filter = context.ask judge ref test?)
    (judged : ∀ judge : Judge, predicate.judged judge = judge field test)
    (compact : predicate.Compact) (tests : ¬ filter.MatchesAll) (lawful : ¬ filter.NegatesAll) :
    context.Means filter (some predicate) where
  truth judge := by
    rw [meaning, ask, names]
    simp only [asks, Option.map_some, Option.getD_some]
    exact judged judge
  compact := by
    intro other isOther
    cases isOther
    exact compact
  absent := iff_of_false nofun tests
  lawful := lawful

theorem gives_lowerCompare (comparison : Comparison) (ref : FieldRef) (value : Json) :
    Gives (context.lowerCompare comparison ref value) fun predicate =>
      context.Means (.compare comparison ref value) (some predicate) := by
  refine gives_bind (gives_resolve "filter" ref) fun field names => ?_
  split
  · next isNull =>
      cases value with
      | null =>
          split
          · exact gives_pure (means_test names rfl (fun _ => rfl) (fun _ => rfl) .isNull nofun nofun)
          · exact gives_pure (means_test names rfl (fun _ => rfl) (fun _ => rfl) .isNull nofun nofun)
          · exact gives_throw
      | _ => cases isNull
  · next present =>
      refine gives_bind (gives_lift fun cell typed => cellOf?_of_typedScalar typed) fun cell isCell =>
        gives_pure ?_
      have asks : field.comparisonTest? comparison value = some (.compare comparison cell) := by
        unfold PlanField.comparisonTest?
        cases value with
        | null => exact absurd rfl present
        | _ => exact congrArg (Option.map _) isCell
      exact means_test names asks (fun _ => rfl) (fun _ => rfl) .compare nofun nofun

mutual

/-- A filter is lowered, if at all, to what it means. -/
theorem gives_lowerFilter (filter : Filter) :
    Gives (context.lowerFilter filter) (context.Means filter) := by
  cases filter with
  | all => exact gives_pure ⟨fun _ => rfl, nofun, iff_of_true rfl .all, nofun⟩
  | and clauses =>
      rw [lowerFilter]
      exact gives_bind (gives_lowerClauses clauses) fun lowered each => gives_pure (means_and each)
  | or clauses =>
      rw [lowerFilter]
      exact gives_bind (gives_lowerClauses clauses) fun lowered each => gives_pure (means_or each)
  | not clause =>
      rw [lowerFilter]
      refine gives_bind (gives_lowerFilter clause) fun result means => ?_
      cases result with
      | none => exact gives_throw
      | some predicate => exact gives_pure (means_not means)
  | compare comparison ref value =>
      rw [lowerFilter]
      exact gives_bind (gives_lowerCompare comparison ref value) fun predicate means =>
        gives_pure means
  | between ref least greatest =>
      rw [lowerFilter]
      refine gives_bind (gives_resolve "filter" ref) fun field names => ?_
      refine gives_bind (gives_lift fun cell typed => cellOf?_of_typedScalar typed) fun low isLow => ?_
      refine gives_bind (gives_lift fun cell typed => cellOf?_of_typedScalar typed) fun high isHigh =>
        gives_pure ?_
      have asks : field.rangeTest? least greatest = some (.between low high) := by
        simp only [PlanField.rangeTest?, isLow, isHigh]
      exact means_test names asks (fun _ => rfl) (fun _ => rfl) .between nofun nofun
  | isNull ref =>
      rw [lowerFilter]
      exact gives_bind (gives_resolve "filter" ref) fun field names =>
        gives_pure (means_test names rfl (fun _ => rfl) (fun _ => rfl) .isNull nofun nofun)
  | notNull ref =>
      rw [lowerFilter]
      exact gives_bind (gives_resolve "filter" ref) fun field names =>
        gives_pure (means_test names rfl (fun _ => rfl) (fun _ => rfl) .isNull nofun nofun)
  | startsWith ref value =>
      rw [lowerFilter]
      exact gives_bind (gives_resolve "filter" ref) fun field names =>
        gives_pure (means_test names rfl (fun _ => rfl) (fun _ => rfl) .startsWith nofun nofun)
  | contains ref value =>
      rw [lowerFilter]
      exact gives_bind (gives_resolve "filter" ref) fun field names =>
        gives_pure (means_test names rfl (fun _ => rfl) (fun _ => rfl) .contains nofun nofun)

theorem gives_lowerClauses (clauses : List Filter) :
    Gives (context.lowerClauses clauses) (List.Forall₂ context.Means clauses) := by
  cases clauses with
  | nil => exact gives_pure .nil
  | cons clause rest =>
      rw [lowerClauses]
      refine gives_bind (gives_lowerFilter clause) fun first means => ?_
      exact gives_bind (gives_lowerClauses rest) fun others each => gives_pure (.cons means each)

end

/-- On each record a lowered filter has the truth that its tests give it there. -/
theorem truth_of_lowerFilter {filter : Filter} {joins after : List PlanJoin} {predicate : Predicate}
    (lowered : context.lowerFilter filter joins = .ok (some predicate, after))
    (value : PlanField → Cell) :
    predicate.truth value =
      context.meaning (fun field test => test.truth (value field)) filter := by
  have means := gives_lowerFilter filter joins _ after lowered
  rw [← Predicate.judged_truth]
  exact means.truth _

/-- What a filter is lowered to means what the filter means, whatever truth its tests have. It is
nothing for just the filters that match every record, and those cannot be negated. -/
theorem lowerFilter_keeps_meaning {filter : Filter} {joins after : List PlanJoin}
    {result : Option Predicate}
    (lowered : context.lowerFilter filter joins = .ok (result, after)) :
    (result = none → ∀ judge : Judge, context.meaning judge filter = .yes) ∧
      (∀ predicate, result = some predicate →
        predicate.Compact ∧
          ∀ judge : Judge, predicate.judged judge = context.meaning judge filter) ∧
      (result = none ↔ filter.MatchesAll) ∧ ¬ filter.NegatesAll ∧
      (result = none → context.lowerFilter (.not filter) joins =
        .error (.invalidQuery "`not` applied to a match-all filter")) := by
  have means := gives_lowerFilter filter joins result after lowered
  refine ⟨?_, ?_, means.absent, means.lawful, ?_⟩
  · rintro rfl judge
    exact (means.truth judge).symm
  · rintro predicate rfl
    exact ⟨means.compact predicate rfl, means.truth⟩
  · rintro rfl
    rw [lowerFilter]
    change (context.lowerFilter filter joins >>= _) = _
    rw [lowered]
    rfl

end Lowering

end CompileContext

/-- Venues without a price, or of another category than the third. The conditions around that are
met by every venue. -/
def elsewhereOrUnpriced : Filter :=
  .and [.all, .or [.not (.compare .equal (.through 4 1) (.whole 3)),
    .compare .equal (.direct 5) .null], .or [], .or [.isNull (.direct 5), .and []]]

/-- The venues as the source of a query. -/
def venueContext : CompileContext where
  catalog := venueCatalog.catalog
  capabilities := .relational .upperCase
  source := ⟨2, 1, "venues", none⟩

theorem elsewhereOrUnpriced_keeps_meaning :
    ∃ predicate after,
      venueContext.lowerFilter elsewhereOrUnpriced [] = .ok (some predicate, after) ∧
        after.length = 1 ∧ predicate.Compact ∧
        (∀ judge : Judge,
          predicate.judged judge = venueContext.meaning judge elsewhereOrUnpriced) ∧
        ¬ elsewhereOrUnpriced.MatchesAll := by
  have lowers : ((venueContext.lowerFilter elsewhereOrUnpriced []).map fun outcome =>
      (outcome.1.isSome, outcome.2.length)) = .ok (true, 1) := by
    cbv
  obtain ⟨⟨result, after⟩, lowered, sizes⟩ := Outcome.map_eq_ok.mp lowers
  obtain ⟨isSome, joined⟩ := Prod.mk.inj sizes
  obtain ⟨predicate, rfl⟩ := Option.isSome_iff_exists.mp isSome
  obtain ⟨_, present, absent, _, _⟩ := CompileContext.lowerFilter_keeps_meaning lowered
  obtain ⟨compact, sameTruth⟩ := present predicate rfl
  refine ⟨predicate, after, lowered, joined, compact, sameTruth, fun every => ?_⟩
  exact Option.some_ne_none predicate (absent.mpr every)

end CrossQuery
