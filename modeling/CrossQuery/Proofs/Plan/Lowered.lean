import CrossQuery.Proofs.Outcome
import CrossQuery.Proofs.Plan.Local
import CrossQuery.Proofs.Predicate.Portable

/-!
# What queries are lowered to

The parts of the plan of a portable query name known fields only, and its filter is a portable
predicate.
-/

set_option autoImplicit false

namespace CrossQuery

namespace BaseType

/-- A value that a field of a base type is compared with in a request. Texts stand for dates and
timestamps, whose years must have four digits. -/
inductive Takes : BaseType → Json → Prop where
  | null {type : BaseType} : Takes type .null
  | integer {type : BaseType} {value : Int} :
      type = .integer ∨ type = .bigInteger → Cell.fitsInt64 value = true →
      Takes type (.whole value)
  | boolean (value : Bool) : Takes .boolean (.bool value)
  | text (value : String) : Takes .text (.string value)
  | date {text : String} :
      (∀ date, Calendar.readDate? text.toList = some date → date.HasPlainYear) →
      Takes .date (.string text)
  | timestamp {text : String} :
      (∀ timestamp, Calendar.readTimestamp? text.toList = some timestamp →
        timestamp.date.HasPlainYear) →
      Takes .timestamp (.string text)

theorem compares_integer {type : BaseType} {value : Int}
    (isInteger : type = .integer ∨ type = .bigInteger) (fits : Cell.fitsInt64 value = true) :
    type.Compares (.int64 (Int64.ofInt value)) := by
  have same : Cell.ofJson (.whole value) = .int64 (Int64.ofInt value) := by
    simp [Cell.ofJson, fits]
  have isValue : (Cell.int64 (Int64.ofInt value)).integer? = some value := by
    rw [← same]
    exact Cell.integer?_ofJson_whole fits
  have admitted : type.Admits (.int64 (Int64.ofInt value)) := .integer isInteger isValue
  refine ⟨rfl, .integer _, ?_, fun cell other => Cell.sameKind_of_admits other admitted rfl⟩
  rw [Cell.toJson_of_integer? isValue]
  exact .integer isValue fits

theorem compares_admitted {type : BaseType} {value : Cell} (admitted : type.Admits value)
    (present : value.isNull = false) (scalar : value.Scalar)
    (stored : value.Stored (some value.toJson)) : type.Compares value :=
  ⟨present, scalar, stored, fun _ other => Cell.sameKind_of_admits other admitted present⟩

end BaseType

theorem CompileContext.typedScalar_eq_ok {field : PlanField} {role : String} {value : Json} {cell : Cell}
    (typed : CompileContext.typedScalar field role value = .ok cell) :
    value.isNull = false ∧
      match field.field.baseType, (Cell.ofJson value).text? with
      | .date, some text => ∃ date, Calendar.readDate? text.toList = some date ∧ cell = .date date
      | .timestamp, some text => ∃ timestamp,
          Calendar.readTimestamp? text.toList = some timestamp ∧ cell = .timestamp timestamp
      | _, _ => cell = .ofJson value := by
  obtain ⟨read, isScalar, typed⟩ := Outcome.bind_eq_ok.mp typed
  have isRead : value.isNull = false ∧ read = .ofJson value := by
    cases value <;> cases isScalar <;> exact ⟨rfl, rfl⟩
  obtain ⟨present, rfl⟩ := isRead
  refine ⟨present, ?_⟩
  dsimp only at typed
  generalize (Cell.ofJson value).text? = shown at typed ⊢
  generalize field.field.baseType = type at typed ⊢
  cases type with
  | date =>
      cases shown with
      | none => cases typed; rfl
      | some text =>
          cases isDate : Calendar.readDate? text.toList with
          | none => simp only [isDate, Option.map_none] at typed; cases typed
          | some date =>
              simp only [isDate, Option.map_some] at typed
              cases typed
              exact ⟨date, isDate, rfl⟩
  | timestamp =>
      cases shown with
      | none => cases typed; rfl
      | some text =>
          cases isTimestamp : Calendar.readTimestamp? text.toList with
          | none => simp only [isTimestamp, Option.map_none] at typed; cases typed
          | some timestamp =>
              simp only [isTimestamp, Option.map_some] at typed
              cases typed
              exact ⟨timestamp, isTimestamp, rfl⟩
  | _ => cases shown <;> cases typed <;> rfl

namespace BaseType

/-- A field is compared with what a value is read as that it takes. -/
theorem Takes.compares {field : PlanField} {value : Json} (taken : field.field.baseType.Takes value)
    {role : String} {cell : Cell}
    (typed : CompileContext.typedScalar field role value = .ok cell) :
    field.field.baseType.Compares cell := by
  obtain ⟨present, isCell⟩ := CompileContext.typedScalar_eq_ok typed
  generalize field.field.baseType = type at taken isCell
  cases taken with
  | null => cases present
  | @integer _ value isInteger fits =>
      have whole : Cell.ofJson (.whole value) = .int64 (Int64.ofInt value) := by
        simp [Cell.ofJson, fits]
      rw [whole] at isCell
      have same : cell = .int64 (Int64.ofInt value) := by
        rcases isInteger with rfl | rfl <;> exact isCell
      exact same ▸ compares_integer isInteger fits
  | boolean value =>
      obtain rfl : cell = .bool value := isCell
      exact compares_admitted (.boolean value) rfl (.boolean value) (.boolean value)
  | text value =>
      obtain rfl : cell = .text value := isCell
      exact compares_admitted (.text value) rfl (.text value) (.text value)
  | date plain =>
      obtain ⟨date, isDate, rfl⟩ := isCell
      have isPlain := plain date isDate
      exact compares_admitted (.date isPlain) rfl (.date date) (.date isPlain)
  | timestamp plain =>
      obtain ⟨timestamp, isTimestamp, rfl⟩ := isCell
      have isPlain := plain timestamp isTimestamp
      exact compares_admitted (.timestamp isPlain) rfl (.timestamp timestamp)
        (.timestamp isPlain)

end BaseType

/-- A filter that both stores understand alike: without negations and foreign keys, on values that
the fields take. -/
inductive Filter.Portable (catalog : Catalog) : Filter → Prop where
  | all : Portable catalog .all
  | and {clauses : List Filter} :
      (∀ clause ∈ clauses, Portable catalog clause) → Portable catalog (.and clauses)
  | or {clauses : List Filter} :
      (∀ clause ∈ clauses, Portable catalog clause) → Portable catalog (.or clauses)
  | compare {comparison : Comparison} {id : Int} {value : Json} :
      (∀ field, catalog.field id = .ok field → field.baseType.Takes value) →
      Portable catalog (.compare comparison (.direct id) value)
  | between {id : Int} {least greatest : Json} :
      (∀ field, catalog.field id = .ok field →
        field.baseType.Takes least ∧ field.baseType.Takes greatest) →
      Portable catalog (.between (.direct id) least greatest)
  | isNull {id : Int} : Portable catalog (.isNull (.direct id))
  | notNull {id : Int} : Portable catalog (.notNull (.direct id))
  | startsWith {id : Int} {value : String} :
      (∀ field, catalog.field id = .ok field → field.baseType.ShowsText) →
      Portable catalog (.startsWith (.direct id) value)
  | contains {id : Int} {value : String} :
      (∀ field, catalog.field id = .ok field → field.baseType.ShowsText) →
      Portable catalog (.contains (.direct id) value)

theorem Filter.Portable.isLocal {catalog : Catalog} {filter : Filter}
    (portable : filter.Portable catalog) : filter.IsLocal := by
  induction portable with
  | all => exact .all
  | and _ ih => exact .and ih
  | or _ ih => exact .or ih
  | compare => exact .compare (.direct _)
  | between => exact .between (.direct _)
  | isNull => exact .isNull (.direct _)
  | notNull => exact .notNull (.direct _)
  | startsWith => exact .startsWith (.direct _)
  | contains => exact .contains (.direct _)

namespace CompileContext

/-- A run of two steps goes on with what the first one results in. -/
theorem exists_of_bind_ok {α β : Type} {step : CompileM α} {next : α → CompileM β}
    {joins after : List PlanJoin} {result : β}
    (done : (step >>= next) joins = .ok (result, after)) :
    ∃ value middle, step joins = .ok (value, middle) ∧ next value middle = .ok (result, after) := by
  obtain ⟨⟨value, middle⟩, stepDone, restDone⟩ := Outcome.bind_eq_ok.mp done
  exact ⟨value, middle, stepDone, restDone⟩

/-- A run behind a check has passed the check. -/
theorem of_check_ok {α : Type} {fails : Prop} [Decidable fails] {failure : Failure}
    {next : Unit → CompileM α} {joins after : List PlanJoin} {result : α}
    (done : (if fails then throw failure >>= next else next ()) joins = .ok (result, after)) :
    ¬fails ∧ next () joins = .ok (result, after) := by
  by_cases failed : fails
  · rw [if_pos failed] at done
    cases done
  · rw [if_neg failed] at done
    exact ⟨failed, done⟩

/-- A step of a compilation that leaves the joins as they are, and whose result is as described. -/
def Yields {α : Type} (joins : List PlanJoin) (step : CompileM α) (described : α → Prop) : Prop :=
  ∀ result after, step joins = .ok (result, after) → after = joins ∧ described result

section Steps

variable {α β : Type} {joins : List PlanJoin} {described : α → Prop} {other : β → Prop}

theorem yields_pure {value : α} (fact : described value) : Yields joins (pure value) described := by
  rintro result after done
  cases done
  exact ⟨rfl, fact⟩

theorem yields_throw {failure : Failure} : Yields joins (throw failure) described := by
  rintro result after done
  cases done

theorem yields_throw_bind {failure : Failure} {next : α → CompileM β} :
    Yields joins (throw failure >>= next) other := by
  rintro result after done
  cases done

theorem yields_bind {step : CompileM α} {next : α → CompileM β} (first : Yields joins step described)
    (rest : ∀ value, described value → Yields joins (next value) other) :
    Yields joins (step >>= next) other := by
  rintro result after done
  obtain ⟨⟨value, middle⟩, stepDone, restDone⟩ := Outcome.bind_eq_ok.mp done
  obtain ⟨rfl, fact⟩ := first value middle stepDone
  exact rest value fact result after restDone

theorem yields_lift {outcome : Except Failure α} (fact : ∀ value, outcome = .ok value → described value) :
    Yields joins (liftM outcome : CompileM α) described := by
  rintro result after done
  obtain ⟨value, isValue, same⟩ := Outcome.bind_eq_ok.mp done
  obtain ⟨rfl, rfl⟩ := Prod.mk.inj (Except.ok.inj same)
  exact ⟨rfl, fact _ isValue⟩

theorem yields_look {found : Except NotFound α} (fact : ∀ value, found = .ok value → described value) :
    Yields joins (look found) described := by
  cases found with
  | error missing => exact yields_throw
  | ok value => exact yields_pure (fact value rfl)

theorem Yields.imp {step : CompileM α} {weaker : α → Prop} (yields : Yields joins step described)
    (implies : ∀ value, described value → weaker value) : Yields joins step weaker := by
  intro result after done
  obtain ⟨same, fact⟩ := yields result after done
  exact ⟨same, implies result fact⟩

theorem yields_mapM {step : α → CompileM β} {items : List α}
    (each : ∀ item ∈ items, Yields joins (step item) other) :
    Yields joins (items.mapM step) fun results => ∀ result ∈ results, other result := by
  induction items with
  | nil => exact yields_pure fun result member => absurd member List.not_mem_nil
  | cons item rest ih =>
      rw [List.mapM_cons]
      refine yields_bind (each item List.mem_cons_self) fun first firstFact => ?_
      refine yields_bind (ih fun later member => each later (List.mem_cons_of_mem _ member)) ?_
      intro others otherFacts
      exact yields_pure (List.forall_mem_cons.mpr ⟨firstFact, otherFacts⟩)

end Steps

section Results

variable {α β : Type} {described : α → Prop} {other : β → Prop}

/-- A step of a compilation whose result is as described, whatever is joined before and after. -/
def Gives {α : Type} (step : CompileM α) (described : α → Prop) : Prop :=
  ∀ joins result after, step joins = .ok (result, after) → described result

theorem gives_pure {value : α} (fact : described value) : Gives (pure value) described := by
  rintro joins result after done
  cases done
  exact fact

theorem gives_throw {failure : Failure} : Gives (throw failure) described := by
  rintro joins result after done
  cases done

theorem gives_check {fails : Prop} [Decidable fails] {failure : Failure}
    {next : Unit → CompileM β} (rest : ¬fails → Gives (next ()) other) :
    Gives (if fails then throw failure >>= next else next ()) other := by
  by_cases failed : fails
  · rw [if_pos failed]
    rintro joins result after done
    cases done
  · rw [if_neg failed]
    exact rest failed

theorem gives_bind {step : CompileM α} {next : α → CompileM β} (first : Gives step described)
    (rest : ∀ value, described value → Gives (next value) other) : Gives (step >>= next) other := by
  rintro joins result after done
  obtain ⟨⟨value, middle⟩, stepDone, restDone⟩ := Outcome.bind_eq_ok.mp done
  exact rest value (first joins value middle stepDone) middle result after restDone

theorem gives_any (step : CompileM α) : Gives step fun _ => True :=
  fun _ _ _ _ => trivial

theorem gives_lift {outcome : Except Failure α}
    (fact : ∀ value, outcome = .ok value → described value) :
    Gives (liftM outcome : CompileM α) described := by
  rintro joins result after done
  obtain ⟨value, isValue, same⟩ := Outcome.bind_eq_ok.mp done
  obtain ⟨rfl, rfl⟩ := Prod.mk.inj (Except.ok.inj same)
  exact fact _ isValue

theorem gives_look (found : Except NotFound α) : Gives (look found) fun value => found = .ok value := by
  cases found with
  | error missing => exact gives_throw
  | ok value => exact gives_pure rfl

theorem gives_known {fact : Prop} {step : CompileM α} (known : fact) : Gives step fun _ => fact :=
  fun _ _ _ _ => known

/-- What a first step shows is not undone by the steps after it. -/
theorem gives_first {fact : Prop} {step : CompileM α} {next : α → CompileM β}
    (first : Gives step fun _ => fact) : Gives (step >>= next) fun _ => fact :=
  gives_bind first fun _ known => gives_known known

theorem Gives.imp {step : CompileM α} {weaker : α → Prop} (gives : Gives step described)
    (implies : ∀ result, described result → weaker result) : Gives step weaker :=
  fun joins result after done => implies result (gives joins result after done)

theorem Gives.and {step : CompileM α} {also : α → Prop} (first : Gives step described)
    (second : Gives step also) : Gives step fun result => described result ∧ also result :=
  fun joins result after done => ⟨first joins result after done, second joins result after done⟩

theorem gives_mapM {step : α → CompileM β} {taken : α → Prop} {items : List α}
    (each : ∀ item, Gives (step item) fun result => taken item ∧ other result) :
    Gives (items.mapM step) fun results =>
      (∀ item ∈ items, taken item) ∧ ∀ result ∈ results, other result := by
  induction items with
  | nil => exact gives_pure ⟨List.forall_mem_nil _, List.forall_mem_nil _⟩
  | cons item rest ih =>
      rw [List.mapM_cons]
      refine gives_bind (each item) fun first holds => ?_
      refine gives_bind ih fun others hold => ?_
      exact gives_pure
        ⟨List.forall_mem_cons.mpr ⟨holds.1, hold.1⟩, List.forall_mem_cons.mpr ⟨holds.2, hold.2⟩⟩

end Results

section Lowering

variable {context : CompileContext} {joins : List PlanJoin} {known : List PlanField}

/-- The fields of the source of a query are among those known. -/
structure Knows (context : CompileContext) (known : List PlanField) : Prop where
  found : ∀ id field, context.catalog.field id = .ok field → field.tableId = context.source.id →
    .direct field context.source ∈ known
  listed : ∀ fields, context.catalog.fields context.source.id = .ok fields →
    ∀ field ∈ fields, .direct field context.source ∈ known

theorem yields_resolve (knows : context.Knows known) (clause : String) (id : Int) :
    Yields joins (context.resolve clause (.direct id)) fun field =>
      context.catalog.field id = .ok field.field ∧ field ∈ known := by
  refine yields_bind (yields_look fun field found => found) fun field found => ?_
  split
  · next isHere => exact yields_pure ⟨found, knows.found id field found isHere⟩
  · exact yields_throw

theorem yields_lowerCompare (knows : context.Knows known) {id : Int} {value : Json}
    (taken : ∀ field, context.catalog.field id = .ok field → field.baseType.Takes value)
    (comparison : Comparison) :
    Yields joins (context.lowerCompare comparison (.direct id) value)
      (Predicate.Portable known) := by
  refine yields_bind (yields_resolve knows "filter" id) fun field ⟨found, isKnown⟩ => ?_
  split
  · split
    · exact yields_pure (.isNull isKnown)
    · exact yields_pure (.isNull isKnown)
    · exact yields_throw
  · refine yields_bind (yields_lift fun cell typed => typed) fun cell typed => ?_
    exact yields_pure (.compare isKnown ((taken _ found).compares typed))

theorem portable_conjunction {lowered : List (Option Predicate)}
    (each : ∀ result ∈ lowered, ∀ predicate, result = some predicate → predicate.Portable known) :
    ∀ predicate, conjunction (lowered.filterMap id) = some predicate →
      predicate.Portable known := by
  have all : ∀ clause ∈ lowered.filterMap id, clause.Portable known := by
    intro clause member
    obtain ⟨result, isResult, same⟩ := List.mem_filterMap.mp member
    exact each result isResult clause same
  intro predicate made
  unfold conjunction at made
  split at made
  · cases made
  · next clause only =>
      cases made
      exact all _ (by rw [only]; exact List.mem_singleton_self _)
  · cases made
    exact .and all

theorem portable_disjunction {lowered : List (Option Predicate)}
    (each : ∀ result ∈ lowered, ∀ predicate, result = some predicate → predicate.Portable known) :
    ∀ predicate, disjunction lowered = some predicate → predicate.Portable known := by
  have all : ∀ clause ∈ lowered.filterMap id, clause.Portable known := by
    intro clause member
    obtain ⟨result, isResult, same⟩ := List.mem_filterMap.mp member
    exact each result isResult clause same
  intro predicate made
  unfold disjunction at made
  split at made
  · cases made
  · split at made
    · next clause only =>
        cases made
        exact all _ (by rw [only]; exact List.mem_singleton_self _)
    · cases made
      exact .or all

theorem yields_lowerClauses {clauses : List Filter}
    (each : ∀ clause ∈ clauses, Yields joins (context.lowerFilter clause) fun result =>
      ∀ predicate, result = some predicate → predicate.Portable known) :
    Yields joins (context.lowerClauses clauses) fun lowered =>
      ∀ result ∈ lowered, ∀ predicate, result = some predicate → predicate.Portable known := by
  induction clauses with
  | nil => exact yields_pure fun result member => absurd member List.not_mem_nil
  | cons clause rest ih =>
      rw [lowerClauses]
      refine yields_bind (each clause List.mem_cons_self) fun first firstFact => ?_
      refine yields_bind (ih fun later member => each later (List.mem_cons_of_mem _ member)) ?_
      intro others otherFacts
      exact yields_pure (List.forall_mem_cons.mpr ⟨firstFact, otherFacts⟩)

/-- A portable filter is lowered to a portable predicate, if to any. -/
theorem yields_lowerFilter (knows : context.Knows known) {filter : Filter}
    (portable : filter.Portable context.catalog) :
    Yields joins (context.lowerFilter filter) fun result =>
      ∀ predicate, result = some predicate → predicate.Portable known := by
  have made {predicate : Predicate} (isPortable : predicate.Portable known) :
      ∀ result, some predicate = some result → result.Portable known := by
    intro result same
    cases same
    exact isPortable
  induction portable with
  | all => exact yields_pure fun result same => by cases same
  | and _ ih =>
      rw [lowerFilter]
      refine yields_bind (yields_lowerClauses ih) fun lowered each => ?_
      exact yields_pure (portable_conjunction each)
  | or _ ih =>
      rw [lowerFilter]
      refine yields_bind (yields_lowerClauses ih) fun lowered each => ?_
      exact yields_pure (portable_disjunction each)
  | compare taken =>
      rw [lowerFilter]
      refine yields_bind (yields_lowerCompare knows taken _) fun predicate isPortable => ?_
      exact yields_pure (made isPortable)
  | between taken =>
      rw [lowerFilter]
      refine yields_bind (yields_resolve knows "filter" _) fun field resolved => ?_
      obtain ⟨found, isKnown⟩ := resolved
      refine yields_bind (yields_lift fun cell typed => typed) fun least typedLeast => ?_
      refine yields_bind (yields_lift fun cell typed => typed) fun greatest typedGreatest => ?_
      obtain ⟨takenLeast, takenGreatest⟩ := taken _ found
      exact yields_pure (made (.between isKnown (takenLeast.compares typedLeast)
        (takenGreatest.compares typedGreatest)))
  | isNull =>
      rw [lowerFilter]
      refine yields_bind (yields_resolve knows "filter" _) fun field resolved => ?_
      obtain ⟨found, isKnown⟩ := resolved
      exact yields_pure (made (.isNull isKnown))
  | notNull =>
      rw [lowerFilter]
      refine yields_bind (yields_resolve knows "filter" _) fun field resolved => ?_
      obtain ⟨found, isKnown⟩ := resolved
      exact yields_pure (made (.isNull isKnown))
  | startsWith shows =>
      rw [lowerFilter]
      refine yields_bind (yields_resolve knows "filter" _) fun field resolved => ?_
      obtain ⟨found, isKnown⟩ := resolved
      exact yields_pure (made (.startsWith isKnown (shows _ found)))
  | contains shows =>
      rw [lowerFilter]
      refine yields_bind (yields_resolve knows "filter" _) fun field resolved => ?_
      obtain ⟨found, isKnown⟩ := resolved
      exact yields_pure (made (.contains isKnown (shows _ found)))

end Lowering

end CompileContext

end CrossQuery
