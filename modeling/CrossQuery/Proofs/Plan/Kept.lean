import CrossQuery.Proofs.Plan.Meaning

/-!
# What filters keep

A lowered filter tests the references of the filter, except where lowering drops something: a
disjunction with a clause that matches every record is lowered to nothing, after all of its clauses
have been lowered.
-/

set_option autoImplicit false

namespace CrossQuery

namespace Filter

/-- A reference that is left of a filter once it is lowered. A disjunction loses all of its clauses
if one of them matches every record. -/
inductive Keeps : Filter → FieldRef → Prop where
  | and {clauses : List Filter} {clause : Filter} {ref : FieldRef} :
      clause ∈ clauses → Keeps clause ref → Keeps (.and clauses) ref
  | or {clauses : List Filter} {clause : Filter} {ref : FieldRef} :
      (∀ other ∈ clauses, ¬ other.MatchesAll) → clause ∈ clauses → Keeps clause ref →
      Keeps (.or clauses) ref
  | not {clause : Filter} {ref : FieldRef} : Keeps clause ref → Keeps (.not clause) ref
  | compare {comparison : Comparison} {ref : FieldRef} {value : Json} :
      Keeps (.compare comparison ref value) ref
  | between {ref : FieldRef} {least greatest : Json} : Keeps (.between ref least greatest) ref
  | isNull {ref : FieldRef} : Keeps (.isNull ref) ref
  | notNull {ref : FieldRef} : Keeps (.notNull ref) ref
  | startsWith {ref : FieldRef} {value : String} : Keeps (.startsWith ref value) ref
  | contains {ref : FieldRef} {value : String} : Keeps (.contains ref value) ref

end Filter

/-- The references that the fields of a predicate answer, if there is one. -/
def Predicate.refs (filter : Option Predicate) : List FieldRef :=
  ((filter.map Predicate.fields).getD []).map PlanField.ref

@[simp] theorem Predicate.refs_none : Predicate.refs none = [] := rfl

@[simp] theorem Predicate.refs_some (predicate : Predicate) :
    Predicate.refs (some predicate) = predicate.fields.map PlanField.ref := rfl

namespace CompileContext

variable {context : CompileContext} {clauses : List Filter} {lowered : List (Option Predicate)}
  {filter : Filter} {result : Option Predicate} {ref : FieldRef}

/-- What a filter is lowered to tests just the references that the filter keeps. -/
def Leaves (filter : Filter) (result : Option Predicate) : Prop :=
  ∀ ref, ref ∈ Predicate.refs result ↔ filter.Keeps ref

theorem leaves_test {predicate : Predicate} {field : PlanField}
    (tests : predicate.fields = [field]) (answers : field.ref = ref)
    (keeps : ∀ other, filter.Keeps other ↔ other = ref) : Leaves filter (some predicate) := by
  intro other
  simp [tests, answers, keeps]

section Connectives

theorem mem_fieldsOfEach_ref {clauses : List Predicate} :
    ref ∈ (Predicate.fieldsOfEach clauses).map PlanField.ref ↔
      ∃ clause ∈ clauses, ref ∈ Predicate.refs (some clause) := by
  simp only [List.mem_map, Predicate.mem_fieldsOfEach, Predicate.refs_some]
  exact ⟨fun ⟨field, ⟨clause, member, tested⟩, same⟩ => ⟨clause, member, field, tested, same⟩,
    fun ⟨clause, member, field, tested, same⟩ => ⟨field, ⟨clause, member, tested⟩, same⟩⟩

theorem mem_refs_conjunction {clauses : List Predicate} :
    ref ∈ Predicate.refs (conjunction clauses) ↔
      ∃ clause ∈ clauses, ref ∈ Predicate.refs (some clause) := by
  match clauses with
  | [] => simp [conjunction]
  | [clause] => simp [conjunction]
  | _ :: _ :: _ => exact mem_fieldsOfEach_ref

/-- A disjunction without an absent clause tests what its clauses test. -/
theorem mem_refs_disjunction (present : none ∉ lowered) :
    ref ∈ Predicate.refs (disjunction lowered) ↔
      ∃ clause ∈ lowered.filterMap id, ref ∈ Predicate.refs (some clause) := by
  unfold disjunction
  split
  · next absent =>
      have isEmpty : lowered = [] := by
        rcases Bool.or_eq_true_iff.mp absent with isEmpty | isAbsent
        · exact List.isEmpty_iff.mp isEmpty
        · obtain ⟨other, member, isNone⟩ := List.any_eq_true.mp isAbsent
          rw [Option.isNone_iff_eq_none.mp isNone] at member
          exact absurd member present
      simp [isEmpty]
  · split
    · next clause only => simp only [only, List.mem_singleton, exists_eq_left]
    · exact mem_fieldsOfEach_ref

/-- An absent clause tests nothing. -/
theorem exists_mem_filterMap_iff :
    (∃ clause ∈ lowered.filterMap id, ref ∈ Predicate.refs (some clause)) ↔
      ∃ result ∈ lowered, ref ∈ Predicate.refs result := by
  constructor
  · rintro ⟨clause, member, tested⟩
    obtain ⟨result, isResult, same⟩ := List.mem_filterMap.mp member
    exact ⟨result, isResult, (show result = some clause from same) ▸ tested⟩
  · rintro ⟨result, member, tested⟩
    cases result with
    | none => cases tested
    | some clause => exact ⟨clause, List.mem_filterMap.mpr ⟨_, member, rfl⟩, tested⟩

theorem exists_refs_iff (each : List.Forall₂ Leaves clauses lowered) :
    (∃ result ∈ lowered, ref ∈ Predicate.refs result) ↔ ∃ clause ∈ clauses, clause.Keeps ref := by
  induction each with
  | nil => simp
  | cons leaves _ ih => rw [List.exists_mem_cons_iff, List.exists_mem_cons_iff, ih, leaves]

theorem leaves_and (each : List.Forall₂ Leaves clauses lowered) :
    Leaves (.and clauses) (conjunction (lowered.filterMap id)) := by
  intro ref
  rw [mem_refs_conjunction, exists_mem_filterMap_iff, exists_refs_iff each]
  constructor
  · exact fun ⟨clause, member, keeps⟩ => .and member keeps
  · exact fun | .and member keeps => ⟨_, member, keeps⟩

theorem leaves_or (each : List.Forall₂ Leaves clauses lowered)
    (means : List.Forall₂ context.Means clauses lowered) :
    Leaves (.or clauses) (disjunction lowered) := by
  intro ref
  by_cases absent : none ∈ lowered
  · have dropped : disjunction lowered = none := by
      rcases disjunction_eq lowered with ⟨isNone, _⟩ | ⟨_, present, _⟩
      · exact isNone
      · exact absurd absent present
    rw [dropped]
    refine iff_of_false List.not_mem_nil fun keeps => ?_
    cases keeps with
    | or tests =>
        obtain ⟨clause, member, matchesAll⟩ := (any_absent_iff means).mp absent
        exact tests clause member matchesAll
  · have tests : ∀ clause ∈ clauses, ¬ clause.MatchesAll := fun clause member matchesAll =>
      absent ((any_absent_iff means).mpr ⟨clause, member, matchesAll⟩)
    rw [mem_refs_disjunction absent, exists_mem_filterMap_iff, exists_refs_iff each]
    constructor
    · exact fun ⟨clause, member, keeps⟩ => .or tests member keeps
    · exact fun | .or _ member keeps => ⟨_, member, keeps⟩

end Connectives

/-- The field that a reference names answers it. -/
theorem ref_of_fieldOf? {field : PlanField} (names : context.fieldOf? ref = some field) :
    field.ref = ref := by
  cases ref with
  | direct id =>
      simp only [fieldOf?] at names
      split at names
      · next found =>
          cases names
          exact congrArg _ (CatalogBuilder.mem_of_field_eq_ok found).2
      · cases names
  | through keyId destinationId =>
      simp only [fieldOf?] at names
      split at names
      · next isKey isDestination =>
          split at names
          · cases names
            dsimp only [PlanField.ref]
            rw [(CatalogBuilder.mem_of_field_eq_ok isKey).2,
              (CatalogBuilder.mem_of_field_eq_ok isDestination).2]
          · cases names
      · cases names

theorem gives_ref (clause : String) (ref : FieldRef) :
    Gives (context.resolve clause ref) fun field => field.ref = ref :=
  (gives_resolve clause ref).imp fun _ => ref_of_fieldOf?

theorem gives_leaves_of_lowerCompare (comparison : Comparison) (ref : FieldRef) (value : Json) :
    Gives (context.lowerCompare comparison ref value) fun predicate =>
      Leaves (.compare comparison ref value) (some predicate) := by
  have keeps (other : FieldRef) : (Filter.compare comparison ref value).Keeps other ↔ other = ref :=
    ⟨fun | .compare => rfl, fun same => same ▸ .compare⟩
  refine gives_bind (gives_ref "filter" ref) fun field answers => ?_
  split
  · split
    · exact gives_pure (leaves_test rfl answers keeps)
    · exact gives_pure (leaves_test rfl answers keeps)
    · exact gives_throw
  · exact gives_bind (gives_any _) fun cell _ => gives_pure (leaves_test rfl answers keeps)

mutual

/-- What a filter is lowered to, if at all, tests the references that the filter keeps. -/
theorem gives_leaves_of_lowerFilter (filter : Filter) :
    Gives (context.lowerFilter filter) (Leaves filter) := by
  cases filter with
  | all => exact gives_pure fun ref => iff_of_false List.not_mem_nil nofun
  | and clauses =>
      rw [lowerFilter]
      exact gives_bind (gives_leaves_of_lowerClauses clauses) fun lowered each =>
        gives_pure (leaves_and each)
  | or clauses =>
      rw [lowerFilter]
      refine gives_bind ((gives_leaves_of_lowerClauses clauses).and (gives_lowerClauses clauses))
        fun lowered each => ?_
      exact gives_pure (leaves_or each.1 each.2)
  | not clause =>
      rw [lowerFilter]
      refine gives_bind (gives_leaves_of_lowerFilter clause) fun result leaves => ?_
      cases result with
      | none => exact gives_throw
      | some predicate =>
          refine gives_pure fun ref => (leaves ref).trans ?_
          exact ⟨.not, fun | .not keeps => keeps⟩
  | compare comparison ref value =>
      rw [lowerFilter]
      exact gives_bind (gives_leaves_of_lowerCompare comparison ref value) fun predicate leaves =>
        gives_pure leaves
  | between ref least greatest =>
      rw [lowerFilter]
      refine gives_bind (gives_ref "filter" ref) fun field answers => ?_
      refine gives_bind (gives_any _) fun _ _ => gives_bind (gives_any _) fun _ _ => ?_
      exact gives_pure (leaves_test rfl answers fun other =>
        ⟨fun | .between => rfl, fun same => same ▸ .between⟩)
  | isNull ref =>
      rw [lowerFilter]
      exact gives_bind (gives_ref "filter" ref) fun field answers =>
        gives_pure (leaves_test rfl answers fun other =>
          ⟨fun | .isNull => rfl, fun same => same ▸ .isNull⟩)
  | notNull ref =>
      rw [lowerFilter]
      exact gives_bind (gives_ref "filter" ref) fun field answers =>
        gives_pure (leaves_test rfl answers fun other =>
          ⟨fun | .notNull => rfl, fun same => same ▸ .notNull⟩)
  | startsWith ref value =>
      rw [lowerFilter]
      exact gives_bind (gives_ref "filter" ref) fun field answers =>
        gives_pure (leaves_test rfl answers fun other =>
          ⟨fun | .startsWith => rfl, fun same => same ▸ .startsWith⟩)
  | contains ref value =>
      rw [lowerFilter]
      exact gives_bind (gives_ref "filter" ref) fun field answers =>
        gives_pure (leaves_test rfl answers fun other =>
          ⟨fun | .contains => rfl, fun same => same ▸ .contains⟩)

theorem gives_leaves_of_lowerClauses (clauses : List Filter) :
    Gives (context.lowerClauses clauses) (List.Forall₂ Leaves clauses) := by
  cases clauses with
  | nil => exact gives_pure .nil
  | cons clause rest =>
      rw [lowerClauses]
      refine gives_bind (gives_leaves_of_lowerFilter clause) fun first leaves => ?_
      exact gives_bind (gives_leaves_of_lowerClauses rest) fun others each =>
        gives_pure (.cons leaves each)

end

/-- The filter of a plan tests the references that the filter of the query keeps. -/
theorem gives_leaves_of_compile (databaseId : Int) (query : Query) (maxRows : Option Nat) :
    Gives (context.compile databaseId query maxRows) fun plan => ∀ ref,
      ref ∈ Predicate.refs plan.filter ↔
        ∃ filter, query.filter = some filter ∧ filter.Keeps ref := by
  have finishes (result : Option Predicate) :
      Gives (context.finish databaseId query maxRows result) fun plan => plan.filter = result :=
    fun _ _ _ => filter_of_finish
  rw [compile_eq_finish]
  cases query.filter with
  | none =>
      have unfiltered : Gives (pure none : CompileM (Option Predicate)) (· = none) := gives_pure rfl
      refine gives_bind unfiltered fun result isNone => ?_
      refine (finishes result).imp fun plan isFilter ref => ?_
      simp [isFilter, isNone]
  | some filter =>
      refine gives_bind (gives_leaves_of_lowerFilter filter) fun result leaves => ?_
      refine (finishes result).imp fun plan isFilter ref => ?_
      simp [isFilter, leaves ref]

end CompileContext

end CrossQuery
