import CrossQuery.Proofs.Catalog.Built
import CrossQuery.Proofs.Plan.Portable

/-!
# References as they are resolved

Resolving a reference may add a join, and no step of a compilation takes one away. What a step
resolves stays resolved, and the joins stay in order: each by a foreign key of its own, onto the
primary key of its table.
-/

set_option autoImplicit false

namespace CrossQuery

/-- The reference that a field answers. -/
def PlanField.ref (field : PlanField) : FieldRef :=
  match field.via with
  | none => .direct field.field.id
  | some key => .through key.id field.field.id

/-- Two fields are the same one if they answer the same reference. -/
theorem PlanField.sameAs_iff {left right : PlanField} :
    left.sameAs right = true ↔ left.ref = right.ref := by
  obtain ⟨field, table, via⟩ := left
  obtain ⟨other, otherTable, otherVia⟩ := right
  cases via <;> cases otherVia <;> simp [sameAs, ref, and_comm]

theorem PlanField.any_sameAs_iff {fields : List PlanField} {field : PlanField} :
    (fields.any fun other => other.sameAs field) = true ↔ field.ref ∈ fields.map PlanField.ref := by
  simp only [List.any_eq_true, sameAs_iff, List.mem_map]

namespace CompileContext

/-- A join by a foreign key of the source, onto the primary key of the table it refers to. -/
structure Joins (context : CompileContext) (join : PlanJoin) : Prop where
  key : context.catalog.field join.key.id = .ok join.key
  ofSource : join.key.tableId = context.source.id
  refers : join.key.target = some join.target.id
  target : context.catalog.table join.target.id = .ok join.target
  targetKey : context.catalog.primaryKey join.target.id = .ok (some join.targetKey)

/-- Joins by different foreign keys, if the store has any. -/
structure Collected (context : CompileContext) (joins : List PlanJoin) : Prop where
  each : ∀ join ∈ joins, context.Joins join
  distinct : (joins.map fun join => join.key.id).Nodup
  supported : context.capabilities.supportsForeignKeys = false → joins = []

/-- A field of the source, or of a table that is joined to it. -/
inductive Resolved (context : CompileContext) (joins : List PlanJoin) : PlanField → Prop where
  | direct {field : Field} :
      context.catalog.field field.id = .ok field → field.tableId = context.source.id →
      Resolved context joins (.direct field context.source)
  | through {field : Field} {join : PlanJoin} :
      join ∈ joins → context.catalog.field field.id = .ok field →
      field.tableId = join.target.id → Resolved context joins ⟨field, join.target, some join.key⟩

/-- A step that leaves collected joins collected, loses none, and whose result is as described. -/
def Extends {α : Type} (context : CompileContext) (joins : List PlanJoin) (step : CompileM α)
    (described : List PlanJoin → α → Prop) : Prop :=
  context.Collected joins → ∀ result after, step joins = .ok (result, after) →
    context.Collected after ∧ joins ⊆ after ∧ described after result

variable {context : CompileContext} {joins more : List PlanJoin}

theorem collected_nil : context.Collected [] :=
  ⟨fun _ member => absurd member List.not_mem_nil, List.nodup_nil, fun _ => rfl⟩

theorem Resolved.mono {field : PlanField} (resolved : context.Resolved joins field)
    (subset : joins ⊆ more) : context.Resolved more field := by
  cases resolved with
  | direct found own => exact .direct found own
  | through member found own => exact .through (subset member) found own

/-- A reference is resolved to one field. -/
theorem Resolved.eq_of_ref {left right : PlanField} (collected : context.Collected joins)
    (isLeft : context.Resolved joins left) (isRight : context.Resolved joins right)
    (same : left.ref = right.ref) : left = right := by
  cases isLeft with
  | direct found own =>
      cases isRight with
      | direct foundOther ownOther =>
          have sameId := FieldRef.direct.inj same
          dsimp only [PlanField.direct] at sameId
          rw [sameId] at found
          cases found.symm.trans foundOther
          rfl
      | through => cases same
  | through member found own =>
      cases isRight with
      | direct => cases same
      | through memberOther foundOther ownOther =>
          obtain ⟨sameKey, sameId⟩ := FieldRef.through.inj same
          dsimp only at sameKey sameId
          have sameJoin := eq_of_key_eq collected.distinct member memberOther sameKey
          rw [sameId] at found
          cases found.symm.trans foundOther
          rw [sameJoin]

section Steps

variable {α β : Type} {described : List PlanJoin → α → Prop} {other : List PlanJoin → β → Prop}

theorem extends_pure {value : α} (fact : described joins value) :
    context.Extends joins (pure value) described := by
  intro collected result after done
  cases done
  exact ⟨collected, List.Subset.refl _, fact⟩

theorem extends_throw {failure : Failure} : context.Extends joins (throw failure) described := by
  intro collected result after done
  cases done

theorem extends_bind {step : CompileM α} {next : α → CompileM β}
    (first : context.Extends joins step described)
    (rest : ∀ value more, joins ⊆ more → described more value →
      context.Extends more (next value) other) :
    context.Extends joins (step >>= next) other := by
  intro collected result after done
  obtain ⟨⟨value, middle⟩, stepDone, restDone⟩ := Outcome.bind_eq_ok.mp done
  obtain ⟨stillCollected, kept, fact⟩ := first collected value middle stepDone
  obtain ⟨lastCollected, keptLater, lastFact⟩ :=
    rest value middle kept fact stillCollected result after restDone
  exact ⟨lastCollected, List.Subset.trans kept keptLater, lastFact⟩

/-- Behind a check that does not fail. -/
theorem extends_check {fails : Prop} [Decidable fails] {failure : Failure}
    {next : Unit → CompileM β} (rest : ¬fails → context.Extends joins (next ()) other) :
    context.Extends joins (if fails then throw failure >>= next else next ()) other := by
  by_cases failed : fails
  · rw [if_pos failed]
    intro collected result after done
    cases done
  · rw [if_neg failed]
    exact rest failed

/-- Behind a step that leaves the joins as they are. -/
theorem extends_yields_bind {step : CompileM α} {next : α → CompileM β} {fact : α → Prop}
    (first : Yields joins step fact)
    (rest : ∀ value, fact value → context.Extends joins (next value) other) :
    context.Extends joins (step >>= next) other := by
  intro collected result after done
  obtain ⟨⟨value, middle⟩, stepDone, restDone⟩ := Outcome.bind_eq_ok.mp done
  obtain ⟨rfl, holds⟩ := first value middle stepDone
  exact rest value holds collected result after restDone

theorem Extends.imp {step : CompileM α} {weaker : List PlanJoin → α → Prop}
    (steps : context.Extends joins step described)
    (implies : ∀ after result, joins ⊆ after → context.Collected after → described after result →
      weaker after result) : context.Extends joins step weaker := by
  intro collected result after done
  obtain ⟨stillCollected, kept, fact⟩ := steps collected result after done
  exact ⟨stillCollected, kept, implies after result kept stillCollected fact⟩

theorem yields_found {found : Except NotFound α} :
    Yields joins (look found) fun value => found = .ok value :=
  yields_look fun _ isFound => isFound

end Steps

theorem extends_set {join : PlanJoin} (isJoin : context.Joins join)
    (supported : context.capabilities.supportsForeignKeys = true)
    (fresh : join.key.id ∉ joins.map fun other => other.key.id) :
    context.Extends joins (set (joins ++ [join])) fun after _ => join ∈ after := by
  intro collected result after done
  cases done
  refine ⟨⟨?_, ?_, ?_⟩, List.subset_append_left _ _, by simp⟩
  · intro other member
    rcases List.mem_append.mp member with earlier | last
    · exact collected.each other earlier
    · exact List.mem_singleton.mp last ▸ isJoin
  · rw [List.map_append, List.map_singleton, List.nodup_append]
    refine ⟨collected.distinct, by simp, ?_⟩
    rintro id member last isLast rfl
    exact fresh (List.mem_singleton.mp isLast ▸ member)
  · intro unsupported
    rw [supported] at unsupported
    cases unsupported

/-- A join by a key that is known: the one that is there, or a new one. -/
theorem extends_addJoin {key : Field} {target : Table}
    (supported : context.capabilities.supportsForeignKeys = true)
    (known : context.catalog.field key.id = .ok key) (ofSource : key.tableId = context.source.id)
    (refers : key.target = some target.id)
    (isTarget : context.catalog.table target.id = .ok target) :
    context.Extends joins (context.addJoin key target) fun after _ =>
      ∃ join ∈ after, join.key = key ∧ join.target = target := by
  refine extends_yields_bind yields_get fun current isCurrent => ?_
  subst isCurrent
  split
  · next present =>
      obtain ⟨join, member, sameId⟩ := List.any_eq_true.mp present
      intro collected result after done
      cases done
      refine ⟨collected, List.Subset.refl _, join, member, ?_⟩
      have isJoin := collected.each join member
      have sameKey : join.key = key := by
        have found := isJoin.key
        rw [beq_iff_eq.mp sameId, known] at found
        exact (Except.ok.inj found).symm
      have sameTarget := isJoin.refers
      rw [sameKey, refers] at sameTarget
      have found := isJoin.target
      rw [← Option.some.inj sameTarget, isTarget] at found
      exact ⟨sameKey, (Except.ok.inj found).symm⟩
  · next absent =>
      refine extends_yields_bind yields_found fun targetKey isTargetKey => ?_
      cases targetKey with
      | none => exact extends_throw
      | some targetKey =>
          have isJoin : context.Joins ⟨key, target, targetKey⟩ :=
            ⟨known, ofSource, refers, isTarget, isTargetKey⟩
          refine (extends_set isJoin supported ?_).imp fun after _ _ _ member =>
            ⟨_, member, rfl, rfl⟩
          intro isId
          obtain ⟨other, isOther, same⟩ := List.mem_map.mp isId
          exact absent (List.any_eq_true.mpr ⟨other, isOther, beq_iff_eq.mpr same⟩)

/-- A reference is resolved to a field that answers it. -/
theorem extends_resolve (clause : String) (ref : FieldRef) :
    context.Extends joins (context.resolve clause ref) fun after field =>
      context.Resolved after field ∧ field.ref = ref := by
  cases ref with
  | direct id =>
      refine extends_yields_bind yields_found fun field found => ?_
      split
      · next own =>
          refine extends_pure ⟨.direct (Catalog.field_self found) own, ?_⟩
          exact congrArg _ (CatalogBuilder.mem_of_field_eq_ok found).2
      · exact extends_throw
  | through keyId id =>
      rw [resolve]
      refine extends_check fun isSupported => ?_
      have supported : context.capabilities.supportsForeignKeys = true := by
        simpa using isSupported
      refine extends_yields_bind yields_found fun key foundKey => ?_
      refine extends_check fun isOwn => ?_
      have own : key.tableId = context.source.id := not_not.mp isOwn
      cases refers : key.target with
      | none => exact extends_throw
      | some targetId =>
          refine extends_yields_bind yields_found fun field found => ?_
          refine extends_check fun isThere => ?_
          refine extends_yields_bind yields_found fun target foundTarget => ?_
          have sameTarget := (CatalogBuilder.mem_of_table_eq_ok foundTarget).2
          rw [← sameTarget] at refers foundTarget
          have there : field.tableId = target.id := (not_not.mp isThere).trans sameTarget.symm
          refine extends_bind (extends_addJoin supported (Catalog.field_self foundKey) own refers
            foundTarget) fun _ more _ isJoined => ?_
          obtain ⟨join, member, rfl, rfl⟩ := isJoined
          refine extends_pure ⟨.through member (Catalog.field_self found) there, ?_⟩
          dsimp only [PlanField.ref]
          rw [(CatalogBuilder.mem_of_field_eq_ok foundKey).2,
            (CatalogBuilder.mem_of_field_eq_ok found).2]

section Filters

/-- The fields of a predicate, if there is one, are resolved. -/
def ResolvedFilter (context : CompileContext) (joins : List PlanJoin)
    (filter : Option Predicate) : Prop :=
  ∀ predicate, filter = some predicate → ∀ field ∈ predicate.fields, context.Resolved joins field

theorem ResolvedFilter.mono {filter : Option Predicate}
    (resolved : context.ResolvedFilter joins filter) (subset : joins ⊆ more) :
    context.ResolvedFilter more filter :=
  fun predicate same field member => (resolved predicate same field member).mono subset

theorem resolvedFilter_some {predicate : Predicate}
    (resolved : ∀ field ∈ predicate.fields, context.Resolved joins field) :
    context.ResolvedFilter joins (some predicate) := by
  intro other same
  cases same
  exact resolved

theorem resolvedFilter_test {predicate : Predicate} {field : PlanField}
    (tests : predicate.fields = [field]) (resolved : context.Resolved joins field) :
    context.ResolvedFilter joins (some predicate) := by
  apply resolvedFilter_some
  rw [tests]
  exact fun other member => List.mem_singleton.mp member ▸ resolved

theorem resolved_of_filterMap {lowered : List (Option Predicate)}
    (each : ∀ filter ∈ lowered, context.ResolvedFilter joins filter) :
    ∀ clause ∈ lowered.filterMap id, ∀ field ∈ clause.fields, context.Resolved joins field := by
  intro clause member
  obtain ⟨filter, isFilter, same⟩ := List.mem_filterMap.mp member
  exact each filter isFilter clause same

theorem resolved_of_fieldsOfEach {clauses : List Predicate}
    (each : ∀ clause ∈ clauses, ∀ field ∈ clause.fields, context.Resolved joins field) :
    ∀ field ∈ Predicate.fieldsOfEach clauses, context.Resolved joins field := by
  intro field member
  obtain ⟨clause, isClause, tested⟩ := Predicate.mem_fieldsOfEach.mp member
  exact each clause isClause field tested

theorem resolvedFilter_conjunction {lowered : List (Option Predicate)}
    (each : ∀ filter ∈ lowered, context.ResolvedFilter joins filter) :
    context.ResolvedFilter joins (conjunction (lowered.filterMap id)) := by
  have resolved := resolved_of_filterMap each
  unfold conjunction
  split
  · exact fun predicate same => by cases same
  · next clause only =>
      rw [only] at resolved
      exact resolvedFilter_some (resolved clause (List.mem_singleton_self _))
  · exact resolvedFilter_some (resolved_of_fieldsOfEach resolved)

theorem resolvedFilter_disjunction {lowered : List (Option Predicate)}
    (each : ∀ filter ∈ lowered, context.ResolvedFilter joins filter) :
    context.ResolvedFilter joins (disjunction lowered) := by
  have resolved := resolved_of_filterMap each
  unfold disjunction
  split
  · exact fun predicate same => by cases same
  · split
    · next clause only =>
        rw [only] at resolved
        exact resolvedFilter_some (resolved clause (List.mem_singleton_self _))
    · exact resolvedFilter_some (resolved_of_fieldsOfEach resolved)

theorem extends_lowerCompare (comparison : Comparison) (ref : FieldRef) (value : Json) :
    context.Extends joins (context.lowerCompare comparison ref value) fun after predicate =>
      context.ResolvedFilter after (some predicate) := by
  refine extends_bind (extends_resolve "filter" ref) fun field more _ resolved => ?_
  split
  · split
    · exact extends_pure (resolvedFilter_test rfl resolved.1)
    · exact extends_pure (resolvedFilter_test rfl resolved.1)
    · exact extends_throw
  · refine extends_yields_bind (yields_lift fun _ typed => typed) fun cell _ => ?_
    exact extends_pure (resolvedFilter_test rfl resolved.1)

mutual

/-- The fields that a filter tests are resolved. -/
theorem extends_lowerFilter (joins : List PlanJoin) (filter : Filter) :
    context.Extends joins (context.lowerFilter filter) context.ResolvedFilter := by
  cases filter with
  | all => exact extends_pure fun predicate same => by cases same
  | and clauses =>
      rw [lowerFilter]
      refine extends_bind (extends_lowerClauses joins clauses) fun lowered more _ each => ?_
      exact extends_pure (resolvedFilter_conjunction each)
  | or clauses =>
      rw [lowerFilter]
      refine extends_bind (extends_lowerClauses joins clauses) fun lowered more _ each => ?_
      exact extends_pure (resolvedFilter_disjunction each)
  | not clause =>
      rw [lowerFilter]
      refine extends_bind (extends_lowerFilter joins clause) fun lowered more _ resolved => ?_
      cases lowered with
      | none => exact extends_throw
      | some predicate => exact extends_pure (resolvedFilter_some (resolved predicate rfl))
  | compare comparison ref value =>
      rw [lowerFilter]
      refine extends_bind (extends_lowerCompare comparison ref value) ?_
      exact fun predicate more _ resolved => extends_pure resolved
  | between ref least greatest =>
      rw [lowerFilter]
      refine extends_bind (extends_resolve "filter" ref) fun field more _ resolved => ?_
      refine extends_yields_bind (yields_lift fun _ typed => typed) fun least _ => ?_
      refine extends_yields_bind (yields_lift fun _ typed => typed) fun greatest _ => ?_
      exact extends_pure (resolvedFilter_test rfl resolved.1)
  | isNull ref =>
      rw [lowerFilter]
      refine extends_bind (extends_resolve "filter" ref) fun field more _ resolved => ?_
      exact extends_pure (resolvedFilter_test rfl resolved.1)
  | notNull ref =>
      rw [lowerFilter]
      refine extends_bind (extends_resolve "filter" ref) fun field more _ resolved => ?_
      exact extends_pure (resolvedFilter_test rfl resolved.1)
  | startsWith ref value =>
      rw [lowerFilter]
      refine extends_bind (extends_resolve "filter" ref) fun field more _ resolved => ?_
      exact extends_pure (resolvedFilter_test rfl resolved.1)
  | contains ref value =>
      rw [lowerFilter]
      refine extends_bind (extends_resolve "filter" ref) fun field more _ resolved => ?_
      exact extends_pure (resolvedFilter_test rfl resolved.1)

theorem extends_lowerClauses (joins : List PlanJoin) (clauses : List Filter) :
    context.Extends joins (context.lowerClauses clauses) fun after lowered =>
      ∀ filter ∈ lowered, context.ResolvedFilter after filter := by
  cases clauses with
  | nil => exact extends_pure fun filter member => absurd member List.not_mem_nil
  | cons clause rest =>
      rw [lowerClauses]
      refine extends_bind (extends_lowerFilter joins clause) fun first more _ firstResolved => ?_
      refine extends_bind (extends_lowerClauses more rest) fun others most kept resolved => ?_
      exact extends_pure (List.forall_mem_cons.mpr ⟨firstResolved.mono kept, resolved⟩)

end

end Filters

end CompileContext

end CrossQuery
