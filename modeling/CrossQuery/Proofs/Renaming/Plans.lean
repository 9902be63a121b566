import CrossQuery.Proofs.Plan.Portable
import CrossQuery.Proofs.Renaming.Catalogs

/-!
# Plans under new names

A query names its fields by identifier. Over a catalog in which a field has another name it is
compiled to the same plan with the other name in it, or fails as before.
-/

set_option autoImplicit false

namespace CrossQuery

def PlanField.mapFields (image : Field → Field) (field : PlanField) : PlanField :=
  ⟨image field.field, field.table, field.via.map image⟩

def PlanJoin.mapFields (image : Field → Field) (join : PlanJoin) : PlanJoin :=
  ⟨image join.key, join.target, image join.targetKey⟩

def PlanColumn.mapFields (image : Field → Field) : PlanColumn → PlanColumn
  | .field shown => .field (shown.mapFields image)
  | .aggregate kind source => .aggregate kind (source.map (PlanField.mapFields image))

def PlanOrder.mapFields (image : Field → Field) (order : PlanOrder) : PlanOrder :=
  ⟨order.field.mapFields image, order.direction⟩

mutual

def Predicate.mapFields (image : Field → Field) : Predicate → Predicate
  | .and clauses => .and (Predicate.mapFieldsOfEach image clauses)
  | .or clauses => .or (Predicate.mapFieldsOfEach image clauses)
  | .not clause => .not (clause.mapFields image)
  | .compare field comparison value => .compare (field.mapFields image) comparison value
  | .between field least greatest => .between (field.mapFields image) least greatest
  | .isNull field negated => .isNull (field.mapFields image) negated
  | .startsWith field value => .startsWith (field.mapFields image) value
  | .contains field value => .contains (field.mapFields image) value

def Predicate.mapFieldsOfEach (image : Field → Field) : List Predicate → List Predicate
  | [] => []
  | clause :: rest => clause.mapFields image :: Predicate.mapFieldsOfEach image rest

end

theorem Predicate.mapFieldsOfEach_eq_map (image : Field → Field) (clauses : List Predicate) :
    Predicate.mapFieldsOfEach image clauses = clauses.map (Predicate.mapFields image) := by
  induction clauses with
  | nil => rfl
  | cons clause rest ih => rw [mapFieldsOfEach, ih, List.map_cons]

def Plan.mapFields (image : Field → Field) (plan : Plan) : Plan :=
  { plan with
    joins := plan.joins.map (PlanJoin.mapFields image)
    columns := plan.columns.map (PlanColumn.mapFields image)
    filter := plan.filter.map (Predicate.mapFields image)
    breakout := plan.breakout.map (PlanField.mapFields image)
    orderBy := plan.orderBy.map (PlanOrder.mapFields image) }

namespace CompileContext

/-- A context with each field of its catalog changed. -/
def mapFields (image : Field → Field) (context : CompileContext) : CompileContext :=
  { context with catalog := context.catalog.mapFields image }

/-- A step of a compilation that succeeds when another one does, with the image of its result, and
with the joins of the other one when its fields are changed. -/
def Mirrors {α β : Type} (rename : Field → Field) (image : α → β) (step : CompileM α)
    (other : CompileM β) : Prop :=
  ∀ joins, Outcome.Mirrors (Prod.map image (List.map (PlanJoin.mapFields rename)))
    (step.run joins) (other.run (joins.map (PlanJoin.mapFields rename)))

section Steps

variable {α β γ κ : Type} {rename : Field → Field} {image : α → β} {imageOf : γ → κ}

theorem mirrors_pure {value : α} {other : β} (same : other = image value) :
    Mirrors rename image (pure value) (pure other) := by
  subst same
  exact fun _ => .ok rfl

theorem mirrors_throw {failure other : Failure} :
    Mirrors rename image (throw failure) (throw other) :=
  fun _ => .error

theorem Mirrors.bind {step : CompileM α} {other : CompileM β} {next : α → CompileM γ}
    {nextOther : β → CompileM κ} (first : Mirrors rename image step other)
    (rest : ∀ value, Mirrors rename imageOf (next value) (nextOther (image value))) :
    Mirrors rename imageOf (step >>= next) (other >>= nextOther) :=
  fun joins => (first joins).bind fun made _ => rest made.1 made.2

theorem mirrors_get :
    Mirrors rename (List.map (PlanJoin.mapFields rename)) (get : CompileM (List PlanJoin)) get :=
  fun _ => .ok rfl

theorem mirrors_set (joins : List PlanJoin) :
    Mirrors rename id (set joins : CompileM PUnit)
      (set (joins.map (PlanJoin.mapFields rename))) :=
  fun _ => .ok rfl

theorem mirrors_lift {outcome : Except Failure α} {other : Except Failure β}
    (mirrors : Outcome.Mirrors image outcome other) :
    Mirrors rename image (liftM outcome) (liftM other) := by
  intro joins
  exact mirrors.bind fun value _ => .ok rfl

/-- Behind a check that fails on both sides or on none. -/
theorem mirrors_check {fails failsOther : Prop} [Decidable fails] [Decidable failsOther]
    {failure other : Failure} {next : Unit → CompileM α} {nextOther : Unit → CompileM β}
    (same : failsOther ↔ fails) (rest : Mirrors rename image (next ()) (nextOther ())) :
    Mirrors rename image (if fails then throw failure >>= next else next ())
      (if failsOther then throw other >>= nextOther else nextOther ()) := by
  by_cases failed : fails
  · rw [if_pos failed, if_pos (same.mpr failed)]
    exact mirrors_throw.bind fun _ => rest
  · rw [if_neg failed, if_neg (mt same.mp failed)]
    exact rest

theorem mirrors_ite {holds holdsOther : Prop} [Decidable holds] [Decidable holdsOther]
    {step otherwise : CompileM α} {other otherOtherwise : CompileM β} (same : holdsOther ↔ holds)
    (yes : Mirrors rename image step other)
    (no : Mirrors rename image otherwise otherOtherwise) :
    Mirrors rename image (if holds then step else otherwise)
      (if holdsOther then other else otherOtherwise) := by
  by_cases held : holds
  · rw [if_pos held, if_pos (same.mpr held)]
    exact yes
  · rw [if_neg held, if_neg (mt same.mp held)]
    exact no

theorem mirrors_look_self (found : Except NotFound α) :
    Mirrors rename id (look found) (look found) := by
  cases found with
  | error missing => exact mirrors_throw
  | ok value => exact mirrors_pure rfl

theorem mirrors_look {found : Except NotFound α} {other : Except NotFound β}
    (same : other = found.map image) : Mirrors rename image (look found) (look other) := by
  subst same
  cases found with
  | error missing => exact mirrors_throw
  | ok value => exact mirrors_pure rfl

theorem Mirrors.mapM {step : γ → CompileM α} {other : γ → CompileM β} {items : List γ}
    (each : ∀ item, Mirrors rename image (step item) (other item)) :
    Mirrors rename (List.map image) (items.mapM step) (items.mapM other) := by
  induction items with
  | nil => exact mirrors_pure rfl
  | cons item rest ih =>
      rw [List.mapM_cons, List.mapM_cons]
      exact (each item).bind fun result => ih.bind fun results => mirrors_pure rfl

end Steps

end CompileContext

namespace Renaming

open CompileContext

variable {dataset : Dataset} {change : Renaming dataset}

@[simp] theorem rename_target {field : Field} : (change.rename field).target = field.target := by
  unfold rename
  split <;> rfl

theorem sameAs_mapFields (left right : PlanField) :
    (left.mapFields change.rename).sameAs (right.mapFields change.rename) = left.sameAs right := by
  have sameVia (via : Option Field) :
      (via.map change.rename).map Field.id = via.map Field.id := by
    cases via with
    | none => rfl
    | some key => exact congrArg some rename_id
  simp only [PlanField.sameAs, PlanField.mapFields, rename_id, sameVia]

theorem any_sameAs_mapFields (fields : List PlanField) (field : PlanField) :
    ((fields.map (PlanField.mapFields change.rename)).any fun other =>
        other.sameAs (field.mapFields change.rename)) =
      fields.any fun other => other.sameAs field := by
  rw [List.any_map]
  congr 1
  funext other
  exact sameAs_mapFields other field

variable {context : CompileContext}

theorem mirrors_addJoin (key : Field) (target : Table) :
    Mirrors change.rename id (context.addJoin key target)
      ((context.mapFields change.rename).addJoin (change.rename key) target) := by
  unfold addJoin
  refine mirrors_get.bind fun joins => ?_
  have sameKeys : ((joins.map (PlanJoin.mapFields change.rename)).any fun join =>
      join.key.id == (change.rename key).id) = joins.any fun join => join.key.id == key.id := by
    rw [List.any_map]
    congr 1
    funext join
    simp only [Function.comp_apply, PlanJoin.mapFields, rename_id]
  rw [sameKeys]
  split
  · exact mirrors_pure rfl
  · refine (mirrors_look (primaryKey_mapFields context.catalog target.id)).bind fun found => ?_
    cases found with
    | none => exact mirrors_throw
    | some targetKey =>
        have isImage : List.map (PlanJoin.mapFields change.rename)
              (joins ++ [PlanJoin.mk key target targetKey]) =
            joins.map (PlanJoin.mapFields change.rename) ++
              [PlanJoin.mapFields change.rename ⟨key, target, targetKey⟩] := List.map_append
        have mirrors : Mirrors change.rename id _ _ :=
          mirrors_set (joins ++ [⟨key, target, targetKey⟩])
        rw [isImage] at mirrors
        exact mirrors

theorem mirrors_resolve (clause : String) (ref : FieldRef) :
    Mirrors change.rename (PlanField.mapFields change.rename) (context.resolve clause ref)
      ((context.mapFields change.rename).resolve clause ref) := by
  cases ref with
  | direct fieldId =>
      refine (mirrors_look (field_mapFields context.catalog fieldId)).bind fun field => ?_
      exact mirrors_ite (by rw [rename_tableId]; rfl) (mirrors_pure rfl) mirrors_throw
  | through keyId fieldId =>
      rw [resolve, resolve]
      refine mirrors_check Iff.rfl ?_
      refine (mirrors_look (field_mapFields context.catalog keyId)).bind fun key => ?_
      refine mirrors_check (by rw [rename_tableId]; rfl) ?_
      rw [rename_target]
      cases key.target with
      | none => exact mirrors_throw
      | some targetId =>
          refine (mirrors_look (field_mapFields context.catalog fieldId)).bind fun field => ?_
          refine mirrors_check (by rw [rename_tableId]) ?_
          refine (mirrors_look_self (context.catalog.table targetId)).bind fun target => ?_
          exact (mirrors_addJoin key target).bind fun _ => mirrors_pure rfl

section Filters

/-- A value is read by the type of its field. The name of the field is in the failure only. -/
theorem mirrors_typedScalar (field : PlanField) (role : String) (value : Json) :
    Outcome.Mirrors id (typedScalar field role value)
      (typedScalar (field.mapFields change.rename) role value) := by
  have sameType : (field.mapFields change.rename).field.baseType = field.field.baseType :=
    rename_baseType
  refine (Outcome.Mirrors.refl (scalar role value)).bind fun cell _ => ?_
  simp only [id_eq, sameType]
  cases field.field.baseType with
  | date =>
      cases cell.text? with
      | none => exact .ok rfl
      | some text =>
          dsimp only
          cases Calendar.readDate? text.toList with
          | none => exact .error
          | some date => exact .ok rfl
  | timestamp =>
      cases cell.text? with
      | none => exact .ok rfl
      | some text =>
          dsimp only
          cases Calendar.readTimestamp? text.toList with
          | none => exact .error
          | some timestamp => exact .ok rfl
  | _ => exact .ok rfl

theorem mirrors_lowerCompare (comparison : Comparison) (ref : FieldRef) (value : Json) :
    Mirrors change.rename (Predicate.mapFields change.rename)
      (context.lowerCompare comparison ref value)
      ((context.mapFields change.rename).lowerCompare comparison ref value) := by
  refine (mirrors_resolve "filter" ref).bind fun field => ?_
  refine mirrors_ite Iff.rfl ?_ ?_
  · cases comparison with
    | equal => exact mirrors_pure rfl
    | notEqual => exact mirrors_pure rfl
    | _ => exact mirrors_throw
  · exact (mirrors_lift (mirrors_typedScalar field "comparison" value)).bind
      fun cell => mirrors_pure rfl

theorem conjunction_mapFields (rename : Field → Field) (clauses : List Predicate) :
    conjunction (clauses.map (Predicate.mapFields rename)) =
      (conjunction clauses).map (Predicate.mapFields rename) := by
  cases clauses with
  | nil => rfl
  | cons first rest =>
      cases rest with
      | nil => rfl
      | cons second others =>
          simp only [conjunction, List.map_cons, Option.map_some, Predicate.mapFields,
            Predicate.mapFieldsOfEach, Predicate.mapFieldsOfEach_eq_map]

theorem filterMap_mapFields (rename : Field → Field) (clauses : List (Option Predicate)) :
    (clauses.map (Option.map (Predicate.mapFields rename))).filterMap id =
      (clauses.filterMap id).map (Predicate.mapFields rename) := by
  rw [List.filterMap_map, List.map_filterMap]
  rfl

theorem disjunction_mapFields (rename : Field → Field) (clauses : List (Option Predicate)) :
    disjunction (clauses.map (Option.map (Predicate.mapFields rename))) =
      (disjunction clauses).map (Predicate.mapFields rename) := by
  have sameNone : (clauses.map (Option.map (Predicate.mapFields rename))).any Option.isNone =
      clauses.any Option.isNone := by
    rw [List.any_map]
    congr 1
    funext clause
    cases clause <;> rfl
  unfold disjunction
  rw [List.isEmpty_map, sameNone, filterMap_mapFields]
  split
  · rfl
  · cases clauses.filterMap id with
    | nil => rfl
    | cons first rest =>
        cases rest with
        | nil => rfl
        | cons second others =>
            simp only [List.map_cons, Option.map_some, Predicate.mapFields,
              Predicate.mapFieldsOfEach, Predicate.mapFieldsOfEach_eq_map]

/-- A test of one field. -/
theorem mirrors_test {test : PlanField → Predicate}
    (image : ∀ field : PlanField, test (field.mapFields change.rename) =
      (test field).mapFields change.rename) (ref : FieldRef) :
    Mirrors change.rename (Option.map (Predicate.mapFields change.rename))
      (do return some (test (← context.resolve "filter" ref)))
      (do return some (test (← (context.mapFields change.rename).resolve "filter" ref))) :=
  (mirrors_resolve "filter" ref).bind fun field => mirrors_pure (congrArg some (image field))

mutual

theorem mirrors_lowerFilter (filter : Filter) :
    Mirrors change.rename (Option.map (Predicate.mapFields change.rename))
      (context.lowerFilter filter) ((context.mapFields change.rename).lowerFilter filter) := by
  cases filter with
  | all => exact mirrors_pure rfl
  | and clauses =>
      rw [lowerFilter, lowerFilter]
      refine (mirrors_lowerClauses clauses).bind fun lowered => mirrors_pure ?_
      rw [filterMap_mapFields, conjunction_mapFields]
  | or clauses =>
      rw [lowerFilter, lowerFilter]
      refine (mirrors_lowerClauses clauses).bind fun lowered => mirrors_pure ?_
      rw [disjunction_mapFields]
  | not clause =>
      rw [lowerFilter, lowerFilter]
      refine (mirrors_lowerFilter clause).bind fun lowered => ?_
      cases lowered with
      | none => exact mirrors_throw
      | some predicate => exact mirrors_pure rfl
  | compare comparison ref value =>
      rw [lowerFilter, lowerFilter]
      exact (mirrors_lowerCompare comparison ref value).bind fun predicate => mirrors_pure rfl
  | between ref least greatest =>
      rw [lowerFilter, lowerFilter]
      refine (mirrors_resolve "filter" ref).bind fun field => ?_
      refine (mirrors_lift (mirrors_typedScalar field "between" least)).bind fun low => ?_
      refine (mirrors_lift (mirrors_typedScalar field "between" greatest)).bind fun high => ?_
      exact mirrors_pure rfl
  | isNull ref =>
      rw [lowerFilter, lowerFilter]
      exact mirrors_test (fun _ => rfl) ref
  | notNull ref =>
      rw [lowerFilter, lowerFilter]
      exact mirrors_test (fun _ => rfl) ref
  | startsWith ref value =>
      rw [lowerFilter, lowerFilter]
      exact mirrors_test (fun _ => rfl) ref
  | contains ref value =>
      rw [lowerFilter, lowerFilter]
      exact mirrors_test (fun _ => rfl) ref

theorem mirrors_lowerClauses (clauses : List Filter) :
    Mirrors change.rename (List.map (Option.map (Predicate.mapFields change.rename)))
      (context.lowerClauses clauses)
      ((context.mapFields change.rename).lowerClauses clauses) := by
  cases clauses with
  | nil => exact mirrors_pure rfl
  | cons clause rest =>
      rw [lowerClauses, lowerClauses]
      refine (mirrors_lowerFilter clause).bind fun first => ?_
      exact (mirrors_lowerClauses rest).bind fun others => mirrors_pure rfl

end

end Filters

section Columns

theorem mirrors_lowerBreakout (refs : List FieldRef) (breakout : List PlanField) :
    Mirrors change.rename (List.map (PlanField.mapFields change.rename))
      (context.lowerBreakout breakout refs)
      ((context.mapFields change.rename).lowerBreakout
        (breakout.map (PlanField.mapFields change.rename)) refs) := by
  induction refs generalizing breakout with
  | nil => exact mirrors_pure rfl
  | cons ref rest ih =>
      rw [lowerBreakout, lowerBreakout]
      refine (mirrors_resolve "breakout" ref).bind fun field => ?_
      refine mirrors_check (by rw [any_sameAs_mapFields]) ?_
      have longer := ih (breakout ++ [field])
      rw [List.map_append] at longer
      exact longer

theorem mirrors_lowerSource (kind : AggregateKind) (ref : Option FieldRef) :
    Mirrors change.rename (Option.map (PlanField.mapFields change.rename))
      (context.lowerSource kind ref)
      ((context.mapFields change.rename).lowerSource kind ref) := by
  cases ref with
  | none => exact mirrors_pure rfl
  | some ref =>
      refine (mirrors_resolve "aggregation" ref).bind fun field => ?_
      have sameType : (field.mapFields change.rename).field.baseType = field.field.baseType :=
        rename_baseType
      exact mirrors_check (by rw [sameType]) (mirrors_pure rfl)

theorem mirrors_lowerRows (query : Query) :
    Mirrors change.rename (List.map (PlanColumn.mapFields change.rename))
      (context.lowerRows query) ((context.mapFields change.rename).lowerRows query) := by
  unfold lowerRows
  refine mirrors_ite Iff.rfl ?_ ?_
  · refine (mirrors_look (fields_mapFields context.catalog context.source.id)).bind
      fun fields => mirrors_pure ?_
    rw [List.map_map, List.map_map]
    rfl
  · exact Mirrors.mapM fun ref =>
      (mirrors_resolve "fields" ref).bind fun field => mirrors_pure rfl

theorem mirrors_lowerColumns (query : Query) :
    Mirrors change.rename
      (Prod.map (List.map (PlanColumn.mapFields change.rename))
        (List.map (PlanField.mapFields change.rename)))
      (context.lowerColumns query) ((context.mapFields change.rename).lowerColumns query) := by
  unfold lowerColumns
  cases aggregateOf query.aggregation with
  | none =>
      refine mirrors_check Iff.rfl ?_
      exact (mirrors_lowerRows query).bind fun columns => mirrors_pure rfl
  | some aggregate =>
      obtain ⟨kind, ref⟩ := aggregate
      refine mirrors_check Iff.rfl ?_
      refine (mirrors_lowerBreakout query.breakout []).bind fun breakout => ?_
      refine (mirrors_lowerSource kind ref).bind fun source => mirrors_pure ?_
      simp only [Prod.map, List.map_append, List.map_map, List.map_cons, List.map_nil,
        PlanColumn.mapFields]
      rfl

theorem any_isAggregate_mapFields (rename : Field → Field) (columns : List PlanColumn) :
    (columns.map (PlanColumn.mapFields rename)).any PlanColumn.isAggregate =
      columns.any PlanColumn.isAggregate := by
  rw [List.any_map]
  congr 1
  funext column
  cases column <;> rfl

end Columns

section Order

theorem appendKey_mapFields (keys : List PlanOrder) (key : PlanOrder) :
    appendKey (keys.map (PlanOrder.mapFields change.rename)) (key.mapFields change.rename) =
      (appendKey keys key).map (PlanOrder.mapFields change.rename) := by
  have sameFound : ((keys.map (PlanOrder.mapFields change.rename)).any fun other =>
      other.field.sameAs (key.mapFields change.rename).field) =
        keys.any fun other => other.field.sameAs key.field := by
    rw [List.any_map]
    congr 1
    funext other
    exact sameAs_mapFields other.field key.field
  unfold appendKey
  rw [sameFound]
  split
  · rfl
  · rw [List.map_append]
    rfl

theorem foldl_appendKey_mapFields (fields : List PlanField) (keys : List PlanOrder) :
    (fields.map (PlanField.mapFields change.rename)).foldl
        (fun keys field => appendKey keys ⟨field, .ascending⟩)
        (keys.map (PlanOrder.mapFields change.rename)) =
      (fields.foldl (fun keys field => appendKey keys ⟨field, .ascending⟩) keys).map
        (PlanOrder.mapFields change.rename) := by
  induction fields generalizing keys with
  | nil => rfl
  | cons field rest ih =>
      rw [List.map_cons, List.foldl_cons, List.foldl_cons, ← ih, ← appendKey_mapFields]
      rfl

theorem mirrors_lowerOrder (aggregated : Bool) (breakout : List PlanField)
    (orderBy : List OrderKey) (keys : List PlanOrder) :
    Mirrors change.rename (List.map (PlanOrder.mapFields change.rename))
      (context.lowerOrder aggregated breakout keys orderBy)
      ((context.mapFields change.rename).lowerOrder aggregated
        (breakout.map (PlanField.mapFields change.rename))
        (keys.map (PlanOrder.mapFields change.rename)) orderBy) := by
  induction orderBy generalizing keys with
  | nil => exact mirrors_pure rfl
  | cons key rest ih =>
      rw [lowerOrder, lowerOrder]
      refine (mirrors_resolve "order_by" key.field).bind fun field => ?_
      refine mirrors_check (by rw [any_sameAs_mapFields]) ?_
      have longer := ih (appendKey keys ⟨field, key.direction⟩)
      rw [← appendKey_mapFields] at longer
      exact longer

theorem mirrors_breakTies (keys : List PlanOrder) :
    Mirrors change.rename (List.map (PlanOrder.mapFields change.rename))
      (context.breakTies keys)
      ((context.mapFields change.rename).breakTies
        (keys.map (PlanOrder.mapFields change.rename))) := by
  refine (mirrors_look (primaryKey_mapFields context.catalog context.source.id)).bind
    fun found => ?_
  cases found with
  | none => exact mirrors_pure rfl
  | some key => exact mirrors_pure (appendKey_mapFields keys ⟨.direct key context.source, .ascending⟩)

end Order

theorem mirrors_finish (databaseId : Int) (query : Query) (maxRows : Option Nat)
    (filter : Option Predicate) :
    Mirrors change.rename (Plan.mapFields change.rename)
      (context.finish databaseId query maxRows filter)
      ((context.mapFields change.rename).finish databaseId query maxRows
        (filter.map (Predicate.mapFields change.rename))) := by
  unfold finish
  refine (mirrors_lowerColumns query).bind fun selected => ?_
  obtain ⟨columns, breakout⟩ := selected
  simp only [Prod.map, any_isAggregate_mapFields]
  refine (mirrors_lowerOrder _ breakout query.orderBy []).bind fun asked => ?_
  rw [foldl_appendKey_mapFields, List.isEmpty_map]
  refine (mirrors_lift (Outcome.Mirrors.refl _)).bind fun window => ?_
  have settled : Mirrors change.rename (List.map (PlanOrder.mapFields change.rename))
      (context.settle (columns.any PlanColumn.isAggregate)
        (breakout.foldl (fun keys field => appendKey keys ⟨field, .ascending⟩) asked))
      ((context.mapFields change.rename).settle (columns.any PlanColumn.isAggregate)
        ((breakout.foldl (fun keys field => appendKey keys ⟨field, .ascending⟩) asked).map
          (PlanOrder.mapFields change.rename))) := by
    unfold settle
    refine mirrors_ite ?_ (mirrors_breakTies _) (mirrors_pure rfl)
    rw [List.isEmpty_map]
  refine settled.bind fun keys => mirrors_get.bind fun joins => mirrors_pure rfl

/-- A query is compiled to the plan with the new name, or fails on either side. -/
theorem mirrors_compile (query : Query) (catalog : Catalog) (capabilities : Capabilities)
    (databaseId : Int) (maxRows : Option Nat) :
    Outcome.Mirrors (Plan.mapFields change.rename)
      (query.compile catalog capabilities databaseId maxRows)
      (query.compile (catalog.mapFields change.rename) capabilities databaseId maxRows) := by
  have sameTable : (catalog.mapFields change.rename).table query.sourceTable =
      catalog.table query.sourceTable := rfl
  unfold Query.compile
  rw [sameTable]
  cases catalog.table query.sourceTable with
  | error missing => exact .error
  | ok source =>
      dsimp only
      split
      · exact .error
      · have mirrors : Mirrors change.rename (Plan.mapFields change.rename)
            ((CompileContext.mk catalog capabilities source).compile databaseId query maxRows)
            (((CompileContext.mk catalog capabilities source).mapFields change.rename).compile
              databaseId query maxRows) := by
          rw [compile_eq_finish, compile_eq_finish]
          cases query.filter with
          | none =>
              have unfiltered : Mirrors change.rename
                  (Option.map (Predicate.mapFields change.rename)) (pure none) (pure none) :=
                mirrors_pure rfl
              exact unfiltered.bind fun filter => mirrors_finish _ _ _ filter
          | some filter =>
              exact (mirrors_lowerFilter filter).bind fun filter => mirrors_finish _ _ _ filter
        refine (mirrors []).map fun made result same => ?_
        rw [same]
        rfl

end Renaming

end CrossQuery
