import CrossQuery.Proofs.Collection.Stages
import CrossQuery.Proofs.Plan.Resolved

/-!
# Pipelines of aggregates

The pipeline of a plan for an aggregate: documents are grouped by the breakout fields, and each
group is projected on the values that it was made by and the aggregate.
-/

set_option autoImplicit false

namespace CrossQuery

open Collection

variable {plan : Plan} {kind : AggregateKind} {of : Option PlanField} {field : PlanField}

def aggregateProjection (kind : AggregateKind) : Json :=
  match kind with
  | .distinct => single "$size" (.string (pathText aggregateField))
  | _ => .string (pathText aggregateField)

theorem plainName_aggregateField : PlainName aggregateField :=
  ⟨by decide, by decide⟩

/-- The size of an array that a field holds. -/
theorem evaluate_size {key : String} (plain : PlainName key) {document : Document}
    {items : List Json} (held : Json.lookup? key document = some (.array items)) :
    evaluate document (single "$size" (.string (pathText key))) =
      .ok (some (Json.ofNat items.length)) := by
  have value := evaluate_path plain document
  rw [held] at value
  rw [single, evaluate]
  exact Outcome.bind_eq_ok.mpr ⟨_, value, rfl⟩

theorem aggregateProjection_computed (kind : AggregateKind) :
    Projected.ofJson (aggregateProjection kind) = .computed (aggregateProjection kind) := by
  cases kind <;> rfl

theorem groupedEntry_aggregate (breakout : List PlanField) (kind : AggregateKind)
    (of : Option PlanField) :
    groupedEntry breakout (.aggregate kind of) =
      .ok (aggregateField, aggregateProjection kind) := by
  cases kind <;> rfl

/-- The entry of a breakout field in the projection of groups. -/
def breakoutEntry (entry : PlanField × Nat) : String × Json :=
  (keyName entry.1, .string (pathText ("_id." ++ breakoutName entry.2)))

theorem groupedEntry_field {breakout : List PlanField} {place : Nat}
    (isPlace : breakout.findIdx? (fun other => other.sameAs field) = some place)
    (direct : field.isJoined = false) :
    groupedEntry breakout (.field field) = .ok (breakoutEntry (field, place)) := by
  rw [groupedEntry, outputKey, keyOfField_eq direct, Outcome.ok_bind]
  dsimp only
  rw [isPlace]
  rfl

/-- Of fields that are told apart each is found in its place. -/
theorem findIdx?_sameAs {breakout : List PlanField} (distinct : (breakout.map PlanField.ref).Nodup)
    {entry : PlanField × Nat} (member : entry ∈ breakout.zipIdx) :
    breakout.findIdx? (fun other => other.sameAs entry.1) = some entry.2 := by
  obtain ⟨field, place⟩ := entry
  obtain ⟨below, rfl⟩ := List.getElem?_eq_some_iff.mp (List.mk_mem_zipIdx_iff_getElem?.mp member)
  rw [List.findIdx?_eq_some_iff_getElem]
  refine ⟨below, PlanField.sameAs_iff.mpr rfl, fun earlier before same => ?_⟩
  have sameRef := PlanField.sameAs_iff.mp same
  have apart := List.pairwise_iff_getElem.mp distinct earlier place
  simp only [List.length_map, List.getElem_map] at apart
  exact apart (before.trans below) below before sameRef

/-- The projection of groups on the breakout fields and the aggregate. -/
theorem groupedEntries_eq
    (isAggregate : plan.columns = plan.breakout.map .field ++ [.aggregate kind of])
    (direct : ∀ field ∈ plan.breakout, field.isJoined = false)
    (distinct : (plan.breakout.map PlanField.ref).Nodup) :
    plan.columns.mapM (groupedEntry plan.breakout) =
      .ok (plan.breakout.zipIdx.map breakoutEntry ++
        [(aggregateField, aggregateProjection kind)]) := by
  rw [isAggregate]
  refine Outcome.mapM_append_eq_ok ?_ ?_
  · have entries : (plan.breakout.zipIdx.map Prod.fst).mapM
        (groupedEntry plan.breakout ∘ PlanColumn.field) =
          .ok (plan.breakout.zipIdx.map breakoutEntry) := by
      rw [List.mapM_map]
      refine Outcome.mapM_eq_ok_map fun entry member => ?_
      exact groupedEntry_field (findIdx?_sameAs distinct member)
        (direct entry.1 (List.fst_mem_of_mem_zipIdx member))
    rw [List.zipIdx_map_fst] at entries
    rw [List.mapM_map]
    exact entries
  · rw [List.mapM_cons, groupedEntry_aggregate]
    rfl

theorem Plan.aggregate?_of_columns
    (isAggregate : plan.columns = plan.breakout.map .field ++ [.aggregate kind of]) :
    plan.aggregate? = some (kind, of) := by
  rw [Plan.aggregate?, isAggregate, List.findSome?_append, List.findSome?_eq_none_iff.mpr]
  · rfl
  · intro column member
    obtain ⟨field, _, rfl⟩ := List.mem_map.mp member
    rfl

/-- The pipeline of an aggregate. -/
theorem pipelineOfPlan_aggregate (noJoins : plan.joins = [])
    (isAggregate : plan.columns = plan.breakout.map .field ++ [.aggregate kind of])
    (isDirect : ∀ field ∈ plan.breakout, field.isJoined = false)
    (distinct : (plan.breakout.map PlanField.ref).Nodup)
    (ofDirect : ∀ field, of = some field → field.isJoined = false)
    {accumulator : Json} (accumulates : accumulatorOf kind (of.map keyName) = .ok accumulator)
    {sortEntries : List (String × Json)} {filterStages : List Json}
    (filtered : matchStages plan.filter = .ok filterStages)
    (sorted : plan.orderBy.mapM sortEntry = .ok sortEntries) :
    pipelineOfPlan plan =
      .ok ⟨plan.source.name, filterStages ++
        [single "$group" (.object [("_id", groupIdentifier (plan.breakout.map keyName)),
          (aggregateField, accumulator)]),
        single "$project" (.object (collect (plan.breakout.zipIdx.map breakoutEntry ++
          [(aggregateField, aggregateProjection kind)])))] ++
        sortStages sortEntries ++ windowStages plan.offset plan.limit⟩ := by
  have keys : plan.breakout.mapM keyOfField = .ok (plan.breakout.map keyName) :=
    Outcome.mapM_eq_ok_map fun field member => keyOfField_eq (isDirect field member)
  have sourceKey : of.mapM keyOfField = .ok (of.map keyName) := by
    cases of with
    | none => rfl
    | some field =>
        rw [Option.mapM_some, keyOfField_eq (ofDirect field rfl)]
        rfl
  have projected := groupedEntries_eq isAggregate isDirect distinct
  have grouped : groupStages plan kind of = .ok
      [single "$group" (.object [("_id", groupIdentifier (plan.breakout.map keyName)),
        (aggregateField, accumulator)]),
        single "$project" (.object (collect (plan.breakout.zipIdx.map breakoutEntry ++
          [(aggregateField, aggregateProjection kind)])))] := by
    simp [groupStages, keys, sourceKey, accumulates, projected]
  simp [pipelineOfPlan, noJoins, filtered, sorted, Plan.aggregate?_of_columns isAggregate, grouped]

/-- The keys that the columns of an aggregate are read from. -/
theorem outputKeys_aggregate
    (isAggregate : plan.columns = plan.breakout.map .field ++ [.aggregate kind of])
    (direct : ∀ field ∈ plan.breakout, field.isJoined = false) :
    plan.columns.mapM outputKey = .ok (plan.breakout.map keyName ++ [aggregateField]) := by
  rw [isAggregate]
  refine Outcome.mapM_append_eq_ok ?_ rfl
  rw [List.mapM_map]
  exact Outcome.mapM_eq_ok_map fun field member => keyOfField_eq (direct field member)

end CrossQuery
