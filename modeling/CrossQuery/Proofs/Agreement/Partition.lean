import CrossQuery.Proofs.Agreement.Groups
import CrossQuery.Proofs.Collection.Compound
import CrossQuery.Proofs.Relational.Grouped

/-!
# What stands together in groups of several fields

The database puts two rows into one group exactly when they agree in every breakout field. The
store of documents puts documents together that agree in every field, and no others where the texts
leave out the separators of the identifier. In neither do members of different groups agree.
-/

set_option autoImplicit false

namespace CrossQuery

open Collection

/-- The accumulator of the groups of an aggregate. -/
def AggregateKind.accumulator : AggregateKind → Accumulator
  | .count | .sum => .sum
  | .average => .average
  | .distinct => .set

/-- What a document adds to its group: its own one for a count, else the value of the source. -/
def shareOf (kind : AggregateKind) (source : Option PlanField) (document : Document) :
    Option Json :=
  match kind, source with
  | .count, _ => some (.whole 1)
  | _, some field => atPath? document (keyName field)
  | _, none => none

/-- Documents that agree in every field. -/
def DocumentsAgree (breakout : List PlanField) (left right : Document) : Prop :=
  ∀ field ∈ breakout, (valueAt left (keyName field)).Agree (valueAt right (keyName field))

section Stage

variable {plan : Plan} {kind : AggregateKind} {source : Option PlanField} {stage : Json}
  {rest : List Json} {documents : List Document}

theorem keyOfField_eq_ok {field : PlanField} {key : String} (isKey : keyOfField field = .ok key) :
    key = keyName field := by
  unfold keyOfField at isKey
  split at isKey
  · cases isKey
  · exact (Except.ok.inj isKey).symm

theorem keys_of_mapM {fields : List PlanField} {keys : List String}
    (done : fields.mapM keyOfField = .ok keys) : keys = fields.map keyName := by
  have same : keys.map id = fields.map keyName := by
    apply Outcome.map_eq_map_of_mapM done
    intro field _ key isKey
    exact keyOfField_eq_ok isKey
  rwa [List.map_id] at same

theorem accumulatorOf_eq_ok {sourceKey : Option String} {accumulator : Json}
    (isSource : source.mapM keyOfField = .ok sourceKey)
    (compiled : accumulatorOf kind sourceKey = .ok accumulator) :
    ∃ name argument, accumulator = single name argument ∧
      Accumulator.ofName? name = some kind.accumulator ∧
      ∀ document, evaluate document argument = .ok (shareOf kind source document) := by
  cases source with
  | none =>
      obtain rfl : none = sourceKey := Except.ok.inj isSource
      cases kind with
      | count => exact ⟨_, _, (Except.ok.inj compiled).symm, rfl, fun _ => rfl⟩
      | sum | average | distinct => cases compiled
  | some field =>
      rw [Option.mapM_some] at isSource
      obtain ⟨key, isKey, isSource⟩ := Outcome.bind_eq_ok.mp isSource
      obtain rfl := keyOfField_eq_ok isKey
      obtain rfl : some (keyName field) = sourceKey := Except.ok.inj isSource
      cases kind with
      | count => exact ⟨_, _, (Except.ok.inj compiled).symm, rfl, fun _ => rfl⟩
      | sum | average | distinct =>
          exact ⟨_, _, (Except.ok.inj compiled).symm, rfl, fun document =>
            evaluate_pathText document _⟩

/-- The stage that a plan groups documents with makes one document of each group. -/
theorem runStage_of_groupStages (someField : plan.breakout ≠ [])
    (compiled : groupStages plan kind source = .ok (stage :: rest)) (documents : List Document) :
    runStage documents stage =
      .ok ((Grouping.groups
          (fun document => groupKey (compoundIdentifier (plan.breakout.map keyName) document))
          documents).map
        (totalDocument (compoundIdentifier (plan.breakout.map keyName)) kind.accumulator
          (shareOf kind source))) := by
  obtain ⟨keys, areKeys, compiled⟩ := Outcome.bind_eq_ok.mp compiled
  obtain ⟨sourceKey, isSource, compiled⟩ := Outcome.bind_eq_ok.mp compiled
  obtain ⟨accumulator, isAccumulator, compiled⟩ := Outcome.bind_eq_ok.mp compiled
  obtain ⟨entries, -, compiled⟩ := Outcome.bind_eq_ok.mp compiled
  obtain ⟨isStage, -⟩ := List.cons.inj (Except.ok.inj compiled)
  obtain ⟨name, argument, rfl, named, evaluated⟩ := accumulatorOf_eq_ok isSource isAccumulator
  obtain rfl := keys_of_mapM areKeys
  have someKey : plan.breakout.map keyName ≠ [] := by simpa using someField
  rw [← isStage, runStage_group]
  exact groupDocuments_single (evaluate_identifier someKey) named evaluated documents

/-- Documents that agree in every field have the same key in each. -/
theorem fieldKeys_eq_iff {breakout : List PlanField}
    (kinds : ∀ field ∈ breakout, ∃ kind : Kind, ∀ document ∈ documents,
      kind.Holds (valueAt document (keyName field)))
    {left right : Document} (isLeft : left ∈ documents) (isRight : right ∈ documents) :
    fieldKeys (breakout.map keyName) left = fieldKeys (breakout.map keyName) right ↔
      DocumentsAgree breakout left right := by
  rw [fieldKeys, fieldKeys, List.map_map, List.map_map, List.map_inj_left]
  refine forall₂_congr fun field member => ?_
  obtain ⟨kind, holds⟩ := kinds field member
  exact Cell.groupKey_eq_iff (holds left isLeft) (holds right isRight)

/-- Documents that agree share the key of their identifier, and those that share it agree where
the texts leave out the separators. -/
theorem sameIdentifier_iff {breakout : List PlanField} (someField : breakout ≠ [])
    (kinds : ∀ field ∈ breakout, ∃ kind : Kind, ∀ document ∈ documents,
      kind.Holds (valueAt document (keyName field)))
    {left right : Document} (isLeft : left ∈ documents) (isRight : right ∈ documents) :
    (DocumentsAgree breakout left right →
        groupKey (compoundIdentifier (breakout.map keyName) left) =
          groupKey (compoundIdentifier (breakout.map keyName) right)) ∧
      (TextsApart left 0 (breakout.map keyName) → TextsApart right 0 (breakout.map keyName) →
        groupKey (compoundIdentifier (breakout.map keyName) left) =
          groupKey (compoundIdentifier (breakout.map keyName) right) →
        DocumentsAgree breakout left right) := by
  have someKey : breakout.map keyName ≠ [] := by simpa using someField
  have kindsOf : ∀ document ∈ documents, ∀ key ∈ breakout.map keyName,
      ∃ kind : Kind, kind.Holds (valueAt document key) := by
    intro document isDocument key isKey
    obtain ⟨field, member, rfl⟩ := List.mem_map.mp isKey
    obtain ⟨kind, holds⟩ := kinds field member
    exact ⟨kind, holds document isDocument⟩
  have identified := groupKey_identifier_eq_iff someKey (kindsOf left isLeft)
    (kindsOf right isRight)
  refine ⟨fun agree => ?_, fun leftApart rightApart same => ?_⟩
  · rw [identified, (fieldKeys_eq_iff kinds isLeft isRight).mpr agree]
  · refine (fieldKeys_eq_iff kinds isLeft isRight).mp ?_
    refine eq_of_joinedKeys_eq (leftApart.keysApart (kindsOf left isLeft))
      (rightApart.keysApart (kindsOf right isRight)) ?_ (identified.mp same)
    simp only [fieldKeys, List.length_map]

end Stage

/-- Both stores make their groups of all that they are given, and no members of different groups
agree in every breakout field. In the database two rows are in one group exactly when they agree,
and in the store of documents this holds of documents in which no text contains the separator of the
field behind its own. -/
theorem partitioned_by_breakout {plan : Plan} (someField : plan.breakout ≠ [])
    {naming : Naming} {statement : Select.Statement} {scope : Relational.Scope}
    {rows : List (List Cell)}
    (isStatement : Relational.statementOfPlan naming plan = .ok statement)
    (resolved : ∀ field ∈ plan.breakout, ∃ found, scope.resolveField naming field = .ok found)
    (rowKinds : ∀ field ∈ plan.breakout, ∃ kind : Kind, ∀ row ∈ rows,
      kind.Holds (scope.cellOf naming row field))
    {kind : AggregateKind} {source : Option PlanField} {stage : Json} {rest : List Json}
    {documents : List Document}
    (isStage : groupStages plan kind source = .ok (stage :: rest))
    (documentKinds : ∀ field ∈ plan.breakout, ∃ kind : Kind, ∀ document ∈ documents,
      kind.Holds (valueAt document (keyName field))) :
    (∃ groups, scope.group statement.groupBy rows = .ok groups ∧
      (groups.flatMap Relational.Group.rows).Perm rows ∧
      (groups.Pairwise fun group other => ∀ left ∈ group.rows, ∀ right ∈ other.rows,
        ¬scope.RowsAgree naming plan.breakout left right) ∧
      ∀ left ∈ rows, ∀ right ∈ rows,
        (∃ group ∈ groups, left ∈ group.rows ∧ right ∈ group.rows) ↔
          scope.RowsAgree naming plan.breakout left right) ∧
    ∃ groups : List (Document × List Document),
      runStage documents stage =
        .ok (groups.map (totalDocument (compoundIdentifier (plan.breakout.map keyName))
          kind.accumulator (shareOf kind source))) ∧
      (groups.flatMap Prod.snd).Perm documents ∧
      (groups.Pairwise fun group other => ∀ left ∈ group.2, ∀ right ∈ other.2,
        ¬DocumentsAgree plan.breakout left right) ∧
      ∀ left ∈ documents, ∀ right ∈ documents,
        (DocumentsAgree plan.breakout left right →
          ∃ group ∈ groups, left ∈ group.2 ∧ right ∈ group.2) ∧
        (TextsApart left 0 (plan.breakout.map keyName) →
          TextsApart right 0 (plan.breakout.map keyName) →
          ((∃ group ∈ groups, left ∈ group.2 ∧ right ∈ group.2) ↔
            DocumentsAgree plan.breakout left right)) := by
  refine ⟨?_, _, runStage_of_groupStages someField isStage documents,
    Grouping.groups_perm documents, ?_, ?_⟩
  · obtain ⟨projections, -, compiled⟩ := Outcome.bind_eq_ok.mp isStatement
    obtain rfl := Except.ok.inj compiled
    exact Relational.Scope.group_partitions someField resolved rowKinds
  · exact Grouping.pairwise_groups fun left isLeft right isRight =>
      (sameIdentifier_iff someField documentKinds isLeft isRight).1
  · intro left isLeft right isRight
    have together := sameIdentifier_iff someField documentKinds isLeft isRight
    rw [Grouping.exists_group_iff isLeft isRight]
    exact ⟨together.1, fun leftApart rightApart =>
      ⟨together.2 leftApart rightApart, together.1⟩⟩

section Tags

/-- A field for one of two tags. -/
def tagField (place : Nat) (name : String) : PlanField :=
  .direct ⟨place + 1, 1, name, .text, none, none, none, place⟩ ⟨1, 1, "tags", none⟩

/-- How many records there are of each pair of tags. -/
def countByTags : Plan where
  databaseId := 1
  source := ⟨1, 1, "tags", none⟩
  joins := []
  columns := [.field (tagField 1 "first"), .field (tagField 2 "second"), .aggregate .count none]
  filter := none
  breakout := [tagField 1 "first", tagField 2 "second"]
  orderBy := []
  limit := none
  offset := none
  warnings := []

/-- A document whose first tag contains the separator of the second one. -/
def separatorFirst : Document :=
  [("_id", .whole 1), ("first", .string "a,f1=s:b"), ("second", .string "c")]

/-- A document whose second tag contains its own separator. -/
def separatorSecond : Document :=
  [("_id", .whole 2), ("first", .string "a"), ("second", .string "b,f1=s:c")]

def tagScope : Relational.Scope :=
  [⟨"TAGS", [⟨"ID", "BIGINT"⟩, ⟨"FIRST", "VARCHAR"⟩, ⟨"SECOND", "VARCHAR"⟩]⟩]

/-- The same records as rows. -/
def tagRows : List (List Cell) :=
  [[.int64 1, .text "a,f1=s:b", .text "c"], [.int64 2, .text "a", .text "b,f1=s:c"]]

theorem tagDocuments_kinds : ∀ field ∈ countByTags.breakout, ∃ kind : Kind,
    ∀ document ∈ [separatorFirst, separatorSecond],
      kind.Holds (valueAt document (keyName field)) := by
  simp only [countByTags, List.forall_mem_cons, List.not_mem_nil, false_imp_iff, implies_true,
    and_true]
  exact ⟨⟨.text, .content rfl rfl, .content rfl rfl⟩, ⟨.text, .content rfl rfl, .content rfl rfl⟩⟩

theorem partitioned_by_tags :
    (∃ groups, tagScope.group (countByTags.breakout.map (Relational.columnOfField .upperCase))
        tagRows = .ok groups ∧
      (groups.flatMap Relational.Group.rows).Perm tagRows ∧
      (groups.Pairwise fun group other => ∀ left ∈ group.rows, ∀ right ∈ other.rows,
        ¬tagScope.RowsAgree .upperCase countByTags.breakout left right) ∧
      ∀ left ∈ tagRows, ∀ right ∈ tagRows,
        (∃ group ∈ groups, left ∈ group.rows ∧ right ∈ group.rows) ↔
          tagScope.RowsAgree .upperCase countByTags.breakout left right) ∧
    ∃ stage rest, groupStages countByTags .count none = .ok (stage :: rest) ∧
      ∃ groups : List (Document × List Document),
        runStage [separatorFirst, separatorSecond] stage =
          .ok (groups.map (totalDocument (compoundIdentifier (countByTags.breakout.map keyName))
            AggregateKind.count.accumulator (shareOf .count none))) ∧
        (groups.flatMap Prod.snd).Perm [separatorFirst, separatorSecond] ∧
        (groups.Pairwise fun group other => ∀ left ∈ group.2, ∀ right ∈ other.2,
          ¬DocumentsAgree countByTags.breakout left right) ∧
        ∀ left ∈ [separatorFirst, separatorSecond], ∀ right ∈ [separatorFirst, separatorSecond],
          (DocumentsAgree countByTags.breakout left right →
            ∃ group ∈ groups, left ∈ group.2 ∧ right ∈ group.2) ∧
          (TextsApart left 0 (countByTags.breakout.map keyName) →
            TextsApart right 0 (countByTags.breakout.map keyName) →
            ((∃ group ∈ groups, left ∈ group.2 ∧ right ∈ group.2) ↔
              DocumentsAgree countByTags.breakout left right)) := by
  have resolved : ∀ field ∈ countByTags.breakout,
      ∃ found, tagScope.resolveField .upperCase field = .ok found := by
    simp only [countByTags, List.forall_mem_cons, List.not_mem_nil, false_imp_iff, implies_true,
      and_true]
    exact ⟨⟨_, rfl⟩, ⟨_, rfl⟩⟩
  have rowKinds : ∀ field ∈ countByTags.breakout, ∃ kind : Kind, ∀ row ∈ tagRows,
      kind.Holds (tagScope.cellOf .upperCase row field) := by
    simp only [countByTags, tagRows, List.forall_mem_cons, List.not_mem_nil, false_imp_iff,
      implies_true, and_true]
    exact ⟨⟨.text, .content rfl rfl, .content rfl rfl⟩,
      ⟨.text, .content rfl rfl, .content rfl rfl⟩⟩
  have someField : countByTags.breakout ≠ [] := List.cons_ne_nil _ _
  have isStage : groupStages countByTags .count none = .ok (_ :: _) := rfl
  obtain ⟨database, documents⟩ := partitioned_by_breakout someField rfl resolved rowKinds isStage
    tagDocuments_kinds
  exact ⟨database, _, _, isStage, documents⟩

/-- Documents with different tags are counted as one pair of tags. -/
theorem tags_put_together :
    ∃ stage rest, groupStages countByTags .count none = .ok (stage :: rest) ∧
      runStage [separatorFirst, separatorSecond] stage =
        .ok [[("_id", .object [("f0", .string "a,f1=s:b"), ("f1", .string "c")]),
          ("__agg", .whole 2)]] ∧
      ¬DocumentsAgree countByTags.breakout separatorFirst separatorSecond := by
  refine ⟨_, _, rfl, rfl, ?_⟩
  intro agree
  obtain ⟨isNull, -⟩ | ⟨content, left, right⟩ := agree (tagField 1 "first") List.mem_cons_self
  · cases isNull
  · cases left
    exact absurd right (by decide)

end Tags

end CrossQuery
