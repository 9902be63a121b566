import CrossQuery.Proofs.Agreement.Aggregates
import CrossQuery.Proofs.Agreement.Partition
import CrossQuery.Proofs.Collection.Completed
import CrossQuery.Proofs.Plan.Counted

/-!
# Counts of documents

A store of documents puts every document that passes the filter into one group, and counts the
documents of each. The projection of the groups keeps the counts, whatever the fields are named, and
only the order of the groups is changed afterwards.
-/

set_option autoImplicit false

namespace CrossQuery.Collection

section Stages

variable {documents kept : List Document} {stages : List Json}

theorem sublist_of_matchStages {filter : Option Predicate}
    (compiled : matchStages filter = .ok stages) (run : stages.foldlM runStage documents = .ok kept) :
    List.Sublist kept documents := by
  cases filter with
  | none =>
      cases compiled
      cases run
      exact .refl _
  | some predicate =>
      obtain ⟨condition, _, same⟩ := Outcome.bind_eq_ok.mp compiled
      obtain rfl := Except.ok.inj same
      obtain ⟨passing, passed, same⟩ := Outcome.bind_eq_ok.mp run
      obtain rfl := Except.ok.inj same
      rw [runStage_match] at passed
      have filtered := keepPassing_eq (passes_of_keepPassing passed)
      obtain rfl := Except.ok.inj (filtered.symm.trans passed)
      exact List.filter_sublist

theorem perm_of_sortStages {entries : List (String × Json)}
    (run : (sortStages entries).foldlM runStage documents = .ok kept) : kept.Perm documents := by
  unfold sortStages at run
  split at run
  · cases run
    exact .refl _
  · obtain ⟨sorted, ran, same⟩ := Outcome.bind_eq_ok.mp run
    obtain rfl := Except.ok.inj same
    obtain ⟨fields, _, same⟩ := Outcome.bind_eq_ok.mp
      (show (do return sortDocuments documents (← readSort (.object (collect entries)))) =
        Except.ok sorted from ran)
    obtain rfl := Except.ok.inj same
    exact List.mergeSort_perm _ _

end Stages

section Projection

variable {document projected : Document} {name : String} {expression value : Json}
  {entries : List (String × Json)}

theorem projectEntries_cons {choice : Json}
    (run : projectEntries document ((name, choice) :: entries) = .ok projected) :
    ∃ chosen others, projectEntries document entries = .ok others ∧
      projected = (chosen.map fun value => (name, value)).toList ++ others ∧
      ∀ expression, Projected.ofJson choice = .computed expression →
        evaluate document expression = .ok chosen := by
  rw [projectEntries] at run
  cases isChoice : Projected.ofJson choice with
  | leftOut =>
      rw [isChoice] at run
      obtain ⟨chosen, isChosen, run⟩ := Outcome.bind_eq_ok.mp run
      obtain ⟨others, restRun, same⟩ := Outcome.bind_eq_ok.mp run
      cases isChosen
      exact ⟨none, others, restRun, (Except.ok.inj same).symm, fun _ same => by cases same⟩
  | kept =>
      rw [isChoice] at run
      obtain ⟨chosen, _, run⟩ := Outcome.bind_eq_ok.mp run
      obtain ⟨others, restRun, same⟩ := Outcome.bind_eq_ok.mp run
      refine ⟨chosen, others, restRun, ?_, fun _ same => by cases same⟩
      rw [← Except.ok.inj same]
      cases chosen <;> rfl
  | computed expression =>
      rw [isChoice] at run
      obtain ⟨chosen, isChosen, run⟩ := Outcome.bind_eq_ok.mp run
      obtain ⟨others, restRun, same⟩ := Outcome.bind_eq_ok.mp run
      refine ⟨chosen, others, restRun, ?_, fun _ same => ?_⟩
      · rw [← Except.ok.inj same]
        cases chosen <;> rfl
      · cases same
        exact isChosen

/-- The field that the first entry of a name computes. -/
theorem lookup?_projectEntries (isEntry : Json.lookup? name entries = some expression)
    (isComputed : Projected.ofJson expression = .computed expression)
    (computed : evaluate document expression = .ok (some value))
    (run : projectEntries document entries = .ok projected) :
    Json.lookup? name projected = some value := by
  induction entries generalizing projected with
  | nil => cases isEntry
  | cons entry rest ih =>
      obtain ⟨other, choice⟩ := entry
      obtain ⟨chosen, others, restRun, rfl, isChosen⟩ := projectEntries_cons run
      rw [Json.lookup?] at isEntry
      by_cases isName : other = name
      · rw [if_pos isName] at isEntry
        obtain rfl := Option.some.inj isEntry
        obtain rfl := Except.ok.inj (computed.symm.trans (isChosen _ isComputed))
        exact if_pos isName
      · rw [if_neg isName] at isEntry
        have found := ih isEntry restRun
        cases chosen with
        | none => exact found
        | some chosen => exact (if_neg isName).trans found

theorem lookup?_collect_of_getLast? (isLast : entries.getLast? = some (name, expression)) :
    Json.lookup? name (collect entries) = some expression := by
  obtain ⟨earlier, rfl⟩ := List.getLast?_eq_some_iff.mp isLast
  rw [collect, List.foldl_append]
  exact Json.lookup?_assign_self _ _ _

/-- What the last entry of a projection computes is found under its name, whatever the entries
before it are named. -/
theorem lookup?_project (isLast : entries.getLast? = some (name, expression)) (notId : name ≠ "_id")
    (isComputed : Projected.ofJson expression = .computed expression)
    (computed : evaluate document expression = .ok (some value))
    (run : project (.object (collect entries)) document = .ok projected) :
    Json.lookup? name projected = some value := by
  obtain ⟨others, ran, same⟩ := Outcome.bind_eq_ok.mp run
  obtain rfl := Except.ok.inj same
  have found := lookup?_projectEntries (lookup?_collect_of_getLast? isLast) isComputed computed ran
  unfold keptId
  split
  · rw [lookup?_append_of_ne (Ne.symm notId), found]
  · exact found

end Projection

section Groups

variable {plan : Plan} {stages : List Json} {documents grouped : List Document}
  {identifier : Document → Json}

/-- Groups of documents have become documents that hold the sizes of the groups. -/
structure Sized (plan : Plan) (documents grouped : List Document) (sizes : List Nat) : Prop where
  held : (grouped.map (Json.lookup? aggregateField)).Perm
    (sizes.map fun size : Nat => some (Json.ofNat size))
  sum : sizes.sum = documents.length
  positive : ∀ size ∈ sizes, 0 < size
  whole : plan.breakout = [] → documents ≠ [] → sizes = [documents.length]

theorem lookup?_totalDocument (few : documents.length < 2 ^ 63)
    {group : Document × List Document}
    (isGroup : group ∈ Grouping.groups (fun document => groupKey (identifier document)) documents) :
    Json.lookup? aggregateField (totalDocument identifier .sum (fun _ => some (.whole 1)) group) =
      some (Json.ofNat group.2.length) := by
  have part := (Grouping.members_of_mem_groups isGroup).2.length_le
  have total : Accumulator.sum.apply (group.2.map fun _ => .whole 1) =
      Json.ofNat group.2.length :=
    apply_count (List.length_pos_iff.mp (Grouping.length_pos_of_mem_groups isGroup))
      (Nat.lt_of_le_of_lt part few)
  rw [← total]
  rfl

/-- The stages of a count make one document of each group. Without fields all documents have the
same identifier. -/
theorem exists_identifier_of_groupStages (counts : plan.Counts)
    (compiled : groupStages plan .count none = .ok stages) (few : documents.length < 2 ^ 63)
    (run : stages.foldlM runStage documents = .ok grouped) :
    ∃ identifier : Document → Json,
      (plan.breakout = [] → ∀ document, identifier document = .null) ∧
      grouped.map (Json.lookup? aggregateField) =
        (Grouping.groups (fun document => groupKey (identifier document)) documents).map
          fun group => some (Json.ofNat group.2.length) := by
  obtain ⟨keys, areKeys, compiled⟩ := Outcome.bind_eq_ok.mp compiled
  obtain ⟨sourceKey, isSource, compiled⟩ := Outcome.bind_eq_ok.mp compiled
  obtain rfl := Except.ok.inj isSource
  obtain ⟨accumulator, isAccumulator, compiled⟩ := Outcome.bind_eq_ok.mp compiled
  obtain rfl := Except.ok.inj isAccumulator
  obtain ⟨entries, areEntries, same⟩ := Outcome.bind_eq_ok.mp compiled
  obtain rfl := Except.ok.inj same
  obtain ⟨entry, isEntry, isLast⟩ := Outcome.getLast?_of_mapM areEntries counts.getLast?_columns
  rw [groupedEntry_aggregate] at isEntry
  obtain rfl := Except.ok.inj isEntry
  obtain ⟨identifier, identified⟩ := exists_identifier keys
  have named : Accumulator.ofName? "$sum" = some .sum := rfl
  have evaluated : ∀ document, evaluate document (.whole 1) = .ok (some (.whole 1)) :=
    fun _ => rfl
  rw [List.foldlM_cons, runStage_group, groupDocuments_single identified named evaluated,
    Outcome.ok_bind, List.foldlM_cons, runStage_project] at run
  obtain ⟨projected, ran, same⟩ := Outcome.bind_eq_ok.mp run
  obtain rfl := Except.ok.inj same
  refine ⟨identifier, fun ungrouped document => ?_, ?_⟩
  -- Without keys the identifier is a constant.
  · rw [ungrouped] at areKeys
    obtain rfl := Except.ok.inj areKeys
    exact Option.some.inj (Except.ok.inj
      ((identified document).symm.trans (evaluate_identifier_nil document)))
  -- The aggregate is the last entry of the projection, so no field of its name overwrites it.
  · have kept : projected.map (Json.lookup? aggregateField) =
        ((Grouping.groups (fun document => groupKey (identifier document)) documents).map
          (totalDocument identifier .sum fun _ => some (.whole 1))).map
            (Json.lookup? aggregateField) := by
      refine Outcome.map_eq_map_of_mapM ran fun document member result isResult => ?_
      obtain ⟨group, isGroup, rfl⟩ := List.mem_map.mp member
      have held := lookup?_totalDocument few isGroup
      rw [held]
      refine lookup?_project isLast (by decide) (aggregateProjection_computed .count) ?_ isResult
      rw [aggregateProjection, evaluate_path plainName_aggregateField, held]
      intro same
      cases same
    rw [kept, List.map_map]
    exact List.map_congr_left fun group => lookup?_totalDocument few

theorem exists_sized (counts : plan.Counts)
    (compiled : groupStages plan .count none = .ok stages) (few : documents.length < 2 ^ 63)
    (run : stages.foldlM runStage documents = .ok grouped) :
    ∃ sizes, Sized plan documents grouped sizes := by
  obtain ⟨identifier, constant, lookups⟩ :=
    exists_identifier_of_groupStages counts compiled few run
  refine ⟨(Grouping.groups (fun document => groupKey (identifier document)) documents).map
    fun group => group.2.length, ?_, Grouping.sum_length_groups documents, ?_, ?_⟩
  · rw [lookups, List.map_map]
    exact .refl _
  · intro size member
    obtain ⟨group, isGroup, rfl⟩ := List.mem_map.mp member
    exact Grouping.length_pos_of_mem_groups isGroup
  · intro ungrouped someDocument
    obtain ⟨first, rest, rfl⟩ := List.exists_cons_of_ne_nil someDocument
    rw [Grouping.groups_of_same fun document _ => by
      rw [constant ungrouped, constant ungrouped]]
    rfl

end Groups

section Rows

variable {plan : Plan} {documents grouped : List Document} {sizes : List Nat} {keys : List String}

theorem Sized.length_eq (sized : Sized plan documents grouped sizes) :
    grouped.length = sizes.length := by
  simpa using sized.held.length_eq

theorem Sized.of_perm (sized : Sized plan documents grouped sizes) {moved : List Document}
    (perm : moved.Perm grouped) : Sized plan documents moved sizes :=
  { sized with held := (perm.map _).trans sized.held }

/-- Documents that hold sizes of groups are rows that count them. -/
theorem Sized.perm_counts (sized : Sized plan documents grouped sizes)
    (isLast : keys.getLast? = some aggregateField) (few : documents.length < 2 ^ 63) :
    ((grouped.map (rowOfDocument keys)).map countOf?).Perm
      (sizes.map fun size : Nat => some (size : Int)) := by
  have read : (grouped.map (rowOfDocument keys)).map countOf? =
      (grouped.map (Json.lookup? aggregateField)).map fun value : Option Json =>
        ((value.map cellOfValue).getD .null).integer? := by
    rw [List.map_map, List.map_map]
    refine List.map_congr_left fun document _ => ?_
    rw [Function.comp_apply, countOf?, rowOfDocument, List.getLast?_map, isLast]
    rfl
  rw [read]
  refine (sized.held.map _).trans (.of_eq ?_)
  rw [List.map_map]
  refine List.map_congr_left fun size member => ?_
  have small : size < 2 ^ 63 :=
    Nat.lt_of_le_of_lt ((List.le_sum_of_mem member).trans sized.sum.le) few
  have fits : Cell.fitsInt64 (size : Int) = true :=
    fitsInt64_of_natAbs (Int.natAbs_natCast size ▸ small)
  rw [Function.comp_apply, Option.map_some, Option.getD_some, Json.ofNat,
    Cell.integer?_cellOfValue_whole fits]

theorem rowsOfDocuments_nil (counts : plan.Counts) (ungrouped : plan.breakout = [])
    (keys : List String) : rowsOfDocuments plan keys [] = [[.int32 0]] := by
  unfold rowsOfDocuments
  rw [ungrouped, Plan.aggregate?_of_columns counts.columns]
  rfl

theorem rowsOfDocuments_eq (keys : List String)
    (someRow : plan.breakout = [] → grouped ≠ []) :
    rowsOfDocuments plan keys grouped = grouped.map (rowOfDocument keys) := by
  unfold rowsOfDocuments
  split
  · next ungrouped _ => exact absurd rfl (someRow ungrouped)
  · rfl

theorem Sized.exists_tallies (sized : Sized plan documents grouped sizes) (counts : plan.Counts)
    (isLast : keys.getLast? = some aggregateField) (few : documents.length < 2 ^ 63) :
    ∃ sizes, plan.Tallies (rowsOfDocuments plan keys grouped) documents.length sizes := by
  have counted := sized.perm_counts isLast few
  have sameLength := sized.length_eq
  -- Without fields a count over no documents has a row, but no group that it would come from.
  by_cases noRow : plan.breakout = [] ∧ documents = []
  · obtain ⟨ungrouped, rfl⟩ := noRow
    have noSize : sizes = [] := List.eq_nil_iff_forall_not_mem.mpr fun size member =>
      (sized.positive size member).ne' (List.sum_eq_zero_iff.mp sized.sum size member)
    obtain rfl : grouped = [] := List.length_eq_zero_iff.mp (by rw [sameLength, noSize]; rfl)
    refine ⟨[0], .of_eq ?_, rfl, fun _ => rfl, fun someField => absurd ungrouped someField⟩
    rw [rowsOfDocuments_nil counts ungrouped]
    rfl
  · have onlyOne : plan.breakout = [] → sizes = [documents.length] := fun ungrouped =>
      sized.whole ungrouped fun noDocument => noRow ⟨ungrouped, noDocument⟩
    refine ⟨sizes, ?_, sized.sum, onlyOne, fun _ => sized.positive⟩
    rw [rowsOfDocuments_eq]
    · exact counted
    · rintro ungrouped rfl
      rw [onlyOne ungrouped] at sameLength
      cases sameLength

end Rows

namespace Store

variable {store : Store} {plan : Plan}

/-- The documents of a count come out of the stages of its filter, its groups and its order, one
after the other. -/
theorem stages_of_aggregate (counts : plan.Counts) {pipeline : Pipeline}
    (compiled : pipelineOfPlan plan = .ok pipeline) {made : List Document}
    (run : store.aggregate pipeline.collection pipeline.stages = .ok made) :
    ∃ filterStages groupedStages entries kept grouped,
      matchStages plan.filter = .ok filterStages ∧
      groupStages plan .count none = .ok groupedStages ∧
      filterStages.foldlM runStage (store.documents plan.source.name) = .ok kept ∧
      groupedStages.foldlM runStage kept = .ok grouped ∧
      (sortStages entries).foldlM runStage grouped = .ok made := by
  unfold pipelineOfPlan at compiled
  rw [Plan.aggregate?_of_columns counts.columns, counts.limit, counts.offset] at compiled
  dsimp only at compiled
  split at compiled
  · cases compiled
  obtain ⟨filterStages, filtered, compiled⟩ := Outcome.bind_eq_ok.mp compiled
  obtain ⟨entries, _, compiled⟩ := Outcome.bind_eq_ok.mp compiled
  obtain ⟨groupedStages, areGrouped, same⟩ := Outcome.bind_eq_ok.mp compiled
  obtain rfl := Except.ok.inj same
  rw [Store.aggregate, List.foldlM_append, List.foldlM_append, List.foldlM_append] at run
  obtain ⟨sorted, sorting, windowed⟩ := Outcome.bind_eq_ok.mp run
  obtain rfl := Except.ok.inj windowed
  obtain ⟨grouped, grouping, sortRun⟩ := Outcome.bind_eq_ok.mp sorting
  obtain ⟨kept, filterRun, groupRun⟩ := Outcome.bind_eq_ok.mp grouping
  exact ⟨filterStages, groupedStages, entries, kept, grouped, filtered, areGrouped, filterRun,
    groupRun, sortRun⟩

/-- What a store of documents answers to a count are the sizes of groups of the documents that pass
the filter. -/
theorem tallies_of_answer (counts : plan.Counts) {answer : Rowset}
    (answered : store.answerPlan plan = .ok (.ok answer))
    (few : (store.documents plan.source.name).length < 2 ^ 63) :
    ∃ stages kept sizes, matchStages plan.filter = .ok stages ∧
      stages.foldlM runStage (store.documents plan.source.name) = .ok kept ∧
      plan.Tallies answer.rows kept.length sizes := by
  obtain ⟨pipeline, compiled, answered⟩ := Outcome.bind_eq_ok.mp answered
  obtain ⟨keys, areKeys, same⟩ := Outcome.bind_eq_ok.mp answered
  obtain ⟨made, run, rfl⟩ := Outcome.map_eq_ok.mp (Except.ok.inj same)
  obtain ⟨stages, groupedStages, entries, kept, grouped, filtered, grouping, filterRun, groupRun,
    sortRun⟩ := stages_of_aggregate counts compiled (Outcome.mapError_eq_ok.mp run)
  have part := (sublist_of_matchStages filtered filterRun).length_le
  have fewer := Nat.lt_of_le_of_lt part few
  obtain ⟨sizes, sized⟩ := exists_sized counts grouping fewer groupRun
  obtain ⟨key, isKey, isLast⟩ := Outcome.getLast?_of_mapM areKeys counts.getLast?_columns
  obtain rfl := Except.ok.inj isKey
  obtain ⟨counted, tallies⟩ :=
    (sized.of_perm (perm_of_sortStages sortRun)).exists_tallies counts isLast fewer
  exact ⟨stages, kept, counted, filtered, filterRun, tallies⟩

/-- The groups that a store of documents counts are made of as many documents as it counts all
together. -/
theorem tallies_of_answerPlan (counts : plan.Counts)
    (few : (store.documents plan.source.name).length < 2 ^ 63)
    {grouped whole : Rowset} (isGrouped : store.answerPlan plan = .ok (.ok grouped))
    (isWhole : store.answerPlan plan.ungrouped = .ok (.ok whole)) :
    ∃ total sizes others, plan.Tallies grouped.rows total sizes ∧
      plan.ungrouped.Tallies whole.rows total others := by
  obtain ⟨stages, kept, sizes, filtered, run, tallies⟩ := tallies_of_answer counts isGrouped few
  obtain ⟨otherStages, otherKept, others, otherFiltered, otherRun, otherTallies⟩ :=
    tallies_of_answer counts.ungrouped isWhole few
  obtain rfl := Except.ok.inj (filtered.symm.trans otherFiltered)
  obtain rfl := Except.ok.inj (run.symm.trans otherRun)
  exact ⟨kept.length, sizes, others, tallies, otherTallies⟩

end Store

end CrossQuery.Collection
