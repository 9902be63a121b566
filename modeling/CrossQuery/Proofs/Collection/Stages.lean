import CrossQuery.Collection.Pipeline
import CrossQuery.Proofs.Collection.Matching
import CrossQuery.Proofs.Json.Merged
import CrossQuery.Proofs.Outcome
import CrossQuery.Relational.Answer

/-!
# What stages do to documents

The stages of a pipeline one by one: a filter keeps the documents that pass, an order sorts them, a
window cuts them, and a projection on plain fields leaves these fields as they are.
-/

set_option autoImplicit false

namespace CrossQuery.Collection

/-- The value of a field in a document, by the path to it. -/
def valueAt (document : Document) (key : String) : Cell :=
  cellOf (atPath? document key)

section Entries

variable {entry : String × Json} {entries : List (String × Json)}

/-- Entries of distinct names are collected as they are. -/
theorem collect_of_nodup (distinct : (entries.map Prod.fst).Nodup) : collect entries = entries :=
  Json.foldl_assign_of_nodup distinct

theorem mem_collect (member : entry ∈ collect entries) : entry ∈ entries := by
  rcases Json.mem_foldl_assign member with impossible | found
  · exact absurd impossible List.not_mem_nil
  · exact found

/-- What is collected has the names of all entries. -/
theorem names_collect (name : String) :
    name ∈ (collect entries).map Prod.fst ↔ name ∈ entries.map Prod.fst := by
  rw [collect, Json.names_foldl_assign]
  simp

end Entries

section Filter

variable {α : Type} {image : α → Document} {keep : α → Bool} {items : List α}

/-- A filter keeps the documents that pass. -/
theorem keepPassing_map {filter : Json}
    (each : ∀ item ∈ items, passes (image item) filter = .ok (keep item)) :
    keepPassing filter (items.map image) = .ok ((items.filter keep).map image) := by
  induction items with
  | nil => rfl
  | cons item rest ih =>
      have first := each item List.mem_cons_self
      have others := ih fun other member => each other (List.mem_cons_of_mem _ member)
      rw [List.map_cons, keepPassing, first, others, List.filter_cons]
      cases keep item <;> rfl

theorem runStage_match (filter : Json) (documents : List Document) :
    runStage documents (single "$match" filter) = keepPassing filter documents := by
  simp [runStage, single]

end Filter

section Window

theorem readCount_ofNat {count : Nat} (fits : count < 2 ^ 64) (stage : String) :
    readCount stage (Json.ofNat count) = .ok count := by
  have bounds : (0 : Int) ≤ count ∧ (count : Int) ≤ Nat.pow 2 64 - 1 := by
    rw [Nat.pow_eq]
    omega
  rw [readCount, Json.ofNat, Json.readUnsigned?, Json.readWhole?, if_pos bounds]
  rfl

theorem runStage_skip {count : Nat} (fits : count < 2 ^ 64) (documents : List Document) :
    runStage documents (single "$skip" (Json.ofNat count)) = .ok (documents.drop count) := by
  simp [runStage, single, readCount_ofNat fits]

theorem runStage_limit {count : Nat} (fits : count < 2 ^ 64) (documents : List Document) :
    runStage documents (single "$limit" (Json.ofNat count)) = .ok (documents.take count) := by
  simp [runStage, single, readCount_ofNat fits]

/-- The stages of a window cut documents like a statement cuts rows. -/
theorem run_windowStages {offset limit : Option Nat}
    (offsetFits : ∀ count, offset = some count → count < 2 ^ 64)
    (limitFits : ∀ count, limit = some count → count < 2 ^ 64) (documents : List Document) :
    (windowStages offset limit).foldlM runStage documents =
      .ok (Relational.window offset limit documents) := by
  cases offset with
  | none =>
      cases limit with
      | none => rfl
      | some most =>
          simp [windowStages, Relational.window, runStage_limit (limitFits most rfl)]
  | some count =>
      cases limit with
      | none =>
          simp [windowStages, Relational.window, runStage_skip (offsetFits count rfl)]
      | some most =>
          simp [windowStages, Relational.window, runStage_skip (offsetFits count rfl),
            runStage_limit (limitFits most rfl)]

end Window

section Projection

/-- An entry of a projection that keeps a field. -/
def keepField (key : String) : String × Json :=
  (key, .string (pathText key))

theorem evaluate_path {key : String} (plain : PlainName key) (document : Document) :
    evaluate document (.string (pathText key)) = .ok (Json.lookup? key document) := by
  have spelled : (pathText key).toList = '$' :: key.toList := by
    simp [pathText]
  rw [evaluate, evaluateText, spelled]
  simp only [String.ofList_toList, atPath?_of_plain plain]

theorem projectEntries_keepField {keys : List String} (plain : ∀ key ∈ keys, PlainName key)
    (document : Document) :
    ∃ projected, projectEntries document (keys.map keepField) = .ok projected ∧
      ∀ key, Json.lookup? key projected =
        if key ∈ keys then Json.lookup? key document else none := by
  induction keys with
  | nil => exact ⟨[], rfl, fun key => rfl⟩
  | cons first rest ih =>
      obtain ⟨others, run, lookups⟩ :=
        ih fun key member => plain key (List.mem_cons_of_mem _ member)
      have value := evaluate_path (plain first List.mem_cons_self) document
      cases held : Json.lookup? first document with
      | none =>
          refine ⟨others, ?_, fun key => ?_⟩
          · simp [keepField, projectEntries, Projected.ofJson, value, held, run]
          · rw [lookups]
            by_cases same : key = first
            · subst same
              simp [held]
            · simp [same]
      | some json =>
          refine ⟨(first, json) :: others, ?_, fun key => ?_⟩
          · simp [keepField, projectEntries, Projected.ofJson, value, held, run]
          · rw [Json.lookup?, lookups]
            by_cases same : first = key
            · subst same
              simp [held]
            · simp [same, Ne.symm same]

theorem collect_keepField (keys : List String) :
    ∃ names : List String, (∀ name, name ∈ names ↔ name ∈ keys) ∧
      collect (keys.map keepField) = names.map keepField := by
  have names : (keys.map keepField).map Prod.fst = keys := by
    rw [List.map_map]
    exact List.map_id _
  refine ⟨(collect (keys.map keepField)).map Prod.fst, fun name => ?_, ?_⟩
  · rw [names_collect, names]
  · rw [List.map_map]
    refine (List.map_id _).symm.trans (List.map_congr_left fun entry member => ?_)
    obtain ⟨key, _, rfl⟩ := List.mem_map.mp (mem_collect member)
    rfl

theorem lookup?_append_of_ne {key other : String} (differs : other ≠ key) (value : Json)
    (entries : List (String × Json)) :
    Json.lookup? key ([(other, value)] ++ entries) = Json.lookup? key entries := by
  rw [List.singleton_append, Json.lookup?, if_neg differs]

/-- A projection on fields leaves these as they are. -/
theorem project_keepField {keys : List String} (plain : ∀ key ∈ keys, PlainName key)
    (document : Document) :
    ∃ projected, project (.object (collect (keys.map keepField))) document = .ok projected ∧
      ∀ key ∈ keys, Json.lookup? key projected = Json.lookup? key document := by
  obtain ⟨names, sameNames, collected⟩ := collect_keepField keys
  obtain ⟨others, run, lookups⟩ :=
    projectEntries_keepField (fun name member => plain name ((sameNames name).mp member)) document
  refine ⟨keptId document (names.map keepField) ++ others, ?_, fun key member => ?_⟩
  · rw [collected, project, run]
    rfl
  · have isName := (sameNames key).mpr member
    have kept := lookups key
    rw [if_pos isName] at kept
    unfold keptId
    split
    · next id noId _ =>
        have differs : "_id" ≠ key := by
          rintro rfl
          refine Json.lookup?_eq_none_iff.mp noId ?_
          rw [List.map_map]
          exact List.mem_map.mpr ⟨"_id", isName, rfl⟩
        rw [lookup?_append_of_ne differs, kept]
    · exact kept

end Projection

section Order

/-- The field of an order as a stage reads it. -/
def sortFieldOf (order : PlanOrder) : SortField :=
  ⟨keyName order.field, order.direction == .ascending⟩

/-- The entry of an order in a stage. -/
def sortEntryOf (order : PlanOrder) : String × Json :=
  (keyName order.field, .whole (if order.direction == .ascending then 1 else -1))

theorem sortEntry_eq {order : PlanOrder} (direct : order.field.isJoined = false) :
    sortEntry order = .ok (sortEntryOf order) := by
  simp [sortEntry, sortEntryOf, keyOfField, keyName, direct]

theorem readSortField_eq (order : PlanOrder) :
    readSortField (sortEntryOf order) = .ok (sortFieldOf order) := by
  unfold sortEntryOf sortFieldOf
  cases order.direction <;> rfl

theorem runStage_sort {specification : Json} {fields : List SortField}
    (read : readSort specification = .ok fields) (documents : List Document) :
    runStage documents (single "$sort" specification) = .ok (sortDocuments documents fields) := by
  simp [runStage, single, read]

/-- The stage of an order sorts by its fields, if these have different names. -/
theorem run_sortStages {orderBy : List PlanOrder}
    (direct : ∀ order ∈ orderBy, order.field.isJoined = false)
    (distinct : (orderBy.map fun order => keyName order.field).Nodup) :
    ∃ entries, orderBy.mapM sortEntry = .ok entries ∧
      ∀ documents, (sortStages entries).foldlM runStage documents =
        .ok (sortDocuments documents (orderBy.map sortFieldOf)) := by
  have compiled : orderBy.mapM sortEntry = .ok (orderBy.map sortEntryOf) :=
    Outcome.mapM_eq_ok_map fun order member => sortEntry_eq (direct order member)
  refine ⟨_, compiled, fun documents => ?_⟩
  unfold sortStages
  split
  · next isEmpty =>
      obtain rfl : orderBy = [] := by simpa using isEmpty
      have untouched : sortDocuments documents [] = documents :=
        List.mergeSort_of_pairwise (List.pairwise_of_forall fun _ _ => rfl)
      exact congrArg Except.ok untouched.symm
  · have names : ((orderBy.map sortEntryOf).map Prod.fst).Nodup := by
      rw [List.map_map]
      exact distinct
    have read : readSort (.object (orderBy.map sortEntryOf)) = .ok (orderBy.map sortFieldOf) := by
      rw [readSort, List.mapM_map]
      exact Outcome.mapM_eq_ok_map fun order _ => readSortField_eq order
    rw [collect_of_nodup names, List.foldlM_cons, runStage_sort read]
    rfl

end Order

section Rows

theorem aggregate?_of_fields {plan : Plan} {asked : List PlanField}
    (isRows : plan.columns = asked.map .field) :
    plan.aggregate? = none := by
  rw [Plan.aggregate?, isRows, List.findSome?_eq_none_iff]
  intro column member
  obtain ⟨field, _, rfl⟩ := List.mem_map.mp member
  rfl

theorem rowsOfDocuments_of_none {plan : Plan} (noAggregate : plan.aggregate? = none)
    (keys : List String) (documents : List Document) :
    rowsOfDocuments plan keys documents = documents.map (rowOfDocument keys) := by
  unfold rowsOfDocuments
  split
  · next isAggregate => exact absurd (noAggregate.symm.trans isAggregate) nofun
  · rfl

theorem keyOfField_eq {field : PlanField} (direct : field.isJoined = false) :
    keyOfField field = .ok (keyName field) := by
  simp [keyOfField, keyName, direct]

theorem plainEntry_eq {field : PlanField} (direct : field.isJoined = false) :
    plainEntry (.field field) = .ok (some (keepField (keyName field))) := by
  rw [plainEntry, keyOfField_eq direct]
  rfl

theorem runStage_project (specification : Json) (documents : List Document) :
    runStage documents (single "$project" specification) =
      documents.mapM (project specification) := by
  simp [runStage, single]

theorem rowOfDocument_congr {keys : List String} {left right : Document}
    (agree : ∀ key ∈ keys, Json.lookup? key left = Json.lookup? key right) :
    rowOfDocument keys left = rowOfDocument keys right :=
  List.map_congr_left fun key member => by rw [agree key member]

end Rows

section Listing

variable {plan : Plan} {asked : List PlanField} {filterStages : List Json}
  {entries : List (String × Json)}

/-- The pipeline of a plan that lists fields, with the stages of its filter and the entries of its
order. -/
def listing (plan : Plan) (asked : List PlanField) (filterStages : List Json)
    (entries : List (String × Json)) : Pipeline :=
  { collection := plan.source.name
    stages := filterStages ++ sortStages entries ++ windowStages plan.offset plan.limit ++
      [single "$project" (.object (collect ((asked.map keyName).map keepField)))] }

theorem pipelineOfPlan_listing (isAsked : plan.columns = asked.map .field)
    (noJoins : plan.joins = []) (direct : ∀ field ∈ asked, field.isJoined = false)
    (filtered : matchStages plan.filter = .ok filterStages)
    (sorted : plan.orderBy.mapM sortEntry = .ok entries) :
    pipelineOfPlan plan = .ok (listing plan asked filterStages entries) := by
  have projected : plan.columns.mapM plainEntry =
      .ok (asked.map fun field => some (keepField (keyName field))) := by
    rw [isAsked, List.mapM_map]
    exact Outcome.mapM_eq_ok_map fun field member => plainEntry_eq (direct field member)
  simp [pipelineOfPlan, noJoins, filtered, sorted, aggregate?_of_fields isAsked, projected, listing,
    List.filterMap_map, Function.comp_def]

theorem outputKeys_listing (isAsked : plan.columns = asked.map .field)
    (direct : ∀ field ∈ asked, field.isJoined = false) :
    plan.columns.mapM outputKey = .ok (asked.map keyName) := by
  rw [isAsked, List.mapM_map]
  exact Outcome.mapM_eq_ok_map fun field member => keyOfField_eq (direct field member)

/-- The documents behind the pipeline of a listing have the rows of those that are filtered, sorted
and cut. -/
theorem Store.aggregate_listing {store : Store} {kept sorted : List Document} (plan : Plan)
    (plain : ∀ field ∈ asked, PlainName (keyName field))
    (filtered : filterStages.foldlM runStage (store.documents plan.source.name) = .ok kept)
    (ordered : (sortStages entries).foldlM runStage kept = .ok sorted)
    (offsetFits : ∀ count, plan.offset = some count → count < 2 ^ 64)
    (limitFits : ∀ count, plan.limit = some count → count < 2 ^ 64) :
    ∃ documents,
      store.aggregate (listing plan asked filterStages entries).collection
          (listing plan asked filterStages entries).stages = .ok documents ∧
        documents.map (rowOfDocument (asked.map keyName)) =
          (Relational.window plan.offset plan.limit sorted).map
            (rowOfDocument (asked.map keyName)) := by
  have plainKeys : ∀ key ∈ asked.map keyName, PlainName key := by
    intro key member
    obtain ⟨field, isField, rfl⟩ := List.mem_map.mp member
    exact plain field isField
  have eachProjected : ∀ document ∈ Relational.window plan.offset plan.limit sorted,
      ∃ projected,
        project (.object (collect ((asked.map keyName).map keepField))) document = .ok projected ∧
          rowOfDocument (asked.map keyName) projected =
            rowOfDocument (asked.map keyName) document := by
    intro document _
    obtain ⟨projected, run, lookups⟩ := project_keepField plainKeys document
    exact ⟨projected, run, rowOfDocument_congr lookups⟩
  obtain ⟨documents, projectRun, rows⟩ := Outcome.exists_mapM_eq_ok eachProjected
  refine ⟨documents, ?_, rows⟩
  have windowRun := run_windowStages offsetFits limitFits sorted
  rw [listing, Store.aggregate, List.foldlM_append, List.foldlM_append, List.foldlM_append,
    filtered, Outcome.ok_bind, ordered, Outcome.ok_bind, windowRun, Outcome.ok_bind,
    List.foldlM_cons, runStage_project, projectRun]
  rfl

end Listing

end CrossQuery.Collection
