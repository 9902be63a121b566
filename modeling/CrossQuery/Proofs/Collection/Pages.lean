import CrossQuery.Proofs.Cell.Sorted
import CrossQuery.Proofs.Collection.Stages
import CrossQuery.Proofs.Plan.Pages
import CrossQuery.Proofs.Relational.Answers
import CrossQuery.Proofs.Sorting

/-!
# Pages of documents

A pipeline that sorts documents by fields of one kind each, one of which tells all documents apart,
makes the same of them however they are arranged. The stages of a window cut a part out of that.
-/

set_option autoImplicit false

namespace CrossQuery.Collection

variable {plan : Plan} {documents arranged : List Document}

section Filtering

mutual

/-- Predicates on fields of the source have filters. -/
theorem exists_filterOf (predicate : Predicate)
    (direct : ∀ field ∈ predicate.fields, field.isJoined = false) :
    ∃ filter, filterOf predicate = .ok filter := by
  cases predicate with
  | and clauses =>
      obtain ⟨filters, compiled⟩ := exists_filtersOf clauses direct
      exact ⟨_, Outcome.bind_eq_ok.mpr ⟨filters, compiled, rfl⟩⟩
  | or clauses =>
      obtain ⟨filters, compiled⟩ := exists_filtersOf clauses direct
      exact ⟨_, Outcome.bind_eq_ok.mpr ⟨filters, compiled, rfl⟩⟩
  | not clause =>
      obtain ⟨filter, compiled⟩ := exists_filterOf clause direct
      exact ⟨_, Outcome.bind_eq_ok.mpr ⟨filter, compiled, rfl⟩⟩
  | compare field comparison value =>
      have isKey := keyOfField_eq (direct field (List.mem_singleton_self field))
      exact ⟨_, Outcome.bind_eq_ok.mpr ⟨_, isKey, rfl⟩⟩
  | between field least greatest =>
      have isKey := keyOfField_eq (direct field (List.mem_singleton_self field))
      exact ⟨_, Outcome.bind_eq_ok.mpr ⟨_, isKey, rfl⟩⟩
  | isNull field negated =>
      have isKey := keyOfField_eq (direct field (List.mem_singleton_self field))
      exact ⟨_, Outcome.bind_eq_ok.mpr ⟨_, isKey, rfl⟩⟩
  | startsWith field text =>
      have isKey := keyOfField_eq (direct field (List.mem_singleton_self field))
      exact ⟨_, Outcome.bind_eq_ok.mpr ⟨_, isKey, rfl⟩⟩
  | contains field text =>
      have isKey := keyOfField_eq (direct field (List.mem_singleton_self field))
      exact ⟨_, Outcome.bind_eq_ok.mpr ⟨_, isKey, rfl⟩⟩

theorem exists_filtersOf (clauses : List Predicate)
    (direct : ∀ field ∈ Predicate.fieldsOfEach clauses, field.isJoined = false) :
    ∃ filters, filtersOf clauses = .ok filters := by
  cases clauses with
  | nil => exact ⟨[], rfl⟩
  | cons clause rest =>
      obtain ⟨filter, compiled⟩ :=
        exists_filterOf clause fun field tested => direct field (List.mem_append_left _ tested)
      obtain ⟨filters, others⟩ :=
        exists_filtersOf rest fun field tested => direct field (List.mem_append_right _ tested)
      exact ⟨_, Outcome.bind_eq_ok.mpr ⟨filter, compiled,
        Outcome.bind_eq_ok.mpr ⟨filters, others, rfl⟩⟩⟩

end

def keeps (filter : Json) (document : Document) : Bool :=
  match passes document filter with
  | .ok kept => kept
  | .error _ => false

theorem keepPassing_eq {filter : Json}
    (judged : ∀ document ∈ documents, ∃ kept, passes document filter = .ok kept) :
    keepPassing filter documents = .ok (documents.filter (keeps filter)) := by
  have each : ∀ document ∈ documents,
      passes (id document) filter = .ok (keeps filter document) := by
    intro document member
    obtain ⟨kept, isKept⟩ := judged document member
    rw [keeps, id, isKept]
  have kept := keepPassing_map each
  rwa [List.map_id, List.map_id] at kept

theorem passes_of_keepPassing {filter : Json} {kept : List Document}
    (run : keepPassing filter documents = .ok kept) :
    ∀ document ∈ documents, ∃ passed, passes document filter = .ok passed := by
  induction documents generalizing kept with
  | nil => exact fun document member => absurd member List.not_mem_nil
  | cons document rest ih =>
      obtain ⟨passed, isPassed, run⟩ := Outcome.bind_eq_ok.mp run
      obtain ⟨others, restRun, _⟩ := Outcome.bind_eq_ok.mp run
      exact List.forall_mem_cons.mpr ⟨⟨passed, isPassed⟩, ih restRun⟩

/-- The first stage keeps a part of the documents, whatever their order. -/
theorem exists_kept {filter : Option Predicate}
    (direct : ∀ predicate, filter = some predicate →
      ∀ field ∈ predicate.fields, field.isJoined = false)
    (judged : ∀ predicate condition, filter = some predicate →
      filterOf predicate = .ok condition →
      ∀ document ∈ documents, ∃ kept, passes document condition = .ok kept) :
    ∃ stages, matchStages filter = .ok stages ∧
      ∃ keep : Document → Bool, ∀ arranged, arranged.Perm documents →
        stages.foldlM runStage arranged = .ok (arranged.filter keep) := by
  cases filter with
  | none =>
      refine ⟨[], rfl, fun _ => true, fun arranged _ => ?_⟩
      rw [List.filter_eq_self.mpr fun _ _ => rfl]
      rfl
  | some predicate =>
      obtain ⟨condition, compiled⟩ := exists_filterOf predicate (direct predicate rfl)
      refine ⟨[single "$match" condition], ?_, keeps condition, fun arranged perm => ?_⟩
      · exact Outcome.bind_eq_ok.mpr ⟨condition, compiled, rfl⟩
      · have kept := keepPassing_eq fun document member =>
          judged predicate condition rfl compiled document (perm.mem_iff.mp member)
        rw [List.foldlM_cons, runStage_match, kept]
        rfl

end Filtering

section Sorting

/-- The order of documents by what a field holds. -/
def SortField.sortingKey (field : SortField) : SortingKey Document (Option Content) :=
  ⟨fun document => (valueAt document field.path).content?, field.ascending⟩

theorem compareDocuments_eq {fields : List SortField}
    (kinds : ∀ field ∈ fields, ∃ kind : Kind, ∀ document ∈ documents,
      kind.Holds (valueAt document field.path))
    {left right : Document} (isLeft : left ∈ documents) (isRight : right ∈ documents) :
    compareDocuments left right fields =
      Sorting.compareByKeys (fields.map SortField.sortingKey) left right := by
  induction fields with
  | nil => rfl
  | cons field rest ih =>
      obtain ⟨⟨kind, holds⟩, others⟩ := List.forall_mem_cons.mp kinds
      have forward := Cell.sortCompare_of_holds (holds left isLeft) (holds right isRight)
      have backward : (compare (valueAt left field.path).content?
          (valueAt right field.path).content?).swap =
            compare (valueAt right field.path).content? (valueAt left field.path).content? :=
        Std.OrientedCmp.eq_swap.symm
      have first : field.compare left right =
          Sorting.compareByKey field.sortingKey left right := by
        rw [SortField.compare, Sorting.compareByKey]
        rw [valueAt, valueAt] at forward backward
        rw [forward, backward]
        rfl
      rw [compareDocuments, ih others, first]
      rfl

/-- Documents are sorted alike however they are arranged. -/
theorem sortDocuments_eq {fields : List SortField} (perm : arranged.Perm documents)
    (kinds : ∀ field ∈ fields, ∃ kind : Kind, ∀ document ∈ documents,
      kind.Holds (valueAt document field.path))
    {decisive : SortField} (isField : decisive ∈ fields)
    (apart : ∀ left ∈ documents, ∀ right ∈ documents,
      (valueAt left decisive.path).content? = (valueAt right decisive.path).content? →
        left = right) :
    sortDocuments arranged fields = sortDocuments documents fields := by
  have byKeys : ∀ left ∈ documents, ∀ right ∈ documents,
      (fun left right => compareDocuments left right fields) left right =
        Sorting.compareByKeys (fields.map SortField.sortingKey) left right :=
    fun left isLeft right isRight => compareDocuments_eq kinds isLeft isRight
  exact Sorting.mergeSort_eq_of_perm perm byKeys (List.mem_map_of_mem isField) apart

/-- The stage of an order sorts by fields that stand for its keys. Of two keys by one name the
later counts. -/
theorem exists_sortFields {orderBy : List PlanOrder}
    (direct : ∀ order ∈ orderBy, order.field.isJoined = false) (someOrder : orderBy ≠ []) :
    ∃ entries fields, orderBy.mapM sortEntry = .ok entries ∧
      (∀ documents, (sortStages entries).foldlM runStage documents =
        .ok (sortDocuments documents fields)) ∧
      (∀ field ∈ fields, ∃ order ∈ orderBy, field.path = keyName order.field) ∧
      ∀ order ∈ orderBy, ∃ field ∈ fields, field.path = keyName order.field := by
  have compiled : orderBy.mapM sortEntry = .ok (orderBy.map sortEntryOf) :=
    Outcome.mapM_eq_ok_map fun order member => sortEntry_eq (direct order member)
  have each : ∀ entry ∈ collect (orderBy.map sortEntryOf),
      ∃ order ∈ orderBy, entry = sortEntryOf order := by
    intro entry member
    obtain ⟨order, isOrder, same⟩ := List.mem_map.mp (mem_collect member)
    exact ⟨order, isOrder, same.symm⟩
  have readEach : ∀ entry ∈ collect (orderBy.map sortEntryOf), ∃ field,
      readSortField entry = .ok field ∧ field.path = entry.1 := by
    intro entry member
    obtain ⟨order, _, rfl⟩ := each entry member
    exact ⟨_, readSortField_eq order, rfl⟩
  obtain ⟨fields, read, paths⟩ := Outcome.exists_mapM_eq_ok readEach
  refine ⟨_, fields, compiled, fun documents => ?_, fun field member => ?_, fun order member => ?_⟩
  · have someEntry : (orderBy.map sortEntryOf).isEmpty = false := by simpa using someOrder
    have isRead : readSort (.object (collect (orderBy.map sortEntryOf))) = .ok fields := read
    rw [sortStages, someEntry, if_neg Bool.false_ne_true, List.foldlM_cons, runStage_sort isRead]
    rfl
  · have isPath : field.path ∈ (collect (orderBy.map sortEntryOf)).map Prod.fst :=
      paths ▸ List.mem_map_of_mem member
    obtain ⟨entry, isEntry, same⟩ := List.mem_map.mp isPath
    obtain ⟨order, isOrder, rfl⟩ := each entry isEntry
    exact ⟨order, isOrder, same.symm⟩
  · have isName : keyName order.field ∈ fields.map SortField.path := by
      rw [paths, names_collect, List.map_map]
      exact List.mem_map_of_mem member
    obtain ⟨field, isField, same⟩ := List.mem_map.mp isName
    exact ⟨field, isField, same⟩

end Sorting

section Aggregation

variable {catalog : Catalog} {source : Table} {key : Field} {query : Query}

theorem rows_rowsetOfDocuments {asked : List PlanField} (isAsked : plan.columns = asked.map .field)
    (keys names : List String) (documents : List Document) :
    (rowsetOfDocuments plan keys names documents).rows = documents.map (rowOfDocument keys) := by
  rw [rowsetOfDocuments, rowsOfDocuments_of_none (aggregate?_of_fields isAsked)]

/-- The pipeline of a plan begins with its filter. -/
theorem exists_stages_of_pipeline {pipeline : Pipeline}
    (compiled : pipelineOfPlan plan = .ok pipeline) :
    pipeline.collection = plan.source.name ∧
      ∃ filter rest, matchStages plan.filter = .ok filter ∧ pipeline.stages = filter ++ rest := by
  rw [pipelineOfPlan] at compiled
  cases noJoins : plan.joins.isEmpty with
  | false =>
      rw [noJoins] at compiled
      cases compiled
  | true =>
      simp only [noJoins, Bool.not_true, Bool.false_eq_true, if_false] at compiled
      obtain ⟨filter, filtered, compiled⟩ := Outcome.bind_eq_ok.mp compiled
      obtain ⟨sort, _, compiled⟩ := Outcome.bind_eq_ok.mp compiled
      split at compiled
      · obtain ⟨group, _, same⟩ := Outcome.bind_eq_ok.mp compiled
        cases same
        exact ⟨rfl, filter, _, filtered, by rw [List.append_assoc, List.append_assoc]⟩
      · obtain ⟨entries, _, same⟩ := Outcome.bind_eq_ok.mp compiled
        cases same
        exact ⟨rfl, filter, _, filtered, by rw [List.append_assoc, List.append_assoc]⟩

/-- A plan that is answered has a filter that is judged on each document. -/
theorem passes_of_aggregate {pipeline : Pipeline} {store : Store} {answer : List Document}
    (compiled : pipelineOfPlan plan = .ok pipeline)
    (answered : store.aggregate pipeline.collection pipeline.stages = .ok answer) :
    ∀ predicate filter, plan.filter = some predicate → filterOf predicate = .ok filter →
      ∀ document ∈ store.documents plan.source.name,
        ∃ passed, passes document filter = .ok passed := by
  intro predicate filter isFilter filtered
  obtain ⟨isSource, stages, rest, matched, split⟩ := exists_stages_of_pipeline compiled
  rw [isFilter, matchStages, filtered] at matched
  cases matched
  rw [Store.aggregate, isSource, split, List.foldlM_append, List.foldlM_cons,
    runStage_match] at answered
  obtain ⟨kept, run, _⟩ := Outcome.bind_eq_ok.mp answered
  obtain ⟨passing, run, _⟩ := Outcome.bind_eq_ok.mp run
  exact passes_of_keepPassing run

/-- However the documents are arranged, every window of a plan cuts the same list of rows. -/
theorem aggregate_arranged (sorts : plan.Sorts catalog source key query)
    (plain : ∀ field ∈ plan.fields, PlainName (keyName field))
    (judged : ∀ predicate filter, plan.filter = some predicate →
      filterOf predicate = .ok filter →
      ∀ document ∈ documents, ∃ kept, passes document filter = .ok kept)
    (kinds : ∀ order ∈ plan.orderBy, ∃ kind : Kind, ∀ document ∈ documents,
      kind.Holds (valueAt document (keyName order.field)))
    (apart : ∀ left ∈ documents, ∀ right ∈ documents,
      (valueAt left (keyName (.direct key source))).content? =
        (valueAt right (keyName (.direct key source))).content? → left = right) :
    ∃ listed : List (List Cell), ∀ (store : Store) (arranged : List Document)
      (offset limit : Option Nat), (∀ count, offset = some count → count < 2 ^ 64) →
      (∀ count, limit = some count → count < 2 ^ 64) → arranged.Perm documents →
      store.documents source.name = arranged →
      ∃ pipeline keys answer, pipelineOfPlan (plan.cut offset limit) = .ok pipeline ∧
        (plan.cut offset limit).columns.mapM outputKey = .ok keys ∧
        store.aggregate pipeline.collection pipeline.stages = .ok answer ∧
        ∀ names, (rowsetOfDocuments (plan.cut offset limit) keys names answer).rows =
          Relational.window offset limit listed := by
  obtain ⟨asked, isAsked⟩ := sorts.columns
  have isDirect : ∀ field ∈ plan.fields, field.isJoined = false := by
    intro field member
    obtain ⟨own, rfl, _⟩ := sorts.own field member
    rfl
  have askedDirect : ∀ field ∈ asked, field.isJoined = false :=
    fun field member => isDirect field (Plan.mem_fields_of_columns isAsked member)
  obtain ⟨decisive, isOrder, isKey⟩ := sorts.decided
  obtain ⟨filterStages, filterCompiled, keep, filterRun⟩ := exists_kept
    (fun predicate isFilter field tested =>
      isDirect field (Plan.mem_fields_of_filter isFilter tested)) judged
  obtain ⟨entries, sortFields, sortCompiled, sortRun, areOrders, areFields⟩ := exists_sortFields
    (fun order member => isDirect order.field (Plan.mem_fields_of_order member))
    (List.ne_nil_of_mem isOrder)
  refine ⟨(sortDocuments (documents.filter keep) sortFields).map
    (rowOfDocument (asked.map keyName)), ?_⟩
  intro store arranged offset limit offsetFits limitFits perm stored
  have keptPerm : (arranged.filter keep).Perm (documents.filter keep) := perm.filter keep
  obtain ⟨field, isField, samePath⟩ := areFields decisive isOrder
  have sorted : sortDocuments (arranged.filter keep) sortFields =
      sortDocuments (documents.filter keep) sortFields := by
    refine sortDocuments_eq keptPerm ?_ isField ?_
    · intro other isOther
      obtain ⟨order, isOrder, samePath⟩ := areOrders other isOther
      obtain ⟨kind, holds⟩ := kinds order isOrder
      refine ⟨kind, fun document member => ?_⟩
      rw [samePath]
      exact holds document (List.mem_filter.mp member).1
    · intro left isLeft right isRight
      rw [samePath, isKey]
      exact apart left (List.mem_filter.mp isLeft).1 right (List.mem_filter.mp isRight).1
  have isAskedCut : (plan.cut offset limit).columns = asked.map .field := isAsked
  rw [← sorts.reads] at stored
  have filtered := filterRun arranged perm
  rw [← stored] at filtered
  obtain ⟨answer, aggregated, rows⟩ := Store.aggregate_listing (plan.cut offset limit)
    (fun field member => plain field (Plan.mem_fields_of_columns isAsked member)) filtered
    (sortRun _) offsetFits limitFits
  refine ⟨_, _, answer, pipelineOfPlan_listing isAskedCut sorts.joins askedDirect filterCompiled
    sortCompiled, outputKeys_listing isAskedCut askedDirect, aggregated, fun names => ?_⟩
  rw [rows_rowsetOfDocuments isAskedCut, rows, stored, sorted, Relational.window_map]
  rfl

end Aggregation

end CrossQuery.Collection
