import CrossQuery.Proofs.Cell.Admitted
import CrossQuery.Proofs.Collection.Stages
import CrossQuery.Proofs.Predicate.Portable
import CrossQuery.Proofs.Relational.Answers

/-!
# Records in both stores

Records whose cells are in the rows of one store and in the documents of the other. Both stores
filter, sort and cut such records alike.
-/

set_option autoImplicit false

namespace CrossQuery

open Collection

/-- Records that two stores hold: the value of each known field, and a document that holds it. -/
structure Mirrored {α : Type} (known : List PlanField) (value : α → PlanField → Cell)
    (document : α → Document) (records : List α) : Prop where
  admitted : ∀ record ∈ records, ∀ field ∈ known, field.field.baseType.Admits (value record field)
  stored : ∀ record ∈ records, ∀ field ∈ known,
    (value record field).Stored (Json.lookup? (keyName field) (document record))

/-- The order of two records by keys, of which the first that tells them apart decides. -/
def compareBy (left right : PlanField → Cell) : List PlanOrder → Ordering
  | [] => .eq
  | order :: rest =>
    let ordering := (left order.field).sortCompare (right order.field)
    (if order.direction == .ascending then ordering else ordering.swap).then
      (compareBy left right rest)

/-- Records in the order of keys. Records that tie keep their order. -/
def sortBy {α : Type} (value : α → PlanField → Cell) (orderBy : List PlanOrder)
    (records : List α) : List α :=
  records.mergeSort fun left right => compareBy (value left) (value right) orderBy != .gt

section Sorting

variable {α : Type} {known : List PlanField} {value : α → PlanField → Cell}
  {document : α → Document} {records : List α} {orderBy : List PlanOrder}

theorem Mirrored.of_subset {others : List α} (mirrored : Mirrored known value document records)
    (subset : ∀ record ∈ others, record ∈ records) : Mirrored known value document others :=
  ⟨fun record member => mirrored.admitted record (subset record member),
    fun record member => mirrored.stored record (subset record member)⟩

/-- Documents are in the order of their records. -/
theorem Mirrored.compareDocuments_eq (mirrored : Mirrored known value document records)
    (plain : ∀ field ∈ known, PlainName (keyName field))
    (isKnown : ∀ order ∈ orderBy, order.field ∈ known) {left right : α} (isLeft : left ∈ records)
    (isRight : right ∈ records) :
    compareDocuments (document left) (document right) (orderBy.map sortFieldOf) =
      compareBy (value left) (value right) orderBy := by
  induction orderBy with
  | nil => rfl
  | cons order rest ih =>
      have fieldKnown := isKnown order List.mem_cons_self
      have others := ih fun other member => isKnown other (List.mem_cons_of_mem _ member)
      have sorted := (mirrored.stored left isLeft _ fieldKnown).sortCompare_eq
        (mirrored.stored right isRight _ fieldKnown) (mirrored.admitted left isLeft _ fieldKnown)
        (mirrored.admitted right isRight _ fieldKnown)
      rw [List.map_cons, compareDocuments, others, compareBy]
      simp only [SortField.compare, sortFieldOf, atPath?_of_plain (plain _ fieldKnown), sorted]

/-- Sort keys put rows in the order of their records. -/
theorem Mirrored.compareKeys_eq (mirrored : Mirrored known value document records)
    (naming : Naming) (isKnown : ∀ order ∈ orderBy, order.field ∈ known) {left right : α}
    (isLeft : left ∈ records) (isRight : right ∈ records) :
    Relational.compareKeys (orderBy.map (Relational.sortKeyOfOrder naming))
        (orderBy.map fun order => value left order.field)
        (orderBy.map fun order => value right order.field) =
      compareBy (value left) (value right) orderBy := by
  induction orderBy with
  | nil => rfl
  | cons order rest ih =>
      have fieldKnown := isKnown order List.mem_cons_self
      have others := ih fun other member => isKnown other (List.mem_cons_of_mem _ member)
      have sorted := Cell.compareKey_eq (mirrored.admitted left isLeft _ fieldKnown)
        (mirrored.admitted right isRight _ fieldKnown)
        (Relational.columnOfField naming order.field) (order.direction == .ascending)
      rw [List.map_cons, List.map_cons, List.map_cons, Relational.compareKeys, others, compareBy,
        Relational.sortKeyOfOrder, sorted]

theorem Mirrored.sortDocuments_map (mirrored : Mirrored known value document records)
    (plain : ∀ field ∈ known, PlainName (keyName field))
    (isKnown : ∀ order ∈ orderBy, order.field ∈ known) :
    sortDocuments (records.map document) (orderBy.map sortFieldOf) =
      (sortBy value orderBy records).map document := by
  refine (List.map_mergeSort fun left isLeft right isRight => ?_).symm
  rw [mirrored.compareDocuments_eq plain isKnown isLeft isRight]

theorem Mirrored.sortRows_map (mirrored : Mirrored known value document records) (naming : Naming)
    (isKnown : ∀ order ∈ orderBy, order.field ∈ known) {row : α → Relational.OrderedRow}
    (keys : ∀ record ∈ records,
      (row record).keys = orderBy.map fun order => value record order.field) :
    Relational.sortRows (orderBy.map (Relational.sortKeyOfOrder naming)) (records.map row) =
      (sortBy value orderBy records).map row := by
  refine (List.map_mergeSort fun left isLeft right isRight => ?_).symm
  rw [keys left isLeft, keys right isRight, mirrored.compareKeys_eq naming isKnown isLeft isRight]

theorem mem_sortBy {record : α} : record ∈ sortBy value orderBy records ↔ record ∈ records :=
  List.mem_mergeSort

end Sorting

section Filtering

variable {α : Type} {known : List PlanField} {value : α → PlanField → Cell}
  {document : α → Document} {row : α → List Cell} {records : List α}

/-- The records on which the filter of a plan is true. -/
def keptRecords (filter : Option Predicate) (value : α → PlanField → Cell) (records : List α) :
    List α :=
  match filter with
  | none => records
  | some predicate => records.filter fun record => (predicate.truth (value record)).holds

theorem mem_of_mem_keptRecords {filter : Option Predicate} {record : α}
    (member : record ∈ keptRecords filter value records) : record ∈ records := by
  cases filter with
  | none => exact member
  | some predicate => exact (List.mem_filter.mp member).1

/-- The condition of a statement keeps the rows of the records on which its filter is true. -/
theorem Mirrored.filter_rows (mirrored : Mirrored known value document records)
    {filter : Option Predicate}
    (portable : ∀ predicate, filter = some predicate → predicate.Portable known)
    {naming : Naming} {scope : Relational.Scope}
    (reads : ∀ record ∈ records, ∀ field ∈ known,
      scope.evaluate (row record) (Relational.columnOfField naming field) =
        .ok (value record field)) :
    scope.filter (filter.map (Relational.condition naming)) (records.map row) =
      .ok ((keptRecords filter value records).map row) := by
  cases filter with
  | none => rfl
  | some predicate =>
      have isPortable := portable predicate rfl
      refine Relational.Scope.holding_map fun record member => ?_
      have wellKinded := isPortable.wellKinded (mirrored.admitted record member)
      exact Relational.truth_condition wellKinded.comparable isPortable.scalars
        fun field tested => reads record member field (isPortable.fields_known field tested)

/-- The first stage of a pipeline keeps the documents of the records on which its filter is
true. -/
theorem Mirrored.filter_documents (mirrored : Mirrored known value document records)
    {filter : Option Predicate}
    (portable : ∀ predicate, filter = some predicate → predicate.Portable known)
    (direct : ∀ field ∈ known, field.isJoined = false)
    (plain : ∀ field ∈ known, PlainName (keyName field)) :
    ∃ stages, matchStages filter = .ok stages ∧
      stages.foldlM runStage (records.map document) =
        .ok ((keptRecords filter value records).map document) := by
  cases filter with
  | none => exact ⟨[], rfl, rfl⟩
  | some predicate =>
      obtain ⟨filter, compiled, passes⟩ := (portable predicate rfl).passes_filter direct plain
      refine ⟨[single "$match" filter], ?_, ?_⟩
      · rw [matchStages, compiled]
        rfl
      · have kept := keepPassing_map fun record member =>
          passes (value record) (document record) (mirrored.admitted record member)
            (mirrored.stored record member)
        rw [List.foldlM_cons, runStage_match, kept]
        rfl

end Filtering

end CrossQuery
