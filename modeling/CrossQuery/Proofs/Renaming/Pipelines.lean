import CrossQuery.Proofs.Collection.Compound
import CrossQuery.Proofs.Collection.Grouped
import CrossQuery.Proofs.Outcome
import CrossQuery.Proofs.Renaming.Stores

/-!
# Stages under new names

Stages in which the names of fields are changed as in the documents make the same of these, under
the changed names, where no name is read as a path or as an operator.
-/

set_option autoImplicit false

namespace CrossQuery.Collection

open Outcome

/-- New names for the fields of documents, apart from those that stages make up. -/
structure Respells (image : String → String) : Prop where
  injective : Function.Injective image
  identifier : image "_id" = "_id"
  aggregate : image aggregateField = aggregateField

/-- A key, and the one that has its place in a pipeline over documents with new names. -/
structure Tracks (image : String → String) (key other : String) : Prop where
  named : other = image key
  path : ∀ document, atPath? (Document.mapKeys image document) other = atPath? document key
  operators : isOperator key = false ∧ isOperator other = false ∨ other = key

/-- An expression, and one that has its value on documents with new names. -/
def Keeps (image : String → String) (expression other : Json) : Prop :=
  ∀ document, evaluate (Document.mapKeys image document) other = evaluate document expression

/-- A stage, and one that makes the same of documents with new names. -/
def Carries (image : String → String) (stage other : Json) : Prop :=
  ∀ documents, Mirrors (List.map (Document.mapKeys image)) (runStage documents stage)
    (runStage (documents.map (Document.mapKeys image)) other)

variable {image : String → String} {document : Document} {documents : List Document}

section Keys

variable {key other : String}

theorem atPath?_eq_follow (document : Document) (path : String) :
    atPath? document path = follow (.object document) (pathOf path) := rfl

/-- A path leads to the same value where the name that it begins with stays. -/
theorem atPath?_mapKeys (injective : Function.Injective image)
    (steady : ∀ head, (pathOf key).head? = some head → image head = head) (document : Document) :
    atPath? (document.mapKeys image) key = atPath? document key := by
  rw [atPath?_eq_follow, atPath?_eq_follow]
  cases isPath : pathOf key with
  | nil =>
      have noParts := List.map_eq_nil_iff.mp isPath
      exact absurd noParts (Text.splitAt_ne_nil _ _)
  | cons head rest =>
      have stays : image head = head := steady head (congrArg List.head? isPath)
      have sameValue : Json.lookup? (image head) (document.mapKeys image) =
          Json.lookup? head document := lookup?_mapKeys injective
      rw [stays] at sameValue
      rw [follow, follow]
      simp only [sameValue]

theorem tracks_of_steady (injective : Function.Injective image) (fixed : image key = key)
    (steady : ∀ head, (pathOf key).head? = some head → image head = head) :
    Tracks image key key where
  named := fixed.symm
  path := atPath?_mapKeys injective steady
  operators := .inr rfl

theorem tracks_of_plain (injective : Function.Injective image) (plain : PlainName key)
    (plainImage : PlainName (image key)) : Tracks image key (image key) where
  named := rfl
  path document := by
    rw [atPath?_of_plain plainImage, atPath?_of_plain plain, lookup?_mapKeys injective]
  operators := .inl ⟨plain.noOperator, plainImage.noOperator⟩

theorem Tracks.keeps (tracks : Tracks image key other) :
    Keeps image (.string (pathText key)) (.string (pathText other)) := by
  intro document
  rw [evaluate_pathText, evaluate_pathText, tracks.path]

theorem Keeps.size {expression other : Json} (keeps : Keeps image expression other) :
    Keeps image (single "$size" expression) (single "$size" other) := by
  intro document
  rw [single, single, evaluate, evaluate, keeps]

end Keys

section Matching

variable {filter other : Json}

/-- A filter on one field judges a document as it did, if its condition is made of operators. -/
theorem Tracks.passes {key otherKey : String} (tracks : Tracks image key otherKey)
    (entries : List (String × Json)) (document : Document) :
    passes (document.mapKeys image) (single otherKey (.object entries)) =
      passes document (single key (.object entries)) := by
  rcases tracks.operators with ⟨noOperator, otherNone⟩ | rfl
  · rw [passes_path otherNone, passes_path noOperator, tracks.path]
  · simp only [Collection.passes, single, passesEntries, tracks.path]
    rfl

theorem passesEach_mapKeys {filters others : List Json}
    (each : List.Forall₂ (fun filter other => ∀ document,
      passes (Document.mapKeys image document) other = passes document filter) filters others)
    (document : Document) :
    passesEach (document.mapKeys image) others = passesEach document filters := by
  induction each with
  | nil => rfl
  | cons same _ ih => rw [passesEach, passesEach, same, ih]

/-- A connective joins the judgements of its clauses. -/
theorem passes_connective_mapKeys {filters others : List Json} (connective : Connective)
    (each : List.Forall₂ (fun filter other => ∀ document,
      passes (Document.mapKeys image document) other = passes document filter) filters others)
    (document : Document) :
    passes (document.mapKeys image) (single connective.name (.array others)) =
      passes document (single connective.name (.array filters)) := by
  rw [passes_connective, passes_connective, passesEach_mapKeys each]

theorem carries_match
    (same : ∀ document, passes (Document.mapKeys image document) other = passes document filter) :
    Carries image (single "$match" filter) (single "$match" other) := by
  intro documents
  rw [runStage_match, runStage_match]
  induction documents with
  | nil => exact .ok rfl
  | cons document rest ih =>
      rw [List.map_cons, keepPassing, keepPassing, same]
      refine (Mirrors.refl _).bind fun passed _ => ih.bind fun kept _ => ?_
      cases passed <;> exact .ok rfl

end Matching

section Sorting

/-- Entries of orders under the names of fields and under their new names. -/
def Orders (image : String → String) (entry other : String × Json) : Prop :=
  Tracks image entry.1 other.1 ∧ other.2 = entry.2

/-- Fields of orders under their names and under their new names. -/
def Sorts (image : String → String) (field other : SortField) : Prop :=
  Tracks image field.path other.path ∧ other.ascending = field.ascending

theorem Sorts.compare_eq {field other : SortField} (sorts : Sorts image field other)
    (left right : Document) :
    other.compare (left.mapKeys image) (right.mapKeys image) = field.compare left right := by
  rw [SortField.compare, SortField.compare, sorts.1.path, sorts.1.path, sorts.2]

theorem compareDocuments_mapKeys {fields others : List SortField}
    (sorts : List.Forall₂ (Sorts image) fields others) (left right : Document) :
    compareDocuments (left.mapKeys image) (right.mapKeys image) others =
      compareDocuments left right fields := by
  induction sorts with
  | nil => rfl
  | cons first _ ih => rw [compareDocuments, compareDocuments, first.compare_eq, ih]

theorem sortDocuments_mapKeys {fields others : List SortField}
    (sorts : List.Forall₂ (Sorts image) fields others) (documents : List Document) :
    sortDocuments (documents.map (Document.mapKeys image)) others =
      (sortDocuments documents fields).map (Document.mapKeys image) := by
  rw [sortDocuments, sortDocuments]
  refine (List.map_mergeSort fun left _ right _ => ?_).symm
  rw [compareDocuments_mapKeys sorts]

theorem alike_readSortField {entry other : String × Json} (orders : Orders image entry other) :
    Alike (Sorts image) (readSortField entry) (readSortField other) := by
  rw [readSortField, readSortField, orders.2]
  split
  · exact .ok ⟨orders.1, rfl⟩
  · exact .ok ⟨orders.1, rfl⟩
  · exact .error

theorem carries_sort {entries others : List (String × Json)}
    (listed : List.Forall₂ (Orders image) entries others) :
    Carries image (single "$sort" (.object entries)) (single "$sort" (.object others)) := by
  intro documents
  have sorted (entries : List (String × Json)) (documents : List Document) :
      runStage documents (single "$sort" (.object entries)) =
        (do return sortDocuments documents (← entries.mapM readSortField)) := by
    simp [runStage, single, readSort]
  rw [sorted, sorted]
  have read := Alike.mapM listed fun entry other orders => alike_readSortField orders
  exact read.bind fun fields others _ sorts => .ok (sortDocuments_mapKeys sorts documents)

end Sorting

section Window

theorem carries_skip (count : Json) : Carries image (single "$skip" count) (single "$skip" count) := by
  intro documents
  simp only [runStage, single]
  refine (Mirrors.refl _).bind fun count _ => .ok ?_
  rw [Function.id_def, List.map_drop]

theorem carries_limit (count : Json) :
    Carries image (single "$limit" count) (single "$limit" count) := by
  intro documents
  simp only [runStage, single]
  refine (Mirrors.refl _).bind fun count _ => .ok ?_
  rw [Function.id_def, List.map_take]

end Window

section Collecting

variable {relates : String × Json → String × Json → Prop} {entries others : List (String × Json)}

theorem forall₂_assign (injective : Function.Injective image)
    (named : ∀ entry other, relates entry other → other.1 = image entry.1)
    (listed : List.Forall₂ relates entries others) {key : String} {value otherValue : Json}
    (related : relates (key, value) (image key, otherValue)) :
    List.Forall₂ relates (Json.assign key value entries)
      (Json.assign (image key) otherValue others) := by
  induction listed with
  | nil => exact .cons related .nil
  | @cons entry other rest more first listed ih =>
      obtain ⟨name, old⟩ := entry
      obtain ⟨otherName, otherOld⟩ := other
      obtain rfl : otherName = image name := named _ _ first
      rw [Json.assign, Json.assign]
      simp only [injective.eq_iff]
      split
      · next same =>
          subst same
          exact .cons related listed
      · exact .cons first ih

/-- Entries are collected alike under their new names. -/
theorem forall₂_collect (injective : Function.Injective image)
    (named : ∀ entry other, relates entry other → other.1 = image entry.1)
    (listed : List.Forall₂ relates entries others) :
    List.Forall₂ relates (collect entries) (collect others) := by
  have onto {collected otherCollected : List (String × Json)}
      (before : List.Forall₂ relates collected otherCollected) :
      List.Forall₂ relates
        (entries.foldl (fun collected entry => Json.assign entry.1 entry.2 collected) collected)
        (others.foldl (fun collected entry => Json.assign entry.1 entry.2 collected)
          otherCollected) := by
    induction listed generalizing collected otherCollected with
    | nil => exact before
    | @cons entry other _ _ first _ ih =>
        obtain ⟨otherName, otherValue⟩ := other
        obtain rfl : otherName = image entry.1 := named _ _ first
        exact ih (forall₂_assign injective named before first)
  exact onto .nil

end Collecting

section Projecting

/-- Entries of projections that compute the same under the name of a field and under its new one. -/
structure Projects (image : String → String) (entry other : String × Json) : Prop where
  named : other.1 = image entry.1
  computed : Projected.ofJson entry.2 = .computed entry.2
  otherComputed : Projected.ofJson other.2 = .computed other.2
  keeps : Keeps image entry.2 other.2

variable {entries others : List (String × Json)}

theorem projectEntries_mapKeys (listed : List.Forall₂ (Projects image) entries others)
    (document : Document) :
    projectEntries (document.mapKeys image) others =
      (projectEntries document entries).map (Document.mapKeys image) := by
  induction listed with
  | nil => rfl
  | @cons entry other _ _ first _ ih =>
      obtain ⟨name, expression⟩ := entry
      obtain ⟨otherName, otherExpression⟩ := other
      obtain ⟨same, computed, otherComputed, keeps⟩ := first
      dsimp only at same computed otherComputed keeps
      rw [projectEntries, projectEntries, computed, otherComputed, ih, same]
      dsimp only
      rw [keeps]
      cases evaluate document expression with
      | error refusal => rfl
      | ok value =>
          cases projectEntries document _ with
          | error refusal => rfl
          | ok fields => cases value <;> rfl

theorem isNone_lookup?_of_forall₂ (respells : Respells image)
    (listed : List.Forall₂ (Projects image) entries others) :
    (Json.lookup? "_id" others).isNone = (Json.lookup? "_id" entries).isNone := by
  induction listed with
  | nil => rfl
  | @cons entry other _ _ first _ ih =>
      obtain ⟨name, expression⟩ := entry
      obtain ⟨otherName, otherExpression⟩ := other
      obtain rfl : otherName = image name := first.named
      have sameTest : image name = "_id" ↔ name = "_id" := by
        have both := respells.injective.eq_iff (a := name) (b := "_id")
        rwa [respells.identifier] at both
      rw [Json.lookup?, Json.lookup?]
      simp only [sameTest]
      split
      · rfl
      · exact ih

theorem keptId_mapKeys (respells : Respells image)
    (listed : List.Forall₂ (Projects image) entries others) (document : Document) :
    keptId (document.mapKeys image) others = Document.mapKeys image (keptId document entries) := by
  have sameNone := isNone_lookup?_of_forall₂ respells listed
  have sameId : Json.lookup? (image "_id") (document.mapKeys image) =
      Json.lookup? "_id" document := lookup?_mapKeys respells.injective
  rw [respells.identifier] at sameId
  rw [keptId, keptId, sameId]
  cases isEntry : Json.lookup? "_id" entries with
  | some choice =>
      rw [isEntry, Option.isNone_some, Option.isNone_eq_false_iff] at sameNone
      obtain ⟨otherChoice, isOther⟩ := Option.isSome_iff_exists.mp sameNone
      rw [isOther]
      rfl
  | none =>
      rw [isEntry, Option.isNone_none, Option.isNone_iff_eq_none] at sameNone
      rw [sameNone]
      cases Json.lookup? "_id" document with
      | none => rfl
      | some id =>
          change [("_id", id)] = [(image "_id", id)]
          rw [respells.identifier]

theorem carries_project (respells : Respells image)
    (listed : List.Forall₂ (Projects image) entries others) :
    Carries image (single "$project" (.object (collect entries)))
      (single "$project" (.object (collect others))) := by
  intro documents
  have collected := forall₂_collect respells.injective
    (fun entry other (projects : Projects image entry other) => projects.named) listed
  rw [runStage_project, runStage_project]
  refine Mirrors.mapM fun document _ => ?_
  rw [project, project, keptId_mapKeys respells collected, projectEntries_mapKeys collected]
  cases projectEntries document (collect entries) with
  | error refusal => exact .error
  | ok fields => exact .ok List.map_append.symm

end Projecting

section Grouping

/-- Keys of groups that differ in their names have the same values under their new names. -/
theorem compoundIdentifier_mapKeys {keys others : List String}
    (tracked : List.Forall₂ (Tracks image) keys others) (document : Document) :
    compoundIdentifier others (document.mapKeys image) = compoundIdentifier keys document := by
  have parts (start : Nat) :
      ((others.zipIdx start).map fun entry =>
        (breakoutName entry.2, (atPath? (document.mapKeys image) entry.1).getD .null)) =
      (keys.zipIdx start).map fun entry =>
        (breakoutName entry.2, (atPath? document entry.1).getD .null) := by
    induction tracked generalizing start with
    | nil => rfl
    | cons first _ ih =>
        rw [List.zipIdx_cons, List.zipIdx_cons, List.map_cons, List.map_cons, ih, first.path]
  exact congrArg Json.object (parts 0)

/-- The identifier of groups has a value on each document, which stays under the new names. -/
theorem exists_identifiers {keys others : List String}
    (tracked : List.Forall₂ (Tracks image) keys others) :
    ∃ identifier otherIdentifier : Document → Json,
      (∀ document, evaluate document (groupIdentifier keys) = .ok (some (identifier document))) ∧
      (∀ document, evaluate document (groupIdentifier others) =
        .ok (some (otherIdentifier document))) ∧
      ∀ document, otherIdentifier (Document.mapKeys image document) = identifier document := by
  cases tracked with
  | nil => exact ⟨_, _, evaluate_identifier_nil, evaluate_identifier_nil, fun _ => rfl⟩
  | cons first rest =>
      exact ⟨_, _, evaluate_identifier (List.cons_ne_nil _ _),
        evaluate_identifier (List.cons_ne_nil _ _), compoundIdentifier_mapKeys (.cons first rest)⟩

/-- Accumulators that sum up the same under the names of fields and under their new names. -/
structure TotalsAlike (image : String → String) (before after : Json) : Prop where
  exists_shares : ∃ (name : String) (argument otherArgument : Json) (sums : Accumulator)
    (share otherShare : Document → Option Json),
      before = single name argument ∧ after = single name otherArgument ∧
      Accumulator.ofName? name = some sums ∧
      (∀ document, evaluate document argument = .ok (share document)) ∧
      (∀ document, evaluate document otherArgument = .ok (otherShare document)) ∧
      ∀ document, otherShare (Document.mapKeys image document) = share document

theorem totalsAlike_of_tracks {key other name : String} {sums : Accumulator}
    (tracks : Tracks image key other) (named : Accumulator.ofName? name = some sums) :
    TotalsAlike image (single name (.string (pathText key)))
      (single name (.string (pathText other))) :=
  ⟨name, _, _, sums, _, _, rfl, rfl, named, fun document => evaluate_pathText document key,
    fun document => evaluate_pathText document other, tracks.path⟩

theorem carries_group (respells : Respells image) {keys others : List String}
    (tracked : List.Forall₂ (Tracks image) keys others) {accumulator otherAccumulator : Json}
    (totals : TotalsAlike image accumulator otherAccumulator) :
    Carries image
      (single "$group" (.object [("_id", groupIdentifier keys), (aggregateField, accumulator)]))
      (single "$group"
        (.object [("_id", groupIdentifier others), (aggregateField, otherAccumulator)])) := by
  intro documents
  obtain ⟨identifier, otherIdentifier, identified, otherIdentified, sameId⟩ :=
    exists_identifiers tracked
  obtain ⟨name, argument, otherArgument, sums, share, otherShare, rfl, rfl, named, evaluated,
    otherEvaluated, sameShare⟩ := totals.exists_shares
  have grouped (specification : Json) (documents : List Document) :
      runStage documents (single "$group" specification) =
        groupDocuments documents specification := by
    simp [runStage, single]
  rw [grouped, grouped, groupDocuments_single identified named evaluated,
    groupDocuments_single otherIdentified named otherEvaluated]
  have agree : Grouping.KeysAgree (fun document => groupKey (identifier document))
      (fun document => groupKey (otherIdentifier document)) (Document.mapKeys image) documents :=
    .of_same fun document _ => by rw [sameId]
  rw [Grouping.groups_map agree, List.map_map]
  refine .ok ?_
  rw [List.map_map]
  refine List.map_congr_left fun group _ => ?_
  have stays : Document.mapKeys image (totalDocument identifier sums share group) =
      totalDocument identifier sums share group := by
    change [(image "_id", _), (image aggregateField, _)] = _
    rw [respells.identifier, respells.aggregate]
    rfl
  rw [Function.comp_apply, Function.comp_apply, stays]
  simp only [totalDocument, List.map_map, Function.comp_def, sameId, sameShare]

end Grouping

section Pipelines

/-- Stages that each make the same under the new names do so one after the other. -/
theorem mirrors_run {stages others : List Json} (carried : List.Forall₂ (Carries image) stages others)
    (documents : List Document) :
    Mirrors (List.map (Document.mapKeys image)) (stages.foldlM runStage documents)
      (others.foldlM runStage (documents.map (Document.mapKeys image))) := by
  induction carried generalizing documents with
  | nil => exact .ok rfl
  | cons first _ ih =>
      rw [List.foldlM_cons, List.foldlM_cons]
      exact (first documents).bind fun made _ => ih made

end Pipelines

end CrossQuery.Collection
