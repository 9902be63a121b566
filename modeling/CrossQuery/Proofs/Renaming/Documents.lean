import CrossQuery.Engine.Store
import CrossQuery.Proofs.Collection.Pipelines
import CrossQuery.Proofs.Renaming.Pipelines
import CrossQuery.Proofs.Renaming.Sources
import CrossQuery.Proofs.Renaming.Tables

/-!
# Collections under new names

A store of documents answers a plan with the same rows after a field of its dataset has another
name, unless one of the names is read as a path or as an operator, or is that of an aggregate.
-/

set_option autoImplicit false

namespace CrossQuery.Renaming

open Collection Outcome

variable {dataset : Dataset} {change : Renaming dataset} {plan : Plan}

theorem KeepsKeys.respells (keeps : change.KeepsKeys) : Respells change.key where
  injective := change.key.injective
  identifier := key_of_not_mem fun isOwn => (keeps.opaqueNames _ isOwn).notIdentifier rfl
  aggregate := key_of_not_mem fun isOwn => (keeps.opaqueNames _ isOwn).notAggregate rfl

section Fields

theorem KeepsKeys.tracks_other (keeps : change.KeepsKeys) {other : DatasetField}
    (isOther : other ∈ change.left ++ change.right) :
    Tracks change.key other.documentKey other.documentKey := by
  refine tracks_of_steady change.key.injective (key_of_not_mem (keeps.not_mem isOther)) ?_
  intro head isHead
  exact key_of_not_mem fun isOwn => keeps.steady other isOther head isOwn isHead

theorem KeepsKeys.tracks_field (keeps : change.KeepsKeys) :
    Tracks change.key change.field.name change.name := by
  have plain : PlainName change.field.name := (keeps.opaqueNames _ List.mem_cons_self).plain
  have plainNew : PlainName change.name :=
    (keeps.opaqueNames _ (List.mem_cons_of_mem _ List.mem_cons_self)).plain
  rw [← key_field] at plainNew ⊢
  exact tracks_of_plain change.key.injective plain plainNew

/-- Fields whose keys are those that their old keys become. -/
def Follows (change : Renaming dataset) (field : PlanField) : Prop :=
  Alike (Tracks change.key) (keyOfField field) (keyOfField (field.mapFields change.rename))

theorem KeepsKeys.follows (keeps : change.KeepsKeys) (reads : plan.OfSource dataset.catalog)
    (isOwn : plan.source.id = change.tableId) : ∀ field ∈ plan.fields, change.Follows field := by
  intro field member
  obtain ⟨own, rfl, found, here⟩ := reads.named field member
  refine .ok ?_
  change Tracks change.key (Naming.documentKeys.spellField own)
    (Naming.documentKeys.spellField (change.rename own))
  rw [← Dataset.keyOfTraits_field, ← Dataset.keyOfTraits_field]
  rcases traits_of_own found (here.trans isOwn) with
    ⟨concerned, traits⟩ | ⟨untouched, other, isOther, traits⟩
  · have newTraits : (change.rename own).traits = change.newField.traits := by
      rw [rename_of_concerns concerned]
      exact congrArg (Prod.mk change.name) (congrArg Prod.snd traits)
    rw [newTraits, traits, Dataset.keyOfTraits_original, Dataset.keyOfTraits_original,
      documentKey_field, documentKey_newField]
    exact keeps.tracks_field
  · rw [rename_of_not_concerns untouched, traits, Dataset.keyOfTraits_original]
    exact keeps.tracks_other isOther

end Fields

section Filters

/-- Filters that judge the documents under the old names and those under the new ones alike. -/
def Judges (change : Renaming dataset) (filter other : Json) : Prop :=
  ∀ document, passes (Document.mapKeys change.key document) other = passes document filter

theorem alike_test {field : PlanField} (follows : change.Follows field)
    (entries : List (String × Json)) :
    Alike change.Judges (do return single (← keyOfField field) (.object entries))
      (do return single (← keyOfField (field.mapFields change.rename)) (.object entries)) :=
  follows.bind fun _ _ _ tracks => .ok (tracks.passes entries)

mutual

theorem alike_filterOf : (predicate : Predicate) →
    (∀ field ∈ predicate.fields, change.Follows field) →
    Alike change.Judges (filterOf predicate) (filterOf (predicate.mapFields change.rename))
  | .and clauses, follow => by
      rw [Predicate.mapFields, filterOf, filterOf]
      exact (alike_filtersOf clauses follow).bind fun _ _ _ each =>
        .ok (passes_connective_mapKeys .and each)
  | .or clauses, follow => by
      rw [Predicate.mapFields, filterOf, filterOf]
      exact (alike_filtersOf clauses follow).bind fun _ _ _ each =>
        .ok (passes_connective_mapKeys .or each)
  | .not clause, follow => by
      rw [Predicate.mapFields, filterOf, filterOf]
      exact (alike_filterOf clause follow).bind fun _ _ _ judges =>
        .ok (passes_connective_mapKeys .nor (.cons judges .nil))
  | .compare field comparison value, follow => by
      rw [Predicate.mapFields, filterOf, filterOf]
      have follows := follow field (List.mem_singleton_self field)
      cases comparison <;> exact alike_test follows _
  | .between field least greatest, follow => by
      rw [Predicate.mapFields, filterOf, filterOf]
      exact alike_test (follow field (List.mem_singleton_self field)) _
  | .isNull field negated, follow => by
      rw [Predicate.mapFields, filterOf, filterOf]
      exact alike_test (follow field (List.mem_singleton_self field)) _
  | .startsWith field value, follow => by
      rw [Predicate.mapFields, filterOf, filterOf]
      exact alike_test (follow field (List.mem_singleton_self field)) _
  | .contains field value, follow => by
      rw [Predicate.mapFields, filterOf, filterOf]
      exact alike_test (follow field (List.mem_singleton_self field)) _

theorem alike_filtersOf : (clauses : List Predicate) →
    (∀ field ∈ Predicate.fieldsOfEach clauses, change.Follows field) →
    Alike (List.Forall₂ change.Judges) (filtersOf clauses)
      (filtersOf (Predicate.mapFieldsOfEach change.rename clauses))
  | [], _ => .ok .nil
  | clause :: rest, follow => by
      rw [Predicate.mapFieldsOfEach, filtersOf, filtersOf]
      refine (alike_filterOf clause fun field member =>
        follow field (List.mem_append_left _ member)).bind fun _ _ _ judges => ?_
      refine (alike_filtersOf rest fun field member =>
        follow field (List.mem_append_right _ member)).bind fun _ _ _ each => ?_
      exact .ok (.cons judges each)

end

end Filters

/-- Stages that make the same under the old names and under the new ones. -/
abbrev Matches (change : Renaming dataset) (stages others : List Json) : Prop :=
  List.Forall₂ (Carries change.key) stages others

theorem alike_matchStages (follow : ∀ field ∈ plan.fields, change.Follows field) :
    Alike change.Matches (matchStages plan.filter)
      (matchStages (plan.mapFields change.rename).filter) := by
  dsimp only [Plan.mapFields]
  cases isFilter : plan.filter with
  | none => exact .ok .nil
  | some predicate =>
      refine (alike_filterOf predicate fun field tested =>
        follow field (Plan.mem_fields_of_filter isFilter tested)).bind fun _ _ _ judges => ?_
      exact .ok (.cons (carries_match judges) .nil)

section Orders

theorem alike_sortEntries (follow : ∀ field ∈ plan.fields, change.Follows field) :
    Alike (List.Forall₂ (Orders change.key)) (plan.orderBy.mapM sortEntry)
      ((plan.mapFields change.rename).orderBy.mapM sortEntry) := by
  have listed : List.Forall₂ (fun order (other : PlanOrder) =>
      change.Follows order.field ∧ other = order.mapFields change.rename)
      plan.orderBy (plan.orderBy.map (PlanOrder.mapFields change.rename)) := by
    rw [List.forall₂_map_right_iff, List.forall₂_same]
    exact fun order isOrder => ⟨follow _ (Plan.mem_fields_of_order isOrder), rfl⟩
  refine Alike.mapM listed fun order other ⟨follows, same⟩ => ?_
  rw [same]
  exact follows.bind fun key otherKey _ tracks => .ok ⟨tracks, rfl⟩

theorem matches_sortStages {entries others : List (String × Json)}
    (listed : List.Forall₂ (Orders change.key) entries others) :
    change.Matches (sortStages entries) (sortStages others) := by
  have collected := forall₂_collect change.key.injective
    (fun entry other (orders : Orders change.key entry other) => orders.1.named) listed
  cases listed with
  | nil => exact .nil
  | cons first rest => exact .cons (carries_sort collected) .nil

theorem matches_windowStages (offset limit : Option Nat) :
    change.Matches (windowStages offset limit) (windowStages offset limit) := by
  rw [Matches, List.forall₂_same]
  intro stage isStage
  rcases List.mem_append.mp isStage with isSkip | isLimit
  · obtain ⟨count, _, rfl⟩ := Option.map_eq_some_iff.mp (Option.mem_toList.mp isSkip)
    exact carries_skip _
  · obtain ⟨count, _, rfl⟩ := Option.map_eq_some_iff.mp (Option.mem_toList.mp isLimit)
    exact carries_limit _

end Orders

section Columns

/-- Columns whose fields have the keys that their old keys become. -/
def FollowsEach (change : Renaming dataset) (column other : PlanColumn) : Prop :=
  (∀ field ∈ column.fields, change.Follows field) ∧ other = column.mapFields change.rename

theorem followsEach_columns (follow : ∀ field ∈ plan.fields, change.Follows field) :
    List.Forall₂ change.FollowsEach plan.columns (plan.mapFields change.rename).columns := by
  dsimp only [Plan.mapFields]
  rw [List.forall₂_map_right_iff, List.forall₂_same]
  exact fun column isColumn =>
    ⟨fun field shown => follow field (Plan.mem_fields_of_column isColumn shown), rfl⟩

theorem alike_outputKey (keeps : change.KeepsKeys) {column other : PlanColumn}
    (follows : change.FollowsEach column other) :
    Alike (fun key otherKey => otherKey = change.key key) (outputKey column) (outputKey other) := by
  obtain ⟨follow, rfl⟩ := follows
  cases column with
  | field shown =>
      exact (follow shown (List.mem_singleton_self shown)).imp fun _ _ tracks => tracks.named
  | aggregate kind source => exact .ok keeps.respells.aggregate.symm

/-- The columns that are read from plain documents. -/
theorem alike_plainEntries (follow : ∀ field ∈ plan.fields, change.Follows field) :
    Alike (List.Forall₂ (Option.Rel (Projects change.key))) (plan.columns.mapM plainEntry)
      ((plan.mapFields change.rename).columns.mapM plainEntry) := by
  refine Alike.mapM (followsEach_columns follow) fun column other ⟨follow, same⟩ => ?_
  subst same
  cases column with
  | field shown =>
      refine (follow shown (List.mem_singleton_self shown)).bind fun key otherKey _ tracks => ?_
      exact .ok (.some ⟨tracks.named, rfl, rfl, tracks.keeps⟩)
  | aggregate kind source => exact .ok .none

theorem keeps_identifierPath (respells : Respells change.key) (place : Nat) :
    Keeps change.key (.string (pathText ("_id." ++ breakoutName place)))
      (.string (pathText ("_id." ++ breakoutName place))) := by
  have head : (pathOf ("_id." ++ breakoutName place)).head? = some "_id" := by
    have isText : ("_id." ++ breakoutName place).toList =
        '_' :: 'i' :: 'd' :: '.' :: (breakoutName place).toList := by
      rw [String.toList_append]
      rfl
    rw [pathOf, isText]
    simp [Text.splitAt]
  intro document
  rw [evaluate_pathText, evaluate_pathText]
  refine congrArg _ (atPath?_mapKeys respells.injective (fun name isHead => ?_) document)
  rw [head] at isHead
  rw [← Option.some.inj isHead, respells.identifier]

theorem keeps_aggregate (respells : Respells change.key) :
    Keeps change.key (.string (pathText aggregateField)) (.string (pathText aggregateField)) := by
  have plainImage : PlainName (change.key aggregateField) :=
    respells.aggregate.symm ▸ plainName_aggregateField
  have tracks := tracks_of_plain respells.injective plainName_aggregateField plainImage
  rw [respells.aggregate] at tracks
  exact tracks.keeps

/-- The columns that are read from grouped documents. -/
theorem alike_groupedEntries (keeps : change.KeepsKeys)
    (follow : ∀ field ∈ plan.fields, change.Follows field) :
    Alike (List.Forall₂ (Projects change.key)) (plan.columns.mapM (groupedEntry plan.breakout))
      ((plan.mapFields change.rename).columns.mapM
        (groupedEntry (plan.mapFields change.rename).breakout)) := by
  refine Alike.mapM (followsEach_columns follow) fun column other follows => ?_
  refine (alike_outputKey keeps follows).bind fun key otherKey _ named => ?_
  obtain ⟨_, rfl⟩ := follows
  cases column with
  | field shown =>
      have samePlace : ((plan.breakout.map (PlanField.mapFields change.rename)).findIdx? fun other =>
          other.sameAs (shown.mapFields change.rename)) =
            plan.breakout.findIdx? fun other => other.sameAs shown := by
        rw [List.findIdx?_map]
        congr 1
        funext other
        exact sameAs_mapFields other shown
      dsimp only [PlanColumn.mapFields, Plan.mapFields]
      rw [samePlace]
      cases plan.breakout.findIdx? fun other => other.sameAs shown with
      | none => exact .error
      | some place => exact .ok ⟨named, rfl, rfl, keeps_identifierPath keeps.respells place⟩
  | aggregate kind source =>
      have keepsPath := keeps_aggregate keeps.respells
      cases kind with
      | distinct => exact .ok ⟨named, rfl, rfl, keepsPath.size⟩
      | count => exact .ok ⟨named, rfl, rfl, keepsPath⟩
      | sum => exact .ok ⟨named, rfl, rfl, keepsPath⟩
      | average => exact .ok ⟨named, rfl, rfl, keepsPath⟩

end Columns

section Groups

theorem alike_breakoutKeys (follow : ∀ field ∈ plan.fields, change.Follows field) :
    Alike (List.Forall₂ (Tracks change.key)) (plan.breakout.mapM keyOfField)
      ((plan.mapFields change.rename).breakout.mapM keyOfField) := by
  have listed : List.Forall₂ (fun field other =>
      change.Follows field ∧ other = field.mapFields change.rename)
      plan.breakout (plan.breakout.map (PlanField.mapFields change.rename)) := by
    rw [List.forall₂_map_right_iff, List.forall₂_same]
    exact fun field isBreakout => ⟨follow field (Plan.mem_fields_of_breakout isBreakout), rfl⟩
  exact Alike.mapM listed fun field other ⟨follows, same⟩ => same ▸ follows

theorem alike_accumulatorOf {key other : Option String} (kind : AggregateKind)
    (tracked : Option.Rel (Tracks change.key) key other) :
    Alike (TotalsAlike change.key) (accumulatorOf kind key) (accumulatorOf kind other) := by
  have counted : TotalsAlike change.key (single "$sum" (.whole 1)) (single "$sum" (.whole 1)) :=
    ⟨_, _, _, .sum, _, fun _ => some (.whole 1), rfl, rfl, rfl, fun _ => rfl, fun _ => rfl,
      fun _ => rfl⟩
  cases tracked with
  | none =>
      cases kind with
      | count => exact .ok counted
      | _ => exact .error
  | some tracks =>
      cases kind with
      | count => exact .ok counted
      | sum => exact .ok (totalsAlike_of_tracks tracks rfl)
      | average => exact .ok (totalsAlike_of_tracks tracks rfl)
      | distinct => exact .ok (totalsAlike_of_tracks tracks rfl)

theorem alike_groupStages (keeps : change.KeepsKeys)
    (follow : ∀ field ∈ plan.fields, change.Follows field) {kind : AggregateKind}
    {source : Option PlanField} (follows : ∀ field ∈ source, change.Follows field) :
    Alike change.Matches (groupStages plan kind source)
      (groupStages (plan.mapFields change.rename) kind
        (source.map (PlanField.mapFields change.rename))) := by
  have sourceKey : Alike (Option.Rel (Tracks change.key)) (source.mapM keyOfField)
      ((source.map (PlanField.mapFields change.rename)).mapM keyOfField) := by
    cases source with
    | none => exact .ok .none
    | some field =>
        rw [Option.map_some, Option.mapM_some, Option.mapM_some]
        exact (follows field rfl).map fun key other tracks => .some tracks
  refine (alike_breakoutKeys follow).bind fun keys others _ tracked => ?_
  refine sourceKey.bind fun key other _ trackedKey => ?_
  refine (alike_accumulatorOf kind trackedKey).bind fun before after _ totals => ?_
  refine (alike_groupedEntries keeps follow).bind fun entries otherEntries _ projects => .ok ?_
  exact .cons (carries_group keeps.respells tracked totals)
    (.cons (carries_project keeps.respells projects) .nil)

end Groups

theorem aggregate?_mapFields (plan : Plan) :
    (plan.mapFields change.rename).aggregate? =
      plan.aggregate?.map (Prod.map id (Option.map (PlanField.mapFields change.rename))) := by
  rw [Plan.aggregate?, Plan.aggregate?, Plan.mapFields]
  induction plan.columns with
  | nil => rfl
  | cons column rest ih =>
      rw [List.map_cons, List.findSome?_cons, List.findSome?_cons]
      cases column with
      | field shown => exact ih
      | aggregate kind source => rfl

/-- The pipeline of a plan makes the same of the documents under the new names. -/
theorem alike_pipelineOfPlan (keeps : change.KeepsKeys) (noJoins : plan.joins = [])
    (follow : ∀ field ∈ plan.fields, change.Follows field) :
    Alike (fun pipeline other => pipeline.collection = plan.source.name ∧
        other.collection = plan.source.name ∧ change.Matches pipeline.stages other.stages)
      (pipelineOfPlan plan) (pipelineOfPlan (plan.mapFields change.rename)) := by
  have noOther : (plan.mapFields change.rename).joins = [] := by
    rw [Plan.mapFields, noJoins]
    rfl
  have isAggregate : ∀ kind source, plan.aggregate? = some (kind, source) →
      ∀ field ∈ source, change.Follows field := by
    intro kind source isAggregate field isField
    obtain ⟨column, isColumn, same⟩ := List.exists_of_findSome?_eq_some isAggregate
    cases column with
    | field shown => cases same
    | aggregate kind source =>
        cases same
        refine follow field (Plan.mem_fields_of_column isColumn ?_)
        cases isField
        exact List.mem_singleton_self field
  unfold pipelineOfPlan
  rw [noJoins, noOther, aggregate?_mapFields]
  simp only [List.isEmpty_nil, Bool.not_true, Bool.false_eq_true, if_false]
  refine (alike_matchStages follow).bind fun filter otherFilter _ filters => ?_
  refine (alike_sortEntries follow).bind fun entries others _ orders => ?_
  have sorts := matches_sortStages orders
  have window := change.matches_windowStages plan.offset plan.limit
  cases isKind : plan.aggregate? with
  | none =>
      refine (alike_plainEntries follow).bind fun shown otherShown _ each => .ok ⟨rfl, rfl, ?_⟩
      have projects : List.Forall₂ (Projects change.key) (shown.filterMap id)
          (otherShown.filterMap id) :=
        List.rel_filterMap (fun _ _ related => related) each
      exact List.rel_append (List.rel_append (List.rel_append filters sorts) window)
        (.cons (carries_project keeps.respells projects) .nil)
  | some aggregate =>
      obtain ⟨kind, source⟩ := aggregate
      refine (alike_groupStages keeps follow (isAggregate kind source isKind)).bind
        fun group otherGroup _ groups => .ok ⟨rfl, rfl, ?_⟩
      exact List.rel_append (List.rel_append (List.rel_append filters groups) sorts) window

section Rows

variable {keys otherKeys : List String}

theorem rowOfDocument_mapKeys (named : List.Forall₂ (fun key other => other = change.key key)
    keys otherKeys) (document : Document) :
    rowOfDocument otherKeys (document.mapKeys change.key) = rowOfDocument keys document := by
  induction named with
  | nil => rfl
  | cons same _ ih =>
      rw [rowOfDocument, rowOfDocument, List.map_cons, List.map_cons, same,
        lookup?_mapKeys change.key.injective]
      exact congrArg (List.cons _) ih

theorem rowsOfDocuments_mapKeys (named : List.Forall₂ (fun key other => other = change.key key)
    keys otherKeys) (documents : List Document) :
    rowsOfDocuments (plan.mapFields change.rename) otherKeys
        (documents.map (Document.mapKeys change.key)) =
      rowsOfDocuments plan keys documents := by
  have each (documents : List Document) :
      (documents.map (Document.mapKeys change.key)).map (rowOfDocument otherKeys) =
        documents.map (rowOfDocument keys) := by
    rw [List.map_map]
    exact List.map_congr_left fun document _ => rowOfDocument_mapKeys named document
  unfold rowsOfDocuments
  rw [aggregate?_mapFields]
  cases documents with
  | cons document rest => exact each (document :: rest)
  | nil =>
      dsimp only [Plan.mapFields]
      cases plan.breakout with
      | cons field others => rfl
      | nil => cases plan.aggregate? <;> rfl

theorem shows_rowsetOfDocuments (plan : Plan) (keys : List String) (documents : List Document) :
    (rowsetOfDocuments plan keys (plan.columns.map Capabilities.document.columnName)
      documents).Shows plan .document (rowsOfDocuments plan keys documents) where
  rows := rfl
  names := by
    rw [rowsetOfDocuments, List.map_map]
    exact List.zipIdx_map_fst 0 _

end Rows

/-- A store of documents answers the plan with the new name as it answered the plan. -/
theorem KeepsKeys.answersAlike (keeps : change.KeepsKeys)
    (reads : plan.OfSource dataset.catalog) :
    change.AnswersAlike plan .document (dataset.documents.answerPlan plan)
      (change.renamed.documents.answerPlan (plan.mapFields change.rename)) := by
  by_cases isOwn : plan.source.id = change.tableId
  · have follow := keeps.follows reads isOwn
    refine (alike_pipelineOfPlan keeps reads.joins follow).bind
      fun pipeline other _ ⟨isSource, isOther, carried⟩ => ?_
    have keys := Alike.mapM (followsEach_columns follow) fun column other follows =>
      alike_outputKey keeps follows
    refine keys.bind fun keys otherKeys _ named => .ok ?_
    rw [Store.aggregate, Store.aggregate, isSource, isOther, name_of_own reads isOwn,
      keeps.documents.1]
    refine Alike.map (Alike.mapError (mirrors_run carried _) _ _) fun documents others same => ?_
    subst same
    refine ⟨_, shows_rowsetOfDocuments plan keys documents, ?_⟩
    rw [← rowsOfDocuments_mapKeys named]
    exact shows_rowsetOfDocuments (plan.mapFields change.rename) otherKeys _
  · have samePlan := mapFields_of_other reads isOwn
    obtain ⟨table, isTable, sameName⟩ := name_of_other reads isOwn
    rw [samePlan]
    refine (Mirrors.refl (pipelineOfPlan plan)).bind fun pipeline compiled => ?_
    refine (Mirrors.refl (plan.columns.mapM outputKey)).bind fun keys _ => .ok ?_
    have isSource : pipeline.collection = table.name :=
      (exists_stages_of_pipeline compiled).1.trans sameName
    rw [Store.aggregate, Store.aggregate, id_eq pipeline, isSource,
      keeps.documents.2 _ (keeps.alone table isTable)]
    refine Alike.map (Alike.mapError (Mirrors.refl _) _ _) fun documents others same => ?_
    rw [show others = documents from same]
    have shows := shows_rowsetOfDocuments plan keys documents
    exact ⟨_, shows, samePlan.symm ▸ shows⟩

end CrossQuery.Renaming
