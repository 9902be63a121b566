import CrossQuery.Proofs.Collection.Stages
import CrossQuery.Proofs.Grouping

/-!
# What a group stage does to documents

A group stage puts documents together by the value of one field or all into one group, and the
projection behind it takes the value and the aggregate out of what the stage makes.
-/

set_option autoImplicit false

namespace CrossQuery.Collection

/-- The document of a group: its identifier, and what an accumulator yields of its shares. -/
def totalDocument (identifier : Document → Json) (accumulator : Accumulator)
    (share : Document → Option Json) (group : Document × List Document) : Document :=
  [("_id", identifier group.1),
    (aggregateField, accumulator.apply (group.2.map fun document => (share document).getD .null))]

section Group

variable {id argument : Json} {name : String} {accumulator : Accumulator}
  {identifier : Document → Json} {share : Document → Option Json} {documents : List Document}

theorem readGroup_single (id : Json) (name : String) (argument : Json) :
    readGroup (.object [("_id", id), (aggregateField, single name argument)]) =
      .ok ⟨id, [⟨aggregateField, name, argument⟩]⟩ := rfl

theorem contribution_single
    (identified : ∀ document, evaluate document id = .ok (some (identifier document)))
    (named : Accumulator.ofName? name = some accumulator)
    (evaluated : ∀ document, evaluate document argument = .ok (share document))
    (document : Document) :
    (GroupSpec.mk id [⟨aggregateField, name, argument⟩]).contribution document =
      .ok ⟨identifier document, [⟨aggregateField, accumulator, (share document).getD .null⟩]⟩ := by
  simp [GroupSpec.contribution, identified, Output.accumulate, named, Output.share, evaluated]

/-- A group stage makes one document of each group. -/
theorem groupDocuments_single
    (identified : ∀ document, evaluate document id = .ok (some (identifier document)))
    (named : Accumulator.ofName? name = some accumulator)
    (evaluated : ∀ document, evaluate document argument = .ok (share document))
    (documents : List Document) :
    groupDocuments documents (.object [("_id", id), (aggregateField, single name argument)]) =
      .ok ((Grouping.groups (fun document => groupKey (identifier document)) documents).map
        (totalDocument identifier accumulator share)) := by
  have contributed : documents.mapM
      (GroupSpec.mk id [⟨aggregateField, name, argument⟩]).contribution =
        .ok (documents.map fun document =>
          ⟨identifier document, [⟨aggregateField, accumulator, (share document).getD .null⟩]⟩) :=
    Outcome.mapM_eq_ok_map fun document _ =>
      contribution_single identified named evaluated document
  have agree : Grouping.KeysAgree (fun document => groupKey (identifier document))
      (fun contribution : Contribution => groupKey contribution.id)
      (fun document => ⟨identifier document,
        [⟨aggregateField, accumulator, (share document).getD .null⟩]⟩) documents :=
    .of_same fun _ _ => rfl
  rw [groupDocuments, readGroup_single, Outcome.ok_bind, contributed, Outcome.ok_bind,
    Grouping.groups_map agree, List.map_map]
  refine congrArg Except.ok (List.map_congr_left fun group _ => ?_)
  simp [groupResult, resultFields, totalDocument, List.filterMap_map, Function.comp_def]

end Group

section Identifier

theorem evaluate_identifier_nil (document : Document) :
    evaluate document (groupIdentifier []) = .ok (some .null) := rfl

theorem breakoutName_zero : breakoutName 0 = "f0" := by decide

/-- The identifier of a group of one field holds the value of the field. -/
def fieldIdentifier (key : String) (document : Document) : Json :=
  .object [("f0", (Json.lookup? key document).getD .null)]

theorem evaluate_identifier_single {key : String} (plain : PlainName key) (document : Document) :
    evaluate document (groupIdentifier [key]) = .ok (some (fieldIdentifier key document)) := by
  have value : evaluateText document (pathText key) = Json.lookup? key document :=
    Except.ok.inj (evaluate_path plain document)
  rw [show groupIdentifier [key] = .object [("f0", .string (pathText key))] from rfl]
  simp [evaluate, evaluateEntries, value, isOperator, fieldIdentifier]

/-- The key of the identifier that holds a value with the given key. -/
def identifierKey (key : String) : String :=
  "\x7b" ++ ("f0=" ++ key) ++ "\x7d"

theorem groupKey_fieldIdentifier (key : String) (document : Document) :
    groupKey (fieldIdentifier key document) =
      identifierKey (groupKey ((Json.lookup? key document).getD .null)) := by
  rw [fieldIdentifier, groupKey, groupKeys, groupKeys]
  rfl

theorem identifierKey_injective {left right : String}
    (same : identifierKey left = identifierKey right) : left = right := by
  have characters := congrArg String.toList same
  simp only [identifierKey, String.toList_append] at characters
  exact String.toList_injective (List.append_cancel_left
    (List.append_cancel_left (List.append_cancel_right characters)))

end Identifier

section Projection

variable {key : String} {value total result expression : Json}

/-- What the projection of groups of one field makes of the document of a group. -/
def groupedDocument (key : String) (value result : Json) : Document :=
  (if key = "_id" then [] else [("_id", .object [("f0", value)])]) ++
    [(key, value), (aggregateField, result)]

theorem lookup?_groupedDocument_key (key : String) (value result : Json) :
    Json.lookup? key (groupedDocument key value result) = some value := by
  unfold groupedDocument
  split
  · simp [Json.lookup?]
  · next differs => simp [Json.lookup?, Ne.symm differs]

theorem lookup?_groupedDocument_aggregate (differs : key ≠ aggregateField)
    (value result : Json) :
    Json.lookup? aggregateField (groupedDocument key value result) = some result := by
  have notId : "_id" ≠ aggregateField := by decide
  unfold groupedDocument
  split
  · simp [Json.lookup?, differs]
  · simp [Json.lookup?, differs, notId]

theorem evaluate_identifierPath (value total : Json) :
    evaluate [("_id", .object [("f0", value)]), (aggregateField, total)]
        (.string (pathText ("_id." ++ breakoutName 0))) =
      .ok (some value) := by
  rw [breakoutName_zero]
  rfl

theorem projectEntries_nil (document : Document) : projectEntries document [] = .ok [] := rfl

theorem projectEntries_computed (name : String) {document others : Document}
    {rest : List (String × Json)} (isComputed : Projected.ofJson expression = .computed expression)
    (computed : evaluate document expression = .ok (some result))
    (run : projectEntries document rest = .ok others) :
    projectEntries document ((name, expression) :: rest) = .ok ((name, result) :: others) := by
  simp [projectEntries, isComputed, computed, run]

/-- The projection of groups of one field. -/
theorem project_grouped (differs : key ≠ aggregateField)
    (isComputed : Projected.ofJson expression = .computed expression)
    (computed : evaluate [("_id", .object [("f0", value)]), (aggregateField, total)] expression =
      .ok (some result)) :
    project
        (.object (collect [(key, .string (pathText ("_id." ++ breakoutName 0))),
          (aggregateField, expression)]))
        [("_id", .object [("f0", value)]), (aggregateField, total)] =
      .ok (groupedDocument key value result) := by
  have distinct : ([(key, Json.string (pathText ("_id." ++ breakoutName 0))),
      (aggregateField, expression)].map Prod.fst).Nodup := by
    simpa using differs
  have notId : aggregateField ≠ "_id" := by decide
  have kept : keptId [("_id", .object [("f0", value)]), (aggregateField, total)]
      [(key, .string (pathText ("_id." ++ breakoutName 0))), (aggregateField, expression)] =
        if key = "_id" then [] else [("_id", .object [("f0", value)])] := by
    unfold keptId
    by_cases same : key = "_id"
    · simp [Json.lookup?, same]
    · simp [Json.lookup?, same, notId]
  have run := projectEntries_computed key rfl (evaluate_identifierPath value total)
    (projectEntries_computed aggregateField isComputed computed (projectEntries_nil _))
  rw [collect_of_nodup distinct, project, kept, run]
  rfl

/-- The projection of the only group. -/
theorem project_total {id : Json} (isComputed : Projected.ofJson expression = .computed expression)
    (computed : evaluate [("_id", id), (aggregateField, total)] expression = .ok (some result)) :
    project (.object (collect [(aggregateField, expression)]))
        [("_id", id), (aggregateField, total)] =
      .ok [("_id", id), (aggregateField, result)] := by
  have collected : collect [(aggregateField, expression)] = [(aggregateField, expression)] := rfl
  have kept : keptId [("_id", id), (aggregateField, total)] [(aggregateField, expression)] =
      [("_id", id)] := rfl
  rw [collected, project, kept,
    projectEntries_computed aggregateField isComputed computed (projectEntries_nil _)]
  rfl

end Projection

end CrossQuery.Collection
