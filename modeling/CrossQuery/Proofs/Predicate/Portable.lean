import CrossQuery.Proofs.Cell.Admitted
import CrossQuery.Proofs.Collection.Matching
import CrossQuery.Proofs.Relational.Conditions

/-!
# Predicates that all stores understand alike

There are no negations, fields are compared with values of their kind, and texts are searched only
in fields that show texts. On such a predicate the condition of a statement and the filter of a
pipeline agree.
-/

set_option autoImplicit false

namespace CrossQuery

namespace BaseType

/-- A value that fields of a base type are compared with. -/
structure Compares (type : BaseType) (value : Cell) : Prop where
  present : value.isNull = false
  scalar : value.Scalar
  stored : value.Stored (some value.toJson)
  sameKind : ∀ cell, type.Admits cell → cell.SameKind value

/-- The base types of which texts are searched. -/
inductive ShowsText : BaseType → Prop where
  | text : ShowsText .text
  | date : ShowsText .date
  | timestamp : ShowsText .timestamp

theorem ShowsText.textual {type : BaseType} (shows : type.ShowsText) {cell : Cell}
    (admitted : type.Admits cell) : cell.Textual := by
  cases admitted with
  | null => exact .null
  | integer isInteger =>
      cases shows <;> rcases isInteger with same | same <;> cases same
  | boolean => cases shows
  | text value => exact .text value
  | date => exact .date _
  | timestamp => exact .timestamp _

end BaseType

namespace Predicate

/-- A predicate on known fields that both stores understand alike. -/
inductive Portable (known : List PlanField) : Predicate → Prop where
  | and {clauses : List Predicate} :
      (∀ clause ∈ clauses, Portable known clause) → Portable known (.and clauses)
  | or {clauses : List Predicate} :
      (∀ clause ∈ clauses, Portable known clause) → Portable known (.or clauses)
  | compare {field : PlanField} {comparison : Comparison} {cell : Cell} :
      field ∈ known → field.field.baseType.Compares cell →
      Portable known (.compare field comparison cell)
  | between {field : PlanField} {least greatest : Cell} :
      field ∈ known → field.field.baseType.Compares least →
      field.field.baseType.Compares greatest → Portable known (.between field least greatest)
  | isNull {field : PlanField} {negated : Bool} :
      field ∈ known → Portable known (.isNull field negated)
  | startsWith {field : PlanField} {text : String} :
      field ∈ known → field.field.baseType.ShowsText → Portable known (.startsWith field text)
  | contains {field : PlanField} {text : String} :
      field ∈ known → field.field.baseType.ShowsText → Portable known (.contains field text)

variable {known : List PlanField} {predicate : Predicate}

theorem Portable.positive (portable : predicate.Portable known) : predicate.Positive := by
  induction portable with
  | and _ ih => exact .and ih
  | or _ ih => exact .or ih
  | compare => exact .compare
  | between => exact .between
  | isNull => exact .isNull
  | startsWith => exact .startsWith
  | contains => exact .contains

theorem Portable.fields_known (portable : predicate.Portable known) :
    ∀ field ∈ predicate.fields, field ∈ known := by
  induction portable with
  | and _ ih =>
      intro field member
      obtain ⟨clause, isClause, tested⟩ := mem_fieldsOfEach.mp member
      exact ih clause isClause field tested
  | or _ ih =>
      intro field member
      obtain ⟨clause, isClause, tested⟩ := mem_fieldsOfEach.mp member
      exact ih clause isClause field tested
  | compare isKnown => exact fun field member => List.mem_singleton.mp member ▸ isKnown
  | between isKnown => exact fun field member => List.mem_singleton.mp member ▸ isKnown
  | isNull isKnown => exact fun field member => List.mem_singleton.mp member ▸ isKnown
  | startsWith isKnown => exact fun field member => List.mem_singleton.mp member ▸ isKnown
  | contains isKnown => exact fun field member => List.mem_singleton.mp member ▸ isKnown

theorem Portable.values_compared (portable : predicate.Portable known) :
    ∀ cell ∈ predicate.values, ∃ type : BaseType, type.Compares cell := by
  induction portable with
  | and _ ih =>
      intro cell member
      obtain ⟨clause, isClause, compared⟩ := mem_valuesOfEach.mp member
      exact ih clause isClause cell compared
  | or _ ih =>
      intro cell member
      obtain ⟨clause, isClause, compared⟩ := mem_valuesOfEach.mp member
      exact ih clause isClause cell compared
  | compare _ compares =>
      intro cell member
      obtain rfl := List.mem_singleton.mp member
      exact ⟨_, compares⟩
  | between _ comparesLeast comparesGreatest =>
      intro cell member
      rcases List.mem_cons.mp member with rfl | last
      · exact ⟨_, comparesLeast⟩
      · obtain rfl := List.mem_singleton.mp last
        exact ⟨_, comparesGreatest⟩
  | isNull => exact fun cell member => absurd member List.not_mem_nil
  | startsWith => exact fun cell member => absurd member List.not_mem_nil
  | contains => exact fun cell member => absurd member List.not_mem_nil

theorem Portable.wellKinded (portable : predicate.Portable known) {value : PlanField → Cell}
    (admitted : ∀ field ∈ known, field.field.baseType.Admits (value field)) :
    predicate.WellKinded value := by
  induction portable with
  | and _ ih => exact .and ih
  | or _ ih => exact .or ih
  | compare isKnown compares => exact .compare (compares.sameKind _ (admitted _ isKnown))
  | between isKnown comparesLeast comparesGreatest =>
      exact .between (comparesLeast.sameKind _ (admitted _ isKnown))
        (comparesGreatest.sameKind _ (admitted _ isKnown))
  | isNull => exact .isNull
  | startsWith isKnown shows => exact .startsWith (shows.textual (admitted _ isKnown))
  | contains isKnown shows => exact .contains (shows.textual (admitted _ isKnown))

theorem Portable.scalars (portable : predicate.Portable known) :
    ∀ cell ∈ predicate.values, cell.Scalar := by
  intro cell member
  obtain ⟨type, compares⟩ := portable.values_compared cell member
  exact compares.scalar

section Records

variable {value : PlanField → Cell} {document : Collection.Document}

theorem Portable.holds (portable : predicate.Portable known)
    (direct : ∀ field ∈ known, field.isJoined = false)
    (plain : ∀ field ∈ known, Collection.PlainName (Collection.keyName field))
    (stored : ∀ field ∈ known,
      (value field).Stored (Json.lookup? (Collection.keyName field) document)) :
    Collection.Holds document value predicate :=
  { direct := fun field tested => direct field (portable.fields_known field tested)
    plain := fun field tested => plain field (portable.fields_known field tested)
    stored := fun field tested => stored field (portable.fields_known field tested)
    values := fun cell member => by
      obtain ⟨type, compares⟩ := portable.values_compared cell member
      exact ⟨compares.present, compares.stored⟩ }

/-- The filter of a portable predicate passes the documents of the records on which it is true. -/
theorem Portable.passes_filter (portable : predicate.Portable known)
    (direct : ∀ field ∈ known, field.isJoined = false)
    (plain : ∀ field ∈ known, Collection.PlainName (Collection.keyName field)) :
    ∃ filter, Collection.filterOf predicate = .ok filter ∧
      ∀ (value : PlanField → Cell) (document : Collection.Document),
        (∀ field ∈ known, field.field.baseType.Admits (value field)) →
        (∀ field ∈ known,
          (value field).Stored (Json.lookup? (Collection.keyName field) document)) →
        Collection.passes document filter = .ok (predicate.truth value).holds := by
  -- The filter does not depend on the record, so any record shows that there is one.
  have nothing : ∀ field ∈ known,
      Cell.null.Stored (Json.lookup? (Collection.keyName field) []) := fun _ _ => .missing
  obtain ⟨filter, compiled, _⟩ := Collection.passes_filterOf
    (portable.wellKinded fun _ _ => .null) (portable.holds direct plain nothing)
  refine ⟨filter, compiled, fun value document admitted stored => ?_⟩
  obtain ⟨other, again, passed⟩ := Collection.passes_filterOf_positive portable.positive
    (portable.wellKinded admitted) (portable.holds direct plain stored)
  obtain rfl := Except.ok.inj (compiled.symm.trans again)
  exact passed

end Records

end Predicate

end CrossQuery
