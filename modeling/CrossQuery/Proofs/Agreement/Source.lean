import CrossQuery.Proofs.Agreement.Mirrored
import CrossQuery.Proofs.Dataset.Shared
import CrossQuery.Proofs.Plan.Portable

/-!
# The source of a plan in both stores

The fields of a source table as plans name them, and its records as both stores hold them.
-/

set_option autoImplicit false

namespace CrossQuery

open Collection

/-- The fields of a table as plans name them. -/
def planFields (source : Table) (fields : List Field) : List PlanField :=
  fields.map fun field => .direct field source

/-- The value of a field in a row of its table. -/
def valueIn (row : List Cell) (field : PlanField) : Cell :=
  cellAt row field.field

/-- The only table of a statement without joins, as its columns are looked up. -/
def scopeOf (source : Table) (columns : List Column) : Relational.Scope :=
  [⟨Naming.upperCase.spell source.name, columns⟩]

theorem mem_planFields {source : Table} {fields : List Field} {field : PlanField} :
    field ∈ planFields source fields ↔ ∃ original ∈ fields, field = .direct original source := by
  unfold planFields
  rw [List.mem_map]
  exact ⟨fun ⟨original, member, same⟩ => ⟨original, member, same.symm⟩,
    fun ⟨original, member, same⟩ => ⟨original, member, same.symm⟩⟩

/-- A column that is found where its field stands is evaluated to the value of the field. -/
theorem evaluate_of_resolved {source : Table} {columns : List Column} {field : Field}
    {column : Column}
    (resolved : (scopeOf source columns).resolve (some (Naming.upperCase.spell source.name))
      (Naming.upperCase.spell field.name) = .ok (column, field.position)) (row : List Cell) :
    (scopeOf source columns).evaluate row
        (Relational.columnOfField .upperCase (.direct field source)) =
      .ok (valueIn row (.direct field source)) := by
  rw [Relational.columnOfField, Relational.Scope.evaluate]
  rw [show (PlanField.direct field source).tableAlias = source.name from rfl]
  rw [show (PlanField.direct field source).field = field from rfl]
  rw [resolved]
  rfl

namespace Dataset

/-- A context that compiles against a table of a dataset knows the fields of the table. -/
theorem Describes.knows {dataset : Dataset} {source : Table} {table : DatasetTable}
    {fields : List Field} (described : dataset.Describes source table fields)
    (capabilities : Capabilities) :
    (CompileContext.mk dataset.catalog capabilities source).Knows (planFields source fields) where
  found id field found isHere :=
    mem_planFields.mpr ⟨field, described.complete id field found isHere, rfl⟩
  listed others listed field member := by
    obtain rfl := Except.ok.inj (described.listed.symm.trans listed)
    exact mem_planFields.mpr ⟨field, member, rfl⟩

end Dataset

namespace Shared

variable {stores : EmbeddedStores} {source : Table} {fields : List Field} {columns : List Column}
  {records : List (List Cell × Document)}

theorem direct : ∀ field ∈ planFields source fields, field.isJoined = false := by
  intro field member
  obtain ⟨original, _, rfl⟩ := mem_planFields.mp member
  rfl

theorem plain (shared : Shared stores source fields columns records) :
    ∀ field ∈ planFields source fields, PlainName (keyName field) := by
  intro field member
  obtain ⟨original, isField, rfl⟩ := mem_planFields.mp member
  exact shared.plainKeys original isField

theorem mirrored (shared : Shared stores source fields columns records) :
    Mirrored (planFields source fields) (fun record => valueIn record.1) Prod.snd records where
  admitted record isRecord field member := by
    obtain ⟨original, isField, rfl⟩ := mem_planFields.mp member
    exact shared.admitted record isRecord original isField
  stored record isRecord field member := by
    obtain ⟨original, isField, rfl⟩ := mem_planFields.mp member
    exact shared.stored record isRecord original isField

/-- The column of a field in a statement is evaluated to the value of the field. -/
theorem evaluate_column (shared : Shared stores source fields columns records) (row : List Cell) :
    ∀ field ∈ planFields source fields,
      (scopeOf source columns).evaluate row (Relational.columnOfField .upperCase field) =
        .ok (valueIn row field) := by
  intro field member
  obtain ⟨original, isField, rfl⟩ := mem_planFields.mp member
  obtain ⟨column, resolved⟩ := shared.resolved original isField
  exact evaluate_of_resolved resolved row

theorem typeOf_column (shared : Shared stores source fields columns records) :
    ∀ field ∈ planFields source fields, ∃ type,
      (scopeOf source columns).typeOf (Relational.columnOfField .upperCase field) = .ok type := by
  intro field member
  obtain ⟨original, isField, rfl⟩ := mem_planFields.mp member
  obtain ⟨column, resolved⟩ := shared.resolved original isField
  refine ⟨column.type, ?_⟩
  rw [Relational.columnOfField, Relational.Scope.typeOf, scopeOf]
  rw [show (PlanField.direct original source).tableAlias = source.name from rfl]
  rw [show (PlanField.direct original source).field = original from rfl]
  rw [resolved]
  rfl

/-- Different fields of a table have different keys in documents. -/
theorem keyName_injective (shared : Shared stores source fields columns records)
    {left right : PlanField} (isLeft : left ∈ planFields source fields)
    (isRight : right ∈ planFields source fields) (same : keyName left = keyName right) :
    left = right := by
  obtain ⟨leftField, leftMember, rfl⟩ := mem_planFields.mp isLeft
  obtain ⟨rightField, rightMember, rfl⟩ := mem_planFields.mp isRight
  exact congrArg (PlanField.direct · source)
    (eq_of_key_eq shared.distinctKeys leftMember rightMember same)

/-- Fields of a table are the same one only if they are equal. -/
theorem eq_of_sameAs (shared : Shared stores source fields columns records)
    {left right : PlanField} (isLeft : left ∈ planFields source fields)
    (isRight : right ∈ planFields source fields) (same : left.sameAs right = true) :
    left = right := by
  obtain ⟨leftField, leftMember, rfl⟩ := mem_planFields.mp isLeft
  obtain ⟨rightField, rightMember, rfl⟩ := mem_planFields.mp isRight
  have sameId : leftField.id = rightField.id := by
    simpa [PlanField.sameAs, PlanField.direct] using same
  exact congrArg (PlanField.direct · source)
    (eq_of_key_eq shared.distinctIds leftMember rightMember sameId)

/-- An aggregate is ordered by the fields of its groups. -/
theorem order_mem_breakout (shared : Shared stores source fields columns records) {query : Query}
    {plan : Plan} (portable : plan.Portable query source (planFields source fields))
    (isKnown : ∀ field ∈ plan.breakout, field ∈ planFields source fields)
    (isAggregated : plan.isAggregated = true) :
    ∀ order ∈ plan.orderBy, order.field ∈ plan.breakout := by
  intro order member
  obtain ⟨field, isBreakout, same⟩ :=
    List.any_eq_true.mp (portable.orderBy.allowed isAggregated order member)
  rw [← shared.eq_of_sameAs (isKnown field isBreakout) (portable.orderBy.known order member) same]
  exact isBreakout

end Shared

end CrossQuery
