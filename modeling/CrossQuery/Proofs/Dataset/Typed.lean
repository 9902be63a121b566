import CrossQuery.Proofs.Dataset.Shared
import CrossQuery.Proofs.Decimal.Number

/-!
# Columns of one kind

A column holds nulls and values of the kind of its field, so that each of them has an order against
a value of that kind that is not null.
-/

set_option autoImplicit false

namespace CrossQuery

namespace Cell

/-- A cell with a number that has an order against other numbers. -/
def Numeric (cell : Cell) : Prop :=
  ∃ number, cell.number? = some number ∧ number.isNaN = false

variable {left right : Cell}

theorem numeric_of_integer? {cell : Cell} {value : Int} (isInteger : cell.integer? = some value) :
    cell.Numeric :=
  ⟨_, number?_of_integer? isInteger, Decimal.isNaN_ofInt value⟩

theorem Numeric.isNull {cell : Cell} (numeric : cell.Numeric) : cell.isNull = false := by
  obtain ⟨number, isNumber, _⟩ := numeric
  cases cell with
  | null => cases isNumber
  | _ => rfl

theorem Numeric.compare_isSome (isLeft : left.Numeric) (isRight : right.Numeric) :
    (left.compare right).isSome = true := by
  have leftPresent := isLeft.isNull
  have rightPresent := isRight.isNull
  obtain ⟨leftNumber, leftShown, leftOrdered⟩ := isLeft
  obtain ⟨rightNumber, rightShown, rightOrdered⟩ := isRight
  have asFloats := Decimal.isSome_compareFloats leftOrdered rightOrdered
  rw [compare, leftPresent, rightPresent, Bool.or_false, if_neg Bool.false_ne_true, leftShown,
    rightShown]
  cases left.integer? with
  | none => exact asFloats
  | some value =>
      cases right.integer? with
      | none => exact asFloats
      | some other => rfl

theorem SameKind.of_numeric (isLeft : left.Numeric) (isRight : right.Numeric) :
    left.SameKind right := by
  have ordered := isLeft.compare_isSome isRight
  obtain ⟨number, isNumber, _⟩ := isLeft
  exact .number (by rw [isNumber]; rfl) ordered

end Cell

namespace BaseType

/-- What the column of a field of a base type holds. -/
inductive Keeps : BaseType → Cell → Prop where
  | null {type : BaseType} : Keeps type .null
  | integer {type : BaseType} {cell : Cell} {value : Int} :
      type = .integer ∨ type = .bigInteger → cell.integer? = some value → Keeps type cell
  | float {type : BaseType} {value : Float} :
      type = .float ∨ type = .decimal → value.isNaN = false → Keeps type (.float64 value)
  | text {type : BaseType} (value : String) :
      type = .text ∨ type = .unknown → Keeps type (.text value)
  | boolean (value : Bool) : Keeps .boolean (.bool value)
  | date (value : Date) : Keeps .date (.date value)
  | timestamp (value : Timestamp) : Keeps .timestamp (.timestamp value)

/-- A value that a filter compares fields of a base type with. -/
inductive Accepts : BaseType → Cell → Prop where
  | integer {type : BaseType} (value : Int64) : type.isNumeric = true → Accepts type (.int64 value)
  | float {type : BaseType} {value : Float} :
      type.isNumeric = true → value.isFinite = true → Accepts type (.float64 value)
  | text {type : BaseType} (value : String) :
      type = .text ∨ type = .unknown → Accepts type (.text value)
  | boolean (value : Bool) : Accepts .boolean (.bool value)
  | date (value : Date) : Accepts .date (.date value)
  | timestamp (value : Timestamp) : Accepts .timestamp (.timestamp value)

variable {type : BaseType} {cell : Cell}

theorem Keeps.null_or_numeric (kept : type.Keeps cell) (isNumeric : type.isNumeric = true) :
    cell = .null ∨ cell.Numeric := by
  cases kept with
  | null => exact .inl rfl
  | integer _ isInteger => exact .inr (Cell.numeric_of_integer? isInteger)
  | float _ isNumber => exact .inr ⟨_, rfl, isNumber⟩
  | text _ isText => rcases isText with rfl | rfl <;> cases isNumeric
  | boolean => cases isNumeric
  | date => cases isNumeric
  | timestamp => cases isNumeric

theorem Keeps.null_or_text (kept : type.Keeps cell) (isText : type = .text ∨ type = .unknown) :
    cell = .null ∨ ∃ text, cell = .text text := by
  cases kept with
  | null => exact .inl rfl
  | integer isInteger => rcases isText with rfl | rfl <;> exact isInteger.elim nofun nofun
  | float isFloat => rcases isText with rfl | rfl <;> exact isFloat.elim nofun nofun
  | text value => exact .inr ⟨value, rfl⟩
  | boolean => exact isText.elim nofun nofun
  | date => exact isText.elim nofun nofun
  | timestamp => exact isText.elim nofun nofun

theorem Keeps.null_or_boolean (kept : Keeps .boolean cell) :
    cell = .null ∨ ∃ value, cell = .bool value := by
  cases kept with
  | null => exact .inl rfl
  | integer isInteger => exact isInteger.elim nofun nofun
  | float isFloat => exact isFloat.elim nofun nofun
  | text _ isText => exact isText.elim nofun nofun
  | boolean value => exact .inr ⟨value, rfl⟩

theorem Keeps.null_or_date (kept : Keeps .date cell) :
    cell = .null ∨ ∃ value, cell = .date value := by
  cases kept with
  | null => exact .inl rfl
  | integer isInteger => exact isInteger.elim nofun nofun
  | float isFloat => exact isFloat.elim nofun nofun
  | text _ isText => exact isText.elim nofun nofun
  | date value => exact .inr ⟨value, rfl⟩

theorem Keeps.null_or_timestamp (kept : Keeps .timestamp cell) :
    cell = .null ∨ ∃ value, cell = .timestamp value := by
  cases kept with
  | null => exact .inl rfl
  | integer isInteger => exact isInteger.elim nofun nofun
  | float isFloat => exact isFloat.elim nofun nofun
  | text _ isText => exact isText.elim nofun nofun
  | timestamp value => exact .inr ⟨value, rfl⟩

theorem Keeps.sameKind_of_numeric (kept : type.Keeps cell) (isNumeric : type.isNumeric = true)
    {value : Cell} (numeric : value.Numeric) : cell.SameKind value := by
  rcases kept.null_or_numeric isNumeric with rfl | isNumber
  · exact .null value
  · exact .of_numeric isNumber numeric

end BaseType

namespace DatasetField

/-- A value that fits its field: a text or null in a field of texts, and among numbers a finite one,
as JSON spells no others. -/
structure Suits (field : DatasetField) (value : Json) : Prop where
  text : field.baseType = .text ∨ field.baseType = .unknown →
    value = .null ∨ ∃ text, value = .string text
  finite : ∀ number, value = .real number → number.isFinite = true

variable {field : DatasetField} {value : Json} {cell : Cell}

theorem presentCell_of_float (type : field.storageType = .double ∨ field.storageType = .decimal)
    (suits : field.Suits value) (held : field.presentCell value = .ok cell) :
    ∃ number, cell = .float64 number ∧ number.isNaN = false := by
  have read : ∃ number, readNumber? value = some number ∧ cell = .float64 number := by
    unfold presentCell at held
    rcases type with type | type <;> rw [type] at held <;> dsimp only at held <;> split at held
    · next number isNumber => exact ⟨number, isNumber, (Except.ok.inj held).symm⟩
    · cases held
    · next number isNumber => exact ⟨number, isNumber, (Except.ok.inj held).symm⟩
    · cases held
  obtain ⟨number, isNumber, rfl⟩ := read
  refine ⟨number, rfl, ?_⟩
  cases value with
  | whole whole =>
      obtain rfl := Option.some.inj isNumber
      exact Decimal.isNaN_ofInt whole
  | real real =>
      obtain rfl := Option.some.inj isNumber
      exact Decimal.isNaN_of_isFinite (suits.finite real rfl)
  | _ => cases isNumber

/-- The cell of a value that suits its field is one that the column of the field holds. -/
theorem Suits.keeps (suits : field.Suits value)
    (keyIsInteger : field.isPrimaryKey = true →
      field.baseType = .integer ∨ field.baseType = .bigInteger)
    (held : field.cell value = .ok cell) : field.baseType.Keeps cell := by
  cases isNull : value.isNull with
  | true =>
      rw [DatasetField.cell, if_pos isNull] at held
      cases held
      exact .null
  | false =>
      rw [DatasetField.cell, isNull] at held
      change field.presentCell value = .ok cell at held
      -- Keys are stored as wide integers whatever their base type, the others as their base type.
      by_cases isInteger : field.baseType = .integer ∨ field.baseType = .bigInteger
      · obtain ⟨number, _, _, isNumber⟩ :=
          presentCell_of_integer (storageType_of_integer isInteger) held
        exact .integer isInteger isNumber
      · have notKey : field.isPrimaryKey = false := by
          cases isKey : field.isPrimaryKey with
          | false => rfl
          | true => exact absurd (keyIsInteger isKey) isInteger
        have stored := storageType_of_not_key notKey
        have textCell : field.baseType = .text ∨ field.baseType = .unknown →
            field.storageType = .varchar → ∃ text, cell = .text text := by
          intro isText isVarchar
          rcases suits.text isText with rfl | ⟨text, rfl⟩
          · cases isNull
          · simp only [presentCell, isVarchar] at held
            exact ⟨text, (Except.ok.inj held).symm⟩
        cases type : field.baseType with
        | integer => exact absurd (.inl type) isInteger
        | bigInteger => exact absurd (.inr type) isInteger
        | float =>
            rw [type] at stored
            obtain ⟨number, rfl, isNumber⟩ := presentCell_of_float (.inl stored) suits held
            exact .float (.inl rfl) isNumber
        | decimal =>
            rw [type] at stored
            obtain ⟨number, rfl, isNumber⟩ := presentCell_of_float (.inr stored) suits held
            exact .float (.inr rfl) isNumber
        | text =>
            rw [type] at stored
            obtain ⟨text, rfl⟩ := textCell (.inl type) stored
            exact .text text (.inl rfl)
        | unknown =>
            rw [type] at stored
            obtain ⟨text, rfl⟩ := textCell (.inr type) stored
            exact .text text (.inr rfl)
        | boolean =>
            rw [type] at stored
            obtain ⟨truth, _, rfl⟩ := presentCell_of_boolean stored held
            exact .boolean truth
        | date =>
            rw [type] at stored
            obtain ⟨date, rfl⟩ := presentCell_of_date stored held
            exact .date date
        | timestamp =>
            rw [type] at stored
            obtain ⟨timestamp, rfl⟩ := presentCell_of_timestamp stored held
            exact .timestamp timestamp

end DatasetField

/-- A table with a field at least, whose fields have names of their own in upper case that are not
taken for operators, and values that suit them. -/
structure DatasetTable.Sound (table : DatasetTable) : Prop where
  someField : table.fields ≠ []
  names : (table.fields.map fun field => Naming.upperCase.spell field.name).Nodup
  noOperator : ∀ field ∈ table.fields, Collection.isOperator field.name = false
  keys : ∀ field ∈ table.fields, field.isPrimaryKey = true →
    field.baseType = .integer ∨ field.baseType = .bigInteger
  values : ∀ row ∈ table.rows, ∀ entry ∈ table.fields.zip row, entry.1.Suits entry.2

namespace Dataset

/-- A dataset of such tables, which have names of their own in upper case. -/
structure Sound (dataset : Dataset) : Prop where
  names : (dataset.tables.map fun table => Naming.upperCase.spell table.name).Nodup
  tables : ∀ table ∈ dataset.tables, table.Sound

variable {dataset : Dataset} {source : Table} {table : DatasetTable} {fields : List Field}
  {field : Field}

/-- A row holds a value of its kind in the column of each field. -/
theorem Describes.keeps (described : dataset.Describes source table fields) (sound : table.Sound)
    (widths : ∀ row ∈ table.rows, row.length = table.fields.length) {rows : List (List Cell)}
    (converted : table.rows.mapM table.cells = .ok rows) {row : List Cell} (isRow : row ∈ rows)
    (isField : field ∈ fields) : field.baseType.Keeps (cellAt row field) := by
  obtain ⟨values, areValues, held⟩ := Outcome.exists_of_mem_mapM converted isRow
  obtain ⟨original, isOriginal, sameTraits⟩ := described.atPosition isField
  obtain ⟨value, _, isEntry, isCell⟩ := DatasetTable.exists_value held isOriginal
    (DatasetTable.lt_length_row (widths values areValues) isOriginal)
  have sameType : original.baseType = field.baseType := congrArg (·.2.1) sameTraits
  have suits := sound.values values areValues _ isEntry
  rw [← sameType]
  exact suits.keeps (sound.keys original (List.mem_of_getElem? isOriginal)) isCell

theorem Describes.noOperator (described : dataset.Describes source table fields)
    (sound : table.Sound) (isField : field ∈ fields) :
    Collection.isOperator (Naming.documentKeys.spellField field) = false := by
  obtain ⟨original, isOriginal, sameTraits⟩ := described.atPosition isField
  rw [← keyOfTraits_field, ← sameTraits, keyOfTraits_original, DatasetField.documentKey]
  split
  · exact plainName_id.noOperator
  · exact sound.noOperator original (List.mem_of_getElem? isOriginal)

end Dataset

end CrossQuery
