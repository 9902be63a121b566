import CrossQuery.Collection.Document
import CrossQuery.Proofs.Calendar.Order
import CrossQuery.Proofs.Predicate.Truth

/-!
# Cells and what documents hold for them

A document leaves a null out or stores it, and spells dates and timestamps in their canonical
text. Comparing what is stored for a cell with the JSON form of a value gives the order of the cell
and the value.
-/

set_option autoImplicit false

namespace CrossQuery

namespace Cell

/-- A cell and what a document holds in its place. -/
inductive Stored : Cell → Option Json → Prop where
  | missing : Stored .null none
  | null : Stored .null (some .null)
  | boolean (value : Bool) : Stored (.bool value) (some (.bool value))
  | number {stored : Json} :
      (ofJson stored).number?.isSome = true → Stored (ofJson stored) (some stored)
  | integer {cell : Cell} {value : Int} :
      cell.integer? = some value → fitsInt64 value = true → Stored cell (some (.whole value))
  | text (value : String) : Stored (.text value) (some (.string value))
  | date {value : Date} :
      value.HasPlainYear → Stored (.date value) (some (.string (String.ofList value.write)))
  | timestamp {value : Timestamp} :
      value.date.HasPlainYear →
      Stored (.timestamp value) (some (.string (String.ofList value.write)))

/-- A cell that is null or of the same kind as a value. Numbers are of one kind if they have an
order, which they lack only when one of them is not a number after all. -/
inductive SameKind : Cell → Cell → Prop where
  | null (value : Cell) : SameKind .null value
  | boolean (left right : Bool) : SameKind (.bool left) (.bool right)
  | number {cell value : Cell} :
      cell.number?.isSome = true → (cell.compare value).isSome = true → SameKind cell value
  | text (left right : String) : SameKind (.text left) (.text right)
  | date (left right : Date) : SameKind (.date left) (.date right)
  | timestamp (left right : Timestamp) : SameKind (.timestamp left) (.timestamp right)

/-- A cell that is null or shows a text, a date or a timestamp. -/
inductive Textual : Cell → Prop where
  | null : Textual .null
  | text (value : String) : Textual (.text value)
  | date (value : Date) : Textual (.date value)
  | timestamp (value : Timestamp) : Textual (.timestamp value)

@[simp] theorem compare_null_left (value : Cell) : Cell.null.compare value = none := by
  simp [compare]

@[simp] theorem compare_null_right (cell : Cell) : cell.compare .null = none := by
  simp [compare]

@[simp] theorem compareCells_null_left (value : Cell) :
    Relational.compareCells .null value = none := by
  cases value <;> simp [Relational.compareCells, readLike?, text?]

/-- Two cells of one kind have an order, which is the same for tables as for documents. -/
theorem SameKind.compareCells_eq {cell value : Cell} (kind : SameKind cell value) :
    Relational.compareCells cell value = cell.compare value := by
  cases kind with
  | null => simp
  | boolean => rfl
  | number _ ordered =>
      obtain ⟨ordering, found⟩ := Option.isSome_iff_exists.mp ordered
      simp [Relational.compareCells, found]
  | text => rfl
  | date => rfl
  | timestamp => rfl

theorem SameKind.compare_isSome {cell value : Cell} (kind : SameKind cell value)
    (present : cell.isNull = false) : (cell.compare value).isSome = true := by
  cases kind with
  | null => cases present
  | boolean => rfl
  | number _ ordered => exact ordered
  | text => rfl
  | date => rfl
  | timestamp => rfl

theorem integer?_ofJson_whole {value : Int} (fits : fitsInt64 value = true) :
    (ofJson (.whole value)).integer? = some value := by
  have bounds : -(2 ^ 63) ≤ value ∧ value < 2 ^ 63 := by
    simpa [fitsInt64] using fits
  simp only [ofJson, fits, if_true, integer?, Option.some.injEq]
  exact Int64.toInt_ofInt_of_le bounds.1 bounds.2

theorem isNull_of_integer? {cell : Cell} {value : Int} (isInteger : cell.integer? = some value) :
    cell.isNull = false := by
  cases cell <;> first | rfl | cases isInteger

theorem number?_of_integer? {cell : Cell} {value : Int} (isInteger : cell.integer? = some value) :
    cell.number? = some (Float.ofInt value) := by
  cases cell <;> simp_all [number?, integer?]

theorem compareKinds_of_integer? {cell other : Cell} {value : Int}
    (isInteger : cell.integer? = some value) :
    cell.compareKinds other = none ∧ other.compareKinds cell = none := by
  cases cell with
  | int16 | int32 | int64 => cases other <;> exact ⟨rfl, rfl⟩
  | _ => cases isInteger

/-- The width of an integer plays no part in its order. -/
theorem compare_of_integer?_left {left other cell : Cell} {value : Int}
    (isInteger : left.integer? = some value) (sameInteger : other.integer? = some value) :
    left.compare cell = other.compare cell := by
  unfold compare
  rw [isNull_of_integer? isInteger, isNull_of_integer? sameInteger, isInteger, sameInteger,
    number?_of_integer? isInteger, number?_of_integer? sameInteger,
    (compareKinds_of_integer? isInteger).1, (compareKinds_of_integer? sameInteger).1]

theorem compare_of_integer?_right {left other cell : Cell} {value : Int}
    (isInteger : left.integer? = some value) (sameInteger : other.integer? = some value) :
    cell.compare left = cell.compare other := by
  unfold compare
  rw [isNull_of_integer? isInteger, isNull_of_integer? sameInteger, isInteger, sameInteger,
    number?_of_integer? isInteger, number?_of_integer? sameInteger,
    (compareKinds_of_integer? isInteger).2, (compareKinds_of_integer? sameInteger).2]

theorem compare_of_integers {left right : Cell} {value other : Int}
    (isLeft : left.integer? = some value) (isRight : right.integer? = some other) :
    left.compare right = some (Ord.compare value other) := by
  unfold compare
  rw [isNull_of_integer? isLeft, isNull_of_integer? isRight, isLeft, isRight]
  rfl

theorem SameKind.of_integers {left right : Cell} {value other : Int}
    (isLeft : left.integer? = some value) (isRight : right.integer? = some other) :
    left.SameKind right := by
  apply SameKind.number
  · rw [number?_of_integer? isLeft]
    rfl
  · rw [compare_of_integers isLeft isRight]
    rfl

/-- What is stored for a number is a number of the same value. -/
theorem Stored.compare_number_left {cell value : Cell} {stored : Option Json}
    (held : Stored cell stored) (isNumber : cell.number?.isSome = true) :
    (Collection.cellOf stored).compare value = cell.compare value := by
  cases held with
  | number => rfl
  | integer isInteger fits =>
      exact compare_of_integer?_left (integer?_ofJson_whole fits) isInteger
  | _ => cases isNumber

theorem Stored.compare_number_right {cell value : Cell} {stored : Option Json}
    (held : Stored value stored) (isNumber : value.number?.isSome = true) :
    cell.compare (Collection.cellOf stored) = cell.compare value := by
  cases held with
  | number => rfl
  | integer isInteger fits =>
      exact compare_of_integer?_right (integer?_ofJson_whole fits) isInteger
  | _ => cases isNumber

theorem number?_isSome_of_compare {cell value : Cell} (isNumber : cell.number?.isSome = true)
    (ordered : (cell.compare value).isSome = true) : value.number?.isSome = true := by
  cases cell <;> cases value <;>
    simp_all [number?, integer?, compare, isNull, compareKinds, text?]

theorem Stored.isNull_iff {cell : Cell} {stored : Option Json} (held : Stored cell stored) :
    (Collection.cellOf stored).isNull = cell.isNull := by
  cases held with
  | integer isInteger fits =>
      rw [isNull_of_integer? isInteger]
      exact isNull_of_integer? (integer?_ofJson_whole fits)
  | _ => rfl

theorem Stored.cellOf_bool {value : Bool} {stored : Option Json}
    (held : Stored (.bool value) stored) : Collection.cellOf stored = .bool value := by
  generalize same : Cell.bool value = cell at held
  cases held with
  | integer isInteger => rw [← same] at isInteger; cases isInteger
  | date => cases same
  | timestamp => cases same
  | _ => rfl

theorem Stored.cellOf_text {value : String} {stored : Option Json}
    (held : Stored (.text value) stored) : Collection.cellOf stored = .text value := by
  generalize same : Cell.text value = cell at held
  cases held with
  | integer isInteger => rw [← same] at isInteger; cases isInteger
  | date => cases same
  | timestamp => cases same
  | _ => rfl

theorem Stored.eq_text_of_date {value : Date} {stored : Option Json}
    (held : Stored (.date value) stored) :
    value.HasPlainYear ∧ stored = some (.string (String.ofList value.write)) := by
  generalize same : Cell.date value = cell at held
  cases held with
  | number isNumber => rw [← same] at isNumber; cases isNumber
  | integer isInteger => rw [← same] at isInteger; cases isInteger
  | date plain => cases same; exact ⟨plain, rfl⟩
  | _ => cases same

theorem Stored.eq_text_of_timestamp {value : Timestamp} {stored : Option Json}
    (held : Stored (.timestamp value) stored) :
    value.date.HasPlainYear ∧ stored = some (.string (String.ofList value.write)) := by
  generalize same : Cell.timestamp value = cell at held
  cases held with
  | number isNumber => rw [← same] at isNumber; cases isNumber
  | integer isInteger => rw [← same] at isInteger; cases isInteger
  | timestamp plain => cases same; exact ⟨plain, rfl⟩
  | _ => cases same

theorem compare_text (left right : List Char) :
    (Cell.text (String.ofList left)).compare (.text (String.ofList right)) =
      some (Ord.compare left right) := by
  rw [← Text.compare_ofList]
  rfl

/-- What is stored for a cell and for a value of its kind is ordered like these. -/
theorem Stored.compare_eq {cell value : Cell} {stored storedValue : Option Json}
    (held : Stored cell stored) (heldValue : Stored value storedValue)
    (kind : SameKind cell value) :
    (Collection.cellOf stored).compare (Collection.cellOf storedValue) =
      Relational.compareCells cell value := by
  rw [kind.compareCells_eq]
  cases kind with
  | null =>
      have absent := held.isNull_iff
      rw [isNull_null, isNull_eq_true_iff] at absent
      rw [absent, compare_null_left, compare_null_left]
  | number isNumber ordered =>
      rw [heldValue.compare_number_right (number?_isSome_of_compare isNumber ordered),
        held.compare_number_left isNumber]
  | boolean left right => rw [held.cellOf_bool, heldValue.cellOf_bool]
  | text left right => rw [held.cellOf_text, heldValue.cellOf_text]
  | date left right =>
      obtain ⟨leftPlain, rfl⟩ := held.eq_text_of_date
      obtain ⟨rightPlain, rfl⟩ := heldValue.eq_text_of_date
      exact (compare_text _ _).trans (congrArg some (Date.compare_write leftPlain rightPlain))
  | timestamp left right =>
      obtain ⟨leftPlain, rfl⟩ := held.eq_text_of_timestamp
      obtain ⟨rightPlain, rfl⟩ := heldValue.eq_text_of_timestamp
      exact (compare_text _ _).trans
        (congrArg some (Timestamp.compare_write leftPlain rightPlain))

/-- The text that is stored for a cell that shows one. -/
theorem Stored.text?_eq {cell : Cell} {stored : Option Json} (held : Stored cell stored)
    (textual : Textual cell) :
    stored.bind Json.text? = if cell.isNull then none else some (Relational.textOf cell) := by
  cases textual with
  | null =>
      have absent := held.isNull_iff
      cases stored with
      | none => rfl
      | some value => cases value <;> first | rfl | cases absent
  | text value =>
      have same := held.cellOf_text
      cases stored with
      | none => cases same
      | some stored =>
          cases stored with
          | string text => cases same; rfl
          | whole number =>
              simp only [Collection.cellOf, ofJson] at same
              split at same <;> cases same
          | _ => cases same
  | date value =>
      obtain ⟨_, rfl⟩ := held.eq_text_of_date
      rfl
  | timestamp value =>
      obtain ⟨_, rfl⟩ := held.eq_text_of_timestamp
      rfl

end Cell

/-- A predicate whose tests compare each field with values of its kind, and search texts only in
fields that show them. -/
inductive Predicate.WellKinded (value : PlanField → Cell) : Predicate → Prop where
  | and {clauses} : (∀ clause ∈ clauses, WellKinded value clause) → WellKinded value (.and clauses)
  | or {clauses} : (∀ clause ∈ clauses, WellKinded value clause) → WellKinded value (.or clauses)
  | not {clause} : WellKinded value clause → WellKinded value (.not clause)
  | compare {field comparison cell} :
      (value field).SameKind cell → WellKinded value (.compare field comparison cell)
  | between {field least greatest} :
      (value field).SameKind least → (value field).SameKind greatest →
      WellKinded value (.between field least greatest)
  | isNull {field negated} : WellKinded value (.isNull field negated)
  | startsWith {field text} : (value field).Textual → WellKinded value (.startsWith field text)
  | contains {field text} : (value field).Textual → WellKinded value (.contains field text)

end CrossQuery
