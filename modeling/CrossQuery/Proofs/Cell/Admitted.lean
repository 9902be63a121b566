import CrossQuery.Catalog
import CrossQuery.Collection.Stage
import CrossQuery.Collection.Pipeline
import CrossQuery.Proofs.Predicate.Stored
import CrossQuery.Relational.Answer

/-!
# Cells of a base type

A field of a base type holds nulls and cells of one kind. These are sorted alike in tables and in
documents, and have one JSON form in the answers of both.
-/

set_option autoImplicit false

namespace CrossQuery

/-- A cell that a field of a base type holds in both stores. Dates and timestamps are ordered by
their texts in documents, so their years must have four digits. -/
inductive BaseType.Admits : BaseType → Cell → Prop where
  | null {type : BaseType} : Admits type .null
  | integer {type : BaseType} {cell : Cell} {value : Int} :
      type = .integer ∨ type = .bigInteger → cell.integer? = some value → Admits type cell
  | boolean (value : Bool) : Admits .boolean (.bool value)
  | text (value : String) : Admits .text (.text value)
  | date {value : Date} : value.HasPlainYear → Admits .date (.date value)
  | timestamp {value : Timestamp} : value.date.HasPlainYear → Admits .timestamp (.timestamp value)

namespace Cell

variable {type : BaseType} {cell other : Cell} {stored storedOther : Option Json}

/-- Two cells of a field are of one kind. -/
theorem sameKind_of_admits (admitted : type.Admits cell) (admittedOther : type.Admits other)
    (present : other.isNull = false) : cell.SameKind other := by
  cases admitted with
  | null => exact .null other
  | @integer _ _ value isInteger isValue =>
      have isOther : ∃ otherValue, other.integer? = some otherValue := by
        cases admittedOther with
        | null => cases present
        | integer _ isOther => exact ⟨_, isOther⟩
        | boolean => rcases isInteger with same | same <;> cases same
        | text => rcases isInteger with same | same <;> cases same
        | date => rcases isInteger with same | same <;> cases same
        | timestamp => rcases isInteger with same | same <;> cases same
      obtain ⟨otherValue, isOther⟩ := isOther
      exact .of_integers isValue isOther
  | boolean value =>
      cases admittedOther with
      | null => cases present
      | integer isInteger => rcases isInteger with same | same <;> cases same
      | boolean => exact .boolean _ _
  | text value =>
      cases admittedOther with
      | null => cases present
      | integer isInteger => rcases isInteger with same | same <;> cases same
      | text => exact .text _ _
  | date =>
      cases admittedOther with
      | null => cases present
      | integer isInteger => rcases isInteger with same | same <;> cases same
      | date => exact .date _ _
  | timestamp =>
      cases admittedOther with
      | null => cases present
      | integer isInteger => rcases isInteger with same | same <;> cases same
      | timestamp => exact .timestamp _ _

theorem eq_whole_of_integer?_ofJson {json : Json} {value : Int}
    (isInteger : (ofJson json).integer? = some value) :
    json = .whole value ∧ fitsInt64 value = true := by
  cases json with
  | whole number =>
      by_cases fits : fitsInt64 number = true
      · rw [integer?_ofJson_whole fits] at isInteger
        cases isInteger
        exact ⟨rfl, fits⟩
      · simp [ofJson, fits, integer?] at isInteger
  | _ => cases isInteger

theorem Stored.whole_of_integer? {value : Int} (held : cell.Stored stored)
    (isInteger : cell.integer? = some value) :
    stored = some (.whole value) ∧ fitsInt64 value = true := by
  cases held with
  | number =>
      obtain ⟨rfl, fits⟩ := eq_whole_of_integer?_ofJson isInteger
      exact ⟨rfl, fits⟩
  | integer isOther fits =>
      rw [isInteger] at isOther
      cases isOther
      exact ⟨rfl, fits⟩
  | _ => cases isInteger

theorem toJson_of_integer? {value : Int} (isInteger : cell.integer? = some value) :
    cell.toJson = .whole value := by
  cases cell <;> simp_all [integer?, toJson]

theorem integer?_cellOfValue_whole {value : Int} (fits : fitsInt64 value = true) :
    (Collection.cellOfValue (.whole value)).integer? = some value := by
  have bounds : -(2 ^ 63) ≤ value ∧ value < 2 ^ 63 := by
    simpa [fitsInt64] using fits
  unfold Collection.cellOfValue
  by_cases narrow : fitsInt32 value = true
  · have narrowBounds : -(2 ^ 31) ≤ value ∧ value < 2 ^ 31 := by
      simpa [fitsInt32] using narrow
    rw [if_pos narrow]
    exact congrArg some (Int32.toInt_ofInt_of_le narrowBounds.1 narrowBounds.2)
  · rw [if_neg narrow, if_pos fits]
    exact congrArg some (Int64.toInt_ofInt_of_le bounds.1 bounds.2)

theorem toJson_cellOfValue_whole {value : Int} (fits : fitsInt64 value = true) :
    (Collection.cellOfValue (.whole value)).toJson = .whole value :=
  toJson_of_integer? (integer?_cellOfValue_whole fits)

/-- What is read back from a document has the JSON form of the cell that it was stored for. -/
theorem Stored.toJson_eq (held : cell.Stored stored) (admitted : type.Admits cell) :
    ((stored.map Collection.cellOfValue).getD .null).toJson = cell.toJson := by
  cases admitted with
  | null =>
      have absent := held.isNull_iff
      cases stored with
      | none => rfl
      | some json =>
          cases json with
          | null => rfl
          | whole number =>
              simp only [Collection.cellOf, ofJson] at absent
              split at absent <;> cases absent
          | _ => cases absent
  | integer _ isInteger =>
      obtain ⟨rfl, fits⟩ := held.whole_of_integer? isInteger
      rw [toJson_of_integer? isInteger]
      exact toJson_cellOfValue_whole fits
  | boolean value =>
      have same := held.cellOf_bool
      cases stored with
      | none => cases same
      | some json =>
          cases json with
          | bool held => cases same; rfl
          | whole number =>
              simp only [Collection.cellOf, ofJson] at same
              split at same <;> cases same
          | _ => cases same
  | text value =>
      have shown := held.text?_eq (.text value)
      obtain ⟨json, rfl, isText⟩ := Option.bind_eq_some_iff.mp shown
      cases json with
      | string text => cases isText; rfl
      | _ => cases isText
  | date =>
      obtain ⟨_, rfl⟩ := held.eq_text_of_date
      rfl
  | timestamp =>
      obtain ⟨_, rfl⟩ := held.eq_text_of_timestamp
      rfl

/-- A missing value counts as null. -/
theorem Stored.of_getD (held : cell.Stored stored) : cell.Stored (some (stored.getD .null)) := by
  cases held with
  | missing => exact .null
  | null => exact .null
  | boolean value => exact .boolean value
  | number isNumber => exact .number isNumber
  | integer isInteger fits => exact .integer isInteger fits
  | text value => exact .text value
  | date plain => exact .date plain
  | timestamp plain => exact .timestamp plain

/-- What a document holds for a cell that aggregates do not tell from it: it is null or missing
where the cell is null, falls under the same key, and is the same whole number. -/
structure Alike (cell : Cell) (stored : Option Json) : Prop where
  isNull_iff : (Collection.cellOf stored).isNull = cell.isNull
  groupKey_eq : (Collection.cellOf stored).groupKey = cell.groupKey
  whole_of_integer? : ∀ value, cell.integer? = some value →
    stored = some (.whole value) ∧ fitsInt64 value = true

/-- A missing value counts as null. -/
theorem Alike.of_getD (alike : cell.Alike stored) : cell.Alike (some (stored.getD .null)) := by
  cases stored with
  | some json => exact alike
  | none =>
      refine ⟨alike.isNull_iff, alike.groupKey_eq, fun value isInteger => ?_⟩
      cases (alike.whole_of_integer? value isInteger).1

theorem groupKey_of_integer? {value : Int} (isInteger : cell.integer? = some value) :
    cell.groupKey = "n:" ++ integerText value := by
  rw [groupKey, isNull_of_integer? isInteger, isInteger]
  rfl

/-- What is stored for a cell is grouped under the key of the cell. -/
theorem Stored.groupKey_eq (held : cell.Stored stored) :
    (Collection.cellOf stored).groupKey = cell.groupKey := by
  cases held with
  | integer isInteger fits =>
      rw [groupKey_of_integer? isInteger]
      exact groupKey_of_integer? (integer?_ofJson_whole fits)
  | _ => rfl

theorem Stored.alike (held : cell.Stored stored) : cell.Alike stored :=
  ⟨held.isNull_iff, held.groupKey_eq, fun _ => held.whole_of_integer?⟩

/-- An object is not stored for any cell, so the key of what is stored is that of a cell. -/
theorem Stored.groupKey_json {json : Json} (held : cell.Stored (some json)) :
    Collection.groupKey json = cell.groupKey := by
  rw [← held.groupKey_eq]
  cases json with
  | object entries =>
      generalize same : some (Json.object entries) = stored at held
      cases held with
      | number isNumber =>
          cases same
          cases isNumber
      | _ => cases same
  | _ => rfl

theorem sortCompare_of_present (present : cell.isNull = false)
    (presentOther : other.isNull = false) {ordering : Ordering}
    (ordered : cell.compare other = some ordering) : cell.sortCompare other = ordering := by
  simp [sortCompare, present, presentOther, ordered]

/-- Documents are sorted by a field like the cells of the field. -/
theorem Stored.sortCompare_eq (held : cell.Stored stored) (heldOther : other.Stored storedOther)
    (admitted : type.Admits cell) (admittedOther : type.Admits other) :
    (Collection.cellOf stored).sortCompare (Collection.cellOf storedOther) =
      cell.sortCompare other := by
  have absent := held.isNull_iff
  have absentOther := heldOther.isNull_iff
  cases isNull : cell.isNull with
  | true =>
      simp only [sortCompare, absent, absentOther, isNull]
      cases other.isNull <;> rfl
  | false =>
      cases isNullOther : other.isNull with
      | true => simp [sortCompare, absent, absentOther, isNull, isNullOther]
      | false =>
          have kind := sameKind_of_admits admitted admittedOther isNullOther
          obtain ⟨ordering, found⟩ := Option.isSome_iff_exists.mp (kind.compare_isSome isNull)
          have sameOrder := held.compare_eq heldOther kind
          rw [kind.compareCells_eq, found] at sameOrder
          rw [sortCompare_of_present isNull isNullOther found,
            sortCompare_of_present (absent.trans isNull) (absentOther.trans isNullOther) sameOrder]

theorem compare_eq_swap (admitted : type.Admits cell) (admittedOther : type.Admits other) :
    other.compare cell = (cell.compare other).map Ordering.swap := by
  cases isNull : other.isNull with
  | true => simp [isNull_eq_true_iff.mp isNull]
  | false =>
      cases sameKind_of_admits admitted admittedOther isNull with
      | null => simp
      | number isNumber ordered =>
          have isInteger : ∃ value, cell.integer? = some value := by
            cases admitted with
            | integer _ isValue => exact ⟨_, isValue⟩
            | _ => cases isNumber
          have isOther : ∃ value, other.integer? = some value := by
            cases admittedOther with
            | integer _ isValue => exact ⟨_, isValue⟩
            | null => cases isNull
            | _ => cases number?_isSome_of_compare isNumber ordered
          obtain ⟨value, isValue⟩ := isInteger
          obtain ⟨otherValue, isOtherValue⟩ := isOther
          rw [compare_of_integers isValue isOtherValue, compare_of_integers isOtherValue isValue]
          exact congrArg some Std.OrientedCmp.eq_swap
      | boolean => exact congrArg some Std.OrientedCmp.eq_swap
      | text => exact congrArg some Std.OrientedCmp.eq_swap
      | date => exact congrArg some (Date.compare_eq_swap _ _)
      | timestamp => exact congrArg some (Timestamp.compare_eq_swap _ _)

/-- The order of a sort key, with nulls first when ascending and last when descending, is that of
the cells or its reverse. -/
theorem compareKey_eq (admitted : type.Admits cell) (admittedOther : type.Admits other)
    (expression : Select.Expression) (ascending : Bool) :
    Relational.compareKey ⟨expression, ascending, some ascending⟩ cell other =
      if ascending then cell.sortCompare other else (cell.sortCompare other).swap := by
  cases isNull : cell.isNull with
  | true =>
      simp only [Relational.compareKey, sortCompare, isNull]
      cases other.isNull <;> cases ascending <;> rfl
  | false =>
      cases isNullOther : other.isNull with
      | true =>
          simp only [Relational.compareKey, sortCompare, isNull, isNullOther]
          cases ascending <;> rfl
      | false =>
          have kind := sameKind_of_admits admitted admittedOther isNullOther
          obtain ⟨ordering, found⟩ := Option.isSome_iff_exists.mp (kind.compare_isSome isNull)
          have swapped := compare_eq_swap admitted admittedOther
          rw [found] at swapped
          simp only [Relational.compareKey, isNull, isNullOther,
            sortCompare_of_present isNull isNullOther found,
            sortCompare_of_present isNullOther isNull swapped]

end Cell

end CrossQuery
