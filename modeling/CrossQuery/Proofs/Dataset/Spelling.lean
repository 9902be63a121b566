import CrossQuery.Collection.Match
import CrossQuery.Proofs.Calendar.RoundTrip
import CrossQuery.Proofs.Dataset.Contents

/-!
# The one spelling of days and moments

Documents hold the text that shows a date or timestamp. It is read as what it was written for, so
that to spell a value once more changes nothing, and for the years 0 to 9999 the order of the texts
is the order in time.
-/

set_option autoImplicit false

namespace CrossQuery

namespace DatasetField

variable {field : DatasetField} {value : Json} {cell : Cell}

/-- The JSON form of a cell of a field of dates is read as the cell. -/
theorem cell_toJson (temporal : field.isTemporal = true) (held : field.cell value = .ok cell) :
    field.cell cell.toJson = .ok cell := by
  unfold DatasetField.cell at held
  split at held
  · cases held
    rfl
  · next present =>
      -- A date that is a primary key is stored as a whole number.
      rcases storageType_of_temporal temporal with type | type | type
      · obtain ⟨number, rfl, _, isNumber⟩ := presentCell_of_integer (.inl type) held
        rw [Cell.toJson_of_integer? isNumber, DatasetField.cell, if_neg present, held]
      · obtain ⟨date, rfl⟩ := presentCell_of_date type held
        simp [DatasetField.cell, Cell.toJson, Json.isNull, presentCell, type, dateCell,
          Calendar.readDate?_write]
      · obtain ⟨timestamp, rfl⟩ := presentCell_of_timestamp type held
        simp [DatasetField.cell, Cell.toJson, Json.isNull, presentCell, type, timestampCell,
          Calendar.readTimestamp?_write]

theorem cell_documentValue : field.cell (field.documentValue value) = field.cell value := by
  unfold documentValue
  split
  · next temporal =>
      split
      · next cell held => rw [cell_toJson temporal held, held]
      · rfl
  · rfl

theorem documentValue_documentValue :
    field.documentValue (field.documentValue value) = field.documentValue value := by
  by_cases temporal : field.isTemporal = true
  · rw [documentValue, if_pos temporal, cell_documentValue, documentValue, if_pos temporal]
    cases field.cell value <;> rfl
  · simp [documentValue, temporal]

end DatasetField

/-- The text that shows a date or timestamp is read as the date or timestamp. What a text is read
as is therefore read from its canonical text, too, and a field has the same cell and the same
document value for a value and for its canonical spelling. -/
theorem canonical_text_read_back :
    (∀ date : Date, Calendar.readDate? (Cell.date date).display.toList = some date) ∧
      (∀ timestamp : Timestamp,
        Calendar.readTimestamp? (Cell.timestamp timestamp).display.toList = some timestamp) ∧
      (∀ text, ((Calendar.readDate? text).bind fun date =>
        Calendar.readDate? (Cell.date date).display.toList) = Calendar.readDate? text) ∧
      (∀ text, ((Calendar.readTimestamp? text).bind fun timestamp =>
        Calendar.readTimestamp? (Cell.timestamp timestamp).display.toList) =
          Calendar.readTimestamp? text) ∧
      ∀ (field : DatasetField) (value : Json),
        field.cell (field.documentValue value) = field.cell value ∧
          field.documentValue (field.documentValue value) = field.documentValue value := by
  have dates (date : Date) :
      Calendar.readDate? (Cell.date date).display.toList = some date := by
    simp [Cell.display, Calendar.readDate?_write]
  have timestamps (timestamp : Timestamp) :
      Calendar.readTimestamp? (Cell.timestamp timestamp).display.toList = some timestamp := by
    simp [Cell.display, Calendar.readTimestamp?_write]
  refine ⟨dates, timestamps, ?_, ?_, ?_⟩
  · intro text
    simp only [dates, Option.bind_fun_some]
  · intro text
    simp only [timestamps, Option.bind_fun_some]
  · intro field value
    exact ⟨field.cell_documentValue, field.documentValue_documentValue⟩

namespace Cell

/-- Two cells whose JSON forms are texts in the order of the cells, so that documents with these
texts are tested and sorted like rows with the cells. -/
structure TextsInOrder (left right : Cell) : Prop where
  texts : ∃ leftText rightText, left.toJson = .string leftText ∧ right.toJson = .string rightText ∧
    left.compare right = some (Ord.compare leftText rightText)
  read : (ofJson left.toJson).compare (ofJson right.toJson) = left.compare right
  tested : ∀ wanted, Collection.ordered (some left.toJson) right.toJson wanted =
    (left.compare right).any wanted
  sorted : (Collection.cellOf (some left.toJson)).sortCompare
    (Collection.cellOf (some right.toJson)) = left.sortCompare right

variable {left right : Cell}

theorem textsInOrder_of_write {leftText rightText : List Char}
    (leftPresent : left.isNull = false) (rightPresent : right.isNull = false)
    (isLeft : left.toJson = .string (String.ofList leftText))
    (isRight : right.toJson = .string (String.ofList rightText))
    (ordered : left.compare right = some (Ord.compare leftText rightText)) :
    TextsInOrder left right := by
  have read : (ofJson left.toJson).compare (ofJson right.toJson) = left.compare right := by
    rw [isLeft, isRight, ordered]
    exact compare_text leftText rightText
  constructor
  · exact ⟨_, _, isLeft, isRight, by rw [ordered, Text.compare_ofList]⟩
  · exact read
  · intro wanted
    rw [Collection.ordered, Collection.cellOf, read, ordered]
    rfl
  · rw [sortCompare_of_present leftPresent rightPresent ordered]
    rw [ordered] at read
    apply sortCompare_of_present _ _ read
    · rw [isLeft]
      rfl
    · rw [isRight]
      rfl

/-- Dates of the years 0 to 9999, and timestamps on them, are in the order of the texts that are
their JSON forms. -/
theorem canonical_texts_in_order :
    (∀ left right : Date, left.HasPlainYear → right.HasPlainYear →
      TextsInOrder (.date left) (.date right)) ∧
    ∀ left right : Timestamp, left.date.HasPlainYear → right.date.HasPlainYear →
      TextsInOrder (.timestamp left) (.timestamp right) := by
  constructor
  · intro left right leftPlain rightPlain
    apply textsInOrder_of_write rfl rfl rfl rfl
    exact congrArg some (Date.compare_write leftPlain rightPlain).symm
  · intro left right leftPlain rightPlain
    apply textsInOrder_of_write rfl rfl rfl rfl
    exact congrArg some (Timestamp.compare_write leftPlain rightPlain).symm

/-- The last nanosecond before the leap second at the end of 2016. -/
def beforeLeapSecond : Timestamp :=
  ⟨⟨2016, 12, 31, rfl⟩, ⟨23, 59, 59, 999999999, rfl⟩⟩

/-- Half of that leap second later. -/
def duringLeapSecond : Timestamp :=
  ⟨⟨2016, 12, 31, rfl⟩, ⟨23, 59, 60, 500000000, rfl⟩⟩

theorem leap_second_in_order :
    beforeLeapSecond.date.HasPlainYear ∧ duringLeapSecond.date.HasPlainYear ∧
      TextsInOrder (.date beforeLeapSecond.date) (.date duringLeapSecond.date) ∧
      TextsInOrder (.timestamp beforeLeapSecond) (.timestamp duringLeapSecond) ∧
      (Cell.timestamp beforeLeapSecond).compare (.timestamp duringLeapSecond) = some .lt := by
  have plainBefore : beforeLeapSecond.date.HasPlainYear := by
    simp [Date.HasPlainYear, beforeLeapSecond]
  have plainDuring : duringLeapSecond.date.HasPlainYear := by
    simp [Date.HasPlainYear, duringLeapSecond]
  obtain ⟨dates, timestamps⟩ := canonical_texts_in_order
  exact ⟨plainBefore, plainDuring, dates _ _ plainBefore plainDuring,
    timestamps _ _ plainBefore plainDuring, by decide⟩

end Cell

end CrossQuery
