import CrossQuery.Proofs.Cell.Admitted
import CrossQuery.Proofs.Cell.Sorted

/-!
# Sorting by cells of any kind

Cells are sorted by value where they have an order, and by their texts otherwise. The two orders fit
together unless a cell stands between two others by its text that are ordered the other way round by
value. Texts of integers are such, so that a column of them with a text in it need not be sortable;
the texts of all other values are in the order of the values.
-/

set_option autoImplicit false

namespace CrossQuery

/-- What a cell is compared by. Timestamps that are in universal time are apart from others. -/
structure Measure where
  content : Content
  universal : Bool
deriving DecidableEq

namespace Measure

/-- What measures have in common that are compared with each other. -/
def kind (measure : Measure) : Kind × Bool :=
  (measure.content.kind, measure.universal)

def display : Measure → String
  | ⟨.integer value, _⟩ => Cell.integerText value
  | ⟨.boolean value, _⟩ => if value then "true" else "false"
  | ⟨.text value, _⟩ => value
  | ⟨.date value, _⟩ => String.ofList value.write
  | ⟨.timestamp value, false⟩ => String.ofList value.write
  | ⟨.timestamp value, true⟩ => String.ofList (Moment.mk value).write

end Measure

namespace Cell

/-- Whether a cell holds a float of either width. -/
def isFloat : Cell → Bool
  | .float32 _ | .float64 _ => true
  | _ => false

/-- What a cell is compared by, unless it is a float or of a kind without an order. -/
def measure? : Cell → Option Measure
  | .unknown value => some ⟨.text value, false⟩
  | .moment value => some ⟨.timestamp value.universal, true⟩
  | cell => cell.content?.map fun content => ⟨content, false⟩

variable {cell left right first second third low high : Cell}
  {measure leftMeasure rightMeasure : Measure} {ordering : Ordering}

theorem measure?_of_integer? {value : Int} (isInteger : cell.integer? = some value) :
    cell.measure? = some ⟨.integer value, false⟩ := by
  cases cell <;> cases isInteger <;> rfl

theorem measure?_of_text? {value : String} (isText : cell.text? = some value) :
    cell.measure? = some ⟨.text value, false⟩ := by
  cases cell <;> cases isText <;> rfl

theorem exists_integer?_of_number? {value : Float} (exact : cell.isFloat = false)
    (isNumber : cell.number? = some value) : ∃ whole, cell.integer? = some whole := by
  cases cell with
  | int16 | int32 | int64 => exact ⟨_, rfl⟩
  | float32 | float64 => cases exact
  | _ => cases isNumber

theorem display_of_measure? (measured : cell.measure? = some measure) :
    cell.display = measure.display := by
  cases cell <;> cases measured <;> rfl

/-- Cells that have an order have measures of one kind. -/
theorem measures_of_compare (exactLeft : left.isFloat = false) (exactRight : right.isFloat = false)
    (ordered : left.compare right = some ordering) :
    ∃ leftMeasure rightMeasure, left.measure? = some leftMeasure ∧
      right.measure? = some rightMeasure ∧ leftMeasure.kind = rightMeasure.kind := by
  unfold compare at ordered
  split at ordered
  · cases ordered
  · split at ordered
    · next isLeft isRight =>
        exact ⟨_, _, measure?_of_integer? isLeft, measure?_of_integer? isRight, rfl⟩
    · next notIntegers =>
        split at ordered
        · next isLeft isRight =>
            obtain ⟨value, isInteger⟩ := exists_integer?_of_number? exactLeft isLeft
            obtain ⟨other, isOther⟩ := exists_integer?_of_number? exactRight isRight
            exact absurd isOther (notIntegers value other isInteger)
        · unfold compareKinds at ordered
          split at ordered
          · exact ⟨_, _, rfl, rfl, rfl⟩
          · exact ⟨_, _, rfl, rfl, rfl⟩
          · exact ⟨_, _, rfl, rfl, rfl⟩
          · exact ⟨_, _, rfl, rfl, rfl⟩
          · split at ordered
            · next isLeft isRight =>
                exact ⟨_, _, measure?_of_text? isLeft, measure?_of_text? isRight, rfl⟩
            · cases ordered

/-- The cells of a measure. -/
def HasMeasure (cell : Cell) : Measure → Prop
  | ⟨.integer value, _⟩ => cell.integer? = some value
  | ⟨.boolean value, _⟩ => cell = .bool value
  | ⟨.text value, _⟩ => cell.text? = some value
  | ⟨.date value, _⟩ => cell = .date value
  | ⟨.timestamp value, false⟩ => cell = .timestamp value
  | ⟨.timestamp value, true⟩ => cell = .moment ⟨value⟩

theorem hasMeasure_of_measure? (measured : cell.measure? = some measure) :
    cell.HasMeasure measure := by
  cases cell <;> cases measured <;> rfl

theorem compare_of_texts {value other : String} (isLeft : left.text? = some value)
    (isRight : right.text? = some other) : left.compare right = some (Ord.compare value other) := by
  cases left <;> cases isLeft <;> cases right <;> cases isRight <;> rfl

/-- Cells with measures of one kind are compared by what they hold. -/
theorem compare_of_measures (isLeft : left.measure? = some leftMeasure)
    (isRight : right.measure? = some rightMeasure) (sameKind : leftMeasure.kind = rightMeasure.kind) :
    left.compare right = some (Ord.compare leftMeasure.content rightMeasure.content) := by
  obtain ⟨content, universal⟩ := leftMeasure
  obtain ⟨other, _⟩ := rightMeasure
  have leftHolds := hasMeasure_of_measure? isLeft
  have rightHolds := hasMeasure_of_measure? isRight
  cases content <;> cases other <;> cases sameKind
  · rw [compare_of_integers leftHolds rightHolds, Content.compare_integer]
  · next value otherValue =>
      obtain rfl : left = .bool value := leftHolds
      obtain rfl : right = .bool otherValue := rightHolds
      cases value <;> cases otherValue <;> rfl
  · rw [compare_of_texts leftHolds rightHolds, Content.compare_text]
  · next value otherValue =>
      obtain rfl : left = .date value := leftHolds
      obtain rfl : right = .date otherValue := rightHolds
      rw [Content.compare_date]
      rfl
  · next value otherValue =>
      rw [Content.compare_timestamp]
      cases universal with
      | false =>
          obtain rfl : left = .timestamp value := leftHolds
          obtain rfl : right = .timestamp otherValue := rightHolds
          rfl
      | true =>
          obtain rfl : left = .moment ⟨value⟩ := leftHolds
          obtain rfl : right = .moment ⟨otherValue⟩ := rightHolds
          rfl

theorem compare_eq_some_iff (exactLeft : left.isFloat = false) (exactRight : right.isFloat = false) :
    left.compare right = some ordering ↔ ∃ leftMeasure rightMeasure,
      left.measure? = some leftMeasure ∧ right.measure? = some rightMeasure ∧
        leftMeasure.kind = rightMeasure.kind ∧
        ordering = Ord.compare leftMeasure.content rightMeasure.content := by
  constructor
  · intro ordered
    obtain ⟨leftMeasure, rightMeasure, isLeft, isRight, sameKind⟩ :=
      measures_of_compare exactLeft exactRight ordered
    rw [compare_of_measures isLeft isRight sameKind] at ordered
    exact ⟨_, _, isLeft, isRight, sameKind, (Option.some.inj ordered).symm⟩
  · intro measured
    obtain ⟨leftMeasure, rightMeasure, isLeft, isRight, sameKind, rfl⟩ := measured
    exact compare_of_measures isLeft isRight sameKind

theorem compare_swap (exactLeft : left.isFloat = false) (exactRight : right.isFloat = false)
    (ordered : left.compare right = some ordering) : right.compare left = some ordering.swap := by
  rw [compare_eq_some_iff exactLeft exactRight] at ordered
  obtain ⟨leftMeasure, rightMeasure, isLeft, isRight, sameKind, rfl⟩ := ordered
  rw [compare_of_measures isRight isLeft sameKind.symm]
  exact congrArg some Std.OrientedCmp.eq_swap

theorem compare_eq_none_symm (exactLeft : left.isFloat = false) (exactRight : right.isFloat = false)
    (unordered : left.compare right = none) : right.compare left = none := by
  cases ordered : right.compare left with
  | none => rfl
  | some ordering =>
      rw [compare_swap exactRight exactLeft ordered] at unordered
      cases unordered

/-- Having an order is transitive, and so is the order. -/
theorem compare_trans {next : Ordering} (exactFirst : first.isFloat = false)
    (exactSecond : second.isFloat = false) (exactThird : third.isFloat = false)
    (ordered : first.compare second = some ordering) (orderedNext : second.compare third = some next) :
    ∃ whole, first.compare third = some whole ∧ (ordering.isLE → next.isLE → whole.isLE) := by
  rw [compare_eq_some_iff exactFirst exactSecond] at ordered
  rw [compare_eq_some_iff exactSecond exactThird] at orderedNext
  obtain ⟨measure, middle, isFirst, isSecond, sameKind, rfl⟩ := ordered
  obtain ⟨other, last, isOther, isThird, sameNext, rfl⟩ := orderedNext
  obtain rfl := Option.some.inj (isSecond.symm.trans isOther)
  refine ⟨_, compare_of_measures isFirst isThird (sameKind.trans sameNext), ?_⟩
  exact Std.TransCmp.isLE_trans

theorem compare_eq_none_trans (exactFirst : first.isFloat = false)
    (exactSecond : second.isFloat = false) (exactThird : third.isFloat = false)
    (ordered : first.compare second = some ordering) (unordered : second.compare third = none) :
    first.compare third = none := by
  cases whole : first.compare third with
  | none => rfl
  | some other =>
      have backward := compare_swap exactFirst exactSecond ordered
      obtain ⟨rest, isRest, _⟩ := compare_trans exactSecond exactFirst exactThird backward whole
      rw [unordered] at isRest
      cases isRest

/-- Cells that are equal by value are shown alike. -/
theorem display_of_compare_eq (exactLeft : left.isFloat = false) (exactRight : right.isFloat = false)
    (same : left.compare right = some .eq) : left.display = right.display := by
  rw [compare_eq_some_iff exactLeft exactRight] at same
  obtain ⟨leftMeasure, rightMeasure, isLeft, isRight, sameKind, sameValue⟩ := same
  obtain ⟨content, universal⟩ := leftMeasure
  obtain ⟨other, _⟩ := rightMeasure
  obtain rfl : content = other := Std.LawfulEqOrd.eq_of_compare sameValue.symm
  cases sameKind
  rw [display_of_measure? isLeft, display_of_measure? isRight]

/-- A cell between two others by its text, without an order with them, though by value they are
ordered the other way round. -/
structure Interposed (low cell high : Cell) : Prop where
  ordered : low.compare high = some .lt
  present : cell.isNull = false
  unordered : low.compare cell = none
  above : (Ord.compare high.display cell.display).isLE
  below : (Ord.compare cell.display low.display).isLE

theorem sortCompare_of_unordered (presentLeft : left.isNull = false)
    (presentRight : right.isNull = false) (unordered : left.compare right = none) :
    left.sortCompare right = Ord.compare left.display right.display := by
  simp [sortCompare, presentLeft, presentRight, unordered]

theorem sortCompare_swap (exactLeft : left.isFloat = false) (exactRight : right.isFloat = false) :
    left.sortCompare right = (right.sortCompare left).swap := by
  cases presentLeft : left.isNull with
  | true => cases presentRight : right.isNull <;> simp [sortCompare, presentLeft, presentRight]
  | false =>
      cases presentRight : right.isNull with
      | true => simp [sortCompare, presentLeft, presentRight]
      | false =>
          cases ordered : right.compare left with
          | none =>
              rw [sortCompare_of_unordered presentRight presentLeft ordered,
                sortCompare_of_unordered presentLeft presentRight
                  (compare_eq_none_symm exactRight exactLeft ordered)]
              exact Std.OrientedCmp.eq_swap
          | some ordering =>
              rw [sortCompare_of_present presentRight presentLeft ordered,
                sortCompare_of_present presentLeft presentRight
                  (compare_swap exactRight exactLeft ordered)]

theorem present_of_compare (ordered : left.compare right = some ordering) :
    left.isNull = false ∧ right.isNull = false := by
  unfold compare at ordered
  split at ordered
  · cases ordered
  · next present => simpa using present

/-- Two cells with another one between them by its text are not sorted with it. -/
theorem Interposed.not_sorted (interposed : Interposed low cell high)
    (exactLow : low.isFloat = false) (exactCell : cell.isFloat = false)
    (exactHigh : high.isFloat = false) :
    (high.sortCompare cell).isLE ∧ (cell.sortCompare low).isLE ∧ ¬ (high.sortCompare low).isLE := by
  obtain ⟨presentLow, presentHigh⟩ := present_of_compare interposed.ordered
  have swapped := compare_swap exactLow exactHigh interposed.ordered
  have unordered :=
    compare_eq_none_trans exactHigh exactLow exactCell swapped interposed.unordered
  have backward := compare_eq_none_symm exactLow exactCell interposed.unordered
  refine ⟨?_, ?_, ?_⟩
  · rw [sortCompare_of_unordered presentHigh interposed.present unordered]
    exact interposed.above
  · rw [sortCompare_of_unordered interposed.present presentLow backward]
    exact interposed.below
  · rw [sortCompare_of_present presentHigh presentLow swapped]
    decide

theorem isNull_of_sorted (sorted : (left.sortCompare right).isLE) (null : right.isNull = true) :
    left.isNull = true := by
  cases present : left.isNull with
  | true => rfl
  | false => simp [sortCompare, present, null] at sorted

theorem sorted_of_isNull (null : left.isNull = true) : (left.sortCompare right).isLE := by
  cases present : right.isNull <;> simp [sortCompare, null, present]

theorem isLE_of_not_isLE {text other : String} (greater : ¬ (Ord.compare text other).isLE) :
    (Ord.compare other text).isLE := by
  have swapped : Ord.compare other text = (Ord.compare text other).swap :=
    Std.OrientedCmp.eq_swap
  rw [swapped]
  cases ordering : Ord.compare text other with
  | lt => exact absurd (by rw [ordering]; rfl) greater
  | eq => rfl
  | gt => rfl

/-- Where an order by value and the order of the texts disagree, the value is less and the text is
greater. -/
theorem lt_of_display (exactLeft : left.isFloat = false) (exactRight : right.isFloat = false)
    (ordered : left.compare right = some ordering) (isLE : ordering.isLE)
    (greater : ¬ (Ord.compare left.display right.display).isLE) : ordering = .lt := by
  cases ordering with
  | lt => rfl
  | eq =>
      rw [display_of_compare_eq exactLeft exactRight ordered] at greater
      exact absurd (by simp) greater
  | gt => cases isLE

/-- Three cells that are not sorted are such that one is between the others by its text. -/
theorem exists_interposed (exactFirst : first.isFloat = false) (exactSecond : second.isFloat = false)
    (exactThird : third.isFloat = false) (below : (first.sortCompare second).isLE)
    (belowNext : (second.sortCompare third).isLE) (above : ¬ (first.sortCompare third).isLE) :
    Interposed first third second ∨ Interposed second first third ∨
      Interposed third second first := by
  have presentFirst : first.isNull = false :=
    Bool.eq_false_iff.mpr fun null => above (sorted_of_isNull null)
  have presentSecond : second.isNull = false :=
    Bool.eq_false_iff.mpr fun null => by simp [isNull_of_sorted below null] at presentFirst
  have presentThird : third.isNull = false :=
    Bool.eq_false_iff.mpr fun null => by simp [isNull_of_sorted belowNext null] at presentSecond
  -- A pair goes by its values where these are comparable, else by its texts. Pairs that all go the
  -- same way are sorted, so only where both ways meet can the third pair contradict the others.
  cases ordered : first.compare second with
  | none =>
      rw [sortCompare_of_unordered presentFirst presentSecond ordered] at below
      have unordered := compare_eq_none_symm exactFirst exactSecond ordered
      cases orderedNext : second.compare third with
      | none =>
          rw [sortCompare_of_unordered presentSecond presentThird orderedNext] at belowNext
          have shown := Std.TransCmp.isLE_trans below belowNext
          cases whole : first.compare third with
          | none =>
              rw [sortCompare_of_unordered presentFirst presentThird whole] at above
              exact absurd shown above
          | some ordering =>
              rw [sortCompare_of_present presentFirst presentThird whole] at above
              have greater : ordering = .gt := by cases ordering <;> simp_all
              have swapped := compare_swap exactFirst exactThird whole
              rw [greater] at swapped
              have unorderedNext := compare_eq_none_symm exactSecond exactThird orderedNext
              exact .inr (.inr ⟨swapped, presentSecond, unorderedNext, below, belowNext⟩)
      | some next =>
          have swapped := compare_swap exactSecond exactThird orderedNext
          have whole := compare_eq_none_symm exactThird exactFirst
            (compare_eq_none_trans exactThird exactSecond exactFirst swapped unordered)
          rw [sortCompare_of_unordered presentFirst presentThird whole] at above
          rw [sortCompare_of_present presentSecond presentThird orderedNext] at belowNext
          obtain rfl := lt_of_display exactSecond exactThird orderedNext belowNext
            fun shown => above (Std.TransCmp.isLE_trans below shown)
          exact .inr (.inl ⟨orderedNext, presentFirst, unordered, isLE_of_not_isLE above, below⟩)
  | some ordering =>
      rw [sortCompare_of_present presentFirst presentSecond ordered] at below
      cases orderedNext : second.compare third with
      | none =>
          have whole :=
            compare_eq_none_trans exactFirst exactSecond exactThird ordered orderedNext
          rw [sortCompare_of_unordered presentFirst presentThird whole] at above
          rw [sortCompare_of_unordered presentSecond presentThird orderedNext] at belowNext
          obtain rfl := lt_of_display exactFirst exactSecond ordered below
            fun shown => above (Std.TransCmp.isLE_trans shown belowNext)
          exact .inl ⟨ordered, presentThird, whole, belowNext, isLE_of_not_isLE above⟩
      | some next =>
          obtain ⟨whole, isWhole, sorts⟩ :=
            compare_trans exactFirst exactSecond exactThird ordered orderedNext
          rw [sortCompare_of_present presentSecond presentThird orderedNext] at belowNext
          rw [sortCompare_of_present presentFirst presentThird isWhole] at above
          exact absurd (sorts below belowNext) above

/-- A cell that is shown by a text that is in the order of the values: no integer, and no date
beyond the years of four digits. -/
def ShownInOrder : Cell → Prop
  | .int16 _ | .int32 _ | .int64 _ => False
  | .date value => value.HasPlainYear
  | .timestamp value => value.date.HasPlainYear
  | .moment value => value.universal.date.HasPlainYear
  | _ => True

theorem not_shownInOrder_of_integer? {value : Int} (isInteger : cell.integer? = some value) :
    ¬ cell.ShownInOrder := by
  cases cell <;> cases isInteger <;> exact id

theorem compare_eq_display (exactLeft : left.isFloat = false) (exactRight : right.isFloat = false)
    (shownLeft : left.ShownInOrder) (shownRight : right.ShownInOrder)
    (ordered : left.compare right = some ordering) :
    ordering = Ord.compare left.display right.display := by
  rw [compare_eq_some_iff exactLeft exactRight] at ordered
  obtain ⟨leftMeasure, rightMeasure, isLeft, isRight, sameKind, rfl⟩ := ordered
  rw [display_of_measure? isLeft, display_of_measure? isRight]
  obtain ⟨content, universal⟩ := leftMeasure
  obtain ⟨other, _⟩ := rightMeasure
  have leftHolds := hasMeasure_of_measure? isLeft
  have rightHolds := hasMeasure_of_measure? isRight
  cases content <;> cases other <;> cases sameKind
  · exact absurd shownLeft (not_shownInOrder_of_integer? leftHolds)
  · next value otherValue =>
      simp only [Measure.display]
      cases value <;> cases otherValue <;> decide
  · exact Content.compare_text _ _
  · next value otherValue =>
      obtain rfl : left = .date value := leftHolds
      obtain rfl : right = .date otherValue := rightHolds
      simp only [Measure.display, Text.compare_ofList, Content.compare_date]
      exact (Date.compare_write shownLeft shownRight).symm
  · next value otherValue =>
      rw [Content.compare_timestamp]
      cases universal with
      | false =>
          obtain rfl : left = .timestamp value := leftHolds
          obtain rfl : right = .timestamp otherValue := rightHolds
          simp only [Measure.display, Text.compare_ofList]
          exact (Timestamp.compare_write shownLeft shownRight).symm
      | true =>
          obtain rfl : left = .moment ⟨value⟩ := leftHolds
          obtain rfl : right = .moment ⟨otherValue⟩ := rightHolds
          simp only [Measure.display, Text.compare_ofList]
          exact (Moment.compare_write shownLeft shownRight).symm

theorem not_interposed_of_shownInOrder (exactLow : low.isFloat = false)
    (exactHigh : high.isFloat = false) (shownLow : low.ShownInOrder)
    (shownHigh : high.ShownInOrder) : ¬ Interposed low cell high := by
  intro interposed
  have less := compare_eq_display exactLow exactHigh shownLow shownHigh interposed.ordered
  have greater := Std.TransCmp.isLE_trans interposed.above interposed.below
  have swapped : Ord.compare high.display low.display =
      (Ord.compare low.display high.display).swap := Std.OrientedCmp.eq_swap
  rw [swapped, ← less] at greater
  cases greater

/-- Any two cells of a column without floats are sorted in opposite ways from either side. The
column has one order in which it can be sorted just if none of its cells stands between two others
by its text that are ordered the other way round by value. That is so for all columns without
integers and without years beyond four digits, whatever kinds are mixed in them. -/
theorem sorts_unless_interposed (column : List Cell) (exact : ∀ cell ∈ column, cell.isFloat = false) :
    (∀ left ∈ column, ∀ right ∈ column,
        left.sortCompare right = (right.sortCompare left).swap) ∧
      ((∀ first ∈ column, ∀ second ∈ column, ∀ third ∈ column,
          (first.sortCompare second).isLE → (second.sortCompare third).isLE →
            (first.sortCompare third).isLE) ↔
        ∀ low ∈ column, ∀ cell ∈ column, ∀ high ∈ column, ¬ Interposed low cell high) ∧
      ((∀ cell ∈ column, cell.ShownInOrder) →
        ∀ low ∈ column, ∀ cell ∈ column, ∀ high ∈ column, ¬ Interposed low cell high) := by
  refine ⟨?_, ⟨?_, ?_⟩, ?_⟩
  · intro left isLeft right isRight
    exact sortCompare_swap (exact left isLeft) (exact right isRight)
  · intro sorts low isLow cell isCell high isHigh interposed
    obtain ⟨above, below, unsorted⟩ :=
      interposed.not_sorted (exact low isLow) (exact cell isCell) (exact high isHigh)
    exact unsorted (sorts high isHigh cell isCell low isLow above below)
  · intro none first isFirst second isSecond third isThird below belowNext
    by_contra above
    rcases exists_interposed (exact first isFirst) (exact second isSecond) (exact third isThird)
      below belowNext above with interposed | interposed | interposed
    · exact none first isFirst third isThird second isSecond interposed
    · exact none second isSecond first isFirst third isThird interposed
    · exact none third isThird second isSecond first isFirst interposed
  · intro shown low isLow cell _ high isHigh
    exact not_interposed_of_shownInOrder (exact low isLow) (exact high isHigh) (shown low isLow)
      (shown high isHigh)

/-- Integers with the text of another integer between them. -/
def numberedColumn : List Cell :=
  [.int64 9, .int64 10, .text "5"]

/-- Values of several kinds without an integer. -/
def labelledColumn : List Cell :=
  [.text "5", .null, .bool true, .date ⟨2024, 2, 29, rfl⟩, .array [.int32 1], .unknown "5"]

theorem labelledColumn_sorts :
    (∀ first ∈ labelledColumn, ∀ second ∈ labelledColumn, ∀ third ∈ labelledColumn,
        (first.sortCompare second).isLE → (second.sortCompare third).isLE →
          (first.sortCompare third).isLE) ∧
      ¬ ∀ first ∈ numberedColumn, ∀ second ∈ numberedColumn, ∀ third ∈ numberedColumn,
        (first.sortCompare second).isLE → (second.sortCompare third).isLE →
          (first.sortCompare third).isLE := by
  have exactLabelled : ∀ cell ∈ labelledColumn, cell.isFloat = false := by
    simp [labelledColumn, isFloat]
  have exactNumbered : ∀ cell ∈ numberedColumn, cell.isFloat = false := by
    simp [numberedColumn, isFloat]
  have shown : ∀ cell ∈ labelledColumn, cell.ShownInOrder := by
    simp [labelledColumn, ShownInOrder, Date.HasPlainYear]
  obtain ⟨_, labelled, inOrder⟩ := sorts_unless_interposed labelledColumn exactLabelled
  obtain ⟨_, numbered, _⟩ := sorts_unless_interposed numberedColumn exactNumbered
  refine ⟨labelled.mpr (inOrder shown), fun sorts => ?_⟩
  refine numbered.mp sorts (.int64 9) (by simp [numberedColumn]) (.text "5")
    (by simp [numberedColumn]) (.int64 10) (by simp [numberedColumn]) ?_
  exact ⟨by decide, rfl, rfl, by decide, by decide⟩

/-- Nine is before ten and ten before a text of five, but nine is not before the text. -/
theorem numbers_sorted_in_a_circle :
    (Cell.int64 9).sortCompare (.int64 10) = .lt ∧ (Cell.int64 10).sortCompare (.text "5") = .lt ∧
      (Cell.int64 9).sortCompare (.text "5") = .gt := by
  exact ⟨by decide, by decide, by decide⟩

end Cell

end CrossQuery
