import CrossQuery.Proofs.Calendar.Order
import CrossQuery.Proofs.Cell.Content
import CrossQuery.Proofs.Predicate.Stored
import CrossQuery.Relational.Answer

/-!
# Sorting by cells of one kind

What cells hold is in a total order, in which only the same is equal. Cells of one kind are sorted
by it, with nulls in front.
-/

set_option autoImplicit false

namespace CrossQuery

namespace Content

/-- The place of the kind among all kinds. -/
def rank : Content → Nat
  | .integer _ => 0
  | .boolean _ => 1
  | .text _ => 2
  | .date _ => 3
  | .timestamp _ => 4

/-- The parts of a date, from the greatest on. -/
def dateParts (date : Date) : List Int :=
  [date.year, date.month, date.day]

/-- The parts of a time of day, from the greatest on. -/
def timeParts (time : TimeOfDay) : List Int :=
  [time.hour, time.minute, time.second, time.nano]

/-- The numbers that decide the order within the kind. -/
def numbers : Content → List Int
  | .integer value => [value]
  | .boolean value => [if value then 1 else 0]
  | .text _ => []
  | .date value => dateParts value
  | .timestamp value => dateParts value.date ++ timeParts value.time

/-- The text that decides the order within the kind. -/
def letters : Content → String
  | .text value => value
  | _ => ""

instance : Ord Content where
  compare := compareLex (compareOn rank) (compareLex (compareOn numbers) (compareOn letters))

instance : Std.TransOrd Content :=
  @Std.instTransCmpCompareLex _ _ _ Std.instTransCmpCompareOnOfTransOrd
    (@Std.instTransCmpCompareLex _ _ _ Std.instTransCmpCompareOnOfTransOrd
      Std.instTransCmpCompareOnOfTransOrd)

theorem compare_eq_then (left right : Content) :
    compare left right = (compare left.rank right.rank).then
      ((compare left.numbers right.numbers).then (compare left.letters right.letters)) := rfl

theorem dateParts_injective {left right : Date} (same : dateParts left = dateParts right) :
    left = right := by
  cases left
  cases right
  simp only [dateParts, List.cons.injEq, Int.natCast_inj, and_true] at same
  obtain ⟨rfl, rfl, rfl⟩ := same
  rfl

theorem timeParts_injective {left right : TimeOfDay} (same : timeParts left = timeParts right) :
    left = right := by
  cases left
  cases right
  simp only [timeParts, List.cons.injEq, Int.natCast_inj, and_true] at same
  obtain ⟨rfl, rfl, rfl, rfl⟩ := same
  rfl

/-- What has the same parts is the same. -/
theorem eq_of_parts {left right : Content} (sameRank : left.rank = right.rank)
    (sameNumbers : left.numbers = right.numbers) (sameLetters : left.letters = right.letters) :
    left = right := by
  cases left <;> cases right <;> cases sameRank
  · exact congrArg _ (List.cons.inj sameNumbers).1
  · next value other =>
      cases value <;> cases other <;> first | rfl | exact absurd sameNumbers (by decide)
  · exact congrArg _ sameLetters
  · exact congrArg _ (dateParts_injective sameNumbers)
  · next value other =>
      obtain ⟨date, time⟩ := value
      obtain ⟨otherDate, otherTime⟩ := other
      obtain ⟨dates, times⟩ := List.append_inj sameNumbers rfl
      obtain rfl : date = otherDate := dateParts_injective dates
      obtain rfl : time = otherTime := timeParts_injective times
      rfl

instance : Std.LawfulEqOrd Content where
  eq_of_compare := by
    intro left right same
    rw [compare_eq_then, Ordering.then_eq_eq, Ordering.then_eq_eq] at same
    exact eq_of_parts (Std.LawfulEqOrd.eq_of_compare same.1)
      (Std.LawfulEqOrd.eq_of_compare same.2.1) (Std.LawfulEqOrd.eq_of_compare same.2.2)

theorem compare_natCast (left right : Nat) :
    compare (left : Int) (right : Int) = compare left right := by
  have natural := Date.compare_toNat (Int.natCast_nonneg left) (Int.natCast_nonneg right)
  simpa using natural.symm

theorem compare_dateParts (left right : Date) :
    compare (dateParts left) (dateParts right) = left.compare right := by
  simp [dateParts, Date.compare, List.compare_cons_cons, compare_natCast]

theorem compare_timeParts (left right : TimeOfDay) :
    compare (timeParts left) (timeParts right) = left.compare right := by
  simp [timeParts, TimeOfDay.compare, List.compare_cons_cons, compare_natCast]

theorem compare_integer (left right : Int) :
    compare (integer left) (integer right) = compare left right := by
  simp [compare_eq_then, rank, numbers, letters, List.compare_cons_cons]

theorem compare_text (left right : String) :
    compare (text left) (text right) = compare left right := by
  simp [compare_eq_then, rank, numbers, letters]

theorem compare_date (left right : Date) :
    compare (date left) (date right) = left.compare right := by
  simp [compare_eq_then, rank, numbers, letters, compare_dateParts]

theorem compare_timestamp (left right : Timestamp) :
    compare (timestamp left) (timestamp right) = left.compare right := by
  have parts : compare (dateParts left.date ++ timeParts left.time)
      (dateParts right.date ++ timeParts right.time) =
        (compare (dateParts left.date) (dateParts right.date)).then
          (compare (timeParts left.time) (timeParts right.time)) := by
    simp [dateParts, List.compare_cons_cons, Ordering.then_assoc]
  simp [compare_eq_then, rank, numbers, letters, parts, compare_dateParts, compare_timeParts,
    Timestamp.compare]

end Content

namespace Cell

variable {cell other : Cell} {kind : Kind} {content otherContent : Content}

theorem integer?_of_content? {value : Int} (holds : cell.content? = some (.integer value)) :
    cell.integer? = some value := by
  cases cell <;> simp_all [content?, integer?]

theorem isNull_of_content? (holds : cell.content? = some content) : cell.isNull = false := by
  cases cell with
  | null => cases holds
  | _ => rfl

/-- Cells of one kind are compared by what they hold. -/
theorem compare_of_content? (holds : cell.content? = some content)
    (holdsOther : other.content? = some otherContent)
    (sameKind : content.kind = otherContent.kind) :
    cell.compare other = some (Ord.compare content otherContent) := by
  cases content <;> cases otherContent <;> cases sameKind
  · next value otherValue =>
      rw [compare_of_integers (integer?_of_content? holds) (integer?_of_content? holdsOther),
        Content.compare_integer]
  · next value otherValue =>
      cases cell <;> cases holds
      cases other <;> cases holdsOther
      cases value <;> cases otherValue <;> rfl
  · next value otherValue =>
      cases cell <;> cases holds
      cases other <;> cases holdsOther
      rw [Content.compare_text]
      rfl
  · next value otherValue =>
      cases cell <;> cases holds
      cases other <;> cases holdsOther
      rw [Content.compare_date]
      rfl
  · next value otherValue =>
      cases cell <;> cases holds
      cases other <;> cases holdsOther
      rw [Content.compare_timestamp]
      rfl

/-- Cells of one kind are sorted by what they hold, and nulls come first. -/
theorem sortCompare_of_holds (isLeft : kind.Holds cell) (isRight : kind.Holds other) :
    cell.sortCompare other = Ord.compare cell.content? other.content? := by
  cases isLeft with
  | null =>
      cases isRight with
      | null => rfl
      | content holdsOther =>
          rw [sortCompare, isNull_of_content? holdsOther, holdsOther]
          rfl
  | content holds isKind =>
      cases isRight with
      | null =>
          rw [sortCompare, isNull_of_content? holds, holds]
          rfl
      | content holdsOther isOther =>
          have ordered := compare_of_content? holds holdsOther (isKind.trans isOther.symm)
          rw [sortCompare, isNull_of_content? holds, isNull_of_content? holdsOther, ordered, holds,
            holdsOther]
          rfl

/-- The order of a sort key, which puts nulls first when ascending and last when descending. -/
theorem compareKey_of_holds (isLeft : kind.Holds cell) (isRight : kind.Holds other)
    (expression : Select.Expression) (ascending : Bool) :
    Relational.compareKey ⟨expression, ascending, some ascending⟩ cell other =
      if ascending then Ord.compare cell.content? other.content?
      else Ord.compare other.content? cell.content? := by
  have forward := sortCompare_of_holds isLeft isRight
  have backward := sortCompare_of_holds isRight isLeft
  rw [← forward, ← backward]
  simp only [Relational.compareKey, sortCompare]
  cases cell.isNull <;> cases other.isNull <;> cases ascending <;> rfl

end Cell

end CrossQuery
