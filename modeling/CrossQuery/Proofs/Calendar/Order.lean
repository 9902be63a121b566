import CrossQuery.Calendar.Timestamp
import CrossQuery.Proofs.Text.Order

/-!
# The order of written dates and times

Dates of the years 0 to 9999 and the timestamps on them are written so that the order of the texts
is the order in time. A fraction of a second is written in blocks of three digits without the last
ones that are zero, which does not change the order.
-/

set_option autoImplicit false

namespace CrossQuery

/-- A year that is written in four digits. -/
def Date.HasPlainYear (date : Date) : Prop :=
  0 ≤ date.year ∧ date.year ≤ 9999

namespace Date

theorem month_lt (date : Date) : date.month < 10 ^ 2 := by
  have valid := date.valid
  simp only [isDate, Bool.and_eq_true, decide_eq_true_eq] at valid
  omega

theorem daysInMonth_le (year : Int) (month : Nat) : daysInMonth year month ≤ 31 := by
  unfold daysInMonth
  repeat' split
  all_goals omega

theorem day_lt (date : Date) : date.day < 10 ^ 2 := by
  have valid := date.valid
  have most := daysInMonth_le date.year date.month
  simp only [isDate, Bool.and_eq_true, decide_eq_true_eq] at valid
  omega

theorem compare_toNat {left right : Int} (leftSigned : 0 ≤ left) (rightSigned : 0 ≤ right) :
    compare left.toNat right.toNat = compare left right := by
  rcases Int.lt_trichotomy left right with less | rfl | greater
  · rw [Nat.compare_eq_lt.mpr (by omega), Int.compare_eq_lt.mpr less]
  · simp
  · rw [Nat.compare_eq_gt.mpr (by omega), Int.compare_eq_gt.mpr greater]

theorem write_of_plainYear {date : Date} (plain : date.HasPlainYear) :
    date.write = Text.writePadded 4 date.year.toNat ++
      ('-' :: (Text.writePadded 2 date.month ++ '-' :: Text.writePadded 2 date.day)) := by
  rw [write, writeYear, if_pos (show 0 ≤ date.year ∧ date.year ≤ 9999 from plain)]

theorem length_write {date : Date} (plain : date.HasPlainYear) : date.write.length = 10 := by
  obtain ⟨least, most⟩ := plain
  have year : date.year.toNat < 10 ^ 4 := by omega
  rw [write_of_plainYear ⟨least, most⟩]
  simp [Text.length_writePadded (by decide : 0 < 4) year,
    Text.length_writePadded (by decide : 0 < 2) date.month_lt,
    Text.length_writePadded (by decide : 0 < 2) date.day_lt]

end Date

theorem Text.compare_writePadded_cons {width left right : Nat} (separator : Char)
    (leftBelow : left < 10 ^ (width + 1)) (rightBelow : right < 10 ^ (width + 1))
    (leftRest rightRest : List Char) :
    compare (writePadded (width + 1) left ++ separator :: leftRest)
        (writePadded (width + 1) right ++ separator :: rightRest) =
      (compare left right).then (compare leftRest rightRest) := by
  have sameLength : (writePadded (width + 1) left).length =
      (writePadded (width + 1) right).length := by
    rw [length_writePadded (Nat.succ_pos _) leftBelow,
      length_writePadded (Nat.succ_pos _) rightBelow]
  rw [compare_append sameLength, compare_writePadded leftBelow rightBelow,
    List.compare_cons_cons]
  simp

/-- The texts of dates with plain years are ordered like the dates. -/
theorem Date.compare_write {left right : Date} (leftPlain : left.HasPlainYear)
    (rightPlain : right.HasPlainYear) :
    compare left.write right.write = left.compare right := by
  obtain ⟨leftLeast, leftMost⟩ := leftPlain
  obtain ⟨rightLeast, rightMost⟩ := rightPlain
  rw [write_of_plainYear ⟨leftLeast, leftMost⟩, write_of_plainYear ⟨rightLeast, rightMost⟩,
    Text.compare_writePadded_cons '-' (by omega) (by omega),
    Text.compare_writePadded_cons '-' left.month_lt right.month_lt,
    Text.compare_writePadded left.day_lt right.day_lt, compare_toNat leftLeast rightLeast]
  rfl

namespace TimeOfDay

/-- The digits of a number in blocks of three, up to the last block that is not zero. -/
def blocks : Nat → Nat → List Char
  | 0, _ => []
  | count + 1, number =>
    if number = 0 then []
    else Text.writePadded 3 (number / 1000 ^ count) ++ blocks count (number % 1000 ^ count)

theorem compare_blocks {count left right : Nat} (leftBelow : left < 1000 ^ count)
    (rightBelow : right < 1000 ^ count) :
    compare (blocks count left) (blocks count right) = compare left right := by
  induction count generalizing left right with
  | zero =>
      obtain rfl : left = 0 := by simpa using leftBelow
      obtain rfl : right = 0 := by simpa using rightBelow
      rfl
  | succ count ih =>
      have positive : 0 < 1000 ^ count := Nat.pow_pos (by decide)
      have leftBlock : left / 1000 ^ count < 10 ^ 3 := Nat.div_lt_of_lt_mul leftBelow
      have rightBlock : right / 1000 ^ count < 10 ^ 3 := Nat.div_lt_of_lt_mul rightBelow
      have leftLength := Text.length_writePadded (by decide : 0 < 3) leftBlock
      have rightLength := Text.length_writePadded (by decide : 0 < 3) rightBlock
      unfold blocks
      by_cases leftZero : left = 0 <;> by_cases rightZero : right = 0
      · simp [leftZero, rightZero]
      · rw [if_pos leftZero, if_neg rightZero, leftZero, Nat.compare_eq_lt.mpr (by omega)]
        cases block : Text.writePadded 3 (right / 1000 ^ count) with
        | nil => simp [block] at rightLength
        | cons c rest => rfl
      · rw [if_neg leftZero, if_pos rightZero, rightZero, Nat.compare_eq_gt.mpr (by omega)]
        cases block : Text.writePadded 3 (left / 1000 ^ count) with
        | nil => simp [block] at leftLength
        | cons c rest => rfl
      · rw [if_neg leftZero, if_neg rightZero,
          Text.compare_append (leftLength.trans rightLength.symm),
          Text.compare_writePadded leftBlock rightBlock,
          ih (Nat.mod_lt _ positive) (Nat.mod_lt _ positive),
          Text.compare_div_mod]

theorem writeFraction_eq_blocks {nano : Nat} (below : nano < 1000 ^ 3) :
    writeFraction nano = if nano = 0 then [] else '.' :: blocks 3 nano := by
  have millions : nano / 1000000 < 10 ^ 3 := by omega
  have six : Text.writePadded 6 (nano / 1000) =
      Text.writePadded 3 (nano / 1000000) ++ Text.writePadded 3 (nano % 1000000 / 1000) := by
    have split := Text.writePadded_add (by decide : 0 < 3)
      (by omega : nano / 1000 < 10 ^ (3 + (2 + 1)))
    rw [show nano / 1000 / 10 ^ (2 + 1) = nano / 1000000 by omega,
      show nano / 1000 % 10 ^ (2 + 1) = nano % 1000000 / 1000 by omega] at split
    exact split
  have nine : Text.writePadded 9 nano =
      Text.writePadded 6 (nano / 1000) ++ Text.writePadded 3 (nano % 1000000 % 1000) := by
    have split := Text.writePadded_add (by decide : 0 < 6)
      (by omega : nano < 10 ^ (6 + (2 + 1)))
    rw [show nano % 10 ^ (2 + 1) = nano % 1000000 % 1000 by omega] at split
    exact split
  by_cases zero : nano = 0
  · simp [writeFraction, zero]
  · by_cases noMillionths : nano % 1000000 = 0
    · simp [writeFraction, blocks, zero, noMillionths]
    · by_cases noThousandths : nano % 1000 = 0
      · have noLast : nano % 1000000 % 1000 = 0 := by omega
        simp [writeFraction, blocks, zero, noMillionths, noThousandths, noLast, six]
      · simp [writeFraction, blocks, zero, noMillionths, noThousandths, nine, six]

theorem compare_writeFraction {left right : Nat} (leftBelow : left < 1000 ^ 3)
    (rightBelow : right < 1000 ^ 3) :
    compare (writeFraction left) (writeFraction right) = compare left right := by
  rw [writeFraction_eq_blocks leftBelow, writeFraction_eq_blocks rightBelow]
  by_cases leftZero : left = 0 <;> by_cases rightZero : right = 0
  · simp [leftZero, rightZero]
  · rw [if_pos leftZero, if_neg rightZero, leftZero, Nat.compare_eq_lt.mpr (by omega)]
    rfl
  · rw [if_neg leftZero, if_pos rightZero, rightZero, Nat.compare_eq_gt.mpr (by omega)]
    rfl
  · rw [if_neg leftZero, if_neg rightZero, List.compare_cons_cons,
      compare_blocks leftBelow rightBelow]
    simp

theorem parts_lt (time : TimeOfDay) :
    time.hour < 10 ^ 2 ∧ time.minute < 10 ^ 2 ∧ time.second < 10 ^ 2 ∧ time.nano < 1000 ^ 3 := by
  have valid := time.valid
  simp only [isTimeOfDay, Bool.and_eq_true, decide_eq_true_eq] at valid
  omega

/-- The texts of times of day are ordered like the times. -/
theorem compare_write (left right : TimeOfDay) :
    compare left.write right.write = left.compare right := by
  obtain ⟨leftHour, leftMinute, leftSecond, leftNano⟩ := left.parts_lt
  obtain ⟨rightHour, rightMinute, rightSecond, rightNano⟩ := right.parts_lt
  have sameLength : (Text.writePadded 2 left.second).length =
      (Text.writePadded 2 right.second).length := by
    rw [Text.length_writePadded (by decide) leftSecond,
      Text.length_writePadded (by decide) rightSecond]
  rw [write, write, Text.compare_writePadded_cons ':' leftHour rightHour,
    Text.compare_writePadded_cons ':' leftMinute rightMinute, Text.compare_append sameLength,
    Text.compare_writePadded leftSecond rightSecond, compare_writeFraction leftNano rightNano]
  rfl

end TimeOfDay

/-- The texts of timestamps with plain years are ordered like the timestamps. -/
theorem Timestamp.compare_write {left right : Timestamp} (leftPlain : left.date.HasPlainYear)
    (rightPlain : right.date.HasPlainYear) :
    compare left.write right.write = left.compare right := by
  have sameLength : left.date.write.length = right.date.write.length := by
    rw [Date.length_write leftPlain, Date.length_write rightPlain]
  rw [write, write, Text.compare_append sameLength, List.compare_cons_cons,
    Date.compare_write leftPlain rightPlain, TimeOfDay.compare_write]
  simp [Timestamp.compare]

/-- The text of a time of day has no blanks, and no other characters below those. -/
theorem TimeOfDay.blank_lt_of_mem_write {time : TimeOfDay} {c : Char} (member : c ∈ time.write) :
    ' ' < c := by
  have digit {width number : Nat} (isDigit : c ∈ Text.writePadded width number) : ' ' < c := by
    have range := Text.isDecimalDigit_of_mem_writePadded isDigit
    simp only [Text.isDecimalDigit, Bool.and_eq_true, decide_eq_true_eq] at range
    exact Nat.lt_of_lt_of_le (by decide) range.1
  have fraction (isFraction : c ∈ writeFraction time.nano) : ' ' < c := by
    unfold writeFraction at isFraction
    split at isFraction
    · cases isFraction
    · have afterPoint : c = '.' ∨ ∃ width number, c ∈ Text.writePadded width number := by
        split at isFraction
        · exact (List.mem_cons.mp isFraction).imp_right fun isDigit => ⟨_, _, isDigit⟩
        · split at isFraction
          · exact (List.mem_cons.mp isFraction).imp_right fun isDigit => ⟨_, _, isDigit⟩
          · exact (List.mem_cons.mp isFraction).imp_right fun isDigit => ⟨_, _, isDigit⟩
      rcases afterPoint with rfl | ⟨_, _, isDigit⟩
      · decide
      · exact digit isDigit
  simp only [write, List.mem_append, List.mem_cons] at member
  rcases member with hour | rfl | minute | rfl | second | isFraction
  · exact digit hour
  · decide
  · exact digit minute
  · decide
  · exact digit second
  · exact fraction isFraction

/-- The texts of moments with plain years are ordered like the moments. -/
theorem Moment.compare_write {left right : Moment}
    (leftPlain : left.universal.date.HasPlainYear)
    (rightPlain : right.universal.date.HasPlainYear) :
    compare left.write right.write = left.compare right := by
  have sameLength : left.universal.date.write.length = right.universal.date.write.length := by
    rw [Date.length_write leftPlain, Date.length_write rightPlain]
  have times : compare (left.universal.time.write ++ " UTC".toList)
      (right.universal.time.write ++ " UTC".toList) =
        left.universal.time.compare right.universal.time := by
    rw [← TimeOfDay.compare_write]
    exact Text.compare_append_of_above (fun _ => TimeOfDay.blank_lt_of_mem_write)
      (fun _ => TimeOfDay.blank_lt_of_mem_write) _
  rw [write, write, Text.compare_append sameLength, List.compare_cons_cons,
    Date.compare_write leftPlain rightPlain, times]
  simp [Moment.compare, Timestamp.compare]

theorem Date.compare_eq_swap (left right : Date) : right.compare left = (left.compare right).swap := by
  simp only [Date.compare, Ordering.swap_then, ← Std.OrientedCmp.eq_swap]

theorem TimeOfDay.compare_eq_swap (left right : TimeOfDay) :
    right.compare left = (left.compare right).swap := by
  simp only [TimeOfDay.compare, Ordering.swap_then, ← Std.OrientedCmp.eq_swap]

theorem Timestamp.compare_eq_swap (left right : Timestamp) :
    right.compare left = (left.compare right).swap := by
  simp only [Timestamp.compare, Ordering.swap_then, ← Date.compare_eq_swap,
    ← TimeOfDay.compare_eq_swap]

end CrossQuery
