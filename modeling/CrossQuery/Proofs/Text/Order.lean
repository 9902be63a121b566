import Mathlib.Algebra.Order.Ring.Int
import CrossQuery.Text.Numeral

/-!
# Numerals of a fixed width and the order of texts

A number below a power of ten is written with zeros in front up to that many digits, and is read
back from this numeral. Texts are ordered character by character. Texts in front that are equally
long decide before what stands behind them, and numerals of one width are ordered like their
numbers.
-/

set_option autoImplicit false

namespace CrossQuery.Text

section Padded

theorem digitsBefore_append (fuel number : Nat) (after : List Char) :
    digitsBefore fuel number after = digitsBefore fuel number [] ++ after := by
  induction fuel generalizing number after with
  | zero => rfl
  | succ fuel ih =>
      unfold digitsBefore
      split
      · rfl
      · rw [ih, ih _ [digitChar (number % 10)], List.append_assoc]
        rfl

theorem digitsBefore_fuel {fuel other number : Nat} (after : List Char) (enough : number < fuel)
    (enoughToo : number < other) :
    digitsBefore fuel number after = digitsBefore other number after := by
  induction fuel generalizing number other after with
  | zero => omega
  | succ fuel ih =>
      cases other with
      | zero => omega
      | succ other =>
          unfold digitsBefore
          split
          · rfl
          · exact ih _ (by omega) (by omega)

theorem writeNat_of_lt {number : Nat} (small : number < 10) :
    writeNat number = [digitChar number] := by
  simp [writeNat, digitsBefore, small]

theorem writeNat_of_le {number : Nat} (large : 10 ≤ number) :
    writeNat number = writeNat (number / 10) ++ [digitChar (number % 10)] := by
  have unfolded : writeNat number =
      digitsBefore number (number / 10) [digitChar (number % 10)] := by
    rw [writeNat, digitsBefore, if_neg (by omega)]
  rw [unfolded, digitsBefore_append, writeNat,
    digitsBefore_fuel [] (by omega : number / 10 < number) (Nat.lt_succ_self _)]

theorem length_writeNat_le {width number : Nat} (positive : 0 < width)
    (below : number < 10 ^ width) : (writeNat number).length ≤ width := by
  induction width generalizing number with
  | zero => omega
  | succ width ih =>
      by_cases small : number < 10
      · rw [writeNat_of_lt small]
        simp
      · have wide : 0 < width := by
          rcases Nat.eq_zero_or_pos width with rfl | wide
          · simp at below
            omega
          · exact wide
        have tens : number / 10 < 10 ^ width := by
          rw [Nat.pow_succ] at below
          omega
        have shorter := ih wide tens
        rw [writeNat_of_le (by omega), List.length_append, List.length_singleton]
        omega

theorem writePadded_succ {width number : Nat} (positive : 0 < width)
    (below : number < 10 ^ (width + 1)) :
    writePadded (width + 1) number =
      writePadded width (number / 10) ++ [digitChar (number % 10)] := by
  by_cases small : number < 10
  · have tens : number / 10 = 0 := by omega
    have zero : writeNat 0 = ['0'] := rfl
    rw [writePadded, writePadded, writeNat_of_lt small, tens, zero, Nat.mod_eq_of_lt small]
    simp only [List.length_singleton, Nat.add_sub_cancel]
    rw [List.append_left_inj]
    obtain ⟨less, rfl⟩ : ∃ less, width = less + 1 := ⟨width - 1, by omega⟩
    simp [List.replicate_succ']
  · have fewer := length_writeNat_le positive
      (by rw [Nat.pow_succ] at below; omega : number / 10 < 10 ^ width)
    rw [writePadded, writePadded, writeNat_of_le (by omega), List.length_append,
      List.length_singleton, Nat.add_sub_add_right]
    simp

theorem writePadded_one {digit : Nat} (below : digit < 10) :
    writePadded 1 digit = [digitChar digit] := by
  simp [writePadded, writeNat_of_lt below]

theorem writePadded_add {width fewer number : Nat} (positive : 0 < width)
    (below : number < 10 ^ (width + (fewer + 1))) :
    writePadded (width + (fewer + 1)) number =
      writePadded width (number / 10 ^ (fewer + 1)) ++
        writePadded (fewer + 1) (number % 10 ^ (fewer + 1)) := by
  induction fewer generalizing number with
  | zero =>
      rw [writePadded_succ positive below, Nat.pow_one,
        writePadded_one (Nat.mod_lt number (by decide : 0 < 10))]
  | succ fewer ih =>
      have tens : number / 10 < 10 ^ (width + (fewer + 1)) := by
        rw [← Nat.add_assoc, Nat.pow_succ] at below
        exact Nat.div_lt_of_lt_mul (by rwa [Nat.mul_comm])
      have remaining : number % 10 ^ (fewer + 1 + 1) < 10 ^ (fewer + 1 + 1) :=
        Nat.mod_lt _ (Nat.pow_pos (by decide))
      have quotient : number / 10 / 10 ^ (fewer + 1) = number / 10 ^ (fewer + 1 + 1) := by
        rw [Nat.div_div_eq_div_mul, Nat.mul_comm, ← Nat.pow_succ]
      have remainder :
          number / 10 % 10 ^ (fewer + 1) = number % 10 ^ (fewer + 1 + 1) / 10 := by
        rw [Nat.pow_succ 10 (fewer + 1), Nat.mul_comm _ 10, Nat.mod_mul_right_div_self]
      have lastDigit : number % 10 = number % 10 ^ (fewer + 1 + 1) % 10 := by
        rw [Nat.mod_mod_of_dvd _ ⟨10 ^ (fewer + 1), by rw [Nat.pow_succ, Nat.mul_comm]⟩]
      rw [← Nat.add_assoc, writePadded_succ (by omega) (by rwa [← Nat.add_assoc] at below),
        ih tens, writePadded_succ (Nat.succ_pos _) remaining, quotient, remainder, ← lastDigit,
        List.append_assoc]

/-- A padded numeral is as long as it should be. -/
theorem length_writePadded {width number : Nat} (positive : 0 < width)
    (below : number < 10 ^ width) : (writePadded width number).length = width := by
  have fits := length_writeNat_le positive below
  simp [writePadded]
  omega

theorem isDecimalDigit_of_mem_writePadded {width number : Nat} {c : Char}
    (member : c ∈ writePadded width number) : isDecimalDigit c = true := by
  rcases List.mem_append.mp member with zero | digit
  · rw [List.eq_of_mem_replicate zero]
    rfl
  · exact isDecimalDigit_of_mem_writeNat digit

theorem readDigits?_append_zeros (count : Nat) (digits : List Char) :
    readDigits? 0 (List.replicate count '0' ++ digits) = readDigits? 0 digits := by
  induction count with
  | zero => rfl
  | succ count ih =>
      have zero : digitValue? '0' = some 0 := rfl
      simpa [List.replicate_succ, readDigits?, zero] using ih

/-- A padded numeral is read as its number. -/
@[simp] theorem readNat?_writePadded (width number : Nat) :
    readNat? (writePadded width number) = some number := by
  have plain := readNat?_writeNat number
  have nonempty := writeNat_ne_nil number
  unfold writePadded
  revert plain nonempty
  generalize writeNat number = digits
  intro plain nonempty
  have unpadded : ∀ text, text ≠ [] → readNat? text = readDigits? 0 text := by
    intro text some
    cases text with
    | nil => exact absurd rfl some
    | cons c rest => rfl
  rw [unpadded _ (by simp [nonempty]), readDigits?_append_zeros, ← unpadded _ nonempty, plain]

end Padded

theorem compareOfLessAndEq_list (left right : List Char) :
    compareOfLessAndEq left right = compare left right := by
  induction left generalizing right with
  | nil =>
      cases right with
      | nil => rfl
      | cons d others => simp [compareOfLessAndEq]
  | cons c rest ih =>
      cases right with
      | nil => simp [compareOfLessAndEq]
      | cons d others =>
          have first : compareOfLessAndEq c d = compare c d := rfl
          rw [List.compare_cons_cons, ← ih others, ← first]
          simp only [compareOfLessAndEq, List.cons_lt_cons_iff, List.cons.injEq]
          by_cases less : c < d
          · simp [less]
          · by_cases same : c = d
            · subst same
              simp
            · simp [less, same]

theorem compare_ofList (left right : List Char) :
    compare (String.ofList left) (String.ofList right) = compare left right := by
  rw [← compareOfLessAndEq_list]
  have strings : compare (String.ofList left) (String.ofList right) =
      compareOfLessAndEq (String.ofList left) (String.ofList right) := rfl
  rw [strings]
  simp only [compareOfLessAndEq, String.lt_iff, String.toList_ofList, String.ofList_inj]

theorem compare_append {left right : List Char} (sameLength : left.length = right.length)
    (leftRest rightRest : List Char) :
    compare (left ++ leftRest) (right ++ rightRest) =
      (compare left right).then (compare leftRest rightRest) := by
  induction left generalizing right with
  | nil =>
      obtain rfl := List.length_eq_zero_iff.mp sameLength.symm
      rfl
  | cons c rest ih =>
      cases right with
      | nil => cases sameLength
      | cons d others =>
          have shorter : rest.length = others.length := Nat.succ.inj sameLength
          simp only [List.cons_append, List.compare_cons_cons, ih shorter, Ordering.then_assoc]

/-- What stands behind two texts plays no part where it starts with a character below theirs. -/
theorem compare_append_of_above {separator : Char} {left right : List Char}
    (leftAbove : ∀ c ∈ left, separator < c) (rightAbove : ∀ c ∈ right, separator < c)
    (rest : List Char) :
    compare (left ++ separator :: rest) (right ++ separator :: rest) = compare left right := by
  induction left generalizing right with
  | nil =>
      cases right with
      | nil => simp
      | cons d others =>
          have first : compare separator d = .lt := if_pos (rightAbove d List.mem_cons_self)
          simp [List.compare_cons_cons, first]
  | cons c above ih =>
      cases right with
      | nil =>
          have swapped : compare separator c = .lt := if_pos (leftAbove c List.mem_cons_self)
          have first : compare c separator = .gt := Std.OrientedCmp.gt_iff_lt.mpr swapped
          simp [List.compare_cons_cons, first]
      | cons d others =>
          have behind := ih (fun e member => leftAbove e (List.mem_cons_of_mem _ member))
            fun e member => rightAbove e (List.mem_cons_of_mem _ member)
          simp only [List.cons_append, List.compare_cons_cons, behind]

theorem compare_digitChar {left right : Nat} (leftBelow : left < 10) (rightBelow : right < 10) :
    compare (digitChar left) (digitChar right) = compare left right := by
  have table : ∀ left right : Fin 10,
      compare (digitChar left) (digitChar right) = compare left.val right.val := by decide
  exact table ⟨left, leftBelow⟩ ⟨right, rightBelow⟩

theorem compare_div_mod (base left right : Nat) :
    (compare (left / base) (right / base)).then (compare (left % base) (right % base)) =
      compare left right := by
  have leftSplit := Nat.div_add_mod left base
  have rightSplit := Nat.div_add_mod right base
  rcases Nat.lt_trichotomy (left / base) (right / base) with less | same | greater
  · have before : left < right := Nat.lt_of_div_lt_div less
    rw [Nat.compare_eq_lt.mpr less, Nat.compare_eq_lt.mpr before]
    rfl
  · rw [same] at leftSplit
    rw [Nat.compare_eq_eq.mpr same]
    rcases Nat.lt_trichotomy left right with less | rfl | greater
    · rw [Nat.compare_eq_lt.mpr less,
        Nat.compare_eq_lt.mpr (by omega : left % base < right % base)]
      rfl
    · simp
    · rw [Nat.compare_eq_gt.mpr greater,
        Nat.compare_eq_gt.mpr (by omega : right % base < left % base)]
      rfl
  · have behind : right < left := Nat.lt_of_div_lt_div greater
    rw [Nat.compare_eq_gt.mpr greater, Nat.compare_eq_gt.mpr behind]
    rfl

/-- Numerals of one width are ordered like their numbers. -/
theorem compare_writePadded {width left right : Nat} (leftBelow : left < 10 ^ (width + 1))
    (rightBelow : right < 10 ^ (width + 1)) :
    compare (writePadded (width + 1) left) (writePadded (width + 1) right) =
      compare left right := by
  induction width generalizing left right with
  | zero =>
      rw [writePadded_one (by simpa using leftBelow), writePadded_one (by simpa using rightBelow)]
      simp [compare_digitChar (by simpa using leftBelow : left < 10)
        (by simpa using rightBelow : right < 10)]
  | succ width ih =>
      have leftTens : left / 10 < 10 ^ (width + 1) := by
        rw [Nat.pow_succ] at leftBelow
        omega
      have rightTens : right / 10 < 10 ^ (width + 1) := by
        rw [Nat.pow_succ] at rightBelow
        omega
      have sameLength : (writePadded (width + 1) (left / 10)).length =
          (writePadded (width + 1) (right / 10)).length := by
        rw [length_writePadded (Nat.succ_pos _) leftTens,
          length_writePadded (Nat.succ_pos _) rightTens]
      rw [writePadded_succ (Nat.succ_pos _) leftBelow,
        writePadded_succ (Nat.succ_pos _) rightBelow, compare_append sameLength,
        ih leftTens rightTens, ← compare_div_mod 10 left right]
      simp [compare_digitChar (Nat.mod_lt left (by decide : 0 < 10))
        (Nat.mod_lt right (by decide : 0 < 10))]

end CrossQuery.Text
