import CrossQuery.Calendar.Reader
import CrossQuery.Proofs.Calendar.Order

/-!
# Reading what was written

The canonical text of a date or timestamp is read as that date or timestamp, whatever its year and
fraction. Each part is read in front of an arbitrary rest, which the part must not run into.
-/

set_option autoImplicit false

namespace CrossQuery

namespace Text

theorem isBlank_of_isDecimalDigit {c : Char} (digit : isDecimalDigit c = true) :
    isBlank c = false := by
  have bounds : 48 ≤ c.toNat ∧ c.toNat ≤ 57 := by simpa [isDecimalDigit] using digit
  rw [Bool.eq_false_iff]
  intro blank
  obtain ⟨range, member, least, most⟩ := inRanges_eq_true_iff.mp blank
  simp only [blankRanges, List.mem_cons, List.not_mem_nil, or_false] at member
  rcases member with rfl | rfl | rfl | rfl | rfl | rfl | rfl | rfl | rfl | rfl <;> omega

theorem trimLeft_cons {c : Char} (visible : isBlank c = false) (rest : List Char) :
    trimLeft (c :: rest) = c :: rest := by
  simp [trimLeft, visible]

theorem writePadded_eq_cons (width number : Nat) :
    ∃ c rest, writePadded width number = c :: rest ∧ isDecimalDigit c = true := by
  have digits := @isDecimalDigit_of_mem_writePadded width number
  cases written : writePadded width number with
  | nil =>
      have nonempty := writeNat_ne_nil number
      simp [writePadded, nonempty] at written
  | cons c rest => exact ⟨c, rest, rfl, digits (written ▸ List.mem_cons_self)⟩

theorem trimLeft_writePadded (width number : Nat) (rest : List Char) :
    trimLeft (writePadded width number ++ rest) = writePadded width number ++ rest := by
  obtain ⟨c, others, written, digit⟩ := writePadded_eq_cons width number
  rw [written, List.cons_append, trimLeft_cons (isBlank_of_isDecimalDigit digit)]

end Text

namespace Calendar

open Text

/-- A run of digits is read whole when it has as many digits as may be read, or when no digit
comes behind it. -/
theorem readNumber?_append {most number : Nat} {digits rest : List Char}
    (isRead : readNat? digits = some number) (allDigits : ∀ c ∈ digits, isDecimalDigit c = true)
    (fits : digits.length ≤ most)
    (ends : digits.length = most ∨ ∀ c ∈ rest.head?, isDecimalDigit c = false) :
    readNumber? most (digits ++ rest) = some (number, rest) := by
  have run : ((digits ++ rest).take most).takeWhile isDecimalDigit = digits := by
    rw [List.take_append, List.take_of_length_le fits, List.takeWhile_append_of_pos allDigits]
    rcases ends with exact | stop
    · simp [exact]
    · cases rest with
      | nil => simp
      | cons c others =>
          have noDigit := stop c rfl
          cases most - digits.length <;> simp [noDigit]
  simp [readNumber?, run, isRead]

theorem readNumber?_writePadded {width number : Nat} (positive : 0 < width)
    (below : number < 10 ^ width) (rest : List Char) :
    readNumber? width (writePadded width number ++ rest) = some (number, rest) :=
  readNumber?_append (readNat?_writePadded width number)
    (fun _ => isDecimalDigit_of_mem_writePadded) (Nat.le_of_eq (length_writePadded positive below))
    (.inl (length_writePadded positive below))

theorem readPair?_writePadded {number : Nat} (below : number < 10 ^ 2) (rest : List Char) :
    readPair? (writePadded 2 number ++ rest) = some (number, rest) := by
  rw [readPair?, trimLeft_writePadded, readNumber?_writePadded (by decide) below]

theorem readYear?_writeYear (year : Int) (rest : List Char) :
    readYear? (Date.writeYear year ++ '-' :: rest) = some (year, '-' :: rest) := by
  have stop : ∀ c ∈ ('-' :: rest).head?, isDecimalDigit c = false := by
    rintro c ⟨⟩
    rfl
  have signed (number : Nat) :
      readNumber? (writePadded 4 number ++ '-' :: rest).length
        (writePadded 4 number ++ '-' :: rest) = some (number, '-' :: rest) :=
    readNumber?_append (readNat?_writePadded 4 number)
      (fun _ => isDecimalDigit_of_mem_writePadded) (by simp) (.inr stop)
  unfold Date.writeYear
  by_cases plain : 0 ≤ year ∧ year ≤ 9999
  · obtain ⟨c, others, written, digit⟩ := writePadded_eq_cons 4 year.toNat
    have below : year.toNat < 10 ^ 4 := by omega
    have isRead := readNumber?_writePadded (by decide) below ('-' :: rest)
    have noMinus : c ≠ '-' := by rintro rfl; cases digit
    have noPlus : c ≠ '+' := by rintro rfl; cases digit
    rw [if_pos plain, readYear?, trimLeft_writePadded]
    rw [written, List.cons_append] at isRead ⊢
    split
    · next same => exact absurd (List.cons.inj same).1 noMinus
    · next same => exact absurd (List.cons.inj same).1 noPlus
    · rw [isRead]
      simp
      omega
  · have minusVisible : isBlank '-' = false := by decide
    have plusVisible : isBlank '+' = false := by decide
    rw [if_neg plain]
    by_cases negative : year < 0
    · simp only [negative, if_true, List.cons_append, readYear?, trimLeft_cons minusVisible, signed,
        Option.map_some, Option.some.injEq, Prod.mk.injEq, and_true]
      omega
    · simp only [negative, if_false, List.cons_append, readYear?, trimLeft_cons plusVisible, signed,
        Option.map_some, Option.some.injEq, Prod.mk.injEq, and_true]
      omega

@[simp] theorem expect?_cons (c : Char) (rest : List Char) : expect? c (c :: rest) = some rest := by
  simp [expect?]

theorem readDatePart?_write (date : Date) (rest : List Char) :
    readDatePart? (date.write ++ rest) = some (date, rest) := by
  have month := readPair?_writePadded date.month_lt
    ('-' :: (writePadded 2 date.day ++ rest))
  have day := readPair?_writePadded date.day_lt rest
  have year := readYear?_writeYear date.year
    (writePadded 2 date.month ++ '-' :: (writePadded 2 date.day ++ rest))
  simp [readDatePart?, Date.write, year, month, day, Date.of?_self]

theorem readNanos?_digits {digits : List Char} {number : Nat} (fits : digits.length ≤ 9)
    (allDigits : ∀ c ∈ digits, isDecimalDigit c = true) (isRead : readNat? digits = some number) :
    readNanos? digits = some (number * 10 ^ (9 - digits.length), []) := by
  have run : (digits.take 9).takeWhile isDecimalDigit = digits := by
    rw [List.take_of_length_le fits, ← List.append_nil digits,
      List.takeWhile_append_of_pos allDigits, List.takeWhile_nil]
  simp [readNanos?, run, isRead]

theorem readNanos?_writePadded {width number : Nat} (positive : 0 < width) (fits : width ≤ 9)
    (below : number < 10 ^ width) :
    readNanos? (writePadded width number) = some (number * 10 ^ (9 - width), []) := by
  have length := length_writePadded positive below
  have read := readNanos?_digits (Nat.le_trans (Nat.le_of_eq length) fits)
    (fun _ => isDecimalDigit_of_mem_writePadded) (readNat?_writePadded width number)
  rwa [length] at read

theorem readFraction?_writeFraction {nano : Nat} (below : nano < 1000 ^ 3) :
    readFraction? (TimeOfDay.writeFraction nano) = some (nano, []) := by
  unfold TimeOfDay.writeFraction
  by_cases zero : nano = 0
  · simp [zero, readFraction?]
  · by_cases noMillionths : nano % 1000000 = 0
    · rw [if_neg zero, if_pos noMillionths, readFraction?,
        readNanos?_writePadded (by decide) (by decide) (by omega)]
      simp
      omega
    · by_cases noThousandths : nano % 1000 = 0
      · rw [if_neg zero, if_neg noMillionths, if_pos noThousandths, readFraction?,
          readNanos?_writePadded (by decide) (by decide) (by omega)]
        simp
        omega
      · rw [if_neg zero, if_neg noMillionths, if_neg noThousandths, readFraction?,
          readNanos?_writePadded (by decide) (by decide) (by omega)]
        simp

theorem readTimePart?_write (time : TimeOfDay) :
    readTimePart? time.write = some (time, []) := by
  obtain ⟨hourBelow, minuteBelow, secondBelow, nanoBelow⟩ := time.parts_lt
  have hour := readPair?_writePadded hourBelow
    (':' :: (writePadded 2 time.minute ++ ':' :: (writePadded 2 time.second ++
      TimeOfDay.writeFraction time.nano)))
  have minute := readPair?_writePadded minuteBelow
    (':' :: (writePadded 2 time.second ++ TimeOfDay.writeFraction time.nano))
  have second := readPair?_writePadded secondBelow (TimeOfDay.writeFraction time.nano)
  have nano := readFraction?_writeFraction nanoBelow
  simp [readTimePart?, TimeOfDay.write, hour, minute, second, nano, TimeOfDay.of?_self]

theorem writeYear_eq_cons (year : Int) :
    ∃ c rest, Date.writeYear year = c :: rest ∧ isBlank c = false := by
  unfold Date.writeYear
  split
  · obtain ⟨c, rest, written, digit⟩ := writePadded_eq_cons 4 year.toNat
    exact ⟨c, rest, written, isBlank_of_isDecimalDigit digit⟩
  · split
    · exact ⟨_, _, rfl, by decide⟩
    · exact ⟨_, _, rfl, by decide⟩

/-- A text that begins with a year and ends with a digit has no blanks around it. -/
theorem trim_writeYear_append (year : Int) {rest : List Char}
    (ends : ∃ c, rest.getLast? = some c ∧ isDecimalDigit c = true) :
    trim (Date.writeYear year ++ rest) = Date.writeYear year ++ rest := by
  obtain ⟨last, isLast, digit⟩ := ends
  apply trim_eq_self
  · obtain ⟨c, others, written, visible⟩ := writeYear_eq_cons year
    rw [written]
    rintro _ ⟨⟩
    exact visible
  · rw [List.getLast?_append, isLast]
    rintro _ ⟨⟩
    exact isBlank_of_isDecimalDigit digit

theorem getLast?_append_digit (front : List Char) {digits : List Char}
    (nonempty : digits ≠ []) (allDigits : ∀ c ∈ digits, isDecimalDigit c = true) :
    ∃ c, (front ++ digits).getLast? = some c ∧ isDecimalDigit c = true := by
  refine ⟨digits.getLast nonempty, ?_, allDigits _ (List.getLast_mem nonempty)⟩
  rw [List.getLast?_append, List.getLast?_eq_some_getLast nonempty]
  rfl

theorem writePadded_ne_nil (width number : Nat) : writePadded width number ≠ [] := by
  obtain ⟨c, rest, written, _⟩ := writePadded_eq_cons width number
  simp [written]

/-- The text of a date is read as the date. -/
theorem readDate?_write (date : Date) : readDate? date.write = some date := by
  have ends := getLast?_append_digit ('-' :: (writePadded 2 date.month ++ ['-']))
    (writePadded_ne_nil 2 date.day) (fun _ => isDecimalDigit_of_mem_writePadded)
  have trimmed := trim_writeYear_append date.year ends
  have isRead := readDatePart?_write date []
  simp only [List.cons_append, List.append_assoc, List.nil_append, List.append_nil] at trimmed isRead
  rw [readDate?, Date.write, trimmed, ← Date.write, isRead]
  rfl

theorem writeFraction_ends (nano : Nat) :
    TimeOfDay.writeFraction nano = [] ∨
      ∃ front digits, TimeOfDay.writeFraction nano = front ++ digits ∧ digits ≠ [] ∧
        ∀ c ∈ digits, isDecimalDigit c = true := by
  unfold TimeOfDay.writeFraction
  split
  · exact .inl rfl
  · right
    split
    · exact ⟨['.'], _, rfl, writePadded_ne_nil _ _, fun _ => isDecimalDigit_of_mem_writePadded⟩
    · split
      · exact ⟨['.'], _, rfl, writePadded_ne_nil _ _, fun _ => isDecimalDigit_of_mem_writePadded⟩
      · exact ⟨['.'], _, rfl, writePadded_ne_nil _ _, fun _ => isDecimalDigit_of_mem_writePadded⟩

theorem getLast?_write_time (front : List Char) (time : TimeOfDay) :
    ∃ c, (front ++ time.write).getLast? = some c ∧ isDecimalDigit c = true := by
  rcases writeFraction_ends time.nano with none | ⟨point, digits, written, nonempty, allDigits⟩
  · have ends := getLast?_append_digit
      (front ++ (writePadded 2 time.hour ++ ':' :: (writePadded 2 time.minute ++ [':'])))
      (writePadded_ne_nil 2 time.second) (fun _ => isDecimalDigit_of_mem_writePadded)
    simpa [TimeOfDay.write, none] using ends
  · have ends := getLast?_append_digit
      (front ++ (writePadded 2 time.hour ++ ':' :: (writePadded 2 time.minute ++
        ':' :: (writePadded 2 time.second ++ point)))) nonempty allDigits
    simpa [TimeOfDay.write, written] using ends

/-- The text of a timestamp is read as the timestamp. -/
theorem readTimestamp?_write (timestamp : Timestamp) :
    readTimestamp? timestamp.write = some timestamp := by
  have ends := getLast?_write_time
    ('-' :: (writePadded 2 timestamp.date.month ++ '-' :: (writePadded 2 timestamp.date.day ++
      ['T']))) timestamp.time
  have trimmed : trim timestamp.write = timestamp.write := by
    have whole := trim_writeYear_append timestamp.date.year ends
    simpa [Timestamp.write, Date.write] using whole
  have date := readDatePart?_write timestamp.date ('T' :: timestamp.time.write)
  have time := readTimePart?_write timestamp.time
  have marked : readMarked? timestamp.write = some timestamp := by
    simp [readMarked?, Timestamp.write, date, time, whole?]
  simp [readTimestamp?, trimmed, marked]

end Calendar

end CrossQuery
