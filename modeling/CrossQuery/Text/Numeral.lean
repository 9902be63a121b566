/-!
# Decimal numerals

Whole numbers written with the digits `0` to `9`, and read back. Reading what was written gives
the number again (`readNat?_writeNat`, `readInt?_writeInt`).
-/

set_option autoImplicit false

namespace CrossQuery.Text

/-- The character of a digit below ten. -/
def digitChar (digit : Nat) : Char :=
  Char.ofNat (48 + digit)

def digitValue? (c : Char) : Option Nat :=
  if 48 ≤ c.toNat ∧ c.toNat ≤ 57 then some (c.toNat - 48) else none

/-- Whether a character is one of the ten digits. -/
def isDecimalDigit (c : Char) : Bool :=
  48 ≤ c.toNat && c.toNat ≤ 57

/-- The digits of a number in front of `after`; more fuel than digits is enough. -/
def digitsBefore : Nat → Nat → List Char → List Char
  | 0, _, after => after
  | fuel + 1, number, after =>
    if number < 10 then
      digitChar number :: after
    else
      digitsBefore fuel (number / 10) (digitChar (number % 10) :: after)

/-- The numeral of a natural number, without leading zeros. -/
def writeNat (number : Nat) : List Char :=
  digitsBefore (number + 1) number []

/-- The numeral of an integer; a negative one begins with `-`. -/
def writeInt : Int → List Char
  | .ofNat number => writeNat number
  | .negSucc below => '-' :: writeNat (below + 1)

/-- The number that digits continue, most significant digit first. -/
def readDigits? : Nat → List Char → Option Nat
  | sofar, [] => some sofar
  | sofar, c :: rest =>
    match digitValue? c with
    | some digit => readDigits? (10 * sofar + digit) rest
    | none => none

/-- The number of a numeral: one digit or more and nothing else. Leading zeros are accepted. -/
def readNat? : List Char → Option Nat
  | [] => none
  | digits => readDigits? 0 digits

/-- The number of a numeral that may begin with a sign. -/
def readInt? : List Char → Option Int
  | '-' :: digits => (readNat? digits).map fun number => -(number : Int)
  | '+' :: digits => (readNat? digits).map Int.ofNat
  | digits => (readNat? digits).map Int.ofNat

/-- The numeral of a number with zeros in front up to a width. -/
def writePadded (width number : Nat) : List Char :=
  let digits := writeNat number
  List.replicate (width - digits.length) '0' ++ digits

/-- The longest run of digits at the front, and the rest. -/
def spanDigits (text : List Char) : List Char × List Char :=
  (text.takeWhile isDecimalDigit, text.dropWhile isDecimalDigit)

theorem digitValue?_digitChar {digit : Nat} (below : digit < 10) :
    digitValue? (digitChar digit) = some digit := by
  have cases : digit = 0 ∨ digit = 1 ∨ digit = 2 ∨ digit = 3 ∨ digit = 4 ∨ digit = 5 ∨ digit = 6 ∨
      digit = 7 ∨ digit = 8 ∨ digit = 9 := by omega
  rcases cases with h | h | h | h | h | h | h | h | h | h <;> subst h <;> rfl

theorem isDecimalDigit_digitChar {digit : Nat} (below : digit < 10) :
    isDecimalDigit (digitChar digit) = true := by
  have cases : digit = 0 ∨ digit = 1 ∨ digit = 2 ∨ digit = 3 ∨ digit = 4 ∨ digit = 5 ∨ digit = 6 ∨
      digit = 7 ∨ digit = 8 ∨ digit = 9 := by omega
  rcases cases with h | h | h | h | h | h | h | h | h | h <;> subst h <;> rfl

theorem readDigits?_digitsBefore (fuel number sofar : Nat) (after : List Char) (enough : number < fuel) :
    ∃ scale, readDigits? sofar (digitsBefore fuel number after) =
      readDigits? (scale * sofar + number) after := by
  induction fuel generalizing number after with
  | zero => omega
  | succ fuel ih =>
      unfold digitsBefore
      split
      · next small =>
          refine ⟨10, ?_⟩
          simp [readDigits?, digitValue?_digitChar small]
      · next large =>
          obtain ⟨scale, eq⟩ := ih (number / 10) (digitChar (number % 10) :: after) (by omega)
          refine ⟨10 * scale, ?_⟩
          rw [eq, readDigits?, digitValue?_digitChar (Nat.mod_lt _ (by omega))]
          simp only
          congr 1
          rw [Nat.mul_add, ← Nat.mul_assoc]
          omega

theorem digitsBefore_ne_nil (fuel number : Nat) (after : List Char) :
    0 < fuel → digitsBefore fuel number after ≠ [] := by
  induction fuel generalizing number after with
  | zero => intro h; omega
  | succ fuel ih =>
      intro _
      unfold digitsBefore
      split
      · simp
      · next large =>
          cases fuel with
          | zero => simp [digitsBefore]
          | succ fuel => exact ih _ _ (by omega)

theorem writeNat_ne_nil (number : Nat) : writeNat number ≠ [] :=
  digitsBefore_ne_nil _ _ _ (by omega)

theorem isDecimalDigit_of_mem_digitsBefore (fuel number : Nat) (after : List Char) {c : Char}
    (member : c ∈ digitsBefore fuel number after) : isDecimalDigit c = true ∨ c ∈ after := by
  induction fuel generalizing number after with
  | zero => exact Or.inr member
  | succ fuel ih =>
      unfold digitsBefore at member
      split at member
      · next small =>
          rcases List.mem_cons.mp member with rfl | tail
          · exact Or.inl (isDecimalDigit_digitChar small)
          · exact Or.inr tail
      · rcases ih _ _ member with digit | tail
        · exact Or.inl digit
        · rcases List.mem_cons.mp tail with rfl | tail
          · exact Or.inl (isDecimalDigit_digitChar (Nat.mod_lt _ (by omega)))
          · exact Or.inr tail

/-- A numeral consists of digits. -/
theorem isDecimalDigit_of_mem_writeNat {number : Nat} {c : Char} (member : c ∈ writeNat number) :
    isDecimalDigit c = true := by
  rcases isDecimalDigit_of_mem_digitsBefore _ _ _ member with digit | none
  · exact digit
  · cases none

/-- Reading the numeral of a number gives the number. -/
@[simp] theorem readNat?_writeNat (number : Nat) : readNat? (writeNat number) = some number := by
  obtain ⟨scale, eq⟩ := readDigits?_digitsBefore (number + 1) number 0 [] (by omega)
  have nonempty := writeNat_ne_nil number
  unfold writeNat at nonempty ⊢
  revert eq nonempty
  generalize digitsBefore (number + 1) number [] = digits
  intro eq nonempty
  cases digits with
  | nil => exact absurd rfl nonempty
  | cons c rest => simpa [readNat?, readDigits?] using eq

theorem readDigits?_eq_none {text : List Char} {c : Char} (member : c ∈ text)
    (noDigit : isDecimalDigit c = false) (sofar : Nat) : readDigits? sofar text = none := by
  induction text generalizing sofar with
  | nil => cases member
  | cons first rest ih =>
      rw [readDigits?]
      split
      · next digit isDigit =>
          rcases List.mem_cons.mp member with rfl | inside
          · unfold digitValue? at isDigit
            split at isDigit
            · next range =>
                simp [isDecimalDigit, range] at noDigit
            · cases isDigit
          · exact ih inside _
      · rfl

/-- Nothing but digits is read as a number. -/
theorem readNat?_eq_none {text : List Char} {c : Char} (member : c ∈ text)
    (noDigit : isDecimalDigit c = false) : readNat? text = none := by
  unfold readNat?
  split
  · rfl
  · exact readDigits?_eq_none member noDigit 0

/-- Reading the numeral of an integer gives the integer. -/
@[simp] theorem readInt?_writeInt (number : Int) : readInt? (writeInt number) = some number := by
  cases number with
  | ofNat number =>
      have eq := readNat?_writeNat number
      have digits := @isDecimalDigit_of_mem_writeNat number
      unfold writeInt
      simp only
      revert eq digits
      generalize writeNat number = text
      intro eq digits
      unfold readInt?
      split
      · exact absurd (digits (c := '-') (by simp)) (by decide)
      · exact absurd (digits (c := '+') (by simp)) (by decide)
      · simp [eq]
  | negSucc below =>
      simp [writeInt, readInt?]
      omega

end CrossQuery.Text
