import CrossQuery.Proofs.Decimal.Shortest
import CrossQuery.Proofs.Select.Lexed
import CrossQuery.Select.Reader

/-!
# Numbers in statements

A float is written as a numeral: digits, perhaps a point with digits behind it, and perhaps an
exponent. A numeral is one token, and what it is read as is a number. The numeral of a float has the
value of the shortest decimal, so it is read as the float.
-/

set_option autoImplicit false

namespace CrossQuery

/-! ## Values of digits -/

namespace Decimal

theorem readDigits?_of_all {digits : List Char} (all : digits.all Text.isDecimalDigit = true)
    (sofar : Nat) : Text.readDigits? sofar digits =
      some (digits.foldl (fun sofar c => sofar * 10 + (c.toNat - 48)) sofar) := by
  induction digits generalizing sofar with
  | nil => rfl
  | cons c rest ih =>
      rw [List.all_cons, Bool.and_eq_true, Text.isDecimalDigit, Bool.and_eq_true,
        decide_eq_true_eq, decide_eq_true_eq] at all
      rw [Text.readDigits?, Text.digitValue?, if_pos all.1, Nat.mul_comm]
      exact ih all.2 _

/-- The digits of a number have its value. -/
theorem valueOfDigits_writeNat (number : Nat) : valueOfDigits (Text.writeNat number) = number := by
  have digits : (Text.writeNat number).all Text.isDecimalDigit = true :=
    List.all_eq_true.mpr fun _ => Text.isDecimalDigit_of_mem_writeNat
  have isRead := Text.readNat?_writeNat number
  unfold Text.readNat? at isRead
  split at isRead
  · cases isRead
  · rw [readDigits?_of_all digits] at isRead
    exact Option.some.inj isRead

/-- A zero behind digits is worth a factor of ten. -/
theorem valueOfDigits_append_zeros (digits : List Char) (count : Nat) :
    valueOfDigits (digits ++ List.replicate count '0') = valueOfDigits digits * 10 ^ count := by
  induction count with
  | zero => rw [List.replicate_zero, List.append_nil, Nat.pow_zero, Nat.mul_one]
  | succ count ih =>
      rw [List.replicate_succ', ← List.append_assoc, valueOfDigits, List.foldl_append]
      change valueOfDigits (digits ++ List.replicate count '0') * 10 + 0 = _
      rw [ih, Nat.add_zero, Nat.mul_assoc, Nat.pow_succ]

/-- Zeros in front of digits are worth nothing. -/
theorem valueOfDigits_zeros_append (count : Nat) (digits : List Char) :
    valueOfDigits (List.replicate count '0' ++ digits) = valueOfDigits digits := by
  induction count with
  | zero => rfl
  | succ count ih => exact ih

end Decimal

namespace Select

/-! ## Numerals -/

/-- A numeral by its parts. -/
structure Numeral where
  whole : List Char
  fraction : Option (List Char)
  exponent : Option Int
  someDigit : whole ≠ []
  wholeDigits : whole.all Text.isDecimalDigit = true
  fractionDigits : ∀ digits ∈ fraction, digits.all Text.isDecimalDigit = true

namespace Numeral

variable (numeral : Numeral)

/-- The point with the digits behind it. -/
def fractionText : List Char :=
  match numeral.fraction with
  | some digits => '.' :: digits
  | none => []

/-- The mark of the exponent with the exponent behind it. -/
def exponentText : List Char :=
  match numeral.exponent with
  | some exponent => 'e' :: Text.writeInt exponent
  | none => []

def text : List Char :=
  numeral.whole ++ (numeral.fractionText ++ numeral.exponentText)

end Numeral

namespace Token

theorem spanDigits_append {digits rest : List Char} (all : digits.all Text.isDecimalDigit = true)
    (stops : ∀ c ∈ rest.head?, Text.isDecimalDigit c = false) :
    Text.spanDigits (digits ++ rest) = (digits, rest) := by
  obtain ⟨taken, dropped⟩ := takeWhile_append_of_all all stops
  rw [Text.spanDigits, taken, dropped]

theorem all_writeNat (number : Nat) : (Text.writeNat number).all Text.isDecimalDigit = true :=
  List.all_eq_true.mpr fun _ => Text.isDecimalDigit_of_mem_writeNat

theorem mem_writeInt {number : Int} {c : Char} (member : c ∈ Text.writeInt number) :
    Text.isDecimalDigit c = true ∨ c = '-' := by
  cases number with
  | ofNat number => exact .inl (Text.isDecimalDigit_of_mem_writeNat member)
  | negSucc below =>
      rcases List.mem_cons.mp member with isSign | digit
      · exact .inr isSign
      · exact .inl (Text.isDecimalDigit_of_mem_writeNat digit)

theorem EndsNumber.not_digit {rest : List Char} (ends : EndsNumber rest) :
    ∀ c ∈ rest.head?, Text.isDecimalDigit c = false :=
  fun c head => (ends c head).1

theorem readExponent_writeInt (exponent : Int) {rest : List Char} (ends : EndsNumber rest) :
    readExponent ('e' :: (Text.writeInt exponent ++ rest)) =
      ('e' :: Text.writeInt exponent, rest) := by
  cases exponent with
  | ofNat number =>
      have digits := all_writeNat number
      have nonempty := Text.writeNat_ne_nil number
      simp only [Text.writeInt]
      cases written : Text.writeNat number with
      | nil => exact absurd written nonempty
      | cons first others =>
          rw [written] at digits
          have span := spanDigits_append digits ends.not_digit
          have digit : Text.isDecimalDigit first = true :=
            List.all_eq_true.mp digits first List.mem_cons_self
          have noSign : ¬(first = '+' ∨ first = '-') := by
            rintro (rfl | rfl) <;> exact absurd digit (by decide)
          rw [List.cons_append] at span
          simp [readExponent, noSign, span]
  | negSucc below =>
      have span := spanDigits_append (all_writeNat (below + 1)) ends.not_digit
      have nonempty := Text.writeNat_ne_nil (below + 1)
      cases written : Text.writeNat (below + 1) with
      | nil => exact absurd written nonempty
      | cons first others =>
          rw [written] at span
          simp only [Text.writeInt, written, readExponent, List.cons_append] at span ⊢
          simp [span]

theorem readExponent_of_ends {rest : List Char} (ends : EndsNumber rest) :
    readExponent rest = ([], rest) := by
  cases rest with
  | nil => rfl
  | cons c rest =>
      obtain ⟨_, others⟩ := ends c rfl
      simp only [List.mem_cons, List.not_mem_nil, or_false, not_or] at others
      simp [readExponent, others]

end Token

namespace Numeral

variable (numeral : Numeral)

open Token

theorem readExponent_exponentText {rest : List Char} (ends : EndsNumber rest) :
    readExponent (numeral.exponentText ++ rest) = (numeral.exponentText, rest) := by
  unfold exponentText
  split
  · exact readExponent_writeInt _ ends
  · exact readExponent_of_ends ends

/-- Neither a point nor a digit stands behind the fraction. -/
theorem exponentText_head {rest : List Char} (ends : EndsNumber rest) :
    ∀ c ∈ (numeral.exponentText ++ rest).head?,
      Text.isDecimalDigit c = false ∧ c ≠ '.' ∧ c ≠ 'x' := by
  unfold exponentText
  split
  · rintro c ⟨⟩
    exact ⟨by decide, by decide, by decide⟩
  · intro c head
    obtain ⟨noDigit, others⟩ := ends c head
    simp only [List.mem_cons, List.not_mem_nil, or_false, not_or] at others
    exact ⟨noDigit, others.1, others.2.2.2.2⟩

/-- Neither a digit nor the mark of a hexadecimal stands behind the whole part. -/
theorem fractionText_head {rest : List Char} (ends : EndsNumber rest) :
    ∀ c ∈ (numeral.fractionText ++ (numeral.exponentText ++ rest)).head?,
      Text.isDecimalDigit c = false ∧ c ≠ 'x' := by
  unfold fractionText
  split
  · rintro c ⟨⟩
    exact ⟨by decide, by decide⟩
  · intro c head
    obtain ⟨noDigit, _, notHex⟩ := numeral.exponentText_head ends c head
    exact ⟨noDigit, notHex⟩

theorem readNumber_text {rest : List Char} (ends : EndsNumber rest) :
    Token.readNumber (numeral.text ++ rest) = (.number (String.ofList numeral.text) false, rest) := by
  have head := numeral.fractionText_head ends
  have span := spanDigits_append numeral.wholeDigits fun c isHead => (head c isHead).1
  have exponent := numeral.readExponent_exponentText ends
  have exponentHead := numeral.exponentText_head ends
  have notLong : rest.head? ≠ some 'L' := fun isLong => absurd (ends 'L' isLong).2 (by decide)
  have notPoint : numeral.whole ≠ ['.'] := by
    intro same
    have digits := numeral.wholeDigits
    rw [same] at digits
    exact absurd digits (by decide)
  unfold Token.readNumber
  rw [text, List.append_assoc, List.append_assoc, span]
  dsimp only
  split
  · next isHex =>
      rw [isHex] at head
      exact absurd rfl (head 'x' rfl).2
  · cases isFraction : numeral.fraction with
    | some digits =>
        have fraction := spanDigits_append (numeral.fractionDigits digits isFraction)
          fun c isHead => (exponentHead c isHead).1
        have notSign : numeral.whole ++ ['.'] ++ digits ≠ ['.'] := by
          have some := numeral.someDigit
          cases shape : numeral.whole with
          | nil => exact absurd shape some
          | cons first others => simp
        simp only [fractionText, isFraction, List.cons_append, fraction, if_neg notSign, exponent]
        split
        · exact absurd rfl notLong
        · simp
    | none =>
        have noFraction : Text.spanDigits ([] ++ (numeral.exponentText ++ rest)) =
            ([], numeral.exponentText ++ rest) :=
          spanDigits_append rfl fun c isHead => (exponentHead c isHead).1
        simp only [fractionText, isFraction, List.nil_append] at noFraction ⊢
        split
        · next isPoint =>
            rw [isPoint] at exponentHead
            exact absurd rfl (exponentHead '.' rfl).2.1
        · simp only [noFraction, List.append_nil, if_neg notPoint, exponent]
          split
          · exact absurd rfl notLong
          · rfl

theorem exists_digit : ∃ first others, numeral.text = first :: others ∧
    Text.isDecimalDigit first = true := by
  have digits := numeral.wholeDigits
  have some := numeral.someDigit
  cases shape : numeral.whole with
  | nil => exact absurd shape some
  | cons first others =>
      rw [shape] at digits
      refine ⟨first, others ++ (numeral.fractionText ++ numeral.exponentText), ?_,
        List.all_eq_true.mp digits first List.mem_cons_self⟩
      rw [text, shape]
      rfl

theorem mem_text {c : Char} (member : c ∈ numeral.text) :
    Text.isDecimalDigit c = true ∨ c ∈ ['.', 'e', '-'] := by
  rw [text] at member
  rcases List.mem_append.mp member with inWhole | behind
  · exact .inl (List.all_eq_true.mp numeral.wholeDigits c inWhole)
  rcases List.mem_append.mp behind with inFraction | inExponent
  · unfold fractionText at inFraction
    split at inFraction
    · next digits isFraction =>
        rcases List.mem_cons.mp inFraction with rfl | inDigits
        · exact .inr (by decide)
        · exact .inl (List.all_eq_true.mp (numeral.fractionDigits digits isFraction) c inDigits)
    · cases inFraction
  · unfold exponentText at inExponent
    split at inExponent
    · rcases List.mem_cons.mp inExponent with rfl | inNumber
      · exact .inr (by decide)
      · rcases mem_writeInt inNumber with digit | rfl
        · exact .inl digit
        · exact .inr (by decide)
    · cases inExponent

theorem plain_tail {first : Char} {others rest : List Char}
    (spelled : numeral.text = first :: others) (apart : Apart rest) :
    (others ++ rest).head? ≠ some '"' ∧ (others ++ rest).head? ≠ some '\'' ∧
      (others ++ rest).head? ≠ some '&' := by
  cases others with
  | nil => exact apart.plain
  | cons next others =>
      have member : next ∈ numeral.text := by
        rw [spelled]
        exact List.mem_cons_of_mem _ List.mem_cons_self
      have part := numeral.mem_text member
      refine ⟨?_, ?_, ?_⟩ <;> (rintro ⟨⟩; exact absurd part (by decide))

end Numeral

theorem Lexes.numeral (numeral : Numeral) :
    Lexes numeral.text [.number (String.ofList numeral.text) false] := by
  obtain ⟨first, others, spelled, digit⟩ := numeral.exists_digit
  intro rest more apart reads
  have read := numeral.readNumber_text apart.ends_number
  have plain := numeral.plain_tail spelled apart
  rw [spelled] at read ⊢
  have visible : Token.isVisible first = true := by
    have visible : Token.digits.all Token.isVisible := by decide
    exact List.all_eq_true.mp visible first (Token.mem_digits digit)
  refine Reads.cons visible ?_ reads
  rw [← read]
  exact Token.read?_of_digit digit plain

/-! ## What numerals are read as -/

/-- Whether a float is written with a sign. -/
def isSigned (value : Float) : Bool :=
  (Decimal.Binary.ofFloat value).isNegative

/-- A constant that is a number without a sign, and whose opposite is a number. -/
inductive Literal.Unsigned : Literal → Prop where
  | integer {number : Nat} : number < 2 ^ 63 → Unsigned (.integer (Int64.ofNat number))
  | float {value : Float} :
      value.isNaN = false → isSigned value = false → Unsigned (.float value)

/-- What is read as a number has no sign: a sign in front of it is an operator. -/
theorem unsigned_of_readNumber {text : String} {literal : Literal}
    (isRead : readNumber text = .ok literal) : literal.Unsigned := by
  have unsigned : ∀ value, Decimal.readNumeral? text = some value →
      (Literal.float value).Unsigned := by
    intro value isValue
    obtain ⟨written, -, rfl⟩ := Option.map_eq_some_iff.mp isValue
    exact .float written.isNaN_toFloat written.isNegative_toFloat
  unfold readNumber at isRead
  split at isRead
  · split at isRead
    · next small =>
        cases isRead
        exact .integer small
    · split at isRead <;> cases isRead
      next isValue => exact unsigned _ isValue
  · split at isRead <;> cases isRead
    next isValue => exact unsigned _ isValue

namespace Numeral

variable (numeral : Numeral)

def written : Decimal.Written :=
  ⟨Decimal.valueOfDigits (numeral.whole ++ numeral.fraction.getD []),
    numeral.exponent.getD 0 - (numeral.fraction.getD []).length⟩

theorem readExponent?_exponentText :
    Decimal.readExponent? numeral.exponentText = some (numeral.exponent.getD 0) := by
  unfold exponentText
  split
  · next exponent isExponent =>
      rw [Decimal.readExponent?, if_pos (.inl rfl), Text.readInt?_writeInt, isExponent,
        Option.getD_some]
  · next noExponent =>
      rw [noExponent]
      rfl

theorem readWritten?_text : Decimal.readWritten? numeral.text = some numeral.written := by
  have ends : Token.EndsNumber [] := nofun
  have head := numeral.fractionText_head ends
  have exponentHead := numeral.exponentText_head ends
  rw [List.append_nil] at head exponentHead
  have span := Token.spanDigits_append numeral.wholeDigits fun c isHead => (head c isHead).1
  have isExponent := numeral.readExponent?_exponentText
  have nonempty : numeral.whole.isEmpty = false := by
    simpa using numeral.someDigit
  unfold Decimal.readWritten?
  rw [text, span]
  dsimp only
  rw [nonempty]
  cases isFraction : numeral.fraction with
  | some digits =>
      have fraction := Token.spanDigits_append (numeral.fractionDigits digits isFraction)
        fun c isHead => (exponentHead c isHead).1
      simp [fractionText, isFraction, fraction, isExponent, written]
  | none =>
      simp only [fractionText, isFraction, List.nil_append]
      split
      · next isPoint =>
          rw [isPoint] at exponentHead
          exact absurd rfl (exponentHead '.' rfl).2.1
      · simp [isExponent, isFraction, written]

theorem readNumeral?_text :
    Decimal.readNumeral? (String.ofList numeral.text) = some numeral.written.toFloat := by
  rw [Decimal.readNumeral?, String.toList_ofList, readWritten?_text, Option.map_some]

/-- A numeral is read as a constant whose opposite is a number. -/
theorem readNumber_ofList : ∃ literal, readNumber (String.ofList numeral.text) = .ok literal ∧
    literal.Unsigned := by
  have exists_literal : ∃ literal, readNumber (String.ofList numeral.text) = .ok literal := by
    unfold readNumber
    rw [String.toList_ofList, readNumeral?_text]
    split
    · split <;> exact ⟨_, rfl⟩
    · exact ⟨_, rfl⟩
  obtain ⟨literal, isRead⟩ := exists_literal
  exact ⟨literal, isRead, unsigned_of_readNumber isRead⟩

/-- A point or an exponent marks what is no integer. -/
theorem readNumber_of_marked
    (marked : numeral.fraction.isSome = true ∨ numeral.exponent.isSome = true) :
    readNumber (String.ofList numeral.text) = .ok (.float numeral.written.toFloat) := by
  have noInteger : Text.readNat? numeral.text = none := by
    rcases marked with hasPoint | hasExponent
    · obtain ⟨digits, isFraction⟩ := Option.isSome_iff_exists.mp hasPoint
      refine Text.readNat?_eq_none (c := '.') ?_ (by decide)
      simp [text, fractionText, isFraction]
    · obtain ⟨exponent, isExponent⟩ := Option.isSome_iff_exists.mp hasExponent
      refine Text.readNat?_eq_none (c := 'e') ?_ (by decide)
      simp [text, exponentText, isExponent]
  unfold readNumber
  rw [String.toList_ofList, noInteger, readNumeral?_text]

end Numeral

/-! ## Numerals of floats -/

/-- A numeral with the value of a decimal, marked as one that is no integer. -/
structure Numeral.Shows (numeral : Numeral) (decimal : Decimal.Scaled) : Prop where
  marked : numeral.fraction.isSome = true ∨ numeral.exponent.isSome = true
  value : numeral.written.value = decimal.value

/-- Zeros behind the digits of a decimal leave its value as it is, if the point moves with them. -/
theorem Numeral.Shows.of_parts {numeral : Numeral} {decimal : Decimal.Scaled} (zeros : Nat)
    (marked : numeral.fraction.isSome = true ∨ numeral.exponent.isSome = true)
    (sameDigits : numeral.written.digits = decimal.digits * 10 ^ zeros)
    (samePlace : numeral.written.exponent + zeros = decimal.exponent) : numeral.Shows decimal := by
  refine ⟨marked, ?_⟩
  rw [Decimal.Written.value, Decimal.Scaled.value, sameDigits, ← samePlace,
    zpow_add₀ (by norm_num), zpow_natCast]
  push_cast
  ring

theorem all_replicate_zero (count : Nat) :
    (List.replicate count '0').all Text.isDecimalDigit = true := by
  rw [List.all_replicate]
  split <;> rfl

theorem exists_numeral_plain (decimal : Decimal.Scaled) :
    ∃ numeral : Numeral, Decimal.plainText true decimal = numeral.text ∧
      numeral.Shows decimal := by
  have digits := Token.all_writeNat decimal.digits
  have nonempty := Text.writeNat_ne_nil decimal.digits
  have isValue := Decimal.valueOfDigits_writeNat decimal.digits
  unfold Decimal.plainText
  dsimp only
  generalize Text.writeNat decimal.digits = written at digits nonempty isValue
  split
  · refine ⟨⟨written ++ List.replicate decimal.exponent.toNat '0', some ['0'], none, ?_, ?_, ?_⟩,
      ?_, .of_parts (decimal.exponent.toNat + 1) (.inl rfl) ?_ ?_⟩
    · exact List.append_ne_nil_of_left_ne_nil nonempty _
    · rw [List.all_append, digits, all_replicate_zero]
      rfl
    · rintro _ ⟨⟩
      rfl
    · simp [Numeral.text, Numeral.fractionText, Numeral.exponentText]
    · rw [← isValue, ← Decimal.valueOfDigits_append_zeros, List.replicate_succ',
        ← List.append_assoc]
      rfl
    · simp only [Numeral.written, Option.getD_some, Option.getD_none, List.length_singleton]
      omega
  · split
    · next positive =>
        refine ⟨⟨written.take (written.length + decimal.exponent).toNat,
          some (written.drop (written.length + decimal.exponent).toNat), none, ?_, ?_, ?_⟩, ?_,
            .of_parts 0 (.inl rfl) ?_ ?_⟩
        · rw [ne_eq, List.take_eq_nil_iff, not_or]
          exact ⟨by omega, nonempty⟩
        · exact List.all_eq_true.mpr fun c member =>
            List.all_eq_true.mp digits c (List.mem_of_mem_take member)
        · rintro _ ⟨⟩
          exact List.all_eq_true.mpr fun c member =>
            List.all_eq_true.mp digits c (List.mem_of_mem_drop member)
        · simp [Numeral.text, Numeral.fractionText, Numeral.exponentText]
        · simp [Numeral.written, isValue]
        · simp only [Numeral.written, Option.getD_some, Option.getD_none, List.length_drop]
          omega
    · refine ⟨⟨['0'], some (List.replicate (-(written.length + decimal.exponent)).toNat '0' ++
        written), none, List.cons_ne_nil _ _, rfl, ?_⟩, ?_, .of_parts 0 (.inl rfl) ?_ ?_⟩
      · rintro _ ⟨⟩
        rw [List.all_append, digits, all_replicate_zero]
        rfl
      · simp [Numeral.text, Numeral.fractionText, Numeral.exponentText]
      · rw [Nat.pow_zero, Nat.mul_one, ← isValue]
        exact Decimal.valueOfDigits_zeros_append (_ + 1) written
      · simp only [Numeral.written, Option.getD_some, Option.getD_none, List.length_append,
          List.length_replicate]
        omega

theorem exists_numeral_exponent (decimal : Decimal.Scaled) :
    ∃ numeral : Numeral, Decimal.exponentText false decimal = numeral.text ∧
      numeral.Shows decimal := by
  have digits := Token.all_writeNat decimal.digits
  have nonempty := Text.writeNat_ne_nil decimal.digits
  have isValue := Decimal.valueOfDigits_writeNat decimal.digits
  unfold Decimal.exponentText
  dsimp only
  generalize Text.writeNat decimal.digits = written at digits nonempty isValue
  split
  · next first second rest =>
      rw [List.all_cons, Bool.and_eq_true] at digits
      refine ⟨⟨[first], some (second :: rest),
        some ((first :: second :: rest).length + decimal.exponent - 1), List.cons_ne_nil _ _,
        ?_, ?_⟩, ?_, .of_parts 0 (.inl rfl) ?_ ?_⟩
      · rw [List.all_cons, digits.1]
        rfl
      · rintro _ ⟨⟩
        exact digits.2
      · simp [Numeral.text, Numeral.fractionText, Numeral.exponentText]
      · simp [Numeral.written, isValue]
      · simp only [Numeral.written, Option.getD_some, List.length_cons]
        omega
  · next short =>
      have single : written.length = 1 := by
        cases written with
        | nil => exact absurd rfl nonempty
        | cons first others =>
            cases others with
            | nil => rfl
            | cons second rest => exact absurd rfl (short first second rest)
      refine ⟨⟨written, none, some (written.length + decimal.exponent - 1), nonempty, digits, nofun⟩,
        ?_, .of_parts 0 (.inr rfl) ?_ ?_⟩
      · simp [Numeral.text, Numeral.fractionText, Numeral.exponentText]
      · simp [Numeral.written, isValue]
      · simp only [Numeral.written, Option.getD_some, Option.getD_none, List.length_nil, single]
        omega

/-- A magnitude is written as a numeral that is read as the magnitude. -/
theorem exists_numeral_magnitude (magnitude : Decimal.Magnitude) :
    ∃ numeral : Numeral, Decimal.Notation.literal.magnitudeText magnitude = numeral.text ∧
      numeral.Shows (magnitude.shortest .upward) := by
  unfold Decimal.Notation.magnitudeText
  dsimp only
  split
  · exact exists_numeral_plain _
  · exact exists_numeral_exponent _

/-- The text of a float without its sign. -/
def floatSpelling (value : Float) : String :=
  String.ofList (Decimal.Notation.literal.unsignedText (.ofFloat value))

/-- The tokens of a float: a sign of its own if it is negative, and its numeral. -/
def floatTokens (value : Float) : List Token :=
  if isSigned value then [.sign "-", .number (floatSpelling value) false]
  else [.number (floatSpelling value) false]

/-- A finite float is written as a numeral. Without a sign, the numeral is read as the float. -/
theorem exists_numeral_float {value : Float} (isFinite : value.isFinite = true) :
    ∃ numeral : Numeral, floatSpelling value = String.ofList numeral.text ∧
      (isSigned value = false → readNumber (floatSpelling value) = .ok (.float value)) := by
  obtain ⟨negative, magnitude, parts⟩ := Decimal.ofFloat_of_isFinite isFinite
  obtain ⟨numeral, spelled, shows⟩ := exists_numeral_magnitude magnitude
  have isText : floatSpelling value = String.ofList numeral.text := by
    rw [floatSpelling, parts, Decimal.Notation.unsignedText, spelled]
  refine ⟨numeral, isText, fun unsigned => ?_⟩
  rw [isSigned, parts] at unsigned
  change negative = false at unsigned
  rw [unsigned] at parts
  rw [isText, numeral.readNumber_of_marked shows.marked,
    Decimal.toFloat_of_shortest .upward isFinite parts shows.value]

theorem readNumber_floatSpelling {value : Float} (isFinite : value.isFinite = true)
    (unsigned : isSigned value = false) : readNumber (floatSpelling value) = .ok (.float value) := by
  obtain ⟨_, -, isRead⟩ := exists_numeral_float isFinite
  exact isRead unsigned

theorem Lexes.float {value : Float} (isFinite : value.isFinite = true) :
    Lexes (Decimal.Notation.literal.floatText value).toList (floatTokens value) := by
  obtain ⟨numeral, spelled, -⟩ := exists_numeral_float isFinite
  have unsigned : Decimal.Notation.literal.unsignedText (.ofFloat value) = numeral.text :=
    String.ofList_injective spelled
  have number := Lexes.numeral numeral
  rw [Decimal.Notation.floatText, String.toList_ofList, Decimal.Notation.text, floatTokens, isSigned,
    unsigned, spelled]
  split
  · obtain ⟨first, others, isText, digit⟩ := numeral.exists_digit
    intro rest more apart reads
    have behind := number rest more apart reads
    rw [isText] at behind ⊢
    exact Reads.minus (Token.mem_operandStarts digit) behind
  · exact number

end Select

end CrossQuery
