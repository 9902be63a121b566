import CrossQuery.Proofs.Outcome
import CrossQuery.Proofs.Pattern.Like
import CrossQuery.Select.Reader

/-!
# LIKE patterns with an escape of their own

A statement may name the character that escapes in a LIKE pattern, which may be a percent sign or
an underscore, or say that none does. The pattern is then spelled with backslashes, and covers the
same texts in that spelling. Only a pattern that ends with an escape of nothing has none.
-/

set_option autoImplicit false

namespace CrossQuery.Like

open Select

/-- The texts that a LIKE pattern covers where the given character, if any, takes the next one
literally. A backslash stands for itself unless it is that character. -/
inductive CoversBy (escape : Option Char) : List Char → List Char → Prop where
  | nothing : CoversBy escape [] []
  | escaped {mark : Char} (c : Char) {like text : List Char} :
      escape = some mark → CoversBy escape like text →
      CoversBy escape (mark :: c :: like) (c :: text)
  | anything (skipped : List Char) {like text : List Char} :
      escape ≠ some '%' → CoversBy escape like text →
      CoversBy escape ('%' :: like) (skipped ++ text)
  | anyOne (c : Char) {like text : List Char} :
      escape ≠ some '_' → CoversBy escape like text → CoversBy escape ('_' :: like) (c :: text)
  | itself {c : Char} {like text : List Char} :
      escape ≠ some c → c ≠ '%' → c ≠ '_' → CoversBy escape like text →
      CoversBy escape (c :: like) (c :: text)

/-- The patterns that end with an escape of nothing, read from the left. -/
inductive EndsEscaping (mark : Char) : List Char → Prop where
  | last : EndsEscaping mark [mark]
  | escaped (c : Char) {like : List Char} :
      EndsEscaping mark like → EndsEscaping mark (mark :: c :: like)
  | other {c : Char} {like : List Char} :
      c ≠ mark → EndsEscaping mark like → EndsEscaping mark (c :: like)

section Covering

variable {escape : Option Char} {like text : List Char}

theorem covers_nil : Covers [] text ↔ text = [] := by
  constructor
  · intro covers
    cases covers
    rfl
  · rintro rfl
    exact .nothing

theorem covers_anyOne :
    Covers ('_' :: like) text ↔ ∃ c tail, text = c :: tail ∧ Covers like tail := by
  constructor
  · intro covers
    cases covers with
    | anyOne c covers => exact ⟨c, _, rfl, covers⟩
    | itself _ notOne => exact absurd rfl notOne
  · rintro ⟨c, tail, rfl, covers⟩
    exact .anyOne c covers

theorem coversBy_nil : CoversBy escape [] text ↔ text = [] := by
  constructor
  · intro covers
    cases covers
    rfl
  · rintro rfl
    exact .nothing

theorem coversBy_escaped {mark c : Char} (isEscape : escape = some mark) :
    CoversBy escape (mark :: c :: like) text ↔
      ∃ tail, text = c :: tail ∧ CoversBy escape like tail := by
  constructor
  · intro covers
    cases covers with
    | escaped _ _ covers => exact ⟨_, rfl, covers⟩
    | anything _ notAny => exact absurd isEscape notAny
    | anyOne _ notOne => exact absurd isEscape notOne
    | itself notEscape => exact absurd isEscape notEscape
  · rintro ⟨tail, rfl, covers⟩
    exact .escaped c isEscape covers

theorem coversBy_anything (notEscape : escape ≠ some '%') :
    CoversBy escape ('%' :: like) text ↔
      ∃ skipped tail, text = skipped ++ tail ∧ CoversBy escape like tail := by
  constructor
  · intro covers
    cases covers with
    | escaped _ isEscape => exact absurd isEscape notEscape
    | anything skipped _ covers => exact ⟨skipped, _, rfl, covers⟩
    | itself _ notAny => exact absurd rfl notAny
  · rintro ⟨skipped, tail, rfl, covers⟩
    exact .anything skipped notEscape covers

theorem coversBy_anyOne (notEscape : escape ≠ some '_') :
    CoversBy escape ('_' :: like) text ↔
      ∃ c tail, text = c :: tail ∧ CoversBy escape like tail := by
  constructor
  · intro covers
    cases covers with
    | escaped _ isEscape => exact absurd isEscape notEscape
    | anyOne c _ covers => exact ⟨c, _, rfl, covers⟩
    | itself _ _ notOne => exact absurd rfl notOne
  · rintro ⟨c, tail, rfl, covers⟩
    exact .anyOne c notEscape covers

theorem coversBy_itself {c : Char} (notEscape : escape ≠ some c) (notAny : c ≠ '%')
    (notOne : c ≠ '_') :
    CoversBy escape (c :: like) text ↔ ∃ tail, text = c :: tail ∧ CoversBy escape like tail := by
  constructor
  · intro covers
    cases covers with
    | escaped _ isEscape => exact absurd isEscape notEscape
    | anything => exact absurd rfl notAny
    | anyOne => exact absurd rfl notOne
    | itself _ _ _ covers => exact ⟨_, rfl, covers⟩
  · rintro ⟨tail, rfl, covers⟩
    exact .itself notEscape notAny notOne covers

end Covering

section Spelling

variable {escape : Option Char} {like spelled : List Char}

theorem endsEscaping_escaped {mark c : Char} :
    EndsEscaping mark (mark :: c :: like) ↔ EndsEscaping mark like := by
  constructor
  · intro ends
    cases ends with
    | escaped _ ends => exact ends
    | other different => exact absurd rfl different
  · exact .escaped c

theorem endsEscaping_other {mark c : Char} (different : c ≠ mark) :
    EndsEscaping mark (c :: like) ↔ EndsEscaping mark like := by
  constructor
  · intro ends
    cases ends with
    | last => exact absurd rfl different
    | escaped => exact absurd rfl different
    | other _ ends => exact ends
  · exact .other different

theorem exists_endsEscaping_of_ne {c : Char} (notEscape : some c ≠ escape) :
    (∃ mark, escape = some mark ∧ EndsEscaping mark (c :: like)) ↔
      ∃ mark, escape = some mark ∧ EndsEscaping mark like := by
  refine exists_congr fun mark => and_congr_right fun isMark => endsEscaping_other ?_
  intro same
  exact notEscape (same ▸ isMark.symm)

/-- Only a pattern that ends with an escape of nothing has no spelling. -/
theorem respellEscape_eq_error_iff {cause : ReadError} :
    respellEscape escape like = .error cause ↔
      cause = .escapeAtEnd ∧ ∃ mark, escape = some mark ∧ EndsEscaping mark like := by
  fun_induction respellEscape escape like generalizing cause with
  | case1 =>
      constructor
      · intro failed
        cases failed
      · rintro ⟨_, _, _, ends⟩
        cases ends
  | case2 c isEscape =>
      constructor
      · intro failed
        cases failed
        exact ⟨rfl, c, isEscape.symm, .last⟩
      · rintro ⟨rfl, _⟩
        rfl
  | case3 c isEscape literal rest ih =>
      rw [Outcome.bind_ok, Outcome.map_eq_error, ih]
      refine and_congr_right fun _ => exists_congr fun mark => and_congr_right fun isMark => ?_
      obtain rfl := Option.some.inj (isEscape.trans isMark)
      exact endsEscaping_escaped.symm
  | case4 rest notEscape ih =>
      rw [Outcome.bind_ok, Outcome.map_eq_error, ih, exists_endsEscaping_of_ne notEscape]
  | case5 c rest notEscape _ ih =>
      rw [Outcome.bind_ok, Outcome.map_eq_error, ih, exists_endsEscaping_of_ne notEscape]

/-- The spelling of a pattern covers the texts that the pattern covers with its own escape. -/
theorem covers_of_respellEscape (isSpelled : respellEscape escape like = .ok spelled)
    (text : List Char) : Covers spelled text ↔ CoversBy escape like text := by
  fun_induction respellEscape escape like generalizing spelled text with
  | case1 =>
      cases isSpelled
      rw [covers_nil, coversBy_nil]
  | case2 => cases isSpelled
  | case3 c isEscape literal rest ih =>
      obtain ⟨others, isOthers, same⟩ := Outcome.bind_eq_ok.mp isSpelled
      cases same
      rw [covers_escaped, coversBy_escaped isEscape.symm]
      simp only [ih isOthers]
  | case4 rest notEscape ih =>
      -- A backslash that does not escape is spelled as an escaped one.
      obtain ⟨others, isOthers, same⟩ := Outcome.bind_eq_ok.mp isSpelled
      cases same
      rw [covers_escaped, coversBy_itself (Ne.symm notEscape) (by decide) (by decide)]
      simp only [ih isOthers]
  | case5 c rest notEscape notBackslash ih =>
      obtain ⟨others, isOthers, same⟩ := Outcome.bind_eq_ok.mp isSpelled
      cases same
      -- A character is spelled as itself here, also where it is a wildcard.
      by_cases isAny : c = '%'
      · subst isAny
        rw [covers_anything, coversBy_anything (Ne.symm notEscape)]
        simp only [ih isOthers]
      · by_cases isOne : c = '_'
        · subst isOne
          rw [covers_anyOne, coversBy_anyOne (Ne.symm notEscape)]
          simp only [ih isOthers]
        · rw [covers_itself isAny isOne notBackslash,
            coversBy_itself (Ne.symm notEscape) isAny isOne]
          simp only [ih isOthers]

end Spelling

/-- Why a pattern has no spelling with backslashes in the place of an escape. -/
inductive Unspellable (pattern escape : String) : ReadError → Prop where
  | notOne : 1 < escape.toList.length → Unspellable pattern escape (.escapeLength escape)
  | atEnd {mark : Char} : escape.toList = [mark] → EndsEscaping mark pattern.toList →
      Unspellable pattern escape .escapeAtEnd

section Patterns

variable {pattern escape spelled : String}

theorem spellWithBackslash_of_lt (tooLong : 1 < escape.toList.length) :
    spellWithBackslash pattern escape = .error (.escapeLength escape) := by
  unfold spellWithBackslash
  split
  · next none => simp [none] at tooLong
  · next c one => simp [one] at tooLong
  · rfl

theorem spellWithBackslash_of_le (atMostOne : escape.toList.length ≤ 1) :
    spellWithBackslash pattern escape =
      (respellEscape escape.toList.head? pattern.toList).map String.ofList := by
  unfold spellWithBackslash
  split
  · next none =>
      rw [none]
      rfl
  · next c one =>
      rw [one]
      rfl
  · next notNone notOne =>
      cases chars : escape.toList with
      | nil => exact absurd chars notNone
      | cons c rest =>
          cases rest with
          | nil => exact absurd chars (notOne c)
          | cons => simp [chars] at atMostOne

theorem spellWithBackslash_eq_error_iff {cause : ReadError} :
    spellWithBackslash pattern escape = .error cause ↔ Unspellable pattern escape cause := by
  rcases Nat.lt_or_ge 1 escape.toList.length with tooLong | atMostOne
  · rw [spellWithBackslash_of_lt tooLong]
    constructor
    · intro failed
      cases failed
      exact .notOne tooLong
    · intro unspellable
      cases unspellable with
      | notOne => rfl
      | atEnd one => simp [one] at tooLong
  · rw [spellWithBackslash_of_le atMostOne, Outcome.map_eq_error, respellEscape_eq_error_iff]
    constructor
    · rintro ⟨rfl, mark, isMark, ends⟩
      obtain ⟨rest, chars⟩ := List.head?_eq_some_iff.mp isMark
      have none : rest = [] := by simpa [chars] using atMostOne
      exact .atEnd (none ▸ chars) ends
    · intro unspellable
      cases unspellable with
      | notOne tooLong => exact absurd atMostOne (Nat.not_le.mpr tooLong)
      | atEnd one ends => exact ⟨rfl, _, by rw [one]; rfl, ends⟩

theorem covers_of_spellWithBackslash (isSpelled : spellWithBackslash pattern escape = .ok spelled)
    (text : List Char) :
    Covers spelled.toList text ↔ CoversBy escape.toList.head? pattern.toList text := by
  rcases Nat.lt_or_ge 1 escape.toList.length with tooLong | atMostOne
  · rw [spellWithBackslash_of_lt tooLong] at isSpelled
    cases isSpelled
  · rw [spellWithBackslash_of_le atMostOne] at isSpelled
    obtain ⟨chars, isChars, rfl⟩ := Outcome.map_eq_ok.mp isSpelled
    rw [String.toList_ofList]
    exact covers_of_respellEscape isChars text

end Patterns

/-- A pattern with a custom escape is refused if the escape is not one character or stands at the
end with nothing to escape, and otherwise is spelled with backslashes so that it is held by the
same texts. -/
theorem custom_escape_respelled (pattern escape : String) (custom : escape ≠ "\\") :
    readPattern (.literal (.text pattern)) (some escape) =
        (fun spelled => .literal (.text spelled)) <$> spellWithBackslash pattern escape ∧
      (∀ cause, spellWithBackslash pattern escape = .error cause ↔
        Unspellable pattern escape cause) ∧
      ((¬ ∃ cause, Unspellable pattern escape cause) →
        ∃ spelled, spellWithBackslash pattern escape = .ok spelled ∧
          ∀ text, holds spelled.toList text = true ↔
            CoversBy escape.toList.head? pattern.toList text) := by
  have refused (cause : ReadError) : spellWithBackslash pattern escape = .error cause ↔
      Unspellable pattern escape cause := spellWithBackslash_eq_error_iff
  refine ⟨by simp [readPattern, custom], refused, ?_⟩
  intro spellable
  cases isSpelled : spellWithBackslash pattern escape with
  | error cause => exact absurd ⟨cause, (refused cause).mp isSpelled⟩ spellable
  | ok spelled =>
      refine ⟨spelled, rfl, ?_⟩
      intro text
      rw [holds_iff_covers]
      exact covers_of_spellWithBackslash isSpelled text

/-- A percent sign that escapes itself and an underscore, around a backslash and a wildcard. -/
theorem percent_as_escape_respelled :
    "%" ≠ "\\" ∧ (¬ ∃ cause, Unspellable "5%%\\_%_" "%" cause) ∧
      spellWithBackslash "5%%\\_%_" "%" = .ok "5\\%\\\\_\\_" ∧
      ∀ text, holds "5\\%\\\\_\\_".toList text = true ↔
        CoversBy (some '%') "5%%\\_%_".toList text := by
  have isSpelled : spellWithBackslash "5%%\\_%_" "%" = .ok "5\\%\\\\_\\_" := by cbv
  obtain ⟨_, refused, held⟩ := custom_escape_respelled "5%%\\_%_" "%" (by decide)
  have spellable : ¬ ∃ cause, Unspellable "5%%\\_%_" "%" cause := by
    rintro ⟨cause, unspellable⟩
    have failed := (refused cause).mpr unspellable
    rw [isSpelled] at failed
    cases failed
  obtain ⟨spelled, same, covered⟩ := held spellable
  rw [isSpelled] at same
  cases same
  exact ⟨by decide, spellable, isSpelled, covered⟩

end CrossQuery.Like
