import CrossQuery.Pattern.Like
import CrossQuery.Proofs.Pattern.Literal
import CrossQuery.Select.Writer

/-!
# What LIKE patterns cover

A LIKE pattern is translated to a regular expression, character by character. The expression can
always be read, and it occurs in exactly the texts that the LIKE pattern covers by its own rules. A
text that is escaped for LIKE stands for itself, so that percent signs around it find the texts that
begin with it or in which it occurs.
-/

set_option autoImplicit false

namespace CrossQuery.Like

open Pattern

/-- The texts that a LIKE pattern covers, by its rules alone. -/
inductive Covers : List Char → List Char → Prop where
  | nothing : Covers [] []
  | anything (skipped : List Char) {like text : List Char} :
      Covers like text → Covers ('%' :: like) (skipped ++ text)
  | anyOne (c : Char) {like text : List Char} : Covers like text → Covers ('_' :: like) (c :: text)
  | escaped (c : Char) {like text : List Char} :
      Covers like text → Covers ('\\' :: c :: like) (c :: text)
  | loneBackslash : Covers ['\\'] ['\\']
  | itself {c : Char} {like text : List Char} :
      c ≠ '%' → c ≠ '_' → c ≠ '\\' → Covers like text → Covers (c :: like) (c :: text)

section Reading

/-- What the part of an expression for a LIKE pattern is read as. -/
def parts : List Char → List Pattern
  | [] => [.finish]
  | '%' :: rest => repeated (.oneOf .all) 0 none :: parts rest
  | '_' :: rest => .oneOf .all :: parts rest
  | '\\' :: c :: rest => char c :: parts rest
  | c :: rest => char c :: parts rest

/-- The marks of the part of an expression for a LIKE pattern. -/
def marks : List Char → List Mark
  | [] => [.item .finish]
  | '%' :: rest => .dot :: .times 0 none :: marks rest
  | '_' :: rest => .dot :: marks rest
  | '\\' :: c :: rest => .item (char c) :: marks rest
  | c :: rest => .item (char c) :: marks rest

theorem readMark?_escape (c : Char) (rest : List Char) :
    readMark? (escape [c] ++ rest) = some (.item (char c), rest) := by
  by_cases special : c ∈ metaCharacters
  · simp [escape, special, readMark?, escapedItem?_of_meta special]
  · simp [escape, special, readMark?_of_plain special]

/-- No part of an expression begins with a question mark, so that none is taken for a mark of the
repetition in front of it. -/
theorem skipLazy_expressionToEnd (like : List Char) :
    skipLazy (expressionToEnd like) = expressionToEnd like := by
  have escapedFirst (c : Char) (rest : List Char) :
      skipLazy (escape [c] ++ rest) = escape [c] ++ rest := by
    by_cases special : c ∈ metaCharacters
    · simp [escape, special, skipLazy]
    · have notLazy : c ≠ '?' := by
        rintro rfl
        exact special (by decide)
      simp [escape, special, skipLazy, notLazy]
  fun_cases expressionToEnd like with
  | case1 => rfl
  | case2 => rfl
  | case3 => rfl
  | case4 => exact escapedFirst _ _
  | case5 => exact escapedFirst _ _

/-- A text is read mark by mark. -/
theorem readMarks?_succ {fuel : Nat} {text rest : List Char} {mark : Mark} {others : List Mark}
    (first : readMark? text = some (mark, rest)) (later : readMarks? fuel rest = some others) :
    readMarks? (fuel + 1) text = some (mark :: others) := by
  cases text with
  | nil => cases first
  | cons c text => simp [readMarks?, first, later]

theorem readMarks?_expressionToEnd (like : List Char) (fuel : Nat)
    (enough : (expressionToEnd like).length < fuel) :
    readMarks? fuel (expressionToEnd like) = some (marks like) := by
  have shorter (c : Char) (rest : List Char) (fuel : Nat)
      (enough : (escape [c] ++ rest).length < fuel + 1) : rest.length < fuel := by
    by_cases special : c ∈ metaCharacters <;> simp [escape, special] at enough <;> omega
  fun_induction expressionToEnd like generalizing fuel with
  | case1 =>
      obtain ⟨less, rfl⟩ : ∃ less, fuel = less + 2 := Nat.exists_eq_add_of_le' enough
      rfl
  | case2 rest ih =>
      obtain ⟨less, rfl⟩ : ∃ less, fuel = less + 2 :=
        Nat.exists_eq_add_of_le' (by simp at enough; omega)
      have isRepetition : readMark? ('*' :: expressionToEnd rest) =
          some (.times 0 none, expressionToEnd rest) := by
        rw [readMark?, skipLazy_expressionToEnd]
      have later := ih less (by simpa using enough)
      exact readMarks?_succ rfl (readMarks?_succ isRepetition later)
  | case3 rest ih =>
      obtain ⟨less, rfl⟩ := Nat.exists_eq_add_one_of_ne_zero (Nat.ne_zero_of_lt enough)
      exact readMarks?_succ rfl (ih less (by simpa using enough))
  | case4 c rest ih =>
      obtain ⟨less, rfl⟩ := Nat.exists_eq_add_one_of_ne_zero (Nat.ne_zero_of_lt enough)
      exact readMarks?_succ (readMark?_escape c _) (ih less (shorter c _ less enough))
  | case5 c rest notAny notOne notEscaped ih =>
      obtain ⟨less, rfl⟩ := Nat.exists_eq_add_one_of_ne_zero (Nat.ne_zero_of_lt enough)
      rw [marks.eq_5 c rest notAny notOne notEscaped]
      exact readMarks?_succ (readMark?_escape c _) (ih less (shorter c _ less enough))

/-- The marks of a LIKE pattern put its parts behind the items of a group in which dots stand for
all characters. -/
theorem foldlM_applyMark?_marks (like : List Char) (items : List Pattern) :
    (marks like).foldlM applyMark? [⟨none, items, true⟩] =
      some [⟨none, (parts like).reverse ++ items, true⟩] := by
  fun_induction marks like generalizing items with
  | case1 => rfl
  | case2 rest ih => simp [applyMark?, parts, ih, Frame.push]
  | case3 rest ih => simp [applyMark?, parts, ih, Frame.push]
  | case4 c rest ih => simp [applyMark?, parts, ih, Frame.push]
  | case5 c rest notAny notOne notEscaped ih =>
      simp [applyMark?, parts, ih, Frame.push]

/-- The expression of a LIKE pattern is read as its parts behind the start of the text. -/
theorem parse?_expression (like : List Char) :
    parse? (expression like) = some (concat (.start :: parts like)) := by
  have later : readMarks? ((expressionToEnd like).length + 4) (expressionToEnd like) =
      some (marks like) := readMarks?_expressionToEnd like _ (by omega)
  have all : readMarks? ((expression like).length + 1) (expression like) =
      some (.switch true :: .item .start :: marks like) :=
    readMarks?_succ rfl (readMarks?_succ rfl later)
  simp [parse?, all, applyMark?, foldlM_applyMark?_marks, Frame.push, Frame.pattern]

end Reading

section Covering

variable {size : Nat} {like text left : List Char}

theorem mem_remainders_anyNumber :
    left ∈ remainders size (repeated (.oneOf .all) 0 none) text ↔ left <:+ text := by
  simp [repeated, concat, mem_remainders_sequence, mem_remainders_anything]

/-- What is matched is covered, and all of it: an expression leads to the end of the text. -/
theorem covers_of_mem_remainders (matched : left ∈ remainders size (concat (parts like)) text) :
    left = [] ∧ Covers like text := by
  fun_induction parts like generalizing text with
  | case1 =>
      obtain ⟨_, atEnd, done⟩ := mem_remainders_concat_cons.mp matched
      obtain ⟨rfl, rfl⟩ := mem_remainders_finish.mp atEnd
      exact ⟨mem_remainders_empty.mp done, .nothing⟩
  | case2 rest ih =>
      obtain ⟨tail, skips, later⟩ := mem_remainders_concat_cons.mp matched
      obtain ⟨skipped, rfl⟩ := mem_remainders_anyNumber.mp skips
      obtain ⟨toEnd, covers⟩ := ih later
      exact ⟨toEnd, .anything skipped covers⟩
  | case3 rest ih =>
      obtain ⟨tail, isOne, later⟩ := mem_remainders_concat_cons.mp matched
      obtain ⟨c, _, rfl⟩ := mem_remainders_oneOf.mp isOne
      obtain ⟨toEnd, covers⟩ := ih later
      exact ⟨toEnd, .anyOne c covers⟩
  | case4 c rest ih =>
      obtain ⟨tail, isChar, later⟩ := mem_remainders_concat_cons.mp matched
      obtain rfl := mem_remainders_char.mp isChar
      obtain ⟨toEnd, covers⟩ := ih later
      exact ⟨toEnd, .escaped c covers⟩
  | case5 c rest notAny notOne notEscaped ih =>
      obtain ⟨tail, isChar, later⟩ := mem_remainders_concat_cons.mp matched
      obtain rfl := mem_remainders_char.mp isChar
      obtain ⟨toEnd, covers⟩ := ih later
      refine ⟨toEnd, ?_⟩
      by_cases isBackslash : c = '\\'
      · cases rest with
        | nil =>
            obtain rfl := isBackslash
            cases covers
            exact .loneBackslash
        | cons next others => exact (notEscaped next others isBackslash rfl).elim
      · exact .itself notAny notOne isBackslash covers

theorem mem_remainders_of_covers (covers : Covers like text) :
    [] ∈ remainders size (concat (parts like)) text := by
  induction covers with
  | nothing =>
      exact mem_remainders_concat_cons.mpr ⟨[], mem_remainders_finish.mpr ⟨rfl, rfl⟩,
        mem_remainders_empty.mpr rfl⟩
  | anything skipped _ ih =>
      exact mem_remainders_concat_cons.mpr
        ⟨_, mem_remainders_anyNumber.mpr ⟨skipped, rfl⟩, ih⟩
  | anyOne c _ ih =>
      exact mem_remainders_concat_cons.mpr
        ⟨_, mem_remainders_oneOf.mpr ⟨c, CharSet.contains_all c, rfl⟩, ih⟩
  | escaped c _ ih => exact mem_remainders_concat_cons.mpr ⟨_, mem_remainders_char.mpr rfl, ih⟩
  | loneBackslash =>
      have atEnd : [] ∈ remainders size (concat [.finish]) [] :=
        mem_remainders_concat_cons.mpr ⟨[], mem_remainders_finish.mpr ⟨rfl, rfl⟩,
          mem_remainders_empty.mpr rfl⟩
      exact mem_remainders_concat_cons.mpr ⟨[], mem_remainders_char.mpr rfl, atEnd⟩
  | @itself c like _ notAny notOne notEscaped _ ih =>
      rw [parts.eq_5 c like notAny notOne fun _ _ isBackslash => absurd isBackslash notEscaped]
      exact mem_remainders_concat_cons.mpr ⟨_, mem_remainders_char.mpr rfl, ih⟩

/-- The parts of a LIKE pattern behind the start of the text match the texts that it covers. -/
theorem occursIn_parts_iff : (concat (.start :: parts like)).occursIn text = true ↔
    Covers like text := by
  rw [occursIn_start_eq_true_iff]
  exact ⟨fun ⟨_, matched⟩ => (covers_of_mem_remainders matched).2,
    fun covers => ⟨[], mem_remainders_of_covers covers⟩⟩

theorem holds_iff_covers : holds like text = true ↔ Covers like text := by
  rw [holds, parse?_expression]
  exact occursIn_parts_iff

end Covering

/-- The expression of every LIKE pattern can be read, and it matches exactly the texts that the
pattern covers. -/
theorem expression_matches_covered (like text : List Char) :
    ∃ pattern, Pattern.parse? (expression like) = some pattern ∧
      holds like text = pattern.occursIn text ∧
      (pattern.occursIn text = true ↔ Covers like text) := by
  refine ⟨_, parse?_expression like, ?_, occursIn_parts_iff⟩
  rw [holds, parse?_expression]

section Escaped

variable {literal like text : List Char}

theorem covers_itself {c : Char} (notAny : c ≠ '%') (notOne : c ≠ '_') (notEscaped : c ≠ '\\') :
    Covers (c :: like) text ↔ ∃ tail, text = c :: tail ∧ Covers like tail := by
  constructor
  · intro covers
    cases covers with
    | anything => exact absurd rfl notAny
    | anyOne => exact absurd rfl notOne
    | escaped => exact absurd rfl notEscaped
    | loneBackslash => exact absurd rfl notEscaped
    | itself _ _ _ covers => exact ⟨_, rfl, covers⟩
  · rintro ⟨tail, rfl, covers⟩
    exact .itself notAny notOne notEscaped covers

theorem covers_escaped {c : Char} :
    Covers ('\\' :: c :: like) text ↔ ∃ tail, text = c :: tail ∧ Covers like tail := by
  constructor
  · intro covers
    cases covers with
    | escaped _ covers => exact ⟨_, rfl, covers⟩
    | itself _ _ notEscaped => exact absurd rfl notEscaped
  · rintro ⟨tail, rfl, covers⟩
    exact .escaped c covers

theorem covers_anything :
    Covers ('%' :: like) text ↔ ∃ skipped tail, text = skipped ++ tail ∧ Covers like tail := by
  constructor
  · intro covers
    cases covers with
    | anything skipped covers => exact ⟨skipped, _, rfl, covers⟩
    | itself notAny => exact absurd rfl notAny
  · rintro ⟨skipped, tail, rfl, covers⟩
    exact .anything skipped covers

theorem covers_all (text : List Char) : Covers ['%'] text :=
  covers_anything.mpr ⟨text, [], (List.append_nil text).symm, .nothing⟩

/-- A text that is escaped in front of a pattern stands for itself. -/
theorem covers_escapeLikeChars_append :
    Covers (Select.escapeLikeChars literal ++ like) text ↔
      ∃ tail, text = literal ++ tail ∧ Covers like tail := by
  induction literal generalizing text with
  | nil => simp [Select.escapeLikeChars]
  | cons c rest ih =>
      have step : Covers (Select.escapeLikeChars (c :: rest) ++ like) text ↔
          ∃ tail, text = c :: tail ∧ Covers (Select.escapeLikeChars rest ++ like) tail := by
        by_cases special : c = '%' ∨ c = '_' ∨ c = '\\'
        · rw [Select.escapeLikeChars, if_pos special]
          exact covers_escaped
        · rw [Select.escapeLikeChars, if_neg special]
          simp only [not_or] at special
          exact covers_itself special.1 special.2.1 special.2.2
      rw [step]
      constructor
      · rintro ⟨_, rfl, covers⟩
        obtain ⟨tail, rfl, others⟩ := ih.mp covers
        exact ⟨tail, rfl, others⟩
      · rintro ⟨tail, rfl, covers⟩
        exact ⟨rest ++ tail, rfl, ih.mpr ⟨tail, rfl, covers⟩⟩

/-- An escaped text with a percent sign behind it is the pattern of the texts that begin with
it. -/
theorem holds_startsWith (literal text : List Char) :
    holds (Select.escapeLikeChars literal ++ ['%']) text = literal.isPrefixOf text := by
  rw [Bool.eq_iff_iff, holds_iff_covers, covers_escapeLikeChars_append,
    List.isPrefixOf_iff_prefix]
  constructor
  · rintro ⟨tail, rfl, _⟩
    exact ⟨tail, rfl⟩
  · rintro ⟨tail, rfl⟩
    exact ⟨tail, rfl, covers_all tail⟩

/-- An escaped text between percent signs is the pattern of the texts in which it occurs. -/
theorem holds_contains (literal text : List Char) :
    holds ('%' :: (Select.escapeLikeChars literal ++ ['%'])) text =
      Text.occurs literal text := by
  rw [Bool.eq_iff_iff, holds_iff_covers, covers_anything, Text.occurs_eq_true_iff]
  simp only [covers_escapeLikeChars_append]
  constructor
  · rintro ⟨before, _, rfl, behind, rfl, _⟩
    exact ⟨before, behind, (List.append_assoc _ _ _).symm⟩
  · rintro ⟨before, behind, rfl⟩
    exact ⟨before, literal ++ behind, List.append_assoc _ _ _, behind, rfl, covers_all behind⟩

end Escaped

end CrossQuery.Like
