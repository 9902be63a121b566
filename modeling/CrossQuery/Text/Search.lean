/-!
# Searching texts

Whether a text occurs in another one, and the parts of a text between the occurrences of a separator.
-/

set_option autoImplicit false

namespace CrossQuery.Text

/-- Whether a part occurs in a text, its characters in one piece. -/
def occurs (part : List Char) : List Char → Bool
  | [] => part.isEmpty
  | c :: rest => part.isPrefixOf (c :: rest) || occurs part rest

/-- A part occurs in a text where the text is the part with something before and behind it. -/
theorem occurs_eq_true_iff {part text : List Char} :
    occurs part text = true ↔ ∃ before behind, text = before ++ part ++ behind := by
  induction text with
  | nil =>
      simp only [occurs, List.isEmpty_iff]
      constructor
      · rintro rfl
        exact ⟨[], [], rfl⟩
      · rintro ⟨before, behind, split⟩
        have lengths := congrArg List.length split
        simp only [List.length_nil, List.length_append] at lengths
        exact List.eq_nil_of_length_eq_zero (by omega)
  | cons c rest ih =>
      simp only [occurs, Bool.or_eq_true, List.isPrefixOf_iff_prefix, ih]
      constructor
      · rintro (⟨behind, split⟩ | ⟨before, behind, split⟩)
        · exact ⟨[], behind, split.symm⟩
        · exact ⟨c :: before, behind, by rw [split]; rfl⟩
      · rintro ⟨before, behind, split⟩
        cases before with
        | nil => exact .inl ⟨behind, split.symm⟩
        | cons first before =>
            refine .inr ⟨before, behind, ?_⟩
            simp only [List.cons_append, List.cons.injEq] at split
            exact split.2

/-- The parts of a text between separators. There is always one part more than separators. -/
def splitAt (separator : Char) : List Char → List (List Char)
  | [] => [[]]
  | c :: rest =>
    if c = separator then [] :: splitAt separator rest
    else
      match splitAt separator rest with
      | [] => [[c]]
      | part :: others => (c :: part) :: others

theorem splitAt_ne_nil (separator : Char) (text : List Char) : splitAt separator text ≠ [] := by
  cases text with
  | nil => simp [splitAt]
  | cons c rest =>
      unfold splitAt
      split
      · simp
      · split <;> simp

/-- A text without separators is its only part. -/
theorem splitAt_eq_singleton {separator : Char} {text : List Char}
    (absent : separator ∉ text) : splitAt separator text = [text] := by
  induction text with
  | nil => rfl
  | cons c rest ih =>
      have different : c ≠ separator := fun same => absent (same ▸ List.mem_cons_self)
      have restAbsent : separator ∉ rest := fun member => absent (List.mem_cons_of_mem _ member)
      simp [splitAt, different, ih restAbsent]

end CrossQuery.Text
