import CrossQuery.Pattern.Reader
import CrossQuery.Text.Search

/-!
# Texts that stand for themselves

A match leaves one of the texts that can stand behind it, constructor by constructor, and a pattern
occurs in a text where it leaves something of one of its tails. A text is escaped so that a regular
expression takes it literally. The expression finds the texts that begin with it or those in which
it occurs.
-/

set_option autoImplicit false

namespace CrossQuery

namespace Pattern

section Remainders

variable {size : Nat} {rest left : List Char}

@[simp] theorem mem_remainders_empty : left ∈ remainders size .empty rest ↔ left = rest := by
  simp [remainders]

theorem mem_remainders_oneOf {set : CharSet} :
    left ∈ remainders size (.oneOf set) rest ↔
      ∃ c, set.contains c = true ∧ rest = c :: left := by
  cases rest with
  | nil => simp [remainders]
  | cons head tail =>
      by_cases member : set.contains head = true
      · simp only [remainders, member, if_true, List.mem_singleton, List.cons.injEq]
        constructor
        · rintro rfl
          exact ⟨head, member, rfl, rfl⟩
        · rintro ⟨_, _, _, same⟩
          exact same.symm
      · simp only [remainders, member, Bool.false_eq_true, if_false, List.not_mem_nil, false_iff]
        rintro ⟨c, isMember, same⟩
        exact member ((List.cons.inj same).1 ▸ isMember)

theorem mem_remainders_char {c : Char} :
    left ∈ remainders size (char c) rest ↔ rest = c :: left := by
  simp [char, mem_remainders_oneOf, CharSet.contains_single]

theorem mem_remainders_start :
    left ∈ remainders size .start rest ↔ rest.length = size ∧ left = rest := by
  by_cases whole : rest.length = size <;> simp [remainders, whole]

theorem mem_remainders_finish :
    left ∈ remainders size .finish rest ↔ rest = [] ∧ left = [] := by
  cases rest <;> simp [remainders]

theorem mem_remainders_sequence {first second : Pattern} :
    left ∈ remainders size (.sequence first second) rest ↔
      ∃ middle ∈ remainders size first rest, left ∈ remainders size second middle := by
  simp [remainders]

theorem mem_remainders_concat_cons {first : Pattern} {others : List Pattern} :
    left ∈ remainders size (concat (first :: others)) rest ↔
      ∃ middle ∈ remainders size first rest, left ∈ remainders size (concat others) middle :=
  mem_remainders_sequence

/-- A literal text matches where the text stands. -/
theorem mem_remainders_literal {literal : List Char} :
    left ∈ remainders size (concat (literal.map char)) rest ↔ rest = literal ++ left := by
  induction literal generalizing rest with
  | nil => simp [concat, eq_comm]
  | cons c others ih =>
      simp only [List.map_cons, mem_remainders_concat_cons, mem_remainders_char, ih]
      constructor
      · rintro ⟨middle, rfl, rfl⟩
        rfl
      · rintro rfl
        exact ⟨others ++ left, rfl, rfl⟩

/-- Any characters leave any tail, the whole text included. -/
theorem mem_remainders_anything :
    left ∈ remainders size (.many (.oneOf .all)) rest ↔ left <:+ rest := by
  unfold remainders
  induction rest with
  | nil => simp [leftByRepeating]
  | cons c others ih =>
      have step : remainders size (.oneOf .all) (c :: others) = [others] := by
        simp [remainders]
      have once : [others].eraseDups = [others] := by
        simp [List.eraseDups_cons]
      simp only [List.length_cons, leftByRepeating, List.flatMap_cons, List.flatMap_nil,
        step, List.append_nil, List.filter_cons, Nat.lt_succ_self, decide_true, if_true,
        List.filter_nil, List.isEmpty_cons, Bool.false_eq_true, if_false, List.mem_append,
        List.mem_singleton, once, ih, List.suffix_cons_iff]

theorem leads_eq_true_iff {pattern : Pattern} :
    leads size pattern rest = true ↔ ∃ left, left ∈ remainders size pattern rest := by
  cases remaining : remainders size pattern rest <;> simp [leads, remaining]

theorem occursFrom_eq_true_iff {pattern : Pattern} :
    occursFrom size pattern rest = true ↔
      ∃ tail, tail <:+ rest ∧ ∃ left, left ∈ remainders size pattern tail := by
  induction rest with
  | nil => simp [occursFrom, leads_eq_true_iff]
  | cons c others ih =>
      simp only [occursFrom, Bool.or_eq_true, leads_eq_true_iff, ih, List.suffix_cons_iff]
      constructor
      · rintro (⟨left, member⟩ | ⟨tail, suffix, matched⟩)
        · exact ⟨c :: others, .inl rfl, left, member⟩
        · exact ⟨tail, .inr suffix, matched⟩
      · rintro ⟨tail, rfl | suffix, matched⟩
        · exact .inl matched
        · exact .inr ⟨tail, suffix, matched⟩

/-- A pattern occurs in a text where it matches at the beginning of one of its tails. -/
theorem occursIn_eq_true_iff {pattern : Pattern} {text : List Char} :
    pattern.occursIn text = true ↔
      ∃ tail, tail <:+ text ∧ ∃ left, left ∈ remainders text.length pattern tail :=
  occursFrom_eq_true_iff

/-- A pattern that begins with the start of the text is matched against the whole text only. -/
theorem occursIn_start_eq_true_iff {parts : List Pattern} {text : List Char} :
    (concat (.start :: parts)).occursIn text = true ↔
      ∃ left, left ∈ remainders text.length (concat parts) text := by
  simp only [occursIn_eq_true_iff, mem_remainders_concat_cons, mem_remainders_start]
  constructor
  · rintro ⟨tail, suffix, left, middle, ⟨whole, rfl⟩, member⟩
    exact ⟨left, suffix.eq_of_length whole ▸ member⟩
  · rintro ⟨left, member⟩
    exact ⟨text, List.suffix_refl text, left, text, ⟨rfl, rfl⟩, member⟩

end Remainders

/-- The pattern of a literal text occurs where the text does. -/
theorem occursIn_literal (literal text : List Char) :
    (concat (literal.map char)).occursIn text = Text.occurs literal text := by
  rw [Bool.eq_iff_iff, occursIn_eq_true_iff, Text.occurs_eq_true_iff]
  simp only [mem_remainders_literal]
  constructor
  · rintro ⟨tail, ⟨before, rfl⟩, behind, rfl⟩
    exact ⟨before, behind, by simp⟩
  · rintro ⟨before, behind, rfl⟩
    exact ⟨literal ++ behind, ⟨before, by simp⟩, behind, rfl⟩

/-- With the start of the text in front of it, the pattern of a literal text matches the texts
that begin with it. -/
theorem occursIn_start_literal (literal text : List Char) :
    (concat (.start :: literal.map char)).occursIn text = literal.isPrefixOf text := by
  rw [Bool.eq_iff_iff, occursIn_start_eq_true_iff, List.isPrefixOf_iff_prefix]
  simp only [mem_remainders_literal]
  constructor
  · rintro ⟨left, rfl⟩
    exact ⟨left, rfl⟩
  · rintro ⟨left, rfl⟩
    exact ⟨left, rfl⟩

theorem escapedItem?_of_meta {c : Char} (special : c ∈ metaCharacters) :
    escapedItem? c = some (char c) := by
  simp only [metaCharacters, List.mem_cons, List.not_mem_nil, or_false] at special
  rcases special with rfl | rfl | rfl | rfl | rfl | rfl | rfl | rfl | rfl | rfl | rfl | rfl | rfl |
    rfl | rfl | rfl | rfl | rfl <;> rfl

theorem readMark?_of_plain {c : Char} (plain : c ∉ metaCharacters) (rest : List Char) :
    readMark? (c :: rest) = some (.item (char c), rest) := by
  simp only [metaCharacters, List.mem_cons, not_or] at plain
  unfold readMark?
  split <;> simp_all

/-- The marks of an escaped text are its characters. -/
theorem readMarks?_escape (literal : List Char) (fuel : Nat)
    (enough : (escape literal).length < fuel) :
    readMarks? fuel (escape literal) = some ((literal.map char).map .item) := by
  induction literal generalizing fuel with
  | nil =>
      cases fuel with
      | zero => simp at enough
      | succ fuel => rfl
  | cons c rest ih =>
      cases fuel with
      | zero => simp at enough
      | succ fuel =>
          by_cases special : c ∈ metaCharacters
          · have shorter : (escape rest).length < fuel := by
              simp [escape, special] at enough
              omega
            simp [escape, special, readMarks?, readMark?, escapedItem?_of_meta special,
              ih fuel shorter]
          · have shorter : (escape rest).length < fuel := by
              simp [escape, special] at enough
              omega
            simp [escape, special, readMarks?, readMark?_of_plain special, ih fuel shorter]

/-- Items are put behind those that the innermost group has. -/
theorem foldlM_applyMark?_items (items : List Pattern) (frame : Frame) (outer : List Frame) :
    (items.map Mark.item).foldlM applyMark? (frame :: outer) =
      some ({ frame with items := items.reverse ++ frame.items } :: outer) := by
  induction items generalizing frame with
  | nil => rfl
  | cons item rest ih => simp [applyMark?, ih, Frame.push]

/-- A text of which all marks are items is read as these one behind the other. -/
theorem parse?_of_items {text : List Char} {items : List Pattern}
    (marks : readMarks? (text.length + 1) text = some (items.map Mark.item)) :
    parse? text = some (concat items) := by
  simp [parse?, marks, foldlM_applyMark?_items, Frame.pattern]

/-- An escaped text is read as the pattern that takes it literally. -/
theorem parse?_escape (literal : List Char) :
    parse? (escape literal) = some (concat (literal.map char)) :=
  parse?_of_items (readMarks?_escape literal _ (Nat.lt_succ_self _))

theorem parse?_start_escape (literal : List Char) :
    parse? ('^' :: escape literal) = some (concat (.start :: literal.map char)) := by
  apply parse?_of_items
  have marks := readMarks?_escape literal _ (Nat.lt_succ_self _)
  simp [readMarks?, readMark?, marks]

end Pattern

end CrossQuery
