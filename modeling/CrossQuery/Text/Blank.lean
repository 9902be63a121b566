/-!
# Blanks

A property of characters is kept as closed ranges of code points, ascending and apart. The blanks are
the characters of the Unicode property `White_Space`, and a text is trimmed of those around it.
-/

set_option autoImplicit false

namespace CrossQuery.Text

/-- Whether a code point lies in one of the closed ranges. -/
def inRanges (ranges : List (Nat × Nat)) (code : Nat) : Bool :=
  ranges.any fun range => range.1 ≤ code && code ≤ range.2

theorem inRanges_eq_true_iff {ranges : List (Nat × Nat)} {code : Nat} :
    inRanges ranges code = true ↔ ∃ range ∈ ranges, range.1 ≤ code ∧ code ≤ range.2 := by
  simp [inRanges]

/-- Code points of the property `White_Space`: 25 characters. -/
def blankRanges : List (Nat × Nat) :=
  [(0x09, 0x0D), (0x20, 0x20), (0x85, 0x85), (0xA0, 0xA0), (0x1680, 0x1680), (0x2000, 0x200A),
   (0x2028, 0x2029), (0x202F, 0x202F), (0x205F, 0x205F), (0x3000, 0x3000)]

def isBlank (c : Char) : Bool :=
  inRanges blankRanges c.toNat

def trimLeft (text : List Char) : List Char :=
  text.dropWhile isBlank

def trimRight (text : List Char) : List Char :=
  (text.reverse.dropWhile isBlank).reverse

def trim (text : List Char) : List Char :=
  trimRight (trimLeft text)

/-- A text that neither begins nor ends with a blank is its own trimmed form. -/
theorem trim_eq_self {text : List Char}
    (first : ∀ c ∈ text.head?, isBlank c = false)
    (last : ∀ c ∈ text.getLast?, isBlank c = false) : trim text = text := by
  have left : trimLeft text = text := by
    cases text with
    | nil => rfl
    | cons c rest => simp [trimLeft, first c (by simp)]
  rw [trim, left, trimRight]
  have reversed : text.reverse.dropWhile isBlank = text.reverse := by
    cases h : text.reverse with
    | nil => rfl
    | cons c rest =>
        have isLast : c ∈ text.getLast? := by
          rw [← List.head?_reverse, h]; simp
        simp [last c isLast]
  rw [reversed, List.reverse_reverse]

end CrossQuery.Text
