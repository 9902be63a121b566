import CrossQuery.Text.Blank

/-!
# Patterns

Regular expressions over characters with anchors for the two ends of a text. A pattern is matched
by the set of what can be left of the text behind a match.
-/

set_option autoImplicit false

namespace CrossQuery

/-- A set of characters: those in the ranges, or all others. -/
structure CharSet where
  ranges : List (Nat × Nat)
  negated : Bool
deriving DecidableEq

namespace CharSet

def single (c : Char) : CharSet :=
  ⟨[(c.toNat, c.toNat)], false⟩

def all : CharSet :=
  ⟨[], true⟩

def allBut (c : Char) : CharSet :=
  ⟨[(c.toNat, c.toNat)], true⟩

/-- Whether a character belongs to a set. -/
def contains (set : CharSet) (c : Char) : Bool :=
  Text.inRanges set.ranges c.toNat != set.negated

@[simp] theorem contains_all (c : Char) : all.contains c = true := rfl

theorem contains_single {c d : Char} : (single c).contains d = true ↔ d = c := by
  constructor
  · intro member
    have bounds : c.toNat ≤ d.toNat ∧ d.toNat ≤ c.toNat := by
      simpa [contains, single, Text.inRanges] using member
    exact Char.toNat_inj.mp (by omega)
  · rintro rfl
    simp [contains, single, Text.inRanges]

end CharSet

inductive Pattern where
  /-- The empty text, anywhere. -/
  | empty
  | oneOf (set : CharSet)
  /-- The place before the first character. -/
  | start
  /-- The place behind the last character. -/
  | finish
  | sequence (first second : Pattern)
  | either (first second : Pattern)
  /-- Any number of matches, one behind the other. -/
  | many (inner : Pattern)
deriving DecidableEq

namespace Pattern

def char (c : Char) : Pattern :=
  .oneOf (.single c)

def concat : List Pattern → Pattern
  | [] => .empty
  | first :: rest => .sequence first (concat rest)

/-- All texts that can be left behind any number of steps, each of which shortens the text. -/
def leftByRepeating (step : List Char → List (List Char)) : Nat → List (List Char) → List (List Char)
  | 0, frontier => frontier
  | fuel + 1, frontier =>
    let next := frontier.flatMap fun rest =>
      (step rest).filter fun left => left.length < rest.length
    if next.isEmpty then frontier else frontier ++ leftByRepeating step fuel next.eraseDups

/-- What can be left of the rest of a text behind a match. The size of the whole text tells
whether the rest is all of it. -/
def remainders (size : Nat) : Pattern → List Char → List (List Char)
  | .empty, rest => [rest]
  | .oneOf _, [] => []
  | .oneOf set, c :: rest => if set.contains c then [rest] else []
  | .start, rest => if rest.length = size then [rest] else []
  | .finish, rest => if rest.isEmpty then [rest] else []
  | .sequence first second, rest =>
    ((remainders size first rest).flatMap (remainders size second)).eraseDups
  | .either first second, rest => remainders size first rest ++ remainders size second rest
  | .many inner, rest => leftByRepeating (remainders size inner) rest.length [rest]

/-- Whether a pattern matches at the beginning of what is left of a text. -/
def leads (size : Nat) (pattern : Pattern) (rest : List Char) : Bool :=
  !(remainders size pattern rest).isEmpty

/-- Whether a pattern matches at the beginning of some tail of what is left of a text. -/
def occursFrom (size : Nat) (pattern : Pattern) : List Char → Bool
  | [] => leads size pattern []
  | c :: rest => leads size pattern (c :: rest) || occursFrom size pattern rest

/-- Whether a pattern matches somewhere in a text. -/
def occursIn (pattern : Pattern) (text : List Char) : Bool :=
  occursFrom text.length pattern text

end Pattern

end CrossQuery
