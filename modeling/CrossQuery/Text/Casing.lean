import CrossQuery.Text.Blank
import CrossQuery.Text.CaseMappings

/-!
# Letter case

The full Unicode mappings to upper and lower case. A character may become several (`ß` becomes
`SS`), and a capital sigma that ends a word becomes the final sigma.
-/

set_option autoImplicit false

namespace CrossQuery.Text

/-- Where a run moves a code point, if the point is in the run. -/
def CaseRun.image? (run : CaseRun) (code : Nat) : Option Nat :=
  if run.first ≤ code && code ≤ run.last && (code - run.first) % run.step == 0 then
    some ((code : Int) + run.offset).toNat
  else
    none

/-- The mapping of one character through a table of runs and a table of sequences. -/
def mapCase (runs : List CaseRun) (sequences : List (Nat × List Nat)) (c : Char) : List Char :=
  match runs.findSome? (·.image? c.toNat) with
  | some code => [Char.ofNat code]
  | none =>
    match sequences.find? (·.1 == c.toNat) with
    | some entry => entry.2.map Char.ofNat
    | none => [c]

def upperChar (c : Char) : List Char :=
  if c.toNat < 128 then [c.toUpper] else mapCase upperRuns upperSequences c

/-- The lower-case form of one character outside any context. -/
def lowerChar (c : Char) : List Char :=
  if c.toNat < 128 then [c.toLower] else mapCase lowerRuns lowerSequences c

def upper (text : List Char) : List Char :=
  text.flatMap upperChar

/-- Whether the first character that does not merely modify a letter is a cased one. -/
def meetsCased (text : List Char) : Bool :=
  match text.dropWhile (fun c => inRanges caseIgnorableRanges c.toNat) with
  | c :: _ => inRanges casedRanges c.toNat
  | [] => false

/-- The lower-case form of the text that follows `before`, which is given last character first. -/
def lowerAfter (before : List Char) : List Char → List Char
  | [] => []
  | c :: rest =>
    let image :=
      if c = 'Σ' then
        if meetsCased before && !meetsCased rest then ['ς'] else ['σ']
      else
        lowerChar c
    image ++ lowerAfter (c :: before) rest

/-- The lower-case form of a text. A sigma is final when letters precede it and none follow. -/
def lower (text : List Char) : List Char :=
  lowerAfter [] text

/-- Equality of texts up to the case of ASCII letters. -/
def eqIgnoringAsciiCase (left right : String) : Bool :=
  left.toList.map Char.toLower == right.toList.map Char.toLower

theorem upper_append (left right : List Char) : upper (left ++ right) = upper left ++ upper right := by
  simp [upper]

theorem meetsCased_cons (c : Char) (text : List Char) :
    meetsCased (c :: text) =
      if inRanges caseIgnorableRanges c.toNat then meetsCased text
      else inRanges casedRanges c.toNat := by
  by_cases ignorable : inRanges caseIgnorableRanges c.toNat = true <;>
    simp [meetsCased, ignorable]

/-- Behind an underscore no letter is met. -/
theorem meetsCased_underscore (text rest : List Char) :
    meetsCased (text ++ '_' :: rest) = meetsCased text := by
  induction text with
  | nil =>
      have visible : inRanges caseIgnorableRanges '_'.toNat = false := by decide +kernel
      have uncased : inRanges casedRanges '_'.toNat = false := by decide +kernel
      rw [List.nil_append, meetsCased_cons, visible, uncased]
      rfl
  | cons c text ih => rw [List.cons_append, meetsCased_cons, meetsCased_cons, ih]

/-- What precedes an underscore does not change the case of what follows it. -/
theorem lowerAfter_underscore (seen before text : List Char) :
    lowerAfter (seen ++ '_' :: before) text = lowerAfter seen text := by
  induction text generalizing seen with
  | nil => rfl
  | cons c text ih =>
      rw [lowerAfter, lowerAfter, meetsCased_underscore, ← List.cons_append, ih]

/-- What follows an underscore does not change the case of what precedes it. -/
theorem lowerAfter_append_underscore (before text rest : List Char) :
    lowerAfter before (text ++ '_' :: rest) = lowerAfter before text ++ '_' :: lower rest := by
  induction text generalizing before with
  | nil =>
      have here := lowerAfter_underscore [] before rest
      have image : lowerChar '_' = ['_'] := by decide
      rw [List.nil_append] at here
      simp [lowerAfter, image, here, lower]
  | cons c text ih =>
      rw [List.cons_append, lowerAfter, lowerAfter, meetsCased_underscore, ih, List.append_assoc]

theorem lower_append_underscore (text rest : List Char) :
    lower (text ++ '_' :: rest) = lower text ++ '_' :: lower rest :=
  lowerAfter_append_underscore [] text rest

end CrossQuery.Text
