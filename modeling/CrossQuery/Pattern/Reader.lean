import CrossQuery.Pattern
import CrossQuery.Text.Blank
import CrossQuery.Text.Numeral
import CrossQuery.Text.Word

/-!
# Reading patterns

Regular expressions in text form: literal characters and escapes, the dot, anchors, classes in
brackets, groups, alternatives and repetitions. A text is split into marks, from which the pattern
is put together with one frame for each group that is still open.
-/

set_option autoImplicit false

namespace CrossQuery.Pattern

/-- The characters with a meaning of their own. -/
def metaCharacters : List Char :=
  ['\\', '.', '+', '*', '?', '(', ')', '|', '[', ']', '\x7b', '\x7d', '^', '$', '#', '&', '-', '~']

/-- A text in which characters with a meaning of their own are taken literally. -/
def escape : List Char → List Char
  | [] => []
  | c :: rest => if metaCharacters.contains c then '\\' :: c :: escape rest else c :: escape rest

/-- A piece of the text of a pattern. -/
inductive Mark where
  | item (pattern : Pattern)
  | dot
  | bar
  /-- Repeat what stands before, at least and at most so many times. -/
  | times (least : Nat) (most : Option Nat)
  /-- Begin a group, in which the dot may change its meaning. -/
  | opening (dotAll : Option Bool)
  | closing
  /-- From here to the end of the group the dot has another meaning. -/
  | switch (dotAll : Bool)

/-- The set of a class that a letter stands for. -/
def classOfLetter? : Char → Option CharSet
  | 'd' => some ⟨Text.digitRanges, false⟩
  | 'D' => some ⟨Text.digitRanges, true⟩
  | 's' => some ⟨Text.blankRanges, false⟩
  | 'S' => some ⟨Text.blankRanges, true⟩
  | 'w' => some ⟨Text.wordRanges, false⟩
  | 'W' => some ⟨Text.wordRanges, true⟩
  | _ => none

/-- The character that an escaped one stands for. -/
def escapedChar? : Char → Option Char
  | 'a' => some '\x07'
  | 'f' => some '\x0c'
  | 't' => some '\t'
  | 'n' => some '\n'
  | 'r' => some '\r'
  | 'v' => some '\x0b'
  | '<' | '>' => none
  | c => if c.toNat < 128 && !c.isAlphanum then some c else none

def escapedItem? : Char → Option Pattern
  | 'A' => some .start
  | 'z' => some .finish
  | c =>
    match classOfLetter? c with
    | some set => some (.oneOf set)
    | none => (escapedChar? c).map char

/-- A bound of a repetition, and the rest. -/
def readBound? (text : List Char) : Option (Nat × List Char) :=
  let (digits, rest) := Text.spanDigits text
  (Text.readNat? digits).map fun bound => (bound, rest)

/-- The bounds of a repetition behind the opening brace. -/
def readBounds? (text : List Char) : Option (Mark × List Char) := do
  let (least, rest) ← readBound? text
  match rest with
  | '\x7d' :: rest => some (.times least (some least), rest)
  | ',' :: '\x7d' :: rest => some (.times least none, rest)
  | ',' :: rest => do
    let (most, rest) ← readBound? rest
    match rest with
    | '\x7d' :: rest => if least ≤ most then some (.times least (some most), rest) else none
    | _ => none
  | _ => none

/-- A character of a class in brackets, or the ranges of a class letter. -/
def readMember? : List Char → Option ((Char ⊕ List (Nat × Nat)) × List Char)
  | '\\' :: c :: rest =>
    match classOfLetter? c with
    | some set => if set.negated then none else some (.inr set.ranges, rest)
    | none => (escapedChar? c).map fun c => (.inl c, rest)
  | ['\\'] | [] => none
  | '[' :: _ => none
  | c :: rest => some (.inl c, rest)

/-- The members of a class in brackets up to the closing one. The fuel exceeds the length. -/
def readMembers? : Nat → List (Nat × Nat) → List Char → Option (List (Nat × Nat) × List Char)
  | 0, _, _ => none
  | _ + 1, _, [] => none
  | _ + 1, ranges, ']' :: rest => some (ranges, rest)
  | fuel + 1, ranges, text => do
    let (first, rest) ← readMember? text
    match first, rest with
    | .inr others, rest => readMembers? fuel (ranges ++ others) rest
    | .inl first, '-' :: ']' :: rest =>
      some (ranges ++ [(first.toNat, first.toNat), ('-'.toNat, '-'.toNat)], rest)
    | .inl first, '-' :: rest => do
      match ← readMember? rest with
      | (.inl last, rest) =>
        if first ≤ last then readMembers? fuel (ranges ++ [(first.toNat, last.toNat)]) rest
        else none
      | (.inr _, _) => none
    | .inl first, rest => readMembers? fuel (ranges ++ [(first.toNat, first.toNat)]) rest

/-- The class behind an opening bracket. A closing bracket in the first place is a member. -/
def readClass? (text : List Char) : Option (Mark × List Char) := do
  let (negated, text) :=
    match text with
    | '^' :: rest => (true, rest)
    | _ => (false, text)
  let (first, text) :=
    match text with
    | ']' :: rest => ([(']'.toNat, ']'.toNat)], rest)
    | _ => ([], text)
  let (ranges, rest) ← readMembers? (text.length + 1) first text
  return (.item (.oneOf ⟨ranges, negated⟩), rest)

/-- What stands behind the opening of a group with a question mark. -/
def readGroup? : List Char → Option (Mark × List Char)
  | ':' :: rest => some (.opening none, rest)
  | 's' :: ')' :: rest => some (.switch true, rest)
  | 's' :: ':' :: rest => some (.opening (some true), rest)
  | '-' :: 's' :: ')' :: rest => some (.switch false, rest)
  | '-' :: 's' :: ':' :: rest => some (.opening (some false), rest)
  | _ => none

/-- A repetition without the mark for the shortest match, which does not change what matches. -/
def skipLazy : List Char → List Char
  | '?' :: rest => rest
  | rest => rest

/-- The first mark of a text, and the rest. -/
def readMark? : List Char → Option (Mark × List Char)
  | [] => none
  | '(' :: '?' :: rest => readGroup? rest
  | '(' :: rest => some (.opening none, rest)
  | ')' :: rest => some (.closing, rest)
  | '|' :: rest => some (.bar, rest)
  | '.' :: rest => some (.dot, rest)
  | '^' :: rest => some (.item .start, rest)
  | '$' :: rest => some (.item .finish, rest)
  | '*' :: rest => some (.times 0 none, skipLazy rest)
  | '+' :: rest => some (.times 1 none, skipLazy rest)
  | '?' :: rest => some (.times 0 (some 1), skipLazy rest)
  | '\x7b' :: rest => (readBounds? rest).map fun (mark, rest) => (mark, skipLazy rest)
  | '[' :: rest => readClass? rest
  | '\\' :: c :: rest => (escapedItem? c).map fun item => (.item item, rest)
  | ['\\'] => none
  | c :: rest => some (.item (char c), rest)

/-- The marks of a text. The fuel exceeds the length. -/
def readMarks? : Nat → List Char → Option (List Mark)
  | 0, _ => none
  | _ + 1, [] => some []
  | fuel + 1, text => do
    let (mark, rest) ← readMark? text
    return mark :: (← readMarks? fuel rest)

/-- A group that is not closed yet. -/
structure Frame where
  /-- The alternatives before the one that is being read. -/
  before : Option Pattern
  /-- The items of the alternative that is being read, the last one first. -/
  items : List Pattern
  dotAll : Bool

def Frame.pattern (frame : Frame) : Pattern :=
  let last := concat frame.items.reverse
  match frame.before with
  | some before => .either before last
  | none => last

def repeated (pattern : Pattern) (least : Nat) : Option Nat → Pattern
  | none => concat (List.replicate least pattern ++ [.many pattern])
  | some most =>
    concat
      (List.replicate least pattern ++ List.replicate (most - least) (.either pattern .empty))

def Frame.push (frame : Frame) (item : Pattern) : Frame :=
  { frame with items := item :: frame.items }

/-- The open groups after a mark, the innermost one first. -/
def applyMark? : List Frame → Mark → Option (List Frame)
  | frame :: outer, .item item => some (frame.push item :: outer)
  | frame :: outer, .dot =>
    some (frame.push (.oneOf (if frame.dotAll then .all else .allBut '\n')) :: outer)
  | frame :: outer, .bar => some ({ frame with before := some frame.pattern, items := [] } :: outer)
  | frame :: outer, .switch dotAll => some ({ frame with dotAll := dotAll } :: outer)
  | frame :: outer, .times least most =>
    match frame.items with
    | [] => none
    | last :: others => some ({ frame with items := repeated last least most :: others } :: outer)
  | frame :: outer, .opening dotAll =>
    some (⟨none, [], dotAll.getD frame.dotAll⟩ :: frame :: outer)
  | frame :: around :: outer, .closing => some (around.push frame.pattern :: outer)
  | _, _ => none

/-- The pattern of a regular expression in text form. -/
def parse? (text : List Char) : Option Pattern := do
  let marks ← readMarks? (text.length + 1) text
  match ← marks.foldlM applyMark? [⟨none, [], false⟩] with
  | [frame] => some frame.pattern
  | _ => none

end CrossQuery.Pattern
