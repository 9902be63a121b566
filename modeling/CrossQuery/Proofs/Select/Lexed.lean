import CrossQuery.Select.Writer
import CrossQuery.Select.Token

/-!
# Texts and their tokens

A piece of a written text becomes the same tokens whatever stands behind it, as long as that begins
with a blank, a comma or a closing parenthesis. Pieces are put together with such characters
between them.
-/

set_option autoImplicit false

namespace CrossQuery.Select

namespace Token

/-- A word of the language. -/
def keyword (word : String) : Token :=
  .word word word

/-- The words that statements are written with. -/
def keywords : List String :=
  ["SELECT", "FROM", "WHERE", "GROUP", "BY", "ORDER", "LIMIT", "OFFSET", "JOIN", "LEFT", "ON", "AS",
    "ASC", "DESC", "NULLS", "FIRST", "LAST", "AND", "OR", "NOT", "IN", "IS", "NULL", "BETWEEN", "LIKE",
    "ESCAPE", "TRUE", "FALSE", "CAST", "COUNT", "SUM", "AVG", "DISTINCT", "DATE", "TIMESTAMP",
    "BIGINT", "DOUBLE", "PRECISION", "MIN", "MAX", "INTEGER", "INT", "FLOAT", "REAL", "VARCHAR",
    "TEXT"]

theorem ofWord_keyword {word : String} (isKeyword : word ∈ keywords) :
    ofWord word.toList = keyword word := by
  have all : keywords.all fun word => ofWord word.toList == keyword word := by decide
  exact eq_of_beq (List.all_eq_true.mp all word isKeyword)

/-- Whether a character begins neither a blank nor a comment. -/
def isVisible (c : Char) : Bool :=
  !Text.isBlank c && c != '-' && c != '/'

/-- Whether a word of two characters or more can be seen and read from its first one on. -/
def isPlainWord : List Char → Bool
  | first :: second :: rest =>
    isVisible first && (beginsWord first && (first :: second :: rest).all continuesWord)
  | _ => false

/-- What can be seen of a keyword at its first two characters and behind them. -/
theorem spelling_keyword {word : String} (isKeyword : word ∈ keywords) :
    ∃ first second rest, word.toList = first :: second :: rest ∧ isVisible first = true ∧
      beginsWord first = true ∧ (first :: second :: rest).all continuesWord = true := by
  have all : keywords.all (fun word => isPlainWord word.toList) = true := by decide
  have fits := List.all_eq_true.mp all word isKeyword
  unfold isPlainWord at fits
  split at fits
  · next first second rest spelled =>
      obtain ⟨visible, fits⟩ := Bool.and_eq_true_iff.mp fits
      obtain ⟨begins, continues⟩ := Bool.and_eq_true_iff.mp fits
      exact ⟨first, second, rest, spelled, visible, begins, continues⟩
  · cases fits

/-! ## Single tokens -/

/-- Doubled quotes are read as single ones, up to the quote that closes the text. -/
theorem readEnclosed?_doubled {quote : Char} {rest : List Char}
    (closed : ∀ c ∈ rest.head?, c ≠ quote) (text : List Char) :
    readEnclosed? quote (doubled quote text ++ quote :: rest) = some (text, rest) := by
  induction text with
  | nil =>
      cases rest with
      | nil => simp [doubled, readEnclosed?]
      | cons next rest =>
          have other : next ≠ quote := closed next rfl
          simp [doubled, readEnclosed?, other]
  | cons c text ih =>
      by_cases isQuote : c = quote
      · subst isQuote
        simp [doubled, readEnclosed?, ih]
      · have step : doubled quote (c :: text) ++ quote :: rest =
            c :: (doubled quote text ++ quote :: rest) := by simp [doubled, isQuote]
        rw [step]
        cases inner : doubled quote text ++ quote :: rest with
        | nil => simp at inner
        | cons next after =>
            rw [inner] at ih
            simp [readEnclosed?, isQuote, ih]

theorem read?_text {rest : List Char} (closed : ∀ c ∈ rest.head?, c ≠ '\'') (value : String) :
    read? (enclosed '\'' value ++ rest) = some (.text value, rest) := by
  have body := readEnclosed?_doubled closed value.toList
  simp [read?, enclosed, body]

theorem read?_quotedName {rest : List Char} (closed : ∀ c ∈ rest.head?, c ≠ '"') (name : String) :
    read? (enclosed '"' name ++ rest) = some (.quotedName name, rest) := by
  have body := readEnclosed?_doubled closed name.toList
  simp [read?, enclosed, body]

theorem readLettered?_of_plain {c : Char} {rest : List Char}
    (plain : rest.head? ≠ some '"' ∧ rest.head? ≠ some '\'' ∧ rest.head? ≠ some '&') :
    readLettered? c rest = some (readPlain c rest) := by
  obtain ⟨noName, noText, noUnicode⟩ := plain
  unfold readLettered?
  split
  · exact absurd rfl noName
  · exact absurd rfl noText
  · exact absurd rfl noUnicode
  · rfl

/-- A sign of one character stands for itself whatever follows it. -/
theorem read?_punctuation {c : Char} (isSign : c ∈ ['(', ')', ',', '*']) (rest : List Char) :
    read? (c :: rest) = some (.sign (String.singleton c), rest) := by
  have plain : readPlain c rest = (.sign (String.singleton c), rest) := by
    simp only [List.mem_cons, List.not_mem_nil, or_false] at isSign
    rcases isSign with rfl | rfl | rfl | rfl <;> rfl
  have lettered : readLettered? c rest = some (readPlain c rest) := by
    simp only [List.mem_cons, List.not_mem_nil, or_false] at isSign
    unfold readLettered?
    rcases isSign with rfl | rfl | rfl | rfl <;> split <;> rfl
  rw [plain] at lettered
  simp only [List.mem_cons, List.not_mem_nil, or_false] at isSign
  rcases isSign with rfl | rfl | rfl | rfl <;> exact lettered

theorem takeWhile_append_of_all {α : Type} {p : α → Bool} {front rest : List α}
    (all : front.all p = true) (stops : ∀ a ∈ rest.head?, p a = false) :
    (front ++ rest).takeWhile p = front ∧ (front ++ rest).dropWhile p = rest := by
  induction front with
  | nil =>
      cases rest with
      | nil => exact ⟨rfl, rfl⟩
      | cons a rest => simp [stops a rfl]
  | cons a front ih =>
      obtain ⟨here, later⟩ := Bool.and_eq_true_iff.mp all
      obtain ⟨taken, dropped⟩ := ih later
      simp [here, taken, dropped]

theorem read?_of_beginsWord {c : Char} (begins : beginsWord c = true) (rest : List Char) :
    read? (c :: rest) = readLettered? c rest := by
  have noText : c ≠ '\'' := by rintro rfl; exact absurd begins (by decide)
  have noName : c ≠ '"' := by rintro rfl; exact absurd begins (by decide)
  have noDollar : c ≠ '$' := by rintro rfl; exact absurd begins (by decide)
  have noSign : signStarts.contains c = false := by
    have none : signStarts.all fun start => !beginsWord start := by decide
    cases isStart : signStarts.contains c with
    | false => rfl
    | true =>
        have notWord := List.all_eq_true.mp none c (List.contains_iff_mem.mp isStart)
        simp [begins] at notWord
  simp only [read?, if_neg noText, if_neg noName, if_neg noDollar, noSign]
  rfl

theorem read?_keyword {word : String} (isKeyword : word ∈ keywords) {rest : List Char}
    (apart : ∀ c ∈ rest.head?, continuesWord c = false) :
    read? (word.toList ++ rest) = some (keyword word, rest) := by
  have token := ofWord_keyword isKeyword
  obtain ⟨first, second, more, spelled, -, begins, continues⟩ := spelling_keyword isKeyword
  obtain ⟨taken, dropped⟩ := takeWhile_append_of_all continues apart
  have second_continues : continuesWord second = true :=
    List.all_eq_true.mp continues second (by simp)
  have plain : (second :: (more ++ rest)).head? ≠ some '"' ∧
      (second :: (more ++ rest)).head? ≠ some '\'' ∧
      (second :: (more ++ rest)).head? ≠ some '&' := by
    refine ⟨?_, ?_, ?_⟩ <;>
      (rintro ⟨⟩; exact absurd second_continues (by decide))
  rw [spelled] at token ⊢
  have isWord : readPlain first (second :: (more ++ rest)) =
      readWord (first :: second :: more ++ rest) := by simp [readPlain, begins]
  calc read? (first :: second :: more ++ rest)
      = readLettered? first (second :: (more ++ rest)) := read?_of_beginsWord begins _
    _ = some (readPlain first (second :: (more ++ rest))) := readLettered?_of_plain plain
    _ = some (keyword word, rest) := by rw [isWord, readWord, taken, dropped, token]

def digits : List Char :=
  ['0', '1', '2', '3', '4', '5', '6', '7', '8', '9']

theorem mem_digits {c : Char} (digit : Text.isDecimalDigit c = true) : c ∈ digits := by
  simp only [Text.isDecimalDigit, Bool.and_eq_true, decide_eq_true_eq] at digit
  have code : ∃ number, number < 10 ∧ c.toNat = 48 + number := ⟨c.toNat - 48, by omega⟩
  obtain ⟨number, below, code⟩ := code
  have char : c = Text.digitChar number := by rw [Text.digitChar, ← code, Char.ofNat_toNat]
  have all : ∀ number < 10, Text.digitChar number ∈ digits := by decide
  exact char ▸ all number below

theorem read?_of_digit {c : Char} (digit : Text.isDecimalDigit c = true) {rest : List Char}
    (plain : rest.head? ≠ some '"' ∧ rest.head? ≠ some '\'' ∧ rest.head? ≠ some '&') :
    read? (c :: rest) = some (readNumber (c :: rest)) := by
  have all : digits.all fun c =>
      !(c = '\'' || c = '"' || signStarts.contains c || c = '$' || beginsWord c) := by decide
  have other := List.all_eq_true.mp all c (mem_digits digit)
  simp only [Bool.not_eq_true', Bool.or_eq_false_iff, decide_eq_false_iff_not] at other
  obtain ⟨⟨⟨⟨noText, noName⟩, noSign⟩, noDollar⟩, noWord⟩ := other
  simp only [read?, if_neg noText, if_neg noName, if_neg noDollar, noSign, Bool.false_eq_true,
    if_false, readLettered?_of_plain plain, readPlain, noWord, digit, Bool.true_or, if_true]

/-- The characters that operands begin with, unless with a minus sign. -/
def operandStarts : List Char :=
  digits ++ ['"', '\'', '(', 'N', 'T', 'F', 'C', 'S', 'A', 'M']

theorem mem_operandStarts {c : Char} (digit : Text.isDecimalDigit c = true) : c ∈ operandStarts :=
  List.mem_append_left _ (mem_digits digit)

/-- What may follow a number: nothing that would belong to it. -/
def EndsNumber (rest : List Char) : Prop :=
  ∀ c ∈ rest.head?, Text.isDecimalDigit c = false ∧ c ∉ ['.', 'e', 'E', 'L', 'x']

theorem readNumber_of_digits {whole rest : List Char} (nonempty : whole ≠ [])
    (digits : whole.all Text.isDecimalDigit = true) (ends : EndsNumber rest) :
    readNumber (whole ++ rest) = (.number (String.ofList whole) false, rest) := by
  have noPoint : whole ≠ ['.'] := by
    rintro rfl
    exact absurd digits (by decide)
  obtain ⟨taken, dropped⟩ := takeWhile_append_of_all digits fun c head => (ends c head).1
  unfold readNumber
  simp only [Text.spanDigits, taken, dropped]
  cases rest with
  | nil => simp [readExponent, noPoint]
  | cons c rest =>
      obtain ⟨noDigit, others⟩ := ends c rfl
      simp only [List.mem_cons, List.not_mem_nil, or_false, not_or] at others
      obtain ⟨notPoint, notLower, notUpper, notLong, notHex⟩ := others
      simp [readExponent, noPoint, noDigit, notPoint, notLower, notUpper, notLong, notHex]

theorem readNumber_writeNat (number : Nat) {rest : List Char} (ends : EndsNumber rest) :
    readNumber (Text.writeNat number ++ rest) =
      (.number (String.ofList (Text.writeNat number)) false, rest) :=
  readNumber_of_digits (Text.writeNat_ne_nil number)
    (List.all_eq_true.mpr fun _ => Text.isDecimalDigit_of_mem_writeNat) ends

end Token

/-! ## Pieces of texts -/

/-- A text becomes the given tokens, however many steps are allowed beyond its length. -/
def Reads (text : List Char) (tokens : List Token) : Prop :=
  ∀ fuel, text.length ≤ fuel → Token.readAll? fuel text = some tokens

/-- What may stand behind a piece of a written text. -/
def Apart (rest : List Char) : Prop :=
  ∀ c ∈ rest.head?, c ∈ [' ', ',', ')']

/-- A piece of a text becomes the given tokens, whatever stands behind it. -/
def Lexes (text : List Char) (tokens : List Token) : Prop :=
  ∀ rest more, Apart rest → Reads rest more → Reads (text ++ rest) (tokens ++ more)

/-- A piece that itself begins with a blank, a comma or a closing parenthesis, if it is not
empty. -/
def Trails (text : List Char) (tokens : List Token) : Prop :=
  Lexes text tokens ∧ ∀ rest, Apart rest → Apart (text ++ rest)

theorem Apart.blank (rest : List Char) : Apart (' ' :: rest) := by
  rintro c ⟨⟩
  decide

theorem Apart.not_continuesWord {rest : List Char} (apart : Apart rest) {c : Char}
    (head : c ∈ rest.head?) : Token.continuesWord c = false := by
  have none : [' ', ',', ')'].all fun c => !Token.continuesWord c := by decide
  simpa using List.all_eq_true.mp none c (apart c head)

theorem Apart.ends_number {rest : List Char} (apart : Apart rest) : Token.EndsNumber rest := by
  have none : [' ', ',', ')'].all fun c =>
      !Text.isDecimalDigit c && decide (c ∉ ['.', 'e', 'E', 'L', 'x']) := by decide
  intro c head
  simpa using List.all_eq_true.mp none c (apart c head)

theorem Apart.ne {rest : List Char} (apart : Apart rest) {other : Char}
    (absent : other ∉ [' ', ',', ')']) : ∀ c ∈ rest.head?, c ≠ other := by
  rintro c head rfl
  exact absent (apart c head)

theorem Reads.nil : Reads [] [] := by
  intro fuel _
  cases fuel <;> rfl

theorem Reads.blank {rest : List Char} {tokens : List Token} (reads : Reads rest tokens) :
    Reads (' ' :: rest) tokens := by
  intro fuel enough
  cases fuel with
  | zero => simp at enough
  | succ fuel => exact reads fuel (by simpa using enough)

theorem Reads.cons {c : Char} {text rest : List Char} {token : Token} {tokens : List Token}
    (visible : Token.isVisible c = true) (read : Token.read? (c :: text ++ rest) = some (token, rest))
    (reads : Reads rest tokens) : Reads (c :: text ++ rest) (token :: tokens) := by
  simp only [Token.isVisible, Bool.and_eq_true, bne_iff_ne, Bool.not_eq_true'] at visible
  obtain ⟨⟨noBlank, noMinus⟩, noSlash⟩ := visible
  intro fuel enough
  cases fuel with
  | zero => simp at enough
  | succ fuel =>
      have later := reads fuel (by simp at enough; omega)
      have step : Token.readAll? (fuel + 1) (c :: (text ++ rest)) =
          if Text.isBlank c then Token.readAll? fuel (text ++ rest)
          else (Token.read? (c :: (text ++ rest))).bind fun read =>
            (Token.readAll? fuel read.2).bind fun tokens => some (read.1 :: tokens) := by
        rw [Token.readAll?]
        · rfl
        · rintro rest rfl
          exact absurd rfl noMinus
        · rintro rest rfl
          exact absurd rfl noSlash
      rw [List.cons_append] at read ⊢
      rw [step, read]
      simp [noBlank, later]

theorem Lexes.ofText? {text : String} {tokens : List Token} (lexes : Lexes text.toList tokens) :
    Token.ofText? text = some tokens := by
  have reads := lexes [] [] nofun .nil
  simp only [List.append_nil] at reads
  exact reads _ (Nat.le_succ _)

theorem Lexes.of_read {c : Char} {text : List Char} {token : Token}
    (visible : Token.isVisible c = true)
    (read : ∀ rest, Apart rest → Token.read? (c :: text ++ rest) = some (token, rest)) :
    Lexes (c :: text) [token] := by
  intro rest more apart reads
  exact Reads.cons visible (read rest apart) reads

theorem Lexes.keyword (word : String) (isKeyword : word ∈ Token.keywords) :
    Lexes word.toList [.keyword word] := by
  obtain ⟨first, second, more, spelled, visible, -, -⟩ := Token.spelling_keyword isKeyword
  have read : ∀ rest, Apart rest →
      Token.read? (word.toList ++ rest) = some (.keyword word, rest) := by
    intro rest apart
    exact Token.read?_keyword isKeyword fun _ => apart.not_continuesWord
  rw [spelled] at read ⊢
  exact .of_read visible read

theorem Lexes.text (value : String) : Lexes (enclosed '\'' value) [.text value] :=
  .of_read (by decide) fun _ apart => Token.read?_text (apart.ne (by decide)) value

theorem Lexes.quotedName (name : String) : Lexes (enclosed '"' name) [.quotedName name] :=
  .of_read (by decide) fun _ apart => Token.read?_quotedName (apart.ne (by decide)) name

theorem Lexes.qualifiedName (qualifier name : String) :
    Lexes (enclosed '"' qualifier ++ '.' :: enclosed '"' name)
      [.quotedName qualifier, .sign ".", .quotedName name] := by
  intro rest more apart reads
  have last := Lexes.quotedName name rest more apart reads
  have point : Token.read? ('.' :: [] ++ (enclosed '"' name ++ rest)) =
      some (.sign ".", enclosed '"' name ++ rest) := rfl
  have middle := Reads.cons (by decide) point last
  have closed : ∀ c ∈ ('.' :: [] ++ (enclosed '"' name ++ rest)).head?, c ≠ '"' := by
    rintro c ⟨⟩
    decide
  have whole := Reads.cons (by decide) (Token.read?_quotedName closed qualifier) middle
  simpa [enclosed] using whole

theorem Lexes.comparison (comparison : Comparison) :
    Lexes (comparisonSign comparison).toList [.sign (comparisonSign comparison)] := by
  intro rest more apart reads
  have cases : rest = [] ∨ ∃ c later, rest = c :: later ∧ (c = ' ' ∨ c = ',' ∨ c = ')') := by
    cases rest with
    | nil => exact Or.inl rfl
    | cons c later => exact Or.inr ⟨c, later, rfl, by simpa using apart c rfl⟩
  have spelled : ∃ c text, (comparisonSign comparison).toList = c :: text ∧
      Token.isVisible c = true ∧
      Token.read? (c :: text ++ rest) = some (.sign (comparisonSign comparison), rest) := by
    cases comparison
    · refine ⟨'=', [], rfl, rfl, ?_⟩
      obtain rfl | ⟨c, later, rfl, rfl | rfl | rfl⟩ := cases <;> rfl
    · refine ⟨'<', ['>'], rfl, rfl, ?_⟩
      obtain rfl | ⟨c, later, rfl, rfl | rfl | rfl⟩ := cases <;> rfl
    · refine ⟨'<', [], rfl, rfl, ?_⟩
      obtain rfl | ⟨c, later, rfl, rfl | rfl | rfl⟩ := cases <;> rfl
    · refine ⟨'<', ['='], rfl, rfl, ?_⟩
      obtain rfl | ⟨c, later, rfl, rfl | rfl | rfl⟩ := cases <;> rfl
    · refine ⟨'>', [], rfl, rfl, ?_⟩
      obtain rfl | ⟨c, later, rfl, rfl | rfl | rfl⟩ := cases <;> rfl
    · refine ⟨'>', ['='], rfl, rfl, ?_⟩
      obtain rfl | ⟨c, later, rfl, rfl | rfl | rfl⟩ := cases <;> rfl
  obtain ⟨c, text, same, visible, read⟩ := spelled
  rw [same]
  exact Reads.cons visible read reads

theorem Lexes.star : Lexes ['*'] [.sign "*"] :=
  .of_read (by decide) fun rest _ => Token.read?_punctuation (by decide) rest

theorem Apart.plain {rest : List Char} (apart : Apart rest) :
    rest.head? ≠ some '"' ∧ rest.head? ≠ some '\'' ∧ rest.head? ≠ some '&' :=
  ⟨fun head => apart.ne (by decide) _ head rfl, fun head => apart.ne (by decide) _ head rfl,
    fun head => apart.ne (by decide) _ head rfl⟩

theorem Lexes.number (number : Nat) :
    Lexes (Text.writeNat number) [.number (String.ofList (Text.writeNat number)) false] := by
  intro rest more apart reads
  have read := Token.readNumber_writeNat number apart.ends_number
  have all : ∀ c ∈ Text.writeNat number, Text.isDecimalDigit c = true := fun _ =>
    Text.isDecimalDigit_of_mem_writeNat
  cases written : Text.writeNat number with
  | nil => exact absurd written (Text.writeNat_ne_nil number)
  | cons c later =>
      rw [written] at read all
      have plain : (later ++ rest).head? ≠ some '"' ∧ (later ++ rest).head? ≠ some '\'' ∧
          (later ++ rest).head? ≠ some '&' := by
        cases later with
        | nil => exact apart.plain
        | cons next later =>
            have digit := all next (by simp)
            refine ⟨?_, ?_, ?_⟩ <;> (rintro ⟨⟩; exact absurd digit (by decide))
      have visible : Token.isVisible c = true := by
        have visible : Token.digits.all Token.isVisible := by decide
        exact List.all_eq_true.mp visible c (Token.mem_digits (all c List.mem_cons_self))
      refine Reads.cons visible ?_ reads
      rw [← read]
      exact Token.read?_of_digit (all c List.mem_cons_self) plain

/-- A minus sign in front of an operand begins no comment. -/
theorem Reads.minus {c : Char} {rest : List Char} {tokens : List Token}
    (starts : c ∈ Token.operandStarts) (reads : Reads (c :: rest) tokens) :
    Reads ('-' :: c :: rest) (.sign "-" :: tokens) := by
  intro fuel enough
  cases fuel with
  | zero => simp at enough
  | succ fuel =>
      have later := reads fuel (by simpa using enough)
      have step : Token.readAll? (fuel + 1) ('-' :: c :: rest) =
          (Token.readAll? fuel (c :: rest)).bind fun tokens => some (.sign "-" :: tokens) := by
        simp only [Token.operandStarts, Token.digits, List.cons_append, List.nil_append,
          List.mem_cons, List.not_mem_nil, or_false] at starts
        rcases starts with rfl | rfl | rfl | rfl | rfl | rfl | rfl | rfl | rfl | rfl | rfl | rfl |
            rfl | rfl | rfl | rfl | rfl | rfl | rfl | rfl <;>
          rfl
      rw [step, later]
      rfl

/-- The tokens of an integer: a sign of its own if it is negative, and its digits. -/
def integerTokens : Int → List Token
  | .ofNat number => [.number (String.ofList (Text.writeNat number)) false]
  | .negSucc below => [.sign "-", .number (String.ofList (Text.writeNat (below + 1))) false]

theorem Lexes.integer (value : Int) : Lexes (Text.writeInt value) (integerTokens value) := by
  cases value with
  | ofNat number => exact .number number
  | negSucc below =>
      intro rest more apart reads
      have number := Lexes.number (below + 1) rest more apart reads
      cases written : Text.writeNat (below + 1) with
      | nil => exact absurd written (Text.writeNat_ne_nil _)
      | cons c later =>
          have digit : Text.isDecimalDigit c = true :=
            Text.isDecimalDigit_of_mem_writeNat (written ▸ List.mem_cons_self)
          simp only [Text.writeInt, integerTokens, written] at number ⊢
          exact Reads.minus (Token.mem_operandStarts digit) number

/-! ## Putting pieces together -/

theorem Lexes.append {left right : List Char} {before behind : List Token}
    (first : Lexes left before) (second : Trails right behind) :
    Lexes (left ++ right) (before ++ behind) := by
  intro rest more apart reads
  have later := second.1 rest more apart reads
  have whole := first _ _ (second.2 rest apart) later
  simpa using whole

theorem Trails.nil : Trails [] [] :=
  ⟨fun _ _ _ reads => reads, fun _ apart => apart⟩

theorem Trails.append {left right : List Char} {before behind : List Token}
    (first : Trails left before) (second : Trails right behind) :
    Trails (left ++ right) (before ++ behind) := by
  refine ⟨first.1.append second, fun rest apart => ?_⟩
  rw [List.append_assoc]
  exact first.2 _ (second.2 rest apart)

theorem Trails.blank {text : List Char} {tokens : List Token} (lexes : Lexes text tokens) :
    Trails (' ' :: text) tokens :=
  ⟨fun rest more apart reads => (lexes rest more apart reads).blank, fun _ _ => .blank _⟩

theorem Trails.comma {text : List Char} {tokens : List Token} (lexes : Lexes text tokens) :
    Trails (',' :: ' ' :: text) (.sign "," :: tokens) := by
  refine ⟨fun rest more apart reads => ?_, fun _ _ => by rintro c ⟨⟩; decide⟩
  have behind := (lexes rest more apart reads).blank
  have whole : Reads (',' :: [] ++ ' ' :: (text ++ rest)) (.sign "," :: (tokens ++ more)) :=
    Reads.cons (by decide) (Token.read?_punctuation (by decide) _) behind
  exact whole

theorem Lexes.spaced {left right : List Char} {before behind : List Token}
    (first : Lexes left before) (second : Lexes right behind) :
    Lexes (left ++ ' ' :: right) (before ++ behind) :=
  first.append (.blank second)

theorem Lexes.parenthesised {text : List Char} {tokens : List Token} (lexes : Lexes text tokens) :
    Lexes ('(' :: (text ++ [')'])) (.sign "(" :: (tokens ++ [.sign ")"])) := by
  intro rest more apart reads
  have closing : Reads (')' :: [] ++ rest) (.sign ")" :: more) :=
    Reads.cons (by decide) (Token.read?_punctuation (by decide) _) reads
  have ends : Apart (')' :: [] ++ rest) := by
    rintro c ⟨⟩
    decide
  have inner := lexes _ _ ends closing
  have whole : Reads ('(' :: [] ++ (text ++ (')' :: [] ++ rest)))
      (.sign "(" :: (tokens ++ .sign ")" :: more)) :=
    Reads.cons (by decide) (Token.read?_punctuation (by decide) _) inner
  simpa using whole

theorem Lexes.call (word : String) {text : List Char} {tokens : List Token}
    (isKeyword : word ∈ Token.keywords) (lexes : Lexes text tokens) :
    Lexes (word.toList ++ '(' :: (text ++ [')']))
      (.keyword word :: .sign "(" :: (tokens ++ [.sign ")"])) := by
  intro rest more apart reads
  have arguments := lexes.parenthesised rest more apart reads
  obtain ⟨first, second, later, spelled, visible, -, -⟩ := Token.spelling_keyword isKeyword
  have stops : ∀ c ∈ ('(' :: (text ++ [')']) ++ rest).head?, Token.continuesWord c = false := by
    rintro c ⟨⟩
    decide
  have read := Token.read?_keyword isKeyword stops
  rw [spelled] at read ⊢
  have whole := Reads.cons visible read arguments
  simpa using whole

end CrossQuery.Select
