import Mathlib.Data.List.Forall2
import CrossQuery.Postgres.Settings

/-!
# Connection strings are read back

The rules by which a client reads a connection string: pairs of a name and a value with blanks
between them, a value in quotes or up to the next blank, and a backslash that makes the next
character stand for itself. Whatever the settings hold, the connection string is read as the seven
pairs that it was made of, so that no value ends early and none adds a pair of its own.
-/

set_option autoImplicit false

namespace CrossQuery.Postgres

namespace Connection

/-- The blanks that separate pairs. -/
def isSpace (c : Char) : Bool :=
  [' ', '\t', '\n', '\x0b', '\x0c', '\r'].contains c

/-- The value behind an opening quote, and what follows the closing one. -/
def readQuoted? : List Char → Option (List Char × List Char)
  | [] => none
  | '\'' :: rest => some ([], rest)
  | '\\' :: c :: rest => do
    let (value, rest) ← readQuoted? rest
    some (c :: value, rest)
  | c :: rest => do
    let (value, rest) ← readQuoted? rest
    some (c :: value, rest)

/-- The value up to the next blank, and what follows the blank. A backslash at the end of the
string stands for nothing. -/
def readBare : List Char → List Char × List Char
  | [] => ([], [])
  | ['\\'] => ([], [])
  | '\\' :: c :: rest =>
    let (value, rest) := readBare rest
    (c :: value, rest)
  | c :: rest =>
    if isSpace c then ([], rest)
    else
      let (value, rest) := readBare rest
      (c :: value, rest)

/-- A value, and what follows it. -/
def readValue? : List Char → Option (List Char × List Char)
  | '\'' :: rest => readQuoted? rest
  | text => some (readBare text)

/-- A name up to its equals sign, and what follows the sign. Blanks may stand on both sides of it. -/
def readName? (text : List Char) : Option (List Char × List Char) :=
  let ends := fun c => c == '=' || isSpace c
  match (text.dropWhile fun c => !ends c).dropWhile isSpace with
  | '=' :: rest => some (text.takeWhile fun c => !ends c, rest.dropWhile isSpace)
  | _ => none

/-- At most so many pairs. -/
def readPairs? : Nat → List Char → Option (List (String × String))
  | 0, text => if (text.dropWhile isSpace).isEmpty then some [] else none
  | count + 1, text =>
    match text.dropWhile isSpace with
    | [] => some []
    | text => do
      let (name, rest) ← readName? text
      let (value, rest) ← readValue? rest
      let others ← readPairs? count rest
      some ((String.ofList name, String.ofList value) :: others)

/-- The pairs of a connection string. -/
def read? (text : String) : Option (List (String × String)) :=
  readPairs? text.length text.toList

/-- A character that stands for itself outside quotes. -/
def isBare (c : Char) : Bool :=
  !isSpace c && c != '\\' && c != '\''

/-- A text that is read as a value wherever a blank, or nothing, follows. -/
inductive Written : List Char → List Char → Prop where
  | quoted (value : List Char) : Written value ('\'' :: Settings.escape value ++ ['\''])
  | bare {value : List Char} : value ≠ [] → (∀ c ∈ value, isBare c = true) → Written value value

/-- A text that is read as a pair. -/
inductive WrittenPair : String × String → List Char → Prop where
  | pair {name value : String} {text : List Char} :
      (∀ c ∈ name.toList, c ≠ '=' ∧ isSpace c = false) → Written value.toList text →
      WrittenPair (name, value) (name.toList ++ '=' :: text)

section Escaping

/-- Escaping quotes leaves the escaped backslashes alone, and adds none that would be escaped. -/
theorem escape_cons (c : Char) (value : List Char) :
    Settings.escape (c :: value) =
      (if c = '\\' ∨ c = '\'' then ['\\', c] else [c]) ++ Settings.escape value := by
  by_cases isBackslash : c = '\\'
  · subst isBackslash
    rfl
  · by_cases isQuote : c = '\''
    · subst isQuote
      rfl
    · simp [Settings.escape, Settings.replaceChar, isBackslash, isQuote]

/-- The first quote that ends a value is the one behind the escaped value. -/
theorem readQuoted?_escape (value rest : List Char) :
    readQuoted? (Settings.escape value ++ '\'' :: rest) = some (value, rest) := by
  induction value with
  | nil => rfl
  | cons c value ih =>
      rw [escape_cons, List.append_assoc]
      by_cases isBackslash : c = '\\'
      · subst isBackslash
        simp [readQuoted?, ih]
      · by_cases isQuote : c = '\''
        · subst isQuote
          simp [readQuoted?, ih]
        · simp [readQuoted?, isBackslash, isQuote, ih]

end Escaping

section Values

variable {value text rest : List Char}

theorem isBare_eq_true_iff {c : Char} :
    isBare c = true ↔ isSpace c = false ∧ c ≠ '\\' ∧ c ≠ '\'' := by
  simp [isBare, and_assoc]

theorem readBare_append (bare : ∀ c ∈ value, isBare c = true)
    (ends : ∀ c ∈ rest.head?, isSpace c = true) : readBare (value ++ rest) = (value, rest.tail) := by
  induction value with
  | nil =>
      cases rest with
      | nil => rfl
      | cons c rest =>
          have space := ends c rfl
          have notBackslash : c ≠ '\\' := by
            rintro rfl
            cases space
          simp [readBare, space, notBackslash]
  | cons c value ih =>
      obtain ⟨first, others⟩ := List.forall_mem_cons.mp bare
      obtain ⟨notSpace, notBackslash, _⟩ := isBare_eq_true_iff.mp first
      simp [readBare, notSpace, notBackslash, ih others]

/-- A written value begins where it stands. -/
theorem Written.dropWhile (written : Written value text) (rest : List Char) :
    (text ++ rest).dropWhile isSpace = text ++ rest := by
  cases written with
  | quoted => rfl
  | bare nonempty bare =>
      cases value with
      | nil => exact absurd rfl nonempty
      | cons c value =>
          have notSpace := (isBare_eq_true_iff.mp (bare c List.mem_cons_self)).1
          simp [notSpace]

/-- What is read behind a written value is what follows it, up to blanks. -/
theorem Written.exists_readValue? (written : Written value text)
    (ends : ∀ c ∈ rest.head?, isSpace c = true) :
    ∃ more, readValue? (text ++ rest) = some (value, more) ∧
      more.dropWhile isSpace = rest.dropWhile isSpace := by
  cases written with
  | quoted =>
      refine ⟨rest, ?_, rfl⟩
      simp [readValue?, readQuoted?_escape]
  | bare nonempty bare =>
      refine ⟨rest.tail, ?_, ?_⟩
      · cases value with
        | nil => exact absurd rfl nonempty
        | cons c value =>
            have notQuote := (isBare_eq_true_iff.mp (bare c List.mem_cons_self)).2.2
            rw [← readBare_append bare ends]
            simp [readValue?, notQuote]
      · cases rest with
        | nil => rfl
        | cons c rest => simp [ends c rfl]

end Values

section Pairs

variable {name text other : List Char} {pair : String × String} {pairs : List (String × String)}
  {texts : List (List Char)}

theorem readName?_append (plain : ∀ c ∈ name, c ≠ '=' ∧ isSpace c = false) (rest : List Char) :
    readName? (name ++ '=' :: rest) = some (name, rest.dropWhile isSpace) := by
  have inName : ∀ c ∈ name, (!(c == '=' || isSpace c)) = true := by
    intro c member
    obtain ⟨notEquals, notSpace⟩ := plain c member
    simp [notEquals, notSpace]
  rw [readName?, List.dropWhile_append_of_pos inName, List.takeWhile_append_of_pos inName]
  simp [isSpace]

/-- Blanks in front of pairs do not matter. -/
theorem readPairs?_congr (same : text.dropWhile isSpace = other.dropWhile isSpace) (count : Nat) :
    readPairs? count text = readPairs? count other := by
  cases count <;> simp only [readPairs?, same]

theorem readPairs?_blank (count : Nat) (text : List Char) :
    readPairs? count (' ' :: text) = readPairs? count text := by
  apply readPairs?_congr
  rfl

/-- A written pair begins where it stands. -/
theorem WrittenPair.dropWhile (written : WrittenPair pair text) (rest : List Char) :
    (text ++ rest).dropWhile isSpace = text ++ rest := by
  cases written with
  | @pair name value text plain _ =>
      cases chars : name.toList with
      | nil => simp [isSpace]
      | cons c others =>
          have notSpace := (plain c (by simp [chars])).2
          simp [notSpace]

/-- A written pair is read, and so is what follows it behind a blank. -/
theorem WrittenPair.readPairs? (written : WrittenPair pair text)
    (ends : ∀ c ∈ other.head?, isSpace c = true) (count : Nat) :
    readPairs? (count + 1) (text ++ other) = (readPairs? count other).map (pair :: ·) := by
  have begins := written.dropWhile other
  cases written with
  | @pair name value text plain writtenValue =>
      obtain ⟨more, isRead, same⟩ := writtenValue.exists_readValue? ends
      have isName := readName?_append plain (text ++ other)
      rw [writtenValue.dropWhile] at isName
      rw [List.append_assoc, List.cons_append] at begins ⊢
      rw [Connection.readPairs?, begins]
      split
      · next empty => simp at empty
      · simp only [isName, isRead, readPairs?_congr same count, Option.bind_eq_bind,
          Option.bind_some, String.ofList_toList]
        cases Connection.readPairs? count other <;> rfl

/-- Pairs with a blank between each two are read back. -/
theorem readPairs?_intercalate (written : List.Forall₂ WrittenPair pairs texts) {count : Nat}
    (enough : pairs.length ≤ count) :
    readPairs? count ([' '].intercalate texts) = some pairs := by
  induction written generalizing count with
  | nil => cases count <;> rfl
  | @cons pair text pairs texts first rest ih =>
      obtain ⟨count, rfl⟩ := Nat.exists_eq_add_of_le' enough
      have others : readPairs? (count + pairs.length) ([' '].intercalate texts) = some pairs :=
        ih (Nat.le_add_left _ _)
      rw [List.length_cons, ← Nat.add_assoc]
      cases rest with
      | nil =>
          rw [List.intercalate_singleton, ← List.append_nil text, first.readPairs? (by simp)]
          exact congrArg (Option.map (pair :: ·)) others
      | @cons next nextText pairs texts _ _ =>
          rw [List.intercalate_cons_cons, List.append_assoc, List.singleton_append,
            first.readPairs? (by simp [isSpace]), readPairs?_blank, others]
          rfl

theorem length_le_of_written (written : List.Forall₂ WrittenPair pairs texts) :
    pairs.length ≤ ([' '].intercalate texts).length := by
  induction written with
  | nil => exact Nat.le_refl 0
  | @cons pair text pairs texts first rest ih =>
      have nonempty : 1 ≤ text.length := by
        cases first
        rw [List.length_append, List.length_cons]
        omega
      cases rest with
      | nil => simpa using nonempty
      | @cons next nextText pairs texts _ _ =>
          rw [List.intercalate_cons_cons, List.length_append, List.length_append]
          simp only [List.length_cons] at ih ⊢
          omega

/-- A connection string is read as the pairs that it is written from. -/
theorem read?_of_written {line : String} (written : List.Forall₂ WrittenPair pairs texts)
    (isLine : line.toList = [' '].intercalate texts) : read? line = some pairs := by
  rw [read?, ← String.length_toList, isLine]
  exact readPairs?_intercalate written (length_le_of_written written)

end Pairs

section Settings

variable {name value : String}

theorem isBare_of_isDecimalDigit {c : Char} (digit : Text.isDecimalDigit c = true) :
    isBare c = true := by
  have bounds : 48 ≤ c.toNat ∧ c.toNat ≤ 57 := by simpa [Text.isDecimalDigit] using digit
  have apart (other : Char) (below : other.toNat < 48 ∨ 57 < other.toNat) : c ≠ other := by
    rintro rfl
    omega
  rw [isBare_eq_true_iff]
  refine ⟨?_, apart _ (by decide), apart _ (by decide)⟩
  simp [isSpace, apart ' ', apart '\t', apart '\n', apart '\x0b', apart '\x0c', apart '\r']

/-- Whether a name is read up to its equals sign: neither such a sign nor a blank is in it. -/
def isPlain (name : String) : Bool :=
  name.toList.all fun c => c != '=' && !isSpace c

theorem isPlain_eq_true_iff :
    isPlain name = true ↔ ∀ c ∈ name.toList, c ≠ '=' ∧ isSpace c = false := by
  simp [isPlain]

theorem writtenPair_quote (plain : isPlain name = true) (value : String) :
    WrittenPair (name, value) (name ++ "=" ++ Settings.quote value).toList := by
  have spelled : (name ++ "=" ++ Settings.quote value).toList =
      name.toList ++ '=' :: ('\'' :: Settings.escape value.toList ++ ['\'']) := by
    simp [Settings.quote]
  rw [spelled]
  exact .pair (isPlain_eq_true_iff.mp plain) (.quoted _)

theorem writtenPair_bare (plain : isPlain name = true) (nonempty : value.toList ≠ [])
    (bare : value.toList.all isBare = true) :
    WrittenPair (name, value) (name ++ "=" ++ value).toList := by
  have spelled : (name ++ "=" ++ value).toList = name.toList ++ '=' :: value.toList := by
    simp
  rw [spelled]
  exact .pair (isPlain_eq_true_iff.mp plain) (.bare nonempty (List.all_eq_true.mp bare))

end Settings

end Connection

/-- The connection string is read as its seven pairs, with the values that the settings hold. -/
theorem Settings.connectionString_read_back (settings : Settings) :
    Connection.read? settings.connectionString =
      some
        [("host", settings.host), ("port", String.ofList (Text.writeNat settings.port)),
          ("dbname", settings.database), ("user", settings.username),
          ("password", settings.password), ("sslmode", settings.tlsMode.connectionName),
          ("connect_timeout", "10")] := by
  have port : Connection.WrittenPair ("port", String.ofList (Text.writeNat settings.port))
      ("port" ++ "=" ++ String.ofList (Text.writeNat settings.port)).toList := by
    apply Connection.writtenPair_bare (by decide)
    · simpa using Text.writeNat_ne_nil settings.port
    · rw [String.toList_ofList, List.all_eq_true]
      exact fun c member =>
        Connection.isBare_of_isDecimalDigit (Text.isDecimalDigit_of_mem_writeNat member)
  have mode : Connection.WrittenPair ("sslmode", settings.tlsMode.connectionName)
      ("sslmode" ++ "=" ++ settings.tlsMode.connectionName).toList := by
    apply Connection.writtenPair_bare (by decide) <;> cases settings.tlsMode <;> decide
  have timeout : Connection.WrittenPair ("connect_timeout", "10")
      ("connect_timeout" ++ "=" ++ "10").toList :=
    Connection.writtenPair_bare (by decide) (by decide) (by decide)
  refine Connection.read?_of_written ?_ String.toList_intercalate
  exact .cons (Connection.writtenPair_quote (by decide) _) <| .cons port <|
    .cons (Connection.writtenPair_quote (by decide) _) <|
    .cons (Connection.writtenPair_quote (by decide) _) <|
    .cons (Connection.writtenPair_quote (by decide) _) <| .cons mode <| .cons timeout .nil

end CrossQuery.Postgres
