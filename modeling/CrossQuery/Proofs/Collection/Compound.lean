import CrossQuery.Proofs.Cell.Content
import CrossQuery.Proofs.Collection.Grouped
import CrossQuery.Proofs.Predicate.Judgement

/-!
# Groups of several fields

The identifier of a group of several fields is an object, and its key is one text: the keys of the
fields, each behind a separator that names its place. Documents that agree in every field share it.
The reverse holds where no text contains the separator of the field behind its own; a text that
does can take the part of the next field, and documents that differ are put together.
-/

set_option autoImplicit false

namespace CrossQuery.Collection

/-- What stands between the key of a field and that of the one before it. -/
def separator (place : Nat) : List Char :=
  ',' :: (breakoutName place ++ "=").toList

/-- The keys of fields from a place on, each behind its separator. -/
def joinedKeys (place : Nat) : List String → List Char
  | [] => []
  | key :: rest => separator place ++ key.toList ++ joinedKeys (place + 1) rest

/-- Keys of which none contains the separator of the next one. -/
def KeysApart (place : Nat) : List String → Prop
  | [] => True
  | [_] => True
  | key :: next :: rest =>
    Text.occurs (separator (place + 1)) key.toList = false ∧ KeysApart (place + 1) (next :: rest)

section Separators

theorem comma_not_mem_breakoutName (place : Nat) :
    ',' ∉ (breakoutName place ++ "=").toList := by
  simp only [breakoutName, String.toList_append, String.toList_ofList, List.mem_append]
  rintro ((first | digit) | last)
  · exact absurd first (by decide)
  · exact absurd (Text.isDecimalDigit_of_mem_writeNat digit) (by decide)
  · exact absurd last (by decide)

theorem not_within_of_occurs {part text : List Char} (absent : Text.occurs part text = false) :
    ¬part <:+: text := by
  rw [← Predicate.occurs_iff_within, absent]
  exact Bool.false_ne_true

/-- A separator has one comma, so what stands in front of its first occurrence is determined. -/
theorem eq_nil_of_separator_append {tail middle leftRest rightRest : List Char}
    (fresh : ',' ∉ tail) (absent : ¬(',' :: tail) <:+: middle)
    (same : ',' :: (tail ++ leftRest) = middle ++ ',' :: (tail ++ rightRest)) : middle = [] := by
  cases middle with
  | nil => rfl
  | cons c rest =>
      obtain ⟨rfl, others⟩ := List.cons.inj same
      rcases List.append_eq_append_iff.mp others with ⟨more, rfl, -⟩ | ⟨more, split, behind⟩
      · exact absurd ⟨[], more, rfl⟩ absent
      · cases more with
        | nil =>
            rw [List.append_nil] at split
            exact absurd ⟨[], [], by rw [split]; simp⟩ absent
        | cons d more =>
            obtain ⟨rfl, -⟩ := List.cons.inj behind
            rw [split] at fresh
            exact absurd (by simp) fresh

theorem eq_of_separator_append {place : Nat} {left right leftRest rightRest : List Char}
    (leftAbsent : Text.occurs (separator place) left = false)
    (rightAbsent : Text.occurs (separator place) right = false)
    (same : left ++ (separator place ++ leftRest) = right ++ (separator place ++ rightRest)) :
    left = right ∧ leftRest = rightRest := by
  have fresh := comma_not_mem_breakoutName place
  rcases List.append_eq_append_iff.mp same with ⟨middle, rfl, behind⟩ | ⟨middle, rfl, behind⟩
  · have absent : ¬separator place <:+: middle := fun within =>
      not_within_of_occurs rightAbsent (within.trans (List.suffix_append _ _).isInfix)
    obtain rfl := eq_nil_of_separator_append fresh absent behind
    rw [List.append_nil]
    exact ⟨rfl, List.append_cancel_left behind⟩
  · have absent : ¬separator place <:+: middle := fun within =>
      not_within_of_occurs leftAbsent (within.trans (List.suffix_append _ _).isInfix)
    obtain rfl := eq_nil_of_separator_append fresh absent behind
    rw [List.append_nil]
    exact ⟨rfl, (List.append_cancel_left behind).symm⟩

/-- Keys that are apart can be told from what they are joined to. -/
theorem eq_of_joinedKeys_eq {place : Nat} {lefts rights : List String}
    (leftApart : KeysApart place lefts) (rightApart : KeysApart place rights)
    (sameLength : lefts.length = rights.length)
    (same : joinedKeys place lefts = joinedKeys place rights) : lefts = rights := by
  induction lefts generalizing place rights with
  | nil => exact (List.length_eq_zero_iff.mp sameLength.symm).symm
  | cons left lefts ih =>
      cases rights with
      | nil => cases sameLength
      | cons right rights =>
          have lengths : lefts.length = rights.length := Nat.succ.inj sameLength
          have keys : left.toList ++ joinedKeys (place + 1) lefts =
              right.toList ++ joinedKeys (place + 1) rights := by
            simp only [joinedKeys, List.append_assoc] at same
            exact List.append_cancel_left same
          cases lefts with
          | nil =>
              obtain rfl := List.length_eq_zero_iff.mp lengths.symm
              simp only [joinedKeys, List.append_nil] at keys
              rw [String.toList_injective keys]
          | cons next lefts =>
              cases rights with
              | nil => cases lengths
              | cons other rights =>
                  have spelled := keys
                  simp only [joinedKeys, List.append_assoc] at spelled
                  obtain ⟨sameKey, -⟩ :=
                    eq_of_separator_append leftApart.1 rightApart.1 spelled
                  rw [sameKey] at keys
                  have others := ih leftApart.2 rightApart.2 lengths
                    (List.append_cancel_left keys)
                  rw [String.toList_injective sameKey, others]

end Separators

section Identifier

/-- The identifier of a document among groups of several fields. -/
def compoundIdentifier (keys : List String) (document : Document) : Json :=
  .object (keys.zipIdx.map fun entry =>
    (breakoutName entry.2, (atPath? document entry.1).getD .null))

theorem isOperator_breakoutName (place : Nat) : isOperator (breakoutName place) = false := by
  simp [isOperator, breakoutName]

theorem evaluate_pathText (document : Document) (key : String) :
    evaluate document (.string (pathText key)) = .ok (atPath? document key) := by
  have spelled : (pathText key).toList = '$' :: key.toList := by
    simp [pathText]
  rw [evaluate, evaluateText, spelled]
  simp only [String.ofList_toList]

theorem evaluateEntries_paths (document : Document) (entries : List (String × Nat)) :
    evaluateEntries document
        (entries.map fun entry => (breakoutName entry.2, .string (pathText entry.1))) =
      .ok (entries.map fun entry =>
        (breakoutName entry.2, (atPath? document entry.1).getD .null)) := by
  induction entries with
  | nil => rfl
  | cons entry rest ih =>
      rw [List.map_cons, evaluateEntries, isOperator_breakoutName, evaluate_pathText, ih]
      rfl

/-- The identifier of groups is evaluated to the compound of the values. -/
theorem evaluate_identifier {keys : List String} (someKey : keys ≠ []) (document : Document) :
    evaluate document (groupIdentifier keys) = .ok (some (compoundIdentifier keys document)) := by
  cases keys with
  | nil => exact absurd rfl someKey
  | cons key rest =>
      have identifier : groupIdentifier (key :: rest) =
          .object (((key :: rest).zipIdx).map fun entry =>
            (breakoutName entry.2, .string (pathText entry.1))) := rfl
      have notSize : breakoutName 0 ≠ "$size" := by decide
      have parts := evaluateEntries_paths document ((key :: rest).zipIdx)
      rw [identifier, compoundIdentifier, evaluate]
      · rw [parts]
        rfl
      · rintro inner same
        obtain ⟨first, -⟩ := List.cons.inj same
        exact notSize (Prod.mk.inj first).1

/-- The keys of the fields of a document. -/
def fieldKeys (keys : List String) (document : Document) : List String :=
  keys.map fun key => (valueAt document key).groupKey

variable {keys : List String} {documents : List Document} {kind : Kind} {stored : Option Json}

theorem groupKey_of_holds (holds : kind.Holds (cellOf stored)) :
    groupKey (stored.getD .null) = (cellOf stored).groupKey := by
  cases stored with
  | none => rfl
  | some json =>
      cases json with
      | object entries =>
          generalize isCell : cellOf (some (.object entries)) = cell at holds
          cases holds with
          | null => cases isCell
          | content held =>
              rw [← isCell] at held
              cases held
      | _ => rfl

theorem groupKeys_identifier {document : Document} (place : Nat)
    (kinds : ∀ key ∈ keys, ∃ kind : Kind, kind.Holds (valueAt document key)) :
    groupKeys ((keys.zipIdx place).map fun entry =>
        (breakoutName entry.2, (atPath? document entry.1).getD .null)) =
      ((fieldKeys keys document).zipIdx place).map fun entry =>
        breakoutName entry.2 ++ "=" ++ entry.1 := by
  induction keys generalizing place with
  | nil => rfl
  | cons key rest ih =>
      obtain ⟨⟨kind, holds⟩, others⟩ := List.forall_mem_cons.mp kinds
      rw [List.zipIdx_cons, List.map_cons, groupKeys, ih _ others, groupKey_of_holds holds]
      rfl

theorem comma_intercalate (place : Nat) {keys : List String} (someKey : keys ≠ []) :
    ',' :: (String.intercalate "," ((keys.zipIdx place).map fun entry =>
        breakoutName entry.2 ++ "=" ++ entry.1)).toList = joinedKeys place keys := by
  induction keys generalizing place with
  | nil => exact absurd rfl someKey
  | cons key rest ih =>
      rw [List.zipIdx_cons, List.map_cons, joinedKeys, separator]
      cases rest with
      | nil => simp [joinedKeys]
      | cons next rest =>
          have others := ih (place + 1) (by simp)
          rw [String.intercalate_cons_of_ne_nil (by simp), String.toList_append,
            String.toList_append, ← others]
          simp

/-- The key of an identifier is made of the keys of the fields. -/
theorem groupKey_identifier_eq_iff (someKey : keys ≠ []) {left right : Document}
    (leftKinds : ∀ key ∈ keys, ∃ kind : Kind, kind.Holds (valueAt left key))
    (rightKinds : ∀ key ∈ keys, ∃ kind : Kind, kind.Holds (valueAt right key)) :
    groupKey (compoundIdentifier keys left) = groupKey (compoundIdentifier keys right) ↔
      joinedKeys 0 (fieldKeys keys left) = joinedKeys 0 (fieldKeys keys right) := by
  have someLeft : fieldKeys keys left ≠ [] := by simpa [fieldKeys] using someKey
  have someRight : fieldKeys keys right ≠ [] := by simpa [fieldKeys] using someKey
  rw [compoundIdentifier, compoundIdentifier, groupKey, groupKey,
    groupKeys_identifier 0 leftKinds, groupKeys_identifier 0 rightKinds,
    ← comma_intercalate 0 someLeft, ← comma_intercalate 0 someRight]
  constructor
  · intro same
    have characters := congrArg String.toList same
    simp only [String.toList_append] at characters
    have inner := List.append_cancel_left (List.append_cancel_right characters)
    rw [inner]
  · intro same
    rw [String.toList_injective (List.cons.inj same).2]

end Identifier

section Apart

variable {keys : List String}

/-- A document in which no text contains the separator of the field behind its own. -/
def TextsApart (document : Document) (place : Nat) : List String → Prop
  | [] => True
  | [_] => True
  | key :: next :: rest =>
    (∀ text, valueAt document key = .text text →
      Text.occurs (separator (place + 1)) text.toList = false) ∧
      TextsApart document (place + 1) (next :: rest)

theorem not_occurs_of_comma {place : Nat} {text : List Char} (absent : ',' ∉ text) :
    Text.occurs (separator place) text = false := by
  rw [← Bool.not_eq_true, Text.occurs_eq_true_iff]
  rintro ⟨before, behind, rfl⟩
  exact absent (by simp [separator])

theorem occurs_text {place : Nat} {text : String}
    (absent : Text.occurs (separator place) text.toList = false) :
    Text.occurs (separator place) ("s:" ++ text).toList = false := by
  have spelled : ("s:" ++ text).toList = 's' :: ':' :: text.toList := by simp
  have skipped : ∀ c : Char, c ≠ ',' → ∀ rest : List Char,
      Text.occurs (separator place) (c :: rest) = Text.occurs (separator place) rest := by
    intro c notComma rest
    rw [Text.occurs, separator, List.isPrefixOf, beq_false_of_ne notComma.symm, Bool.false_and,
      Bool.false_or]
  rw [spelled, skipped _ (by decide), skipped _ (by decide), absent]

theorem comma_not_mem_integer (value : Int) : ',' ∉ ("n:" ++ Cell.integerText value).toList := by
  simp only [Cell.integerText, String.toList_append, String.toList_ofList, List.mem_append]
  rintro (first | digit)
  · exact absurd first (by decide)
  · cases value with
    | ofNat number =>
        exact absurd (Text.isDecimalDigit_of_mem_writeNat digit) (by decide)
    | negSucc number =>
        rcases List.mem_cons.mp digit with sign | digit
        · exact absurd sign (by decide)
        · exact absurd (Text.isDecimalDigit_of_mem_writeNat digit) (by decide)

/-- Only a text can bring a separator into the key of a stored value. -/
theorem not_occurs_groupKey {kind : Kind} {stored : Option Json} {place : Nat}
    (holds : kind.Holds (cellOf stored))
    (apart : ∀ text, cellOf stored = .text text →
      Text.occurs (separator place) text.toList = false) :
    Text.occurs (separator place) (cellOf stored).groupKey.toList = false := by
  have ofNull : Text.occurs (separator place) Cell.null.groupKey.toList = false :=
    not_occurs_of_comma (by decide)
  cases stored with
  | none => exact ofNull
  | some json =>
      generalize isCell : cellOf (some json) = cell at holds apart ⊢
      cases holds with
      | null => exact ofNull
      | @content _ content held _ =>
          rw [Cell.groupKey_of_content held]
          cases content with
          | integer value => exact not_occurs_of_comma (comma_not_mem_integer value)
          | boolean value =>
              cases value <;> exact not_occurs_of_comma (by decide)
          | text value =>
              cases cell <;> cases held
              exact occurs_text (apart value rfl)
          | date value =>
              cases cell <;> cases held
              cases json <;> simp [cellOf, Cell.ofJson] at isCell
              split at isCell <;> cases isCell
          | timestamp value =>
              cases cell <;> cases held
              cases json <;> simp [cellOf, Cell.ofJson] at isCell
              split at isCell <;> cases isCell

theorem TextsApart.keysApart {document : Document} {place : Nat}
    (apart : TextsApart document place keys)
    (kinds : ∀ key ∈ keys, ∃ kind : Kind, kind.Holds (valueAt document key)) :
    KeysApart place (fieldKeys keys document) := by
  induction keys generalizing place with
  | nil => exact trivial
  | cons key rest ih =>
      obtain ⟨⟨kind, holds⟩, others⟩ := List.forall_mem_cons.mp kinds
      cases rest with
      | nil => exact trivial
      | cons next rest => exact ⟨not_occurs_groupKey holds apart.1, ih apart.2 others⟩

end Apart

end CrossQuery.Collection
