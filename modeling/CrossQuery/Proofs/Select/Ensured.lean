import CrossQuery.Proofs.Outcome
import CrossQuery.Proofs.Select.Stepping

/-!
# What steps of the grammar yield

A sequence of steps yields a property if its last step does, whatever the steps before it take. A
statement that asks for every column is read as such, and refused.
-/

set_option autoImplicit false

namespace CrossQuery.Select

namespace Grammar

open Token

variable {α β : Type}

/-- A step that yields values with a property only. -/
def Ensures (step : Grammar α) (holds : α → Prop) : Prop :=
  ∀ tokens value rest, Takes step tokens value rest → holds value

theorem Takes.ensured {step : Grammar α} {holds : α → Prop} {tokens rest : List Token} {value : α}
    (takes : Takes step tokens value rest) (ensures : Ensures step holds) : holds value :=
  ensures tokens value rest takes

section

variable {step other : Grammar α} {next : α → Grammar β} {holds : α → Prop} {holdsNext : β → Prop}

theorem Ensures.pure {value : α} (held : holds value) : Ensures (Pure.pure value) holds := by
  intro tokens result rest takes
  cases takes
  exact held

theorem Ensures.bind (first : Ensures step holds)
    (rest : ∀ value, holds value → Ensures (next value) holdsNext) :
    Ensures (step >>= next) holdsNext := by
  intro tokens result after takes
  obtain ⟨value, middle, taken, second⟩ := takes.exists_bind
  exact rest value (first tokens value middle taken) middle result after second

/-- A property of a sequence that depends on its last step only. -/
theorem Ensures.last (rest : ∀ value, Ensures (next value) holdsNext) :
    Ensures (step >>= next) holdsNext :=
  have anything : Ensures step fun _ => True := fun _ _ _ _ => trivial
  anything.bind fun value _ => rest value

theorem Ensures.ite {condition : Prop} [Decidable condition] (yes : Ensures step holds)
    (no : Ensures other holds) : Ensures (if condition then step else other) holds := by
  split
  · exact yes
  · exact no

end

/-- A query that asks for every column, unless it is no single SELECT. -/
def AsksForAll (query : TreeQuery) : Prop :=
  ∀ select, query.body = .select select → select.projections.head? = some .star

theorem head?_items {step : Grammar α} {tokens middle rest : List Token} {value : α}
    {values : List α} (takes : Takes (items step) tokens values rest)
    (first : Takes step tokens value middle) : values.head? = some value := by
  have within : Takes (itemsWithin step (tokens.length + 1)) tokens values rest :=
    takes.of_bind (takes_get tokens)
  have behind := within.of_bind first
  refine behind.ensured (?_ : Ensures _ fun values => values.head? = some value)
  exact .last fun more => .ite (.last fun others => .pure rfl) (.pure rfl)

theorem head?_select {depth : Nat} {tokens rest : List Token} {select : TreeSelect}
    (takes : Takes (Grammar.select (level depth)) (keyword "SELECT" :: .sign "*" :: tokens) select
      rest) : select.projections.head? = some .star := by
  have behind := takes.of_bind (takes_expectWord "SELECT" _)
  have plain : Takes (distinctness (level depth)) (.sign "*" :: tokens) false (.sign "*" :: tokens) :=
    rfl
  have noTop : Takes (acceptWord "TOP") (.sign "*" :: tokens) false (.sign "*" :: tokens) := rfl
  have star : Takes (projection (level depth)) (.sign "*" :: tokens) .star tokens := rfl
  obtain ⟨projections, middle, listed, behind⟩ := ((behind.of_bind plain).of_bind noTop).exists_bind
  rw [← head?_items listed star]
  refine behind.ensured (?_ : Ensures _ fun select => select.projections.head? = projections.head?)
  -- The clauses behind the projections may take what they like.
  repeat (first | exact .pure rfl | refine .last fun _ => ?_ | refine .ite ?_ ?_)

theorem asksForAll_query {depth : Nat} {tokens rest : List Token} {query : TreeQuery}
    (takes : Takes (queryPhrase (level depth)) (keyword "SELECT" :: .sign "*" :: tokens) query
      rest) : AsksForAll query := by
  have noWith : Takes (acceptWord "WITH") (keyword "SELECT" :: .sign "*" :: tokens) false
      (keyword "SELECT" :: .sign "*" :: tokens) := rfl
  have peeked : Takes peekWord (keyword "SELECT" :: .sign "*" :: tokens) "SELECT"
      (keyword "SELECT" :: .sign "*" :: tokens) := rfl
  obtain ⟨whole, middle, takesBody, behind⟩ := (takes.of_bind noWith).exists_bind
  have isBody : query.body = whole := by
    refine behind.ensured (?_ : Ensures _ fun query => query.body = whole)
    repeat (first | exact .pure rfl | refine .last fun _ => ?_ | refine .ite ?_ ?_)
  obtain ⟨first, after, takesPart, behind⟩ := takesBody.exists_bind
  obtain ⟨select, takesSelect, rfl⟩ := (takesPart.of_bind peeked).exists_map
  have isStar := head?_select takesSelect
  intro other isOther
  rw [isBody] at isOther
  subst isOther
  obtain ⟨parts, _, _, last⟩ := behind.exists_bind
  cases parts with
  | nil =>
      cases last
      exact isStar
  | cons part more => cases last

theorem asksForAll_statementsWithin {depth fuel : Nat} {tokens rest : List Token}
    {query : TreeQuery}
    (takes : Takes (statementsWithin (level (depth + 1)) (fuel + 1) false)
      (keyword "SELECT" :: .sign "*" :: tokens) [.query query] rest) : AsksForAll query := by
  have noEnd : Takes (acceptSign ";") (keyword "SELECT" :: .sign "*" :: tokens) false
      (keyword "SELECT" :: .sign "*" :: tokens) := rfl
  have noParenthesis : Takes (peekSign "(") (keyword "SELECT" :: .sign "*" :: tokens) false
      (keyword "SELECT" :: .sign "*" :: tokens) := rfl
  have peeked : Takes peekWord (keyword "SELECT" :: .sign "*" :: tokens) "SELECT"
      (keyword "SELECT" :: .sign "*" :: tokens) := rfl
  obtain ⟨first, middle, takesFirst, behind⟩ :=
    ((takes.of_bind noEnd).of_bind (takes_get _)).exists_bind
  obtain ⟨others, after, _, last⟩ := behind.exists_bind
  cases last
  have behindWord := (takesFirst.of_bind noParenthesis).of_bind peeked
  obtain ⟨only, takesQuery, same⟩ := behindWord.exists_map
  cases same
  exact asksForAll_query takesQuery

end Grammar

theorem readSelect_of_star {select : TreeSelect} (isStar : select.projections.head? = some .star)
    (statement : Statement) : readSelect select ≠ .ok statement := by
  intro read
  unfold readSelect at read
  split at read
  · cases read
  · split at read
    · cases read
    · split at read
      · cases read
      · obtain ⟨table, _, read⟩ := Outcome.bind_eq_ok.mp read
        obtain ⟨joins, _, read⟩ := Outcome.bind_eq_ok.mp read
        obtain ⟨projections, areRead, _⟩ := Outcome.bind_eq_ok.mp read
        have member : TreeProjection.star ∈ select.projections := List.mem_of_mem_head? isStar
        have isResult : readProjection .star ∈ projections.map .ok :=
          Outcome.mapM_eq_ok_iff.mp areRead ▸ List.mem_map_of_mem member
        obtain ⟨_, _, same⟩ := List.mem_map.mp isResult
        cases same
      · cases read

theorem Grammar.AsksForAll.refused {query : TreeQuery} (asks : AsksForAll query)
    (statement : Statement) : readQuery query ≠ .ok statement := by
  intro read
  unfold readQuery at read
  split at read
  · cases read
  · split at read
    · cases read
    · next select isBody =>
        obtain ⟨selected, isSelected, _⟩ := Outcome.bind_eq_ok.mp read
        exact readSelect_of_star (asks select isBody) selected isSelected

/-- The tokens of a text that asks for every column. -/
theorem exists_tokens_of_star {text : String} {behind : List Char} {tokens : List Token}
    (isText : text.toList = "SELECT * ".toList ++ behind)
    (lexed : Token.ofText? text = some tokens) :
    ∃ more, tokens = Token.keyword "SELECT" :: .sign "*" :: more := by
  have run : Token.ofText? text =
      ((Token.readAll? (behind.length + 7) (' ' :: behind)).bind
        fun more => some (.sign "*" :: more)).bind
          fun more => some (Token.keyword "SELECT" :: more) := by
    unfold Token.ofText?
    rw [isText]
    rfl
  rw [run] at lexed
  obtain ⟨starred, isStarred, same⟩ := Option.bind_eq_some_iff.mp lexed
  obtain ⟨more, _, sameStarred⟩ := Option.bind_eq_some_iff.mp isStarred
  cases same
  cases sameStarred
  exact ⟨more, rfl⟩

/-- A text that asks for every column is not accepted. -/
theorem parse_ne_ok_of_star {text : String} {behind : List Char}
    (isText : text.toList = "SELECT * ".toList ++ behind) (statement : Statement) :
    Statement.parse text ≠ .ok statement := by
  intro parsed
  unfold Statement.parse at parsed
  split at parsed
  · cases parsed
  · next query isRead =>
      obtain ⟨tokens, lexed, isRead⟩ := Option.bind_eq_some_iff.mp isRead
      obtain ⟨more, rfl⟩ := exists_tokens_of_star isText lexed
      obtain ⟨⟨statements, rest⟩, takes, same⟩ := Option.bind_eq_some_iff.mp isRead
      cases same
      exact (Grammar.asksForAll_statementsWithin takes).refused statement parsed
  · cases parsed
  · cases parsed

/-- The text of a statement without projections is not accepted. -/
theorem Statement.parse_write_of_noProjections {statement : Statement}
    (none : statement.projections = []) : ∃ failure, Statement.parse statement.write = .error failure := by
  cases parsed : Statement.parse statement.write with
  | error failure => exact ⟨failure, rfl⟩
  | ok read =>
      have isText : ∃ behind, statement.write.toList = "SELECT * ".toList ++ behind := by
        rw [write, none]
        simp only [String.append_assoc, String.toList_append]
        exact ⟨_, rfl⟩
      obtain ⟨behind, isText⟩ := isText
      exact absurd parsed (parse_ne_ok_of_star isText read)

end CrossQuery.Select
