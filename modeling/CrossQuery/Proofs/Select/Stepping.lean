import CrossQuery.Proofs.Select.Spelled
import CrossQuery.Select.Reader

/-!
# Steps of the grammar

What a step takes is put together from what its parts take. A step that looks for a word or a sign
leaves the tokens alone where something else comes next.
-/

set_option autoImplicit false

namespace CrossQuery.Select.Grammar

open Token

variable {α β : Type}

/-- A step takes tokens from the front and leaves the rest. -/
def Takes (step : Grammar α) (tokens : List Token) (value : α) (rest : List Token) : Prop :=
  step tokens = some (value, rest)

/-- A step fails. -/
def Fails (step : Grammar α) (tokens : List Token) : Prop :=
  step tokens = none

theorem Takes.bind {step : Grammar α} {next : α → Grammar β} {tokens middle rest : List Token}
    {value : α} {result : β} (first : Takes step tokens value middle)
    (second : Takes (next value) middle result rest) : Takes (step >>= next) tokens result rest := by
  have run : (step >>= next) tokens = (step tokens).bind fun taken => next taken.1 taken.2 := rfl
  rw [Takes, run, first]
  exact second

theorem Takes.pure (value : α) (tokens : List Token) :
    Takes (Pure.pure value : Grammar α) tokens value tokens :=
  rfl

theorem Takes.map {step : Grammar α} {change : α → β} {tokens rest : List Token} {value : α}
    (takes : Takes step tokens value rest) : Takes (change <$> step) tokens (change value) rest := by
  have composed : Takes (step >>= fun value => Pure.pure (change value)) tokens (change value) rest :=
    takes.bind (.pure _ _)
  exact composed

theorem Fails.bind {step : Grammar α} {next : α → Grammar β} {tokens : List Token}
    (fails : Fails step tokens) : Fails (step >>= next) tokens := by
  have run : (step >>= next) tokens = (step tokens).bind fun taken => next taken.1 taken.2 := rfl
  rw [Fails, run, fails]
  rfl

theorem Fails.map {step : Grammar α} {change : α → β} {tokens : List Token}
    (fails : Fails step tokens) : Fails (change <$> step) tokens := by
  have composed : Fails (step >>= fun value => Pure.pure (change value)) tokens := fails.bind
  exact composed

/-- A sequence of steps fails where its second step does. -/
theorem Takes.bind_fails {step : Grammar α} {next : α → Grammar β} {tokens middle : List Token}
    {value : α} (first : Takes step tokens value middle) (second : Fails (next value) middle) :
    Fails (step >>= next) tokens := by
  have run : (step >>= next) tokens = (step tokens).bind fun taken => next taken.1 taken.2 := rfl
  rw [Fails, run, first]
  exact second

theorem Takes.exists_bind {step : Grammar α} {next : α → Grammar β} {tokens rest : List Token}
    {result : β} (takes : Takes (step >>= next) tokens result rest) :
    ∃ value middle, Takes step tokens value middle ∧ Takes (next value) middle result rest := by
  have run : (step >>= next) tokens = (step tokens).bind fun taken => next taken.1 taken.2 := rfl
  rw [Takes, run] at takes
  obtain ⟨⟨value, middle⟩, first, second⟩ := Option.bind_eq_some_iff.mp takes
  exact ⟨value, middle, first, second⟩

/-- Behind a step that is known to take the tokens, the rest is left to what follows. -/
theorem Takes.of_bind {step : Grammar α} {next : α → Grammar β} {tokens middle rest : List Token}
    {value : α} {result : β} (takes : Takes (step >>= next) tokens result rest)
    (first : Takes step tokens value middle) : Takes (next value) middle result rest := by
  obtain ⟨taken, after, same, second⟩ := takes.exists_bind
  obtain ⟨rfl, rfl⟩ := Prod.mk.inj (Option.some.inj (first.symm.trans same))
  exact second

theorem Takes.exists_map {step : Grammar α} {change : α → β} {tokens rest : List Token} {result : β}
    (takes : Takes (change <$> step) tokens result rest) :
    ∃ value, Takes step tokens value rest ∧ result = change value := by
  have composed : Takes (step >>= fun value => Pure.pure (change value)) tokens result rest := takes
  obtain ⟨value, middle, first, second⟩ := composed.exists_bind
  cases second
  exact ⟨value, first, rfl⟩

theorem Takes.attempt {step : Grammar α} {tokens rest : List Token} {value : α}
    (takes : Takes step tokens value rest) : Takes (attempt step) tokens (some value) rest := by
  have mapped : (some <$> step) tokens = some (some value, rest) := takes.map
  have run : Grammar.attempt step tokens =
      ((some <$> step) tokens).orElse fun _ => some (none, tokens) := rfl
  rw [Takes, run, mapped]
  rfl

theorem Fails.attempt {step : Grammar α} {tokens : List Token} (fails : Fails step tokens) :
    Takes (attempt step) tokens none tokens := by
  have mapped : (some <$> step) tokens = none := fails.map
  have run : Grammar.attempt step tokens =
      ((some <$> step) tokens).orElse fun _ => some (none, tokens) := rfl
  rw [Takes, run, mapped]
  rfl

theorem takes_next (token : Token) (rest : List Token) :
    Takes next (token :: rest) token rest :=
  rfl

theorem takes_get (tokens : List Token) : Takes (get : Grammar (List Token)) tokens tokens tokens :=
  rfl

/-! ## Words and signs -/

theorem takes_acceptWord (word : String) (rest : List Token) :
    Takes (acceptWord word) (keyword word :: rest) true rest := by
  simp [Takes, acceptWord, keyword, isWord]

theorem takes_acceptSign (spelling : String) (rest : List Token) :
    Takes (acceptSign spelling) (.sign spelling :: rest) true rest := by
  simp [Takes, acceptSign]

theorem takes_acceptWords (first second : String) (rest : List Token) :
    Takes (acceptWords [first, second]) (keyword first :: keyword second :: rest) true rest := by
  simp [Takes, acceptWords, keyword, isWord]

theorem takes_acceptWord_of_head {word : String} {tokens : List Token}
    (other : ∀ token ∈ tokens.head?, token.isWord word = false) :
    Takes (acceptWord word) tokens false tokens := by
  cases tokens with
  | nil => rfl
  | cons token rest => simp [Takes, acceptWord, other token rfl]

theorem takes_acceptWords_of_head {word : String} {more : List String} {tokens : List Token}
    (other : ∀ token ∈ tokens.head?, token.isWord word = false) :
    Takes (acceptWords (word :: more)) tokens false tokens := by
  cases tokens with
  | nil => simp [Takes, acceptWords]
  | cons token rest => simp [Takes, acceptWords, other token rfl]

theorem takes_acceptAnyWord_of_head {choices : List String} {tokens : List Token}
    (other : ∀ word ∈ choices, ∀ token ∈ tokens.head?, token.isWord word = false) :
    Takes (acceptAnyWord choices) tokens none tokens := by
  induction choices with
  | nil => rfl
  | cons word choices ih =>
      refine .bind (takes_acceptWord_of_head (other word List.mem_cons_self)) ?_
      exact ih fun word member => other word (List.mem_cons_of_mem _ member)

theorem takes_acceptSign_of_head {spelling : String} {tokens : List Token}
    (other : tokens.head? ≠ some (.sign spelling)) :
    Takes (acceptSign spelling) tokens false tokens := by
  cases tokens with
  | nil => rfl
  | cons token rest =>
      have different : token ≠ .sign spelling := fun same => other (same ▸ rfl)
      simp [Takes, acceptSign, different]

theorem takes_expectWord (word : String) (rest : List Token) :
    Takes (expectWord word) (keyword word :: rest) () rest :=
  .bind (takes_acceptWord word rest) (.pure _ _)

theorem takes_expectSign (spelling : String) (rest : List Token) :
    Takes (expectSign spelling) (.sign spelling :: rest) () rest :=
  .bind (takes_acceptSign spelling rest) (.pure _ _)

/-- What may come next: one of the words or signs, or nothing. -/
def Begins (words signs : List String) : List Token → Prop
  | [] => True
  | .word _ key :: _ => key ∈ words
  | .sign spelling :: _ => spelling ∈ signs
  | _ :: _ => False

section Begins

variable {words signs : List String} {tokens : List Token}

theorem Begins.mono {otherWords otherSigns : List String} (begins : Begins words signs tokens)
    (moreWords : words ⊆ otherWords) (moreSigns : signs ⊆ otherSigns) :
    Begins otherWords otherSigns tokens := by
  cases tokens with
  | nil => trivial
  | cons token rest =>
      cases token with
      | word _ key => exact moreWords begins
      | sign spelling => exact moreSigns begins
      | _ => exact begins

theorem Begins.not_isWord (begins : Begins words signs tokens) {word : String}
    (absent : word ∉ words) : ∀ token ∈ tokens.head?, token.isWord word = false := by
  cases tokens with
  | nil => exact fun _ head => nomatch head
  | cons token rest =>
      rintro _ ⟨⟩
      cases token with
      | word _ key =>
          have other : key ≠ word := by
            rintro rfl
            exact absent begins
          simpa [isWord] using other
      | _ => rfl

theorem Begins.acceptWord (begins : Begins words signs tokens) {word : String}
    (absent : word ∉ words) : Takes (acceptWord word) tokens false tokens :=
  takes_acceptWord_of_head (begins.not_isWord absent)

theorem Begins.acceptWords (begins : Begins words signs tokens) {word : String} {more : List String}
    (absent : word ∉ words) : Takes (acceptWords (word :: more)) tokens false tokens :=
  takes_acceptWords_of_head (begins.not_isWord absent)

theorem Begins.acceptAnyWord (begins : Begins words signs tokens) {choices : List String}
    (absent : ∀ word ∈ choices, word ∉ words) :
    Takes (acceptAnyWord choices) tokens none tokens :=
  takes_acceptAnyWord_of_head fun word member => begins.not_isWord (absent word member)

theorem Begins.not_sign (begins : Begins words signs tokens) {spelling : String}
    (absent : spelling ∉ signs) : tokens.head? ≠ some (.sign spelling) := by
  cases tokens with
  | nil => exact fun head => nomatch head
  | cons token rest =>
      rintro ⟨⟩
      exact absent begins

theorem Begins.acceptSign (begins : Begins words signs tokens) {spelling : String}
    (absent : spelling ∉ signs) : Takes (acceptSign spelling) tokens false tokens :=
  takes_acceptSign_of_head (begins.not_sign absent)

theorem Begins.peekSign (begins : Begins words signs tokens) {spelling : String}
    (absent : spelling ∉ signs) : Takes (peekSign spelling) tokens false tokens := by
  have other := begins.not_sign absent
  simp [Takes, Grammar.peekSign, other]

end Begins

/-! ## Repetitions -/

theorem takes_many_none {step : Grammar (Option α)} {tokens : List Token}
    (none : Takes step tokens none tokens) : Takes (many step) tokens [] tokens :=
  .bind (takes_get tokens) (.bind none (.pure _ _))

theorem length_le_commaTokens (lists : List (List Token)) :
    lists.length ≤ (commaTokens lists).length + 1 := by
  induction lists with
  | nil => exact Nat.zero_le _
  | cons first rest ih =>
      cases rest with
      | nil => simp [commaTokens]
      | cons second rest =>
          simp only [commaTokens, List.length_cons, List.length_append] at ih ⊢
          omega

theorem length_le_of_mem_commaTokens {lists : List (List Token)} {tokens : List Token}
    (member : tokens ∈ lists) : tokens.length ≤ (commaTokens lists).length := by
  induction lists with
  | nil => cases member
  | cons first rest ih =>
      cases rest with
      | nil => simp [commaTokens, List.mem_singleton.mp member]
      | cons second rest =>
          simp only [commaTokens, List.length_cons, List.length_append]
          rcases List.mem_cons.mp member with rfl | member
          · omega
          · have shorter := ih member
            omega

section Repeated

variable {ι : Type} {words signs : List String} {tokensOf : ι → List Token} {rest : List Token}

theorem takes_itemsWithin {step : Grammar α} {valueOf : ι → α} {items : List ι}
    (nonempty : items ≠ [])
    (each : ∀ item ∈ items, ∀ after, Begins words ("," :: signs) after →
      Takes step (tokensOf item ++ after) (valueOf item) after)
    (begins : Begins words signs rest) (last : "," ∉ signs) {fuel : Nat}
    (enough : items.length ≤ fuel) :
    Takes (itemsWithin step fuel) (commaTokens (items.map tokensOf) ++ rest) (items.map valueOf)
      rest := by
  induction items generalizing fuel with
  | nil => exact absurd rfl nonempty
  | cons first items ih =>
      cases fuel with
      | zero => cases enough
      | succ fuel =>
          have step_first := each first List.mem_cons_self
          cases items with
          | nil =>
              have ends := begins.mono (List.Subset.refl words) (List.subset_cons_self "," signs)
              refine .bind (step_first rest ends) ?_
              exact .bind (begins.acceptSign last) (.pure _ _)
          | cons second items =>
              have later := ih (List.cons_ne_nil _ _)
                (fun item member => each item (List.mem_cons_of_mem _ member))
                (Nat.le_of_succ_le_succ enough)
              have comma : Begins words ("," :: signs)
                  (.sign "," :: (commaTokens ((second :: items).map tokensOf) ++ rest)) :=
                List.mem_cons_self
              have split : commaTokens ((first :: second :: items).map tokensOf) ++ rest =
                  tokensOf first ++
                    .sign "," :: (commaTokens ((second :: items).map tokensOf) ++ rest) := by
                simp [commaTokens]
              rw [split]
              refine .bind (step_first _ comma) ?_
              refine .bind (takes_acceptSign "," _) ?_
              exact .bind later (.pure _ _)

/-- Items with commas between them. -/
theorem takes_items {step : Grammar α} {valueOf : ι → α} {items : List ι} (nonempty : items ≠ [])
    (each : ∀ item ∈ items, ∀ after, Begins words ("," :: signs) after →
      Takes step (tokensOf item ++ after) (valueOf item) after)
    (begins : Begins words signs rest) (last : "," ∉ signs) :
    Takes (Grammar.items step) (commaTokens (items.map tokensOf) ++ rest) (items.map valueOf)
      rest := by
  have enough : items.length ≤ (commaTokens (items.map tokensOf) ++ rest).length + 1 := by
    have bound := length_le_commaTokens (items.map tokensOf)
    simp only [List.length_map, List.length_append] at bound ⊢
    omega
  exact .bind (takes_get _) (takes_itemsWithin nonempty each begins last enough)

/-- A single item, behind which no comma stands. -/
theorem takes_item {step : Grammar α} {tokens : List Token} {value : α}
    (takes : ∀ after, Begins words ("," :: signs) after → Takes step (tokens ++ after) value after)
    (begins : Begins words signs rest) (last : "," ∉ signs) :
    Takes (Grammar.items step) (tokens ++ rest) [value] rest := by
  have ends := begins.mono (List.Subset.refl words) (List.subset_cons_self "," signs)
  refine .bind (takes_get _) (.bind (takes rest ends) ?_)
  exact .bind (begins.acceptSign last) (.pure _ _)

/-- A single item, behind which no comma stands. -/
theorem takes_items_single {step : Grammar α} {tokens : List Token} {value : α}
    (takes : Takes step tokens value rest) (last : rest.head? ≠ some (.sign ",")) :
    Takes (Grammar.items step) tokens [value] rest :=
  .bind (takes_get _) (.bind takes (.bind (takes_acceptSign_of_head last) (.pure _ _)))

theorem takes_manyWithin {step : Grammar (Option α)} {valueOf : ι → α} {items : List ι}
    (each : ∀ item ∈ items, ∀ after, Begins words signs after →
      Takes step (tokensOf item ++ after) (some (valueOf item)) after)
    (starts : ∀ item ∈ items, ∀ after, Begins words signs (tokensOf item ++ after))
    (begins : Begins words signs rest) (none : Takes step rest none rest) {fuel : Nat}
    (enough : items.length < fuel) :
    Takes (manyWithin step fuel) (items.flatMap tokensOf ++ rest) (items.map valueOf) rest := by
  induction items generalizing fuel with
  | nil =>
      cases fuel with
      | zero => cases enough
      | succ fuel => exact .bind none (.pure _ _)
  | cons first items ih =>
      cases fuel with
      | zero => cases enough
      | succ fuel =>
          have later := ih (fun item member => each item (List.mem_cons_of_mem _ member))
            (fun item member => starts item (List.mem_cons_of_mem _ member))
            (Nat.lt_of_succ_lt_succ enough)
          have ends : Begins words signs (items.flatMap tokensOf ++ rest) := by
            cases items with
            | nil => exact begins
            | cons second items =>
                have next := starts second (by simp) (items.flatMap tokensOf ++ rest)
                simpa using next
          have split : (first :: items).flatMap tokensOf ++ rest =
              tokensOf first ++ (items.flatMap tokensOf ++ rest) := by simp
          rw [split]
          refine .bind (each first List.mem_cons_self _ ends) ?_
          exact .bind later (.pure _ _)

/-- Items one behind the other, as long as there are any. -/
theorem takes_many {step : Grammar (Option α)} {valueOf : ι → α} {items : List ι}
    (each : ∀ item ∈ items, ∀ after, Begins words signs after →
      Takes step (tokensOf item ++ after) (some (valueOf item)) after)
    (starts : ∀ item ∈ items, ∀ after, Begins words signs (tokensOf item ++ after))
    (nonempty : ∀ item ∈ items, tokensOf item ≠ [])
    (begins : Begins words signs rest) (none : Takes step rest none rest) :
    Takes (many step) (items.flatMap tokensOf ++ rest) (items.map valueOf) rest := by
  have enough : items.length ≤ (items.flatMap tokensOf).length := by
    clear each starts
    induction items with
    | nil => exact Nat.zero_le _
    | cons first items ih =>
        have shorter := ih fun item member => nonempty item (List.mem_cons_of_mem _ member)
        have taken := List.length_pos_iff.mpr (nonempty first List.mem_cons_self)
        simp only [List.flatMap_cons, List.length_append, List.length_cons]
        omega
  refine .bind (takes_get _) (takes_manyWithin each starts begins none ?_)
  simp only [List.length_append]
  omega

end Repeated

end CrossQuery.Select.Grammar
