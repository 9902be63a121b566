import Mathlib.Data.List.Forall2

/-!
# Steps that may fail

When a chain of steps and a run over a list succeed, and what they fail with.
-/

set_option autoImplicit false

namespace CrossQuery.Outcome

variable {ε α β : Type}

theorem bind_eq_ok {outcome : Except ε α} {next : α → Except ε β} {result : β} :
    outcome >>= next = .ok result ↔ ∃ value, outcome = .ok value ∧ next value = .ok result := by
  cases outcome with
  | error failure => exact ⟨nofun, fun ⟨_, impossible, _⟩ => nomatch impossible⟩
  | ok value => exact ⟨fun done => ⟨value, rfl, done⟩, fun ⟨_, same, done⟩ => by cases same; exact done⟩

theorem exists_of_isOk {outcome : Except ε α} (succeeds : outcome.isOk = true) :
    ∃ value, outcome = .ok value := by
  cases outcome with
  | error failure => cases succeeds
  | ok value => exact ⟨value, rfl⟩

theorem exists_bind {outcome : Except ε α} {next : α → Except ε β}
    (first : ∃ value, outcome = .ok value) (rest : ∀ value, ∃ result, next value = .ok result) :
    ∃ result, outcome >>= next = .ok result := by
  obtain ⟨value, done⟩ := first
  obtain ⟨result, restDone⟩ := rest value
  exact ⟨result, bind_eq_ok.mpr ⟨value, done, restDone⟩⟩

theorem map_eq_ok {outcome : Except ε α} {change : α → β} {result : β} :
    outcome.map change = .ok result ↔ ∃ value, outcome = .ok value ∧ change value = result := by
  cases outcome <;> simp [Except.map]

theorem map_eq_error {outcome : Except ε α} {change : α → β} {failure : ε} :
    outcome.map change = .error failure ↔ outcome = .error failure := by
  cases outcome <;> simp [Except.map]

theorem bind_ok (outcome : Except ε α) (change : α → β) :
    (outcome >>= fun value => Except.ok (change value)) = outcome.map change := by
  cases outcome <;> rfl

theorem mapError_ok (change : ε → β) (value : α) :
    (Except.ok value : Except ε α).mapError change = .ok value := rfl

theorem mapError_eq_ok {outcome : Except ε α} {change : ε → β} {result : α} :
    outcome.mapError change = .ok result ↔ outcome = .ok result := by
  cases outcome with
  | ok value =>
      rw [mapError_ok, Except.ok.injEq, Except.ok.injEq]
  | error failure => exact ⟨nofun, nofun⟩

@[simp] theorem ok_bind (value : α) (next : α → Except ε β) :
    (Except.ok value >>= next) = next value := rfl

@[simp] theorem pure_eq_ok (value : α) : (pure value : Except ε α) = .ok value := rfl

/-- A step on each item of a list succeeds when all of them do. -/
theorem mapM_eq_ok_iff {step : α → Except ε β} {items : List α} {results : List β} :
    items.mapM step = .ok results ↔ items.map step = results.map .ok := by
  induction items generalizing results with
  | nil => cases results <;> simp
  | cons item rest ih =>
      rw [List.mapM_cons, bind_eq_ok]
      constructor
      · rintro ⟨first, done, others⟩
        obtain ⟨tail, restDone, same⟩ := bind_eq_ok.mp others
        cases same
        simp [done, ih.mp restDone]
      · intro same
        cases results with
        | nil => cases same
        | cons first tail =>
            obtain ⟨done, restDone⟩ := List.cons.inj same
            exact ⟨first, done, bind_eq_ok.mpr ⟨tail, ih.mpr restDone, rfl⟩⟩

/-- A step on a list that succeeds does so on each item. -/
theorem exists_of_mapM {step : α → Except ε β} {items : List α} {results : List β}
    (done : items.mapM step = .ok results) {item : α} (member : item ∈ items) :
    ∃ result, step item = .ok result := by
  have isImage : step item ∈ results.map .ok :=
    mapM_eq_ok_iff.mp done ▸ List.mem_map_of_mem member
  obtain ⟨result, _, same⟩ := List.mem_map.mp isImage
  exact ⟨result, same.symm⟩

/-- Each result of a step on a list is that of an item. -/
theorem exists_of_mem_mapM {step : α → Except ε β} {items : List α} {results : List β}
    (done : items.mapM step = .ok results) {result : β} (member : result ∈ results) :
    ∃ item ∈ items, step item = .ok result := by
  have isImage : .ok result ∈ items.map step :=
    mapM_eq_ok_iff.mp done ▸ List.mem_map_of_mem member
  exact List.mem_map.mp isImage

/-- The results of a step on each item have the images of the items, if each result has that of its
item. -/
theorem map_eq_map_of_mapM {γ : Type} {step : α → Except ε β} {items : List α} {results : List β}
    (done : items.mapM step = .ok results) {image : β → γ} {imageOf : α → γ}
    (each : ∀ item ∈ items, ∀ result, step item = .ok result → image result = imageOf item) :
    results.map image = items.map imageOf := by
  rw [mapM_eq_ok_iff] at done
  induction items generalizing results with
  | nil =>
      cases results with
      | nil => rfl
      | cons => cases done
  | cons item rest ih =>
      cases results with
      | nil => cases done
      | cons first tail =>
          obtain ⟨isFirst, areRest⟩ := List.cons.inj done
          have others := ih areRest fun other member => each other (List.mem_cons_of_mem _ member)
          rw [List.map_cons, List.map_cons, each item List.mem_cons_self first isFirst, others]

theorem mapM_eq_ok_map {step : α → Except ε β} {image : α → β} {items : List α}
    (each : ∀ item ∈ items, step item = .ok (image item)) :
    items.mapM step = .ok (items.map image) := by
  rw [mapM_eq_ok_iff, List.map_map]
  exact List.map_congr_left each

/-- Steps that are the same on each item of a list are the same on the list. -/
theorem mapM_congr {m : Type → Type} [Monad m] [LawfulMonad m] {step other : α → m β}
    {items : List α} (each : ∀ item ∈ items, step item = other item) :
    items.mapM step = items.mapM other := by
  induction items with
  | nil => rfl
  | cons item rest ih =>
      rw [List.mapM_cons, List.mapM_cons, each item List.mem_cons_self,
        ih fun later member => each later (List.mem_cons_of_mem _ member)]

/-- The last of the results is that of the last item. -/
theorem getLast?_of_mapM {step : α → Except ε β} {items : List α} {results : List β} {last : α}
    (done : items.mapM step = .ok results) (isLast : items.getLast? = some last) :
    ∃ result, step last = .ok result ∧ results.getLast? = some result := by
  have same := congrArg List.getLast? (mapM_eq_ok_iff.mp done)
  rw [List.getLast?_map, List.getLast?_map, isLast] at same
  obtain ⟨result, found, isResult⟩ := Option.map_eq_some_iff.mp same.symm
  exact ⟨result, isResult.symm, found⟩

theorem mapM_append_eq_ok {step : α → Except ε β} {items others : List α} {results more : List β}
    (done : items.mapM step = .ok results) (othersDone : others.mapM step = .ok more) :
    (items ++ others).mapM step = .ok (results ++ more) := by
  rw [List.mapM_append, done, othersDone]
  rfl

/-- A step that succeeds on each item, with results that have the images of the items. -/
theorem exists_mapM_eq_ok {γ : Type} {step : α → Except ε β} {items : List α} {image : β → γ}
    {imageOf : α → γ}
    (each : ∀ item ∈ items, ∃ result, step item = .ok result ∧ image result = imageOf item) :
    ∃ results, items.mapM step = .ok results ∧ results.map image = items.map imageOf := by
  induction items with
  | nil => exact ⟨[], rfl, rfl⟩
  | cons item rest ih =>
      obtain ⟨first, done, same⟩ := each item List.mem_cons_self
      obtain ⟨others, restDone, restSame⟩ :=
        ih fun other member => each other (List.mem_cons_of_mem _ member)
      refine ⟨first :: others, ?_, ?_⟩
      · rw [List.mapM_cons, done, restDone]
        rfl
      · rw [List.map_cons, List.map_cons, same, restSame]

theorem exists_mapM {step : α → Except ε β} {items : List α}
    (each : ∀ item ∈ items, ∃ result, step item = .ok result) :
    ∃ results, items.mapM step = .ok results := by
  have withoutImage : ∀ item ∈ items, ∃ result, step item = .ok result ∧ () = () := by
    intro item member
    obtain ⟨result, done⟩ := each item member
    exact ⟨result, done, rfl⟩
  obtain ⟨results, done, _⟩ := exists_mapM_eq_ok withoutImage
  exact ⟨results, done⟩

theorem exists_eq_map {change : β → α} {items : List α} {holds : β → Prop}
    (each : ∀ item ∈ items, ∃ origin, holds origin ∧ item = change origin) :
    ∃ origins : List β, items = origins.map change ∧ ∀ origin ∈ origins, holds origin := by
  induction items with
  | nil => exact ⟨[], rfl, fun origin member => absurd member List.not_mem_nil⟩
  | cons item rest ih =>
      obtain ⟨origin, isHeld, rfl⟩ := each item List.mem_cons_self
      obtain ⟨others, rfl, areHeld⟩ :=
        ih fun other member => each other (List.mem_cons_of_mem _ member)
      exact ⟨origin :: others, rfl, List.forall_mem_cons.mpr ⟨isHeld, areHeld⟩⟩

theorem forM_eq_ok_iff {step : α → Except ε Unit} {items : List α} :
    items.forM step = .ok () ↔ ∀ item ∈ items, step item = .ok () := by
  induction items with
  | nil => simp
  | cons item rest ih =>
      change (step item >>= fun _ => rest.forM step) = .ok () ↔ _
      rw [bind_eq_ok, List.forall_mem_cons, ih]
      exact ⟨fun ⟨_, first, others⟩ => ⟨first, others⟩, fun ⟨first, others⟩ => ⟨(), first, others⟩⟩

section FailsOnly

variable {holds : ε → Prop}

/-- A step that fails, if at all, with a failure that has a property. -/
def FailsOnly (holds : ε → Prop) (outcome : Except ε α) : Prop :=
  ∀ failure, outcome = .error failure → holds failure

theorem FailsOnly.ok (value : α) : FailsOnly holds (.ok value) := nofun

theorem FailsOnly.error {failure : ε} (held : holds failure) :
    FailsOnly holds (.error failure : Except ε α) := by
  rintro _ ⟨⟩
  exact held

theorem FailsOnly.bind {outcome : Except ε α} {next : α → Except ε β}
    (first : FailsOnly holds outcome) (rest : ∀ value, FailsOnly holds (next value)) :
    FailsOnly holds (outcome >>= next) := by
  cases outcome with
  | error failure =>
      rintro _ ⟨⟩
      exact first failure rfl
  | ok value => exact rest value

theorem FailsOnly.mapM {step : α → Except ε β} {items : List α}
    (each : ∀ item ∈ items, FailsOnly holds (step item)) : FailsOnly holds (items.mapM step) := by
  induction items with
  | nil => exact .ok []
  | cons item rest ih =>
      obtain ⟨first, others⟩ := List.forall_mem_cons.mp each
      rw [List.mapM_cons]
      exact first.bind fun _ => (ih others).bind fun _ => .ok _

theorem FailsOnly.foldlM {step : β → α → Except ε β} {items : List α}
    (each : ∀ item ∈ items, ∀ state, FailsOnly holds (step state item)) (state : β) :
    FailsOnly holds (items.foldlM step state) := by
  induction items generalizing state with
  | nil => exact .ok state
  | cons item rest ih =>
      obtain ⟨first, others⟩ := List.forall_mem_cons.mp each
      rw [List.foldlM_cons]
      exact (first state).bind (ih others)

end FailsOnly

section Alike

variable {δ γ κ : Type}

/-- Two steps that both succeed, with results that are related, or that both fail. What either fails
with does not matter. -/
inductive Alike (relates : α → β → Prop) : Except ε α → Except δ β → Prop where
  | ok {value : α} {other : β} : relates value other → Alike relates (.ok value) (.ok other)
  | error {failure : ε} {other : δ} : Alike relates (.error failure) (.error other)

/-- A step that succeeds when another one does, with the image of its result. -/
abbrev Mirrors (image : α → β) (outcome : Except ε α) (other : Except δ β) : Prop :=
  Alike (fun value result => result = image value) outcome other

variable {relates : α → β → Prop} {relatesNext : γ → κ → Prop} {image : α → β} {imageOf : γ → κ}
  {outcome : Except ε α} {other : Except δ β}

theorem Alike.bind {next : α → Except ε γ} {nextOther : β → Except δ κ}
    (first : Alike relates outcome other)
    (rest : ∀ value result, outcome = .ok value → relates value result →
      Alike relatesNext (next value) (nextOther result)) :
    Alike relatesNext (outcome >>= next) (other >>= nextOther) := by
  cases first with
  | ok related => exact rest _ _ rfl related
  | error => exact .error

theorem Alike.map {change : α → γ} {changeOther : β → κ} (alike : Alike relates outcome other)
    (each : ∀ value result, relates value result →
      relatesNext (change value) (changeOther result)) :
    Alike relatesNext (outcome.map change) (other.map changeOther) := by
  cases alike with
  | ok related => exact .ok (each _ _ related)
  | error => exact .error

theorem Alike.mapError (alike : Alike relates outcome other) (change : ε → γ)
    (changeOther : δ → κ) : Alike relates (outcome.mapError change) (other.mapError changeOther) := by
  cases alike with
  | ok related => exact .ok related
  | error => exact .error

theorem Alike.mapM {step : α → Except ε γ} {stepOther : β → Except δ κ} {items : List α}
    {others : List β} (listed : List.Forall₂ relates items others)
    (each : ∀ item other, relates item other → Alike relatesNext (step item) (stepOther other)) :
    Alike (List.Forall₂ relatesNext) (items.mapM step) (others.mapM stepOther) := by
  induction listed with
  | nil => exact .ok .nil
  | cons related _ ih =>
      rw [List.mapM_cons, List.mapM_cons]
      refine (each _ _ related).bind fun first other _ same => ?_
      exact ih.bind fun results more _ areSame => .ok (.cons same areSame)

theorem Alike.imp (alike : Alike relates outcome other) {weaker : α → β → Prop}
    (implies : ∀ value result, relates value result → weaker value result) :
    Alike weaker outcome other := by
  cases alike with
  | ok related => exact .ok (implies _ _ related)
  | error => exact .error

theorem Mirrors.refl (outcome : Except ε α) : Mirrors id outcome outcome := by
  cases outcome with
  | ok value => exact .ok rfl
  | error failure => exact .error

theorem Mirrors.bind {next : α → Except ε γ} {nextOther : β → Except δ κ}
    (first : Mirrors image outcome other)
    (rest : ∀ value, outcome = .ok value →
      Alike relatesNext (next value) (nextOther (image value))) :
    Alike relatesNext (outcome >>= next) (other >>= nextOther) := by
  refine Alike.bind first fun value result done same => ?_
  rw [same]
  exact rest value done

theorem Mirrors.mapM {step : α → Except ε γ} {stepOther : β → Except δ κ} {items : List α}
    (each : ∀ item ∈ items, Mirrors imageOf (step item) (stepOther (image item))) :
    Mirrors (List.map imageOf) (items.mapM step) ((items.map image).mapM stepOther) := by
  induction items with
  | nil => exact .ok rfl
  | cons item rest ih =>
      obtain ⟨first, others⟩ := List.forall_mem_cons.mp each
      rw [List.map_cons, List.mapM_cons, List.mapM_cons]
      exact first.bind fun result _ => (ih others).bind fun results _ => .ok rfl

/-- Steps that have the same results on each item of a list have the same results on the list. -/
theorem Mirrors.mapM_id {step : α → Except ε γ} {stepOther : α → Except δ γ} {items : List α}
    (each : ∀ item ∈ items, Mirrors id (step item) (stepOther item)) :
    Mirrors id (items.mapM step) (items.mapM stepOther) := by
  induction items with
  | nil => exact .ok rfl
  | cons item rest ih =>
      obtain ⟨first, others⟩ := List.forall_mem_cons.mp each
      rw [List.mapM_cons, List.mapM_cons]
      exact first.bind fun result _ => (ih others).bind fun results _ => .ok rfl

theorem Mirrors.eq_ok (mirrors : Mirrors image outcome other) {value : α}
    (done : outcome = .ok value) : other = .ok (image value) := by
  cases mirrors with
  | ok same =>
      cases done
      rw [same]
  | error => cases done

theorem Alike.exists_error (alike : Alike relates outcome other) {failure : ε}
    (failed : outcome = .error failure) : ∃ failure, other = .error failure := by
  cases alike with
  | ok => cases failed
  | error => exact ⟨_, rfl⟩

end Alike

end CrossQuery.Outcome
