import Mathlib.Algebra.Order.Ring.Nat
import CrossQuery.Engine.Store
import CrossQuery.Proofs.Engine.Attempts

/-!
# Refused connections in time

A store that refuses its next connections is asked again after pauses that double, so the moment of
each attempt, the end of the execution and its outcome follow from the number of refusals. Whatever
ends the execution earlier has the store refuse the attempts that were begun until then, and no
more.
-/

set_option autoImplicit false

namespace CrossQuery

/-- The moment of an attempt, counted from that of the first one, if all before it are refused. -/
def attemptMoment (pause number : Nat) : Nat :=
  pause * (2 ^ number - 1)

theorem attemptMoment_zero (pause : Nat) : attemptMoment pause 0 = 0 :=
  Nat.mul_zero pause

/-- The pause doubles: what follows the first attempt is as with a pause of twice the length. -/
theorem attemptMoment_succ (pause number : Nat) :
    attemptMoment pause (number + 1) = pause + attemptMoment (2 * pause) number := by
  have positive : 1 ≤ 2 ^ number := Nat.one_le_two_pow
  have doubled : 2 ^ (number + 1) - 1 = 1 + 2 * (2 ^ number - 1) := by omega
  rw [attemptMoment, attemptMoment, doubled, Nat.mul_add, Nat.mul_one, ← Nat.mul_assoc,
    Nat.mul_comm pause 2]

/-- While attempts are refused at once, the next one is made after a pause that has doubled once
more, unless something from outside comes before. -/
theorem execute_of_refusals {σ : Type} {bounds : Bounds} {attempt : σ → Attempt σ} {number : Nat}
    (fewer retries pause now : Nat) (state : σ) (isRetries : retries = number + fewer)
    (refused : ∀ earlier < number,
      isRetryable (attempt (afterAttempts attempt earlier state)).outcome = true ∧
        (attempt (afterAttempts attempt earlier state)).duration = 0)
    (goesOn : bounds.interruption? (now + attemptMoment pause number) = none) :
    execute bounds attempt retries pause now state =
      execute bounds attempt fewer (pause * 2 ^ number) (now + attemptMoment pause number)
        (afterAttempts attempt number state) := by
  induction number generalizing retries pause now state with
  | zero =>
      rw [isRetries, Nat.zero_add, Nat.pow_zero, Nat.mul_one, attemptMoment_zero, Nat.add_zero]
      rfl
  | succ number ih =>
      obtain ⟨again, atOnce⟩ := refused 0 (Nat.succ_pos number)
      have goesOnNow := Bounds.not_interruption?_of_le (Nat.le_add_right now _) goesOn
      rw [attemptMoment_succ, ← Nat.add_assoc] at goesOn
      obtain ⟨_, ended, _⟩ | ⟨_, _, ended, _⟩ | ⟨_, last, _⟩ | ⟨_, _, others, isOthers, isRun⟩ :=
        execute_cases bounds attempt retries pause now state
      · rw [goesOnNow] at ended
        cases ended
      · rw [show (attempt state).duration = 0 from atOnce, Nat.add_zero, goesOnNow] at ended
        cases ended
      · obtain noRetries | notAgain := last
        · omega
        · rw [show isRetryable (attempt state).outcome = true from again] at notAgain
          cases notAgain
      · have later := ih others (2 * pause) (now + pause) (attempt state).after (by omega)
          (fun earlier before => refused (earlier + 1) (Nat.succ_lt_succ before)) goesOn
        rw [isRun, show (attempt state).duration = 0 from atOnce, Nat.add_zero, later,
          attemptMoment_succ, afterAttempts_succ, Nat.add_assoc, Nat.pow_succ, Nat.mul_comm 2 pause,
          Nat.mul_assoc, Nat.mul_comm 2]

namespace StoreState

variable {refusal : Failure} {answer : Except Failure Rowset} {bounds : Bounds}

/-- The state after some of the connections have been refused. -/
def refused (state : StoreState) (count : Nat) : StoreState :=
  { state with refusals := state.refusals - count }

/-- How many attempts are refused if nothing ends the execution before. -/
def refusedAttempts (state : StoreState) (retries : Nat) : Nat :=
  min state.refusals (retries + 1)

/-- The time until an execution ends by itself. -/
def finish (state : StoreState) (retries pause : Nat) : Nat :=
  if state.refusals ≤ retries then attemptMoment pause state.refusals + state.latency
  else attemptMoment pause retries

/-- What an execution ends with by itself. -/
def outcome (state : StoreState) (retries : Nat) (refusal : Failure)
    (answer : Except Failure Rowset) : Except Failure Rowset :=
  if state.refusals ≤ retries then answer else .error refusal

theorem attempt_of_refusals {state : StoreState} (noRefusals : state.refusals = 0) :
    state.attempt refusal answer = ⟨answer, state.latency, state⟩ := by
  obtain ⟨sessions, refusals, latency⟩ := state
  cases noRefusals
  rfl

theorem attempt_of_refused {state : StoreState} {fewer : Nat} (refuses : state.refusals = fewer + 1) :
    state.attempt refusal answer = ⟨.error refusal, 0, state.refused 1⟩ := by
  obtain ⟨sessions, refusals, latency⟩ := state
  cases refuses
  rfl

@[simp] theorem refused_zero (state : StoreState) : state.refused 0 = state := rfl

@[simp] theorem refused_refused (state : StoreState) (first second : Nat) :
    (state.refused first).refused second = state.refused (first + second) := by
  simp only [refused, Nat.sub_sub]

/-- How many attempts are refused before the execution ends, by itself or from outside. -/
def begunRefusals (state : StoreState) (bounds : Bounds) (retries pause now : Nat) : Nat :=
  (List.range (state.refusedAttempts retries)).countP fun number =>
    (bounds.interruption? (now + attemptMoment pause number)).isNone

section

variable {state : StoreState} {retries pause now : Nat}

theorem finish_eq_latency (noRefusals : state.refusals = 0) :
    state.finish retries pause = state.latency := by
  rw [finish, noRefusals, if_pos (Nat.zero_le _), attemptMoment_zero, Nat.zero_add]

theorem finish_again (refuses : 0 < state.refusals) :
    state.finish (retries + 1) pause = pause + (state.refused 1).finish retries (2 * pause) := by
  obtain ⟨fewer, isSucc⟩ := Nat.exists_eq_add_of_lt refuses
  rw [Nat.zero_add] at isSucc
  by_cases enough : fewer ≤ retries
  · rw [finish, finish, isSucc, refused, isSucc, if_pos (by omega), if_pos (by simpa),
      attemptMoment_succ, Nat.add_assoc]
    rfl
  · rw [finish, finish, isSucc, refused, isSucc, if_neg (by omega), if_neg (by simpa using enough),
      attemptMoment_succ]

theorem begunRefusals_of_interruption {interruption : Interruption}
    (ended : bounds.interruption? now = some interruption) :
    state.begunRefusals bounds retries pause now = 0 := by
  rw [begunRefusals, List.countP_eq_zero]
  intro number _
  rw [Bounds.interruption?_of_le (Nat.le_add_right now _) ended]
  simp

theorem begunRefusals_again (refuses : 0 < state.refusals) (goesOn : bounds.interruption? now = none) :
    state.begunRefusals bounds (retries + 1) pause now =
      1 + (state.refused 1).begunRefusals bounds retries (2 * pause) (now + pause) := by
  have counts : state.refusedAttempts (retries + 1) =
      (state.refused 1).refusedAttempts retries + 1 := by
    simp only [refusedAttempts, refused]
    omega
  have later : ((fun number => (bounds.interruption? (now + attemptMoment pause number)).isNone) ∘
      Nat.succ) =
      fun number =>
        (bounds.interruption? (now + pause + attemptMoment (2 * pause) number)).isNone := by
    funext number
    simp only [Function.comp, Nat.succ_eq_add_one, attemptMoment_succ, Nat.add_assoc]
  rw [begunRefusals, counts, List.range_succ_eq_map, List.countP_cons, List.countP_map, later,
    attemptMoment_zero, Nat.add_zero, goesOn, Nat.add_comm]
  rfl

theorem refusedAttempts_eq_zero (noRefusals : state.refusals = 0) : state.refusedAttempts retries = 0 := by
  rw [refusedAttempts, noRefusals, Nat.zero_min]

theorem begunRefusals_eq_zero (noRefusals : state.refusals = 0) :
    state.begunRefusals bounds retries pause now = 0 := by
  rw [begunRefusals, refusedAttempts_eq_zero noRefusals]
  rfl

/-- What an execution comes to that ends by itself unless something from outside ends it by then. -/
def ending (state : StoreState) (bounds : Bounds) (retries pause now : Nat) (refusal : Failure)
    (answer : Except Failure Rowset) : Execution StoreState :=
  match bounds.interruption? (now + state.finish retries pause) with
  | some interruption =>
    interruption.execution (state.refused (state.begunRefusals bounds retries pause now))
  | none =>
    ⟨state.outcome retries refusal answer, now + state.finish retries pause,
      state.refused (state.refusedAttempts retries)⟩

theorem ending_of_interruption {interruption : Interruption}
    (ended : bounds.interruption? now = some interruption) :
    state.ending bounds retries pause now refusal answer = interruption.execution state := by
  rw [ending, Bounds.interruption?_of_le (Nat.le_add_right now _) ended,
    begunRefusals_of_interruption ended]
  rfl

theorem ending_again (refuses : 0 < state.refusals) (goesOn : bounds.interruption? now = none) :
    state.ending bounds (retries + 1) pause now refusal answer =
      (state.refused 1).ending bounds retries (2 * pause) (now + pause) refusal answer := by
  have counts : state.refusedAttempts (retries + 1) =
      1 + (state.refused 1).refusedAttempts retries := by
    simp only [refusedAttempts, refused]
    omega
  have outcomes : state.outcome (retries + 1) refusal answer =
      (state.refused 1).outcome retries refusal answer := by
    simp only [outcome, refused]
    congr 1
    simp only [eq_iff_iff]
    omega
  rw [ending, ending, finish_again refuses, begunRefusals_again refuses goesOn, counts, outcomes,
    Nat.add_assoc, refused_refused, refused_refused]

theorem ending_of_no_refusals (noRefusals : state.refusals = 0) :
    state.ending bounds retries pause now refusal answer =
      match bounds.interruption? (now + state.latency) with
      | some interruption => interruption.execution state
      | none => ⟨answer, now + state.latency, state⟩ := by
  rw [ending, finish_eq_latency noRefusals, begunRefusals_eq_zero noRefusals, refusedAttempts_eq_zero noRefusals,
    outcome, if_pos (noRefusals ▸ Nat.zero_le retries), refused_zero]

theorem ending_of_no_retries (refuses : 0 < state.refusals)
    (goesOn : bounds.interruption? now = none) :
    state.ending bounds 0 pause now refusal answer =
      ⟨.error refusal, now, state.refused 1⟩ := by
  have more : ¬ state.refusals ≤ 0 := Nat.not_le_of_lt refuses
  have once : state.refusedAttempts 0 = 1 := Nat.min_eq_right refuses
  rw [ending, finish, outcome, if_neg more, if_neg more, attemptMoment_zero, Nat.add_zero, goesOn,
    once]

/-- An execution ends by itself, after all refusals that its retries are enough for, unless
something from outside ends it by then. -/
theorem execute_attempt (retryable : refusal.isRetryable = true)
    (final : isRetryable answer = false) (retries pause now : Nat) (state : StoreState) :
    execute bounds (attempt refusal answer) retries pause now state =
      state.ending bounds retries pause now refusal answer := by
  induction retries using Nat.strongRecOn generalizing pause now state with
  | _ retries ih =>
      have cases := execute_cases bounds (attempt refusal answer) retries pause now state
      cases isRefusals : state.refusals with
      | zero =>
          rw [attempt_of_refusals isRefusals] at cases
          rw [ending_of_no_refusals isRefusals]
          obtain ⟨_, ended, isRun⟩ | ⟨_, _, ended, isRun⟩ | ⟨goesOn, _, isRun⟩ | ⟨_, again, _⟩ :=
            cases
          · rw [isRun, Bounds.interruption?_of_le (Nat.le_add_right now _) ended]
          · rw [isRun, ended]
          · rw [isRun, goesOn]
          · rw [final] at again
            cases again
      | succ fewer =>
          have refuses : 0 < state.refusals := isRefusals ▸ Nat.succ_pos fewer
          rw [attempt_of_refused isRefusals] at cases
          simp only [Nat.add_zero] at cases
          obtain ⟨_, ended, isRun⟩ | ⟨goesOn, _, ended, isRun⟩ | ⟨goesOn, last, isRun⟩ |
            ⟨goesOn, _, fewer, rfl, isRun⟩ := cases
          · rw [isRun, ending_of_interruption ended]
          · rw [goesOn] at ended
            cases ended
          · obtain rfl | notRetryable := last
            · rw [isRun, ending_of_no_retries refuses goesOn]
            · rw [isRetryable, retryable] at notRetryable
              cases notRetryable
          · rw [isRun, ending_again refuses goesOn]
            exact ih fewer (Nat.lt_succ_self fewer) _ _ _

theorem countP_refusedAttempts_le (state : StoreState) (retries : Nat) (chosen : Nat → Bool) :
    (List.range (state.refusedAttempts retries)).countP chosen ≤ state.refusals := by
  have counted := List.countP_le_length (l := List.range (state.refusedAttempts retries))
    (p := chosen)
  rw [List.length_range] at counted
  exact Nat.le_trans counted (Nat.min_le_left _ _)

/-- Before the caller cancels, the attempts are begun that are due by then. -/
theorem begunRefusals_of_cancel {cancel : Nat} (isCancel : bounds.cancelAt = some cancel)
    (first : ∀ allowed, bounds.timeout = some allowed → cancel ≤ allowed) :
    state.begunRefusals bounds retries pause 0 =
      (List.range (state.refusedAttempts retries)).countP fun number =>
        attemptMoment pause number < cancel := by
  refine List.countP_congr fun number _ => ?_
  rw [Nat.zero_add, Option.isNone_iff_eq_none, Bounds.interruption?_eq_none_iff,
    decide_eq_true_eq]
  constructor
  · exact fun goesOn => goesOn.1 cancel isCancel
  · intro before
    refine ⟨fun other isOther => ?_, fun allowed isAllowed => ?_⟩
    · rw [isCancel] at isOther
      exact Option.some.inj isOther ▸ before
    · exact Nat.le_trans (Nat.le_of_lt before) (first allowed isAllowed)

/-- Before the time is up, the attempts are begun that are due by then, or just then. -/
theorem begunRefusals_of_timeout {allowed : Nat} (isAllowed : bounds.timeout = some allowed)
    (first : ∀ cancel, bounds.cancelAt = some cancel → allowed < cancel) :
    state.begunRefusals bounds retries pause 0 =
      (List.range (state.refusedAttempts retries)).countP fun number =>
        attemptMoment pause number ≤ allowed := by
  refine List.countP_congr fun number _ => ?_
  rw [Nat.zero_add, Option.isNone_iff_eq_none, Bounds.interruption?_eq_none_iff,
    decide_eq_true_eq]
  constructor
  · exact fun goesOn => goesOn.2 allowed isAllowed
  · intro within
    refine ⟨fun cancel isCancel => ?_, fun other isOther => ?_⟩
    · exact Nat.lt_of_le_of_lt within (first cancel isCancel)
    · rw [isAllowed] at isOther
      exact Option.some.inj isOther ▸ within

end

end StoreState

namespace Site

variable {site : Site} {name other : String} {state : StoreState}

theorem lookup_filter_of_ne {stores : List (String × StoreState)} (differs : other ≠ name) :
    (stores.filter fun entry => entry.1 != name).lookup other = stores.lookup other := by
  induction stores with
  | nil => rfl
  | cons entry rest ih =>
      obtain ⟨key, value⟩ := entry
      by_cases same : key = name
      · subst same
        have notHere : (other == key) = false := by simpa using differs
        rw [List.filter_cons, if_neg (by simp), ih, List.lookup_cons, notHere]
      · rw [List.filter_cons, if_pos (by simpa using same), List.lookup_cons, List.lookup_cons, ih]

@[simp] theorem store_setStore : (site.setStore name state).store name = state := by
  simp [store, setStore]

theorem store_setStore_of_ne (differs : other ≠ name) :
    (site.setStore name state).store other = site.store other := by
  have notHere : (other == name) = false := by simpa using differs
  rw [store, setStore, List.lookup_cons, notHere]
  simp only [lookup_filter_of_ne differs]
  rfl

/-- An attempt at a store of the site is one at that store. -/
theorem map_attempt (refusal : Failure) (answer : Except Failure Rowset) (site : Site) :
    (site.attempt name refusal answer).map (fun site => site.store name) =
      (site.store name).attempt refusal answer := by
  simp [Attempt.map, attempt]

/-- The connections that are refused by the first attempts. -/
theorem store_afterAttempts (refusal : Failure) (answer : Except Failure Rowset) {number : Nat}
    (site : Site) (refuses : number ≤ (site.store name).refusals) :
    (afterAttempts (fun site => site.attempt name refusal answer) number site).store name =
      (site.store name).refused number := by
  induction number generalizing site with
  | zero => rfl
  | succ number ih =>
      obtain ⟨fewer, isSucc⟩ := Nat.exists_eq_add_of_lt (Nat.lt_of_lt_of_le (Nat.succ_pos number) refuses)
      rw [Nat.zero_add] at isSucc
      have once : (site.attempt name refusal answer).after.store name =
          (site.store name).refused 1 := by
        rw [attempt, store_setStore, StoreState.attempt_of_refused isSucc]
      rw [afterAttempts_succ, ih, once, StoreState.refused_refused, Nat.add_comm]
      rw [once, StoreState.refused]
      simp only
      omega

theorem refused_afterAttempts {refusal : Failure} {answer : Except Failure Rowset} {number : Nat}
    (site : Site) (again : refusal.isRetryable = true)
    (refuses : number < (site.store name).refusals) :
    let reached := afterAttempts (fun site => site.attempt name refusal answer) number site
    isRetryable (reached.attempt name refusal answer).outcome = true ∧
      (reached.attempt name refusal answer).duration = 0 := by
  intro reached
  have isState := store_afterAttempts refusal answer site (Nat.le_of_lt refuses)
  obtain ⟨fewer, isSucc⟩ := Nat.exists_eq_add_of_lt refuses
  have someLeft : (reached.store name).refusals = fewer + 1 := by
    rw [isState, StoreState.refused, isSucc, Nat.add_assoc]
    exact Nat.add_sub_cancel_left number (fewer + 1)
  rw [attempt, StoreState.attempt_of_refused someLeft]
  exact ⟨again, rfl⟩

end Site

end CrossQuery
