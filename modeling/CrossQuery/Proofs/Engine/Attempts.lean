import Mathlib.Logic.Function.Iterate
import CrossQuery.Engine.Timeline

/-!
# Executions as sequences of attempts

An execution attempts a query in the states that the attempts before left behind, until one of them
is final or something from outside ends it. An interruption that has come by some moment is the
interruption for every later one, so it does not matter at which moments one looks for it.
-/

set_option autoImplicit false

namespace CrossQuery

namespace Bounds

variable {bounds : Bounds} {interruption : Interruption}

theorem interruption?_eq_none_iff {moment : Nat} :
    bounds.interruption? moment = none ↔
      (∀ cancel, bounds.cancelAt = some cancel → moment < cancel) ∧
        ∀ allowed, bounds.timeout = some allowed → moment ≤ allowed := by
  rcases bounds with ⟨_ | cancel, _ | allowed⟩ <;>
    simp only [interruption?, cancelled?, timedOut?] <;> grind

/-- Time that goes on does not change what ended an execution. -/
theorem interruption?_of_le {earlier later : Nat} (order : earlier ≤ later)
    (ended : bounds.interruption? earlier = some interruption) :
    bounds.interruption? later = some interruption := by
  rcases bounds with ⟨_ | cancel, _ | allowed⟩ <;>
    simp only [interruption?, cancelled?, timedOut?] at ended ⊢ <;> grind

theorem not_interruption?_of_le {earlier later : Nat} (order : earlier ≤ later)
    (goesOn : bounds.interruption? later = none) : bounds.interruption? earlier = none := by
  cases ended : bounds.interruption? earlier with
  | none => rfl
  | some interruption =>
      rw [interruption?_of_le order ended] at goesOn
      cases goesOn

theorem interruption?_of_cancel {moment cancel : Nat} (isCancel : bounds.cancelAt = some cancel)
    (early : cancel ≤ moment) (first : ∀ allowed, bounds.timeout = some allowed → cancel ≤ allowed) :
    bounds.interruption? moment = some ⟨.caller, cancel⟩ := by
  rcases bounds with ⟨_ | _, _ | allowed⟩ <;>
    simp only [interruption?, cancelled?, timedOut?] at isCancel first ⊢ <;> grind

theorem interruption?_of_timeout {moment allowed : Nat} (isAllowed : bounds.timeout = some allowed)
    (early : allowed < moment) (first : ∀ cancel, bounds.cancelAt = some cancel → allowed < cancel) :
    bounds.interruption? moment = some ⟨.timeout allowed, allowed⟩ := by
  rcases bounds with ⟨_ | cancel, _ | _⟩ <;>
    simp only [interruption?, cancelled?, timedOut?] at isAllowed first ⊢ <;> grind

end Bounds

section

variable {σ : Type} {bounds : Bounds} {attempt : σ → Attempt σ}

/-- The four ways in which an attempt ends: it is not begun, it is cut off, it is the last one, or
it is followed by another. -/
theorem execute_cases (bounds : Bounds) (attempt : σ → Attempt σ) (retries pause now : Nat)
    (state : σ) :
    (∃ interruption, bounds.interruption? now = some interruption ∧
      execute bounds attempt retries pause now state = interruption.execution state) ∨
    (bounds.interruption? now = none ∧
      ∃ interruption, bounds.interruption? (now + (attempt state).duration) = some interruption ∧
        execute bounds attempt retries pause now state =
          interruption.execution (attempt state).after) ∨
    (bounds.interruption? (now + (attempt state).duration) = none ∧
      (retries = 0 ∨ isRetryable (attempt state).outcome = false) ∧
      execute bounds attempt retries pause now state =
        ⟨(attempt state).outcome, now + (attempt state).duration, (attempt state).after⟩) ∨
    (bounds.interruption? (now + (attempt state).duration) = none ∧
      isRetryable (attempt state).outcome = true ∧
      ∃ fewer, retries = fewer + 1 ∧
        execute bounds attempt retries pause now state =
          execute bounds attempt fewer (2 * pause) (now + (attempt state).duration + pause)
            (attempt state).after) := by
  cases before : bounds.interruption? now with
  | some interruption =>
      refine .inl ⟨interruption, rfl, ?_⟩
      cases retries <;> rw [execute] <;> simp only [before]
  | none =>
      cases during : bounds.interruption? (now + (attempt state).duration) with
      | some interruption =>
          refine .inr (.inl ⟨rfl, interruption, rfl, ?_⟩)
          cases retries <;> rw [execute] <;> simp only [before, during]
      | none =>
          cases retries with
          | zero =>
              refine .inr (.inr (.inl ⟨rfl, .inl rfl, ?_⟩))
              rw [execute]
              simp only [before, during]
          | succ fewer =>
              cases again : isRetryable (attempt state).outcome with
              | false =>
                  refine .inr (.inr (.inl ⟨rfl, .inr rfl, ?_⟩))
                  rw [execute]
                  simp [before, during, again]
              | true =>
                  refine .inr (.inr (.inr ⟨rfl, rfl, fewer, rfl, ?_⟩))
                  rw [execute]
                  simp [before, during, again]

/-- The state of the stores after a number of attempts. -/
def afterAttempts (attempt : σ → Attempt σ) (attempts : Nat) : σ → σ :=
  (fun state => (attempt state).after)^[attempts]

theorem afterAttempts_succ (attempts : Nat) (state : σ) :
    afterAttempts attempt (attempts + 1) state =
      afterAttempts attempt attempts (attempt state).after :=
  rfl

/-- What an execution yields is what one of its attempts yielded. -/
theorem exists_attempt_of_execute {rowset : Rowset} (retries pause now : Nat) (state : σ)
    (succeeded : (execute bounds attempt retries pause now state).outcome = .ok rowset) :
    ∃ attempts ≤ retries,
      (attempt (afterAttempts attempt attempts state)).outcome = .ok rowset := by
  induction retries using Nat.strongRecOn generalizing pause now state with
  | _ retries ih =>
      obtain ⟨_, _, isRun⟩ | ⟨_, _, _, isRun⟩ | ⟨_, _, isRun⟩ | ⟨_, _, fewer, rfl, isRun⟩ :=
        execute_cases bounds attempt retries pause now state
      · rw [isRun] at succeeded
        cases succeeded
      · rw [isRun] at succeeded
        cases succeeded
      · rw [isRun] at succeeded
        exact ⟨0, Nat.zero_le retries, succeeded⟩
      · rw [isRun] at succeeded
        obtain ⟨attempts, bound, yields⟩ := ih fewer (Nat.lt_succ_self fewer) _ _ _ succeeded
        exact ⟨attempts + 1, Nat.succ_le_succ bound, yields⟩

/-- A property that every attempt preserves holds after an execution. -/
theorem execute_preserves {keeps : σ → Prop}
    (step : ∀ state, keeps state → keeps (attempt state).after) (retries pause now : Nat)
    {state : σ} (holds : keeps state) :
    keeps (execute bounds attempt retries pause now state).after := by
  induction retries using Nat.strongRecOn generalizing pause now state with
  | _ retries ih =>
      obtain ⟨_, _, isRun⟩ | ⟨_, _, _, isRun⟩ | ⟨_, _, isRun⟩ | ⟨_, _, fewer, rfl, isRun⟩ :=
        execute_cases bounds attempt retries pause now state
      · rw [isRun]
        exact holds
      · rw [isRun]
        exact step state holds
      · rw [isRun]
        exact step state holds
      · rw [isRun]
        exact ih fewer (Nat.lt_succ_self fewer) _ _ (step state holds)

end

section

variable {σ τ : Type} {bounds : Bounds} {attempt : σ → Attempt σ} {view : σ → τ}
  {viewed : τ → Attempt τ}

/-- An attempt as it is seen in a part of the state. -/
def Attempt.map (view : σ → τ) (attempt : Attempt σ) : Attempt τ :=
  ⟨attempt.outcome, attempt.duration, view attempt.after⟩

/-- An execution as it is seen in a part of the state. -/
def Execution.map (view : σ → τ) (execution : Execution σ) : Execution τ :=
  ⟨execution.outcome, execution.elapsed, view execution.after⟩

/-- An execution looks like one in the part of the state that its attempts depend on. -/
theorem map_execute (same : ∀ state, (attempt state).map view = viewed (view state))
    (retries pause now : Nat) (state : σ) :
    (execute bounds attempt retries pause now state).map view =
      execute bounds viewed retries pause now (view state) := by
  induction retries generalizing pause now state with
  | zero =>
      rw [execute, execute, ← same state]
      cases bounds.interruption? now with
      | some interruption => rfl
      | none =>
          simp only [Attempt.map]
          cases bounds.interruption? (now + (attempt state).duration) <;> rfl
  | succ retries ih =>
      rw [execute, execute, ← same state]
      cases bounds.interruption? now with
      | some interruption => rfl
      | none =>
          simp only [Attempt.map]
          cases bounds.interruption? (now + (attempt state).duration) with
          | some interruption => rfl
          | none =>
              by_cases again : isRetryable (attempt state).outcome = true
              · rw [if_pos again]
                exact (ih _ _ _).trans (if_pos again).symm
              · rw [if_neg again]
                exact (if_neg again).symm

end

end CrossQuery
