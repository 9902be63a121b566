import CrossQuery.Failure
import CrossQuery.Rowset

/-!
# Attempts in time

How often a query is attempted, and when the attempts are cut off. Time is counted in milliseconds
from the start of the execution. A failed connection is tried again after a pause that doubles
each time, until the caller cancels or the time allowed runs out.
-/

set_option autoImplicit false

namespace CrossQuery

/-- An attempt to execute a query: what it yields, how long it takes, and the state of the stores
when it has ended, be it by itself or because it was cut off. -/
structure Attempt (σ : Type) where
  outcome : Except Failure Rowset
  duration : Nat
  after : σ

/-- When an execution is cut off. -/
structure Bounds where
  /-- The moment at which the caller cancels. -/
  cancelAt : Option Nat
  /-- The time allowed. -/
  timeout : Option Nat
deriving DecidableEq

/-- The end of an execution from outside. -/
structure Interruption where
  cause : CancelCause
  moment : Nat
deriving DecidableEq

/-- The interruption by the caller that comes no later than a moment. -/
def Bounds.cancelled? (bounds : Bounds) (moment : Nat) : Option Interruption :=
  match bounds.cancelAt with
  | some cancel => if cancel ≤ moment then some ⟨.caller, cancel⟩ else none
  | none => none

/-- The interruption by the time allowed that comes before a moment. -/
def Bounds.timedOut? (bounds : Bounds) (moment : Nat) : Option Interruption :=
  match bounds.timeout with
  | some allowed => if allowed < moment then some ⟨.timeout allowed, allowed⟩ else none
  | none => none

/-- The first interruption up to a moment. -/
def Bounds.interruption? (bounds : Bounds) (moment : Nat) : Option Interruption :=
  match bounds.cancelled? moment, bounds.timedOut? moment with
  | some cancel, some timeout => some (if cancel.moment ≤ timeout.moment then cancel else timeout)
  | some cancel, none => some cancel
  | none, timeout => timeout

/-- What an execution ends with, and when. -/
structure Execution (σ : Type) where
  outcome : Except Failure Rowset
  elapsed : Nat
  after : σ

def Interruption.execution {σ : Type} (interruption : Interruption) (after : σ) : Execution σ :=
  ⟨.error (.cancelled interruption.cause), interruption.moment, after⟩

/-- Whether an outcome is worth another attempt. -/
def isRetryable : Except Failure Rowset → Bool
  | .error failure => failure.isRetryable
  | .ok _ => false

/-- Attempt a query from a moment on, and again while retries are left and the connection fails. -/
def execute {σ : Type} (bounds : Bounds) (attempt : σ → Attempt σ) :
    (retries pause now : Nat) → σ → Execution σ
  | retries, pause, now, state =>
    match bounds.interruption? now with
    | some interruption => interruption.execution state
    | none =>
      let made := attempt state
      let finish := now + made.duration
      match bounds.interruption? finish with
      | some interruption => interruption.execution made.after
      | none =>
        match retries with
        | 0 => ⟨made.outcome, finish, made.after⟩
        | retries + 1 =>
          if isRetryable made.outcome then
            execute bounds attempt retries (2 * pause) (finish + pause) made.after
          else ⟨made.outcome, finish, made.after⟩

end CrossQuery
