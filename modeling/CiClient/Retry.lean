import CiClient.ClientError

/-!
# Trying again

A policy says how often an operation is run and how long to wait between two runs. Only an error of
the network is worth another run; a result and any other error end the loop at once. The wait stays
the same or doubles each time, and nothing is waited for after the last run.

`RetryPolicy.retry` runs in any monad that can pause. `RetryPolicy.rehearse` runs it against a list
of outcomes with a clock that a pause advances by exactly its length.
-/

set_option autoImplicit false

namespace CiClient

/-- How often an operation is run, and the waits in milliseconds between the runs. -/
structure RetryPolicy where
  maxRetries : Nat
  initialDelay : Nat
  exponential : Bool
  deriving DecidableEq

namespace RetryPolicy

/-- Two runs, fifty milliseconds apart. -/
def standard : RetryPolicy := ⟨2, 50, true⟩

/-- A single run. -/
def never : RetryPolicy := ⟨1, 0, false⟩

/-- An operation runs at least once. -/
def attempts (p : RetryPolicy) : Nat := max 1 p.maxRetries

/-- The wait after the one of length `delay`. -/
def nextDelay (p : RetryPolicy) (delay : Nat) : Nat :=
  if p.exponential then 2 * delay else delay

/-- Run an operation, and up to `more` times again after transient errors. -/
def retryFrom {m : Type → Type} [Monad m] {α : Type} (p : RetryPolicy) (pause : Nat → m Unit)
    (operation : m (Except ClientError α)) : Nat → Nat → m (Except ClientError α)
  | 0, _ => operation
  | more + 1, delay => do
    match ← operation with
    | .ok result => pure (.ok result)
    | .error e =>
      if e.isTransient then do
        pause delay
        retryFrom p pause operation more (p.nextDelay delay)
      else pure (.error e)

/-- Run an operation under a policy. -/
def retry {m : Type → Type} [Monad m] {α : Type} (p : RetryPolicy) (pause : Nat → m Unit)
    (operation : m (Except ClientError α)) : m (Except ClientError α) :=
  p.retryFrom pause operation (p.attempts - 1) p.initialDelay

/-- A clock in milliseconds, and the times at which the operation was run. -/
structure Timetable where
  clock : Nat
  starts : List Nat
  deriving DecidableEq

namespace Timetable

/-- How often the operation was run. -/
def runs (t : Timetable) : Nat := t.starts.length

/-- The start of another run. -/
def start (t : Timetable) : Timetable := { t with starts := t.starts ++ [t.clock] }

/-- A wait. -/
def advance (t : Timetable) (delay : Nat) : Timetable := { t with clock := t.clock + delay }

end Timetable

/-- The operation whose run number `k`, counted from zero, has the outcome `outcomes k`. -/
def scripted {α : Type} (outcomes : Nat → Except ClientError α) :
    StateM Timetable (Except ClientError α) := do
  let t ← get
  set t.start
  pure (outcomes t.runs)

/-- Run a list of outcomes under a policy from time zero. -/
def rehearse {α : Type} (p : RetryPolicy) (outcomes : Nat → Except ClientError α) :
    Except ClientError α × Timetable :=
  (p.retry (fun delay => modify (·.advance delay)) (scripted outcomes)).run ⟨0, []⟩

end RetryPolicy
end CiClient
