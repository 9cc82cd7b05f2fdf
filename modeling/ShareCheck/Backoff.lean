import ShareCheck.Activity
import ShareCheck.Duration

set_option autoImplicit false

namespace ShareCheck

/-- No delay is longer than the ceiling. Growing fails where the measure of time ends. -/
structure Backoff (τ : Type) where
  upcoming : τ
  ceiling : τ
  grow : τ → Except Panic τ

namespace Backoff

variable {τ : Type} [Min τ]

def next (b : Backoff τ) : Except Panic (τ × Backoff τ) :=
  -- A delay, and those after it. The one after it is worked out at once, used or not.
  let current := min b.upcoming b.ceiling
  (b.grow current).map fun grown => (current, { b with upcoming := min grown b.ceiling })

inductive Ending
  | exhausted
  | panicked (p : Panic)
  | cut
deriving DecidableEq, Repr

def delays : (retries limit : Nat) → Backoff τ → List τ × Ending
  -- The delays before a number of retries, listed up to a limit, and how the list ends.
  | _, 0, _ => ([], .cut)
  | 0, _ + 1, _ => ([], .exhausted)
  | retries + 1, limit + 1, b =>
    match b.next with
    | .error p => ([], .panicked p)
    | .ok (delay, rest) =>
      let (more, ending) := delays retries limit rest
      (delay :: more, ending)

variable {σ α ε : Type}

def retry (pause : τ → Activity σ Nat) (attempt : Activity σ (Except ε α)) :
    (retries : Nat) → Backoff τ → Activity σ (Except ε α)
  | 0, _ => attempt
  | retries + 1, b => do
    match ← attempt with
    | .ok a => pure (.ok a)
    | .error _ =>
      match b.next with
      | .error p => Activity.panic p
      | .ok (delay, rest) =>
        Activity.sleep (← pause delay)
        retry pause attempt retries rest

end Backoff

structure RetryPolicy where
  attempts : Nat := 5
  initial : Duration := .ofMillis 200
  ceiling : Duration := .ofSeconds 5 0
  factor : Number.Binary64 := .ofRatio false 2 1
deriving Inhabited

namespace RetryPolicy

def ofAttempts (n : Nat) : RetryPolicy := { attempts := max n 1 }

def retries (p : RetryPolicy) : Nat := max p.attempts 1 - 1

def grow (factor : Number.Binary64) (d : Duration) : Except Panic Duration :=
  (d.scale factor).mapError fun e => .text e.message

def backoff (p : RetryPolicy) : Backoff Duration := ⟨p.initial, p.ceiling, grow p.factor⟩

variable {σ α ε : Type}

def pause (jitter : σ → Number.Binary64 × σ) (d : Duration) : Activity σ Nat := do
  -- Delays are jittered, so that clients that failed together do not come back together.
  match grow (← Activity.change jitter) d with
  | .ok d => pure d.wholeMillis
  | .error p => Activity.panic p

def run (p : RetryPolicy) (jitter : σ → Number.Binary64 × σ) (attempt : Activity σ (Except ε α)) :
    Activity σ (Except ε α) :=
  p.backoff.retry (pause jitter) attempt p.retries

end RetryPolicy

end ShareCheck
