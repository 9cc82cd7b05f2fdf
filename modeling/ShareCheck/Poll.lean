import ShareCheck.Cluster

set_option autoImplicit false

namespace ShareCheck

inductive Probe
  | satisfied
  | pending (observed : String)
deriving DecidableEq, Repr

variable {σ : Type}

inductive Evaluation (σ : Type)
  | satisfied (m : Moment σ)
  | panicked (p : Panic) (m : Moment σ)
  | unmet (observed : String) (m : Moment σ)

/-- One evaluation. At `stop` it still counts, after that it is given up. An error is an observation
like any other, because queries fail for a while when a cluster is changing. -/
def evaluate (probe : Request σ Probe) (stop : Nat) (m : Moment σ) : Evaluation σ :=
  match probe m.now m.world with
  | (.never, w) => .unmet "probe did not complete" ⟨stop, w⟩
  | (.lands delay finish, w) =>
    if m.now + delay ≤ stop then
      match finish w with
      | (.ok (.ok .satisfied), w) => .satisfied ⟨m.now + delay, w⟩
      | (.ok (.ok (.pending observed)), w) => .unmet observed ⟨m.now + delay, w⟩
      | (.ok (.error e), w) => .unmet ("query error: " ++ e.message) ⟨m.now + delay, w⟩
      | (.error p, w) => .panicked p ⟨m.now + delay, w⟩
    else .unmet "probe did not complete" ⟨stop, w⟩

def nextStart (began ended interval deadline : Nat) : Nat :=
  max began (min (ended + interval) deadline)

/-- Evaluations from one moment on. `patience` bounds those between which no time passes, which only
an interval of zero allows. -/
def pollUntil (probe : Request σ Probe) (deadline interval : Nat) (late : String → Error)
    (patience : Nat) (m : Moment σ) : Option (Except Panic (Except Error Unit) × Moment σ) :=
  match evaluate probe (deadline + interval) m with
  | .satisfied m => some (.ok (.ok ()), m)
  | .panicked p m => some (.error p, m)
  | .unmet observed after =>
    if deadline ≤ after.now then some (.ok (.error (late observed)), after)
    else if m.now < nextStart m.now after.now interval deadline then
      pollUntil probe deadline interval late patience
        ⟨nextStart m.now after.now interval deadline, after.world⟩
    else match patience with
      | 0 => none
      | patience + 1 =>
        pollUntil probe deadline interval late patience
          ⟨nextStart m.now after.now interval deadline, after.world⟩
termination_by deadline - m.now + patience
decreasing_by all_goals simp only [nextStart] at *; omega

def patience : Nat := 100000

def beyondReach : Panic := .text "overflow when adding duration to instant"

/-- When the wait ends at the latest must be an instant that the clock can tell, `reach` from the
beginning on. The evaluations are not counted: only the log tells their number, though a build that
checks its arithmetic panics when it no longer fits into 32 bits. -/
def waitFor (description : String) (timeout interval : Nat) (probe : Request σ Probe)
    (reach : Nat := clockReach) : Activity σ (Except Error Unit) := fun m =>
  if reach < timeout + interval then some (.error beyondReach, m)
  else
    pollUntil probe (m.now + timeout) interval
      (fun observed => .timeout description (.ofMillis timeout) observed) patience m

def podExists (selector : String) : List Pod → Probe
  | [] => .pending ("no pods match " ++ selector)
  | _ :: _ => .satisfied

def podReady (selector : String) : List Pod → Probe
  | [] => .pending ("no pods match " ++ selector)
  | p :: _ => if p.isReady then .satisfied else .pending p.summary

def podsProbe (query : ClusterQuery σ) (ns selector : String) (judge : List Pod → Probe) :
    Request σ Probe :=
  (query.pods ns selector).map fun answer => answer.map judge

end ShareCheck
