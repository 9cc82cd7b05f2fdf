import ShareCheck.Access.Share
import ShareCheck.Check
import ShareCheck.Cluster
import ShareCheck.Config

set_option autoImplicit false

namespace ShareCheck

structure Collaborators (σ : Type) where
  query : ClusterQuery σ
  fixtures : FixtureClient σ
  shares : ShareClient σ
  /-- The number that tells the next probe file from others. -/
  suffix : σ → UInt32 × σ

structure StepContext (σ : Type) where
  config : Config
  query : ClusterQuery σ
  shares : ShareClient σ
  suffix : σ → UInt32 × σ
  share : ShareIdentity
  shareName : String
  credentials : List Credential

namespace StepContext

variable {σ : Type}

def selector (c : StepContext σ) : String := c.config.serviceSelector c.share.name

def firstPod (c : StepContext σ) : List Pod → Except Error Pod
  | [] => .error (.verification "workload"
      ("no pod matches " ++ c.selector ++ " in " ++ c.config.ns))
  | p :: _ => .ok p

def workloadPod (c : StepContext σ) : Activity σ (Except Error Pod) :=
  (Activity.perform (c.query.pods c.config.ns c.selector)).andThen fun pods =>
    Activity.pure (c.firstPod pods)

end StepContext

structure Step (σ : Type) where
  name : String
  work : StepContext σ → Except Panic (Activity σ (List Check))

namespace Step

variable {σ : Type}

def check (name : String) (work : StepContext σ → Activity σ (Except Error Unit)) : Step σ where
  name := name
  work c := .ok (Check.run name (work c) |>.bind fun check => Activity.pure [check])

def text (s : Step σ) : String :=
  "VerificationStep \x7b name: " ++ Text.quoted s.name ++ ", .. \x7d"

def panicked (s : Step σ) (duration : Nat) : Check :=
  .ofResult s.name duration (.error (.verification s.name "step panicked"))

def run (s : Step σ) (c : StepContext σ) : Activity σ (List Check) :=
  match s.work c with
  | .error p => Activity.panic p
  | .ok work => fun m =>
    match work m with
    | some (.ok checks, after) => some (.ok checks, after)
    | some (.error _, after) => some (.ok [s.panicked (after.now - m.now)], after)
    | none => none

def runAll (c : StepContext σ) : List (Step σ) → Activity σ (List Check)
  | [] => Activity.pure []
  | s :: rest => do
    let checks ← s.run c
    let more ← runAll c rest
    pure (checks ++ more)

end Step

end ShareCheck
