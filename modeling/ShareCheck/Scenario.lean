import ShareCheck.Lifecycle
import ShareCheck.Report
import ShareCheck.Scenario.Steps

set_option autoImplicit false

namespace ShareCheck

structure Scenario (σ : Type) where
  name : String
  share : ShareIdentity
  shareName : String
  fixtures : List Fixture := []
  credentials : List Credential := []
  steps : List (Step σ) := Step.base

namespace Scenario

variable {σ : Type}

def withSteps (s : Scenario σ) (steps : List (Step σ)) : Scenario σ :=
  { s with steps := s.steps ++ steps }

structure Setting (σ : Type) where
  config : Config
  files : Files
  collaborators : Collaborators σ

namespace Setting

def context (r : Setting σ) (s : Scenario σ) : StepContext σ where
  config := r.config
  query := r.collaborators.query
  shares := r.collaborators.shares
  suffix := r.collaborators.suffix
  share := s.share
  shareName := s.shareName
  credentials := s.credentials

end Setting

def gate (check : Check) (report : Report) (phase : Phase)
    (rest : Report → Activity σ Report) : Activity σ Report :=
  let report := report.add [check]
  if check.passed then rest (report.enter phase) else Activity.pure (report.enter .failed)

def awaitPods (r : Setting σ) (s : Scenario σ) (description : String) (timeout : Nat)
    (judge : String → List Pod → Probe) : Activity σ (Except Error Unit) :=
  let selector := r.config.serviceSelector s.share.name
  waitFor description timeout r.config.pollInterval
    (podsProbe r.collaborators.query r.config.ns selector (judge selector)) r.config.clockReach

def verify (r : Setting σ) (s : Scenario σ) (report : Report) : Activity σ Report := do
  let checks ← Step.runAll (r.context s) s.steps
  let report := report.add checks
  pure (report.enter (if checks.all (·.passed) then .verified else .failed))

def inspect (r : Setting σ) (s : Scenario σ) (report : Report) : Activity σ Report := do
  let found ← Check.run "pod-exists"
    (awaitPods r s Step.existsName r.config.existTimeout podExists)
  gate found report .workloadDiscovered fun report => do
    let ready ← Check.run "pod-ready"
      (awaitPods r s Step.readyName r.config.readyTimeout podReady)
    gate ready report .workloadReady (verify r s)

def teardownChecks (duration : Nat) : List Error → List Check
  -- One failed check for each object that could not be removed, or one that passed.
  | [] => [.ofResult "teardown" duration (.ok ())]
  | errors => errors.map fun e => .ofResult "teardown" duration (.error e)

def run (r : Setting σ) (s : Scenario σ) : Activity σ Report := do
  let (setup, owned) ← Activity.owning []
    (Check.run "fixtures" (Lifecycle.applyAll r.files r.collaborators.fixtures s.fixtures))
  let report ← gate setup ⟨s.name, [.uninitialized], []⟩ .fixturesApplied (inspect r s)
  let start ← Activity.now
  let (errors, _) ← Activity.owning owned (Lifecycle.teardown r.collaborators.fixtures)
  let stop ← Activity.now
  pure ((report.add (teardownChecks (stop - start) errors)).enter .tornDown)

end Scenario

end ShareCheck
