import Mathlib.Data.List.Chain
import ShareCheck.Proofs.Scenario.Parts
import ShareCheck.Proofs.Scripted.World

set_option autoImplicit false

namespace ShareCheck

variable {σ : Type} {m after : Moment σ}

namespace Scenario

variable {r : Setting σ} {s : Scenario σ}

def gateNames : List String := ["fixtures", "pod-exists", "pod-ready"]

def gatePhases : List Phase := [.fixturesApplied, .workloadDiscovered, .workloadReady]

def courses : List (List Phase) :=
  [[.uninitialized, .failed, .tornDown],
    [.uninitialized, .fixturesApplied, .failed, .tornDown],
    [.uninitialized, .fixturesApplied, .workloadDiscovered, .failed, .tornDown],
    [.uninitialized, .fixturesApplied, .workloadDiscovered, .workloadReady, .failed, .tornDown],
    [.uninitialized, .fixturesApplied, .workloadDiscovered, .workloadReady, .verified, .tornDown]]

theorem course_chain {phases : List Phase} (member : phases ∈ courses) :
    phases.IsChain fun p q => p.canEnter q := by
  have all : ∀ course ∈ courses, course.IsChain fun p q => p.canEnter q := by decide
  exact all phases member

structure Gates (gates : List Check) : Prop where
  names : gates.map (·.name) = gateNames.take gates.length
  before : ∀ c ∈ gates.dropLast, c.passed = true
  cut : gates.length = 3 ∨ ∃ c, gates.getLast? = some c ∧ c.passed = false

theorem Inspected.gates {setup : Check} {checks : List Check} {phases : List Phase}
    (named : setup.name = "fixtures") (inspected : Inspected r s setup m checks phases after) :
    ∃ gates results, checks = gates ++ List.flatten results ∧ Gates gates ∧
      (if gates.length = 3 ∧ gates.all (·.passed)
        then ∃ start, Step.Ran (r.context s) s.steps start results after else results = []) ∧
      phases = gatePhases.take (gates.countP (·.passed)) ++ [verdict checks] := by
  cases inspected with
  | unprepared failed =>
    -- No step runs unless all three gates were passed.
    refine ⟨[setup], [], rfl, ⟨by simp [named, gateNames], by simp, .inr ⟨setup, rfl, failed⟩⟩,
      by simp, by simp [failed, verdict]⟩
  | undiscovered passed looked failed =>
    have name := Check.run_name looked
    refine ⟨[setup, _], [], rfl, ⟨by simp [named, name, gateNames], by simp [passed],
      .inr ⟨_, rfl, failed⟩⟩, by simp, by simp [passed, failed, verdict, gatePhases]⟩
  | unready passed looked discovered waited failed =>
    have name := Check.run_name looked
    have next := Check.run_name waited
    refine ⟨[setup, _, _], [], rfl, ⟨by simp [named, name, next, gateNames],
      by simp [passed, discovered], .inl rfl⟩, by simp [failed],
      by simp [passed, discovered, failed, verdict, gatePhases]⟩
  | @stepped _ start _ found ready results passed looked discovered waited isReady ran =>
    have name := Check.run_name looked
    have next := Check.run_name waited
    refine ⟨[setup, found, ready], results, rfl, ⟨by simp [named, name, next, gateNames],
      by simp [passed, discovered], .inl rfl⟩, ?_, ?_⟩
    · simpa [passed, discovered, isReady] using ⟨start, ran⟩
    · simp [passed, discovered, isReady, verdict, gatePhases]

theorem Inspected.course {setup : Check} {checks : List Check} {phases : List Phase}
    (inspected : Inspected r s setup m checks phases after) :
    .uninitialized :: (phases ++ [.tornDown]) ∈ courses := by
  cases inspected with
  | unprepared | undiscovered | unready => decide
  | stepped =>
    unfold verdict
    split <;> decide

theorem verdict_eq_failed (checks : List Check) :
    verdict checks = .failed ↔ ∃ c ∈ checks, c.passed = false := by
  unfold verdict
  split <;> simp_all

theorem verdict_eq_verified (checks : List Check) :
    verdict checks = .verified ↔ ∀ c ∈ checks, c.passed = true := by
  unfold verdict
  split <;> simp_all

theorem mem_course {phase : Phase} (other : Phase) (count : Nat)
    (named : phase = .failed ∨ phase = .verified) :
    phase ∈ .uninitialized :: (gatePhases.take count ++ [other, .tornDown]) ↔ other = phase := by
  have outside : phase ∉ gatePhases.take count := by
    intro member
    have inside := List.mem_of_mem_take member
    rcases named with rfl | rfl <;> simp [gatePhases] at inside
  rcases named with rfl | rfl <;> simp [outside, eq_comm]

theorem run_course (r : Setting σ) (s : Scenario σ) (m after : Moment σ) (report : Report)
    (ran : s.run r m = some (.ok report, after)) :
    ∃ gates results errors duration owned left middle,
      report.checks = gates ++ List.flatten results ++ teardownChecks duration errors ∧
      Gates gates ∧
      (if gates.length = 3 ∧ gates.all (·.passed)
        then ∃ start, Step.Ran (r.context s) s.steps start results middle else results = []) ∧
      Activity.owning owned (Lifecycle.teardown r.collaborators.fixtures) middle =
        some (.ok (errors, left), after) ∧
      report.phases = .uninitialized :: (gatePhases.take (gates.countP (·.passed)) ++
        [verdict (gates ++ results.flatten), .tornDown]) ∧
      report.phases ∈ courses ∧ report.phases.IsChain (fun p q => p.canEnter q) ∧
      (.failed ∈ report.phases ↔ ∃ c ∈ gates ++ results.flatten, c.passed = false) ∧
      (.verified ∈ report.phases ↔ ∀ c ∈ gates ++ results.flatten, c.passed = true) ∧
      (report.passed = true ↔ .verified ∈ report.phases ∧ errors = []) := by
  obtain ⟨setup, owned, begun, checks, phases, middle, errors, left, applied, inspection, removed,
    rfl⟩ := (run_parts ran).some
  have named : setup.name = "fixtures" := by
    obtain ⟨answer, rest, checked, same⟩ := Activity.owning_some.1 applied
    match answer with
    | .ok check =>
      cases same
      exact Check.run_name checked
    | .error p => cases same
  obtain ⟨gates, results, rfl, cut, stepped, rfl⟩ := inspection.gates named
  have member := inspection.course
  simp only [List.append_assoc, List.singleton_append] at member ⊢
  have failed :=
    mem_course (verdict (gates ++ results.flatten)) (gates.countP (·.passed)) (.inl rfl)
  have verified :=
    mem_course (verdict (gates ++ results.flatten)) (gates.countP (·.passed)) (.inr rfl)
  refine ⟨gates, results, errors, _, owned, left, middle, rfl, cut, stepped, removed, rfl, member,
    course_chain member, ?_, ?_, ?_⟩
  · rw [failed, verdict_eq_failed]
  · rw [verified, verdict_eq_verified]
  · rw [verified, verdict_eq_verified]
    have all := teardownChecks_passed (after.now - middle.now) errors
    simp only [Report.passed, List.all_append, all, Bool.and_eq_true, List.all_eq_true,
      List.mem_append, List.isEmpty_iff]
    grind

open Scripted in
theorem run_course_healthy :
    ∃ report after, visit.run setting ⟨0, healthy⟩ = some (.ok report, after) ∧
      report.passed = true ∧ report.phases ∈ courses ∧ .verified ∈ report.phases := by
  obtain ⟨report, after, ran, passed⟩ :=
    run_found (s := visit) (r := setting) (m := ⟨0, healthy⟩) (p := fun report _ => report.passed)
      (by decide +kernel)
  obtain ⟨_, _, _, _, _, _, _, -, -, -, -, -, course, -, -, -, status⟩ :=
    run_course setting visit ⟨0, healthy⟩ after report ran
  exact ⟨report, after, ran, passed, course, (status.1 passed).1⟩

end Scenario

end ShareCheck
