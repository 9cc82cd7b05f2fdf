import ShareCheck.Proofs.Lifecycle.Balance
import ShareCheck.Proofs.Scenario.Parts
import ShareCheck.Proofs.Scripted.World

set_option autoImplicit false

namespace ShareCheck

variable {σ κ : Type} {key : FixtureObject → κ} {objects : σ → Set κ}

namespace Scenario

structure Restored (r : Setting σ) (s : Scenario (Traced σ)) (key : FixtureObject → κ)
    (objects : σ → Set κ) (before : σ) (after : Moment (Traced σ)) (report : Report) : Prop where
  handed : after.world.trace.handed = after.world.trace.created.reverse
  once : (after.world.trace.created.map key).Nodup
  fresh : ∀ o ∈ after.world.trace.created, key o ∉ objects before
  present : ∀ o ∈ after.world.trace.present,
    (key o ∈ objects before ∧ ∀ other ∈ after.world.trace.handed, key other ≠ key o) ∨
      key o ∈ after.world.trace.created.map key
  left : objects after.world.world =
    objects before ∪ {k | k ∈ after.world.trace.unremoved.map fun (o, _) => key o}
  checks : ∃ setup begun earlier phases middle,
    Inspected r.traced s setup begun earlier phases middle ∧
      report.checks = earlier ++ teardownChecks (after.now - middle.now)
        (after.world.trace.unremoved.map fun (o, e) => Lifecycle.teardownError o e)

theorem run_restores {r : Setting σ} {s : Scenario (Traced σ)} {now : Nat} {w : σ}
    {after : Moment (Traced σ)} {report : Report}
    (contract : r.collaborators.fixtures.CreatesAbsent key objects)
    (undisturbed : Undisturbed r s objects)
    (ran : s.run r.traced ⟨now, ⟨[], w⟩⟩ = some (.ok report, after)) :
    Restored r s key objects w after report := by
  obtain ⟨p⟩ := run_parts ran
  obtain ⟨parts, result, -, applied, setup, owned⟩ := p.setup_calls
  obtain ⟨t, gone, trace, given⟩ := p.removal_calls
  rw [owned] at given
  -- The objects grow in the setup, stay as they are in between, and shrink in the removal.
  have adds := applied.made.calls.adds contract applied.handed
  have takes := gone.made.calls.takes contract gone.requested gone.answered
  obtain ⟨calls, kept⟩ := p.inspection.shows undisturbed
  obtain ⟨created, present, handed, unremoved⟩ := Trace.told calls
  rw [setup, List.nil_append] at created present handed unremoved
  rw [applied.handed] at handed
  rw [adds.unremoved] at unremoved
  refine ⟨?_, ?_, ?_, ?_, ?_, ?_⟩
  all_goals simp only [trace, Trace.created_append, Trace.present_append, Trace.handed_append,
    Trace.unremoved_append, created, present, handed, unremoved, gone.created, takes.present,
    List.append_nil, List.nil_append]
  · exact given
  · exact adds.once
  · exact adds.fresh
  · intro o member
    obtain held | again := adds.present o member
    -- What was there before the run was not created in it, so it is not handed over.
    next =>
      refine .inl ⟨held, fun other removed same => ?_⟩
      rw [given, List.mem_reverse] at removed
      exact adds.fresh other removed (same ▸ held)
    next => exact .inr again
  -- Each object handed over was either removed or is left with an error.
  · have gave : ((Trace.created parts.flatten).map key).Perm
        (t.removed.map key ++ t.unremoved.map fun (o, _) => key o) := by
      have split := (given ▸ takes.handed).map key
      rw [List.map_reverse, List.map_append, List.map_map] at split
      exact (List.reverse_perm _).symm.trans split
    have fresh : ∀ k ∈ (Trace.created parts.flatten).map key, k ∉ objects w := by
      simpa using adds.fresh
    have before : objects p.inspected.world.world = _ := kept.trans adds.objects
    have after := takes.objects
    rw [before] at after
    exact after.trans (restored fresh adds.once gave)
  · refine ⟨p.setup, p.begun, p.checks, p.phases, p.inspected, p.inspection, ?_⟩
    exact (congrArg Report.checks p.report_eq).trans (by rw [gone.errors])

open Scripted in
def stuck : World :=
  let refused : Effect := { error := some (.teardown "a" "refused") }
  { healthy with cluster := { healthy.cluster with
    removeFaults := Table.empty.insert "Secret shares/a" refused } }

open Scripted in
theorem run_restores_stuck :
    World.collaborators.fixtures.CreatesAbsent FixtureObject.text World.held ∧
      Undisturbed setting visit World.held ∧
      ∃ report after, visit.run setting.traced ⟨0, ⟨[], stuck⟩⟩ = some (.ok report, after) ∧
        Restored setting visit FixtureObject.text World.held stuck after report ∧
        after.world.world.held = {"Secret shares/a"} := by
  have undisturbed : Undisturbed setting visit World.held :=
    undisturbed_kinds World.collaborators_keep Step.base_eq
  obtain ⟨report, after, ran, failed⟩ :=
    run_found (s := visit) (r := setting.traced) (m := ⟨0, ⟨[], stuck⟩⟩)
      (p := fun _ after => after.world.trace.unremoved.map (·.1.text) == ["Secret shares/a"])
      (by decide +kernel)
  have restored := run_restores World.fixtures_createsAbsent undisturbed ran
  refine ⟨World.fixtures_createsAbsent, undisturbed, report, after, ran, restored, ?_⟩
  have none : stuck.held = ∅ := by
    ext name
    simp [World.held, Cluster.holds, stuck, healthy]
  have left : after.world.world.held =
      stuck.held ∪ {k | k ∈ after.world.trace.unremoved.map (·.1.text)} := restored.left
  rw [left, none, eq_of_beq failed]
  ext name
  simp

open Scripted in
def twice {σ : Type} : Scenario σ :=
  { visit with fixtures := [⟨⟨"a.yaml"⟩, "shares"⟩, ⟨⟨"a.yaml"⟩, "shares"⟩] }

open Scripted in
/-- An object of a fixture that is listed twice is created, then found to be present, and removed in
the end. -/
theorem run_removes_present :
    World.collaborators.fixtures.CreatesAbsent FixtureObject.text World.held ∧
      Undisturbed setting twice World.held ∧
      ∃ report after, twice.run setting.traced ⟨0, ⟨[], healthy⟩⟩ = some (.ok report, after) ∧
        after.world.trace.present.map (·.text) = ["Secret shares/a"] ∧
        after.world.trace.handed.map (·.text) = ["Secret shares/a"] := by
  have undisturbed : Undisturbed setting twice World.held :=
    undisturbed_kinds World.collaborators_keep Step.base_eq
  obtain ⟨report, after, ran, found⟩ :=
    run_found (s := twice) (r := setting.traced) (m := ⟨0, ⟨[], healthy⟩⟩)
      (p := fun _ after => after.world.trace.present.map (·.text) == ["Secret shares/a"] &&
        after.world.trace.handed.map (·.text) == ["Secret shares/a"])
      (by decide +kernel)
  obtain ⟨present, handed⟩ := Bool.and_eq_true_iff.1 found
  exact ⟨World.fixtures_createsAbsent, undisturbed, report, after, ran, eq_of_beq present,
    eq_of_beq handed⟩

end Scenario

end ShareCheck
