import ShareCheck.Proofs.Lifecycle.Balance
import ShareCheck.Proofs.Scenario.Completion

set_option autoImplicit false

namespace ShareCheck

variable {σ ν κ : Type} {key : FixtureObject → κ} {objects : σ → Set κ}

def FixtureClient.Removes (client : FixtureClient σ) : Prop :=
  ∀ o m, ∃ after, client.remove o m = some (.ok (.ok ()), after)

theorem FixtureClient.Calls.unremoved_eq_nil {client : FixtureClient σ} {m after : Moment σ}
    {t : Trace} (calls : client.Calls m t after) (removes : client.Removes) :
    t.unremoved = [] := by
  induction calls with
  | none => rfl
  | ensure _ _ ih => exact ih
  | @remove m mid after o answer t answered _ ih =>
    obtain ⟨last, removed⟩ := removes o m
    cases answered.symm.trans removed
    exact ih

namespace Lifecycle

theorem removeAll_returns {client : FixtureClient σ} (returns : ∀ o, (client.remove o).Returns)
    (os : List FixtureObject) : (removeAll client os).Returns := by
  induction os with
  | nil => exact Activity.pure_returns _
  | cons o os ih =>
    refine Activity.bind_returns (Activity.within_returns _ (returns o)) fun answer => ?_
    refine Activity.bind_returns ih fun errors => ?_
    match answer with
    | .ok () => exact Activity.pure_returns _
    | .error e => exact Activity.pure_returns _

theorem teardown_returns {client : FixtureClient σ} (removes : client.Removes) :
    (teardown client.traced).Returns := by
  refine Activity.bind_returns (Activity.change_returns _) fun taken => removeAll_returns ?_ _
  intro o
  refine Activity.traced_returns (o := .remove o) fun m => ?_
  obtain ⟨after, removed⟩ := removes o m
  exact ⟨_, after, removed⟩

end Lifecycle

namespace Scenario

variable {r : Setting σ} {s : Scenario (Traced σ)}

theorem run_returns (complete : r.collaborators.Complete r.config.pollInterval)
    (contained : Contained r s) (removes : r.collaborators.fixtures.Removes) :
    (s.run r.traced).Returns := by
  refine Activity.bind_returns (Activity.owning_returns (Activity.check_returns "fixtures"
    (complete.relates.applyAll r.files s.fixtures)) []) fun (setup, owned) => ?_
  refine Activity.bind_returns
    (gate_returns setup _ (inspect_returns complete contained) _) fun report => ?_
  refine Activity.bind_returns (fun m => ⟨m.now, m, rfl⟩) fun start => ?_
  refine Activity.bind_returns
    (Activity.owning_returns (Lifecycle.teardown_returns removes) owned) fun (errors, _) => ?_
  exact Activity.bind_returns (fun m => ⟨m.now, m, rfl⟩) fun stop => Activity.pure_returns _

theorem run_undoes {m after : Moment (Traced σ)} {report : Report}
    (contract : r.collaborators.fixtures.CreatesAbsent key objects)
    (undisturbed : Undisturbed r s objects) (removes : r.collaborators.fixtures.Removes)
    (ran : s.run r.traced m = some (.ok report, after)) :
    objects after.world.world = objects m.world.world := by
  obtain ⟨p⟩ := run_parts ran
  obtain ⟨parts, result, -, applied, setup, owned⟩ := p.setup_calls
  obtain ⟨t, gone, trace, given⟩ := p.removal_calls
  have adds := applied.made.calls.adds contract applied.handed
  have takes := gone.made.calls.takes contract gone.requested gone.answered
  have all := gone.made.calls.unremoved_eq_nil removes
  obtain ⟨-, kept⟩ := p.inspection.shows undisturbed
  -- What was created is what was handed over, and that is what was removed.
  have gave : ((Trace.created parts.flatten).map key).Perm (t.removed.map key ++ []) := by
    have handed := takes.handed
    rw [given, owned, all, List.map_nil, List.append_nil] at handed
    rw [List.append_nil]
    exact ((List.reverse_perm _).symm.trans handed).map key
  have fresh : ∀ k ∈ (Trace.created parts.flatten).map key, k ∉ objects m.world.world := by
    simpa using adds.fresh
  have before : objects p.inspected.world.world = _ := kept.trans adds.objects
  have after := takes.objects
  rw [before] at after
  exact after.trans ((restored fresh adds.once gave).trans (by simp))

namespace Outline

variable (o : Outline)

theorem run_clean (complete : r.collaborators.Complete r.config.pollInterval)
    (contract : r.collaborators.fixtures.CreatesAbsent key objects)
    (kept : ∀ held, r.collaborators.Keeps fun w => objects w = held)
    (removes : r.collaborators.fixtures.Removes) (m : Moment σ) :
    ∃ report after, o.scenario.run r m = some (.ok report, after) ∧
      objects after.world = objects m.world := by
  let start : Moment (Traced σ) := ⟨m.now, ⟨[], m.world⟩⟩
  obtain ⟨report, after, ran⟩ := run_returns complete
    (contained_kinds (s := o.scenario) complete rfl) removes start
  have untraced := run_traced r o.name o.shareName o.share o.fixtures o.credentials o.kinds start
  have undone := run_undoes contract (undisturbed_kinds (s := o.scenario) kept rfl) removes ran
  refine ⟨report, ⟨after.now, after.world.world⟩, untraced.trans ?_, undone⟩
  exact congrArg (Option.map _) ran

end Outline

end Scenario

end ShareCheck
