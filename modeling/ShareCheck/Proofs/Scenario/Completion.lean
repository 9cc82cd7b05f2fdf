import ShareCheck.Proofs.Scenario.Parts
import ShareCheck.Proofs.Scenario.Projection

set_option autoImplicit false

namespace ShareCheck

variable {σ : Type}

structure ClusterQuery.Lands (interval : Nat) (query : ClusterQuery σ) : Prop where
  pods : ∀ ns selector, (query.pods ns selector).Lands
  services : ∀ ns selector, (query.services ns selector).Lands
  events : ∀ ns selector, (query.events ns selector).Lands
  identity : ∀ reference, (query.identity reference).Lands
  paced : ∀ ns selector, (query.pods ns selector).Paced interval

theorem ClusterQuery.Lands.traced {interval : Nat} {query : ClusterQuery σ}
    (lands : query.Lands interval) : query.traced.Lands interval where
  pods ns selector := (Call.traced_lifts _).lands (lands.pods ns selector)
  services ns selector := (Call.traced_lifts _).lands (lands.services ns selector)
  events ns selector := (Call.traced_lifts _).lands (lands.events ns selector)
  identity reference := (Call.traced_lifts _).lands (lands.identity reference)
  paced ns selector := (Call.traced_lifts _).paced (lands.paced ns selector)

/-- Calls of a share client are given up in time, so nothing is asked of them. -/
structure Collaborators.Complete (interval : Nat) (c : Collaborators σ) : Prop where
  query : c.query.Lands interval
  ensure : ∀ o, (c.fixtures.ensure o).Completes
  remove : ∀ o, (c.fixtures.remove o).Completes

theorem Activity.traced_completes {o : Operation} {x : Activity σ (Except Error o.Answer)}
    (completes : x.Completes) : (Activity.traced o x).Completes := by
  intro m
  obtain ⟨answer, after, ran⟩ := completes ⟨m.now, m.world.world⟩
  exact ⟨answer, _, by simp only [Activity.traced, ran]; rfl⟩

theorem Collaborators.Complete.relates {interval : Nat} {c : Collaborators σ}
    (complete : c.Complete interval) :
    Lifecycle.Relates c.fixtures.traced c.fixtures.traced fun x _ => x.Completes where
  toComposes := Activity.completes_composes
  owned _ _ := (Activity.change_returns _).completes
  taken _ := (Activity.change_returns _).completes
  ensured o :=
    Activity.within_completes _ (Activity.traced_completes (o := .ensure o) (complete.ensure o))
  removed o :=
    Activity.within_completes _ (Activity.traced_completes (o := .remove o) (complete.remove o))

theorem awaited_completes {query : ClusterQuery σ} {interval : Nat} (lands : query.Lands interval)
    (description : String) (timeout reach : Nat) (ns selector : String)
    (judge : List Pod → Probe) :
    (waitFor description timeout interval (podsProbe query ns selector judge) reach).Completes :=
  waitFor_completes (Call.map_paced (lands.paced ns selector) _) description timeout reach

theorem verifyEndpoint_completes (client : ShareClient σ) (endpoint : Endpoint) (target : Target)
    (timeout : Nat) (credentials : List (Credential × String)) :
    (verifyEndpoint client endpoint target timeout credentials).Completes := fun _ => ⟨_, _, rfl⟩

namespace Step

def Completes (c : StepContext σ) (s : Step σ) : Prop :=
  ∃ work, s.work c = .ok work ∧ work.Completes

variable {c : StepContext σ}

theorem drawProbes_returns (suffix : σ → UInt32 × σ) (credentials : List Credential) :
    (drawProbes suffix credentials).Returns :=
  drawProbes_relates Activity.returns_composes suffix suffix (Activity.change_returns _) credentials

theorem settle_returns (endpoint : Endpoint) (delay : Nat) :
    (settle endpoint delay : Activity σ Unit).Returns :=
  settle_relates Activity.returns_composes Activity.sleep_returns endpoint delay

theorem Kind.step_completes (lands : c.query.Lands c.config.pollInterval) (kind : Kind) :
    kind.step.Completes c := by
  have relates : c.Relates (fun x _ => x.Completes) c :=
    { toComposes := Activity.completes_composes
      alike := rfl
      pods := fun _ _ => Activity.perform_completes (lands.pods _ _)
      services := fun _ _ => Activity.perform_completes (lands.services _ _)
      events := fun _ _ => Activity.perform_completes (lands.events _ _)
      identity := fun _ => Activity.perform_completes (lands.identity _)
      awaited := fun _ _ _ _ => awaited_completes lands _ _ _ _ _ _
      slept := fun delay => (Activity.sleep_returns delay).completes
      drew := (Activity.change_returns _).completes
      verified := verifyEndpoint_completes _
      checked := fun name _ _ completes => (Activity.check_returns name completes).completes }
  obtain ⟨work, -, works, -, completes⟩ := kind.work_relates relates
  exact ⟨work, works, completes⟩

theorem run_returns {s : Step σ} (completes : s.Completes c) : (s.run c).Returns := by
  -- A step catches the panics of what it awaits.
  obtain ⟨work, works, completes⟩ := completes
  intro m
  obtain ⟨outcome, after, worked⟩ := completes m
  unfold run
  rw [works]
  cases outcome with
  | ok checks => exact ⟨checks, after, by simp only [worked]⟩
  | error p => exact ⟨[s.panicked (after.now - m.now)], after, by simp only [worked]⟩

theorem runAll_returns {steps : List (Step σ)} (complete : ∀ s ∈ steps, s.Completes c) :
    (runAll c steps).Returns := by
  induction steps with
  | nil => exact Activity.pure_returns _
  | cons s rest ih =>
    refine Activity.bind_returns (run_returns (complete s (List.mem_cons_self ..))) fun _ => ?_
    exact Activity.bind_returns (ih fun s member => complete s (List.mem_cons_of_mem _ member))
      fun _ => Activity.pure_returns _

end Step

def Trace.Aside (start t : Trace) : Prop := ∃ u, t = start ++ u ∧ u.filter Entry.onFixtures = []

theorem Trace.Aside.snoc {start : Trace} (t : Trace) (e : Entry) (other : e.onFixtures = false)
    (aside : Aside start t) : Aside start (t ++ [e]) := by
  obtain ⟨u, rfl, silent⟩ := aside
  exact ⟨u ++ [e], List.append_assoc .., by simp [silent, other]⟩

theorem Trace.silent {u : Trace} (silent : u.filter Entry.onFixtures = []) :
    u.created = [] ∧ u.handed = [] ∧ u.panicked = [] := by
  have told := Trace.told (t := u) (u := []) silent
  refine ⟨told.1, told.2.2.1, ?_⟩
  refine panicked_eq_nil fun o p member => ?_
  have kept : .ended (.remove o) (.error p) ∈ u.filter Entry.onFixtures :=
    List.mem_filter.2 ⟨member, rfl⟩
  rw [silent] at kept
  cases kept

namespace Scenario

structure Contained (r : Setting σ) (s : Scenario (Traced σ)) : Prop where
  completes : ∀ step ∈ s.steps, step.Completes (r.traced.context s)
  aside : ∀ step ∈ s.steps, ∀ start : Trace,
    step.Keeps (fun t => start.Aside t.trace) (r.traced.context s)

variable {r : Setting σ} {s : Scenario (Traced σ)}

theorem contained_kinds {kinds : List Step.Kind}
    (complete : r.collaborators.Complete r.config.pollInterval)
    (steps : s.steps = kinds.map Step.Kind.step) : Contained r s where
  completes step member := by
    rw [steps] at member
    obtain ⟨kind, -, rfl⟩ := List.mem_map.1 member
    exact kind.step_completes complete.query.traced
  aside step member start := by
    rw [steps] at member
    obtain ⟨kind, -, rfl⟩ := List.mem_map.1 member
    have traced := Collaborators.traced_keeps (T := start.Aside) Trace.Aside.snoc
      (r.collaborators.keeps_constant True)
    have kept := kind.step_keeps (Collaborators.Keeps.context (r := r.traced) traced s)
    simpa using kept

theorem gate_returns (check : Check) (phase : Phase) {rest : Report → Activity σ Report}
    (returns : ∀ report, (rest report).Returns) (report : Report) :
    (gate check report phase rest).Returns :=
  gate_relates Activity.returns_composes check phase rest rest returns report

theorem inspect_returns (complete : r.collaborators.Complete r.config.pollInterval)
    (contained : Contained r s) (report : Report) : (inspect r.traced s report).Returns := by
  have awaits description timeout (judge : String → List Pod → Probe) :
      (awaitPods r.traced s description timeout judge).Completes :=
    awaited_completes complete.query.traced _ _ _ _ _ _
  refine Activity.bind_returns (Activity.check_returns _ (awaits _ _ _)) fun found => ?_
  refine gate_returns _ _ (fun report => ?_) report
  refine Activity.bind_returns (Activity.check_returns _ (awaits _ _ _)) fun ready => ?_
  refine gate_returns _ _ (fun report => ?_) report
  exact Activity.bind_returns (Step.runAll_returns contained.completes) fun _ =>
    Activity.pure_returns _

theorem Inspected.aside {m after : Moment (Traced σ)} {setup : Check} {checks : List Check}
    {phases : List Phase} (contained : Contained r s)
    (inspected : Inspected r.traced s setup m checks phases after) :
    m.world.trace.Aside after.world.trace := by
  refine inspected.keeps (I := fun t => m.world.trace.Aside t.trace) (fun ns selector => ?_)
    (fun step member => contained.aside step member _) ⟨[], (List.append_nil _).symm, rfl⟩
  have kept := Call.traced_keeps (o := .pods ns selector) (T := m.world.trace.Aside)
    (Call.keeps_constant (r.collaborators.query.pods ns selector) True) fun u e same =>
      Trace.Aside.snoc u e (by rw [Entry.onFixtures, same])
  simp only [and_true] at kept
  exact kept

structure Settled (s : Scenario σ) (report : Report) (t : Trace) : Prop where
  named : report.scenario = s.name
  tornDown : report.finalPhase = .tornDown
  handed : t.handed = t.created.reverse

theorem run_settles (complete : r.collaborators.Complete r.config.pollInterval)
    (contained : Contained r s) (m : Moment (Traced σ)) :
    ∃ outcome after t, s.run r.traced m = some (outcome, after) ∧
      after.world.trace = m.world.trace ++ t ∧
      ((∃ report, outcome = .ok report ∧ Settled s report t ∧ t.panicked = []) ∨
        ∃ o p, outcome = .error p ∧ t.panicked = [(o, p)]) := by
  -- A setup that panics is a failed check, and so is all that panics between it and the teardown.
  obtain ⟨⟨setup, owned⟩, begun, applied⟩ := Activity.owning_returns
    (Activity.check_returns "fixtures" (complete.relates.applyAll r.files s.fixtures)) [] m
  obtain ⟨out, inspected, gated⟩ := gate_returns setup .fixturesApplied
    (inspect_returns complete contained) ⟨s.name, [.uninitialized], []⟩ begun
  obtain ⟨outcome, after, removed⟩ :=
    Activity.owning_completes complete.relates.teardown owned inspected
  obtain ⟨parts, result, -, all, prepared, objects⟩ := setup_calls applied
  obtain ⟨checks, phases, inspection, -⟩ := inspect_ok gated
  obtain ⟨u, aside, silent⟩ := inspection.aside contained
  obtain ⟨created, handed, panicked⟩ := Trace.silent silent
  obtain ⟨answer, left, torn, rfl⟩ := Activity.owning_some.1 removed
  obtain ⟨t, removes, none, -, -, ended⟩ := Lifecycle.teardown_some torn
  have whole : after.world.trace = m.world.trace ++ (parts.flatten ++ u ++ t) := by
    rw [removes.trace, aside, prepared]
    simp only [List.append_assoc]
  have early : Trace.panicked parts.flatten = [] := all.made.calls.panicked_eq_nil all.handed
  have ran := run_eq applied gated removed
  obtain ⟨errors, rfl, last, given⟩ | ⟨o, p, rfl, last⟩ := ended
  next =>
    obtain ⟨p⟩ := run_parts ran
    refine ⟨_, after, _, ran, whole, .inl ⟨_, rfl, ⟨?_, ?_, ?_⟩, ?_⟩⟩
    · rw [p.report_eq]
    · rw [p.report_eq, Report.finalPhase, List.getLastD_eq_getLast?, ← List.cons_append,
        List.getLast?_concat]
      rfl
    · simp [handed, all.handed, given, objects, created, none]
    · simp [early, panicked, last]
  next =>
    exact ⟨.error p, after, _, ran, whole, .inr ⟨o, p, rfl, by simp [early, panicked, last]⟩⟩

end Scenario

end ShareCheck
