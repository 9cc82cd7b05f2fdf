import Mathlib.Data.Set.Defs
import ShareCheck.Proofs.Lifecycle.Calls
import ShareCheck.Proofs.Scenario.Steps

set_option autoImplicit false

namespace ShareCheck

variable {σ : Type} {m after : Moment σ}

namespace Step

/-- Steps that ran one after another, each with the checks it contributed. A panic while a step is
awaited is a failed check of its own, and the steps after it run. -/
inductive Ran (c : StepContext σ) :
    List (Step σ) → Moment σ → List (List Check) → Moment σ → Prop
  | none {m : Moment σ} : Ran c [] m [] m
  | returned {s : Step σ} {rest : List (Step σ)} {work : Activity σ (List Check)}
      {m mid after : Moment σ} {checks : List Check} {results : List (List Check)} :
      s.work c = .ok work → work m = some (.ok checks, mid) → Ran c rest mid results after →
        Ran c (s :: rest) m (checks :: results) after
  | panicked {s : Step σ} {rest : List (Step σ)} {work : Activity σ (List Check)}
      {m mid after : Moment σ} {p : Panic} {results : List (List Check)} :
      s.work c = .ok work → work m = some (.error p, mid) → Ran c rest mid results after →
        Ran c (s :: rest) m ([s.panicked (mid.now - m.now)] :: results) after

theorem run_ok {s : Step σ} {c : StepContext σ} {checks : List Check}
    (ran : s.run c m = some (.ok checks, after)) :
    ∃ work, s.work c = .ok work ∧
      (work m = some (.ok checks, after) ∨
        ∃ p, work m = some (.error p, after) ∧ checks = [s.panicked (after.now - m.now)]) := by
  unfold Step.run at ran
  match works : s.work c with
  | .error p =>
    rw [works] at ran
    cases ran
  | .ok work =>
    rw [works] at ran
    refine ⟨work, rfl, ?_⟩
    match worked : work m with
    | none => simp [worked] at ran
    | some (.ok made, mid) =>
      simp only [worked, Option.some.injEq, Prod.mk.injEq, Except.ok.injEq] at ran
      obtain ⟨rfl, rfl⟩ := ran
      exact .inl rfl
    | some (.error p, mid) =>
      simp only [worked, Option.some.injEq, Prod.mk.injEq, Except.ok.injEq] at ran
      obtain ⟨rfl, rfl⟩ := ran
      exact .inr ⟨p, rfl, rfl⟩

theorem runAll_ok {c : StepContext σ} {steps : List (Step σ)} {checks : List Check}
    (ran : runAll c steps m = some (.ok checks, after)) :
    ∃ results, Ran c steps m results after ∧ checks = results.flatten := by
  induction steps generalizing m checks with
  | nil =>
    obtain ⟨same, rfl⟩ := Activity.pure_some.1 ran
    cases same
    exact ⟨[], .none, rfl⟩
  | cons s rest ih =>
    obtain ⟨first, mid, begun, more⟩ := Activity.bind_ok.1 ran
    obtain ⟨others, last, ended, joined⟩ := Activity.bind_ok.1 more
    obtain ⟨same, rfl⟩ := Activity.pure_some.1 joined
    cases same
    obtain ⟨results, steps, rfl⟩ := ih ended
    obtain ⟨work, works, worked | ⟨p, worked, rfl⟩⟩ := run_ok begun
    · exact ⟨first :: results, .returned works worked steps, rfl⟩
    · exact ⟨_ :: results, .panicked works worked steps, rfl⟩

theorem Ran.keeps {I : σ → Prop} {c : StepContext σ} {steps : List (Step σ)}
    {results : List (List Check)} (ran : Ran c steps m results after)
    (kept : ∀ s ∈ steps, s.Keeps I c) (holds : I m.world) : I after.world := by
  induction ran with
  | none => exact holds
  | returned works worked _ ih =>
    have next := kept _ (List.mem_cons_self ..) _ works _ _ _ worked holds
    exact ih (fun s member => kept s (List.mem_cons_of_mem _ member)) next
  | panicked works worked _ ih =>
    have next := kept _ (List.mem_cons_self ..) _ works _ _ _ worked holds
    exact ih (fun s member => kept s (List.mem_cons_of_mem _ member)) next

end Step

def Traced.Shows {κ : Type} (calls : Trace) (objects : σ → Set κ) (held : Set κ)
    (t : Traced σ) : Prop :=
  t.trace.filter Entry.onFixtures = calls ∧ objects t.world = held

namespace Scenario

variable {r : Setting σ} {s : Scenario σ}

theorem gate_ok {check : Check} {report out : Report} {phase : Phase}
    {rest : Report → Activity σ Report} :
    gate check report phase rest m = some (.ok out, after) ↔
      (check.passed = true ∧
        rest ((report.add [check]).enter phase) m = some (.ok out, after)) ∨
      (check.passed = false ∧ out = (report.add [check]).enter .failed ∧ after = m) := by
  unfold gate
  cases check.passed with
  | true => simp
  | false =>
    simp only [Bool.false_eq_true, if_false, false_and, true_and, false_or]
    change (pure _ : Activity σ Report) m = _ ↔ _
    rw [Activity.pure_some]
    simp

def verdict (checks : List Check) : Phase :=
  if checks.all (·.passed) then .verified else .failed

inductive Inspected (r : Setting σ) (s : Scenario σ) (setup : Check) :
    Moment σ → List Check → List Phase → Moment σ → Prop
  | unprepared {m : Moment σ} : setup.passed = false → Inspected r s setup m [setup] [.failed] m
  | undiscovered {m after : Moment σ} {found : Check} : setup.passed = true →
      Check.run "pod-exists" (awaitPods r s Step.existsName r.config.existTimeout podExists) m =
        some (.ok found, after) → found.passed = false →
      Inspected r s setup m [setup, found] [.fixturesApplied, .failed] after
  | unready {m mid after : Moment σ} {found ready : Check} : setup.passed = true →
      Check.run "pod-exists" (awaitPods r s Step.existsName r.config.existTimeout podExists) m =
        some (.ok found, mid) → found.passed = true →
      Check.run "pod-ready" (awaitPods r s Step.readyName r.config.readyTimeout podReady) mid =
        some (.ok ready, after) → ready.passed = false →
      Inspected r s setup m [setup, found, ready]
        [.fixturesApplied, .workloadDiscovered, .failed] after
  | stepped {m mid last after : Moment σ} {found ready : Check} {results : List (List Check)} :
      setup.passed = true →
      Check.run "pod-exists" (awaitPods r s Step.existsName r.config.existTimeout podExists) m =
        some (.ok found, mid) → found.passed = true →
      Check.run "pod-ready" (awaitPods r s Step.readyName r.config.readyTimeout podReady) mid =
        some (.ok ready, last) → ready.passed = true →
      Step.Ran (r.context s) s.steps last results after →
      Inspected r s setup m ([setup, found, ready] ++ results.flatten)
        [.fixturesApplied, .workloadDiscovered, .workloadReady, verdict results.flatten] after

theorem inspect_ok {setup : Check} {out : Report}
    (ran : gate setup ⟨s.name, [.uninitialized], []⟩ .fixturesApplied (inspect r s) m =
      some (.ok out, after)) :
    ∃ checks phases, Inspected r s setup m checks phases after ∧
      out = ⟨s.name, .uninitialized :: phases, checks⟩ := by
  obtain ⟨prepared, rest⟩ | ⟨unprepared, rfl, rfl⟩ := gate_ok.1 ran
  next =>
    obtain ⟨found, mid, looked, rest⟩ := Activity.bind_ok.1 rest
    obtain ⟨discovered, rest⟩ | ⟨undiscovered, rfl, rfl⟩ := gate_ok.1 rest
    next =>
      obtain ⟨ready, last, waited, rest⟩ := Activity.bind_ok.1 rest
      obtain ⟨isReady, rest⟩ | ⟨unready, rfl, rfl⟩ := gate_ok.1 rest
      next =>
        obtain ⟨checks, done, stepped, ended⟩ := Activity.bind_ok.1 rest
        obtain ⟨same, rfl⟩ := Activity.pure_some.1 ended
        cases same
        obtain ⟨results, steps, rfl⟩ := Step.runAll_ok stepped
        refine ⟨_, _, .stepped prepared looked discovered waited isReady steps, ?_⟩
        unfold verdict
        cases results.flatten.all (·.passed) <;> rfl
      next => exact ⟨_, _, .unready prepared looked discovered waited unready, rfl⟩
    next => exact ⟨_, _, .undiscovered prepared looked undiscovered, rfl⟩
  next => exact ⟨_, _, .unprepared unprepared, rfl⟩

theorem Inspected.keeps {I : σ → Prop} {setup : Check} {checks : List Check} {phases : List Phase}
    (inspected : Inspected r s setup m checks phases after)
    (query : ∀ ns selector, (r.collaborators.query.pods ns selector).Keeps I)
    (steps : ∀ step ∈ s.steps, step.Keeps I (r.context s)) (holds : I m.world) :
    I after.world := by
  -- Both waits only list pods.
  have awaits description timeout judge : (awaitPods r s description timeout judge).Keeps I :=
    waitFor_keeps (Call.map_keeps (query _ _) _) _ _ _ _
  cases inspected with
  | unprepared => exact holds
  | undiscovered _ looked _ => exact Activity.check_keeps (awaits _ _ _) _ _ _ looked holds
  | unready _ looked _ waited _ =>
    have found := Activity.check_keeps (awaits _ _ _) _ _ _ looked holds
    exact Activity.check_keeps (awaits _ _ _) _ _ _ waited found
  | stepped _ looked _ waited _ ran =>
    have found := Activity.check_keeps (awaits _ _ _) _ _ _ looked holds
    have ready := Activity.check_keeps (awaits _ _ _) _ _ _ waited found
    exact ran.keeps steps ready

theorem teardownChecks_passed (duration : Nat) (errors : List Error) :
    (teardownChecks duration errors).all (·.passed) = errors.isEmpty := by
  cases errors with
  | nil => rfl
  | cons e errors => rfl

section

variable {κ : Type} {objects : σ → Set κ}

structure Undisturbed (r : Setting σ) (s : Scenario (Traced σ)) (objects : σ → Set κ) : Prop where
  pods : ∀ ns selector held,
    (r.collaborators.query.pods ns selector).Keeps fun w => objects w = held
  steps : ∀ step ∈ s.steps, ∀ calls held,
    step.Keeps (Traced.Shows calls objects held) (r.traced.context s)

theorem Inspected.shows {r : Setting σ} {s : Scenario (Traced σ)} {m after : Moment (Traced σ)}
    {setup : Check} {checks : List Check} {phases : List Phase}
    (undisturbed : Undisturbed r s objects)
    (inspected : Inspected r.traced s setup m checks phases after) :
    after.world.Shows (m.world.trace.filter Entry.onFixtures) objects (objects m.world.world) := by
  refine inspected.keeps (fun ns selector => ?_)
    (fun step member => undisturbed.steps step member _ _) ⟨rfl, rfl⟩
  refine Call.traced_keeps (o := .pods ns selector)
    (T := fun u => u.filter Entry.onFixtures = m.world.trace.filter Entry.onFixtures)
    (undisturbed.pods ns selector _) fun u e same => ?_
  exact Trace.onFixtures_snoc u e (by rw [Entry.onFixtures, same])

theorem undisturbed_kinds {r : Setting σ} {s : Scenario (Traced σ)} {kinds : List Step.Kind}
    (kept : ∀ held, r.collaborators.Keeps fun w => objects w = held)
    (steps : s.steps = kinds.map Step.Kind.step) : Undisturbed r s objects where
  pods ns selector held := (kept held).query.pods ns selector
  steps step member calls held := by
    rw [steps] at member
    obtain ⟨kind, -, rfl⟩ := List.mem_map.1 member
    have traced := Collaborators.traced_keeps (T := fun u => u.filter Entry.onFixtures = calls)
      Trace.onFixtures_snoc (kept held)
    exact kind.step_keeps (traced.context s)

end

theorem run_eq {setup : Check} {owned : List OwnedObject} {begun middle : Moment σ}
    {report : Report} {answer : Except Panic (List Error × List OwnedObject)}
    (applied : Activity.owning []
      (Check.run "fixtures" (Lifecycle.applyAll r.files r.collaborators.fixtures s.fixtures)) m =
        some (.ok (setup, owned), begun))
    (gated : gate setup ⟨s.name, [.uninitialized], []⟩ .fixturesApplied (inspect r s) begun =
      some (.ok report, middle))
    (removed : Activity.owning owned (Lifecycle.teardown r.collaborators.fixtures) middle =
      some (answer, after)) :
    s.run r m = some (answer.map fun gone =>
      (report.add (teardownChecks (after.now - middle.now) gone.1)).enter .tornDown, after) := by
  refine Activity.bind_some.2 (.inl ⟨_, begun, applied, Activity.bind_some.2 (.inl ⟨report, middle,
    gated, Activity.bind_some.2 (.inl ⟨_, middle, rfl, Activity.bind_some.2 ?_⟩)⟩)⟩)
  cases answer with
  | ok gone => exact .inl ⟨gone, after, removed, rfl⟩
  | error p => exact .inr ⟨p, removed, rfl⟩

structure Parts (r : Setting σ) (s : Scenario σ) (m : Moment σ) (report : Report)
    (after : Moment σ) where
  setup : Check
  owned : List OwnedObject
  begun : Moment σ
  checks : List Check
  phases : List Phase
  inspected : Moment σ
  errors : List Error
  left : List OwnedObject
  applied : Activity.owning []
    (Check.run "fixtures" (Lifecycle.applyAll r.files r.collaborators.fixtures s.fixtures)) m =
      some (.ok (setup, owned), begun)
  inspection : Inspected r s setup begun checks phases inspected
  removed : Activity.owning owned (Lifecycle.teardown r.collaborators.fixtures) inspected =
    some (.ok (errors, left), after)
  report_eq : report = ⟨s.name, .uninitialized :: (phases ++ [.tornDown]),
    checks ++ teardownChecks (after.now - inspected.now) errors⟩

theorem run_parts {report : Report} (ran : s.run r m = some (.ok report, after)) :
    Nonempty (Parts r s m report after) := by
  obtain ⟨⟨setup, owned⟩, begun, applied, gating⟩ := Activity.bind_ok.1 ran
  obtain ⟨middle, inspected, gated, starting⟩ := Activity.bind_ok.1 gating
  obtain ⟨start, same, started, removing⟩ := Activity.bind_ok.1 starting
  obtain ⟨⟨⟩, rfl⟩ := Activity.now_some.1 started
  obtain ⟨⟨errors, left⟩, last, removed, stopping⟩ := Activity.bind_ok.1 removing
  obtain ⟨stop, done, stopped, ending⟩ := Activity.bind_ok.1 stopping
  obtain ⟨⟨⟩, rfl⟩ := Activity.now_some.1 stopped
  obtain ⟨⟨⟩, rfl⟩ := Activity.pure_some.1 ending
  obtain ⟨checks, phases, inspection, rfl⟩ := inspect_ok gated
  refine ⟨⟨setup, owned, begun, checks, phases, _, errors, left, applied, inspection,
    removed, ?_⟩⟩
  -- The last phase before the removal is a verdict, so the removal is entered.
  have enters : ∀ checks, (⟨s.name, .uninitialized :: phases, checks⟩ : Report).enter .tornDown =
      ⟨s.name, .uninitialized :: (phases ++ [.tornDown]), checks⟩ := by
    intro all
    cases inspection with
    | unprepared | undiscovered | unready => rfl
    | stepped =>
      unfold verdict
      split <;> rfl
  exact enters _

theorem setup_calls {r : Setting σ} {fixtures : List Fixture} {m begun : Moment (Traced σ)}
    {setup : Check} {owned : List OwnedObject}
    (applied : Activity.owning [] (Check.run "fixtures"
      (Lifecycle.applyAll r.files r.collaborators.fixtures.traced fixtures)) m =
        some (.ok (setup, owned), begun)) :
    ∃ parts result, setup = .ofOutcome "fixtures" (begun.now - m.now) result ∧
      Lifecycle.AppliedAll r.files r.collaborators.fixtures fixtures ⟨m.now, ⟨[], m.world⟩⟩ parts
        result ⟨begun.now, ⟨owned, begun.world⟩⟩ ∧
      begun.world.trace = m.world.trace ++ parts.flatten ∧
      owned.map (·.object) = Trace.created parts.flatten := by
  -- The check catches a panic, and what was owned by then stays owned.
  obtain ⟨answer, left, checked, same⟩ := Activity.owning_some.1 applied
  obtain ⟨result, applied, rfl⟩ := Activity.check_some.1 checked
  simp only [Except.map, Except.ok.injEq, Prod.mk.injEq] at same
  obtain ⟨setup, rfl⟩ := same
  obtain ⟨parts, all⟩ := Lifecycle.applyAll_some applied
  refine ⟨parts, result, setup, all, all.made.trace, ?_⟩
  rw [Lifecycle.created_parts all.length]
  exact congrArg (List.map (·.object)) all.owned

theorem Parts.setup_calls {r : Setting σ} {s : Scenario (Traced σ)} {m after : Moment (Traced σ)}
    {report : Report} (p : Parts r.traced s m report after) :
    ∃ parts result, p.setup = .ofOutcome "fixtures" (p.begun.now - m.now) result ∧
      Lifecycle.AppliedAll r.files r.collaborators.fixtures s.fixtures ⟨m.now, ⟨[], m.world⟩⟩ parts
        result ⟨p.begun.now, ⟨p.owned, p.begun.world⟩⟩ ∧
      p.begun.world.trace = m.world.trace ++ parts.flatten ∧
      p.owned.map (·.object) = Trace.created parts.flatten :=
  Scenario.setup_calls p.applied

theorem Parts.removal_calls {r : Setting σ} {s : Scenario (Traced σ)} {m after : Moment (Traced σ)}
    {report : Report} (p : Parts r.traced s m report after) :
    ∃ t, Lifecycle.GaveUp r.collaborators.fixtures (fun _ => true)
        ⟨p.inspected.now, ⟨p.owned, p.inspected.world⟩⟩ t p.errors
        ⟨after.now, ⟨p.left, after.world⟩⟩ ∧
      after.world.trace = p.inspected.world.trace ++ t ∧
      t.handed = (p.owned.map (·.object)).reverse := by
  obtain ⟨answer, left, ran, same⟩ := Activity.owning_some.1 p.removed
  match answer with
  | .ok errors =>
    simp only [Except.map, Except.ok.injEq, Prod.mk.injEq] at same
    obtain ⟨rfl, rfl⟩ := same
    obtain ⟨t, gone⟩ := Lifecycle.teardown_ok ran
    refine ⟨t, gone, gone.made.trace, ?_⟩
    rw [gone.handed, List.filter_true]
  | .error p => cases same

theorem run_found {p : Report → Moment σ → Bool}
    (found : (s.run r m).any (fun done => done.1.toOption.any (p · done.2)) = true) :
    ∃ report after, s.run r m = some (.ok report, after) ∧ p report after = true := by
  match ran : s.run r m with
  | none => simp [ran] at found
  | some (.error _, _) => simp [ran, Except.toOption] at found
  | some (.ok report, after) =>
    exact ⟨report, after, rfl, by simpa [ran, Except.toOption] using found⟩

end Scenario

end ShareCheck
