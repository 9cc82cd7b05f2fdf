import ShareCheck.Proofs.Lifecycle.Pace
import ShareCheck.Proofs.Pace
import ShareCheck.Proofs.Scenario.Parts
import ShareCheck.Proofs.Scenario.Projection
import ShareCheck.Proofs.Scripted.World

set_option autoImplicit false

namespace ShareCheck

variable {σ : Type}

namespace Step

def Kind.Served (most : Nat) (c : StepContext σ) (m : Moment σ) : Kind → Prop
  | .access .address => (Activity.perform (c.query.pods c.config.ns c.selector)).Ends most m
  | .events _ =>
    (Activity.perform (c.query.identity (EventTrail.reference c.config c.share))).Ends most m ∧
      ∀ identity mid,
        Activity.perform (c.query.identity (EventTrail.reference c.config c.share)) m =
          some (.ok (.ok identity), mid) →
        (Activity.perform (c.query.events c.share.ns identity.eventSelector)).Ends most mid
  | .dnsContainers => (Activity.perform (c.query.pods c.config.ns c.selector)).Ends most m
  | .loadBalancer => (Activity.perform (c.query.services c.config.ns c.selector)).Ends most m
  | _ => True

def Kind.span (most : Nat) (config : Config) : Kind → Nat
  | .podsReady => config.readyTimeout + config.pollInterval
  | .access .address => most + config.accessTimeout
  | .access .serviceName => config.accessTimeout
  | .access .externalName => config.dnsSettleDelay + config.accessTimeout
  | .events _ => 2 * most
  | .dnsContainers => most
  | .loadBalancer => most

open Activity

variable {most : Nat} {c : StepContext σ} {m : Moment σ}

theorem drawProbes_prompt (suffix : σ → UInt32 × σ) (credentials : List Credential) (m : Moment σ) :
    (drawProbes suffix credentials).Prompt 0 m := by
  induction credentials generalizing m with
  | nil => exact pure_prompt _ 0
  | cons c cs ih =>
    have drawn := bind_prompt (change_prompt (m := m) suffix) fun n mid _ =>
      bind_pure_prompt ((c, probeName n) :: ·) (ih mid)
    exact drawn.mono (Nat.le_refl 0)

theorem settle_prompt (endpoint : Endpoint) (delay : Nat) (m : Moment σ) :
    (settle endpoint delay).Prompt (if endpoint = .externalName then delay else 0) m := by
  unfold settle
  split
  next => exact sleep_prompt delay
  next => exact pure_prompt () 0

def EndsIn (most : Nat) (c : StepContext σ) (s : Step σ) (m : Moment σ) : Prop :=
  ∃ work, s.work c = .ok work ∧ work.Ends most m

theorem run_prompt {s : Step σ} (ends : s.EndsIn most c m) : (s.run c).Prompt most m := by
  -- A step catches the panics of what it awaits.
  obtain ⟨work, works, outcome, after, worked, intime⟩ := ends
  unfold Activity.Prompt run
  rw [works]
  cases outcome with
  | ok checks => exact ⟨checks, after, by simp only [worked], intime⟩
  | error p => exact ⟨[s.panicked (after.now - m.now)], after, by simp only [worked], intime⟩

theorem check_ends {name : String} {work : StepContext σ → Activity σ (Except Error Unit)}
    (ends : (work c).Ends most m) : (check name work).EndsIn most c m :=
  ⟨_, rfl, bind_ends (check_prompt name ends).ends fun _ _ _ => (pure_prompt _ 0).ends⟩

theorem access_ends {endpoint : Endpoint} (lookup : Nat)
    (resolved : ∀ mid, settle endpoint c.config.dnsSettleDelay m = some (.ok (), mid) →
      (endpoint.resolve c.query c.config c.share).Ends lookup mid) :
    (access endpoint).EndsIn ((if endpoint = .externalName then c.config.dnsSettleDelay else 0) +
      (lookup + c.config.accessTimeout)) c m := by
  refine ⟨_, rfl, bind_ends (settle_prompt endpoint _ m).ends fun _ mid settled => ?_⟩
  refine bind_ends (resolved mid settled) fun host last _ => ?_
  match host with
  | .error e => exact (pure_prompt _ _).ends
  | .ok host =>
    have drawn := drawProbes_prompt c.suffix c.credentials last
    refine (bind_ends drawn.ends fun credentials after _ => ?_).mono (Nat.le_of_eq (Nat.zero_add _))
    exact (verifyEndpoint_prompt c.shares endpoint _ _ credentials after).ends

theorem EndsIn.mono {s : Step σ} {more : Nat} (ends : s.EndsIn most c m) (le : most ≤ more) :
    s.EndsIn more c m := by
  obtain ⟨work, works, ends⟩ := ends
  exact ⟨work, works, ends.mono le⟩

theorem Kind.step_ends (pos : 0 < c.config.pollInterval) {kind : Kind}
    (served : kind.Served most c m) : kind.step.EndsIn (kind.span most c.config) c m := by
  match kind with
  | .podsReady => exact check_ends (waitFor_ends pos _ _ _ _ m)
  | .access .address =>
    refine (access_ends most fun mid settled => ?_).mono (by simp [span])
    obtain ⟨-, rfl⟩ := pure_some.1 settled
    exact andThen_pure_ends _ served
  | .access .serviceName =>
    refine (access_ends 0 fun mid _ => ?_).mono (by simp [span])
    exact (pure_prompt _ 0).ends
  | .access .externalName =>
    refine (access_ends 0 fun mid _ => ?_).mono (by simp [span])
    exact (pure_prompt _ 0).ends
  | .events expected =>
    have looked := andThen_ends served.1 fun identity mid told =>
      andThen_pure_ends (EventTrail.judge identity.kind c.share expected)
        (served.2 identity mid told)
    exact check_ends (andThen_pure_ends _ (looked.mono (Nat.le_of_eq (Nat.two_mul most).symm)))
  | .dnsContainers => exact check_ends (andThen_pure_ends _ (andThen_pure_ends _ served))
  | .loadBalancer => exact check_ends (andThen_pure_ends _ served)

theorem runAll_prompt (pos : 0 < c.config.pollInterval) {kinds : List Kind}
    (served : ∀ before kind rest after checks, kinds = before ++ kind :: rest →
      runAll c (before.map Kind.step) m = some (.ok checks, after) → kind.Served most c after) :
    (runAll c (kinds.map Kind.step)).Prompt (kinds.map (·.span most c.config)).sum m := by
  induction kinds generalizing m with
  | nil => exact pure_prompt _ 0
  | cons kind kinds ih =>
    have first := run_prompt (Kind.step_ends pos (served [] kind kinds m [] rfl rfl))
    refine bind_prompt first fun checks mid begun => ?_
    refine bind_pure_prompt _ (ih fun before next rest after others split ran => ?_)
    refine served (kind :: before) next rest after (checks ++ others) (by rw [split]; rfl) ?_
    exact bind_ok.2 ⟨checks, mid, begun, bind_ok.2 ⟨others, after, ran, rfl⟩⟩

end Step

namespace Scenario

open Activity

def Comes (r : Setting σ) (s : Scenario σ) (steps : List (Step σ)) (m after : Moment σ) : Prop :=
  ∃ setup owned begun found mid ready last checks,
    Activity.owning [] (Check.run "fixtures"
      (Lifecycle.applyAll r.files r.collaborators.fixtures s.fixtures)) m =
        some (.ok (setup, owned), begun) ∧ setup.passed = true ∧
    Check.run "pod-exists" (awaitPods r s Step.existsName r.config.existTimeout podExists) begun =
      some (.ok found, mid) ∧ found.passed = true ∧
    Check.run "pod-ready" (awaitPods r s Step.readyName r.config.readyTimeout podReady) mid =
      some (.ok ready, last) ∧ ready.passed = true ∧
    Step.runAll (r.context s) steps last = some (.ok checks, after)

def Outline.span (o : Outline) (most : Nat) (config : Config) : Nat :=
  (config.existTimeout + config.pollInterval) + ((config.readyTimeout + config.pollInterval) +
    (o.kinds.map (·.span most config)).sum)

section

variable {most more : Nat} {m : Moment σ}

theorem gate_prompt {check : Check} {report : Report} {phase : Phase}
    {rest : Report → Activity σ Report}
    (prompt : check.passed = true → ∀ report, (rest report).Prompt most m) :
    (gate check report phase rest).Prompt most m := by
  unfold gate
  split
  next passed => exact prompt passed _
  next => exact pure_prompt _ most

theorem gated_prompt {r : Setting σ} {o : Outline} {begun : Moment σ} {setup : Check}
    {owned : List OwnedObject} (pos : 0 < r.config.pollInterval)
    (applied : Activity.owning [] (Check.run "fixtures"
      (Lifecycle.applyAll r.files r.collaborators.fixtures o.fixtures)) m =
        some (.ok (setup, owned), begun))
    (served : ∀ before kind rest after, o.kinds = before ++ kind :: rest →
      Comes r o.scenario (before.map Step.Kind.step) m after →
      kind.Served most (r.context o.scenario) after) (report : Report) :
    (gate setup report .fixturesApplied (inspect r o.scenario)).Prompt (o.span most r.config)
      begun := by
  refine gate_prompt fun prepared report => ?_
  refine bind_prompt (check_prompt _ (waitFor_ends pos _ _ _ _ _)) fun found mid looked => ?_
  refine gate_prompt fun discovered report => ?_
  refine bind_prompt (check_prompt _ (waitFor_ends pos _ _ _ _ _)) fun ready last waited => ?_
  refine gate_prompt fun isReady report => bind_pure_prompt _ ?_
  refine Step.runAll_prompt pos fun before kind rest after checks split ran => ?_
  exact served before kind rest after split ⟨setup, owned, begun, found, mid, ready, last, checks,
    applied, prepared, looked, discovered, waited, isReady, ran⟩

end

section

variable {I : σ → Prop} {most : Nat}

theorem setup_paced (r : Setting σ) (fixtures : List Fixture) {m : Moment (Traced σ)}
    (prompt : r.collaborators.fixtures.Prompt I most) (holds : I m.world.world) :
    ∃ setup owned begun t,
      Activity.owning [] (Check.run "fixtures"
        (Lifecycle.applyAll r.files r.collaborators.fixtures.traced fixtures)) m =
          some (.ok (setup, owned), begun) ∧
      I begun.world.world ∧ begun.world.trace = m.world.trace ++ t ∧
      begun.now ≤ m.now + most * t.requested.length ∧
      t.requested.Sublist (declared r.files fixtures) ∧ owned.map (·.object) = t.created := by
  obtain ⟨⟨setup, owned⟩, begun, applied, ready⟩ := owning_settles
    (I := fun t : Traced σ => I t.world)
    (check_settles "fixtures" (prompt.relates.applyAll r.files fixtures)) [] m holds
  obtain ⟨parts, result, -, all, trace, objects⟩ := setup_calls applied
  have paced := all.made.calls.paced prompt holds
  rw [all.handed] at paced
  exact ⟨setup, owned, begun, _, applied, ready, trace, paced,
    requested_declared all.length all.requested, objects⟩

theorem removal_paced {client : FixtureClient σ} {m : Moment (Traced σ)}
    (owned : List OwnedObject) (prompt : client.Prompt I most) (holds : I m.world.world) :
    ∃ errors left after t,
      Activity.owning owned (Lifecycle.teardown client.traced) m =
        some (.ok (errors, left), after) ∧
      after.world.trace = m.world.trace ++ t ∧ after.now ≤ m.now + most * owned.length ∧
      t.requested = [] ∧ t.created = [] := by
  obtain ⟨⟨errors, left⟩, after, removed, -⟩ := owning_settles
    (I := fun t : Traced σ => I t.world) prompt.relates.teardown owned m holds
  obtain ⟨answer, rest, torn, same⟩ := owning_some.1 removed
  match answer with
  | .ok errors =>
    cases same
    obtain ⟨t, gone⟩ := Lifecycle.teardown_ok torn
    have paced := gone.made.calls.paced prompt holds
    rw [gone.requested, gone.handed] at paced
    refine ⟨_, _, after, t, removed, gone.made.trace, by simpa using paced, gone.requested,
      gone.created⟩
  | .error p => cases same

end

/-- Setup and removal take the time of their calls, and all between them is bounded by the settings.
No object is asked for that is not declared, and none is removed that was not created. -/
theorem run_paced (r : Setting σ) (o : Outline) (I : σ → Prop) (most now : Nat) (w : σ)
    (pos : 0 < r.config.pollInterval) (kept : r.collaborators.Keeps I)
    (prompt : r.collaborators.fixtures.Prompt I most) (holds : I w)
    (served : ∀ before kind rest after, o.kinds = before ++ kind :: rest →
      Comes r o.scenario (before.map Step.Kind.step) ⟨now, w⟩ after →
      kind.Served most (r.context o.scenario) after) :
    ∃ report after u,
      o.scenario.run r.traced ⟨now, ⟨[], w⟩⟩ = some (.ok report, ⟨after.now, ⟨u, after.world⟩⟩) ∧
      o.scenario.run r ⟨now, w⟩ = some (.ok report, after) ∧
      u.requested.Sublist (declared r.files o.fixtures) ∧
      after.now ≤ now + (most * u.requested.length + o.span most r.config +
        most * u.created.length) := by
  have settings : r.traced.Lifts (.of Traced.world) r :=
    .intro r.config r.files (Collaborators.traced_lifts r.collaborators)
  have fixtures := Lifecycle.lifts_relates r.collaborators.fixtures.traced_lifts
  obtain ⟨setup, owned, begun, t, applied, ready, began, prepared, declared, objects⟩ :=
    setup_paced r o.fixtures (m := ⟨now, ⟨[], w⟩⟩) prompt holds
  have untraced := owning_lifts (check_lifts (fixtures.applyAll r.files o.fixtures) "fixtures") []
    ⟨now, ⟨[], w⟩⟩
  rw [applied] at untraced
  obtain ⟨report, between, inspected, soon⟩ := gated_prompt pos untraced served
    ⟨o.name, [.uninitialized], []⟩
  obtain ⟨last, gated, rfl⟩ := Lifts.some (m := begun) (gate_lifts setup
    ⟨o.name, [.uninitialized], []⟩ .fixturesApplied (inspect_lifts settings o.lifts)) inspected
  obtain ⟨checks, phases, inspection, -⟩ := inspect_ok inspected
  have stands := inspection.keeps kept.query.pods
    (List.forall_mem_map.2 fun kind _ => kind.step_keeps (kept.context o.scenario)) ready
  obtain ⟨errors, left, after, v, removed, gone, ended, unasked, uncreated⟩ :=
    removal_paced (m := last) owned prompt stands
  have ran : o.scenario.run r.traced ⟨now, ⟨[], w⟩⟩ = some (.ok _, after) :=
    run_eq applied gated removed
  have same := run_lifts settings o.lifts ⟨now, ⟨[], w⟩⟩
  rw [ran] at same
  -- What comes between them asks for no objects.
  obtain ⟨checks, phases, inspection, -⟩ := inspect_ok gated
  have undisturbed : Undisturbed r o.scenario fun _ => (∅ : Set Unit) :=
    undisturbed_kinds (fun held => r.collaborators.keeps_constant _) rfl
  obtain ⟨calls, -⟩ := inspection.shows undisturbed
  have asked : after.world.trace.requested = t.requested := by
    rw [gone, Trace.requested_append, unasked, Trace.requested_eq calls, began]
    simp
  have made : after.world.trace.created = owned.map (·.object) := by
    rw [gone, Trace.created_append, uncreated, (Trace.told calls).1, began, objects]
    simp
  refine ⟨_, ⟨after.now, after.world.world⟩, after.world.trace, ran, same, asked ▸ declared, ?_⟩
  rw [asked, made, List.length_map]
  change last.now ≤ begun.now + _ at soon
  simp only at prepared ⊢
  omega

def answering {α : Type} (delay : Nat) (a : α) : Request Nat α := fun _ n =>
  (.lands delay fun n => (.ok (.ok a), n), n)

def stalling : Collaborators Nat where
  query :=
    { pods := fun _ _ now n =>
        (if n = 2 then .never else (answering 7 [Scripted.readyPod] now n).1, n + 1)
      services := fun _ _ => answering 7 []
      events := fun _ _ => answering 7 []
      identity := fun _ => answering 7 ⟨"SmbShare", "one", "1"⟩ }
  fixtures :=
    { ensure := fun _ => Activity.perform (answering 5 .created)
      remove := fun _ => Activity.perform (answering 5 ()) }
  shares :=
    { list := fun _ _ _ n => (.never, n)
      put := fun _ _ _ _ _ n => (.never, n)
      get := fun _ _ _ _ n => (.never, n)
      remove := fun _ _ _ _ n => (.never, n) }
  suffix n := (0, n)

def stallingSetting : Setting Nat := ⟨{}, Lifecycle.oneSecret, stalling⟩

def stalled : Outline :=
  ⟨"visit", ⟨"shares", "one"⟩, "One", [⟨⟨"a.yaml"⟩, "shares"⟩], [⟨"user", "secret"⟩],
    [.podsReady, .access .address, .access .serviceName]⟩

theorem arrives {α : Type} {x : Activity Nat α} {m after : Moment Nat} {r : Except Panic α}
    {now n : Nat} (ran : x m = some (r, after))
    (seen : (x m).map (fun done => (done.2.now, done.2.world)) = some (now, n)) :
    after = ⟨now, n⟩ := by
  rw [ran] at seen
  cases seen
  rfl

theorem stalling_served (before : List Step.Kind) (kind : Step.Kind) (rest : List Step.Kind)
    (after : Moment Nat) (split : stalled.kinds = before ++ kind :: rest)
    (comes : Comes stallingSetting stalled.scenario (before.map Step.Kind.step) ⟨0, 0⟩ after) :
    kind.Served 7 (stallingSetting.context stalled.scenario) after := by
  unfold stalled at split
  match before with
  | [] =>
    cases split
    trivial
  | [first] =>
    cases split
    -- The step before has used up the answer that does not come.
    obtain ⟨setup, owned, begun, found, mid, ready, last, checks, applied, -, looked, -, waited, -,
      ran⟩ := comes
    obtain rfl : begun = ⟨5, 0⟩ := arrives applied (by decide +kernel)
    obtain rfl : mid = ⟨12, 1⟩ := arrives looked (by decide +kernel)
    obtain rfl : last = ⟨19, 2⟩ := arrives waited (by decide +kernel)
    obtain rfl : after = ⟨60269, 3⟩ := arrives ran (by decide +kernel)
    exact ⟨_, _, rfl, Nat.le_refl _⟩
  | [first, second] =>
    cases split
    trivial
  | _ :: _ :: _ :: before => simp at split

theorem run_paced_stalled :
    0 < stallingSetting.config.pollInterval ∧ stalling.Keeps (fun _ => True) ∧
      stalling.fixtures.Prompt (fun _ => True) 7 ∧
      ∃ report, ∃ after : Moment Nat, ∃ u,
        stalled.scenario.run stallingSetting.traced ⟨0, ⟨[], 0⟩⟩ =
          some (.ok report, ⟨after.now, ⟨u, after.world⟩⟩) ∧
        after.now = 120281 ∧
        after.now ≤ 7 * u.requested.length + (10250 + (60250 + (60250 + (30007 + 30000)))) +
          7 * u.created.length := by
  have prompt : stalling.fixtures.Prompt (fun _ => True) 7 :=
    ⟨fun _ m _ => ⟨_, _, rfl, trivial, Nat.add_le_add_left (by decide) m.now⟩,
      fun _ m _ => ⟨_, _, rfl, trivial, Nat.add_le_add_left (by decide) m.now⟩⟩
  obtain ⟨report, after, u, ran, untraced, -, within⟩ := run_paced stallingSetting stalled
    (fun _ => True) 7 0 0 (by decide) (stalling.keeps_constant True) prompt trivial stalling_served
  have seen : (stalled.scenario.run stallingSetting ⟨0, 0⟩).map (·.2.now) = some 120281 := by
    decide +kernel
  rw [untraced] at seen
  refine ⟨by decide, stalling.keeps_constant True, prompt, report, after, u, ran,
    Option.some.inj seen, ?_⟩
  simpa [Outline.span, Step.Kind.span, stalled, stallingSetting] using within

end Scenario

end ShareCheck
