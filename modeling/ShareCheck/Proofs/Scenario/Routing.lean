import ShareCheck.Proofs.Fixture
import ShareCheck.Proofs.Lifecycle.Pace
import ShareCheck.Proofs.Scenario.Refusal

set_option autoImplicit false

namespace ShareCheck

variable {σ : Type}

def Operation.target? : Operation → Option Target
  | .list t _ => some t
  | .put t _ _ _ => some t
  | .get t _ _ => some t
  | .delete t _ _ => some t
  | _ => none

/-! ### Calls that have something in common -/

def Trace.Only (start : Trace) (p : Operation → Prop) (u : Trace) : Prop :=
  ∃ v, u = start ++ v ∧ ∀ e ∈ v, p e.operation

section

variable {start u : Trace} {p : Operation → Prop}

theorem Trace.Only.nothing (t : Trace) (p : Operation → Prop) : t.Only p t :=
  ⟨[], (List.append_nil _).symm, nofun⟩

theorem Trace.Only.snoc (only : start.Only p u) {e : Entry} (here : p e.operation) :
    start.Only p (u ++ [e]) := by
  obtain ⟨v, rfl, all⟩ := only
  refine ⟨v ++ [e], List.append_assoc .., List.forall_mem_append.2 ⟨all, ?_⟩⟩
  exact List.forall_mem_singleton.2 here

theorem Call.traced_only {o : Operation} (c : Request σ o.Answer) (here : p o) :
    (Call.traced o c).Keeps fun t => start.Only p t.trace := by
  have kept := Call.traced_keeps (T := start.Only p) (Call.keeps_constant c True)
    fun u e same only => only.snoc (same ▸ here)
  simpa only [and_true] using kept

theorem awaited_only {query : ClusterQuery σ} {ns selector : String} (here : p (.pods ns selector))
    (description : String) (timeout interval reach : Nat) (judge : List Pod → Probe) :
    (waitFor description timeout interval (podsProbe query.traced ns selector judge) reach).Keeps
      fun t => start.Only p t.trace :=
  waitFor_keeps (Call.map_keeps (Call.traced_only _ here) _) description timeout interval reach

theorem verifyEndpoint_only (client : ShareClient σ) (endpoint : Endpoint) (target : Target)
    (timeout : Nat) (credentials : List (Credential × String)) :
    (verifyEndpoint client.traced endpoint target timeout credentials).Keeps
      fun t => start.Only (·.target? = some target) t.trace := by
  refine verifyEndpoint_keeps_trips fun t member s => ?_
  obtain ⟨⟨c, probe⟩, -, rfl⟩ := List.mem_map.1 member
  obtain ⟨call, same⟩ := RoundTrip.call_traced client ⟨target, c, probe⟩ s
  rw [same]
  exact Call.map_keeps (Call.traced_only call (by cases s <;> rfl)) _

end

/-! ### Steps -/

def Endpoint.Asks (config : Config) (share : ShareIdentity) (u : Trace) : Endpoint → Prop
  | .address => ∃ answer,
      u = [.began (.pods config.ns (config.serviceLabel ++ "=" ++ share.name)),
        .ended (.pods config.ns (config.serviceLabel ++ "=" ++ share.name)) answer]
  | _ => u = []

def Endpoint.Finds (config : Config) (share : ShareIdentity) (host : String) (u : Trace) :
    Endpoint → Prop
  | .address => ∃ pod pods,
      u = [.began (.pods config.ns (config.serviceLabel ++ "=" ++ share.name)),
        .ended (.pods config.ns (config.serviceLabel ++ "=" ++ share.name))
          (.ok (.ok (pod :: pods)))] ∧
      pod.status.bind (·.ip) = some host ∧ host ≠ ""
  | .serviceName => u = [] ∧
      host = share.name ++ "." ++ config.ns ++ ".svc." ++ config.clusterDomain
  | .externalName => u = [] ∧ host = share.name ++ "-cluster." ++ config.externalDomain

theorem Endpoint.addressOf_ok {config : Config} {share : ShareIdentity} {pods : List Pod}
    {host : String} (found : addressOf config share pods = .ok host) :
    ∃ pod rest, pods = pod :: rest ∧ pod.status.bind (·.ip) = some host ∧ host ≠ "" := by
  unfold addressOf at found
  split at found
  next => cases found
  next pod rest =>
    refine ⟨pod, rest, rfl, ?_⟩
    split at found
    next ip given =>
      split at found
      next => cases found
      next filled =>
        cases found
        exact ⟨given, fun empty => filled (by rw [empty]; rfl)⟩
    next => cases found

theorem Endpoint.resolve_asks {query : ClusterQuery σ} {config : Config} {share : ShareIdentity}
    {endpoint : Endpoint} {r : Except Panic (Except Error String)} {m after : Moment (Traced σ)}
    (ran : endpoint.resolve query.traced config share m = some (r, after)) :
    ∃ u, after.world.trace = m.world.trace ++ u ∧ endpoint.Asks config share u ∧
      ∀ host, r = .ok (.ok host) → endpoint.Finds config share host u := by
  cases endpoint with
  | address =>
    obtain ⟨pods, mid, listed, ended⟩ | ⟨e, listed, rfl⟩ | ⟨p, listed, rfl⟩ :=
      Activity.andThen_some.1 ran
    next =>
      obtain ⟨rfl, rfl⟩ := Activity.pure_some.1 ended
      refine ⟨_, Activity.perform_traced (o := .pods _ _) listed, ⟨_, rfl⟩, fun host found => ?_⟩
      obtain ⟨pod, rest, rfl, known⟩ := addressOf_ok (Except.ok.inj found)
      exact ⟨pod, rest, rfl, known⟩
    next => exact ⟨_, Activity.perform_traced (o := .pods _ _) listed, ⟨_, rfl⟩, nofun⟩
    next => exact ⟨_, Activity.perform_traced (o := .pods _ _) listed, ⟨_, rfl⟩, nofun⟩
  | serviceName =>
    obtain ⟨rfl, rfl⟩ := Activity.pure_some.1 ran
    refine ⟨[], (List.append_nil _).symm, rfl, ?_⟩
    rintro host ⟨⟩
    exact ⟨rfl, rfl⟩
  | externalName =>
    obtain ⟨rfl, rfl⟩ := Activity.pure_some.1 ran
    refine ⟨[], (List.append_nil _).symm, rfl, ?_⟩
    rintro host ⟨⟩
    exact ⟨rfl, rfl⟩

namespace Step

/-- The calls of a step. The round trips of one step all use the host that it has found itself, and
events are looked up for the identity that was answered right before. -/
def Kind.Routes (config : Config) (share : ShareIdentity) (shareName : String) (u : Trace) :
    Kind → Prop
  | .podsReady => ∀ e ∈ u,
      e.operation = .pods config.ns (config.serviceLabel ++ "=" ++ share.name)
  | .access endpoint => endpoint.Asks config share u ∨
      ∃ host looked calls, u = looked ++ calls ∧ endpoint.Finds config share host looked ∧
        ∀ e ∈ calls, e.operation.target? = some ⟨host, shareName⟩
  | .events _ => ∃ reference answer calls,
      reference = ⟨config.shareApiVersion, config.shareKind, share.ns, share.name⟩ ∧
      u = [.began (.identity reference), .ended (.identity reference) answer] ++ calls ∧
      (calls = [] ∨ ∃ identity given, answer = .ok (.ok identity) ∧
        calls = [.began (.events share.ns identity.eventSelector),
          .ended (.events share.ns identity.eventSelector) given])
  | .dnsContainers => ∃ answer,
      u = [.began (.pods config.ns (config.serviceLabel ++ "=" ++ share.name)),
        .ended (.pods config.ns (config.serviceLabel ++ "=" ++ share.name)) answer]
  | .loadBalancer => ∃ answer,
      u = [.began (.services config.ns (config.serviceLabel ++ "=" ++ share.name)),
        .ended (.services config.ns (config.serviceLabel ++ "=" ++ share.name)) answer]

variable {r : Scenario.Setting σ} {s : Scenario (Traced σ)} {m after : Moment (Traced σ)}
  {checks : List Check}

theorem access_routes {endpoint : Endpoint}
    (ran : (access endpoint).run (r.traced.context s) m = some (.ok checks, after)) :
    ∃ u, after.world.trace = m.world.trace ++ u ∧
      Kind.Routes r.config s.share s.shareName u (.access endpoint) := by
  obtain ⟨settled, resolved, mid, silent, found, ended⟩ := access_ran ran
  obtain ⟨u, trace, asks, finds⟩ := Endpoint.resolve_asks found
  rw [silent] at trace
  obtain ⟨e, -, rfl, -⟩ | ⟨p, -, rfl⟩ | ⟨host, drawn, last, rfl, -, still, used⟩ := ended
  next => exact ⟨u, trace, .inl asks⟩
  next => exact ⟨u, trace, .inl asks⟩
  next =>
    obtain ⟨v, goes, all⟩ := verifyEndpoint_only _ _ _ _ _ _ _ _ used (.nothing last.world.trace _)
    refine ⟨u ++ v, by rw [goes, still, trace, List.append_assoc], .inr ?_⟩
    exact ⟨host, u, v, rfl, finds host rfl, all⟩

theorem events_routes {expected : Tally} {r : Except Panic (Except Error Tally)} {config : Config}
    {share : ShareIdentity} (shareName : String) {query : ClusterQuery σ}
    (ran : EventTrail.verify query.traced config share expected m = some (r, after)) :
    ∃ u, after.world.trace = m.world.trace ++ u ∧
      Kind.Routes config share shareName u (.events expected) := by
  obtain ⟨identity, mid, told, rest⟩ | ⟨e, told, rfl⟩ | ⟨p, told, rfl⟩ :=
    Activity.andThen_some.1 ran
  next =>
    have first := Activity.perform_traced (o := .identity _) told
    obtain ⟨given, listed⟩ := Activity.andThen_pure_some rest
    have second := Activity.perform_traced (o := .events _ _) listed
    rw [first, List.append_assoc] at second
    exact ⟨_, second, _, _, _, rfl, rfl, .inr ⟨identity, given, rfl, rfl⟩⟩
  next => exact ⟨_, Activity.perform_traced (o := .identity _) told, _, _, [], rfl, rfl, .inl rfl⟩
  next => exact ⟨_, Activity.perform_traced (o := .identity _) told, _, _, [], rfl, rfl, .inl rfl⟩

theorem Kind.run_routes {kind : Kind}
    (ran : kind.step.run (r.traced.context s) m = some (.ok checks, after)) :
    ∃ u, after.world.trace = m.world.trace ++ u ∧ kind.Routes r.config s.share s.shareName u := by
  cases kind with
  | podsReady =>
    obtain ⟨outcome, waited, -⟩ := check_ran ran
    exact awaited_only (p := (· = .pods _ _)) rfl _ _ _ _ _ m outcome after waited (.nothing _ _)
  | access endpoint => exact access_routes ran
  | events expected =>
    obtain ⟨outcome, worked, -⟩ := check_ran ran
    obtain ⟨answer, verified⟩ := Activity.andThen_pure_some worked
    exact events_routes s.shareName verified
  | dnsContainers =>
    obtain ⟨outcome, worked, -⟩ := check_ran ran
    obtain ⟨pod, found⟩ := Activity.andThen_pure_some worked
    obtain ⟨pods, listed⟩ := Activity.andThen_pure_some found
    exact ⟨_, Activity.perform_traced (o := .pods _ _) listed, pods, rfl⟩
  | loadBalancer =>
    obtain ⟨outcome, worked, -⟩ := check_ran ran
    obtain ⟨services, listed⟩ := Activity.andThen_pure_some worked
    exact ⟨_, Activity.perform_traced (o := .services _ _) listed, services, rfl⟩

theorem Kind.run_calm (kind : Kind) (c : StepContext σ) : (kind.step.run c).Calm := by
  -- A step catches the panics of its work, and there always is some.
  obtain ⟨work, works⟩ : ∃ work, kind.step.work c = .ok work := by cases kind <;> exact ⟨_, rfl⟩
  intro m r after ran
  simp only [Step.run, works] at ran
  split at ran
  next => exact ⟨_, by cases ran; rfl⟩
  next => exact ⟨_, by cases ran; rfl⟩
  next => cases ran

theorem runAll_calm (kinds : List Kind) (c : StepContext σ) :
    (runAll c (kinds.map Kind.step)).Calm := by
  induction kinds with
  | nil => exact Activity.pure_calm _
  | cons kind kinds ih =>
    exact Activity.bind_calm (kind.run_calm c) fun _ => Activity.bind_calm ih fun _ =>
      Activity.pure_calm _

end Step

/-! ### Fixtures -/

def FixtureObject.StandsIn (files : Files) (fs : List Fixture) (o : FixtureObject) : Prop :=
  ∃ f ∈ fs, (∃ os, f.load files = .ok os ∧ o ∈ os) ∧ o.BelongsTo f.ns

theorem FixtureObject.StandsIn.of_declared {files : Files} {fs : List Fixture} {o : FixtureObject}
    (member : o ∈ declared files fs) : o.StandsIn files fs := by
  obtain ⟨f, among, loads⟩ := List.mem_flatMap.1 member
  match loaded : f.load files with
  | .ok os =>
    rw [loaded] at loads
    exact ⟨f, among, ⟨os, loaded, loads⟩, Fixture.load_belong loaded o loads⟩
  | .error e =>
    rw [loaded] at loads
    cases loads

namespace Scenario

variable {r : Setting σ} {m after : Moment (Traced σ)}

theorem setup_routes {fixtures : List Fixture} {setup : Check} {owned : List OwnedObject}
    (applied : Activity.owning [] (Check.run "fixtures"
      (Lifecycle.applyAll r.files r.collaborators.fixtures.traced fixtures)) m =
        some (.ok (setup, owned), after)) :
    ∃ u, after.world.trace = m.world.trace ++ u ∧
      (∀ e ∈ u, ∃ o : FixtureObject, o.StandsIn r.files fixtures ∧ e.operation = .ensure o) ∧
      ∀ o ∈ owned.map (·.object), o.StandsIn r.files fixtures := by
  obtain ⟨parts, result, -, all, trace, objects⟩ := setup_calls applied
  have asked := requested_declared all.length all.requested
  refine ⟨_, trace, fun e member => ?_, fun o member => ?_⟩
  next =>
    obtain ⟨o, requested, same⟩ | ⟨o, handed, -⟩ := all.made.calls.asked e member
    next => exact ⟨o, .of_declared (asked.subset requested), same⟩
    next => exact absurd handed (all.handed ▸ List.not_mem_nil)
  next =>
    rw [objects] at member
    have requested := all.made.calls.created_requested.subset member
    exact .of_declared (asked.subset requested)

theorem removal_routes {client : FixtureClient σ} {fixtures : List Fixture}
    {owned : List OwnedObject} {answer : Except Panic (List Error × List OwnedObject)}
    (stand : ∀ o ∈ owned.map (·.object), o.StandsIn r.files fixtures)
    (removed : Activity.owning owned (Lifecycle.teardown client.traced) m =
      some (answer, after)) :
    ∃ u, after.world.trace = m.world.trace ++ u ∧
      ∀ e ∈ u, ∃ o : FixtureObject, o.StandsIn r.files fixtures ∧ e.operation = .remove o := by
  obtain ⟨outcome, left, torn, -⟩ := Activity.owning_some.1 removed
  obtain ⟨u, made, -, unasked, handed, -⟩ := Lifecycle.teardown_some torn
  refine ⟨u, made.trace, fun e member => ?_⟩
  obtain ⟨o, requested, -⟩ | ⟨o, among, same⟩ := made.calls.asked e member
  next => exact absurd requested (unasked ▸ List.not_mem_nil)
  next => exact ⟨o, stand o (List.mem_reverse.1 (handed.subset among)), same⟩

/-! ### Runs -/

def Source.Routes (config : Config) (files : Files) (o : Outline) (u : Trace) : Source → Prop
  | .fixtures => ∀ e ∈ u, ∃ x : FixtureObject, x.StandsIn files o.fixtures ∧
      e.operation = .ensure x
  | .waiting => ∀ e ∈ u,
      e.operation = .pods config.ns (config.serviceLabel ++ "=" ++ o.share.name)
  | .step kind => kind.Routes config o.share o.shareName u
  | .removal => ∀ e ∈ u, ∃ x : FixtureObject, x.StandsIn files o.fixtures ∧
      e.operation = .remove x

variable {o : Outline}

theorem Source.Leads.routes {source : Source} {checks : List Check}
    (leads : source.Leads r o.scenario m checks after) (early : source ≠ .removal) :
    ∃ u, after.world.trace = m.world.trace ++ u ∧ source.Routes r.config r.files o u := by
  cases source with
  | fixtures =>
    obtain ⟨setup, owned, -, applied⟩ := leads
    obtain ⟨u, trace, all, -⟩ := setup_routes applied
    exact ⟨u, trace, all⟩
  | waiting =>
    obtain ⟨name, description, timeout, judge, found, -, checked⟩ := leads
    exact Activity.check_keeps (awaited_only (p := (· = .pods _ _)) rfl _ _ _ _ _) m _ after checked
      (.nothing _ _)
  | step kind => exact Step.Kind.run_routes leads
  | removal => exact absurd rfl early

theorem Went.routes {parts : List Part} (went : Went r o.scenario m parts after) :
    ∀ part ∈ parts, part.source ≠ .removal →
      part.source.Routes r.config r.files o part.calls := by
  induction went with
  | nowhere => exact nofun
  | @on m mid after part parts leads trace _ ih =>
    refine List.forall_mem_cons.2 ⟨fun early => ?_, ih⟩
    obtain ⟨u, goes, routes⟩ := leads.routes early
    rwa [List.append_cancel_left (goes.symm.trans trace)] at routes

theorem not_removal {kinds : List Step.Kind} {sources : List Source}
    (order : [.fixtures] ++ sources ++ [.removal] ∈ orders kinds) :
    ∀ source ∈ sources, source ≠ .removal := by
  obtain ⟨between, among, same⟩ : ∃ between ∈ [[], [.waiting], [.waiting, .waiting],
      [.waiting, .waiting] ++ kinds.map Source.step],
      [.fixtures] ++ between ++ [.removal] = [.fixtures] ++ sources ++ [.removal] :=
    (List.mem_map (f := fun between => [Source.fixtures] ++ between ++ [.removal])).1 order
  obtain rfl := List.append_cancel_left (List.append_cancel_right same)
  simp only [List.mem_cons, List.not_mem_nil, or_false] at among
  obtain rfl | rfl | rfl | rfl := among <;> simp

section

variable {s : Scenario σ} {m after : Moment σ} {kinds : List Step.Kind}

theorem gate_calm (check : Check) (report : Report) (phase : Phase)
    {rest : Report → Activity σ Report} (calm : ∀ report, (rest report).Calm) :
    (gate check report phase rest).Calm :=
  gate_relates Activity.calm_composes check phase rest rest calm report

theorem inspect_calm (steps : s.steps = kinds.map Step.Kind.step) (report : Report) :
    (inspect r s report).Calm := by
  refine Activity.bind_calm (Activity.check_calm _ _) fun found => ?_
  refine gate_calm _ _ _ fun report => ?_
  refine Activity.bind_calm (Activity.check_calm _ _) fun ready => ?_
  refine gate_calm _ _ _ fun report => ?_
  unfold verify
  rw [steps]
  exact Activity.bind_calm (Step.runAll_calm kinds _) fun _ => Activity.pure_calm _

theorem run_some {outcome : Except Panic Report} (steps : s.steps = kinds.map Step.Kind.step)
    (ran : s.run r m = some (outcome, after)) :
    ∃ setup owned begun checks phases middle answer,
      Activity.owning [] (Check.run "fixtures"
        (Lifecycle.applyAll r.files r.collaborators.fixtures s.fixtures)) m =
          some (.ok (setup, owned), begun) ∧
      Inspected r s setup begun checks phases middle ∧
      Activity.owning owned (Lifecycle.teardown r.collaborators.fixtures) middle =
        some (answer, after) := by
  have setups := Activity.owning_calm (Activity.check_calm "fixtures"
    (Lifecycle.applyAll r.files r.collaborators.fixtures s.fixtures)) []
  obtain ⟨⟨setup, owned⟩, begun, applied, gating⟩ := setups.bind_some ran
  have gates := gate_calm setup ⟨s.name, [.uninitialized], []⟩ .fixturesApplied
    (inspect_calm (r := r) steps)
  obtain ⟨report, middle, gated, starting⟩ := gates.bind_some gating
  obtain ⟨checks, phases, inspection, -⟩ := inspect_ok gated
  obtain ⟨start, now, started, removing⟩ := Activity.now_calm.bind_some starting
  obtain ⟨-, rfl⟩ := Activity.now_some.1 started
  refine ⟨setup, owned, begun, checks, phases, now, ?_⟩
  obtain ⟨answer, last, removed, stopping⟩ | ⟨p, removed, -⟩ := Activity.bind_some.1 removing
  next =>
    obtain ⟨stop, done, stopped, ending⟩ := Activity.now_calm.bind_some stopping
    obtain ⟨-, rfl⟩ := Activity.now_some.1 stopped
    obtain ⟨-, rfl⟩ := Activity.pure_some.1 ending
    exact ⟨_, applied, inspection, removed⟩
  next => exact ⟨_, applied, inspection, removed⟩

end

theorem traced_routed {outcome : Except Panic Report} {m after : Moment (Traced σ)}
    (ran : o.scenario.run r.traced m = some (outcome, after)) :
    ∃ parts : List (Source × Trace),
      after.world.trace = m.world.trace ++ parts.flatMap (·.2) ∧
      parts.map (·.1) ∈ orders o.kinds ∧
      ∀ part ∈ parts, part.1.Routes r.config r.files o part.2 := by
  have steps : (o.scenario : Scenario (Traced σ)).steps = o.kinds.map Step.Kind.step := rfl
  obtain ⟨setup, owned, begun, checks, phases, middle, answer, applied, inspection, removed⟩ :=
    run_some steps ran
  obtain ⟨first, begins, asked, stand⟩ := setup_routes applied
  obtain ⟨parts, went, order, -⟩ := inspection_went steps inspection
  obtain ⟨last, ends, given⟩ := removal_routes stand removed
  refine ⟨[(.fixtures, first)] ++ parts.map (fun part => (part.source, part.calls)) ++
    [(.removal, last)], ?_, by simpa [Function.comp_def] using order, ?_⟩
  next =>
    rw [ends, went.trace, begins]
    simp [List.flatMap_map]
  next =>
    have early part (member : part ∈ parts) : part.source ≠ .removal :=
      not_removal order _ (List.mem_map_of_mem member)
    refine List.forall_mem_append.2 ⟨List.forall_mem_append.2 ⟨?_, ?_⟩, ?_⟩
    · exact List.forall_mem_singleton.2 asked
    · exact List.forall_mem_map.2 fun part member => went.routes part member (early part member)
    · exact List.forall_mem_singleton.2 given

theorem run_routed (r : Setting σ) (o : Outline) (now : Nat) (w : σ)
    (outcome : Except Panic Report) (after : Moment σ)
    (ran : o.scenario.run r ⟨now, w⟩ = some (outcome, after)) :
    ∃ u, o.scenario.run r.traced ⟨now, ⟨[], w⟩⟩ =
        some (outcome, ⟨after.now, ⟨u, after.world⟩⟩) ∧
      ∃ parts : List (Source × Trace), u = parts.flatMap (·.2) ∧
        parts.map (·.1) ∈ orders o.kinds ∧
        ∀ part ∈ parts, part.1.Routes r.config r.files o part.2 := by
  have traced := run_traced r o.name o.shareName o.share o.fixtures o.credentials o.kinds
  let start : Moment (Traced σ) := ⟨now, ⟨[], w⟩⟩
  obtain ⟨⟨_, ⟨u, _⟩⟩, ended, rfl⟩ := traced.some (m := start) ran
  obtain ⟨parts, trace, order, routes⟩ := traced_routed ended
  exact ⟨u, ended, parts, trace, order, routes⟩

/-! ### A share, a workload and a fixture apart -/

open Scripted

def abroad : Outline :=
  ⟨"visit", ⟨"shares", "one"⟩, "One", [⟨⟨"a.yaml"⟩, "vault"⟩], [⟨"user", "secret"⟩],
    Step.baseKinds ++ [.access .externalName, .dnsContainers, .loadBalancer]⟩

def visited (t : Trace) : List String :=
  t.filterMap fun
    | .began (.ensure o) => some o.ns
    | .began (.remove o) => some o.ns
    | .began (.pods ns _) => some ns
    | .began (.services ns _) => some ns
    | .began (.events ns _) => some ns
    | .began (.identity r) => some r.ns
    | .began o => o.target?.map (·.host)
    | .ended _ _ => none

theorem run_routed_abroad :
    ∃ outcome, ∃ after : Moment World, ∃ u, ∃ parts : List (Source × Trace),
      abroad.scenario.run setting ⟨0, healthy⟩ = some (outcome, after) ∧
      (visited u).eraseDups =
        ["vault", "samba-operator-system", "10.0.0.1",
          "one.samba-operator-system.svc.cluster.local", "shares",
          "one-cluster.domain1.sink.test"] ∧
      u = parts.flatMap (·.2) ∧
      ∀ part ∈ parts, part.1.Routes setting.config setting.files abroad part.2 := by
  obtain ⟨report, after, ran, -⟩ := run_found (s := abroad.scenario) (r := setting)
    (m := ⟨0, healthy⟩) (p := fun _ _ => true) (by decide +kernel)
  obtain ⟨u, traced, parts, all, -, routes⟩ := run_routed setting abroad 0 healthy _ after ran
  have seen : (abroad.scenario.run setting.traced ⟨0, ⟨[], healthy⟩⟩).map
      (fun done => (visited done.2.world.trace).eraseDups) =
        some ["vault", "samba-operator-system", "10.0.0.1",
          "one.samba-operator-system.svc.cluster.local", "shares",
          "one-cluster.domain1.sink.test"] := by
    decide +kernel
  rw [traced] at seen
  exact ⟨_, after, u, parts, ran, Option.some.inj seen, all, routes⟩

end Scenario

end ShareCheck
