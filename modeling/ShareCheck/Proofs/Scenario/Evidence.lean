import ShareCheck.Proofs.Access.Evidence
import ShareCheck.Proofs.EventTrail
import ShareCheck.Proofs.Poll.Readiness
import ShareCheck.Proofs.Scenario.Parts
import ShareCheck.Proofs.Scenario.Projection
import ShareCheck.Proofs.Scripted.World

set_option autoImplicit false

namespace ShareCheck

variable {σ : Type}

def Trace.Listed (u : Trace) (ns selector : String) (good : List Pod → Prop) : Prop :=
  ∃ pods, good pods ∧ .ended (.pods ns selector) (.ok (.ok pods)) ∈ u

theorem Trace.Listed.later {u : Trace} {ns selector : String} {good : List Pod → Prop}
    (listed : u.Listed ns selector good) (more : Trace) :
    Trace.Listed (u ++ more) ns selector good := by
  obtain ⟨pods, holds, member⟩ := listed
  exact ⟨pods, holds, List.mem_append_left _ member⟩

def Populated (pods : List Pod) : Prop := pods ≠ []

def FirstReady (pods : List Pod) : Prop :=
  ∃ p rest conditions, pods = p :: rest ∧ p.conditions = some conditions ∧ conditions ≠ [] ∧
    ∀ c ∈ conditions, c.status = "True"

theorem podExists_satisfied {selector : String} {pods : List Pod}
    (satisfied : podExists selector pods = .satisfied) : Populated pods := by
  rintro rfl
  cases satisfied

theorem podReady_satisfied {selector : String} {pods : List Pod}
    (satisfied : podReady selector pods = .satisfied) : FirstReady pods := by
  obtain ⟨p, first, conditions, reported, nonempty, all⟩ := (podReady_iff selector pods).1 satisfied
  obtain ⟨rest, rfl⟩ := List.head?_eq_some_iff.1 first
  exact ⟨p, rest, conditions, rfl, reported, nonempty, all⟩

theorem podsProbe_extends (query : ClusterQuery σ) (ns selector : String)
    (judge : List Pod → Probe) (before : Trace) :
    (podsProbe query.traced ns selector judge).Keeps fun t => before <+: t.trace ∧ True :=
  Call.map_keeps (Call.traced_keeps (o := .pods ns selector) (T := (before <+: ·))
    (Call.keeps_constant _ True)
    fun u _ _ goes => goes.trans (List.prefix_append u _)) _

theorem waitFor_listed {query : ClusterQuery σ} {description ns selector : String}
    {timeout interval reach : Nat} {judge : List Pod → Probe} {m after : Moment (Traced σ)}
    (ran : waitFor description timeout interval (podsProbe query.traced ns selector judge) reach m =
      some (.ok (.ok ()), after)) :
    ∃ u, after.world.trace = m.world.trace ++ u ∧
      u.Listed ns selector fun pods => judge pods = .satisfied := by
  have within : timeout + interval ≤ reach := by
    refine Nat.le_of_not_lt fun beyond => ?_
    rw [waitFor_beyond description beyond] at ran
    cases ran
  rw [waitFor_within description within] at ran
  obtain ⟨last, awaited, decided⟩ := pollUntil_some ran
  have evaluated := decided.satisfied_eq
  obtain ⟨goes, -⟩ := awaited.keeps (podsProbe_extends query ns selector judge m.world.trace)
    ⟨List.prefix_refl _, trivial⟩
  obtain ⟨observed, given⟩ | ⟨delay, finish, w, begun, ended, judged⟩ :=
    evaluate_cases (podsProbe query.traced ns selector judge) (m.now + timeout + interval) last
  next => cases given.symm.trans evaluated
  next =>
    have began : w.trace = last.world.trace ++ [.began (.pods ns selector)] := by
      have traced := Call.traced_begins (o := .pods ns selector) (c := query.pods ns selector)
        (f := fun answer => answer.map judge) last.now last.world
      change (podsProbe query.traced ns selector judge last.now last.world).2.trace = _ at traced
      rwa [begun] at traced
    -- Nothing else happens between the beginning of this last call and its landing.
    obtain ⟨answer, result, trace⟩ := Call.traced_lands (o := .pods ns selector) begun w
    have satisfied := result.symm.trans (judged after evaluated)
    rw [evaluated] at ended
    have world : after.world = (finish w).2 := congrArg Moment.world ended
    obtain ⟨u, goes⟩ := goes
    match answer with
    | .ok (.ok pods) =>
      refine ⟨u ++ [.began (.pods ns selector), .ended (.pods ns selector) (.ok (.ok pods))], ?_,
        pods, Except.ok.inj (Except.ok.inj satisfied), by simp⟩
      rw [world, trace, began, ← goes]
      simp
    | .ok (.error e) => cases satisfied
    | .error p => cases satisfied

theorem awaits_populated {query : ClusterQuery σ} {description ns selector : String}
    {timeout interval reach : Nat} {m after : Moment (Traced σ)}
    (ran : waitFor description timeout interval
      (podsProbe query.traced ns selector (podExists selector)) reach m =
        some (.ok (.ok ()), after)) :
    ∃ u, after.world.trace = m.world.trace ++ u ∧ u.Listed ns selector Populated := by
  obtain ⟨u, trace, pods, satisfied, member⟩ := waitFor_listed ran
  exact ⟨u, trace, pods, podExists_satisfied satisfied, member⟩

theorem awaits_ready {query : ClusterQuery σ} {description ns selector : String}
    {timeout interval reach : Nat} {m after : Moment (Traced σ)}
    (ran : waitFor description timeout interval
      (podsProbe query.traced ns selector (podReady selector)) reach m =
        some (.ok (.ok ()), after)) :
    ∃ u, after.world.trace = m.world.trace ++ u ∧ u.Listed ns selector FirstReady := by
  obtain ⟨u, trace, pods, satisfied, member⟩ := waitFor_listed ran
  exact ⟨u, trace, pods, podReady_satisfied satisfied, member⟩

def Endpoint.Leads (config : Config) (share : ShareIdentity) (host : String) (u : Trace) :
    Endpoint → Prop
  | .address => u.Listed config.ns (config.serviceSelector share.name) fun pods =>
      addressOf config share pods = .ok host
  | .serviceName => host = serviceHost share.name config.ns config.clusterDomain
  | .externalName => host = externalHost share.name config.externalDomain

theorem Endpoint.Leads.later {config : Config} {share : ShareIdentity} {host : String} {u : Trace}
    {endpoint : Endpoint} (leads : endpoint.Leads config share host u) (more : Trace) :
    endpoint.Leads config share host (u ++ more) := by
  cases endpoint with
  | address => exact Trace.Listed.later leads more
  | serviceName => exact leads
  | externalName => exact leads

theorem Endpoint.resolve_leads {query : ClusterQuery σ} {config : Config} {share : ShareIdentity}
    {endpoint : Endpoint} {answer : Except Error String} {m after : Moment (Traced σ)}
    (ran : endpoint.resolve query.traced config share m = some (.ok answer, after)) :
    ∃ u, after.world.trace = m.world.trace ++ u ∧
      ∀ host, answer = .ok host → endpoint.Leads config share host u := by
  cases endpoint with
  | address =>
    obtain ⟨pods, mid, listed, ended⟩ | ⟨e, listed, same⟩ | ⟨p, -, same⟩ :=
      Activity.andThen_some.1 ran
    next =>
      obtain ⟨same, rfl⟩ := Activity.pure_some.1 ended
      cases same
      have trace := Activity.perform_traced (o := .pods _ _) listed
      exact ⟨_, trace, fun host found => ⟨pods, found, by simp⟩⟩
    next =>
      cases same
      exact ⟨_, Activity.perform_traced (o := .pods _ _) listed, nofun⟩
    next => cases same
  | serviceName =>
    obtain ⟨same, rfl⟩ := Activity.pure_some.1 ran
    cases same
    exact ⟨[], (List.append_nil _).symm, fun host found => (Except.ok.inj found).symm⟩
  | externalName =>
    obtain ⟨same, rfl⟩ := Activity.pure_some.1 ran
    cases same
    exact ⟨[], (List.append_nil _).symm, fun host found => (Except.ok.inj found).symm⟩

namespace Step

def Kind.Evident (c : StepContext (Traced σ)) (u : Trace) : Kind → Prop
  | .podsReady => u.Listed c.config.ns c.selector FirstReady
  | .access endpoint => ∀ credential ∈ c.credentials, ∃ host probe,
      endpoint.Leads c.config c.share host u ∧
        RoundTrip.Completed ⟨⟨host, c.shareName⟩, credential, probe⟩ u
  | .events expected => ∃ (identity : ResourceIdentity) (events : List Event),
      .ended (.identity (EventTrail.reference c.config c.share)) (.ok (.ok identity)) ∈ u ∧
        .ended (.events c.share.ns identity.eventSelector) (.ok (.ok events)) ∈ u ∧ events ≠ [] ∧
        ∀ reason want, (reason, want) ∈ expected.entries →
          (events.map (·.reason)).count (some reason) = want
  | .dnsContainers => u.Listed c.config.ns c.selector fun pods =>
      ∃ p rest, pods = p :: rest ∧ Workload.checkDnsContainers p = .ok ()
  | .loadBalancer => ∃ services : List Service,
      .ended (.services c.config.ns c.selector) (.ok (.ok services)) ∈ u ∧
        Workload.checkLoadBalancer c.selector services = .ok ()

theorem check_passed {name : String} {σ : Type} {c : StepContext σ}
    {work : StepContext σ → Activity σ (Except Error Unit)} {activity : Activity σ (List Check)}
    {m after : Moment σ} {checks : List Check} (works : (check name work).work c = .ok activity)
    (worked : activity m = some (.ok checks, after)) (passed : ∀ c ∈ checks, c.passed = true) :
    work c m = some (.ok (.ok ()), after) := by
  cases works
  obtain ⟨made, mid, ran, ended⟩ := Activity.bind_ok.1 worked
  obtain ⟨same, rfl⟩ := Activity.pure_some.1 ended
  cases same
  exact Check.run_passed ran (passed _ (List.mem_singleton_self _))

theorem drawProbes_fst {σ : Type} {suffix : σ → UInt32 × σ} {credentials : List Credential}
    {m after : Moment σ} {drawn : List (Credential × String)}
    (ran : drawProbes suffix credentials m = some (.ok drawn, after)) :
    drawn.map (·.1) = credentials := by
  induction credentials generalizing m drawn after with
  | nil =>
    obtain ⟨same, -⟩ := Activity.pure_some.1 ran
    cases same
    rfl
  | cons c cs ih =>
    obtain ⟨n, mid, -, rest⟩ := Activity.bind_ok.1 ran
    obtain ⟨others, last, more, ended⟩ := Activity.bind_ok.1 rest
    obtain ⟨same, -⟩ := Activity.pure_some.1 ended
    cases same
    exact congrArg (c :: ·) (ih more)

variable {r : Scenario.Setting σ} {s : Scenario (Traced σ)} {m after : Moment (Traced σ)}
  {checks : List Check}

theorem access_evident {endpoint : Endpoint} {work : Activity (Traced σ) (List Check)}
    (works : (access endpoint).work (r.traced.context s) = .ok work)
    (worked : work m = some (.ok checks, after)) (passed : ∀ c ∈ checks, c.passed = true) :
    ∃ u, after.world.trace = m.world.trace ++ u ∧
      (Kind.access endpoint).Evident (r.traced.context s) u := by
  cases works
  obtain ⟨⟨⟩, settled, waited, rest⟩ := Activity.bind_ok.1 worked
  obtain ⟨resolved, mid, found, rest⟩ := Activity.bind_ok.1 rest
  have silent := settle_keeps (I := fun t => t.trace = m.world.trace) _ _ _ _ _ waited rfl
  obtain ⟨u, trace, leads⟩ := Endpoint.resolve_leads found
  rw [silent] at trace
  match resolved with
  | .error e =>
    obtain ⟨same, rfl⟩ := Activity.pure_some.1 rest
    cases same
    refine ⟨u, trace, fun credential member => ?_⟩
    -- With a credential to use, an endpoint that leads nowhere is a failed check.
    have failed := passed _ (List.mem_map_of_mem member)
    cases failed
  | .ok host =>
    obtain ⟨drawn, last, drew, used⟩ := Activity.bind_ok.1 rest
    have still := drawProbes_keeps (I := fun t => t.trace = mid.world.trace) (fun _ => id) _ _ _ _
      drew rfl
    obtain ⟨v, goes, completed⟩ := verifyEndpoint_passed used passed
    refine ⟨u ++ v, ?_, fun credential member => ?_⟩
    · rw [goes, still, trace, List.append_assoc]
    · rw [← drawProbes_fst drew] at member
      obtain ⟨⟨c, probe⟩, among, rfl⟩ := List.mem_map.1 member
      refine ⟨host, probe, (leads host rfl).later v, ?_⟩
      exact (completed c probe among).among (List.sublist_append_right u v)

theorem Kind.evident {kind : Kind} {work : Activity (Traced σ) (List Check)}
    (works : kind.step.work (r.traced.context s) = .ok work)
    (worked : work m = some (.ok checks, after)) (passed : ∀ c ∈ checks, c.passed = true) :
    ∃ u, after.world.trace = m.world.trace ++ u ∧ kind.Evident (r.traced.context s) u := by
  cases kind with
  | podsReady => exact awaits_ready (check_passed works worked passed)
  | access endpoint => exact access_evident works worked passed
  | events expected =>
    obtain ⟨observed, mid, verified, ended⟩ :=
      Activity.andThen_ok.1 (check_passed works worked passed)
    obtain ⟨-, rfl⟩ := Activity.pure_some.1 ended
    obtain ⟨identity, named, asked, rest⟩ := Activity.andThen_ok.1 verified
    obtain ⟨events, answered, listed, judged⟩ := Activity.andThen_ok.1 rest
    obtain ⟨same, rfl⟩ := Activity.pure_some.1 judged
    have first := Activity.perform_traced (o := .identity _) asked
    have second := Activity.perform_traced (o := .events _ _) listed
    rw [first, List.append_assoc] at second
    have exact_counts := EventTrail.judge_ok (Except.ok.inj same).symm
    exact ⟨_, second, identity, events, by simp, by simp, exact_counts⟩
  | dnsContainers =>
    obtain ⟨pod, mid, found, ended⟩ := Activity.andThen_ok.1 (check_passed works worked passed)
    obtain ⟨good, rfl⟩ := Activity.pure_some.1 ended
    obtain ⟨pods, answered, listed, picked⟩ := Activity.andThen_ok.1 found
    obtain ⟨same, rfl⟩ := Activity.pure_some.1 picked
    have trace := Activity.perform_traced (o := .pods _ _) listed
    match pods with
    | [] => cases same
    | p :: rest =>
      cases same
      exact ⟨_, trace, pod :: rest, ⟨pod, rest, rfl, (Except.ok.inj good).symm⟩, by simp⟩
  | loadBalancer =>
    obtain ⟨services, mid, listed, ended⟩ :=
      Activity.andThen_ok.1 (check_passed works worked passed)
    obtain ⟨same, rfl⟩ := Activity.pure_some.1 ended
    have trace := Activity.perform_traced (o := .services _ _) listed
    exact ⟨_, trace, services, by simp, (Except.ok.inj same).symm⟩

theorem Ran.evident {kinds : List Kind} {results : List (List Check)}
    (ran : Ran (r.traced.context s) (kinds.map Kind.step) m results after)
    (passed : ∀ c ∈ results.flatten, c.passed = true) :
    ∃ segments, after.world.trace = m.world.trace ++ segments.flatten ∧
      List.Forall₂ (fun kind u => kind.Evident (r.traced.context s) u) kinds segments := by
  induction kinds generalizing m results with
  | nil =>
    cases ran
    exact ⟨[], (List.append_nil _).symm, .nil⟩
  | cons kind kinds ih =>
    cases ran with
    | returned works worked more =>
      obtain ⟨u, trace, evident⟩ := Kind.evident works worked fun c member =>
        passed c (by simp [member])
      obtain ⟨segments, rest, all⟩ := ih more fun c member => passed c (by simp_all)
      refine ⟨u :: segments, ?_, .cons evident all⟩
      rw [rest, trace, List.append_assoc, List.flatten_cons]
    | panicked works worked more =>
      -- A panic leaves a check that failed.
      have failed := passed _ (List.mem_flatten.2 ⟨_, List.mem_cons_self .., List.mem_cons_self ..⟩)
      cases failed

end Step

namespace Scenario

theorem Inspected.backed {r : Setting σ} {s : Scenario (Traced σ)} {kinds : List Step.Kind}
    {setup : Check} {checks : List Check} {phases : List Phase} {m after : Moment (Traced σ)}
    (steps : s.steps = kinds.map Step.Kind.step)
    (inspected : Inspected r.traced s setup m checks phases after)
    (passed : ∀ c ∈ checks, c.passed = true) :
    setup.passed = true ∧ ∃ found ready segments,
      after.world.trace = m.world.trace ++ found ++ ready ++ List.flatten segments ∧
      found.Listed r.config.ns (r.config.serviceSelector s.share.name) Populated ∧
      ready.Listed r.config.ns (r.config.serviceSelector s.share.name) FirstReady ∧
      List.Forall₂ (fun kind u => kind.Evident (r.traced.context s) u) kinds segments := by
  cases inspected with
  | unprepared failed => simp [passed setup] at failed
  | @undiscovered _ found _ _ failed => simp [passed found] at failed
  | @unready _ _ _ ready _ _ _ _ failed => simp [passed ready] at failed
  | stepped prepared looked discovered waited isReady ran =>
    rw [steps] at ran
    obtain ⟨found, first, populated⟩ := awaits_populated (Check.run_passed looked discovered)
    obtain ⟨ready, second, conditions⟩ := awaits_ready (Check.run_passed waited isReady)
    obtain ⟨segments, third, evident⟩ := ran.evident fun c member =>
      passed c (List.mem_append_right _ member)
    refine ⟨prepared, found, ready, segments, ?_, populated, conditions, evident⟩
    rw [third, second, first]

structure Backed (r : Setting σ) (s : Scenario (Traced σ)) (kinds : List Step.Kind) (t : Trace)
    (setup found ready : Trace) (steps : List Trace) (removal : Trace) : Prop where
  trace : t = setup ++ found ++ ready ++ steps.flatten ++ removal
  applied : ∃ loaded : List (List FixtureObject),
    s.fixtures.map (·.load r.files) = loaded.map .ok ∧ setup.ensured = loaded.flatten
  populated : found.Listed r.config.ns (r.config.serviceSelector s.share.name) Populated
  isReady : ready.Listed r.config.ns (r.config.serviceSelector s.share.name) FirstReady
  evident : List.Forall₂ (fun kind u => kind.Evident (r.traced.context s) u) kinds steps
  removed : removal.removed = t.created.reverse

theorem traced_backed {r : Setting σ} {s : Scenario (Traced σ)} {kinds : List Step.Kind}
    {now : Nat} {w : σ} {after : Moment (Traced σ)} {report : Report}
    (steps : s.steps = kinds.map Step.Kind.step)
    (ran : s.run r.traced ⟨now, ⟨[], w⟩⟩ = some (.ok report, after))
    (passed : report.passed = true) :
    ∃ setup found ready steps removal,
      Backed r s kinds after.world.trace setup found ready steps removal := by
  obtain ⟨p⟩ := run_parts ran
  have all : ∀ c ∈ p.checks ++ teardownChecks (after.now - p.inspected.now) p.errors,
      c.passed = true := by
    have checks := congrArg Report.checks p.report_eq
    rw [Report.passed, checks] at passed
    exact List.all_eq_true.1 passed
  have earlier : ∀ c ∈ p.checks, c.passed = true := fun c member =>
    all c (List.mem_append_left _ member)
  -- A removal that failed would be a failed check.
  have clean : p.errors = [] := by
    have last := teardownChecks_passed (after.now - p.inspected.now) p.errors
    rw [List.all_eq_true.2 fun c member => all c (List.mem_append_right _ member)] at last
    exact List.isEmpty_iff.1 last.symm
  obtain ⟨parts, result, setup, applied, first, owned⟩ := p.setup_calls
  obtain ⟨removal, gone, last, given⟩ := p.removal_calls
  obtain ⟨prepared, found, ready, segments, goes, populated, isReady, evident⟩ :=
    p.inspection.backed steps earlier
  rw [setup, Check.ofOutcome_passed] at prepared
  obtain ⟨loaded, same, ensured⟩ := applied.ended prepared
  -- Nothing is created after the setup, and the removal begins with what it created.
  have created : Trace.created after.world.trace = Trace.created parts.flatten := by
    have undisturbed : Undisturbed r _ fun _ => (∅ : Set Unit) :=
      undisturbed_kinds (fun _ => Collaborators.keeps_constant _ _) steps
    obtain ⟨calls, -⟩ := p.inspection.shows undisturbed
    rw [last, Trace.created_append, gone.created, (Trace.told calls).1, first]
    simp
  have unfailing : removal.unremoved = [] := by
    have none := gone.errors.symm.trans clean
    simpa using none
  refine ⟨parts.flatten, found, ready, segments, removal, ?_, ⟨loaded, same, ensured⟩, populated,
    isReady, evident, ?_⟩
  · rw [last, goes, first]
    rfl
  · rw [gone.made.calls.removed_eq gone.requested gone.answered unfailing, given, owned, created]

theorem run_backed (r : Setting σ) (name shareName : String) (share : ShareIdentity)
    (fixtures : List Fixture) (credentials : List Credential) (more : List Step.Kind) (now : Nat)
    (w : σ) (after : Moment σ) (report : Report)
    (ran : (withSteps { name, share, shareName, fixtures, credentials }
      (more.map Step.Kind.step)).run r ⟨now, w⟩ = some (.ok report, after))
    (passed : report.passed = true) :
    ∃ trace, (withSteps { name, share, shareName, fixtures, credentials }
        (more.map Step.Kind.step)).run r.traced ⟨now, ⟨[], w⟩⟩ =
          some (.ok report, ⟨after.now, ⟨trace, after.world⟩⟩) ∧
      ∃ setup found ready steps removal,
        Backed r (withSteps { name, share, shareName, fixtures, credentials }
          (more.map Step.Kind.step)) (Step.baseKinds ++ more) trace
          setup found ready steps removal := by
  have traced := run_traced r name shareName share fixtures credentials (Step.baseKinds ++ more)
  let start : Moment (Traced σ) := ⟨now, ⟨[], w⟩⟩
  obtain ⟨⟨_, ⟨trace, _⟩⟩, ended, rfl⟩ := traced.some (m := start) ran
  exact ⟨trace, ended, traced_backed rfl ended passed⟩

open Scripted in
theorem run_backed_healthy :
    ∃ report after, (withSteps visit ([.access .externalName].map Step.Kind.step)).run
        setting ⟨0, healthy⟩ = some (.ok report, after) ∧ report.passed = true ∧
      ∃ trace setup found ready steps removal,
        Backed setting (withSteps visit ([.access .externalName].map Step.Kind.step))
          (Step.baseKinds ++ [.access .externalName]) trace setup found ready steps removal := by
  obtain ⟨report, after, ran, passed⟩ :=
    run_found (s := withSteps visit ([.access .externalName].map Step.Kind.step))
      (r := setting) (m := ⟨0, healthy⟩) (p := fun report _ => report.passed)
      (by decide +kernel)
  obtain ⟨trace, -, backed⟩ :=
    run_backed setting _ _ _ _ _ [.access .externalName] 0 healthy after report ran passed
  exact ⟨report, after, ran, passed, trace, backed⟩

end Scenario

end ShareCheck
