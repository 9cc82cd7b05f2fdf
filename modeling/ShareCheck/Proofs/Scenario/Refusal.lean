import ShareCheck.Proofs.Access.Refusal
import ShareCheck.Proofs.Scenario.Completion
import ShareCheck.Proofs.Scenario.Evidence

set_option autoImplicit false

namespace ShareCheck

variable {σ : Type}

/-- What was called between two moments. If it was refused, one of the checks fails, unless there is
nothing to check. -/
def Surfaces (refused : Trace → Prop) (idle : Prop) (checks : List Check)
    (m after : Moment (Traced σ)) : Prop :=
  ∃ u, after.world.trace = m.world.trace ++ u ∧
    (refused u → ((∃ made ∈ checks, made.passed = false) ↔ ¬ idle))

def Endpoint.Unresolved (config : Config) (share : ShareIdentity) (u : Trace) : Endpoint → Prop
  | .address => ∃ (pods : List Pod) (rest : Trace),
      u = .began (.pods config.ns (config.serviceSelector share.name)) ::
        .ended (.pods config.ns (config.serviceSelector share.name)) (.ok (.ok pods)) :: rest ∧
      ∀ host, addressOf config share pods ≠ .ok host
  | .serviceName | .externalName => False

theorem Endpoint.resolve_calls {query : ClusterQuery σ} {config : Config} {share : ShareIdentity}
    {endpoint : Endpoint} {r : Except Panic (Except Error String)} {m after : Moment (Traced σ)}
    (ran : endpoint.resolve query.traced config share m = some (r, after)) :
    ∃ u, after.world.trace = m.world.trace ++ u ∧
      ((∃ e, r = .ok (.error e)) ∨
        ¬ u.Refused ∧ ∀ more, ¬ endpoint.Unresolved config share (u ++ more)) := by
  cases endpoint with
  | address =>
    obtain ⟨pods, mid, listed, ended⟩ | ⟨e, listed, rfl⟩ | ⟨p, listed, rfl⟩ :=
      Activity.andThen_some.1 ran
    next =>
      obtain ⟨rfl, rfl⟩ := Activity.pure_some.1 ended
      refine ⟨_, Activity.perform_traced (o := .pods _ _) listed, ?_⟩
      match found : addressOf config share pods with
      | .error e => exact .inl ⟨e, rfl⟩
      | .ok host =>
        refine .inr ⟨by simp [Trace.refused_ended], ?_⟩
        rintro more ⟨others, rest, same, missing⟩
        cases same
        exact missing host found
    next => exact ⟨_, Activity.perform_traced (o := .pods _ _) listed, .inl ⟨e, rfl⟩⟩
    next =>
      refine ⟨_, Activity.perform_traced (o := .pods _ _) listed, .inr ⟨?_, ?_⟩⟩
      · simp [Trace.refused_ended]
      · rintro more ⟨others, rest, same, -⟩
        cases same
  | serviceName | externalName =>
    obtain ⟨rfl, rfl⟩ := Activity.pure_some.1 ran
    exact ⟨[], by simp, .inr ⟨Trace.not_refused_nil, fun _ => id⟩⟩

namespace Step

def Kind.Refused (c : StepContext σ) (u : Trace) : Kind → Prop
  -- A wait goes on after an error.
  | .podsReady => False
  | .access endpoint => u.Refused ∨ endpoint.Unresolved c.config c.share u
  | .events _ | .dnsContainers | .loadBalancer => u.Refused

variable {m after : Moment (Traced σ)} {checks : List Check}

theorem run_outcome {s : Step σ} {c : StepContext σ} {m after : Moment σ}
    (ran : s.run c m = some (.ok checks, after)) :
    ∃ work outcome, s.work c = .ok work ∧ work m = some (outcome, after) ∧
      checks = outcome.toOption.getD [s.panicked (after.now - m.now)] := by
  obtain ⟨work, works, worked | ⟨p, worked, rfl⟩⟩ := run_ok ran
  · exact ⟨work, .ok checks, works, worked, rfl⟩
  · exact ⟨work, .error p, works, worked, rfl⟩

theorem Ran.uncons {s : Step σ} {steps : List (Step σ)} {c : StepContext σ} {m after : Moment σ}
    {results : List (List Check)} (ran : Ran c (s :: steps) m results after) :
    ∃ checks mid rest, s.run c m = some (.ok checks, mid) ∧ Ran c steps mid rest after ∧
      results = checks :: rest := by
  cases ran with
  | returned works worked more =>
    exact ⟨_, _, _, by simp only [Step.run, works, worked], more, rfl⟩
  | panicked works worked more =>
    exact ⟨_, _, _, by simp only [Step.run, works, worked], more, rfl⟩

theorem check_ran {name : String} {c : StepContext σ} {m after : Moment σ}
    {work : StepContext σ → Activity σ (Except Error Unit)}
    (ran : (check name work).run c m = some (.ok checks, after)) :
    ∃ outcome, work c m = some (outcome, after) ∧
      checks = [.ofOutcome name (after.now - m.now) outcome] := by
  obtain ⟨_, ⟨⟩, worked | ⟨p, worked, -⟩⟩ := run_ok ran
  next =>
    obtain ⟨made, mid, checked, ended⟩ := Activity.bind_ok.1 worked
    obtain ⟨⟨⟩, rfl⟩ := Activity.pure_some.1 ended
    obtain ⟨outcome, answered, ⟨⟩⟩ := Activity.check_some.1 checked
    exact ⟨outcome, answered, rfl⟩
  next =>
    obtain ⟨made, mid, -, ended⟩ | ⟨p, checked, -⟩ := Activity.bind_some.1 worked
    next => obtain ⟨⟨⟩, -⟩ := Activity.pure_some.1 ended
    next => obtain ⟨outcome, -, ⟨⟩⟩ := Activity.check_some.1 checked

theorem check_refused {name : String} {c : StepContext (Traced σ)}
    {work : StepContext (Traced σ) → Activity (Traced σ) (Except Error Unit)}
    {idle : Prop} (candid : (work c).Candid Traced.trace)
    (ran : (check name work).run c m = some (.ok checks, after)) (busy : ¬ idle) :
    Surfaces Trace.Refused idle checks m after := by
  obtain ⟨outcome, answered, rfl⟩ := check_ran ran
  obtain ⟨u, trace, fails⟩ := candid m outcome after answered
  refine ⟨u, trace, fun refused => iff_of_true ⟨_, List.mem_singleton_self _, ?_⟩ busy⟩
  rw [← Bool.not_eq_true, Check.ofOutcome_passed]
  exact fails refused ()

theorem unresolved_fails (endpoint : Endpoint) (e : Error) (credentials : List Credential) :
    (∃ made ∈ unresolved endpoint e credentials, made.passed = false) ↔ ¬ credentials = [] := by
  cases credentials <;> simp [unresolved, Except.isOk, Except.toBool]

theorem access_ran {r : Scenario.Setting σ} {s : Scenario (Traced σ)} {endpoint : Endpoint}
    (ran : (access endpoint).run (r.traced.context s) m = some (.ok checks, after)) :
    ∃ settled resolved mid, settled.world.trace = m.world.trace ∧
      endpoint.resolve r.collaborators.query.traced r.config s.share settled =
        some (resolved, mid) ∧
      ((∃ e, resolved = .ok (.error e) ∧ mid = after ∧
          checks = unresolved endpoint e s.credentials) ∨
        (∃ p, resolved = .error p ∧ mid = after) ∨
        ∃ host credentials last, resolved = .ok (.ok host) ∧
          credentials.map (·.1) = s.credentials ∧ last.world.trace = mid.world.trace ∧
          verifyEndpoint r.collaborators.shares.traced endpoint ⟨host, s.shareName⟩
            r.config.accessTimeout credentials last = some (.ok checks, after)) := by
  obtain ⟨_, outcome, ⟨⟩, worked, rfl⟩ := run_outcome ran
  obtain ⟨⟨⟩, settled, waited, rest⟩ := (settle_returns endpoint _).bind_some worked
  have silent := settle_keeps (I := fun t => t.trace = m.world.trace) _ _ _ _ _ waited rfl
  obtain ⟨resolved, mid, found, rest⟩ | ⟨p, found, -⟩ := Activity.bind_some.1 rest
  next =>
    refine ⟨settled, .ok resolved, mid, silent, found, ?_⟩
    match resolved with
    | .error e =>
      obtain ⟨rfl, rfl⟩ := Activity.pure_some.1 rest
      exact .inl ⟨e, rfl, rfl, rfl⟩
    | .ok host =>
      obtain ⟨drawn, last, drew, used⟩ := (drawProbes_returns _ _).bind_some rest
      have still := drawProbes_keeps (I := fun t => t.trace = mid.world.trace) (fun _ => id) _ _ _ _
        drew rfl
      obtain ⟨checks, same⟩ : ∃ checks, outcome = .ok checks := by
        obtain ⟨now, concluded⟩ := verifyEndpoint_conclude (r.traced.context s).shares endpoint
          ⟨host, s.shareName⟩ r.config.accessTimeout drawn last
        cases used.symm.trans concluded
        exact ⟨_, rfl⟩
      subst same
      exact .inr (.inr ⟨host, drawn, last, rfl, drawProbes_fst drew, still, used⟩)
  next => exact ⟨settled, .error p, after, silent, found, .inr (.inl ⟨p, rfl, rfl⟩)⟩

theorem access_refused {r : Scenario.Setting σ} {s : Scenario (Traced σ)} {endpoint : Endpoint}
    (ran : (access endpoint).run (r.traced.context s) m = some (.ok checks, after)) :
    Surfaces (Kind.Refused (r.traced.context s) · (.access endpoint)) (s.credentials = []) checks m
      after := by
  obtain ⟨settled, resolved, mid, silent, found, ended⟩ := access_ran ran
  obtain ⟨u, trace, hidden⟩ := Endpoint.resolve_calls found
  rw [silent] at trace
  obtain ⟨e, rfl, rfl, rfl⟩ | ⟨p, rfl, rfl⟩ | ⟨host, drawn, last, rfl, all, still, used⟩ := ended
  next => exact ⟨u, trace, fun _ => unresolved_fails endpoint e s.credentials⟩
  next =>
    obtain ⟨e, ⟨⟩⟩ | ⟨quiet, leads⟩ := hidden
    refine ⟨u, trace, ?_⟩
    have nowhere := leads []
    rw [List.append_nil] at nowhere
    rintro (refused | lost)
    · exact absurd refused quiet
    · exact absurd lost nowhere
  next =>
    obtain ⟨e, ⟨⟩⟩ | ⟨quiet, leads⟩ := hidden
    obtain ⟨v, made, ⟨⟩, goes, length, fails⟩ := verifyEndpoint_refused used
    refine ⟨u ++ v, by rw [goes, still, trace, List.append_assoc], fun refused => ?_⟩
    have share : v.Refused := by
      obtain refused | lost := refused
      next => simpa [quiet] using refused
      next => exact absurd lost (leads v)
    obtain ⟨check, member, failed⟩ := fails share
    refine iff_of_true ⟨check, member, failed⟩ ?_
    have count := congrArg List.length all
    rw [List.length_map, ← length] at count
    intro none
    exact (List.length_pos_of_mem member).ne' (count.trans (congrArg List.length none))

theorem Kind.run_extends {r : Scenario.Setting σ} {s : Scenario (Traced σ)} {kind : Kind}
    (ran : kind.step.run (r.traced.context s) m = some (.ok checks, after)) :
    m.world.trace <+: after.world.trace := by
  obtain ⟨work, outcome, works, worked, -⟩ := run_outcome ran
  have traced := Collaborators.traced_keeps (T := (m.world.trace <+: ·))
    (fun u e _ goes => goes.trans (List.prefix_append u [e])) (r.collaborators.keeps_constant True)
  have kept := kind.step_keeps (Collaborators.Keeps.context (r := r.traced) traced s)
  exact (kept work works m outcome after worked ⟨List.prefix_refl _, trivial⟩).1

/-- A step that uses the share, with no credential to use. -/
def Kind.Idle (credentials : List Credential) (kind : Kind) : Prop :=
  credentials = [] ∧ ∃ endpoint, kind = .access endpoint

theorem Kind.run_refused {r : Scenario.Setting σ} {s : Scenario (Traced σ)} {kind : Kind}
    (ran : kind.step.run (r.traced.context s) m = some (.ok checks, after)) :
    Surfaces (kind.Refused (r.traced.context s)) (kind.Idle s.credentials) checks m after := by
  cases kind with
  | podsReady =>
    obtain ⟨u, goes⟩ := run_extends ran
    exact ⟨u, goes.symm, False.elim⟩
  | access endpoint => simpa [Idle] using access_refused ran
  | events expected =>
    refine check_refused (Activity.andThen_candid ?_ fun _ => Activity.pure_candid _) ran
      (by simp [Idle])
    exact Activity.andThen_candid (Activity.perform_candid (o := .identity _) _) fun _ =>
      Activity.andThen_candid (Activity.perform_candid (o := .events _ _) _) fun _ =>
        Activity.pure_candid _
  | dnsContainers =>
    refine check_refused (Activity.andThen_candid ?_ fun _ => Activity.pure_candid _) ran
      (by simp [Idle])
    exact Activity.andThen_candid (Activity.perform_candid (o := .pods _ _) _) fun _ =>
      Activity.pure_candid _
  | loadBalancer =>
    refine check_refused (Activity.andThen_candid ?_ fun _ => Activity.pure_candid _) ran
      (by simp [Idle])
    exact Activity.perform_candid (o := .services _ _) _

end Step

namespace Scenario

inductive Source
  | fixtures
  | waiting
  | step (kind : Step.Kind)
  | removal

variable {r : Setting σ} {s : Scenario (Traced σ)} {m after : Moment (Traced σ)}

def Source.Leads (r : Setting σ) (s : Scenario (Traced σ)) (m : Moment (Traced σ))
    (checks : List Check) (after : Moment (Traced σ)) : Source → Prop
  | .fixtures => ∃ setup owned, checks = [setup] ∧ Activity.owning [] (Check.run "fixtures"
      (Lifecycle.applyAll r.files r.collaborators.fixtures.traced s.fixtures)) m =
        some (.ok (setup, owned), after)
  | .waiting => ∃ name description timeout judge found, checks = [found] ∧
      Check.run name (awaitPods r.traced s description timeout judge) m = some (.ok found, after)
  | .step kind => kind.step.run (r.traced.context s) m = some (.ok checks, after)
  | .removal => ∃ owned errors left, checks = teardownChecks (after.now - m.now) errors ∧
      Activity.owning owned (Lifecycle.teardown r.collaborators.fixtures.traced) m =
        some (.ok (errors, left), after)

def Source.Refused (c : StepContext σ) (u : Trace) : Source → Prop
  | .waiting => False
  | .step kind => kind.Refused c u
  | .fixtures | .removal => u.Refused

def Source.Idle (credentials : List Credential) : Source → Prop
  | .step kind => kind.Idle credentials
  | _ => False

theorem Source.Leads.surfaces {source : Source} {checks : List Check}
    (leads : source.Leads r s m checks after) :
    Surfaces (source.Refused (r.traced.context s)) (source.Idle s.credentials) checks m after := by
  cases source with
  | fixtures =>
    obtain ⟨setup, owned, rfl, applied⟩ := leads
    obtain ⟨answer, left, checked, same⟩ := Activity.owning_some.1 applied
    obtain ⟨result, ran, rfl⟩ := Activity.check_some.1 checked
    cases same
    obtain ⟨u, trace, fails⟩ :=
      Lifecycle.applyAll_candid r.collaborators.fixtures r.files s.fixtures _ _ _ ran
    refine ⟨u, trace, fun refused => iff_of_true ⟨_, List.mem_singleton_self _, ?_⟩ id⟩
    rw [← Bool.not_eq_true, Check.ofOutcome_passed]
    exact fails refused ()
  | waiting =>
    obtain ⟨name, description, timeout, judge, found, rfl, checked⟩ := leads
    let selector := r.config.serviceSelector s.share.name
    have kept := podsProbe_extends r.collaborators.query r.config.ns selector (judge selector)
      m.world.trace
    obtain ⟨⟨u, goes⟩, -⟩ := Activity.check_keeps (waitFor_keeps kept description timeout _ _) m _
      after checked ⟨List.prefix_refl _, trivial⟩
    exact ⟨u, goes.symm, False.elim⟩
  | step kind => exact Step.Kind.run_refused leads
  | removal =>
    obtain ⟨owned, errors, left, rfl, removed⟩ := leads
    obtain ⟨answer, rest, torn, same⟩ := Activity.owning_some.1 removed
    match answer with
    | .ok errors =>
      cases same
      obtain ⟨u, gone⟩ := Lifecycle.teardown_ok torn
      refine ⟨u, gone.made.trace, fun refused => iff_of_true ?_ id⟩
      obtain ⟨e, rest, rfl⟩ := List.exists_cons_of_ne_nil (gone.errors_ne_nil refused)
      exact ⟨_, List.mem_cons_self .., rfl⟩
    | .error p => cases same

structure Part where
  source : Source
  calls : Trace
  checks : List Check

inductive Went (r : Setting σ) (s : Scenario (Traced σ)) :
    Moment (Traced σ) → List Part → Moment (Traced σ) → Prop
  | nowhere {m : Moment (Traced σ)} : Went r s m [] m
  | on {m mid after : Moment (Traced σ)} {part : Part} {parts : List Part} :
      part.source.Leads r s m part.checks mid →
      mid.world.trace = m.world.trace ++ part.calls → Went r s mid parts after →
      Went r s m (part :: parts) after

theorem Went.append {xs ys : List Part} {mid : Moment (Traced σ)} (first : Went r s m xs mid)
    (second : Went r s mid ys after) : Went r s m (xs ++ ys) after := by
  induction first with
  | nowhere => exact second
  | on leads trace _ ih => exact .on leads trace (ih second)

theorem Went.trace {parts : List Part} (went : Went r s m parts after) :
    after.world.trace = m.world.trace ++ parts.flatMap (·.calls) := by
  induction went with
  | nowhere => simp
  | on _ trace _ ih => rw [ih, trace, List.flatMap_cons, List.append_assoc]

theorem Went.surfaces {parts : List Part} (went : Went r s m parts after) :
    ∀ part ∈ parts, part.source.Refused (r.traced.context s) part.calls →
      ((∃ made ∈ part.checks, made.passed = false) ↔ ¬ part.source.Idle s.credentials) := by
  induction went with
  | nowhere => exact nofun
  | @on m mid after part parts leads trace _ ih =>
    refine List.forall_mem_cons.2 ⟨?_, ih⟩
    obtain ⟨u, goes, surfaces⟩ := leads.surfaces
    rwa [List.append_cancel_left (goes.symm.trans trace)] at surfaces

theorem Source.Leads.went (source : Source) {checks : List Check}
    (leads : source.Leads r s m checks after) :
    ∃ calls, Went r s m [⟨source, calls, checks⟩] after := by
  obtain ⟨u, trace, -⟩ := leads.surfaces
  exact ⟨u, .on leads trace .nowhere⟩

theorem steps_went {kinds : List Step.Kind} {results : List (List Check)}
    (ran : Step.Ran (r.traced.context s) (kinds.map Step.Kind.step) m results after) :
    ∃ parts, Went r s m parts after ∧ parts.map (·.source) = kinds.map .step ∧
      parts.flatMap (·.checks) = results.flatten := by
  induction kinds generalizing m results with
  | nil =>
    cases ran
    exact ⟨[], .nowhere, rfl, rfl⟩
  | cons kind kinds ih =>
    obtain ⟨checks, mid, rest, first, more, rfl⟩ := ran.uncons
    obtain ⟨calls, begins⟩ := Source.Leads.went (.step kind) first
    obtain ⟨parts, went, sources, all⟩ := ih more
    exact ⟨_, begins.append went, by simp [sources], by simp [all]⟩

def orders (kinds : List Step.Kind) : List (List Source) :=
  [[.fixtures, .removal],
    [.fixtures, .waiting, .removal],
    [.fixtures, .waiting, .waiting, .removal],
    [.fixtures, .waiting, .waiting] ++ kinds.map .step ++ [.removal]]

theorem inspection_went {kinds : List Step.Kind} {setup : Check} {checks : List Check}
    {phases : List Phase} (steps : s.steps = kinds.map Step.Kind.step)
    (inspection : Inspected r.traced s setup m checks phases after) :
    ∃ parts, Went r s m parts after ∧
      [.fixtures] ++ parts.map (·.source) ++ [.removal] ∈ orders kinds ∧
      checks = setup :: parts.flatMap (·.checks) := by
  have waits {m after : Moment (Traced σ)} {name description : String} {timeout : Nat}
      {judge : String → List Pod → Probe} {found : Check}
      (looked : Check.run name (awaitPods r.traced s description timeout judge) m =
        some (.ok found, after)) :=
    Source.Leads.went .waiting ⟨_, _, _, _, found, rfl, looked⟩
  cases inspection with
  | unprepared _ => exact ⟨[], .nowhere, by simp [orders], rfl⟩
  | undiscovered _ looked _ =>
    obtain ⟨b, looks⟩ := waits looked
    exact ⟨_, looks, by simp [orders], by simp⟩
  | unready _ looked _ waited _ =>
    obtain ⟨b, looks⟩ := waits looked
    obtain ⟨c, stays⟩ := waits waited
    exact ⟨_, looks.append stays, by simp [orders], by simp⟩
  | stepped _ looked _ waited _ stepped =>
    obtain ⟨b, looks⟩ := waits looked
    obtain ⟨c, stays⟩ := waits waited
    rw [steps] at stepped
    obtain ⟨parts, went, sources, all⟩ := steps_went stepped
    exact ⟨_, (looks.append stays).append went, by simp [orders, sources], by simp [all]⟩

theorem run_went {kinds : List Step.Kind} {report : Report}
    (steps : s.steps = kinds.map Step.Kind.step)
    (ran : s.run r.traced m = some (.ok report, after)) :
    ∃ parts, Went r s m parts after ∧ parts.map (·.source) ∈ orders kinds ∧
      report.checks = parts.flatMap (·.checks) := by
  obtain ⟨setup, owned, begun, checks, phases, middle, errors, left, applied, inspection, removed,
    rfl⟩ := (run_parts ran).some
  obtain ⟨a, prepares⟩ := Source.Leads.went .fixtures ⟨setup, owned, rfl, applied⟩
  obtain ⟨z, removes⟩ := Source.Leads.went .removal ⟨owned, errors, left, rfl, removed⟩
  obtain ⟨parts, went, order, rfl⟩ := inspection_went steps inspection
  exact ⟨_, (prepares.append went).append removes, by simpa using order, by simp⟩

/-- A report has a failed check for each part of the run that was refused something, except for
steps that use the share if there is no credential to use. -/
theorem run_surfaces (r : Setting σ) (o : Outline) (now : Nat) (w : σ) (after : Moment σ)
    (report : Report) (ran : o.scenario.run r ⟨now, w⟩ = some (.ok report, after)) :
    ∃ trace parts,
      o.scenario.run r.traced ⟨now, ⟨[], w⟩⟩ =
        some (.ok report, ⟨after.now, ⟨trace, after.world⟩⟩) ∧
      Went r o.scenario ⟨now, ⟨[], w⟩⟩ parts ⟨after.now, ⟨trace, after.world⟩⟩ ∧
      parts.map (·.source) ∈ orders o.kinds ∧ trace = parts.flatMap (·.calls) ∧
      report.checks = parts.flatMap (·.checks) ∧
      (∀ part ∈ parts, part.source.Refused (r.context o.scenario) part.calls →
        ((∃ made ∈ part.checks, made.passed = false) ↔ ¬ part.source.Idle o.credentials)) ∧
      ((∃ part ∈ parts, part.source.Refused (r.context o.scenario) part.calls ∧
        ¬ part.source.Idle o.credentials) → report.passed = false) := by
  have traced := run_traced r o.name o.shareName o.share o.fixtures o.credentials o.kinds
  let start : Moment (Traced σ) := ⟨now, ⟨[], w⟩⟩
  obtain ⟨⟨_, ⟨trace, _⟩⟩, ended, rfl⟩ := traced.some (m := start) ran
  obtain ⟨parts, went, sources, checks⟩ := run_went (show _ = o.kinds.map _ from rfl) ended
  have surfaces := went.surfaces
  refine ⟨trace, parts, ended, went, sources, went.trace, checks, surfaces, ?_⟩
  rintro ⟨part, member, refused, busy⟩
  obtain ⟨made, among, failed⟩ := (surfaces part member refused).2 busy
  rw [Report.passed, List.all_eq_false]
  refine ⟨made, ?_, by simp [failed]⟩
  rw [checks]
  exact List.mem_flatMap_of_mem member among

open Scripted

def reluctant : World :=
  { healthy with
    cluster :=
      { healthy.cluster with
        pods := Table.empty.insert anySelector
          ⟨[⟨{}, [readyPod]⟩, ⟨{}, [readyPod]⟩, ⟨{}, [readyPod]⟩,
            ⟨{ error := some (.api (.status "refused" "Forbidden" 403)) }, []⟩], 0⟩ } }

def visitBy (credentials : List Credential) : Outline :=
  ⟨"visit", ⟨"shares", "one"⟩, "One", [⟨⟨"a.yaml"⟩, "shares"⟩], credentials, Step.baseKinds⟩

theorem run_surfaces_reluctant :
    ∃ report after trace parts,
      (visitBy [⟨"user", "secret"⟩]).scenario.run setting ⟨0, reluctant⟩ =
        some (.ok report, after) ∧
      report.failures.map (·.name) = ["access[address/user]"] ∧
      Went setting (visitBy [⟨"user", "secret"⟩]).scenario ⟨0, ⟨[], reluctant⟩⟩ parts
        ⟨after.now, ⟨trace, after.world⟩⟩ ∧
      report.checks = parts.flatMap (·.checks) := by
  obtain ⟨report, after, ran, failed⟩ :=
    run_found (s := (visitBy [⟨"user", "secret"⟩]).scenario) (r := setting) (m := ⟨0, reluctant⟩)
      (p := fun report _ => report.failures.map (·.name) == ["access[address/user]"])
      (by decide +kernel)
  obtain ⟨trace, parts, -, went, -, -, checks, -⟩ :=
    run_surfaces setting _ 0 reluctant after report ran
  exact ⟨report, after, trace, parts, ran, by simpa using failed, went, checks⟩

def listings (t : Trace) : List Bool :=
  t.filterMap fun
    | .ended (.pods _ _) (.ok (.ok _)) => some true
    | .ended (.pods _ _) _ => some false
    | _ => none

theorem run_unheard :
    ∃ report after, (visitBy []).scenario.run setting.traced ⟨0, ⟨[], reluctant⟩⟩ =
        some (.ok report, after) ∧
      listings after.world.trace = [true, true, true, false] ∧
      report.checks.map (·.name) =
        ["fixtures", "pod-exists", "pod-ready", "pods-ready", "events", "teardown"] ∧
      report.passed = true := by
  obtain ⟨report, after, ran, shown⟩ :=
    run_found (s := (visitBy []).scenario) (r := setting.traced) (m := ⟨0, ⟨[], reluctant⟩⟩)
      (p := fun report after => listings after.world.trace == [true, true, true, false] &&
        report.checks.map (·.name) ==
          ["fixtures", "pod-exists", "pod-ready", "pods-ready", "events", "teardown"] &&
        report.passed)
      (by decide +kernel)
  simp only [Bool.and_eq_true, beq_iff_eq] at shown
  exact ⟨report, after, ran, shown.1.1, shown.1.2, shown.2⟩

end Scenario

end ShareCheck
