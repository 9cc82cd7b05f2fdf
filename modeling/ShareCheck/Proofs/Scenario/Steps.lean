import ShareCheck.Proofs.Access.Verify
import ShareCheck.Proofs.Trace

set_option autoImplicit false

namespace ShareCheck

variable {σ : Type} {I : σ → Prop}

structure ClusterQuery.Keeps (I : σ → Prop) (query : ClusterQuery σ) : Prop where
  pods : ∀ ns selector, (query.pods ns selector).Keeps I
  services : ∀ ns selector, (query.services ns selector).Keeps I
  events : ∀ ns selector, (query.events ns selector).Keeps I
  identity : ∀ reference, (query.identity reference).Keeps I

structure Collaborators.Keeps (I : σ → Prop) (c : Collaborators σ) : Prop where
  query : c.query.Keeps I
  shares : c.shares.Keeps I
  suffix : ∀ w, I w → I (c.suffix w).2

theorem Collaborators.keeps_constant (c : Collaborators σ) (p : Prop) : c.Keeps fun _ => p where
  query := ⟨fun _ _ => Call.keeps_constant _ p, fun _ _ => Call.keeps_constant _ p,
    fun _ _ => Call.keeps_constant _ p, fun _ => Call.keeps_constant _ p⟩
  shares := ⟨fun _ _ => Call.keeps_constant _ p, fun _ _ _ _ => Call.keeps_constant _ p,
    fun _ _ _ => Call.keeps_constant _ p, fun _ _ _ => Call.keeps_constant _ p⟩
  suffix _ := id

structure StepContext.Keeps (I : σ → Prop) (c : StepContext σ) : Prop where
  query : c.query.Keeps I
  shares : c.shares.Keeps I
  suffix : ∀ w, I w → I (c.suffix w).2

theorem Collaborators.Keeps.context {r : Scenario.Setting σ} (kept : r.collaborators.Keeps I)
    (s : Scenario σ) : (r.context s).Keeps I :=
  ⟨kept.query, kept.shares, kept.suffix⟩

section

variable {τ : Type} {R : ∀ {α : Type}, Activity τ α → Activity σ α → Prop}

theorem Endpoint.resolve_relates (composes : Activity.Composes R) {query : ClusterQuery τ}
    {image : ClusterQuery σ}
    (pods : ∀ ns selector,
      R (Activity.perform (query.pods ns selector)) (Activity.perform (image.pods ns selector)))
    (config : Config) (share : ShareIdentity) (endpoint : Endpoint) :
    R (endpoint.resolve query config share) (endpoint.resolve image config share) := by
  cases endpoint with
  | address => exact composes.andThen (pods _ _) fun _ => composes.given _
  | serviceName | externalName => exact composes.given _

variable (R) in
/-- All that a step does in the one context, one thing after another, is related to what it does in
the other. -/
structure StepContext.Relates (c : StepContext τ) (d : StepContext σ) : Prop
    extends Activity.Composes R where
  alike : (c.config, c.share, c.shareName, c.credentials) =
    (d.config, d.share, d.shareName, d.credentials)
  pods : ∀ ns selector,
    R (Activity.perform (c.query.pods ns selector)) (Activity.perform (d.query.pods ns selector))
  services : ∀ ns selector, R (Activity.perform (c.query.services ns selector))
    (Activity.perform (d.query.services ns selector))
  events : ∀ ns selector, R (Activity.perform (c.query.events ns selector))
    (Activity.perform (d.query.events ns selector))
  identity : ∀ reference, R (Activity.perform (c.query.identity reference))
    (Activity.perform (d.query.identity reference))
  awaited : ∀ description ns selector judge,
    R (waitFor description c.config.readyTimeout c.config.pollInterval
        (podsProbe c.query ns selector judge) c.config.clockReach)
      (waitFor description c.config.readyTimeout c.config.pollInterval
        (podsProbe d.query ns selector judge) c.config.clockReach)
  slept : ∀ delay, R (Activity.sleep delay) (Activity.sleep delay)
  drew : R (Activity.change c.suffix) (Activity.change d.suffix)
  verified : ∀ endpoint target timeout credentials,
    R (verifyEndpoint c.shares endpoint target timeout credentials)
      (verifyEndpoint d.shares endpoint target timeout credentials)
  checked : ∀ name {x : Activity τ (Except Error Unit)} {y : Activity σ (Except Error Unit)},
    R x y → R (Check.run name x) (Check.run name y)

namespace Step

theorem settle_relates (composes : Activity.Composes R)
    (slept : ∀ delay, R (Activity.sleep delay) (Activity.sleep delay)) (endpoint : Endpoint)
    (delay : Nat) : R (settle endpoint delay) (settle endpoint delay) := by
  unfold settle
  split
  next => exact slept delay
  next => exact composes.given ()

theorem drawProbes_relates (composes : Activity.Composes R) (suffix : τ → UInt32 × τ)
    (image : σ → UInt32 × σ) (drew : R (Activity.change suffix) (Activity.change image))
    (credentials : List Credential) :
    R (drawProbes suffix credentials) (drawProbes image credentials) := by
  induction credentials with
  | nil => exact composes.given _
  | cons c cs ih =>
    exact composes.bound drew fun _ => composes.bound ih fun _ => composes.given _

inductive Kind
  | podsReady
  | access (endpoint : Endpoint)
  | events (expected : Tally)
  | dnsContainers
  | loadBalancer

def Kind.step : Kind → Step σ
  | podsReady => Step.podsReady
  | access endpoint => Step.access endpoint
  | events expected => Step.events expected
  | dnsContainers => Step.dnsContainers
  | loadBalancer => Step.loadBalancer

def baseKinds : List Kind :=
  [.podsReady, .access .address, .access .serviceName, .events EventTrail.defaultExpected]

theorem base_eq : (base : List (Step σ)) = baseKinds.map Kind.step := rfl

theorem check_relates (composes : Activity.Composes R) {name : String}
    {work : StepContext τ → Activity τ (Except Error Unit)}
    {other : StepContext σ → Activity σ (Except Error Unit)} {c : StepContext τ} {d : StepContext σ}
    (checked : R (Check.run name (work c)) (Check.run name (other d))) :
    ∃ x y, (check name work).work c = .ok x ∧ (check name other).work d = .ok y ∧ R x y :=
  ⟨_, _, rfl, rfl, composes.bound checked fun _ => composes.given _⟩

theorem Kind.work_relates {c : StepContext τ} {d : StepContext σ} (relates : c.Relates R d)
    (kind : Kind) :
    ∃ x y, kind.step.work c = .ok x ∧ kind.step.work d = .ok y ∧ R x y := by
  obtain ⟨config, query, shares, suffix, share, shareName, credentials⟩ := c
  obtain ⟨_, _, _, _, _, _, _⟩ := d
  obtain ⟨composes, ⟨⟩, pods, services, events, identity, awaited, slept, drew, verified, checked⟩ :=
    relates
  cases kind with
  | podsReady => exact check_relates composes (checked _ (awaited _ _ _ _))
  | access endpoint =>
    refine ⟨_, _, rfl, rfl, composes.bound (settle_relates composes slept endpoint _) fun _ => ?_⟩
    have resolved := Endpoint.resolve_relates composes pods config share endpoint
    refine composes.bound resolved fun found => ?_
    match found with
    | .error e => exact composes.given _
    | .ok host =>
      exact composes.bound (drawProbes_relates composes _ _ drew credentials) fun _ =>
        verified endpoint ⟨host, shareName⟩ _ _
  | events expected =>
    refine check_relates composes (checked _ (composes.andThen ?_ fun _ => composes.given _))
    exact composes.andThen (identity _) fun _ => composes.andThen (events _ _) fun _ =>
      composes.given _
  | dnsContainers =>
    refine check_relates composes (checked _ (composes.andThen ?_ fun _ => composes.given _))
    exact composes.andThen (pods _ _) fun _ => composes.given _
  | loadBalancer =>
    refine check_relates composes (checked _ (composes.andThen ?_ fun _ => composes.given _))
    exact services _ _

end Step

theorem Scenario.gate_relates (composes : Activity.Composes R) (check : Check) (phase : Phase)
    (rest : Report → Activity τ Report) (other : Report → Activity σ Report)
    (relates : ∀ report, R (rest report) (other report)) (report : Report) :
    R (gate check report phase rest) (gate check report phase other) := by
  unfold gate
  split
  next => exact relates _
  next => exact composes.given _

end

theorem awaited_keeps {query : ClusterQuery σ} (kept : query.Keeps I) (description : String)
    (timeout interval reach : Nat) (ns selector : String) (judge : List Pod → Probe) :
    (waitFor description timeout interval (podsProbe query ns selector judge) reach).Keeps I :=
  waitFor_keeps (Call.map_keeps (kept.pods ns selector) _) description timeout interval reach

theorem StepContext.Keeps.relates {c : StepContext σ} (kept : c.Keeps I) :
    c.Relates (fun x _ => x.Keeps I) c where
  toComposes := Activity.keeps_composes
  alike := rfl
  pods _ _ := Activity.perform_keeps (kept.query.pods _ _)
  services _ _ := Activity.perform_keeps (kept.query.services _ _)
  events _ _ := Activity.perform_keeps (kept.query.events _ _)
  identity _ := Activity.perform_keeps (kept.query.identity _)
  awaited _ _ _ _ := awaited_keeps kept.query _ _ _ _ _ _ _
  slept _ := Activity.sleep_keeps _
  drew := Activity.change_keeps kept.suffix
  verified _ _ _ _ := verifyEndpoint_keeps kept.shares _ _ _ _
  checked _ _ _ kept := Activity.check_keeps kept

namespace Step

def Keeps (I : σ → Prop) (c : StepContext σ) (s : Step σ) : Prop :=
  ∀ work, s.work c = .ok work → work.Keeps I

theorem Kind.step_keeps {c : StepContext σ} (kept : c.Keeps I) (kind : Kind) :
    (kind.step).Keeps I c := by
  intro work works
  obtain ⟨x, -, same, -, keeps⟩ := kind.work_relates kept.relates
  obtain rfl := Except.ok.inj (same.symm.trans works)
  exact keeps

theorem drawProbes_keeps {suffix : σ → UInt32 × σ} (kept : ∀ w, I w → I (suffix w).2)
    (credentials : List Credential) : (drawProbes suffix credentials).Keeps I :=
  drawProbes_relates Activity.keeps_composes suffix suffix (Activity.change_keeps kept) credentials

theorem settle_keeps (endpoint : Endpoint) (delay : Nat) :
    (settle endpoint delay : Activity σ Unit).Keeps I :=
  settle_relates Activity.keeps_composes Activity.sleep_keeps endpoint delay

end Step

section

variable {T : Trace → Prop}

variable (writes : ∀ u e, e.onFixtures = false → T u → T (u ++ [e]))

include writes

theorem ClusterQuery.traced_keeps {query : ClusterQuery σ} (kept : query.Keeps I) :
    query.traced.Keeps fun t => T t.trace ∧ I t.world where
  pods ns selector := Call.traced_keeps (kept.pods ns selector) fun u e same =>
    writes u e (by rw [Entry.onFixtures, same])
  services ns selector := Call.traced_keeps (kept.services ns selector) fun u e same =>
    writes u e (by rw [Entry.onFixtures, same])
  events ns selector := Call.traced_keeps (kept.events ns selector) fun u e same =>
    writes u e (by rw [Entry.onFixtures, same])
  identity reference := Call.traced_keeps (kept.identity reference) fun u e same =>
    writes u e (by rw [Entry.onFixtures, same])

theorem ShareClient.traced_keeps {client : ShareClient σ} (kept : client.Keeps I) :
    client.traced.Keeps fun t => T t.trace ∧ I t.world where
  list t c := Call.traced_keeps (kept.list t c) fun u e same =>
    writes u e (by rw [Entry.onFixtures, same])
  put t c name contents := Call.traced_keeps (kept.put t c name contents) fun u e same =>
    writes u e (by rw [Entry.onFixtures, same])
  get t c name := Call.traced_keeps (kept.get t c name) fun u e same =>
    writes u e (by rw [Entry.onFixtures, same])
  remove t c name := Call.traced_keeps (kept.remove t c name) fun u e same =>
    writes u e (by rw [Entry.onFixtures, same])

theorem Collaborators.traced_keeps {c : Collaborators σ} (kept : c.Keeps I) :
    c.traced.Keeps fun t => T t.trace ∧ I t.world where
  query := ClusterQuery.traced_keeps writes kept.query
  shares := ShareClient.traced_keeps writes kept.shares
  suffix t holds := ⟨holds.1, kept.suffix t.world holds.2⟩

end

end ShareCheck
