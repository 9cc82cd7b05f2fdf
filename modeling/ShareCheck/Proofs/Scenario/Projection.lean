import Mathlib.Algebra.GroupWithZero.Nat
import Mathlib.Data.List.Forall2
import ShareCheck.Proofs.Access.Projection
import ShareCheck.Proofs.Lifecycle.Projection
import ShareCheck.Proofs.Scenario.Steps

set_option autoImplicit false

namespace ShareCheck

variable {τ σ : Type} {h : View τ σ}

structure ClusterQuery.Lifts (h : View τ σ) (q : ClusterQuery τ) (image : ClusterQuery σ) :
    Prop where
  pods : ∀ ns selector, (q.pods ns selector).Lifts h (image.pods ns selector)
  services : ∀ ns selector, (q.services ns selector).Lifts h (image.services ns selector)
  events : ∀ ns selector, (q.events ns selector).Lifts h (image.events ns selector)
  identity : ∀ r, (q.identity r).Lifts h (image.identity r)

structure Collaborators.Lifts (h : View τ σ) (c : Collaborators τ) (image : Collaborators σ) :
    Prop where
  query : c.query.Lifts h image.query
  fixtures : c.fixtures.Lifts h image.fixtures
  shares : c.shares.Lifts h image.shares
  suffix : ∀ w, image.suffix (h w) = ((c.suffix w).1, h (c.suffix w).2)

structure Collaborators.Supplied (h : Views τ σ) (c : Collaborators τ) (image : Collaborators σ) :
    Prop where
  query : ∀ left, c.query.Lifts (h.at left) image.query
  fixtures : ∀ left, c.fixtures.Lifts (h.at left) image.fixtures
  shares : ∀ left, c.shares.Lifts (h.at left) image.shares
  suffix : ∀ left w, image.suffix (h.at (left + 1) w) = ((c.suffix w).1, h.at left (c.suffix w).2)

theorem Collaborators.Lifts.supplied {c : Collaborators τ} {image : Collaborators σ}
    (lifts : c.Lifts h image) : c.Supplied (.const h) image :=
  ⟨fun _ => lifts.query, fun _ => lifts.fixtures, fun _ => lifts.shares, fun _ => lifts.suffix⟩

/-! ### Steps -/

inductive StepContext.Lifts (h : View τ σ) : StepContext τ → StepContext σ → Prop
  | intro (config : Config) {query : ClusterQuery τ} {query' : ClusterQuery σ}
      {shares : ShareClient τ} {shares' : ShareClient σ} {suffix : τ → UInt32 × τ}
      {suffix' : σ → UInt32 × σ} (share : ShareIdentity) (shareName : String)
      (credentials : List Credential) :
      query.Lifts h query' → shares.Lifts h shares' →
        (∀ w, suffix' (h w) = ((suffix w).1, h (suffix w).2)) →
          Lifts h ⟨config, query, shares, suffix, share, shareName, credentials⟩
            ⟨config, query', shares', suffix', share, shareName, credentials⟩

theorem awaited_lifts {query : ClusterQuery τ} {image : ClusterQuery σ}
    (lifts : query.Lifts h image) (description : String) (timeout interval reach : Nat)
    (ns selector : String) (judge : List Pod → Probe) :
    (waitFor description timeout interval (podsProbe query ns selector judge) reach).Lifts h
      (waitFor description timeout interval (podsProbe image ns selector judge) reach) :=
  waitFor_lifts (Call.map_lifts (lifts.pods ns selector) _) description timeout interval reach

theorem StepContext.Lifts.relates {c : StepContext τ} {d : StepContext σ} (lifts : c.Lifts h d) :
    c.Relates (fun x y => x.Lifts h y) d := by
  cases lifts with
  | intro config share shareName credentials query shares suffix =>
    exact
      { toComposes := Activity.lifts_composes
        alike := rfl
        pods := fun _ _ => Activity.perform_lifts (query.pods _ _)
        services := fun _ _ => Activity.perform_lifts (query.services _ _)
        events := fun _ _ => Activity.perform_lifts (query.events _ _)
        identity := fun _ => Activity.perform_lifts (query.identity _)
        awaited := fun _ _ _ _ => awaited_lifts query _ _ _ _ _ _ _
        slept := Activity.sleep_lifts
        drew := Activity.change_lifts suffix
        verified := verifyEndpoint_lifts shares
        checked := fun name _ _ lifts => Activity.check_lifts lifts name }

namespace Step

structure Lifts (h : View τ σ) (s : Step τ) (image : Step σ) : Prop where
  name : image.name = s.name
  work : ∀ c d, c.Lifts h d →
    (∃ p, s.work c = .error p ∧ image.work d = .error p) ∨
      ∃ x y, s.work c = .ok x ∧ image.work d = .ok y ∧ x.Lifts h y

theorem run_lifts {s : Step τ} {image : Step σ} (lifts : s.Lifts h image) {c : StepContext τ}
    {d : StepContext σ} (contexts : c.Lifts h d) : (s.run c).Lifts h (image.run d) := by
  unfold Step.run
  obtain ⟨p, works, same⟩ | ⟨x, y, works, same, worked⟩ := lifts.work c d contexts
  next =>
    rw [works, same]
    exact Activity.panic_lifts p
  next =>
    rw [works, same]
    intro m
    simp only [worked m]
    match x m with
    | none => rfl
    | some (.ok checks, after) => rfl
    | some (.error p, after) =>
      simp [panicked, lifts.name, Moment.map, Nat.add_sub_add_right]

theorem runAll_lifts {c : StepContext τ} {d : StepContext σ} (contexts : c.Lifts h d)
    {steps : List (Step τ)} {images : List (Step σ)}
    (lifts : List.Forall₂ (Lifts h) steps images) : (runAll c steps).Lifts h (runAll d images) := by
  induction lifts with
  | nil => exact Activity.pure_lifts _
  | cons first _ ih =>
    exact Activity.bind_lifts (run_lifts first contexts) fun _ =>
      Activity.bind_lifts ih fun _ => Activity.pure_lifts _

section

open Activity

variable {h : Views τ σ} {suffix : τ → UInt32 × τ} {image : σ → UInt32 × σ}
  (drawn : ∀ left w, image (h.at (left + 1) w) = ((suffix w).1, h.at left (suffix w).2))

include drawn

theorem drawProbes_draws (credentials : List Credential) :
    (drawProbes suffix credentials).Draws h credentials.length (drawProbes image credentials) := by
  induction credentials with
  | nil => exact pure_draws _
  | cons _ _ ih =>
    refine (bind_draws (change_draws drawn) fun _ => bind_draws ih fun _ => pure_draws _).weaken ?_
    simp [Nat.add_comm]

theorem access_draws {query : ClusterQuery τ} {query' : ClusterQuery σ}
    (queries : ∀ left, query.Lifts (h.at left) query') {shares : ShareClient τ}
    {shares' : ShareClient σ} (stores : ∀ left, shares.Lifts (h.at left) shares') (config : Config)
    (share : ShareIdentity) (shareName : String) (credentials : List Credential)
    (endpoint : Endpoint) :
    ∃ x y,
      (access endpoint).work ⟨config, query, shares, suffix, share, shareName, credentials⟩ =
        .ok x ∧
      (access endpoint).work ⟨config, query', shares', image, share, shareName, credentials⟩ =
        .ok y ∧ x.Draws h credentials.length y := by
  refine ⟨_, _, rfl, rfl, ?_⟩
  have settles left := settle_relates (lifts_composes (h := h.at left)) sleep_lifts endpoint
    config.dnsSettleDelay
  refine Lifts.bind_draws settles fun _ => ?_
  have resolves left := Endpoint.resolve_relates lifts_composes
    (fun ns selector => perform_lifts ((queries left).pods ns selector)) config share endpoint
  refine Lifts.bind_draws resolves fun found => ?_
  match found with
  | .error e => exact (pure_draws _).weaken (Nat.zero_le _)
  | .ok host =>
    exact bind_draws (drawProbes_draws drawn credentials) fun drawn => Lifts.draws fun left =>
      verifyEndpoint_lifts (stores left) endpoint ⟨host, shareName⟩ _ drawn

end

theorem Kind.step_lifts (kind : Kind) : (kind.step : Step τ).Lifts h kind.step where
  name := by cases kind <;> rfl
  work _ _ contexts := .inr (kind.work_relates contexts.relates)

/-! ### Steps that draw numbers -/

section

open Activity

variable {h : Views τ σ} {c : Collaborators τ} {image : Collaborators σ}

theorem run_draws {s : Step τ} {t : Step σ} {a : StepContext τ} {b : StepContext σ}
    {x : Activity τ (List Check)} {y : Activity σ (List Check)} {most : Nat}
    (named : t.name = s.name) (works : s.work a = .ok x) (same : t.work b = .ok y)
    (draws : x.Draws h most y) :
    (s.run a).Draws h most (t.run b) := by
  intro m known enough
  obtain ⟨left, used, worked⟩ := draws m known enough
  refine ⟨left, used, ?_⟩
  unfold Step.run
  rw [works, same]
  simp only [worked]
  match x m with
  | none => rfl
  | some (.ok checks, after) => rfl
  | some (.error p, after) => simp [panicked, named, Moment.map, Views.at, Nat.add_sub_add_right]

theorem run_congr {s : Step σ} {a b : StepContext σ} (same : s.work a = s.work b) :
    s.run a = s.run b := by
  unfold Step.run
  rw [same]

theorem Kind.run_still {kind : Kind} (other : ∀ endpoint, kind ≠ .access endpoint)
    (a : StepContext σ) (suffix : σ → UInt32 × σ) :
    kind.step.run { a with suffix := suffix } = kind.step.run a := by
  refine run_congr ?_
  cases kind with
  | access endpoint => exact absurd rfl (other endpoint)
  | podsReady | events _ | dnsContainers | loadBalancer => rfl

def Kind.draws (credentials : List Credential) : Kind → Nat
  | access _ => credentials.length
  | _ => 0

variable (supplied : c.Supplied h image) (config : Config) (share : ShareIdentity)
  (shareName : String) (credentials : List Credential)

include supplied

theorem Kind.run_draws (kind : Kind) :
    (kind.step.run ⟨config, c.query, c.shares, c.suffix, share, shareName, credentials⟩).Draws h
      (kind.draws credentials) (kind.step.run
        ⟨config, image.query, image.shares, image.suffix, share, shareName, credentials⟩) := by
  by_cases uses : ∃ endpoint, kind = .access endpoint
  next =>
    obtain ⟨endpoint, rfl⟩ := uses
    obtain ⟨x, y, works, same, draws⟩ := access_draws supplied.suffix supplied.query
      supplied.shares config share shareName credentials endpoint
    exact Step.run_draws rfl works same draws
  next =>
    have other endpoint (same : kind = .access endpoint) := uses ⟨endpoint, same⟩
    rw [← run_still other _ fun w => (0, w),
      ← run_still other ⟨config, image.query, _, _, _, _, _⟩ fun w => (0, w)]
    refine (Lifts.draws fun left => ?_).weaken (Nat.zero_le _)
    exact run_lifts kind.step_lifts (.intro config share shareName credentials
      (supplied.query left) (supplied.shares left) fun _ => rfl)

theorem runAll_draws (kinds : List Kind) :
    (runAll ⟨config, c.query, c.shares, c.suffix, share, shareName, credentials⟩
        (kinds.map Kind.step)).Draws h (kinds.map (·.draws credentials)).sum
      (runAll ⟨config, image.query, image.shares, image.suffix, share, shareName, credentials⟩
        (kinds.map Kind.step)) := by
  induction kinds with
  | nil => exact pure_draws _
  | cons kind kinds ih =>
    have first := kind.run_draws supplied config share shareName credentials
    exact bind_draws first fun _ => bind_draws ih fun _ => pure_draws _

end

end Step

/-! ### Runs -/

namespace Scenario

inductive Setting.Lifts (h : View τ σ) : Setting τ → Setting σ → Prop
  | intro (config : Config) (files : Files) {c : Collaborators τ} {image : Collaborators σ} :
      c.Lifts h image → Lifts h ⟨config, files, c⟩ ⟨config, files, image⟩

inductive Lifts (h : View τ σ) : Scenario τ → Scenario σ → Prop
  | intro (name : String) (share : ShareIdentity) (shareName : String) (fixtures : List Fixture)
      (credentials : List Credential) {steps : List (Step τ)} {images : List (Step σ)} :
      List.Forall₂ (Step.Lifts h) steps images →
        Lifts h ⟨name, share, shareName, fixtures, credentials, steps⟩
          ⟨name, share, shareName, fixtures, credentials, images⟩

structure Outline where
  name : String
  share : ShareIdentity
  shareName : String
  fixtures : List Fixture
  credentials : List Credential
  kinds : List Step.Kind

def Outline.scenario (o : Outline) : Scenario σ :=
  ⟨o.name, o.share, o.shareName, o.fixtures, o.credentials, o.kinds.map Step.Kind.step⟩

def Outline.draws (o : Outline) : Nat := (o.kinds.map (·.draws o.credentials)).sum

theorem Outline.lifts (o : Outline) : Lifts h (o.scenario : Scenario τ) o.scenario := by
  refine .intro o.name o.share o.shareName o.fixtures o.credentials ?_
  rw [List.forall₂_map_left_iff, List.forall₂_map_right_iff]
  exact List.forall₂_same.2 fun kind _ => kind.step_lifts

section

open Activity

variable {h : Views τ σ} {most : Nat}

theorem gate_draws (check : Check) (report : Report) (phase : Phase)
    {rest : Report → Activity τ Report} {other : Report → Activity σ Report}
    (draws : ∀ report, (rest report).Draws h most (other report)) :
    (gate check report phase rest).Draws h most (gate check report phase other) := by
  unfold gate
  split
  next => exact draws _
  next => exact (pure_draws _).weaken (Nat.zero_le most)

variable {config : Config} (files : Files) {c : Collaborators τ} {image : Collaborators σ}
  (query : ∀ left, c.query.Lifts (h.at left) image.query)
  (name : String) (share : ShareIdentity) (shareName : String) (fixtures : List Fixture)
  (credentials : List Credential) {steps : List (Step τ)} {images : List (Step σ)}
  (stepped : (Step.runAll ⟨config, c.query, c.shares, c.suffix, share, shareName, credentials⟩
    steps).Draws h most (Step.runAll
      ⟨config, image.query, image.shares, image.suffix, share, shareName, credentials⟩ images))

include query stepped

theorem inspect_draws (report : Report) :
    (inspect ⟨config, files, c⟩ ⟨name, share, shareName, fixtures, credentials, steps⟩
      report).Draws h most (inspect ⟨config, files, image⟩
        ⟨name, share, shareName, fixtures, credentials, images⟩ report) := by
  have awaits description timeout judge left :=
    awaited_lifts (query left) description timeout config.pollInterval config.clockReach config.ns
      (config.serviceSelector share.name) judge
  refine Lifts.bind_draws (fun left => check_lifts (awaits _ _ _ left) _) fun found => ?_
  refine gate_draws found report _ fun report => ?_
  refine Lifts.bind_draws (fun left => check_lifts (awaits _ _ _ left) _) fun ready => ?_
  refine gate_draws ready report _ fun report => ?_
  exact bind_draws stepped fun _ => pure_draws _

theorem run_draws (kept : ∀ left, c.fixtures.Lifts (h.at left) image.fixtures) :
    (Scenario.run ⟨config, files, c⟩
      ⟨name, share, shareName, fixtures, credentials, steps⟩).Draws h most
        (Scenario.run ⟨config, files, image⟩
          ⟨name, share, shareName, fixtures, credentials, images⟩) := by
  have applied left := check_lifts
    ((Lifecycle.lifts_relates (kept left)).applyAll files fixtures) "fixtures"
  refine Lifts.bind_draws (fun left => owning_lifts (applied left) []) fun made => ?_
  obtain ⟨setup, owned⟩ := made
  have inspected := inspect_draws files query name share shareName fixtures credentials stepped
  refine bind_draws (gate_draws setup _ _ inspected) fun report => Lifts.draws fun left => ?_
  have removed := (Lifecycle.lifts_relates (kept left)).teardown
  exact timed_lifts (owning_lifts removed owned) fun gone duration =>
    (report.add (teardownChecks duration gone.1)).enter .tornDown

end

section

variable {r : Setting τ} {r' : Setting σ} {s : Scenario τ} {s' : Scenario σ}

theorem Lifts.context (settings : r.Lifts h r') (scenarios : s.Lifts h s') :
    (r.context s).Lifts h (r'.context s') := by
  cases settings with
  | intro config files collaborators =>
    cases scenarios with
    | intro name share shareName fixtures credentials steps =>
      exact .intro config share shareName credentials collaborators.query collaborators.shares
        collaborators.suffix

theorem Outline.run_draws (o : Outline) {h : Views τ σ} {image : Collaborators σ}
    (supplied : r.collaborators.Supplied h image) :
    (o.scenario.run r).Draws h o.draws (o.scenario.run ⟨r.config, r.files, image⟩) :=
  Scenario.run_draws r.files supplied.query o.name o.share o.shareName o.fixtures o.credentials
    (Step.runAll_draws supplied r.config o.share o.shareName o.credentials o.kinds)
    supplied.fixtures

theorem inspect_lifts (settings : r.Lifts h r') (scenarios : s.Lifts h s') (report : Report) :
    (inspect r s report).Lifts h (inspect r' s' report) := by
  have contexts := Lifts.context settings scenarios
  cases settings with
  | intro config files collaborators =>
    cases scenarios with
    | intro name share shareName fixtures credentials steps =>
      have stepped := Activity.Lifts.draws (h := .const h) fun _ => Step.runAll_lifts contexts steps
      exact (inspect_draws (h := .const h) files (fun _ => collaborators.query) name share shareName
        fixtures credentials stepped report).lifts

theorem gate_lifts (check : Check) (report : Report) (phase : Phase)
    {rest : Report → Activity τ Report} {other : Report → Activity σ Report}
    (lifts : ∀ report, (rest report).Lifts h (other report)) :
    (gate check report phase rest).Lifts h (gate check report phase other) :=
  (gate_draws (h := .const h) check report phase fun report =>
    Activity.Lifts.draws fun _ => lifts report).lifts

/-- A run in a larger world is the run in the part of it: it takes the same time, gives the same
report, panics or waits for ever alike, and leaves the part of the world alike. -/
theorem run_lifts (settings : r.Lifts h r') (scenarios : s.Lifts h s') :
    (s.run r).Lifts h (s'.run r') := by
  have contexts := Lifts.context settings scenarios
  cases settings with
  | intro config files collaborators =>
    cases scenarios with
    | intro name share shareName fixtures credentials steps =>
      have stepped := Activity.Lifts.draws (h := .const h) fun _ => Step.runAll_lifts contexts steps
      exact (run_draws (h := .const h) files (fun _ => collaborators.query) name share shareName
        fixtures credentials stepped fun _ => collaborators.fixtures).lifts

end

end Scenario

/-! ### Tracing -/

theorem Collaborators.traced_lifts (c : Collaborators σ) : c.traced.Lifts (.of Traced.world) c where
  query := ⟨fun _ _ => Call.traced_lifts _, fun _ _ => Call.traced_lifts _,
    fun _ _ => Call.traced_lifts _, fun _ => Call.traced_lifts _⟩
  fixtures := c.fixtures.traced_lifts
  shares := c.shares.traced_lifts
  suffix _ := rfl

theorem Scenario.run_traced (r : Setting σ) (name shareName : String) (share : ShareIdentity)
    (fixtures : List Fixture) (credentials : List Credential) (kinds : List Step.Kind) :
    (Scenario.run r.traced
      ⟨name, share, shareName, fixtures, credentials, kinds.map Step.Kind.step⟩).Lifts
        (.of Traced.world)
          (Scenario.run r
            ⟨name, share, shareName, fixtures, credentials, kinds.map Step.Kind.step⟩) :=
  run_lifts (.intro r.config r.files (Collaborators.traced_lifts r.collaborators))
    (Outline.lifts ⟨name, share, shareName, fixtures, credentials, kinds⟩)

end ShareCheck
