import ShareCheck.Proofs.Scenario.Completion
import ShareCheck.Proofs.Scenario.Routing

set_option autoImplicit false

namespace ShareCheck

variable {σ α β : Type} {delay : Nat} {p : Panic}

namespace Call

/-- Panics in the end where the call would be under way for ever. -/
def overdue (delay : Nat) (p : Panic) (c : Call σ α) : Call σ α := fun now w =>
  match c now w with
  | (.never, w) => (.lands delay fun w => (.error p, w), w)
  | (.lands delay finish, w) => (.lands delay finish, w)

theorem overdue_never {c : Call σ α} {now : Nat} {w v : σ} (begun : c now w = (.never, v)) :
    c.overdue delay p now w = (.lands delay fun w => (.error p, w), v) := by
  rw [overdue, begun]

theorem overdue_lands {c : Call σ α} {now lasts : Nat} {w v : σ}
    {finish : σ → Except Panic α × σ} (begun : c now w = (.lands lasts finish, v)) :
    c.overdue delay p now w = (.lands lasts finish, v) := by
  rw [overdue, begun]

theorem lands_overdue (c : Call σ α) : (c.overdue delay p).Lands := by
  intro now w
  rcases begun : c now w with ⟨_ | ⟨lasts, finish⟩, v⟩
  next => exact ⟨_, _, _, overdue_never begun⟩
  next => exact ⟨_, _, _, overdue_lands begun⟩

theorem map_overdue (c : Call σ α) (f : α → β) :
    (c.overdue delay p).map f = (c.map f).overdue delay p := by
  funext now w
  rcases begun : c now w with ⟨_ | ⟨lasts, finish⟩, v⟩
  next => simp [map, overdue, begun, Flight.map]
  next => simp [map, overdue, begun, Flight.map]

end Call

namespace Activity

def overdue (p : Panic) (x : Activity σ α) : Activity σ α := fun m =>
  match x m with
  | none => some (.error p, m)
  | some (r, after) => some (r, after)

def Agrees (x y : Activity σ α) : Prop :=
  ∀ m r after, x m = some (r, after) → y m = some (r, after)

theorem agrees_refl (x : Activity σ α) : x.Agrees x := fun _ _ _ ran => ran

theorem agrees_composes : Composes fun {α} (x y : Activity σ α) => x.Agrees y where
  given a := agrees_refl (pure a)
  bound first rest := by
    intro m r after ran
    obtain ⟨a, mid, begun, ended⟩ | ⟨p, begun, rfl⟩ := bind_some.1 ran
    next => exact bind_some.2 (.inl ⟨a, mid, first m _ mid begun, rest a mid r after ended⟩)
    next => exact bind_some.2 (.inr ⟨p, first m _ after begun, rfl⟩)

theorem overdue_agrees (p : Panic) (x : Activity σ α) : x.Agrees (x.overdue p) := by
  intro m r after ran
  rw [overdue, ran]

theorem overdue_completes (p : Panic) (x : Activity σ α) : (x.overdue p).Completes := by
  intro m
  rcases ran : x m with _ | ⟨r, after⟩
  next => exact ⟨.error p, m, by rw [overdue, ran]⟩
  next => exact ⟨r, after, overdue_agrees p x m r after ran⟩

theorem perform_agrees (c : Call σ α) : (perform c).Agrees (perform (c.overdue delay p)) := by
  intro m r after ran
  rcases begun : c m.now m.world with ⟨_ | ⟨lasts, finish⟩, w⟩
  next => simp [perform, begun] at ran
  next => simpa only [perform, Call.overdue_lands begun, begun] using ran

theorem tracked_agrees {x y : Activity σ α} (agrees : x.Agrees y) :
    (x.within Tracked.inner).Agrees (y.within Tracked.inner) := by
  intro m r after ran
  obtain ⟨last, inner, rfl⟩ := tracked_some.1 ran
  exact tracked_some.2 ⟨last, agrees _ r last inner, rfl⟩

theorem owning_agrees {x y : Activity (Tracked σ) α} (agrees : x.Agrees y)
    (owned : List OwnedObject) : (x.owning owned).Agrees (y.owning owned) := by
  intro m r after ran
  obtain ⟨answer, left, ended, rfl⟩ := owning_some.1 ran
  exact owning_some.2 ⟨answer, left, agrees _ answer _ ended, rfl⟩

theorem check_agrees {x y : Activity σ (Except Error Unit)} (agrees : x.Agrees y) (name : String) :
    (Check.run name x).Agrees (Check.run name y) := by
  intro m r after ran
  obtain ⟨outcome, worked, rfl⟩ := check_some.1 ran
  exact check_some.2 ⟨outcome, agrees m outcome after worked, rfl⟩

end Activity

theorem evaluate_overdue (probe : Request σ Probe) {stop : Nat} {m : Moment σ}
    (late : stop < m.now + delay) :
    evaluate (probe.overdue delay p) stop m = evaluate probe stop m := by
  unfold evaluate
  rcases begun : probe m.now m.world with ⟨_ | ⟨lasts, finish⟩, w⟩
  next =>
    -- Both are given up at the same time.
    rw [Call.overdue_never begun]
    simp only [Nat.not_le.2 late, if_false]
  next => rw [Call.overdue_lands begun]

theorem pollUntil_overdue (probe : Request σ Probe) {deadline interval patience : Nat}
    {late : String → Error} {m : Moment σ} (far : deadline + interval < m.now + delay) :
    pollUntil (probe.overdue delay p) deadline interval late patience m =
      pollUntil probe deadline interval late patience m := by
  fun_induction pollUntil probe deadline interval late patience m with
  | case1 patience m done given => rw [pollUntil, evaluate_overdue probe far, given]
  | case2 patience m q done given => rw [pollUntil, evaluate_overdue probe far, given]
  | case3 patience m observed done given expired =>
    rw [pollUntil, evaluate_overdue probe far, given]
    simp only [expired, if_true]
  | case4 patience m observed done given early moves ih =>
    rw [pollUntil, evaluate_overdue probe far, given]
    simp only [early, if_false, moves, if_true]
    exact ih (by simp only; omega)
  | case5 m observed done given early stays =>
    rw [pollUntil, evaluate_overdue probe far, given]
    simp only [early, if_false, stays]
  | case6 m observed done given early stays patience ih =>
    have later : m.now ≤ nextStart m.now done.now interval deadline := Nat.le_max_left ..
    rw [pollUntil, evaluate_overdue probe far, given]
    simp only [early, if_false, stays]
    exact ih (by simp only; omega)

theorem waitFor_overdue (probe : Request σ Probe) (description : String)
    {timeout interval : Nat} (reach : Nat) (far : timeout + interval < delay) :
    waitFor description timeout interval (probe.overdue delay p) reach =
      waitFor description timeout interval probe reach := by
  funext m
  by_cases within : timeout + interval ≤ reach
  next =>
    rw [waitFor_within description within, waitFor_within description within]
    exact pollUntil_overdue probe (by omega)
  next =>
    have beyond := Nat.lt_of_not_le within
    rw [waitFor_beyond description beyond, waitFor_beyond description beyond]

def ClusterQuery.overdue (delay : Nat) (p : Panic) (query : ClusterQuery σ) : ClusterQuery σ where
  pods ns selector := (query.pods ns selector).overdue delay p
  services ns selector := (query.services ns selector).overdue delay p
  events ns selector := (query.events ns selector).overdue delay p
  identity reference := (query.identity reference).overdue delay p

def FixtureClient.overdue (p : Panic) (client : FixtureClient σ) : FixtureClient σ where
  ensure o := (client.ensure o).overdue p
  remove o := (client.remove o).overdue p

/-- Calls of a share client are given up in time as they are. -/
def Scenario.Setting.overdue (delay : Nat) (p : Panic) (r : Setting σ) : Setting σ :=
  { r with
    collaborators :=
      { r.collaborators with
        query := r.collaborators.query.overdue delay p
        fixtures := r.collaborators.fixtures.overdue p } }

theorem overdue_complete (r : Scenario.Setting σ) {interval : Nat} (pos : 0 < interval) :
    (r.overdue delay p).collaborators.Complete interval where
  query := ⟨fun _ _ => Call.lands_overdue _, fun _ _ => Call.lands_overdue _,
    fun _ _ => Call.lands_overdue _, fun _ => Call.lands_overdue _,
    fun _ _ none => absurd none (Nat.ne_of_gt pos)⟩
  ensure _ := Activity.overdue_completes p _
  remove _ := Activity.overdue_completes p _

theorem Lifecycle.overdue_relates (client : FixtureClient σ) :
    Relates client (client.overdue p) fun x y => x.Agrees y where
  toComposes := Activity.agrees_composes
  owned f o := Activity.agrees_refl (own f o)
  taken chosen := Activity.agrees_refl (takeOut chosen)
  ensured _ := Activity.tracked_agrees (Activity.overdue_agrees p _)
  removed _ := Activity.tracked_agrees (Activity.overdue_agrees p _)

theorem awaited_agrees (query : ClusterQuery σ) (description : String) {timeout interval : Nat}
    (reach : Nat) (far : timeout + interval < delay) (ns selector : String)
    (judge : List Pod → Probe) :
    (waitFor description timeout interval (podsProbe query ns selector judge) reach).Agrees
      (waitFor description timeout interval
        (podsProbe (query.overdue delay p) ns selector judge) reach) := by
  have same : podsProbe (query.overdue delay p) ns selector judge =
      (podsProbe query ns selector judge).overdue delay p :=
    Call.map_overdue (query.pods ns selector) _
  rw [same, waitFor_overdue _ description reach far]
  exact Activity.agrees_refl _

section

open Activity

variable {c : StepContext σ}

def StepContext.overdue (delay : Nat) (p : Panic) (c : StepContext σ) : StepContext σ :=
  { c with query := c.query.overdue delay p }

namespace Step

theorem run_agrees {s : Step σ} {d : StepContext σ} {x y : Activity σ (List Check)}
    (works : s.work c = .ok x) (same : s.work d = .ok y) (agrees : x.Agrees y) :
    (s.run c).Agrees (s.run d) := by
  intro m r after ran
  simp only [Step.run, works] at ran
  rcases worked : x m with _ | ⟨outcome, last⟩
  next =>
    rw [worked] at ran
    cases ran
  next =>
    simp only [Step.run, same, agrees m outcome last worked]
    rwa [worked] at ran

variable (far : c.config.readyTimeout + c.config.pollInterval < delay)

include far

theorem Kind.run_agrees (kind : Kind) :
    (kind.step.run c).Agrees (kind.step.run (c.overdue delay p)) := by
  have relates : c.Relates (fun x y => x.Agrees y) (c.overdue delay p) :=
    { toComposes := agrees_composes
      alike := rfl
      pods := fun _ _ => perform_agrees _
      services := fun _ _ => perform_agrees _
      events := fun _ _ => perform_agrees _
      identity := fun _ => perform_agrees _
      awaited := fun _ _ _ _ => awaited_agrees _ _ _ far _ _ _
      slept := fun _ => agrees_refl _
      drew := agrees_refl _
      verified := fun _ _ _ _ => agrees_refl _
      checked := fun name _ _ agrees => check_agrees agrees name }
  obtain ⟨x, y, works, same, agrees⟩ := kind.work_relates relates
  exact Step.run_agrees works same agrees

theorem runAll_agrees (kinds : List Kind) :
    (runAll c (kinds.map Kind.step)).Agrees (runAll (c.overdue delay p) (kinds.map Kind.step)) := by
  induction kinds with
  | nil => exact agrees_refl _
  | cons kind kinds ih =>
    exact agrees_composes.bound (kind.run_agrees far) fun _ =>
      agrees_composes.bound ih fun _ => agrees_refl _

end Step

end

namespace Scenario

open Activity

variable {r : Setting σ} {o : Outline}
  (exist : r.config.existTimeout + r.config.pollInterval < delay)
  (ready : r.config.readyTimeout + r.config.pollInterval < delay)

include exist ready

theorem inspect_agrees (report : Report) :
    (inspect r o.scenario report).Agrees (inspect (r.overdue delay p) o.scenario report) := by
  have found := awaited_agrees (p := p) r.collaborators.query Step.existsName r.config.clockReach
    exist r.config.ns (r.config.serviceSelector o.share.name)
  have readied := awaited_agrees (p := p) r.collaborators.query Step.readyName r.config.clockReach
    ready r.config.ns (r.config.serviceSelector o.share.name)
  refine agrees_composes.bound (check_agrees (found _) _) fun check => ?_
  refine gate_relates agrees_composes check _ _ _ (fun report => ?_) report
  refine agrees_composes.bound (check_agrees (readied _) _) fun check => ?_
  refine gate_relates agrees_composes check _ _ _ (fun report => ?_) report
  exact agrees_composes.bound (Step.runAll_agrees (c := r.context o.scenario) ready o.kinds)
    fun _ => agrees_refl _

theorem run_agrees : (o.scenario.run r).Agrees (o.scenario.run (r.overdue delay p)) := by
  have relates := Lifecycle.overdue_relates (p := p) r.collaborators.fixtures
  have applied := check_agrees (relates.applyAll r.files o.fixtures) "fixtures"
  refine agrees_composes.bound (owning_agrees applied []) fun made => ?_
  refine agrees_composes.bound ?_ fun report => ?_
  · exact gate_relates agrees_composes made.1 .fixturesApplied _ _ (inspect_agrees exist ready) _
  refine agrees_composes.bound (agrees_refl _) fun start => ?_
  exact agrees_composes.bound (owning_agrees relates.teardown _) fun _ => agrees_refl _

/-- A run that waits for ever has begun as one that ends, in which the call that it waits for
panics in the end. What that one calls goes where it belongs as well. -/
theorem run_overdue (pos : 0 < r.config.pollInterval) (now : Nat) (w : σ) :
    ∃ outcome after u,
      o.scenario.run (r.overdue delay p) ⟨now, w⟩ = some (outcome, after) ∧
      (o.scenario.run r ⟨now, w⟩ = none ∨
        o.scenario.run r ⟨now, w⟩ = some (outcome, after)) ∧
      o.scenario.run (r.overdue delay p).traced ⟨now, ⟨[], w⟩⟩ =
        some (outcome, ⟨after.now, ⟨u, after.world⟩⟩) ∧
      ∃ parts : List (Source × Trace), u = parts.flatMap (·.2) ∧
        parts.map (·.1) ∈ orders o.kinds ∧
        ∀ part ∈ parts, part.1.Routes r.config r.files o part.2 := by
  have complete : (r.overdue delay p).collaborators.Complete r.config.pollInterval :=
    overdue_complete r pos
  obtain ⟨outcome, ⟨later, ⟨u, v⟩⟩, -, ended, -⟩ :=
    run_settles (r := r.overdue delay p) (s := o.scenario) complete (contained_kinds complete rfl)
      ⟨now, ⟨[], w⟩⟩
  have traced := run_traced (r.overdue delay p) o.name o.shareName o.share o.fixtures o.credentials
    o.kinds ⟨now, ⟨[], w⟩⟩
  have ran : o.scenario.run (r.overdue delay p) ⟨now, w⟩ = some (outcome, ⟨later, v⟩) :=
    traced.trans (congrArg (Option.map _) ended)
  obtain ⟨parts, trace, order, routes⟩ := traced_routed ended
  refine ⟨outcome, ⟨later, v⟩, u, ran, ?_, ended, parts, trace, order, routes⟩
  rcases began : o.scenario.run r ⟨now, w⟩ with _ | ⟨answer, after⟩
  next => exact .inl rfl
  next =>
    have agreed := run_agrees (p := p) exist ready ⟨now, w⟩ answer after began
    exact .inr (agreed.symm.trans ran)

end Scenario

end ShareCheck
