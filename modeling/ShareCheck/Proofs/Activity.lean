import ShareCheck.Check
import ShareCheck.Lifecycle

set_option autoImplicit false

namespace ShareCheck.Activity

variable {σ α β : Type} {m after : Moment σ}

theorem pure_some {a : α} {r : Except Panic α} :
    (pure a : Activity σ α) m = some (r, after) ↔ r = .ok a ∧ after = m := by
  change some (Except.ok a, m) = some (r, after) ↔ _
  simp [eq_comm]

theorem bind_some {x : Activity σ α} {f : α → Activity σ β} {r : Except Panic β} :
    (x >>= f) m = some (r, after) ↔
      (∃ a mid, x m = some (.ok a, mid) ∧ f a mid = some (r, after)) ∨
        ∃ p, x m = some (.error p, after) ∧ r = .error p := by
  change Activity.bind x f m = some (r, after) ↔ _
  unfold Activity.bind
  match h : x m with
  | none => simp
  | some (.ok a, mid) => simp [and_assoc]
  | some (.error p, mid) => grind

theorem bind_ok {x : Activity σ α} {f : α → Activity σ β} {b : β} :
    (x >>= f) m = some (.ok b, after) ↔
      ∃ a mid, x m = some (.ok a, mid) ∧ f a mid = some (.ok b, after) := by
  simp [bind_some]

theorem andThen_some {x : Activity σ (Except Error α)} {f : α → Activity σ (Except Error β)}
    {r : Except Panic (Except Error β)} :
    x.andThen f m = some (r, after) ↔
      (∃ a mid, x m = some (.ok (.ok a), mid) ∧ f a mid = some (r, after)) ∨
        (∃ e, x m = some (.ok (.error e), after) ∧ r = .ok (.error e)) ∨
          ∃ p, x m = some (.error p, after) ∧ r = .error p := by
  unfold Activity.andThen
  rw [show x.bind _ = x >>= _ from rfl, bind_some]
  constructor
  next =>
    rintro (⟨answer, mid, ran, rest⟩ | failed)
    next =>
      cases answer with
      | ok a => exact .inl ⟨a, mid, ran, rest⟩
      | error e =>
        obtain ⟨rfl, rfl⟩ := pure_some.1 rest
        exact .inr (.inl ⟨e, ran, rfl⟩)
    next => exact .inr (.inr failed)
  next =>
    rintro (⟨a, mid, ran, rest⟩ | ⟨e, ran, rfl⟩ | failed)
    next => exact .inl ⟨.ok a, mid, ran, rest⟩
    next => exact .inl ⟨.error e, after, ran, rfl⟩
    next => exact .inr failed

theorem andThen_ok {x : Activity σ (Except Error α)} {f : α → Activity σ (Except Error β)} {b : β} :
    x.andThen f m = some (.ok (.ok b), after) ↔
      ∃ a mid, x m = some (.ok (.ok a), mid) ∧ f a mid = some (.ok (.ok b), after) := by
  simp [andThen_some]

theorem andThen_pure_some {x : Activity σ (Except Error α)} {f : α → Except Error β}
    {r : Except Panic (Except Error β)}
    (ran : x.andThen (fun a => Activity.pure (f a)) m = some (r, after)) :
    ∃ answer, x m = some (answer, after) := by
  obtain ⟨a, mid, begun, ended⟩ | ⟨e, begun, -⟩ | ⟨p, begun, -⟩ := andThen_some.1 ran
  next =>
    obtain ⟨-, rfl⟩ := pure_some.1 ended
    exact ⟨_, begun⟩
  next => exact ⟨_, begun⟩
  next => exact ⟨_, begun⟩

theorem change_some {f : σ → α × σ} {r : Except Panic α} :
    change f m = some (r, after) ↔
      r = .ok (f m.world).1 ∧ after = { m with world := (f m.world).2 } := by
  unfold change
  simp [eq_comm]

theorem now_some {r : Except Panic Nat} :
    (now : Activity σ Nat) m = some (r, after) ↔ r = .ok m.now ∧ after = m := by
  unfold now
  simp [eq_comm]

theorem within_some {τ : Type} {part : Part τ σ} {x : Activity σ α} {r : Except Panic α}
    {before later : Moment τ} :
    x.within part before = some (r, later) ↔
      ∃ last, x ⟨before.now, part.get before.world⟩ = some (r, last) ∧
        later = ⟨last.now, part.put last.world before.world⟩ := by
  unfold within
  cases x ⟨before.now, part.get before.world⟩ <;> grind

theorem tracked_some {x : Activity σ α} {r : Except Panic α} {before later : Moment (Tracked σ)} :
    x.within Tracked.inner before = some (r, later) ↔
      ∃ last, x ⟨before.now, before.world.world⟩ = some (r, last) ∧
        later = ⟨last.now, ⟨before.world.owned, last.world⟩⟩ :=
  within_some

theorem owning_some {owned : List OwnedObject} {x : Activity (Tracked σ) α}
    {r : Except Panic (α × List OwnedObject)} :
    x.owning owned m = some (r, after) ↔
      ∃ answer left, x ⟨m.now, ⟨owned, m.world⟩⟩ = some (answer, ⟨after.now, ⟨left, after.world⟩⟩) ∧
        r = answer.map fun a => (a, left) := by
  unfold owning
  match h : x ⟨m.now, ⟨owned, m.world⟩⟩ with
  | none => simp
  | some (.ok a, ⟨now, ⟨left, world⟩⟩) =>
    constructor
    next =>
      intro same
      cases same
      exact ⟨.ok a, left, rfl, rfl⟩
    next =>
      rintro ⟨answer, rest, same, rfl⟩
      cases same
      rfl
  | some (.error p, ⟨now, ⟨left, world⟩⟩) =>
    constructor
    next =>
      intro same
      cases same
      exact ⟨.error p, left, rfl, rfl⟩
    next =>
      rintro ⟨answer, rest, same, rfl⟩
      cases same
      rfl

theorem check_some {name : String} {work : Activity σ (Except Error Unit)}
    {r : Except Panic Check} :
    Check.run name work m = some (r, after) ↔
      ∃ outcome, work m = some (outcome, after) ∧
        r = .ok (.ofOutcome name (after.now - m.now) outcome) := by
  unfold Check.run
  match h : work m with
  | none => simp
  | some (outcome, mid) =>
    constructor
    next =>
      intro same
      cases same
      exact ⟨outcome, rfl, rfl⟩
    next =>
      rintro ⟨other, same, rfl⟩
      cases same
      rfl

/-- Neither panics nor waits for ever. -/
def Returns (x : Activity σ α) : Prop := ∀ m, ∃ a after, x m = some (.ok a, after)

theorem pure_returns (a : α) : (pure a : Activity σ α).Returns := fun m => ⟨a, m, rfl⟩

theorem change_returns (f : σ → α × σ) : (change f).Returns := fun _ => ⟨_, _, rfl⟩

theorem sleep_returns (delay : Nat) : (sleep delay : Activity σ Unit).Returns :=
  fun _ => ⟨(), _, rfl⟩

theorem bind_returns {x : Activity σ α} {f : α → Activity σ β} (first : x.Returns)
    (rest : ∀ a, (f a).Returns) : (x >>= f).Returns := by
  intro m
  obtain ⟨a, mid, begun⟩ := first m
  obtain ⟨b, after, ended⟩ := rest a mid
  exact ⟨b, after, bind_ok.2 ⟨a, mid, begun, ended⟩⟩

theorem Returns.bind_some {x : Activity σ α} {f : α → Activity σ β} {r : Except Panic β}
    (returns : x.Returns) (ran : (x >>= f) m = some (r, after)) :
    ∃ a mid, x m = some (.ok a, mid) ∧ f a mid = some (r, after) := by
  obtain ran | ⟨p, panicked, -⟩ := Activity.bind_some.1 ran
  next => exact ran
  next =>
    obtain ⟨a, mid, begun⟩ := returns m
    cases begun.symm.trans panicked

theorem within_returns {τ : Type} {x : Activity σ α} (part : Part τ σ) (inner : x.Returns) :
    (x.within part).Returns := by
  intro m
  obtain ⟨a, after, ran⟩ := inner ⟨m.now, part.get m.world⟩
  exact ⟨a, _, within_some.2 ⟨after, ran, rfl⟩⟩

/-- May wait for ever, but never panics. -/
def Calm (x : Activity σ α) : Prop := ∀ m r after, x m = some (r, after) → ∃ a, r = .ok a

theorem pure_calm (a : α) : (pure a : Activity σ α).Calm :=
  fun _ _ _ ran => ⟨a, (pure_some.1 ran).1⟩

theorem now_calm : (now : Activity σ Nat).Calm := fun _ _ _ ran => ⟨_, (now_some.1 ran).1⟩

theorem Calm.bind_some {x : Activity σ α} {f : α → Activity σ β} {r : Except Panic β}
    (calm : x.Calm) (ran : (x >>= f) m = some (r, after)) :
    ∃ a mid, x m = some (.ok a, mid) ∧ f a mid = some (r, after) := by
  obtain ran | ⟨p, panicked, -⟩ := Activity.bind_some.1 ran
  next => exact ran
  next =>
    obtain ⟨a, same⟩ := calm m _ after panicked
    cases same

theorem bind_calm {x : Activity σ α} {f : α → Activity σ β} (first : x.Calm)
    (rest : ∀ a, (f a).Calm) : (x >>= f).Calm := by
  intro m r after ran
  obtain ⟨a, mid, -, ended⟩ := first.bind_some ran
  exact rest a mid r after ended

theorem owning_calm {x : Activity (Tracked σ) α} (inner : x.Calm) (owned : List OwnedObject) :
    (x.owning owned).Calm := by
  intro m r after ran
  obtain ⟨answer, left, ended, rfl⟩ := owning_some.1 ran
  obtain ⟨a, rfl⟩ := inner _ answer _ ended
  exact ⟨_, rfl⟩

theorem check_calm (name : String) (work : Activity σ (Except Error Unit)) :
    (Check.run name work).Calm := by
  intro m r after ran
  obtain ⟨outcome, -, same⟩ := check_some.1 ran
  exact ⟨_, same⟩

/-- May panic, but never waits for ever. -/
def Completes (x : Activity σ α) : Prop := ∀ m, ∃ r after, x m = some (r, after)

theorem Returns.completes {x : Activity σ α} (returns : x.Returns) : x.Completes := by
  intro m
  obtain ⟨a, after, ran⟩ := returns m
  exact ⟨.ok a, after, ran⟩

theorem pure_completes (a : α) : (pure a : Activity σ α).Completes := (pure_returns a).completes

theorem bind_completes {x : Activity σ α} {f : α → Activity σ β} (first : x.Completes)
    (rest : ∀ a, (f a).Completes) : (x >>= f).Completes := by
  intro m
  obtain ⟨r, mid, begun⟩ := first m
  cases r with
  | ok a =>
    obtain ⟨r, after, ended⟩ := rest a mid
    exact ⟨r, after, bind_some.2 (.inl ⟨a, mid, begun, ended⟩)⟩
  | error p => exact ⟨.error p, mid, bind_some.2 (.inr ⟨p, begun, rfl⟩)⟩

theorem within_completes {τ : Type} {x : Activity σ α} (part : Part τ σ) (inner : x.Completes) :
    (x.within part).Completes := by
  intro m
  obtain ⟨r, after, ran⟩ := inner ⟨m.now, part.get m.world⟩
  exact ⟨r, _, within_some.2 ⟨after, ran, rfl⟩⟩

theorem owning_returns {x : Activity (Tracked σ) α} (inner : x.Returns)
    (owned : List OwnedObject) : (x.owning owned).Returns := by
  intro m
  obtain ⟨a, after, ran⟩ := inner ⟨m.now, ⟨owned, m.world⟩⟩
  exact ⟨_, ⟨after.now, after.world.world⟩, owning_some.2 ⟨_, after.world.owned, ran, rfl⟩⟩

theorem owning_completes {x : Activity (Tracked σ) α} (inner : x.Completes)
    (owned : List OwnedObject) : (x.owning owned).Completes := by
  intro m
  obtain ⟨r, after, ran⟩ := inner ⟨m.now, ⟨owned, m.world⟩⟩
  exact ⟨_, ⟨after.now, after.world.world⟩, owning_some.2 ⟨r, after.world.owned, ran, rfl⟩⟩

theorem check_returns (name : String) {work : Activity σ (Except Error Unit)}
    (completes : work.Completes) : (Check.run name work).Returns := by
  -- A check catches panics, so what may panic is a check that fails.
  intro m
  obtain ⟨outcome, after, ran⟩ := completes m
  exact ⟨_, after, check_some.2 ⟨outcome, ran, rfl⟩⟩

structure Composes {τ σ : Type} (R : ∀ {α : Type}, Activity τ α → Activity σ α → Prop) :
    Prop where
  given : ∀ {α : Type} (a : α), R (pure a) (pure a)
  bound : ∀ {α β : Type} {x : Activity τ α} {y : Activity σ α} {f : α → Activity τ β}
    {g : α → Activity σ β}, R x y → (∀ a, R (f a) (g a)) → R (x >>= f) (y >>= g)

theorem Composes.andThen {τ : Type} {R : ∀ {α : Type}, Activity τ α → Activity σ α → Prop}
    (composes : Composes R) {x : Activity τ (Except Error α)} {y : Activity σ (Except Error α)}
    {f : α → Activity τ (Except Error β)} {g : α → Activity σ (Except Error β)} (first : R x y)
    (rest : ∀ a, R (f a) (g a)) : R (x.andThen f) (y.andThen g) := by
  refine composes.bound first fun answer => ?_
  cases answer with
  | ok a => exact rest a
  | error e => exact composes.given _

theorem returns_composes : Composes fun {α} (x _ : Activity σ α) => x.Returns :=
  ⟨pure_returns, bind_returns⟩

theorem calm_composes : Composes fun {α} (x _ : Activity σ α) => x.Calm :=
  ⟨pure_calm, bind_calm⟩

theorem completes_composes : Composes fun {α} (x _ : Activity σ α) => x.Completes :=
  ⟨pure_completes, bind_completes⟩

/-- Whatever comes of the activity, `I` holds of the world after it if it held before. -/
def Keeps (I : σ → Prop) (x : Activity σ α) : Prop :=
  ∀ m r after, x m = some (r, after) → I m.world → I after.world

variable {I : σ → Prop}

theorem pure_keeps (a : α) : (pure a : Activity σ α).Keeps I := by
  intro m r after ran holds
  obtain ⟨rfl, rfl⟩ := pure_some.1 ran
  exact holds

theorem bind_keeps {x : Activity σ α} {f : α → Activity σ β} (first : x.Keeps I)
    (rest : ∀ a, (f a).Keeps I) : (x >>= f).Keeps I := by
  intro m r after ran holds
  obtain ⟨a, mid, begun, ended⟩ | ⟨p, begun, -⟩ := bind_some.1 ran
  next => exact rest a mid r after ended (first m _ mid begun holds)
  next => exact first m _ after begun holds

theorem keeps_composes : Composes fun {α} (x _ : Activity σ α) => x.Keeps I :=
  ⟨pure_keeps, bind_keeps⟩

theorem change_keeps {f : σ → α × σ} (kept : ∀ w, I w → I (f w).2) : (change f).Keeps I := by
  intro m r after ran holds
  obtain ⟨-, rfl⟩ := change_some.1 ran
  exact kept m.world holds

theorem sleep_keeps (delay : Nat) : (sleep delay : Activity σ Unit).Keeps I := by
  intro m r after ran holds
  cases ran
  exact holds

theorem tracked_keeps {x : Activity σ α} (kept : x.Keeps I) :
    (x.within Tracked.inner).Keeps fun t => I t.world := by
  intro m r after ran holds
  obtain ⟨last, inner, rfl⟩ := tracked_some.1 ran
  exact kept _ r last inner holds

theorem check_keeps {name : String} {work : Activity σ (Except Error Unit)} (kept : work.Keeps I) :
    (Check.run name work).Keeps I := by
  intro m r after ran holds
  obtain ⟨outcome, worked, -⟩ := check_some.1 ran
  exact kept m outcome after worked holds

end ShareCheck.Activity

namespace ShareCheck.Check

variable {σ : Type} {m after : Moment σ}

@[simp] theorem ofResult_passed (name : String) (duration : Nat) (r : Except Error Unit) :
    (ofResult name duration r).passed = r.isOk := by
  cases r <;> rfl

@[simp] theorem ofOutcome_name (name : String) (duration : Nat)
    (outcome : Except Panic (Except Error Unit)) :
    (ofOutcome name duration outcome).name = name := by
  match outcome with
  | .ok (.ok ()) => rfl
  | .ok (.error _) => rfl
  | .error _ => rfl

@[simp] theorem ofOutcome_duration (name : String) (duration : Nat)
    (outcome : Except Panic (Except Error Unit)) :
    (ofOutcome name duration outcome).duration = duration := by
  match outcome with
  | .ok (.ok ()) => rfl
  | .ok (.error _) => rfl
  | .error _ => rfl

theorem run_name {name : String} {work : Activity σ (Except Error Unit)} {check : Check}
    (ran : run name work m = some (.ok check, after)) : check.name = name := by
  obtain ⟨outcome, -, same⟩ := Activity.check_some.1 ran
  cases same
  exact ofOutcome_name _ _ _

theorem ofOutcome_passed {name : String} {duration : Nat}
    {outcome : Except Panic (Except Error Unit)} :
    (ofOutcome name duration outcome).passed = true ↔ outcome = .ok (.ok ()) := by
  match outcome with
  | .ok (.ok ()) => exact ⟨fun _ => rfl, fun _ => rfl⟩
  | .ok (.error e) => exact ⟨nofun, nofun⟩
  | .error p => exact ⟨nofun, nofun⟩

theorem run_passed {name : String} {work : Activity σ (Except Error Unit)} {check : Check}
    (ran : run name work m = some (.ok check, after)) (passed : check.passed = true) :
    work m = some (.ok (.ok ()), after) := by
  obtain ⟨outcome, worked, same⟩ := Activity.check_some.1 ran
  cases same
  rwa [ofOutcome_passed.1 passed] at worked

end ShareCheck.Check
