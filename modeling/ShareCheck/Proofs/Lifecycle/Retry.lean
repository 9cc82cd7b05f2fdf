import Mathlib.Data.List.Infix
import ShareCheck.Proofs.Lifecycle.Balance
import ShareCheck.Proofs.Scripted.World

set_option autoImplicit false

namespace ShareCheck

variable {σ κ α β : Type} {key : FixtureObject → κ} {objects : σ → Set κ}

/-- An object is created exactly if it is absent, and a call that fails is without effect. -/
structure FixtureClient.FillsIn (client : FixtureClient σ) (key : FixtureObject → κ)
    (objects : σ → Set κ) : Prop where
  created : ∀ o m after, client.ensure o m = some (.ok (.ok .created), after) →
    key o ∉ objects m.world ∧ objects after.world = insert (key o) (objects m.world)
  present : ∀ o m after, client.ensure o m = some (.ok (.ok .alreadyPresent), after) →
    key o ∈ objects m.world ∧ objects after.world = objects m.world
  failed : ∀ o m r after, client.ensure o m = some (r, after) → (∀ e, r ≠ .ok (.ok e)) →
    objects after.world = objects m.world

theorem FixtureClient.CreatesAbsent.fillsIn {client : FixtureClient σ}
    (contract : client.CreatesAbsent key objects) : client.FillsIn key objects where
  created := contract.created
  present := contract.present
  failed o m r after ran other := by
    match r with
    | .ok (.ok e) => exact absurd rfl (other e)
    | .ok (.error e) => exact contract.refused o m e after ran
    | .error p => exact contract.panicked o m p after ran

def FixtureClient.Serves (client : FixtureClient σ) (calm : σ → Prop) (os : List FixtureObject) :
    Prop :=
  ∀ o ∈ os, ∀ m, calm m.world →
    ∃ e after, client.ensure o m = some (.ok (.ok e), after) ∧ calm after.world

/-! ### Objects that are asked for one after another -/

inductive Gathers (key : FixtureObject → κ) :
    Set κ → List OwnedObject → List OwnedObject → Set κ → Prop
  | done {held : Set κ} : Gathers key held [] [] held
  | create {held after : Set κ} {d : OwnedObject} {ds new : List OwnedObject} :
      key d.object ∉ held → Gathers key (insert (key d.object) held) ds new after →
        Gathers key held (d :: ds) (d :: new) after
  | keep {held after : Set κ} {d : OwnedObject} {ds new : List OwnedObject} :
      key d.object ∈ held → Gathers key held ds new after → Gathers key held (d :: ds) new after

namespace Gathers

variable {held mid after : Set κ} {ds es new more : List OwnedObject}

theorem append (first : Gathers key held ds new mid) (second : Gathers key mid es more after) :
    Gathers key held (ds ++ es) (new ++ more) after := by
  induction first with
  | done => exact second
  | create absent _ ih => exact .create absent (ih second)
  | keep present _ ih => exact .keep present (ih second)

theorem of_append (all : Gathers key held (ds ++ es) new after) :
    ∃ early late mid, new = early ++ late ∧ Gathers key held ds early mid ∧
      Gathers key mid es late after := by
  induction ds generalizing held new with
  | nil => exact ⟨[], new, held, rfl, .done, all⟩
  | cons d ds ih =>
    cases all with
    | create absent rest =>
      obtain ⟨early, late, mid, rfl, first, second⟩ := ih rest
      exact ⟨d :: early, late, mid, rfl, .create absent first, second⟩
    | keep present rest =>
      obtain ⟨early, late, mid, rfl, first, second⟩ := ih rest
      exact ⟨early, late, mid, rfl, .keep present first, second⟩

theorem unique {other : Set κ} (gathers : Gathers key held ds new after)
    (again : Gathers key held ds more other) : new = more ∧ after = other := by
  induction gathers generalizing more with
  | done =>
    cases again
    exact ⟨rfl, rfl⟩
  | create absent _ ih =>
    cases again with
    | create _ rest =>
      obtain ⟨rfl, rfl⟩ := ih rest
      exact ⟨rfl, rfl⟩
    | keep present _ => exact absurd present absent
  | keep present _ ih =>
    cases again with
    | create absent _ => exact absurd present absent
    | keep _ rest => exact ih rest

theorem grows (gathers : Gathers key held ds new after) : held ⊆ after := by
  induction gathers with
  | done => exact subset_rfl
  | create _ _ ih => exact (Set.subset_insert _ _).trans ih
  | keep _ _ ih => exact ih

theorem covers (gathers : Gathers key held ds new after) : ∀ d ∈ ds, key d.object ∈ after := by
  induction gathers with
  | done => exact nofun
  | create _ rest ih => exact List.forall_mem_cons.2 ⟨rest.grows (Set.mem_insert _ _), ih⟩
  | keep present rest ih => exact List.forall_mem_cons.2 ⟨rest.grows present, ih⟩

theorem of_held (present : ∀ d ∈ ds, key d.object ∈ held) : Gathers key held ds [] held := by
  induction ds with
  | nil => exact .done
  | cons d ds ih =>
    obtain ⟨here, later⟩ := List.forall_mem_cons.1 present
    exact .keep here (ih later)

theorem resume (first : Gathers key held ds new mid)
    (again : Gathers key mid (ds ++ es) more after) :
    Gathers key held (ds ++ es) (new ++ more) after := by
  obtain ⟨early, late, between, rfl, repeated, rest⟩ := again.of_append
  -- The second attempt finds present all that the first one asked for.
  obtain ⟨rfl, rfl⟩ := repeated.unique (of_held first.covers)
  exact first.append rest

end Gathers

namespace Lifecycle

variable {m mid again after : Moment (Tracked σ)} {ds es : List OwnedObject}

structure SameStock (objects : σ → Set κ) (m n : Moment (Tracked σ)) : Prop where
  owned : n.world.owned = m.world.owned
  held : objects n.world.world = objects m.world.world

def Gathered (key : FixtureObject → κ) (objects : σ → Set κ) (m : Moment (Tracked σ))
    (ds : List OwnedObject) (after : Moment (Tracked σ)) : Prop :=
  ∃ new, Gathers key (objects m.world.world) ds new (objects after.world.world) ∧
    after.world.owned = m.world.owned ++ new

namespace Gathered

theorem nothing : Gathered key objects m [] m := ⟨[], .done, (List.append_nil _).symm⟩

theorem append (first : Gathered key objects m ds mid)
    (second : Gathered key objects mid es after) : Gathered key objects m (ds ++ es) after := by
  obtain ⟨early, begun, owned⟩ := first
  obtain ⟨late, ended, grown⟩ := second
  exact ⟨early ++ late, begun.append ended, by rw [grown, owned, List.append_assoc]⟩

theorem stays (gathered : Gathered key objects m ds after)
    (present : ∀ d ∈ ds, key d.object ∈ objects m.world.world) : SameStock objects m after := by
  obtain ⟨new, gathers, owned⟩ := gathered
  obtain ⟨rfl, same⟩ := gathers.unique (.of_held present)
  exact ⟨owned.trans (List.append_nil _), same⟩

theorem covers (gathered : Gathered key objects m ds after) :
    ∀ d ∈ ds, key d.object ∈ objects after.world.world := by
  obtain ⟨new, gathers, -⟩ := gathered
  exact gathers.covers

theorem unique {ideal : Moment (Tracked σ)} (gathered : Gathered key objects m ds after)
    (clean : Gathered key objects m ds ideal) : SameStock objects ideal after := by
  obtain ⟨new, gathers, owned⟩ := gathered
  obtain ⟨more, others, grown⟩ := clean
  obtain ⟨rfl, held⟩ := gathers.unique others
  exact ⟨owned.trans grown.symm, held⟩

theorem of_same (same : SameStock objects m again)
    (gathered : Gathered key objects again ds after) : Gathered key objects m ds after := by
  obtain ⟨new, gathers, owned⟩ := gathered
  exact ⟨new, same.held ▸ gathers, same.owned ▸ owned⟩

theorem resume (first : Gathered key objects m ds mid)
    (second : Gathered key objects mid (ds ++ es) after) :
    Gathered key objects m (ds ++ es) after := by
  obtain ⟨early, begun, owned⟩ := first
  obtain ⟨late, ended, grown⟩ := second
  exact ⟨early ++ late, begun.resume ended, by rw [grown, owned, List.append_assoc]⟩

theorem further {all : List OwnedObject} (first : Gathered key objects m ds mid)
    (early : ds <+: all) (second : Gathered key objects mid es after) (late : es <+: all) :
    ∃ part, part <+: all ∧ Gathered key objects m part after := by
  obtain ⟨rest, rfl⟩ | shorter := List.prefix_or_prefix_of_prefix early late
  next => exact ⟨_, late, first.resume second⟩
  next =>
    have same := second.stays fun d member => first.covers d (shorter.subset member)
    obtain ⟨new, gathers, owned⟩ := first
    exact ⟨ds, early, new, same.held ▸ gathers, same.owned.trans owned⟩

end Gathered

def Collects (key : FixtureObject → κ) (objects : σ → Set κ) (ds : List OwnedObject)
    (x : Activity (Tracked σ) (Except Error α)) : Prop :=
  ∀ m r after, x m = some (r, after) →
    ∃ part, part <+: ds ∧ Gathered key objects m part after ∧ ∀ a, r = .ok (.ok a) → part = ds

theorem Collects.whole {x : Activity (Tracked σ) (Except Error α)} {a : α}
    (collects : Collects key objects ds x) (ran : x m = some (.ok (.ok a), after)) :
    Gathered key objects m ds after := by
  obtain ⟨part, -, gathered, all⟩ := collects m _ after ran
  rwa [all a rfl] at gathered

theorem Collects.stays {x : Activity (Tracked σ) (Except Error α)}
    {r : Except Panic (Except Error α)} (collects : Collects key objects ds x)
    (present : ∀ d ∈ ds, key d.object ∈ objects m.world.world) (ran : x m = some (r, after)) :
    SameStock objects m after := by
  obtain ⟨part, within, gathered, -⟩ := collects m r after ran
  exact gathered.stays fun d member => present d (within.subset member)

theorem pure_collects (answer : Except Error α) :
    Collects key objects [] (Activity.pure answer) := by
  intro m r after ran
  obtain ⟨-, rfl⟩ := Activity.pure_some.1 ran
  exact ⟨[], List.prefix_rfl, .nothing, fun _ _ => rfl⟩

theorem failed_collects (e : Error) (ds : List OwnedObject) :
    Collects key objects ds (Activity.pure (.error e) : Activity _ (Except Error α)) := by
  intro m r after ran
  obtain ⟨rfl, rfl⟩ := Activity.pure_some.1 ran
  exact ⟨[], List.nil_prefix, .nothing, nofun⟩

theorem andThen_collects {x : Activity (Tracked σ) (Except Error α)}
    {f : α → Activity (Tracked σ) (Except Error β)} (first : Collects key objects ds x)
    (rest : ∀ a, Collects key objects es (f a)) :
    Collects key objects (ds ++ es) (x.andThen f) := by
  intro m r after ran
  obtain ⟨a, mid, begun, ended⟩ | ⟨e, begun, rfl⟩ | ⟨p, begun, rfl⟩ := Activity.andThen_some.1 ran
  next =>
    obtain ⟨part, within, late, all⟩ := rest a mid r after ended
    exact ⟨ds ++ part, (List.prefix_append_right_inj ds).2 within, (first.whole begun).append late,
      fun b same => by rw [all b same]⟩
  next =>
    obtain ⟨part, within, early, -⟩ := first m _ after begun
    exact ⟨part, within.trans (List.prefix_append ds es), early, nofun⟩
  next =>
    obtain ⟨part, within, early, -⟩ := first m _ after begun
    exact ⟨part, within.trans (List.prefix_append ds es), early, nofun⟩

/-! ### What a setup collects -/

variable {client : FixtureClient σ}

theorem ensureObject_cases {f : Fixture} {o : FixtureObject}
    {r : Except Panic (Except Error Ensured)} (contract : client.FillsIn key objects)
    (ran : ensureObject client f o m = some (r, after)) :
    (r = .ok (.ok .created) ∧ key o ∉ objects m.world.world ∧
        objects after.world.world = insert (key o) (objects m.world.world) ∧
        after.world.owned = m.world.owned ++ [⟨f, o⟩]) ∨
      (r = .ok (.ok .alreadyPresent) ∧ key o ∈ objects m.world.world ∧
        SameStock objects m after) ∨
      (∀ e, r ≠ .ok (.ok e)) ∧ SameStock objects m after := by
  unfold ensureObject at ran
  obtain ⟨answer, mid, called, rest⟩ | ⟨p, called, rfl⟩ := Activity.bind_some.1 ran
  next =>
    obtain ⟨last, asked, rfl⟩ := Activity.tracked_some.1 called
    match answer with
    | .ok .created =>
      obtain ⟨⟨⟩, grown, changed, ended⟩ | ⟨p, changed, -⟩ := Activity.bind_some.1 rest
      next =>
        obtain ⟨-, rfl⟩ := Activity.change_some.1 changed
        obtain ⟨rfl, rfl⟩ := Activity.pure_some.1 ended
        obtain ⟨absent, made⟩ := contract.created o _ last asked
        exact .inl ⟨rfl, absent, made, rfl⟩
      next =>
        obtain ⟨⟨⟩, -⟩ := Activity.change_some.1 changed
    | .ok .alreadyPresent =>
      obtain ⟨rfl, rfl⟩ := Activity.pure_some.1 rest
      obtain ⟨present, same⟩ := contract.present o _ last asked
      exact .inr (.inl ⟨rfl, present, rfl, same⟩)
    | .error e =>
      obtain ⟨rfl, rfl⟩ := Activity.pure_some.1 rest
      exact .inr (.inr ⟨nofun, rfl, contract.failed o _ _ last asked nofun⟩)
  next =>
    obtain ⟨last, asked, rfl⟩ := Activity.tracked_some.1 called
    exact .inr (.inr ⟨nofun, rfl, contract.failed o _ _ last asked nofun⟩)

theorem ensureObject_collects (contract : client.FillsIn key objects) (f : Fixture)
    (o : FixtureObject) : Collects key objects [⟨f, o⟩] (ensureObject client f o) := by
  intro m r after ran
  obtain ⟨-, absent, made, owned⟩ | ⟨-, present, same⟩ | ⟨failed, same⟩ :=
    ensureObject_cases contract ran
  next =>
    refine ⟨_, List.prefix_rfl, ⟨[⟨f, o⟩], .create absent ?_, owned⟩, fun _ _ => rfl⟩
    exact made ▸ .done
  next =>
    refine ⟨_, List.prefix_rfl, .of_same same ⟨[], .keep ?_ .done, by simp⟩, fun _ _ => rfl⟩
    exact same.held ▸ present
  next =>
    exact ⟨[], List.nil_prefix, .of_same same .nothing,
      fun e answered => absurd answered (failed e)⟩

theorem ensureObjects_collects (contract : client.FillsIn key objects) (f : Fixture)
    (outcome : Ensured) (os : List FixtureObject) :
    Collects key objects (os.map (OwnedObject.mk f)) (ensureObjects client f outcome os) := by
  induction os generalizing outcome with
  | nil => exact pure_collects _
  | cons o os ih => exact andThen_collects (ensureObject_collects contract f o) fun _ => ih _

end Lifecycle

def Fixture.declared (files : Files) (f : Fixture) : List OwnedObject :=
  match f.load files with
  | .ok os => os.map (OwnedObject.mk f)
  | .error _ => []

theorem Fixture.declared_ok {files : Files} {f : Fixture} {os : List FixtureObject}
    (loaded : f.load files = .ok os) : f.declared files = os.map (OwnedObject.mk f) := by
  simp only [declared, loaded]

namespace Lifecycle

variable {client : FixtureClient σ} {m mid again after : Moment (Tracked σ)} {files sooner : Files}
  {f : Fixture} {fs : List Fixture}

/-- At an earlier attempt a file may not have been usable, but it did not declare anything else. -/
def Alike (sooner files : Files) (f : Fixture) : Prop :=
  ∀ os, f.load sooner = .ok os → f.load files = .ok os

theorem ensure_collects (contract : client.FillsIn key objects) (alike : Alike sooner files f) :
    Collects key objects (f.declared files) (ensure sooner client f) := by
  unfold ensure
  match loaded : f.load sooner with
  | .error e => exact failed_collects _ _
  | .ok os =>
    rw [Fixture.declared_ok (alike os loaded)]
    exact ensureObjects_collects contract f _ os

theorem applyAll_collects (contract : client.FillsIn key objects)
    (alike : ∀ f ∈ fs, Alike sooner files f) :
    Collects key objects (fs.flatMap (·.declared files)) (applyAll sooner client fs) := by
  induction fs with
  | nil => exact pure_collects _
  | cons f fs ih =>
    obtain ⟨here, later⟩ := List.forall_mem_cons.1 alike
    exact andThen_collects (ensure_collects contract here) fun _ => ih later

/-- Attempts at setting up the same fixtures, each of them ended in whatever way, from one moment to
another. In between, objects are neither made nor lost. -/
inductive Attempts (objects : σ → Set κ) (client : FixtureClient σ) (files : Files)
    (fs : List Fixture) : Moment (Tracked σ) → Moment (Tracked σ) → Prop
  | none {m : Moment (Tracked σ)} : Attempts objects client files fs m m
  | more {m mid again after : Moment (Tracked σ)} {sooner : Files}
      {r : Except Panic (Except Error Unit)} :
      Attempts objects client files fs m mid → SameStock objects mid again →
        (∀ f ∈ fs, Alike sooner files f) → applyAll sooner client fs again = some (r, after) →
          Attempts objects client files fs m after

theorem Attempts.gathered (contract : client.FillsIn key objects)
    (attempts : Attempts objects client files fs m after) :
    ∃ part, part <+: fs.flatMap (·.declared files) ∧ Gathered key objects m part after := by
  induction attempts with
  | none => exact ⟨[], List.nil_prefix, .nothing⟩
  | more _ same alike ran ih =>
    obtain ⟨ds, early, first⟩ := ih
    obtain ⟨es, late, second, -⟩ := applyAll_collects contract alike _ _ _ ran
    exact first.further early (.of_same same second) late

/-! ### Setups that meet no fault -/

variable {calm : σ → Prop}

def Succeeds (calm : σ → Prop) (x : Activity (Tracked σ) (Except Error α)) : Prop :=
  ∀ m, calm m.world.world → ∃ a after, x m = some (.ok (.ok a), after) ∧ calm after.world.world

theorem pure_succeeds (a : α) : Succeeds calm (Activity.pure (.ok a)) :=
  fun m holds => ⟨a, m, rfl, holds⟩

theorem andThen_succeeds {x : Activity (Tracked σ) (Except Error α)}
    {f : α → Activity (Tracked σ) (Except Error β)} (first : Succeeds calm x)
    (rest : ∀ a, Succeeds calm (f a)) : Succeeds calm (x.andThen f) := by
  intro m holds
  obtain ⟨a, mid, begun, still⟩ := first m holds
  obtain ⟨b, after, ended, last⟩ := rest a mid still
  exact ⟨b, after, Activity.andThen_ok.2 ⟨a, mid, begun, ended⟩, last⟩

theorem ensureObject_succeeds {o : FixtureObject} (served : client.Serves calm [o]) (f : Fixture) :
    Succeeds calm (ensureObject client f o) := by
  intro m holds
  obtain ⟨e, last, asked, still⟩ :=
    served o (List.mem_singleton_self o) ⟨m.now, m.world.world⟩ holds
  have called := Activity.tracked_some.2 ⟨last, asked, rfl⟩
  cases e with
  | created =>
    exact ⟨_, ⟨last.now, ⟨m.world.owned ++ [⟨f, o⟩], last.world⟩⟩,
      Activity.bind_ok.2 ⟨_, _, called, rfl⟩, still⟩
  | alreadyPresent => exact ⟨_, _, Activity.bind_ok.2 ⟨_, _, called, rfl⟩, still⟩

theorem ensureObjects_succeeds {os : List FixtureObject} (served : client.Serves calm os)
    (f : Fixture) (outcome : Ensured) : Succeeds calm (ensureObjects client f outcome os) := by
  induction os generalizing outcome with
  | nil => exact pure_succeeds outcome
  | cons o os ih =>
    obtain ⟨here, later⟩ := List.forall_mem_cons.1 served
    exact andThen_succeeds (ensureObject_succeeds (List.forall_mem_singleton.2 here) f)
      fun _ => ih later _

def Usable (client : FixtureClient σ) (calm : σ → Prop) (files : Files) (f : Fixture) : Prop :=
  ∃ os, f.load files = .ok os ∧ client.Serves calm os

theorem ensure_succeeds (usable : Usable client calm files f) :
    Succeeds calm (ensure files client f) := by
  obtain ⟨os, loaded, served⟩ := usable
  simp only [ensure, loaded]
  exact ensureObjects_succeeds served f _

theorem applyAll_succeeds (usable : ∀ f ∈ fs, Usable client calm files f) :
    Succeeds calm (applyAll files client fs) := by
  induction fs with
  | nil => exact pure_succeeds ()
  | cons f fs ih =>
    obtain ⟨here, later⟩ := List.forall_mem_cons.1 usable
    exact andThen_succeeds (ensure_succeeds here) fun _ => ih later

/-! ### Setups that find everything present -/

theorem ensureObjects_present {os : List FixtureObject} {e : Ensured}
    (contract : client.FillsIn key objects) (present : ∀ o ∈ os, key o ∈ objects m.world.world)
    (ran : ensureObjects client f .alreadyPresent os m = some (.ok (.ok e), after)) :
    e = .alreadyPresent := by
  induction os generalizing m with
  | nil =>
    obtain ⟨⟨⟩, -⟩ := Activity.pure_some.1 ran
    rfl
  | cons o os ih =>
    obtain ⟨here, later⟩ := List.forall_mem_cons.1 present
    obtain ⟨a, mid, first, rest⟩ := Activity.andThen_ok.1 ran
    obtain ⟨-, absent, -⟩ | ⟨⟨⟩, -, same⟩ | ⟨failed, -⟩ := ensureObject_cases contract first
    next => exact absurd here absent
    next => exact ih (same.held ▸ later) rest
    next => exact absurd rfl (failed a)

theorem ensure_present {e : Ensured} (contract : client.FillsIn key objects)
    (present : ∀ d ∈ f.declared files, key d.object ∈ objects m.world.world)
    (ran : ensure files client f m = some (.ok (.ok e), after)) : e = .alreadyPresent := by
  unfold ensure at ran
  match loaded : f.load files with
  | .error cause =>
    simp only [loaded] at ran
    obtain ⟨⟨⟩, -⟩ := Activity.pure_some.1 ran
  | .ok os =>
    simp only [loaded] at ran
    rw [Fixture.declared_ok loaded] at present
    exact ensureObjects_present contract
      (fun o member => present _ (List.mem_map_of_mem member)) ran

/-- However many attempts failed, and wherever, the one that meets no fault leaves the objects and
the owned ones as a single attempt would have left them. After one that answered well, setups
create nothing. -/
theorem retry_converges (contract : client.FillsIn key objects)
    (usable : ∀ f ∈ fs, Usable client calm files f) :
    (∀ m stopped again start, Attempts objects client files fs m stopped →
      SameStock objects stopped again → calm again.world.world →
      SameStock objects m start → calm start.world.world →
      ∃ done ideal, applyAll files client fs again = some (.ok (.ok ()), done) ∧
        applyAll files client fs start = some (.ok (.ok ()), ideal) ∧
        SameStock objects ideal done) ∧
    ∀ m done later, applyAll files client fs m = some (.ok (.ok ()), done) →
      SameStock objects done later →
      (∀ r after, applyAll files client fs later = some (r, after) →
        SameStock objects later after) ∧
      ∀ f ∈ fs,
        (∀ r after, ensure files client f later = some (r, after) →
          SameStock objects later after ∧ ∀ e, r = .ok (.ok e) → e = .alreadyPresent) ∧
        (calm later.world.world → ∃ after,
          ensure files client f later = some (.ok (.ok .alreadyPresent), after)) := by
  have collects : Collects key objects (fs.flatMap (·.declared files)) (applyAll files client fs) :=
    applyAll_collects contract fun _ _ _ => id
  refine ⟨fun m stopped again start attempts same quiet clean still => ?_,
    fun m done later succeeded same => ?_⟩
  next =>
    obtain ⟨⟨⟩, done, ran, -⟩ := applyAll_succeeds usable again quiet
    obtain ⟨⟨⟩, ideal, alone, -⟩ := applyAll_succeeds usable start still
    obtain ⟨part, ⟨rest, whole⟩, early⟩ := attempts.gathered contract
    -- What the attempts asked for is a beginning, so the last one goes on from there.
    rw [← whole] at collects
    have resumed := early.resume (.of_same same (collects.whole ran))
    exact ⟨done, ideal, ran, alone, resumed.unique (.of_same clean (collects.whole alone))⟩
  next =>
    have present : ∀ d ∈ fs.flatMap (·.declared files), key d.object ∈ objects later.world.world :=
      same.held ▸ (collects.whole succeeded).covers
    refine ⟨fun r after ran => collects.stays present ran, fun f member => ?_⟩
    have here : ∀ d ∈ f.declared files, key d.object ∈ objects later.world.world :=
      fun d declared => present d (List.mem_flatMap.2 ⟨f, member, declared⟩)
    have repeats : Collects key objects (f.declared files) (ensure files client f) :=
      ensure_collects contract fun _ => id
    refine ⟨fun r after ran => ⟨repeats.stays here ran, ?_⟩, fun quiet => ?_⟩
    next =>
      rintro e rfl
      exact ensure_present contract here ran
    next =>
      obtain ⟨e, after, ran, -⟩ := ensure_succeeds (usable f member) later quiet
      obtain rfl := ensure_present contract here ran
      exact ⟨after, ran⟩

open Scripted

def unhindered (w : World) : Prop := w.cluster.ensureFaults = Table.empty

theorem fixtures_serve (os : List FixtureObject) :
    World.collaborators.fixtures.Serves unhindered os := by
  intro o _ m quiet
  have plain : (m.world.cluster.ensureFaults.get? o.text).getD {} = {} := by
    rw [quiet]
    rfl
  have answered : ∃ e c, Activity.perform (Cluster.ensure o) ⟨m.now, m.world.cluster⟩ =
      some (.ok (.ok e), ⟨m.now, c⟩) ∧ c.ensureFaults = m.world.cluster.ensureFaults := by
    let c := m.world.cluster.log ("ensure " ++ o.text)
    unfold Activity.perform Cluster.ensure
    simp only [plain]
    by_cases there : c.holds o.text = true
    next => exact ⟨.alreadyPresent, c, by simp [Effect.before, c, there], rfl⟩
    next =>
      exact ⟨.created, { c with objects := c.objects.insert o.text () },
        by simp [Effect.before, c, there], rfl⟩
  obtain ⟨e, c, asked, same⟩ := answered
  exact ⟨e, ⟨m.now, { m.world with cluster := c }⟩,
    Activity.within_some.2 ⟨⟨m.now, c⟩, asked, rfl⟩, same.trans quiet⟩

def shelves : List Fixture :=
  [⟨⟨"a.yaml"⟩, "cellar"⟩, ⟨⟨"a.yaml"⟩, "attic"⟩, ⟨⟨"b.yaml"⟩, "attic"⟩]

theorem shelves_usable :
    ∀ f ∈ shelves, Usable World.collaborators.fixtures unhindered oneSecret f := by
  have loads : ∀ f ∈ shelves, (f.load oneSecret).isOk = true := by decide +kernel
  intro f member
  match loaded : f.load oneSecret with
  | .ok os => exact ⟨os, loaded, fixtures_serve os⟩
  | .error e => simpa [loaded, Except.isOk, Except.toBool] using loads f member

def filesGone : Files := fun _ => .error .missing

theorem filesGone_alike (files : Files) (f : Fixture) : Alike filesGone files f := by
  intro os loaded
  simp [Fixture.load, Files.readText, filesGone] at loaded

def cluster (faults : Table Effect) : Moment (Tracked World) :=
  ⟨0, ⟨[], { cluster := { ensureFaults := faults } }⟩⟩

def repaired (m : Moment (Tracked World)) : Moment (Tracked World) :=
  ⟨m.now, ⟨m.world.owned, { m.world.world with
    cluster := { m.world.world.cluster with ensureFaults := Table.empty } }⟩⟩

theorem repaired_same (m : Moment (Tracked World)) : SameStock World.held m (repaired m) :=
  ⟨rfl, rfl⟩

def ownedThroughs (m : Moment (Tracked World)) : List String := m.world.owned.map (·.fixture.ns)

theorem retry_converges_shelves :
    World.collaborators.fixtures.FillsIn FixtureObject.text World.held ∧
      (∀ f ∈ shelves, Usable World.collaborators.fixtures unhindered oneSecret f) ∧
      ∃ first second third alone : Moment (Tracked World),
        Attempts World.held World.collaborators.fixtures oneSecret shelves
          (cluster (Table.empty.insert "Secret attic/a" { error := some (.io "refused") })) second ∧
        ownedThroughs first = ["cellar"] ∧ ownedThroughs second = ["cellar"] ∧
        applyAll oneSecret World.collaborators.fixtures shelves (repaired second) =
          some (.ok (.ok ()), third) ∧
        ownedThroughs third = ["cellar", "attic"] ∧
        applyAll oneSecret World.collaborators.fixtures shelves (cluster Table.empty) =
          some (.ok (.ok ()), alone) ∧
        SameStock World.held alone third ∧
        (∃ after, applyAll oneSecret World.collaborators.fixtures shelves (repaired third) =
          some (.ok (.ok ()), after) ∧ SameStock World.held (repaired third) after) ∧
        ∀ f ∈ shelves, ∃ after, ensure oneSecret World.collaborators.fixtures f (repaired third) =
          some (.ok (.ok .alreadyPresent), after) ∧ SameStock World.held (repaired third) after := by
  have run : ((applyAll oneSecret World.collaborators.fixtures shelves
      (cluster (Table.empty.insert "Secret attic/a" { error := some (.io "refused") }))).bind
      fun one => (applyAll filesGone World.collaborators.fixtures shelves
        (repaired one.2)).map fun two => (ownedThroughs one.2, ownedThroughs two.2)) =
      some (["cellar"], ["cellar"]) := by
    decide +kernel
  have plain : (applyAll oneSecret World.collaborators.fixtures shelves (cluster Table.empty)).map
      (fun done => ownedThroughs done.2) = some ["cellar", "attic"] := by
    decide +kernel
  simp only [Option.bind_eq_some_iff, Option.map_eq_some_iff] at run
  obtain ⟨⟨r, first⟩, begun, ⟨s, second⟩, went, same⟩ := run
  simp only [Prod.mk.injEq] at same
  obtain ⟨one, two⟩ := same
  have attempts := (Attempts.more .none ⟨rfl, rfl⟩ (fun _ _ _ => id) begun).more
    (repaired_same first) (fun f _ => filesGone_alike oneSecret f) went
  obtain ⟨converges, settled⟩ := retry_converges World.fixtures_createsAbsent.fillsIn shelves_usable
  obtain ⟨third, alone, ran, single, stock⟩ := converges _ second (repaired second)
    (cluster Table.empty) attempts (repaired_same second) rfl ⟨rfl, rfl⟩ rfl
  rw [single] at plain
  have three : ownedThroughs third = ["cellar", "attic"] := by
    simpa [ownedThroughs, stock.owned] using plain
  obtain ⟨stays, repeats⟩ := settled _ third (repaired third) ran (repaired_same third)
  obtain ⟨⟨⟩, fourth, more, -⟩ := applyAll_succeeds shelves_usable (repaired third) rfl
  refine ⟨World.fixtures_createsAbsent.fillsIn, shelves_usable, first, second, third, alone,
    attempts, one, two, ran, three, single, stock, ⟨fourth, more, stays _ _ more⟩,
    fun f member => ?_⟩
  obtain ⟨after, ensured⟩ := (repeats f member).2 rfl
  exact ⟨after, ensured, ((repeats f member).1 _ _ ensured).1⟩

end Lifecycle

end ShareCheck
