import ShareCheck.Proofs.Lifecycle.Relation
import ShareCheck.Proofs.Trace

set_option autoImplicit false

namespace ShareCheck

variable {σ : Type}

inductive FixtureClient.Calls (client : FixtureClient σ) : Moment σ → Trace → Moment σ → Prop
  | none {m : Moment σ} : Calls client m [] m
  | ensure {m mid after : Moment σ} {o : FixtureObject}
      {answer : Except Panic (Except Error Ensured)} {t : Trace} :
      client.ensure o m = some (answer, mid) → Calls client mid t after →
        Calls client m (.began (.ensure o) :: .ended (.ensure o) answer :: t) after
  | remove {m mid after : Moment σ} {o : FixtureObject}
      {answer : Except Panic (Except Error Unit)} {t : Trace} :
      client.remove o m = some (answer, mid) → Calls client mid t after →
        Calls client m (.began (.remove o) :: .ended (.remove o) answer :: t) after

theorem FixtureClient.Calls.append {client : FixtureClient σ} {m mid after : Moment σ}
    {t u : Trace} (first : client.Calls m t mid) (second : client.Calls mid u after) :
    client.Calls m (t ++ u) after := by
  induction first with
  | none => exact second
  | ensure answered _ ih => exact .ensure answered (ih second)
  | remove answered _ ih => exact .remove answered (ih second)

theorem FixtureClient.Calls.removed_eq {client : FixtureClient σ} {m after : Moment σ} {t : Trace}
    (calls : client.Calls m t after) (none : t.requested = [])
    (answered : ∀ o p, Entry.ended (.remove o) (.error p) ∉ t) (all : t.unremoved = []) :
    t.removed = t.handed := by
  induction calls with
  | none => rfl
  | ensure => cases none
  | @remove m mid after o answer t _ _ ih =>
    match answer with
    | .ok (.ok ()) =>
      have rest := ih none (fun other p member => answered other p (by simp [member])) all
      exact congrArg (o :: ·) rest
    | .ok (.error e) => cases all
    | .error p => exact absurd (by simp) (answered o p)

theorem FixtureClient.Calls.panicked_eq_nil {client : FixtureClient σ} {m after : Moment σ}
    {t : Trace} (calls : client.Calls m t after) (none : t.handed = []) : t.panicked = [] := by
  induction calls with
  | none => rfl
  | @ensure m mid after o answer t _ _ ih => exact ih none
  | remove => cases none

theorem FixtureClient.Calls.asked {client : FixtureClient σ} {m after : Moment σ} {t : Trace}
    (calls : client.Calls m t after) :
    ∀ e ∈ t, (∃ o ∈ t.requested, e.operation = .ensure o) ∨
      ∃ o ∈ t.handed, e.operation = .remove o := by
  induction calls with
  | none => exact nofun
  | @ensure m mid after o answer t _ _ ih =>
    have here : o ∈ Trace.requested (.began (.ensure o) :: .ended (.ensure o) answer :: t) :=
      List.mem_cons_self ..
    refine List.forall_mem_cons.2 ⟨.inl ⟨o, here, rfl⟩,
      List.forall_mem_cons.2 ⟨.inl ⟨o, here, rfl⟩, fun e member => ?_⟩⟩
    exact (ih e member).imp_left fun ⟨other, asked, same⟩ =>
      ⟨other, List.mem_cons_of_mem _ asked, same⟩
  | @remove m mid after o answer t _ _ ih =>
    have here : o ∈ Trace.handed (.began (.remove o) :: .ended (.remove o) answer :: t) :=
      List.mem_cons_self ..
    refine List.forall_mem_cons.2 ⟨.inr ⟨o, here, rfl⟩,
      List.forall_mem_cons.2 ⟨.inr ⟨o, here, rfl⟩, fun e member => ?_⟩⟩
    exact (ih e member).imp_right fun ⟨other, asked, same⟩ =>
      ⟨other, List.mem_cons_of_mem _ asked, same⟩

theorem FixtureClient.Calls.created_requested {client : FixtureClient σ} {m after : Moment σ}
    {t : Trace} (calls : client.Calls m t after) : t.created.Sublist t.requested := by
  induction calls with
  | none => exact .refl _
  | @ensure m mid after o answer t _ _ ih =>
    match answer with
    | .ok (.ok .created) => exact ih.cons_cons o
    | .ok (.ok .alreadyPresent) => exact ih.cons o
    | .ok (.error _) => exact ih.cons o
    | .error _ => exact ih.cons o
  | remove _ _ ih => exact ih

structure FixtureClient.Answers (client : FixtureClient σ) : Prop where
  ensure : ∀ o, (client.ensure o).Returns
  remove : ∀ o, (client.remove o).Returns

theorem Activity.traced_returns {o : Operation} {x : Activity σ (Except Error o.Answer)}
    (returns : x.Returns) : (Activity.traced o x).Returns := by
  intro m
  obtain ⟨answer, after, ran⟩ := returns ⟨m.now, m.world.world⟩
  exact ⟨answer, _, by simp only [Activity.traced, ran]; rfl⟩

theorem FixtureClient.Answers.traced {client : FixtureClient σ} (answers : client.Answers) :
    client.traced.Answers where
  ensure o := Activity.traced_returns (o := .ensure o) (answers.ensure o)
  remove o := Activity.traced_returns (o := .remove o) (answers.remove o)

theorem FixtureClient.Answers.relates {client : FixtureClient σ} (answers : client.Answers) :
    Lifecycle.Relates client client fun x _ => x.Returns where
  toComposes := Activity.returns_composes
  owned _ _ := Activity.change_returns _
  taken _ := Activity.change_returns _
  ensured o := Activity.within_returns _ (answers.ensure o)
  removed o := Activity.within_returns _ (answers.remove o)

def Error.IsSetup (e : Error) : Prop := ∃ fixture message, e = .setup fixture message

def Error.IsTeardown (e : Error) : Prop := ∃ fixture message, e = .teardown fixture message

namespace Lifecycle

variable {client : FixtureClient σ} {m mid after : Moment (Tracked (Traced σ))}

structure Made (client : FixtureClient σ) (m : Moment (Tracked (Traced σ))) (t : Trace)
    (after : Moment (Tracked (Traced σ))) : Prop where
  calls : client.Calls ⟨m.now, m.world.world.world⟩ t ⟨after.now, after.world.world.world⟩
  trace : after.world.world.trace = m.world.world.trace ++ t

theorem Made.nothing : Made client m [] m := ⟨.none, by simp⟩

theorem Made.append {t u : Trace} (first : Made client m t mid) (second : Made client mid u after) :
    Made client m (t ++ u) after where
  calls := first.calls.append second.calls
  trace := by rw [second.trace, first.trace, List.append_assoc]

theorem Made.owning {t : Trace} (made : Made client m t after) (owned : List OwnedObject) :
    Made client m t ⟨after.now, ⟨owned, after.world.world⟩⟩ :=
  ⟨made.calls, made.trace⟩

theorem Made.owned {t : Trace} {owned : List OwnedObject}
    (made : Made client ⟨m.now, ⟨owned, m.world.world⟩⟩ t after) : Made client m t after :=
  ⟨made.calls, made.trace⟩

theorem within_some {o : Operation} {x : Activity σ (Except Error o.Answer)}
    {r : Except Panic (Except Error o.Answer)}
    (ran : (Activity.traced o x).within Tracked.inner m = some (r, after)) :
    x ⟨m.now, m.world.world.world⟩ = some (r, ⟨after.now, after.world.world.world⟩) ∧
      after.world.owned = m.world.owned ∧
        after.world.world.trace = m.world.world.trace ++ [.began o, .ended o r] := by
  unfold Activity.within Activity.traced at ran
  match h : x ⟨m.now, m.world.world.world⟩ with
  | none => simp [Tracked.inner, h] at ran
  | some (answer, ⟨now, w⟩) =>
    simp only [Tracked.inner, h, Option.some.injEq, Prod.mk.injEq] at ran
    obtain ⟨rfl, rfl⟩ := ran
    exact ⟨rfl, rfl, rfl⟩

theorem ensure_made {o : FixtureObject} {r : Except Panic (Except Error Ensured)}
    (ran : (client.traced.ensure o).within Tracked.inner m = some (r, after)) :
    Made client m [.began (.ensure o), .ended (.ensure o) r] after ∧
      after.world.owned = m.world.owned := by
  obtain ⟨answered, owned, trace⟩ := within_some (o := .ensure o) ran
  exact ⟨⟨.ensure answered .none, trace⟩, owned⟩

theorem remove_made {o : FixtureObject} {r : Except Panic (Except Error Unit)}
    (ran : (client.traced.remove o).within Tracked.inner m = some (r, after)) :
    Made client m [.began (.remove o), .ended (.remove o) r] after ∧
      after.world.owned = m.world.owned := by
  obtain ⟨answered, owned, trace⟩ := within_some (o := .remove o) ran
  exact ⟨⟨.remove answered .none, trace⟩, owned⟩

theorem setupError_isSetup (o : FixtureObject) (e : Error) : (setupError o e).IsSetup := by
  cases e <;> exact ⟨_, _, rfl⟩

theorem teardownError_isTeardown (o : FixtureObject) (e : Error) :
    (teardownError o e).IsTeardown := by
  cases e <;> exact ⟨_, _, rfl⟩

def ownedThrough (f : Fixture) (t : Trace) : List OwnedObject := t.created.map fun o => ⟨f, o⟩

theorem ownedThrough_append (f : Fixture) (t u : Trace) :
    ownedThrough f (t ++ u) = ownedThrough f t ++ ownedThrough f u := by
  simp [ownedThrough]

theorem ownedThrough_objects (f : Fixture) (t : Trace) :
    (ownedThrough f t).map (·.object) = t.created := by
  simp [ownedThrough, Function.comp_def]

theorem ensureObject_some {f : Fixture} {o : FixtureObject}
    {r : Except Panic (Except Error Ensured)}
    (ran : ensureObject client.traced f o m = some (r, after)) :
    ∃ answer, Made client m [.began (.ensure o), .ended (.ensure o) answer] after ∧
      after.world.owned =
        m.world.owned ++ ownedThrough f [.began (.ensure o), .ended (.ensure o) answer] ∧
      r = answer.map fun a => a.mapError (setupError o) := by
  unfold ensureObject at ran
  obtain ⟨answer, mid, called, rest⟩ | ⟨p, called, rfl⟩ := Activity.bind_some.1 ran
  next =>
    -- Ownership changes only after the client has said that it created the object.
    obtain ⟨made, owned⟩ := ensure_made called
    match answer with
    | .ok .created =>
      obtain ⟨⟨⟩, grown, changed, last⟩ | ⟨p, changed, -⟩ := Activity.bind_some.1 rest
      next =>
        obtain ⟨-, rfl⟩ := Activity.change_some.1 changed
        obtain ⟨rfl, rfl⟩ := Activity.pure_some.1 last
        exact ⟨_, made.owning _, congrArg (· ++ _) owned, rfl⟩
      next =>
        obtain ⟨failed, -⟩ := Activity.change_some.1 changed
        cases failed
    | .ok .alreadyPresent =>
      obtain ⟨rfl, rfl⟩ := Activity.pure_some.1 rest
      exact ⟨_, made, owned.trans (List.append_nil _).symm, rfl⟩
    | .error e =>
      obtain ⟨rfl, rfl⟩ := Activity.pure_some.1 rest
      exact ⟨_, made, owned.trans (List.append_nil _).symm, rfl⟩
  next =>
    obtain ⟨made, owned⟩ := ensure_made called
    exact ⟨_, made, owned.trans (List.append_nil _).symm, rfl⟩

structure Applied (client : FixtureClient σ) (f : Fixture) (os : List FixtureObject)
    (m : Moment (Tracked (Traced σ))) (t : Trace) (r : Except Panic (Except Error Ensured))
    (after : Moment (Tracked (Traced σ))) : Prop where
  made : Made client m t after
  owned : after.world.owned = m.world.owned ++ ownedThrough f t
  handed : t.handed = []
  -- A refusal or a panic ends the setup, so what was asked for is a beginning.
  requested : t.requested <+: os
  failed : ∀ e, r = .ok (.error e) → e.IsSetup
  ended : ∀ a, r = .ok (.ok a) → t.ensured = os

theorem ensureObjects_some {f : Fixture} {os : List FixtureObject} {outcome : Ensured}
    {r : Except Panic (Except Error Ensured)}
    (ran : ensureObjects client.traced f outcome os m = some (r, after)) :
    ∃ t, Applied client f os m t r after := by
  -- The outcome is only passed on, so the induction holds it general.
  induction os generalizing outcome m with
  | nil =>
    obtain ⟨rfl, rfl⟩ := Activity.pure_some.1 ran
    exact ⟨[], .nothing, (List.append_nil _).symm, rfl, List.nil_prefix, nofun, fun _ _ => rfl⟩
  | cons o os ih =>
    have starts (answer : Except Panic (Except Error Ensured)) :
        Trace.requested [.began (.ensure o), .ended (.ensure o) answer] <+: o :: os :=
      List.prefix_append [o] os
    obtain ⟨a, mid, first, rest⟩ | ⟨e, first, rfl⟩ | ⟨p, first, rfl⟩ := Activity.andThen_some.1 ran
    next =>
      obtain ⟨answer, made, owned, result⟩ := ensureObject_some first
      obtain ⟨t, applied⟩ := ih rest
      match answer with
      | .ok (.ok _) =>
        refine ⟨_ ++ t, made.append applied.made, ?_, applied.handed, ?_, applied.failed, ?_⟩
        · rw [applied.owned, owned, ownedThrough_append, List.append_assoc]
        · exact (List.prefix_cons_inj o).2 applied.requested
        · exact fun b returned => congrArg (o :: ·) (applied.ended b returned)
      | .ok (.error e) => cases result
      | .error p => cases result
    next =>
      obtain ⟨answer, made, owned, result⟩ := ensureObject_some first
      match answer with
      | .ok (.ok _) => cases result
      | .ok (.error cause) =>
        cases result
        exact ⟨_, made, owned, rfl, starts _,
          fun _ same => by cases same; exact setupError_isSetup o cause, nofun⟩
      | .error p => cases result
    next =>
      obtain ⟨answer, made, owned, -⟩ := ensureObject_some first
      exact ⟨_, made, owned, rfl, starts _, nofun, nofun⟩

theorem ensure_some {files : Files} {f : Fixture} {r : Except Panic (Except Error Ensured)}
    (ran : ensure files client.traced f m = some (r, after)) :
    (∃ e, f.load files = .error e ∧ r = .ok (.error (.setup f.text e.message)) ∧ after = m) ∨
      ∃ os t, f.load files = .ok os ∧ Applied client f os m t r after := by
  unfold ensure at ran
  match h : f.load files with
  | .error e =>
    simp only [h] at ran
    obtain ⟨rfl, rfl⟩ := Activity.pure_some.1 ran
    exact .inl ⟨e, rfl, rfl, rfl⟩
  | .ok os =>
    simp only [h] at ran
    obtain ⟨t, applied⟩ := ensureObjects_some ran
    exact .inr ⟨os, t, rfl, applied⟩

structure AppliedAll (files : Files) (client : FixtureClient σ) (fs : List Fixture)
    (m : Moment (Tracked (Traced σ))) (parts : List Trace) (r : Except Panic (Except Error Unit))
    (after : Moment (Tracked (Traced σ))) : Prop where
  made : Made client m parts.flatten after
  owned : after.world.owned =
    m.world.owned ++ (fs.zip parts).flatMap fun part => ownedThrough part.1 part.2
  handed : Trace.handed parts.flatten = []
  length : parts.length ≤ fs.length
  requested : ∀ part ∈ fs.zip parts,
    ∃ os, part.1.load files = .ok os ∧ part.2.requested <+: os
  failed : ∀ e, r = .ok (.error e) → e.IsSetup
  ended : r = .ok (.ok ()) →
    ∃ loaded : List (List FixtureObject),
      fs.map (·.load files) = loaded.map .ok ∧ Trace.ensured parts.flatten = loaded.flatten

theorem created_parts {fs : List Fixture} {parts : List Trace} (length : parts.length ≤ fs.length) :
    Trace.created parts.flatten =
      ((fs.zip parts).flatMap fun part => ownedThrough part.1 part.2).map (·.object) := by
  induction parts generalizing fs with
  | nil => simp [Trace.created]
  | cons t parts ih =>
    match fs with
    | f :: fs =>
      simp [ih (Nat.le_of_succ_le_succ length), ownedThrough_objects]

theorem applyAll_some {files : Files} {fs : List Fixture} {r : Except Panic (Except Error Unit)}
    (ran : applyAll files client.traced fs m = some (r, after)) :
    ∃ parts, AppliedAll files client fs m parts r after := by
  induction fs generalizing m with
  | nil =>
    obtain ⟨rfl, rfl⟩ := Activity.pure_some.1 ran
    exact ⟨[], .nothing, (List.append_nil _).symm, rfl, Nat.le_refl _, nofun, nofun,
      fun _ => ⟨[], rfl, rfl⟩⟩
  | cons f fs ih =>
    -- Where the setup stops, the fixture at hand has the last part of the trace.
    have alone {os : List FixtureObject} {t : Trace} {s : Except Panic (Except Error Ensured)}
        (loaded : f.load files = .ok os) (applied : Applied client f os m t s after)
        (failed : ∀ e, r = .ok (.error e) → e.IsSetup) (stopped : r ≠ .ok (.ok ())) :
        AppliedAll files client (f :: fs) m [t] r after := by
      refine ⟨?_, ?_, ?_, ?_, ?_, failed, fun same => absurd same stopped⟩
      · simpa using applied.made
      · simpa using applied.owned
      · simpa using applied.handed
      · simp
      · intro part member
        obtain rfl : part = (f, t) := by simpa using member
        exact ⟨os, loaded, applied.requested⟩
    obtain ⟨a, mid, first, rest⟩ | ⟨e, first, rfl⟩ | ⟨p, first, rfl⟩ := Activity.andThen_some.1 ran
    next =>
      obtain ⟨e, -, same, -⟩ | ⟨os, t, loaded, applied⟩ := ensure_some first
      next => cases same
      next =>
        obtain ⟨parts, all⟩ := ih rest
        refine ⟨t :: parts, ?_, ?_, ?_, ?_, ?_, all.failed, ?_⟩
        · simpa using applied.made.append all.made
        · rw [all.owned, applied.owned]
          simp
        · simp [applied.handed, all.handed]
        · simpa using all.length
        · intro part member
          obtain rfl | later := List.mem_cons.1 member
          · exact ⟨os, loaded, applied.requested⟩
          · exact all.requested part later
        · intro returned
          obtain ⟨others, same, ensured⟩ := all.ended returned
          refine ⟨os :: others, by simp [loaded, same], ?_⟩
          simp [applied.ended a rfl, ensured]
    next =>
      obtain ⟨cause, broken, same, rfl⟩ | ⟨os, t, loaded, applied⟩ := ensure_some first
      -- The file itself could not be used, so there is no part for it.
      next =>
        cases same
        exact ⟨[], .nothing, by simp, rfl, by simp, by simp,
          fun _ same => by cases same; exact ⟨_, _, rfl⟩, nofun⟩
      next =>
        exact ⟨[t], alone loaded applied
          (fun _ same => by cases same; exact applied.failed e rfl) nofun⟩
    next =>
      obtain ⟨cause, -, same, -⟩ | ⟨os, t, loaded, applied⟩ := ensure_some first
      next => cases same
      next => exact ⟨[t], alone loaded applied nofun nofun⟩

structure RemovedAll (client : FixtureClient σ) (os : List FixtureObject)
    (m : Moment (Tracked (Traced σ))) (t : Trace) (errors : List Error)
    (after : Moment (Tracked (Traced σ))) : Prop where
  made : Made client m t after
  owned : after.world.owned = m.world.owned
  created : t.created = []
  requested : t.requested = []
  handed : t.handed = os
  answered : ∀ o p, Entry.ended (.remove o) (.error p) ∉ t
  errors : errors = t.unremoved.map fun (o, e) => teardownError o e

theorem removeAll_ok {os : List FixtureObject} {errors : List Error}
    (ran : removeAll client.traced os m = some (.ok errors, after)) :
    ∃ t, RemovedAll client os m t errors after := by
  induction os generalizing m errors after with
  | nil =>
    obtain ⟨same, rfl⟩ := Activity.pure_some.1 ran
    cases same
    exact ⟨[], .nothing, rfl, rfl, rfl, rfl, nofun, rfl⟩
  | cons o os ih =>
    obtain ⟨answer, mid, called, rest⟩ := Activity.bind_ok.1 ran
    obtain ⟨made, owned⟩ := remove_made called
    obtain ⟨more, last, removed, ended⟩ := Activity.bind_ok.1 rest
    obtain ⟨t, all⟩ := ih removed
    -- Errors are gathered from the last removal to the first.
    have same : after = last ∧
        errors = (Trace.unremoved (.ended (.remove o) (.ok answer) :: t)).map
          fun (o, e) => teardownError o e := by
      match answer with
      | .ok () =>
        obtain ⟨same, rfl⟩ := Activity.pure_some.1 ended
        cases same
        exact ⟨rfl, all.errors⟩
      | .error e =>
        obtain ⟨same, rfl⟩ := Activity.pure_some.1 ended
        cases same
        exact ⟨rfl, congrArg (teardownError o e :: ·) all.errors⟩
    obtain ⟨rfl, listed⟩ := same
    exact ⟨_ ++ t, made.append all.made, all.owned.trans owned, all.created, all.requested,
      congrArg (o :: ·) all.handed, fun o p => by simpa using all.answered o p, listed⟩

structure GaveUp (client : FixtureClient σ) (chosen : OwnedObject → Bool)
    (m : Moment (Tracked (Traced σ))) (t : Trace) (errors : List Error)
    (after : Moment (Tracked (Traced σ))) : Prop where
  made : Made client m t after
  owned : after.world.owned = m.world.owned.filter fun o => !chosen o
  created : t.created = []
  requested : t.requested = []
  handed : t.handed = ((m.world.owned.filter chosen).map (·.object)).reverse
  answered : ∀ o p, Entry.ended (.remove o) (.error p) ∉ t
  errors : errors = t.unremoved.map fun (o, e) => teardownError o e

theorem gaveUp_ok {chosen : OwnedObject → Bool} {taken : List OwnedObject} {errors : List Error}
    (took : takeOut chosen m = some (.ok taken, mid))
    (ran : removeAll client.traced (taken.map (·.object)).reverse mid = some (.ok errors, after)) :
    ∃ t, GaveUp client chosen m t errors after := by
  -- What is taken out is given up before any removal begins.
  obtain ⟨same, rfl⟩ := Activity.change_some.1 took
  cases same
  obtain ⟨t, all⟩ := removeAll_ok ran
  exact ⟨t, all.made.owned, all.owned, all.created, all.requested, all.handed, all.answered,
    all.errors⟩

theorem remove_ok {f : Fixture} {r : Except Error Unit}
    (ran : remove client.traced f m = some (.ok r, after)) :
    ∃ t errors, GaveUp client (·.fixture.same f) m t errors after ∧
      (errors = [] → r = .ok ()) ∧
      (errors ≠ [] →
        r = .error (.teardown f.text ("; ".intercalate (errors.map (·.message))))) := by
  obtain ⟨taken, mid, took, rest⟩ := Activity.bind_ok.1 ran
  obtain ⟨errors, last, removed, ended⟩ := Activity.bind_ok.1 rest
  obtain ⟨t, gone⟩ := gaveUp_ok took removed
  match errors with
  | [] =>
    obtain ⟨same, rfl⟩ := Activity.pure_some.1 ended
    cases same
    exact ⟨t, [], gone, fun _ => rfl, fun some => absurd rfl some⟩
  | e :: errors =>
    obtain ⟨same, rfl⟩ := Activity.pure_some.1 ended
    cases same
    exact ⟨t, e :: errors, gone, nofun, fun _ => rfl⟩

theorem teardown_ok {errors : List Error}
    (ran : teardown client.traced m = some (.ok errors, after)) :
    ∃ t, GaveUp client (fun _ => true) m t errors after := by
  obtain ⟨taken, mid, took, removed⟩ := Activity.bind_ok.1 ran
  exact gaveUp_ok took removed

theorem removeAll_panicked {os : List FixtureObject} {p : Panic}
    (ran : removeAll client.traced os m = some (.error p, after)) :
    ∃ t o, Made client m t after ∧ t.created = [] ∧ t.requested = [] ∧ t.handed <+: os ∧
      t.panicked = [(o, p)] := by
  induction os generalizing m with
  | nil =>
    obtain ⟨⟨⟩, -⟩ := Activity.pure_some.1 ran
  | cons o os ih =>
    obtain ⟨answer, mid, called, rest⟩ | ⟨p, called, ⟨⟩⟩ := Activity.bind_some.1 ran
    next =>
      obtain ⟨made, -⟩ := remove_made called
      -- A removal that answered, with an error or not, leaves the panic to a later one.
      obtain ⟨errors, last, -, ended⟩ | ⟨p, removed, ⟨⟩⟩ := Activity.bind_some.1 rest
      next =>
        match answer with
        | .ok () => obtain ⟨⟨⟩, -⟩ := Activity.pure_some.1 ended
        | .error e => obtain ⟨⟨⟩, -⟩ := Activity.pure_some.1 ended
      next =>
        obtain ⟨t, other, more, created, requested, handed, panicked⟩ := ih removed
        exact ⟨_, other, made.append more, created, requested, (List.prefix_cons_inj o).2 handed,
          panicked⟩
    next =>
      obtain ⟨made, -⟩ := remove_made called
      exact ⟨_, o, made, rfl, rfl, List.prefix_append [o] os, rfl⟩

theorem teardown_some {r : Except Panic (List Error)}
    (ran : teardown client.traced m = some (r, after)) :
    ∃ t, Made client m t after ∧ t.created = [] ∧ t.requested = [] ∧
      t.handed <+: (m.world.owned.map (·.object)).reverse ∧
      ((∃ errors, r = .ok errors ∧ t.panicked = [] ∧
          t.handed = (m.world.owned.map (·.object)).reverse) ∨
        ∃ o p, r = .error p ∧ t.panicked = [(o, p)]) := by
  match r with
  | .ok errors =>
    obtain ⟨t, gone⟩ := teardown_ok ran
    have handed := gone.handed
    rw [List.filter_true] at handed
    exact ⟨t, gone.made, gone.created, gone.requested, handed ▸ List.prefix_rfl,
      .inl ⟨errors, rfl, Trace.panicked_eq_nil gone.answered, handed⟩⟩
  | .error p =>
    obtain ⟨taken, mid, took, removed⟩ | ⟨p, took, ⟨⟩⟩ := Activity.bind_some.1 ran
    next =>
      obtain ⟨same, rfl⟩ := Activity.change_some.1 took
      cases same
      obtain ⟨t, o, made, created, requested, handed, panicked⟩ := removeAll_panicked removed
      rw [List.filter_true] at handed
      exact ⟨t, made.owned, created, requested, handed, .inr ⟨o, p, rfl, panicked⟩⟩
    next => obtain ⟨⟨⟩, -⟩ := Activity.change_some.1 took

end Lifecycle

end ShareCheck
