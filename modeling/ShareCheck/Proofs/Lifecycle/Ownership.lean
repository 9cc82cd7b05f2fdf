import Mathlib.Data.List.Perm.Subperm
import ShareCheck.Proofs.Lifecycle.Calls
import ShareCheck.Proofs.Lifecycle.Projection

set_option autoImplicit false

namespace ShareCheck.Lifecycle

variable {σ : Type}

structure Record where
  owned : OwnedObject
  given : Bool

abbrev Ledger : Type := List Record

namespace Ledger

def held (l : Ledger) : List OwnedObject := (l.filter fun r => !r.given).map (·.owned)

def given (l : Ledger) : List FixtureObject := (l.filter (·.given)).map (·.owned.object)

def enter (l : Ledger) (new : List OwnedObject) : Ledger := l ++ new.map fun o => ⟨o, false⟩

def give (l : Ledger) (chosen : OwnedObject → Bool) : Ledger :=
  l.map fun r => ⟨r.owned, r.given || chosen r.owned⟩

@[simp] theorem held_enter (l : Ledger) (new : List OwnedObject) :
    (l.enter new).held = l.held ++ new := by
  simp [held, enter, List.filter_map, Function.comp_def]

@[simp] theorem given_enter (l : Ledger) (new : List OwnedObject) :
    (l.enter new).given = l.given := by
  simp [given, enter, List.filter_map, Function.comp_def]

@[simp] theorem held_give (l : Ledger) (chosen : OwnedObject → Bool) :
    (l.give chosen).held = l.held.filter fun o => !chosen o := by
  induction l with
  | nil => rfl
  | cons r l ih =>
    obtain ⟨o, given⟩ := r
    simp only [held, give, List.map_cons] at ih ⊢
    cases given <;> cases h : chosen o <;> simp [h, ih]

@[simp] theorem objects_give (l : Ledger) (chosen : OwnedObject → Bool) :
    (l.give chosen).map (·.owned.object) = l.map (·.owned.object) := by
  simp [give]

theorem given_give (l : Ledger) (chosen : OwnedObject → Bool) :
    (l.give chosen).given.Perm (l.given ++ (l.held.filter chosen).map (·.object)) := by
  induction l with
  | nil => exact .refl _
  | cons r l ih =>
    obtain ⟨o, given⟩ := r
    simp only [Ledger.given, held, give, List.map_cons] at ih ⊢
    cases given <;> cases h : chosen o <;> simp [h, ih]
    -- What is handed over now stands after all that was handed over before.
    exact (ih.cons _).trans List.perm_middle.symm

theorem given_sublist (l : Ledger) : l.given.Sublist (l.map (·.owned.object)) :=
  List.filter_sublist.map _

theorem given_of_held_nil {l : Ledger} (none : l.held = []) :
    l.given = l.map (·.owned.object) := by
  have all : ∀ r ∈ l, r.given = true := by simpa [held] using none
  rw [given, List.filter_eq_self.2 all]

structure Fits (l : Ledger) (t : Tracked (Traced σ)) : Prop where
  created : t.world.trace.created = l.map (·.owned.object)
  handed : t.world.trace.handed.Perm l.given
  owned : t.owned = l.held

theorem Fits.enter {client : FixtureClient σ} {l : Ledger}
    {m after : Moment (Tracked (Traced σ))} {t : Trace} {new : List OwnedObject}
    (fits : l.Fits m.world) (made : Made client m t after)
    (owned : after.world.owned = m.world.owned ++ new) (created : t.created = new.map (·.object))
    (handed : t.handed = []) : (l.enter new).Fits after.world where
  created := by
    rw [made.trace, Trace.created_append, fits.created, created]
    simp [Ledger.enter]
  handed := by
    rw [made.trace, Trace.handed_append, handed, List.append_nil, given_enter]
    exact fits.handed
  owned := by rw [owned, fits.owned, held_enter]

theorem Fits.give {client : FixtureClient σ} {l : Ledger}
    {m after : Moment (Tracked (Traced σ))} {t : Trace} {chosen : OwnedObject → Bool}
    {errors : List Error} (fits : l.Fits m.world) (gone : GaveUp client chosen m t errors after) :
    (l.give chosen).Fits after.world where
  created := by
    rw [gone.made.trace, Trace.created_append, fits.created, gone.created, List.append_nil,
      objects_give]
  handed := by
    rw [gone.made.trace, Trace.handed_append, gone.handed, fits.owned]
    have added := fits.handed.append
      (List.reverse_perm ((l.held.filter chosen).map (·.object)))
    exact added.trans (given_give l chosen).symm
  owned := by rw [gone.owned, fits.owned, held_give]

end Ledger

inductive Command
  | ensure (f : Fixture)
  | applyAll (fs : List Fixture)
  | remove (f : Fixture)
  | teardown

namespace Command

abbrev Result : Command → Type
  | ensure _ => Except Error Ensured
  | applyAll _ => Except Error Unit
  | remove _ => Except Error Unit
  | teardown => List Error

def perform (files : Files) (client : FixtureClient σ) :
    (c : Command) → Activity (Tracked σ) c.Result
  | ensure f => Lifecycle.ensure files client f
  | applyAll fs => Lifecycle.applyAll files client fs
  | remove f => Lifecycle.remove client f
  | teardown => Lifecycle.teardown client

def performAll (files : Files) (client : FixtureClient σ) : List Command → Activity (Tracked σ) Unit
  | [] => pure ()
  | c :: cs => do
    let _ ← c.perform files client
    performAll files client cs

def Effect (files : Files) : (c : Command) → c.Result → Ledger → Trace → Ledger → Prop
  | ensure f, r, l, t, later =>
    -- A file that cannot be used makes no call at all.
    later = l.enter (ownedThrough f t) ∧ t.handed = [] ∧ (∀ e, r = .error e → e.IsSetup) ∧
      (∀ e, f.load files = .error e → t = [] ∧ r = .error (.setup f.text e.message)) ∧
      ∀ os, f.load files = .ok os → t.requested <+: os
  | applyAll fs, r, l, t, later =>
    -- There are fewer parts than fixtures where the setup stopped early.
    ∃ parts, t = parts.flatten ∧ parts.length ≤ fs.length ∧
      (∀ part ∈ fs.zip parts, ∃ os, part.1.load files = .ok os ∧ part.2.requested <+: os) ∧
      later = l.enter ((fs.zip parts).flatMap fun part => ownedThrough part.1 part.2) ∧
      t.handed = [] ∧ ∀ e, r = .error e → e.IsSetup
  | remove f, r, l, t, later =>
    -- Newest first, and the rest keeps its order.
    later = l.give (·.fixture.same f) ∧ later.held = l.held.filter (fun o => !o.fixture.same f) ∧
      t.handed = ((l.held.filter (·.fixture.same f)).map (·.object)).reverse ∧
      t.requested = [] ∧ (t.unremoved = [] → r = .ok ()) ∧
      (t.unremoved ≠ [] → ∃ e, r = .error e ∧ e.IsTeardown)
  | teardown, r, l, t, later =>
    later = l.give (fun _ => true) ∧ later.held = [] ∧
      t.handed = (l.held.map (·.object)).reverse ∧ t.requested = [] ∧
      r = t.unremoved.map (fun (o, e) => teardownError o e) ∧ ∀ e ∈ r, e.IsTeardown

section

variable {τ : Type} {client : FixtureClient τ} {image : FixtureClient σ}
  {R : ∀ {α : Type}, Activity (Tracked τ) α → Activity (Tracked σ) α → Prop}
  (relates : Relates client image R)

include relates

theorem perform_relates (files : Files) (c : Command) :
    R (c.perform files client) (c.perform files image) := by
  cases c with
  | ensure f => exact relates.ensure files f
  | applyAll fs => exact relates.applyAll files fs
  | remove f => exact relates.remove f
  | teardown => exact relates.teardown

theorem performAll_relates (files : Files) (cs : List Command) :
    R (performAll files client cs) (performAll files image cs) := by
  induction cs with
  | nil => exact relates.given ()
  | cons c cs ih => exact relates.bound (perform_relates relates files c) fun _ => ih

end

theorem perform_effect {files : Files} {client : FixtureClient σ} {c : Command} {r : c.Result}
    {l : Ledger} {m after : Moment (Tracked (Traced σ))} (fits : l.Fits m.world)
    (ran : c.perform files client.traced m = some (.ok r, after)) :
    ∃ t later, after.world.world.trace = m.world.world.trace ++ t ∧ later.Fits after.world ∧
      c.Effect files r l t later := by
  cases c with
  | ensure f =>
    obtain ⟨e, broken, result, rfl⟩ | ⟨os, t, loaded, applied⟩ := ensure_some ran
    next =>
      cases result
      refine ⟨[], l, (List.append_nil _).symm, fits, ?_, rfl, ?_, ?_, ?_⟩
      · simp [Ledger.enter, ownedThrough, Trace.created]
      · rintro _ ⟨⟩
        exact ⟨_, _, rfl⟩
      · intro other same
        cases broken.symm.trans same
        exact ⟨rfl, rfl⟩
      · intro os same
        cases broken.symm.trans same
    next =>
      refine ⟨t, _, applied.made.trace,
        fits.enter applied.made applied.owned (ownedThrough_objects f t).symm applied.handed,
        rfl, applied.handed, fun e same => applied.failed e (congrArg _ same), ?_, ?_⟩
      · intro e same
        cases loaded.symm.trans same
      · intro other same
        cases loaded.symm.trans same
        exact applied.requested
  | applyAll fs =>
    obtain ⟨parts, all⟩ := applyAll_some ran
    exact ⟨parts.flatten, _, all.made.trace,
      fits.enter all.made all.owned (created_parts all.length) all.handed,
      parts, rfl, all.length, all.requested, rfl, all.handed,
      fun e same => all.failed e (congrArg _ same)⟩
  | remove f =>
    obtain ⟨t, errors, gone, passed, failed⟩ := remove_ok ran
    refine ⟨t, _, gone.made.trace, fits.give gone, rfl, Ledger.held_give _ _, ?_, gone.requested,
      ?_, ?_⟩
    · rw [gone.handed, fits.owned]
    · exact fun none => passed (by rw [gone.errors, none]; rfl)
    · intro some
      refine ⟨_, failed ?_, _, _, rfl⟩
      rw [gone.errors]
      simpa using some
  | teardown =>
    obtain ⟨t, gone⟩ := teardown_ok ran
    refine ⟨t, _, gone.made.trace, fits.give gone, rfl, ?_, ?_, gone.requested, gone.errors, ?_⟩
    · simp
    · rw [gone.handed, fits.owned, List.filter_true]
    · intro e member
      rw [gone.errors] at member
      obtain ⟨⟨o, cause⟩, -, rfl⟩ := List.mem_map.1 member
      exact teardownError_isTeardown o cause

/-- The books of a lifecycle that began at a moment: after every command they fit what is owned and
what was called, and they differ from those before it by the command's effect. -/
inductive Kept (files : Files) (client : FixtureClient σ) (start : Moment (Tracked (Traced σ))) :
    List Command → Moment (Tracked (Traced σ)) → Ledger → Prop
  | fresh {l : Ledger} : l.Fits start.world → Kept files client start [] start l
  | next {cs : List Command} {c : Command} {r : c.Result} {m after : Moment (Tracked (Traced σ))}
      {l later : Ledger} {t : Trace} :
      Kept files client start cs m l → c.perform files client.traced m = some (.ok r, after) →
        after.world.world.trace = m.world.world.trace ++ t → later.Fits after.world →
          c.Effect files r l t later → Kept files client start (cs ++ [c]) after later

theorem Kept.fits {files : Files} {client : FixtureClient σ} {cs : List Command} {l : Ledger}
    {start m : Moment (Tracked (Traced σ))} (kept : Kept files client start cs m l) :
    l.Fits m.world := by
  cases kept with
  | fresh fits => exact fits
  | next _ _ _ fits _ => exact fits

theorem performAll_kept {files : Files} {client : FixtureClient σ} {before cs : List Command}
    {l : Ledger} {start m after : Moment (Tracked (Traced σ))}
    (kept : Kept files client start before m l)
    (ran : performAll files client.traced cs m = some (.ok (), after)) :
    ∃ later, Kept files client start (before ++ cs) after later := by
  induction cs generalizing before l m with
  | nil =>
    obtain ⟨-, rfl⟩ := Activity.pure_some.1 ran
    exact ⟨l, by rwa [List.append_nil]⟩
  | cons c cs ih =>
    obtain ⟨r, mid, first, rest⟩ := Activity.bind_ok.1 ran
    obtain ⟨t, next, trace, fits, effect⟩ := perform_effect kept.fits first
    obtain ⟨later, all⟩ := ih (kept.next first trace fits effect) rest
    exact ⟨later, by rwa [List.append_assoc] at all⟩

theorem Kept.after_teardown {files : Files} {client : FixtureClient σ} {cs : List Command}
    {l : Ledger} {start m : Moment (Tracked (Traced σ))} (kept : Kept files client start cs m l)
    (last : cs.getLast? = some teardown) : l.held = [] := by
  cases kept with
  | fresh => cases last
  | @next _ c r _ _ _ _ _ _ _ _ _ effect =>
    obtain rfl : c = teardown := by simpa using last
    exact effect.2.1

theorem performAll_returns {client : FixtureClient σ} (answers : client.Answers) (files : Files)
    (cs : List Command) : (performAll files client cs).Returns :=
  performAll_relates answers.relates files cs

theorem performAll_lifts {τ σ : Type} {h : View τ σ} {client : FixtureClient τ}
    {image : FixtureClient σ} (lifts : client.Lifts h image) (files : Files) (cs : List Command) :
    (performAll files client cs).Lifts (Tracked.map h) (performAll files image cs) :=
  performAll_relates (lifts_relates lifts) files cs

end Command

open Command in
/-- Ownership is exact: what is owned is what was created less what was handed over for removal,
occurrence by occurrence, after every command of any sequence. -/
theorem ownership_exact (files : Files) (client : FixtureClient σ) (answers : client.Answers)
    (cs : List Command) (now : Nat) (w : σ) :
    ∃ m l, performAll files client.traced cs ⟨now, ⟨[], ⟨[], w⟩⟩⟩ = some (.ok (), m) ∧
      performAll files client cs ⟨now, ⟨[], w⟩⟩ =
        some (.ok (), ⟨m.now, ⟨m.world.owned, m.world.world.world⟩⟩) ∧
      Kept files client ⟨now, ⟨[], ⟨[], w⟩⟩⟩ cs m l ∧
      m.world.world.trace.created = l.map (·.owned.object) ∧ m.world.owned = l.held ∧
      m.world.world.trace.handed.Perm l.given ∧
      m.world.world.trace.handed.Subperm m.world.world.trace.created ∧
      (cs.getLast? = some .teardown →
        m.world.owned = [] ∧ m.world.world.trace.handed.Perm m.world.world.trace.created) := by
  obtain ⟨⟨⟩, m, ran⟩ := performAll_returns answers.traced files cs ⟨now, ⟨[], ⟨[], w⟩⟩⟩
  -- Nothing is owned at first, so an empty ledger fits.
  have fresh : Kept files client ⟨now, ⟨[], ⟨[], w⟩⟩⟩ [] ⟨now, ⟨[], ⟨[], w⟩⟩⟩ [] :=
    .fresh ⟨rfl, .refl _, rfl⟩
  obtain ⟨l, kept⟩ := performAll_kept fresh ran
  obtain ⟨created, handed, owned⟩ := kept.fits
  have untraced := performAll_lifts client.traced_lifts files cs ⟨now, ⟨[], ⟨[], w⟩⟩⟩
  rw [ran] at untraced
  refine ⟨m, l, ran, untraced, kept, created, owned, handed, ?_, fun last => ?_⟩
  · rw [created]
    exact ⟨l.given, handed.symm, l.given_sublist⟩
  · have none := kept.after_teardown last
    refine ⟨owned.trans none, ?_⟩
    rw [created]
    exact handed.trans (.of_eq (Ledger.given_of_held_nil none))

def shelf : FixtureClient (List String) where
  ensure o := Activity.change fun names =>
    if names.contains o.text then (.ok .alreadyPresent, names)
    else (.ok .created, names ++ [o.text])
  remove o := Activity.change fun names => (.ok (), names.erase o.text)

theorem shelf_answers : shelf.Answers :=
  ⟨fun _ _ => ⟨_, _, rfl⟩, fun _ _ => ⟨_, _, rfl⟩⟩

def oneSecret : Files := fun _ =>
  .ok (Text.encode "apiVersion: v1\nkind: Secret\nmetadata:\n  name: a\n".toList)

def visit : List Command :=
  [.ensure ⟨⟨"files/a.yaml"⟩, "ns"⟩, .remove ⟨⟨"files//./a.yaml"⟩, "ns"⟩, .teardown]

open Command in
theorem ownership_exact_shelf :
    shelf.Answers ∧ ∃ m l,
      performAll oneSecret shelf.traced visit ⟨0, ⟨[], ⟨[], []⟩⟩⟩ = some (.ok (), m) ∧
        Kept oneSecret shelf ⟨0, ⟨[], ⟨[], []⟩⟩⟩ visit m l ∧
        m.world.world.trace.created.map (·.text) = ["Secret ns/a"] ∧
        m.world.world.trace.handed.Perm m.world.world.trace.created := by
  obtain ⟨m, l, ran, -, kept, -, -, -, -, last⟩ :=
    ownership_exact oneSecret shelf shelf_answers visit 0 []
  have made : (performAll oneSecret shelf.traced visit ⟨0, ⟨[], ⟨[], []⟩⟩⟩).map
      (fun done => done.2.world.world.trace.created.map (·.text)) = some ["Secret ns/a"] := by
    decide +kernel
  rw [ran] at made
  exact ⟨shelf_answers, m, l, ran, kept, by simpa using made, (last rfl).2⟩

end ShareCheck.Lifecycle
