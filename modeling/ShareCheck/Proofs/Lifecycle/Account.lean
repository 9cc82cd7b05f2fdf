import Mathlib.Algebra.Order.Group.Multiset
import Mathlib.Tactic.Abel
import ShareCheck.Proofs.Lifecycle.Dialogue

set_option autoImplicit false

namespace ShareCheck

open Rest

namespace Turn

def created? (t : Turn) : Option FixtureObject :=
  match t.message.method, t.answer with
  | .post, .ok _ => some t.object
  | _, _ => none

def removed? (t : Turn) : Option FixtureObject :=
  -- An object that is gone already counts as removed.
  match t.message.method, Kubernetes.judgeRemoval t.object t.answer with
  | .delete, .ok () => some t.object
  | _, _ => none

theorem created?_eq_none {t : Turn} (other : t.message.method ≠ .post) : t.created? = none := by
  unfold created?
  split
  next given _ => exact absurd given other
  next => rfl

theorem removed?_eq_none {t : Turn} (other : t.message.method ≠ .delete) : t.removed? = none := by
  unfold removed?
  split
  next given _ => exact absurd given other
  next => rfl

end Turn

namespace Dialogue

def created (turns : List Turn) : Multiset FixtureObject := turns.filterMap Turn.created?

def removed (turns : List Turn) : Multiset FixtureObject := turns.filterMap Turn.removed?

@[simp] theorem created_nil : created [] = 0 := rfl

@[simp] theorem removed_nil : removed [] = 0 := rfl

@[simp] theorem created_append (s t : List Turn) : created (s ++ t) = created s + created t := by
  simp [created]

@[simp] theorem removed_append (s t : List Turn) : removed (s ++ t) = removed s + removed t := by
  simp [removed]

@[simp] theorem created_singleton (t : Turn) :
    created [t] = (t.created?.toList : Multiset FixtureObject) := by
  unfold created
  cases h : t.created? <;> simp [h]

@[simp] theorem removed_singleton (t : Turn) :
    removed [t] = (t.removed?.toList : Multiset FixtureObject) := by
  unfold removed
  cases h : t.removed? <;> simp [h]

end Dialogue

/-! ### The requests of a client -/

namespace Dialogue

variable {answers : List Answer} {o : FixtureObject} {m after : Moment Dialogue}

theorem ask_turns (method : Method) {request : Except RequestFault Message}
    {r : Except Panic Answer} (only : ∀ message, request = .ok message → message.method = method)
    (ran : Activity.perform (send (server answers o) request) m = some (r, after)) :
    (∃ fault, r = .ok (.error (.unsent fault)) ∧ after = m) ∨
      (∃ message a, message.method = method ∧ r = .ok a ∧
        after.world.turns = m.world.turns ++ [⟨o, message, a⟩]) ∨
      ∃ message p, message.method = method ∧ r = .error p ∧
        after.world.turns = m.world.turns ∧ after.world.waiting = some (o, message) := by
  obtain ⟨fault, -, rfl, rfl⟩ | ⟨message, sent, ⟨a, -, rfl, rfl⟩ | ⟨-, rfl, rfl⟩⟩ := ask_some.1 ran
  next => exact .inl ⟨fault, rfl, rfl⟩
  next => exact .inr (.inl ⟨message, a, only message sent, rfl, rfl⟩)
  next => exact .inr (.inr ⟨message, _, only message sent, rfl, rfl, rfl⟩)

structure Ensures (o : FixtureObject) (m : Moment Dialogue) (turns : List Turn)
    (r : Except Panic (Except Error Ensured)) (after : Moment Dialogue) : Prop where
  added : after.world.turns = m.world.turns ++ turns
  removed : removed turns = 0
  created : r = .ok (.ok .created) ∧ created turns = {o} ∨
    r ≠ .ok (.ok .created) ∧ created turns = 0
  waits : ∀ p, r = .error p → ∃ message, after.world.waiting = some (o, message) ∧
    message.method ≠ .delete

theorem lookUp_turns {r : Except Panic Answer}
    (ran : Activity.perform (send (server answers o) (Kubernetes.lookUp o)) m = some (r, after)) :
    ∃ turns, after.world.turns = m.world.turns ++ turns ∧ removed turns = 0 ∧ created turns = 0 ∧
      ∀ p, r = .error p → ∃ message, after.world.waiting = some (o, message) ∧
        message.method ≠ .delete := by
  obtain ⟨fault, rfl, rfl⟩ | ⟨message, a, get, rfl, added⟩ | ⟨message, p, get, rfl, same, waits⟩ :=
    ask_turns .get (fun _ => Kubernetes.objectRequest_method) ran
  next => exact ⟨[], by simp, rfl, rfl, nofun⟩
  next =>
    refine ⟨_, added, ?_, ?_, nofun⟩
    · simp [Turn.removed?_eq_none (t := ⟨o, message, a⟩) (by simp [get])]
    · simp [Turn.created?_eq_none (t := ⟨o, message, a⟩) (by simp [get])]
  next => exact ⟨[], by simp [same], rfl, rfl, fun _ _ => ⟨message, waits, by simp [get]⟩⟩

theorem creation_turns {body : Json} {r : Except Panic (Except Error Ensured)}
    (ran : (do
      let answer ← Activity.perform (send (server answers o) (Kubernetes.creation o body))
      pure (Kubernetes.judgeCreation answer)) m = some (r, after)) :
    ∃ turns, Ensures o m turns r after := by
  obtain ⟨answer, mid, asked, ended⟩ | ⟨p, asked, rfl⟩ := Activity.bind_some.1 ran
  next =>
    obtain ⟨rfl, rfl⟩ := Activity.pure_some.1 ended
    obtain ⟨fault, ⟨⟩, rfl⟩ | ⟨message, a, post, ⟨⟩, added⟩ | ⟨-, -, -, ⟨⟩, -⟩ :=
      ask_turns .post (fun _ => Rest.Message.to_method) asked
    next => exact ⟨[], by simp, rfl, .inr ⟨nofun, rfl⟩, nofun⟩
    next =>
      have none : removed [⟨o, message, answer⟩] = 0 := by
        simp [Turn.removed?_eq_none (t := ⟨o, message, answer⟩) (by simp [post])]
      refine ⟨_, added, none, ?_, nofun⟩
      cases answer with
      | ok found => exact .inl ⟨rfl, by simp [Turn.created?, post]⟩
      | error failure =>
        refine .inr ⟨?_, by simp [Turn.created?, post]⟩
        unfold Kubernetes.judgeCreation
        grind
  next =>
    obtain ⟨-, ⟨⟩, -⟩ | ⟨-, -, -, ⟨⟩, -⟩ | ⟨message, p, post, ⟨⟩, same, waits⟩ :=
      ask_turns .post (fun _ => Rest.Message.to_method) asked
    exact ⟨[], by simp [same], rfl, .inr ⟨nofun, rfl⟩,
      fun _ _ => ⟨message, waits, by simp [post]⟩⟩

theorem ensure_turns {r : Except Panic (Except Error Ensured)}
    (ran : (client answers).ensure o m = some (r, after)) : ∃ turns, Ensures o m turns r after := by
  obtain ⟨answer, mid, looked, rest⟩ | ⟨p, looked, rfl⟩ := Activity.bind_some.1 ran
  next =>
    obtain ⟨turns, added, gone, idle, -⟩ := lookUp_turns looked
    have ends {b : Except Error Ensured}
        (ended : (pure b : Activity Dialogue _) mid = some (r, after)) (other : b ≠ .ok .created) :
        ∃ turns, Ensures o m turns r after := by
      obtain ⟨rfl, rfl⟩ := Activity.pure_some.1 ended
      exact ⟨turns, added, gone, .inr ⟨by simpa using other, idle⟩, nofun⟩
    match judged : Kubernetes.judgeLookUp answer with
    | .error e =>
      simp only [judged] at rest
      exact ends rest nofun
    | .ok true =>
      simp only [judged] at rest
      exact ends rest nofun
    | .ok false =>
      simp only [judged] at rest
      match body : Kubernetes.objectBody o with
      | none =>
        simp only [body] at rest
        exact ends rest nofun
      | some body =>
        simp only [body] at rest
        obtain ⟨more, ensures⟩ := creation_turns rest
        exact ⟨turns ++ more, by rw [ensures.added, added, List.append_assoc],
          by simp [gone, ensures.removed], by simpa [idle] using ensures.created, ensures.waits⟩
  next =>
    obtain ⟨turns, added, gone, idle, waits⟩ := lookUp_turns looked
    exact ⟨turns, added, gone, .inr ⟨nofun, idle⟩, fun _ _ => waits p rfl⟩

theorem remove_turns {r : Except Panic (Except Error Unit)}
    (ran : (client answers).remove o m = some (r, after)) :
    (∃ turns, after.world.turns = m.world.turns ++ turns ∧ created turns = 0 ∧
      (r = .ok (.ok ()) ∧ removed turns = {o} ∨ ∃ e, r = .ok (.error e) ∧ removed turns = 0)) ∨
    ∃ p message, r = .error p ∧ after.world.turns = m.world.turns ∧
      after.world.waiting = some (o, message) := by
  obtain ⟨answer, mid, asked, ended⟩ | ⟨p, asked, rfl⟩ := Activity.bind_some.1 ran
  next =>
    obtain ⟨rfl, rfl⟩ := Activity.pure_some.1 ended
    obtain ⟨fault, ⟨⟩, rfl⟩ | ⟨message, a, delete, ⟨⟩, added⟩ | ⟨-, -, -, ⟨⟩, -⟩ :=
      ask_turns .delete (fun _ => Kubernetes.objectRequest_method) asked
    next => exact .inl ⟨[], by simp, rfl, .inr ⟨_, rfl, rfl⟩⟩
    next =>
      have idle : created [⟨o, message, answer⟩] = 0 := by
        simp [Turn.created?_eq_none (t := ⟨o, message, answer⟩) (by simp [delete])]
      refine .inl ⟨_, added, idle, ?_⟩
      match judged : Kubernetes.judgeRemoval o answer with
      | .ok () => exact .inl ⟨rfl, by simp [Turn.removed?, delete, judged]⟩
      | .error e => exact .inr ⟨e, rfl, by simp [Turn.removed?, delete, judged]⟩
  next =>
    obtain ⟨-, ⟨⟩, -⟩ | ⟨-, -, -, ⟨⟩, -⟩ | ⟨message, p, -, ⟨⟩, same, waits⟩ :=
      ask_turns .delete (fun _ => Kubernetes.objectRequest_method) asked
    exact .inr ⟨p, message, rfl, same, waits⟩

end Dialogue

/-! ### Lifecycles -/

namespace Lifecycle

open Dialogue

variable {α β : Type} {answers : List Answer}

def objects (owned : List OwnedObject) : Multiset FixtureObject := owned.map (·.object)

@[simp] theorem objects_nil : objects [] = 0 := rfl

@[simp] theorem objects_append (s t : List OwnedObject) :
    objects (s ++ t) = objects s + objects t := by
  simp [objects]

@[simp] theorem objects_singleton (f : Fixture) (o : FixtureObject) : objects [⟨f, o⟩] = {o} := rfl

theorem objects_filter (chosen : OwnedObject → Bool) (owned : List OwnedObject) :
    objects (owned.filter chosen) + objects (owned.filter fun o => !chosen o) = objects owned := by
  rw [← objects_append]
  exact Multiset.coe_eq_coe.2 ((List.filter_append_perm chosen owned).map _)

def Balanced (lost : Multiset FixtureObject) (t : Tracked Dialogue) : Prop :=
  created t.world.turns = objects t.owned + removed t.world.turns + lost

theorem Balanced.later {lost left : Multiset FixtureObject} {owned kept : List OwnedObject}
    {d e : Dialogue} (turns : List Turn) (balanced : Balanced lost ⟨owned, d⟩)
    (added : e.turns = d.turns ++ turns)
    (moved : objects owned + lost + created turns = objects kept + removed turns + left) :
    Balanced left ⟨kept, e⟩ := by
  unfold Balanced at balanced ⊢
  rw [added, created_append, removed_append, balanced]
  calc
    _ = removed d.turns + (objects owned + lost + created turns) := by abel
    _ = removed d.turns + (objects kept + removed turns + left) := by rw [moved]
    _ = _ := by abel

/-- Keeps the balance, with some objects taken out before that are still to be removed. What is left
of them is nothing after a clean end, and has the object of a removal under way. -/
def Accounts (pending : Multiset FixtureObject) (clean : α → Prop)
    (x : Activity (Tracked Dialogue) α) : Prop :=
  ∀ lost m r after, x m = some (r, after) → Balanced (pending + lost) m.world →
    ∃ left, Balanced (left + lost) after.world ∧ (∀ a, r = .ok a → clean a → left = 0) ∧
      ∀ p, r = .error p → ∃ o message, after.world.world.waiting = some (o, message) ∧
        (message.method = .delete → o ∈ left)

theorem pure_accounts (clean : α → Prop) (a : α) : Accounts 0 clean (pure a) := by
  intro lost m r after ran balanced
  obtain ⟨rfl, rfl⟩ := Activity.pure_some.1 ran
  exact ⟨0, balanced, fun _ _ _ => rfl, nofun⟩

theorem bind_accounts {pending : Multiset FixtureObject} {clean : β → Prop}
    {x : Activity (Tracked Dialogue) α} {f : α → Activity (Tracked Dialogue) β}
    (first : Accounts pending (fun _ => True) x) (rest : ∀ a, Accounts 0 clean (f a)) :
    Accounts pending clean (x >>= f) := by
  intro lost m r after ran balanced
  obtain ⟨a, mid, begun, ended⟩ | ⟨p, begun, rfl⟩ := Activity.bind_some.1 ran
  next =>
    obtain ⟨left, kept, clear, -⟩ := first lost m _ mid begun balanced
    obtain rfl : left = 0 := clear a rfl trivial
    exact rest a lost mid r after ended kept
  next =>
    obtain ⟨left, kept, -, waits⟩ := first lost m _ after begun balanced
    exact ⟨left, kept, nofun, fun _ _ => waits p rfl⟩

theorem Accounts.losing {pending failed lost : Multiset FixtureObject} {clean : α → Prop}
    {x : Activity (Tracked Dialogue) α} {m after : Moment (Tracked Dialogue)} {r : Except Panic α}
    (accounts : Accounts pending clean x) (ran : x m = some (r, after))
    (balanced : Balanced (pending + (failed + lost)) m.world) :
    ∃ left, Balanced (left + lost) after.world ∧ (∀ a, r = .ok a → clean a → left = failed) ∧
      ∀ p, r = .error p → ∃ o message, after.world.world.waiting = some (o, message) ∧
        (message.method = .delete → o ∈ left) := by
  obtain ⟨left, kept, clear, waits⟩ := accounts _ m r after ran balanced
  refine ⟨left + failed, by rwa [add_assoc], fun a same holds => ?_, fun p same => ?_⟩
  · rw [clear a same holds, zero_add]
  · obtain ⟨o, message, waiting, member⟩ := waits p same
    exact ⟨o, message, waiting, fun delete => Multiset.mem_add.2 (.inl (member delete))⟩

theorem Accounts.mono {pending : Multiset FixtureObject} {clean narrow : α → Prop}
    {x : Activity (Tracked Dialogue) α} (accounts : Accounts pending clean x)
    (narrower : ∀ a, narrow a → clean a) : Accounts pending narrow x := by
  intro lost m r after ran balanced
  obtain ⟨left, kept, clear, waits⟩ := accounts lost m r after ran balanced
  exact ⟨left, kept, fun a same holds => clear a same (narrower a holds), waits⟩

theorem accounts_composes :
    Activity.Composes fun {α} (x _ : Activity (Tracked Dialogue) α) =>
      Accounts 0 (fun _ => True) x :=
  ⟨pure_accounts _, bind_accounts⟩

theorem ensureObject_accounts (f : Fixture) (o : FixtureObject) :
    Accounts 0 (fun _ => True) (ensureObject (client answers) f o) := by
  intro lost m r after ran balanced
  rw [zero_add] at balanced
  obtain ⟨answer, mid, asked, rest⟩ | ⟨p, asked, rfl⟩ := Activity.bind_some.1 ran
  next =>
    obtain ⟨last, called, rfl⟩ := Activity.tracked_some.1 asked
    obtain ⟨turns, ensures⟩ := ensure_turns called
    obtain ⟨same, new⟩ | ⟨other, none⟩ := ensures.created
    -- What is created is owned.
    next =>
      cases same
      obtain ⟨⟨⟩, owner, owns, ended⟩ | ⟨p, owns, -⟩ := Activity.bind_some.1 rest
      next =>
        obtain ⟨-, rfl⟩ := Activity.change_some.1 owns
        obtain ⟨rfl, rfl⟩ := Activity.pure_some.1 ended
        refine ⟨0, balanced.later turns ensures.added ?_, fun _ _ _ => rfl, nofun⟩
        simp only [objects_append, objects_singleton, new, ensures.removed]
        abel
      next =>
        obtain ⟨⟨⟩, -⟩ := Activity.change_some.1 owns
    next =>
      have kept : Balanced lost ⟨m.world.owned, last.world⟩ :=
        balanced.later turns ensures.added (by simp [none, ensures.removed])
      match answer with
      | .ok .created => exact absurd rfl other
      | .ok .alreadyPresent =>
        obtain ⟨rfl, rfl⟩ := Activity.pure_some.1 rest
        exact ⟨0, by rwa [zero_add], fun _ _ _ => rfl, nofun⟩
      | .error e =>
        obtain ⟨rfl, rfl⟩ := Activity.pure_some.1 rest
        exact ⟨0, by rwa [zero_add], fun _ _ _ => rfl, nofun⟩
  next =>
    obtain ⟨last, called, rfl⟩ := Activity.tracked_some.1 asked
    obtain ⟨turns, ensures⟩ := ensure_turns called
    obtain ⟨⟨⟩, -⟩ | ⟨-, none⟩ := ensures.created
    refine ⟨0, balanced.later turns ensures.added (by simp [none, ensures.removed]), nofun, ?_⟩
    intro _ _
    obtain ⟨message, waits, other⟩ := ensures.waits p rfl
    exact ⟨o, message, waits, fun delete => absurd delete other⟩

theorem ensure_accounts (files : Files) (f : Fixture) :
    Accounts 0 (fun _ => True) (ensure files (client answers) f) :=
  @ensure_relates _ _ (client answers) (client answers) _ accounts_composes ensureObject_accounts
    files f

theorem applyAll_accounts (files : Files) (fs : List Fixture) :
    Accounts 0 (fun _ => True) (applyAll files (client answers) fs) :=
  @applyAll_relates _ _ (client answers) (client answers) _ accounts_composes
    ensureObject_accounts files fs

theorem removeAll_accounts (os : List FixtureObject) :
    Accounts os (· = []) (removeAll (client answers) os) := by
  induction os with
  | nil => exact pure_accounts _ _
  | cons o os ih =>
    intro lost m r after ran balanced
    obtain ⟨answer, mid, asked, rest⟩ | ⟨p, asked, rfl⟩ := Activity.bind_some.1 ran
    next =>
      obtain ⟨last, called, rfl⟩ := Activity.tracked_some.1 asked
      obtain ⟨turns, added, idle, outcome⟩ | ⟨-, -, ⟨⟩, -⟩ := remove_turns called
      -- An object whose removal failed is lost, and those after it are removed all the same.
      obtain ⟨failed, next, clear⟩ : ∃ failed : Multiset FixtureObject,
          Balanced (os + (failed + lost)) ⟨m.world.owned, last.world⟩ ∧
            (answer = .ok () → failed = 0) := by
        obtain ⟨⟨⟩, gone⟩ | ⟨e, ⟨⟩, none⟩ := outcome
        next =>
          refine ⟨0, balanced.later turns added ?_, fun _ => rfl⟩
          simp only [idle, gone, ← Multiset.cons_coe, ← Multiset.singleton_add]
          abel
        next =>
          refine ⟨{o}, balanced.later turns added ?_, nofun⟩
          simp only [idle, none, ← Multiset.cons_coe, ← Multiset.singleton_add]
          abel
      obtain ⟨errors, stop, removed, ended⟩ | ⟨p, removed, rfl⟩ := Activity.bind_some.1 rest
      next =>
        obtain ⟨left, kept, clean, -⟩ := ih.losing removed next
        match answer with
        | .ok () =>
          obtain ⟨rfl, rfl⟩ := Activity.pure_some.1 ended
          refine ⟨left, kept, fun _ same none => ?_, nofun⟩
          cases same
          rw [clean _ rfl none, clear rfl]
        | .error e =>
          obtain ⟨rfl, rfl⟩ := Activity.pure_some.1 ended
          exact ⟨left, kept, fun _ same none => (by cases same; cases none), nofun⟩
      next =>
        obtain ⟨left, kept, -, waits⟩ := ih.losing removed next
        exact ⟨left, kept, nofun, fun _ _ => waits p rfl⟩
    next =>
      obtain ⟨last, called, rfl⟩ := Activity.tracked_some.1 asked
      obtain ⟨-, -, -, ⟨⟨⟩, -⟩ | ⟨-, ⟨⟩, -⟩⟩ | ⟨p, message, ⟨⟩, same, waits⟩ := remove_turns called
      refine ⟨o ::ₘ os, balanced.later [] (by simpa using same) (by simp), nofun,
        fun _ _ => ⟨o, message, waits, fun _ => by simp⟩⟩

theorem taken_accounts {clean : α → Prop} {chosen : OwnedObject → Bool}
    {f : List OwnedObject → Activity (Tracked Dialogue) α}
    (rest : ∀ taken, Accounts (objects taken) clean (f taken)) :
    Accounts 0 clean (takeOut chosen >>= f) := by
  intro lost m r after ran balanced
  obtain ⟨taken, mid, took, ended⟩ | ⟨p, took, -⟩ := Activity.bind_some.1 ran
  next =>
    obtain ⟨same, rfl⟩ := Activity.change_some.1 took
    cases same
    refine rest _ lost _ r after ended (balanced.later [] (List.append_nil _).symm ?_)
    rw [← objects_filter chosen m.world.owned, created_nil, removed_nil]
    abel
  next =>
    obtain ⟨⟨⟩, -⟩ := Activity.change_some.1 took

theorem removal_accounts (taken : List OwnedObject) :
    Accounts (objects taken) (· = [])
      (removeAll (client answers) (taken.map (·.object)).reverse) := by
  rw [objects, ← Multiset.coe_reverse]
  exact removeAll_accounts _

theorem remove_accounts (f : Fixture) : Accounts 0 (· = .ok ()) (remove (client answers) f) := by
  refine taken_accounts fun taken => ?_
  intro lost m r after ran balanced
  obtain ⟨errors, mid, removed, ended⟩ | ⟨p, removed, rfl⟩ := Activity.bind_some.1 ran
  next =>
    obtain ⟨left, kept, clean, -⟩ := removal_accounts taken lost m _ mid removed balanced
    match errors with
    | [] =>
      obtain ⟨rfl, rfl⟩ := Activity.pure_some.1 ended
      exact ⟨left, kept, fun _ _ _ => clean _ rfl rfl, nofun⟩
    | e :: errors =>
      obtain ⟨rfl, rfl⟩ := Activity.pure_some.1 ended
      exact ⟨left, kept, fun _ same none => (by cases same; cases none), nofun⟩
  next =>
    obtain ⟨left, kept, -, waits⟩ := removal_accounts taken lost m _ after removed balanced
    exact ⟨left, kept, nofun, fun _ _ => waits p rfl⟩

theorem teardown_accounts : Accounts 0 (· = []) (teardown (client answers)) :=
  taken_accounts removal_accounts

namespace Command

theorem perform_accounts (files : Files) (c : Command) :
    Accounts 0 (fun r => c.failures r = []) (c.perform files (client answers)) := by
  cases c with
  | ensure f => exact (ensure_accounts files f).mono fun _ _ => trivial
  | applyAll fs => exact (applyAll_accounts files fs).mono fun _ _ => trivial
  | remove f =>
    refine (remove_accounts f).mono fun r none => ?_
    match r with
    | .ok () => rfl
    | .error e => cases none
  | teardown => exact teardown_accounts

theorem performEach_accounts (files : Files) (cs : List Command) :
    Accounts 0 (· = []) (performEach files (client answers) cs) := by
  induction cs with
  | nil => exact pure_accounts _ _
  | cons c cs ih =>
    intro lost m r after ran balanced
    obtain ⟨result, mid, first, rest⟩ | ⟨p, first, rfl⟩ := Activity.bind_some.1 ran
    next =>
      obtain ⟨gone, kept, clean, -⟩ := perform_accounts files c lost m _ mid first balanced
      rw [← zero_add (gone + lost)] at kept
      -- What one command loses stays lost in the commands after it.
      obtain ⟨errors, stop, others, ended⟩ | ⟨p, others, rfl⟩ := Activity.bind_some.1 rest
      next =>
        obtain ⟨rfl, rfl⟩ := Activity.pure_some.1 ended
        obtain ⟨left, kept, clear, -⟩ := ih.losing others kept
        refine ⟨left, kept, fun _ same none => ?_, nofun⟩
        cases same
        obtain ⟨early, late⟩ := List.append_eq_nil_iff.1 none
        rw [clear _ rfl late, clean _ rfl early]
      next =>
        obtain ⟨left, kept, -, waits⟩ := ih.losing others kept
        exact ⟨left, kept, nofun, fun _ _ => waits p rfl⟩
    next =>
      obtain ⟨left, kept, -, waits⟩ := perform_accounts files c lost m _ after first balanced
      exact ⟨left, kept, nofun, fun _ _ => waits p rfl⟩

end Command

/-! ### Teardown -/

theorem removeAll_keeps_owned {σ : Type} (client : FixtureClient σ) (owned : List OwnedObject)
    (os : List FixtureObject) : (removeAll client os).Keeps fun t => t.owned = owned := by
  induction os with
  | nil => exact Activity.pure_keeps _
  | cons o os ih =>
    refine Activity.bind_keeps ?_ fun answer => Activity.bind_keeps ih fun errors => ?_
    · intro m r after ran same
      obtain ⟨last, -, rfl⟩ := Activity.tracked_some.1 ran
      exact same
    · match answer with
      | .ok () => exact Activity.pure_keeps _
      | .error e => exact Activity.pure_keeps _

theorem teardown_owned {σ : Type} {client : FixtureClient σ} {m after : Moment (Tracked σ)}
    {r : Except Panic (List Error)} (ran : teardown client m = some (r, after)) :
    after.world.owned = [] := by
  obtain ⟨taken, mid, took, removed⟩ | ⟨p, took, rfl⟩ := Activity.bind_some.1 ran
  next =>
    obtain ⟨-, rfl⟩ := Activity.change_some.1 took
    exact removeAll_keeps_owned client _ _ _ _ _ removed (by simp)
  next =>
    obtain ⟨⟨⟩, -⟩ := Activity.change_some.1 took

theorem Command.performEach_owned {σ : Type} {files : Files} {client : FixtureClient σ}
    {cs : List Command} {m after : Moment (Tracked σ)} {errors : List Error}
    (last : cs.getLast? = some .teardown)
    (ran : performEach files client cs m = some (.ok errors, after)) : after.world.owned = [] := by
  induction cs generalizing m errors with
  | nil => cases last
  | cons c cs ih =>
    obtain ⟨result, mid, first, rest⟩ := Activity.bind_ok.1 ran
    obtain ⟨others, stop, ended, gathered⟩ := Activity.bind_ok.1 rest
    obtain ⟨-, rfl⟩ := Activity.pure_some.1 gathered
    match cs with
    | [] =>
      obtain rfl : c = .teardown := by simpa using last
      obtain ⟨-, rfl⟩ := Activity.pure_some.1 ended
      exact teardown_owned first
    | d :: ds => exact ih (by rwa [List.getLast?_cons_cons] at last) ended

namespace Participant

def TornDown (p : Participant) (answers : List Answer) : Prop :=
  p.commands.getLast? = some .teardown ∧ (p.run answers).map (·.1) = some (.ok [])

structure Holds (p : Participant) (turns : List Turn) (tracked taken : Multiset FixtureObject) :
    Prop where
  ran : ∃ r stop, p.run (turns.map (·.answer)) = some (r, stop) ∧
    stop.world.world = turns.map (·.message) ∧ objects stop.world.owned = tracked
  created : created turns = tracked + removed turns + taken
  removing : ∀ o message, p.awaited (turns.map (·.answer)) = some (o, message) →
    message.method = .delete → o ∈ taken

theorem standing_accounts (p : Participant) (answers : List Answer) :
    ∃ r stop left, p.standing answers = some (r, stop) ∧ Balanced left stop.world ∧
      (r = .ok [] → left = 0) ∧ ∀ o message, p.awaited answers = some (o, message) →
        message.method = .delete → o ∈ left := by
  obtain ⟨r, stop, stands, -⟩ := p.standing_some answers
  obtain ⟨left, kept, clear, waits⟩ :=
    Command.performEach_accounts p.files p.commands 0 _ r stop stands rfl
  rw [add_zero] at kept
  refine ⟨r, stop, left, stands, kept, fun clean => clear _ clean rfl, ?_⟩
  intro o message awaits delete
  obtain ⟨cut, last, stands', waiting⟩ := awaited_some.1 awaits
  cases stands.symm.trans stands'
  obtain ⟨other, request, waiting', member⟩ := waits cut rfl
  cases waiting.symm.trans waiting'
  exact member delete

theorem holds_of_standing {p : Participant} {turns : List Turn} {r : Except Panic (List Error)}
    {stop : Moment (Tracked Dialogue)}
    (stands : p.standing (turns.map (·.answer)) = some (r, stop))
    (taken : stop.world.world.turns = turns) :
    ∃ tracked taken, p.Holds turns tracked taken ∧
      (p.TornDown (turns.map (·.answer)) → tracked = 0 ∧ taken = 0) := by
  obtain ⟨_, _, left, stands', balanced, clear, removing⟩ :=
    p.standing_accounts (turns.map (·.answer))
  cases stands.symm.trans stands'
  have ran := p.run_eq (turns.map (·.answer))
  rw [stands] at ran
  refine ⟨_, left, ⟨⟨r, _, ran, congrArg (·.map (·.message)) taken, rfl⟩, taken ▸ balanced,
    removing⟩, ?_⟩
  rintro ⟨last, ended⟩
  rw [ran] at ended
  cases ended
  exact ⟨by rw [Command.performEach_owned last ran, objects_nil], clear rfl⟩

end Participant

end Lifecycle

end ShareCheck
