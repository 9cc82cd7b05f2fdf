import Mathlib.Data.List.Basic
import ShareCheck.Proofs.Poll
import ShareCheck.Scenario

set_option autoImplicit false

/-!
The calls of a run. A traced collaborator does what the collaborator does and writes down each call
as it begins, and its answer as it lands.
-/
namespace ShareCheck

open Text (Bytes)

inductive Operation
  | ensure (o : FixtureObject)
  | remove (o : FixtureObject)
  | pods (ns selector : String)
  | services (ns selector : String)
  | events (ns selector : String)
  | identity (r : ResourceRef)
  | list (t : Target) (c : Credential)
  | put (t : Target) (c : Credential) (name : String) (contents : Bytes)
  | get (t : Target) (c : Credential) (name : String)
  | delete (t : Target) (c : Credential) (name : String)

abbrev Operation.Answer : Operation → Type
  | ensure _ => Ensured
  | remove _ => Unit
  | pods _ _ => List Pod
  | services _ _ => List Service
  | events _ _ => List Event
  | identity _ => ResourceIdentity
  | list _ _ => List String
  | put _ _ _ _ => Unit
  | get _ _ _ => Bytes
  | delete _ _ _ => Unit

inductive Entry
  | began (o : Operation)
  | ended (o : Operation) (answer : Except Panic (Except Error o.Answer))

abbrev Trace : Type := List Entry

structure Traced (σ : Type) where
  trace : Trace
  world : σ

variable {σ α β : Type}

def Flight.traced (o : Operation) :
    Flight σ (Except Error o.Answer) → Flight (Traced σ) (Except Error o.Answer)
  | .never => .never
  | .lands delay finish => .lands delay fun t =>
    let (answer, w) := finish t.world
    (answer, ⟨t.trace ++ [.ended o answer], w⟩)

def Call.traced (o : Operation) (c : Request σ o.Answer) : Request (Traced σ) o.Answer :=
  -- The entry is there as soon as the call begins, whether it ever lands or not.
  fun now t =>
    let (flight, w) := c now t.world
    (flight.traced o, ⟨t.trace ++ [.began o], w⟩)

def Activity.traced (o : Operation) (x : Activity σ (Except Error o.Answer)) :
    Activity (Traced σ) (Except Error o.Answer) := fun m =>
  match x ⟨m.now, m.world.world⟩ with
  | some (answer, after) =>
    some (answer, ⟨after.now, ⟨m.world.trace ++ [.began o, .ended o answer], after.world⟩⟩)
  | none => none

def ClusterQuery.traced (q : ClusterQuery σ) : ClusterQuery (Traced σ) where
  pods ns selector := Call.traced (.pods ns selector) (q.pods ns selector)
  services ns selector := Call.traced (.services ns selector) (q.services ns selector)
  events ns selector := Call.traced (.events ns selector) (q.events ns selector)
  identity r := Call.traced (.identity r) (q.identity r)

def FixtureClient.traced (c : FixtureClient σ) : FixtureClient (Traced σ) where
  ensure o := Activity.traced (.ensure o) (c.ensure o)
  remove o := Activity.traced (.remove o) (c.remove o)

def ShareClient.traced (s : ShareClient σ) : ShareClient (Traced σ) where
  list t c := Call.traced (.list t c) (s.list t c)
  put t c name contents := Call.traced (.put t c name contents) (s.put t c name contents)
  get t c name := Call.traced (.get t c name) (s.get t c name)
  remove t c name := Call.traced (.delete t c name) (s.remove t c name)

def Collaborators.traced (c : Collaborators σ) : Collaborators (Traced σ) where
  query := c.query.traced
  fixtures := c.fixtures.traced
  shares := c.shares.traced
  suffix t := ((c.suffix t.world).1, { t with world := (c.suffix t.world).2 })

def Scenario.Setting.traced (r : Scenario.Setting σ) : Scenario.Setting (Traced σ) :=
  { config := r.config, files := r.files, collaborators := r.collaborators.traced }

namespace Entry

def operation : Entry → Operation
  | began o => o
  | ended o _ => o

def onFixtures (e : Entry) : Bool :=
  match e.operation with
  | .ensure _ => true
  | .remove _ => true
  | _ => false

def requested? : Entry → Option FixtureObject
  | began (.ensure o) => some o
  | _ => none

def ensured? : Entry → Option FixtureObject
  | ended (.ensure o) (.ok (.ok _)) => some o
  | _ => none

def created? : Entry → Option FixtureObject
  -- An answer that never landed, or a panic, tells of no object.
  | ended (.ensure o) (.ok (.ok .created)) => some o
  | _ => none

def present? : Entry → Option FixtureObject
  | ended (.ensure o) (.ok (.ok .alreadyPresent)) => some o
  | _ => none

def handed? : Entry → Option FixtureObject
  | began (.remove o) => some o
  | _ => none

def removed? : Entry → Option FixtureObject
  | ended (.remove o) (.ok (.ok ())) => some o
  | _ => none

def unremoved? : Entry → Option (FixtureObject × Error)
  | ended (.remove o) (.ok (.error e)) => some (o, e)
  | _ => none

/-- Only panics of removals, which nothing catches. -/
def panicked? : Entry → Option (FixtureObject × Panic)
  | ended (.remove o) (.error p) => some (o, p)
  | _ => none

end Entry

namespace Trace

def requested (t : Trace) : List FixtureObject := t.filterMap Entry.requested?

def ensured (t : Trace) : List FixtureObject := t.filterMap Entry.ensured?

def created (t : Trace) : List FixtureObject := t.filterMap Entry.created?

def present (t : Trace) : List FixtureObject := t.filterMap Entry.present?

def handed (t : Trace) : List FixtureObject := t.filterMap Entry.handed?

def removed (t : Trace) : List FixtureObject := t.filterMap Entry.removed?

def unremoved (t : Trace) : List (FixtureObject × Error) := t.filterMap Entry.unremoved?

def panicked (t : Trace) : List (FixtureObject × Panic) := t.filterMap Entry.panicked?

@[simp] theorem requested_append (t u : Trace) : requested (t ++ u) = requested t ++ requested u :=
  List.filterMap_append

@[simp] theorem ensured_append (t u : Trace) : ensured (t ++ u) = ensured t ++ ensured u :=
  List.filterMap_append

@[simp] theorem created_append (t u : Trace) : created (t ++ u) = created t ++ created u :=
  List.filterMap_append

@[simp] theorem present_append (t u : Trace) : present (t ++ u) = present t ++ present u :=
  List.filterMap_append

@[simp] theorem handed_append (t u : Trace) : handed (t ++ u) = handed t ++ handed u :=
  List.filterMap_append

@[simp] theorem removed_append (t u : Trace) : removed (t ++ u) = removed t ++ removed u :=
  List.filterMap_append

@[simp] theorem unremoved_append (t u : Trace) :
    unremoved (t ++ u) = unremoved t ++ unremoved u :=
  List.filterMap_append

@[simp] theorem panicked_append (t u : Trace) : panicked (t ++ u) = panicked t ++ panicked u :=
  List.filterMap_append

theorem panicked_eq_nil {t : Trace} (answered : ∀ o p, Entry.ended (.remove o) (.error p) ∉ t) :
    t.panicked = [] := by
  refine List.filterMap_eq_nil_iff.2 fun e member => ?_
  cases e with
  | began o => rfl
  | ended o answer =>
    cases o with
    | remove o =>
      cases answer with
      | ok answer => rfl
      | error p => exact absurd member (answered o p)
    | ensure | pods | services | events | identity | list | put | get | delete => rfl

end Trace

theorem Entry.silent {e : Entry} (other : e.onFixtures = false) :
    e.created? = none ∧ e.present? = none ∧ e.handed? = none ∧ e.unremoved? = none := by
  cases e with
  | began o => cases o <;> first | exact ⟨rfl, rfl, rfl, rfl⟩ | cases other
  | ended o answer => cases o <;> first | exact ⟨rfl, rfl, rfl, rfl⟩ | cases other

theorem Trace.filterMap_onFixtures {α : Type} {f : Entry → Option α}
    (silent : ∀ e, e.onFixtures = false → f e = none) {t u : Trace}
    (same : t.filter Entry.onFixtures = u.filter Entry.onFixtures) :
    t.filterMap f = u.filterMap f := by
  have filtered (t : Trace) : (t.filter Entry.onFixtures).filterMap f = t.filterMap f := by
    rw [List.filterMap_filter]
    -- What the filter drops would have told nothing.
    refine List.filterMap_congr fun e _ => ?_
    cases h : e.onFixtures with
    | true => rfl
    | false => exact (silent e h).symm
  rw [← filtered t, ← filtered u, same]

theorem Trace.told {t u : Trace} (same : t.filter Entry.onFixtures = u.filter Entry.onFixtures) :
    t.created = u.created ∧ t.present = u.present ∧ t.handed = u.handed ∧
      t.unremoved = u.unremoved :=
  ⟨filterMap_onFixtures (fun _ other => (Entry.silent other).1) same,
    filterMap_onFixtures (fun _ other => (Entry.silent other).2.1) same,
    filterMap_onFixtures (fun _ other => (Entry.silent other).2.2.1) same,
    filterMap_onFixtures (fun _ other => (Entry.silent other).2.2.2) same⟩

theorem Trace.requested_eq {t u : Trace}
    (same : t.filter Entry.onFixtures = u.filter Entry.onFixtures) : t.requested = u.requested := by
  refine filterMap_onFixtures (fun e other => ?_) same
  cases e with
  | began o => cases o <;> first | rfl | cases other
  | ended o answer => rfl

theorem Trace.onFixtures_snoc {calls : Trace} (u : Trace) (e : Entry) (other : e.onFixtures = false)
    (same : u.filter Entry.onFixtures = calls) : (u ++ [e]).filter Entry.onFixtures = calls := by
  simp [List.filter_append, other, same]

section

variable {I : σ → Prop} {T : Trace → Prop}

theorem Call.traced_keeps {o : Operation} {c : Request σ o.Answer} (kept : c.Keeps I)
    (writes : ∀ u e, e.operation = o → T u → T (u ++ [e])) :
    (Call.traced o c).Keeps fun t => T t.trace ∧ I t.world where
  beginning now t holds :=
    ⟨writes t.trace (.began o) rfl holds.1, kept.beginning now t.world holds.2⟩
  landing now t delay finish lands v holds := by
    unfold Call.traced at lands
    match begun : c now t.world with
    | (.never, w) => simp [begun, Flight.traced] at lands
    | (.lands _ done, w) =>
      simp only [begun, Flight.traced, Flight.lands.injEq] at lands
      obtain ⟨-, rfl⟩ := lands
      exact ⟨writes v.trace (.ended o _) rfl holds.1, (kept.lands begun).2 v.world holds.2⟩

end

section

variable {o : Operation} {c : Request σ o.Answer} {f : Except Error o.Answer → β}

theorem Call.traced_begins (now : Nat) (t : Traced σ) :
    (((Call.traced o c).map f) now t).2.trace = t.trace ++ [.began o] := rfl

theorem Call.traced_lands {now delay : Nat} {t u : Traced σ}
    {finish : Traced σ → Except Panic β × Traced σ}
    (begun : (Call.traced o c).map f now t = (.lands delay finish, u)) (v : Traced σ) :
    ∃ answer, (finish v).1 = answer.map f ∧
      (finish v).2.trace = v.trace ++ [.ended o answer] := by
  unfold Call.map Call.traced at begun
  match h : c now t.world with
  | (.never, w) => simp [h, Flight.traced, Flight.map] at begun
  | (.lands _ done, w) =>
    simp only [h, Flight.traced, Flight.map, Prod.mk.injEq, Flight.lands.injEq] at begun
    obtain ⟨⟨-, rfl⟩, -⟩ := begun
    -- A panic is written down like any other answer.
    rcases answered : done v.world with ⟨answer, w⟩
    refine ⟨answer, ?_, ?_⟩
    all_goals cases answer <;> simp [answered, Except.map]

theorem Activity.perform_traced {m after : Moment (Traced σ)}
    {r : Except Panic (Except Error o.Answer)}
    (ran : Activity.perform (Call.traced o c) m = some (r, after)) :
    after.world.trace = m.world.trace ++ [.began o, .ended o r] := by
  unfold Activity.perform Call.traced at ran
  match h : c m.now m.world.world with
  | (.never, w) => simp [h, Flight.traced] at ran
  | (.lands delay finish, w) =>
    simp only [h, Flight.traced, Option.some.injEq, Prod.mk.injEq] at ran
    obtain ⟨rfl, rfl⟩ := ran
    simp

end

end ShareCheck
