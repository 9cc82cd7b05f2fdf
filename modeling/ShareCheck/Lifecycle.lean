import ShareCheck.Check
import ShareCheck.Cluster

set_option autoImplicit false

/-!
The objects that a run owns: those that it created itself. An object that was there already is left
alone, whatever else its file declares. What is owned is removed newest first, and given up before
the removal, so no object is removed twice.
-/
namespace ShareCheck

structure OwnedObject where
  fixture : Fixture
  object : FixtureObject
deriving Repr, Inhabited

/-- A world together with what is owned in it, in the order of creation. -/
structure Tracked (σ : Type) where
  owned : List OwnedObject
  world : σ

def Tracked.inner {σ : Type} : Part (Tracked σ) σ := ⟨world, fun w t => { t with world := w }⟩

def Activity.owning {σ α : Type} (owned : List OwnedObject) (x : Activity (Tracked σ) α) :
    Activity σ (α × List OwnedObject) := fun m =>
  match x ⟨m.now, ⟨owned, m.world⟩⟩ with
  | some (.ok a, after) => some (.ok (a, after.world.owned), ⟨after.now, after.world.world⟩)
  | some (.error p, after) => some (.error p, ⟨after.now, after.world.world⟩)
  | none => none

namespace Lifecycle

variable {σ : Type}

def setupError (o : FixtureObject) : Error → Error
  -- Errors of a setup keep the fixture or object that they name.
  | .setup fixture message => .setup fixture message
  | e => .setup o.text e.message

def teardownError (o : FixtureObject) : Error → Error
  | .teardown fixture message => .teardown fixture message
  | e => .teardown o.text e.message

def own (f : Fixture) (o : FixtureObject) : Activity (Tracked σ) Unit :=
  Activity.change fun t => ((), { t with owned := t.owned ++ [⟨f, o⟩] })

def ensureObject (client : FixtureClient σ) (f : Fixture) (o : FixtureObject) :
    Activity (Tracked σ) (Except Error Ensured) := do
  match ← (client.ensure o).within Tracked.inner with
  | .ok .created =>
    own f o
    pure (.ok .created)
  | .ok .alreadyPresent => pure (.ok .alreadyPresent)
  | .error e => pure (.error (setupError o e))

def ensureObjects (client : FixtureClient σ) (f : Fixture) (outcome : Ensured) :
    List FixtureObject → Activity (Tracked σ) (Except Error Ensured)
  -- Stops at the first error and keeps what was created before it.
  | [] => Activity.pure (.ok outcome)
  | o :: os => (ensureObject client f o).andThen fun e =>
    ensureObjects client f (outcome.join e) os

def ensure (files : Files) (client : FixtureClient σ) (f : Fixture) :
    Activity (Tracked σ) (Except Error Ensured) :=
  -- A file that cannot be used asks nothing of the cluster.
  match f.load files with
  | .error e => Activity.pure (.error (.setup f.text e.message))
  | .ok objects => ensureObjects client f .alreadyPresent objects

def applyAll (files : Files) (client : FixtureClient σ) :
    List Fixture → Activity (Tracked σ) (Except Error Unit)
  | [] => Activity.pure (.ok ())
  | f :: fs => (ensure files client f).andThen fun _ => applyAll files client fs

def takeOut (chosen : OwnedObject → Bool) : Activity (Tracked σ) (List OwnedObject) :=
  Activity.change fun t =>
    (t.owned.filter chosen, { t with owned := t.owned.filter fun o => !chosen o })

def removeAll (client : FixtureClient σ) : List FixtureObject → Activity (Tracked σ) (List Error)
  -- A removal that fails does not stop the others.
  | [] => Activity.pure []
  | o :: os => do
    let answer ← (client.remove o).within Tracked.inner
    let errors ← removeAll client os
    match answer with
    | .ok () => pure errors
    | .error e => pure (teardownError o e :: errors)

def remove (client : FixtureClient σ) (f : Fixture) : Activity (Tracked σ) (Except Error Unit) := do
  -- Removes what is owned through one fixture. All failures make one error.
  let taken ← takeOut fun o => o.fixture.same f
  match ← removeAll client (taken.map (·.object)).reverse with
  | [] => pure (.ok ())
  | errors => pure (.error (.teardown f.text ("; ".intercalate (errors.map (·.message)))))

def teardown (client : FixtureClient σ) : Activity (Tracked σ) (List Error) := do
  let taken ← takeOut fun _ => true
  removeAll client (taken.map (·.object)).reverse

end Lifecycle

end ShareCheck
