import ShareCheck.Error

set_option autoImplicit false

/-!
What takes time, on a clock that counts milliseconds. A call to a collaborator is under way until it
lands, and only then acts on the world; one that is given up before has done nothing more than
begin. An activity makes calls one after another. It may panic, and it may never return.
-/
namespace ShareCheck

inductive Flight (σ α : Type)
  | never
  | lands (delay : Nat) (finish : σ → Except Panic α × σ)

/-- What beginning a call does to the world, and what is then under way. -/
def Call (σ α : Type) : Type := Nat → σ → Flight σ α × σ

abbrev Request (σ α : Type) : Type := Call σ (Except Error α)

def Flight.map {σ α β : Type} (f : α → β) : Flight σ α → Flight σ β
  | .never => .never
  | .lands delay finish => .lands delay fun w =>
    match finish w with
    | (.ok a, w) => (.ok (f a), w)
    | (.error p, w) => (.error p, w)

def Call.map {σ α β : Type} (f : α → β) (c : Call σ α) : Call σ β := fun now w =>
  let (flight, w) := c now w
  (flight.map f, w)

structure Part (τ σ : Type) where
  get : τ → σ
  put : σ → τ → τ

def Flight.within {τ σ α : Type} (part : Part τ σ) : Flight σ α → Flight τ α
  | .never => .never
  | .lands delay finish => .lands delay fun w =>
    let (r, inner) := finish (part.get w)
    (r, part.put inner w)

def Call.within {τ σ α : Type} (part : Part τ σ) (c : Call σ α) : Call τ α := fun now w =>
  let (flight, inner) := c now (part.get w)
  (flight.within part, part.put inner w)

structure Moment (σ : Type) where
  now : Nat
  world : σ

/-- How many milliseconds ahead a clock can tell that counts seconds in 63 bits. -/
def clockReach : Nat := Nat.pow 2 63 * 1000 - 1

def Activity (σ α : Type) : Type := Moment σ → Option (Except Panic α × Moment σ)

namespace Activity

variable {σ α β : Type}

protected def pure (a : α) : Activity σ α := fun m => some (.ok a, m)

protected def bind (x : Activity σ α) (f : α → Activity σ β) : Activity σ β := fun m =>
  match x m with
  | some (.ok a, m) => f a m
  | some (.error p, m) => some (.error p, m)
  | none => none

instance : Monad (Activity σ) where
  pure := Activity.pure
  bind := Activity.bind

def panic (p : Panic) : Activity σ α := fun m => some (.error p, m)

def ofResult (r : Except Panic α) : Activity σ α := fun m => some (r, m)

def now : Activity σ Nat := fun m => some (.ok m.now, m)

def sleep (delay : Nat) : Activity σ Unit := fun m => some (.ok (), { m with now := m.now + delay })

def change (f : σ → α × σ) : Activity σ α := fun m =>
  let (a, w) := f m.world
  some (.ok a, { m with world := w })

def perform (c : Call σ α) : Activity σ α := fun m =>
  match c m.now m.world with
  | (.never, _) => none
  | (.lands delay finish, w) =>
    let (r, w) := finish w
    some (r, ⟨m.now + delay, w⟩)

def within {τ : Type} (part : Part τ σ) (x : Activity σ α) : Activity τ α := fun m =>
  match x ⟨m.now, part.get m.world⟩ with
  | some (r, after) => some (r, ⟨after.now, part.put after.world m.world⟩)
  | none => none

def andThen (x : Activity σ (Except Error α)) (f : α → Activity σ (Except Error β)) :
    Activity σ (Except Error β) :=
  x.bind fun
    | .ok a => f a
    | .error e => Activity.pure (.error e)

end Activity

end ShareCheck
