import ShareCheck.Activity

set_option autoImplicit false

namespace ShareCheck.Scripted

structure Effect where
  delay : Nat := 0
  hang : Bool := false
  panic : Option Panic := none
  error : Option Error := none
deriving DecidableEq, Repr, Inhabited

variable {σ α : Type}

def Effect.before (e : Effect) (work : σ → Except Error α × σ) : Flight σ (Except Error α) :=
  if e.hang then .never
  else .lands e.delay fun w =>
    match e.panic, e.error with
    | some p, _ => (.error p, w)
    | none, some error => (.ok (.error error), w)
    | none, none =>
      let (r, w) := work w
      (.ok r, w)

def Effect.alone (e : Effect) : Activity σ (Except Error Unit) :=
  Activity.perform fun _ w => (e.before fun w => (.ok (), w), w)

end ShareCheck.Scripted
