import ShareCheck.Activity

set_option autoImplicit false

namespace ShareCheck

/-- `duration` is in milliseconds. -/
structure Check where
  name : String
  duration : Nat
  error : Option Error
deriving DecidableEq, Repr, Inhabited

namespace Check

def passed (c : Check) : Bool := c.error.isNone

def ofResult (name : String) (duration : Nat) : Except Error Unit → Check
  | .ok () => ⟨name, duration, none⟩
  | .error e => ⟨name, duration, some e⟩

def panicError (name : String) (p : Panic) : Error := .verification name ("PANIC: " ++ p.message)

def ofOutcome (name : String) (duration : Nat) : Except Panic (Except Error Unit) → Check
  | .ok r => ofResult name duration r
  | .error p => ofResult name duration (.error (panicError name p))

def run {σ : Type} (name : String) (work : Activity σ (Except Error Unit)) : Activity σ Check :=
  fun m =>
    match work m with
    | some (outcome, after) => some (.ok (ofOutcome name (after.now - m.now) outcome), after)
    | none => none

end Check

end ShareCheck
