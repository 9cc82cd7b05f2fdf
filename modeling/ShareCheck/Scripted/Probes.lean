import ShareCheck.Poll
import ShareCheck.Scripted.Effect

set_option autoImplicit false

namespace ShareCheck.Scripted

structure ProbeResult where
  effect : Effect := {}
  pending : Option String := none
deriving Inhabited

structure Probes where
  results : List ProbeResult
  evaluations : Nat := 0
  /-- When evaluations began, the last one first. -/
  starts : List Nat := []

namespace Probes

def current (p : Probes) : ProbeResult :=
  match p.results[p.evaluations]? with
  | some r => r
  | none => p.results.getLastD {}

def evaluate : Request Probes Probe := fun now p =>
  let r := p.current
  ((r.effect.before fun p => (.ok (r.pending.elim .satisfied .pending), p)),
    { p with evaluations := p.evaluations + 1, starts := now :: p.starts })

end Probes

end ShareCheck.Scripted
