import ShareCheck.Access.RoundTrip
import ShareCheck.Check
import ShareCheck.Endpoint

set_option autoImplicit false

/-!
Round trips of several credentials at once. Each one goes on until it has to wait; whenever calls
land, those they land for go on, up to thirty of them in the order of the credentials, more in the
order in which they began to wait. What has not ended when the time is over counts as not connected.
-/
namespace ShareCheck

variable {σ : Type}

inductive Strand (σ : Type)
  | lost
  | waiting (s : Stage) (landing : Nat) (finish : σ → Except Panic (Progress s) × σ)
  | done (ended : Nat) (outcome : Except Panic (Except Error Unit))

def Strand.landing? : Strand σ → Option Nat
  | .waiting _ landing _ => some landing
  | _ => none

structure Lane (σ : Type) where
  position : Nat
  trip : RoundTrip
  strand : Strand σ

namespace RoundTrip

/-- Goes on from a stage as long as no time passes. -/
def proceed (client : ShareClient σ) (t : RoundTrip) (now : Nat) (s : Stage) (w : σ) :
    Strand σ × σ :=
  match t.call client s now w with
  | (.never, w) => (.lost, w)
  | (.lands delay finish, w) =>
    if delay = 0 then
      match finish w with
      | (.ok (.next after _), w) => proceed client t now after w
      | (.ok (.finished r), w) => (.done now (.ok r), w)
      | (.error p, w) => (.done now (.error p), w)
    else (.waiting s (now + delay) finish, w)
termination_by s.rank

def wake (client : ShareClient σ) (t : RoundTrip) (now : Nat) : Strand σ → σ → Strand σ × σ
  | .waiting s landing finish, w =>
    if landing ≤ now then
      match finish w with
      | (.ok (.next after _), w) => t.proceed client now after w
      | (.ok (.finished r), w) => (.done now (.ok r), w)
      | (.error p, w) => (.done now (.error p), w)
    else (.waiting s landing finish, w)
  | strand, w => (strand, w)

end RoundTrip

namespace Lane

def beginAll (client : ShareClient σ) (now : Nat) :
    List (RoundTrip × Nat) → σ → List (Lane σ) × σ
  | [], w => ([], w)
  | (t, position) :: ts, w =>
    let (strand, w) := t.proceed client now .listing w
    let (rest, w) := beginAll client now ts w
    (⟨position, t, strand⟩ :: rest, w)

def wakeAll (client : ShareClient σ) (now : Nat) : List (Lane σ) → σ → List (Lane σ) × σ
  | [], w => ([], w)
  | l :: ls, w =>
    let (strand, w) := l.trip.wake client now l.strand w
    let (rest, w) := wakeAll client now ls w
    ({ l with strand } :: rest, w)

def inOrder (lanes : List (Lane σ)) : List (Lane σ) :=
  lanes.mergeSort fun a b => a.position ≤ b.position

def isDue (now : Nat) (l : Lane σ) : Bool := l.strand.landing? == some now

def nextLanding? (lanes : List (Lane σ)) : Option Nat :=
  (lanes.filterMap (·.strand.landing?)).min?

/-- The most round trips that keep to the order of their credentials. -/
def orderly : Nat := 30

/-- The order in which lanes go on. When the time is over all of them are called upon, which brings
them back into the order of the credentials. -/
def arrange (limit now : Nat) (lanes : List (Lane σ)) : List (Lane σ) :=
  if lanes.length ≤ orderly then lanes
  else if now < limit then lanes.filter (!·.isDue now) ++ lanes.filter (·.isDue now)
  else inOrder lanes

def run (client : ShareClient σ) (limit : Nat) (lanes : List (Lane σ)) (m : Moment σ) :
    List (Lane σ) × σ :=
  match nextLanding? lanes with
  | none => (lanes, m.world)
  | some t =>
    if m.now < t ∧ t ≤ limit then
      let (lanes, w) := wakeAll client t (arrange limit t lanes) m.world
      run client limit lanes ⟨t, w⟩
    else (lanes, m.world)
termination_by limit - m.now
decreasing_by omega

end Lane

def Strand.verdict (limit : Nat) (late : Error) : Strand σ → Nat × Except Panic (Except Error Unit)
  | .done ended outcome => (ended, outcome)
  | _ => (limit, .ok (.error late))

def accessCheckName (endpoint : Endpoint) (c : Credential) : String :=
  "access[" ++ endpoint.label ++ "/" ++ c.username ++ "]"

def noResponse (target : Target) (timeout : Nat) : Error :=
  .access .connection target.unc ("no response within " ++ (Duration.ofMillis timeout).text)

def verifyEndpoint (client : ShareClient σ) (endpoint : Endpoint) (target : Target) (timeout : Nat)
    (credentials : List (Credential × String)) : Activity σ (List Check) := fun m =>
  let trips := credentials.map fun (c, probe) => (⟨target, c, probe⟩ : RoundTrip)
  let limit := m.now + timeout
  let (lanes, w) := Lane.beginAll client m.now trips.zipIdx m.world
  let (lanes, w) := Lane.run client limit lanes ⟨m.now, w⟩
  let verdicts := (Lane.inOrder lanes).map fun l =>
    (l.trip.credential, l.strand.verdict limit (noResponse target timeout))
  let checks := verdicts.map fun (c, ended, outcome) =>
    Check.ofOutcome (accessCheckName endpoint c) (ended - m.now) outcome
  some (.ok checks, ⟨verdicts.foldl (fun latest (_, ended, _) => max latest ended) m.now, w⟩)

end ShareCheck
