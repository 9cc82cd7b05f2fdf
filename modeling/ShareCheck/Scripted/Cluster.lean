import ShareCheck.Cluster
import ShareCheck.Scripted.Effect
import ShareCheck.Table

set_option autoImplicit false

namespace ShareCheck.Scripted

structure Response (α : Type) where
  effect : Effect := {}
  items : List α := []
deriving Inhabited

structure Series (α : Type) where
  responses : List (Response α)
  served : Nat := 0
deriving Inhabited

def Series.current {α : Type} (s : Series α) : Response α :=
  -- The last response answers all further calls.
  match s.responses[s.served]? with
  | some r => r
  | none => s.responses.getLastD {}

def Series.advance {α : Type} (s : Series α) : Series α := { s with served := s.served + 1 }

abbrev Script (α : Type) : Type := Table (Series α)

def anySelector : String := "*"

def respond {α : Type} (script : Script α) (selector : String) : Response α × Script α :=
  -- A selector without responses of its own takes those for any selector.
  let key := if (script.get? selector).isSome then selector else anySelector
  match script.get? key with
  | some series => (series.current, script.insert key series.advance)
  | none => ({}, script)

structure IdentityItem where
  kind : Option String := none
  name : Option String := none
  uid : String := ""
deriving DecidableEq, Repr, Inhabited

structure Cluster where
  pods : Script Pod := Table.empty
  services : Script Service := Table.empty
  events : Script Event := Table.empty
  identity : Script IdentityItem := Table.empty
  ensureFaults : Table Effect := Table.empty
  removeFaults : Table Effect := Table.empty
  objects : Table Unit := Table.empty
  /-- The calls, the last one first, and how often each was made in a row. -/
  calls : List (String × Nat) := []
deriving Inhabited

namespace Cluster

def tally (line : String) : List (String × Nat) → List (String × Nat)
  -- Equal calls that follow one another count as one.
  | (last, n) :: earlier =>
    if line = last then (last, n + 1) :: earlier else (line, 1) :: (last, n) :: earlier
  | [] => [(line, 1)]

def log (line : String) (c : Cluster) : Cluster := { c with calls := tally line c.calls }

def listPods (ns selector : String) : Request Cluster (List Pod) := fun _ c =>
  let (r, script) := respond c.pods selector
  (r.effect.before fun c => (.ok r.items, c),
    { c with pods := script }.log ("pods " ++ ns ++ " " ++ selector))

def listServices (ns selector : String) : Request Cluster (List Service) := fun _ c =>
  let (r, script) := respond c.services selector
  (r.effect.before fun c => (.ok r.items, c),
    { c with services := script }.log ("services " ++ ns ++ " " ++ selector))

def listEvents (ns selector : String) : Request Cluster (List Event) := fun _ c =>
  let (r, script) := respond c.events selector
  (r.effect.before fun c => (.ok r.items, c),
    { c with events := script }.log ("events " ++ ns ++ " " ++ selector))

def identityKey (r : ResourceRef) : String :=
  r.apiVersion ++ " " ++ r.kind ++ " " ++ r.ns ++ "/" ++ r.name

def identityOf (r : ResourceRef) : List IdentityItem → ResourceIdentity
  | [] => ⟨r.kind, r.name, "uid-" ++ r.name⟩
  | item :: _ => ⟨item.kind.getD r.kind, item.name.getD r.name, item.uid⟩

def lookUpIdentity (r : ResourceRef) : Request Cluster ResourceIdentity := fun _ c =>
  let (response, script) := respond c.identity (identityKey r)
  (response.effect.before fun c => (.ok (identityOf r response.items), c),
    { c with identity := script }.log ("identity " ++ r.ns ++ " " ++ identityKey r))

def query : ClusterQuery Cluster where
  pods := listPods
  services := listServices
  events := listEvents
  identity := lookUpIdentity

def holds (c : Cluster) (name : String) : Bool := (c.objects.get? name).isSome

def ensure (o : FixtureObject) : Request Cluster Ensured := fun _ c =>
  (((c.ensureFaults.get? o.text).getD {}).before fun c =>
    if c.holds o.text then (.ok .alreadyPresent, c)
    else (.ok .created, { c with objects := c.objects.insert o.text () }),
    c.log ("ensure " ++ o.text))

def remove (o : FixtureObject) : Request Cluster Unit := fun _ c =>
  (((c.removeFaults.get? o.text).getD {}).before fun c =>
    (.ok (), { c with objects := c.objects.erase o.text }),
    c.log ("remove " ++ o.text))

def fixtures : FixtureClient Cluster where
  ensure o := Activity.perform (ensure o)
  remove o := Activity.perform (remove o)

def history (c : Cluster) : List (String × Nat) := c.calls.reverse

end Cluster

end ShareCheck.Scripted
