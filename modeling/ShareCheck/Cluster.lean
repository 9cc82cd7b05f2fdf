import ShareCheck.Activity
import ShareCheck.Fixture

set_option autoImplicit false

namespace ShareCheck

structure Condition where
  type : String
  status : String
deriving DecidableEq, Repr, Inhabited

def Condition.holds (c : Condition) : Bool := c.status == "True"

structure ContainerStatus where
  name : String
  ready : Bool
deriving DecidableEq, Repr, Inhabited

structure PodStatus where
  phase : Option String := none
  ip : Option String := none
  conditions : Option (List Condition) := none
  containers : Option (List ContainerStatus) := none
deriving DecidableEq, Repr, Inhabited

structure Pod where
  name : Option String := none
  containers : Option (List String) := none
  status : Option PodStatus := none
deriving DecidableEq, Repr, Inhabited

namespace Pod

def conditions (p : Pod) : Option (List Condition) := p.status.bind (·.conditions)

def nameText (p : Pod) : String := p.name.getD "<unnamed>"

def isReady (p : Pod) : Bool :=
  match p.conditions with
  | some cs => !cs.isEmpty && cs.all (·.holds)
  | none => false

def conditionsText (p : Pod) : String :=
  ",".intercalate ((p.conditions.getD []).map fun c => c.type ++ "=" ++ c.status)

def summary (p : Pod) : String :=
  "pod " ++ p.nameText ++ " phase " ++ (p.status.bind (·.phase)).getD "Unknown" ++
    " conditions [" ++ p.conditionsText ++ "]"

end Pod

structure Service where
  name : Option String := none
  type : Option String := none
deriving DecidableEq, Repr, Inhabited

structure Event where
  reason : Option String := none
deriving DecidableEq, Repr, Inhabited

structure ClusterQuery (σ : Type) where
  pods : (ns selector : String) → Request σ (List Pod)
  services : (ns selector : String) → Request σ (List Service)
  events : (ns selector : String) → Request σ (List Event)
  identity : ResourceRef → Request σ ResourceIdentity

def ClusterQuery.within {τ σ : Type} (part : Part τ σ) (q : ClusterQuery σ) : ClusterQuery τ where
  pods ns selector := (q.pods ns selector).within part
  services ns selector := (q.services ns selector).within part
  events ns selector := (q.events ns selector).within part
  identity r := (q.identity r).within part

inductive Ensured
  | created
  | alreadyPresent
deriving DecidableEq, Repr

def Ensured.join : Ensured → Ensured → Ensured
  | created, _ => created
  | alreadyPresent, e => e

structure FixtureClient (σ : Type) where
  ensure : FixtureObject → Activity σ (Except Error Ensured)
  remove : FixtureObject → Activity σ (Except Error Unit)

def FixtureClient.within {τ σ : Type} (part : Part τ σ) (c : FixtureClient σ) :
    FixtureClient τ where
  ensure o := (c.ensure o).within part
  remove o := (c.remove o).within part

end ShareCheck
