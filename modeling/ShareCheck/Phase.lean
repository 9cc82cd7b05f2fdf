set_option autoImplicit false

namespace ShareCheck

inductive Phase
  | uninitialized
  | fixturesApplied
  | workloadDiscovered
  | workloadReady
  | verified
  | tornDown
  | failed
deriving DecidableEq, Repr, Inhabited

namespace Phase

def name : Phase → String
  | uninitialized => "Uninitialized"
  | fixturesApplied => "FixturesApplied"
  | workloadDiscovered => "WorkloadDiscovered"
  | workloadReady => "WorkloadReady"
  | verified => "Verified"
  | tornDown => "TornDown"
  | failed => "Failed"

def all : List Phase :=
  [uninitialized, fixturesApplied, workloadDiscovered, workloadReady, verified, tornDown, failed]

def canEnter : Phase → Phase → Bool
  | tornDown, _ => false
  | _, tornDown => true
  | failed, _ => false
  | _, failed => true
  | uninitialized, fixturesApplied => true
  | fixturesApplied, workloadDiscovered => true
  | workloadDiscovered, workloadReady => true
  | workloadReady, verified => true
  | _, _ => false

end Phase

end ShareCheck
