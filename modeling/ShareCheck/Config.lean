import ShareCheck.Activity
import ShareCheck.Fixture

set_option autoImplicit false

namespace ShareCheck

structure Config where
  ns : String := "samba-operator-system"
  fixturesDir : Path := ⟨"tests/files"⟩
  clusterDomain : String := "cluster.local"
  externalDomain : String := "domain1.sink.test"
  serviceLabel : String := "samba-operator.samba.org/service"
  shareApiVersion : String := "samba-operator.samba.org/v1alpha1"
  shareKind : String := "SmbShare"
  existTimeout : Nat := 10000
  readyTimeout : Nat := 60000
  pollInterval : Nat := 250
  dnsSettleDelay : Nat := 400
  accessTimeout : Nat := 30000
  kubeconfig : Option Path := none
  /-- No setting, but what the clock of the machine can do. -/
  clockReach : Nat := ShareCheck.clockReach
deriving DecidableEq, Repr, Inhabited

namespace Config

def fixtureIn (c : Config) (file : Path) (ns : String) : Fixture := ⟨c.fixturesDir.join file, ns⟩

def fixture (c : Config) (file : Path) : Fixture := c.fixtureIn file c.ns

def serviceSelector (c : Config) (share : String) : String := c.serviceLabel ++ "=" ++ share

end Config

end ShareCheck
