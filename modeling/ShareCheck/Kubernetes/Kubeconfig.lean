import ShareCheck.Path

set_option autoImplicit false

namespace ShareCheck

/-- Data that stands in the file itself counts before a file that is named. -/
structure KubeCluster where
  server : Option String
  authority : Option Path
  authorityData : Option String
  proxy : Option String
  serverName : Option String
deriving DecidableEq, Repr, Inhabited

structure AuthProvider where
  name : String
  settings : List (String × String)
deriving DecidableEq, Repr, Inhabited

structure KubeUser where
  username : Option String := none
  password : Option String := none
  token : Option String := none
  tokenFile : Option Path := none
  certificate : Option Path := none
  certificateData : Option String := none
  key : Option Path := none
  keyData : Option String := none
  impersonated : Option String := none
  impersonatedGroups : List String := []
  provider : Option AuthProvider := none
  plugin : Option (Option String) := none
deriving DecidableEq, Repr, Inhabited

structure KubeContext where
  cluster : String
  user : Option String
  ns : Option String
deriving DecidableEq, Repr, Inhabited

structure Kubeconfig where
  kind : Option String := none
  apiVersion : Option String := none
  currentContext : Option String := none
  clusters : List (String × Option KubeCluster) := []
  contexts : List (String × Option KubeContext) := []
  users : List (String × Option KubeUser) := []
deriving DecidableEq, Repr, Inhabited

namespace Kubeconfig

def within (dir : Path) (k : Kubeconfig) : Kubeconfig :=
  let cluster (c : KubeCluster) := { c with authority := c.authority.map dir.join }
  let user (u : KubeUser) := { u with
    tokenFile := u.tokenFile.map dir.join
    certificate := u.certificate.map dir.join
    key := u.key.map dir.join }
  { k with
    clusters := k.clusters.map fun (name, c) => (name, c.map cluster)
    users := k.users.map fun (name, u) => (name, u.map user) }

def files (k : Kubeconfig) : List Path :=
  (k.clusters.filterMap (·.2)).flatMap (·.authority.toList) ++
    (k.users.filterMap (·.2)).flatMap fun u =>
      u.tokenFile.toList ++ u.certificate.toList ++ u.key.toList

def appendNew {α : Type} (base next : List (String × α)) : List (String × α) :=
  base ++ next.filter fun (name, _) => (base.lookup name).isNone

def differ (a b : Option String) : Bool := a.isSome && b.isSome && a != b

def merge? (base next : Kubeconfig) : Option Kubeconfig :=
  -- What is said first counts. Nothing when the two are of different kinds.
  if differ base.kind next.kind || differ base.apiVersion next.apiVersion then none
  else some {
    kind := base.kind <|> next.kind
    apiVersion := base.apiVersion <|> next.apiVersion
    currentContext := base.currentContext <|> next.currentContext
    clusters := appendNew base.clusters next.clusters
    contexts := appendNew base.contexts next.contexts
    users := appendNew base.users next.users }

def defined {α : Type} (entries : List (String × Option α)) (name : String) : Option α :=
  (entries.lookup name).join

end Kubeconfig

end ShareCheck
