import ShareCheck.Files
import ShareCheck.Kubernetes.Kubeconfig
import ShareCheck.Pem
import ShareCheck.Uri

set_option autoImplicit false

namespace ShareCheck.Kubeconfig

structure Settings where
  server : Uri
  ns : String
  proxy : Option Uri
  /-- Certificates to trust. None: those that the system trusts. -/
  authorities : Option (List Text.Bytes)
  serverName : Option String
  user : KubeUser
deriving Repr

inductive LoadFailure
  | noCurrentContext
  | unknownContext (name : String)
  | unknownCluster (name : String)
  | noServer
  | invalidAddress (address : String)
  | notBase64
  | unreadable (e : ReadError)
  | notPem
deriving DecidableEq, Repr

def LoadFailure.message : LoadFailure → String
  | noCurrentContext => "no current context"
  | unknownContext name => "unknown context " ++ name
  | unknownCluster name => "unknown cluster " ++ name
  | noServer => "the cluster has no server"
  | invalidAddress address => "not an address: " ++ address
  | notBase64 => "the data is not in base64"
  | unreadable e => "failed to read: " ++ e.message
  | notPem => "not a list of certificates"

def contents (files : Files) (data : Option String) (file : Option Path) :
    Except LoadFailure (Option Text.Bytes) :=
  match data, file with
  | some text, _ => (Text.Base64.decode? text.toList).elim (.error .notBase64) (.ok ∘ some)
  | none, some path =>
    match files path with
    | .ok bytes => .ok (some bytes)
    | .error e => .error (.unreadable e)
  | none, none => .ok none

def KubeCluster.authorities (files : Files) (c : KubeCluster) :
    Except LoadFailure (Option (List Text.Bytes)) := do
  match ← contents files c.authorityData c.authority with
  | none => return none
  | some bytes =>
    match Pem.blocks? bytes with
    | none => throw .notPem
    | some blocks => return some ((blocks.filter (·.label == "CERTIFICATE")).map (·.contents))

def address (text : String) : Except LoadFailure Uri :=
  match Uri.parse text with
  | .ok u => .ok u
  | .error _ => .error (.invalidAddress text)

def found {α : Type} (failure : LoadFailure) : Option α → Except LoadFailure α
  | some a => .ok a
  | none => .error failure

def load (files : Files) (k : Kubeconfig) : Except LoadFailure Settings := do
  -- A proxy without a text is none.
  let name ← found .noCurrentContext k.currentContext
  let context ← found (.unknownContext name) (defined k.contexts name)
  let cluster ← found (.unknownCluster context.cluster) (defined k.clusters context.cluster)
  let server ← found .noServer cluster.server
  return {
    server := ← address server
    ns := context.ns.getD "default"
    proxy := ← (cluster.proxy.filter (!·.isEmpty)).mapM address
    authorities := ← KubeCluster.authorities files cluster
    serverName := cluster.serverName
    user := (context.user.bind (defined k.users)).getD {} }

end ShareCheck.Kubeconfig
