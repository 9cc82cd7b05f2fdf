import ShareCheck.Kubernetes.Credentials
import ShareCheck.Kubernetes.Kubeconfig.Load
import ShareCheck.Kubernetes.Kubeconfig.Read
import ShareCheck.ServerName

set_option autoImplicit false

namespace ShareCheck

structure Connection where
  server : Uri
  defaultNamespace : String
deriving DecidableEq, Repr

namespace Connection

open Credentials (Sources AuthError)
open Kubeconfig (Settings)

inductive TlsError
  | authority
  | unknownKey
  | noKey
  | noCertificate
  | invalidKey
  | serverName
deriving DecidableEq, Repr

def TlsError.message : TlsError → String
  | authority => "failed to add a root certificate: invalid peer certificate: BadEncoding"
  | unknownKey => "unknown private key format"
  | noKey =>
    "identity PEM is missing a private key: the key must be PKCS8 or RSA/PKCS1"
  | noCertificate => "identity PEM is missing certificate"
  | invalidKey =>
    "invalid private key: unexpected error: failed to parse private key as RSA, ECDSA, or EdDSA"
  | serverName => "invalid server name: invalid dns name"

inductive SetupError
  | proxyDisabled (proxy : Uri) (feature : String)
  | proxyUnsupported (proxy : Uri)
  | auth (e : AuthError)
  | tls (e : TlsError)
  | header
deriving DecidableEq, Repr

def SetupError.message : SetupError → String
  | proxyDisabled proxy feature =>
    "configured proxy " ++ proxy.text ++ " requires the disabled feature " ++ Text.quoted feature
  | proxyUnsupported proxy =>
    "configured proxy " ++ proxy.text ++ " uses an unsupported protocol"
  | auth e => "auth error: " ++ e.message
  | tls e => "rustls tls error: " ++ e.message
  | header => "HttpError: failed to parse header value"

def proxyError (proxy : Uri) : SetupError :=
  if proxy.scheme == some "socks5" then .proxyDisabled proxy "kube/socks5"
  else if proxy.scheme == some "http" then .proxyDisabled proxy "kube/http-proxy"
  else .proxyUnsupported proxy

def keyLabels : List String := ["PRIVATE KEY", "RSA PRIVATE KEY", "EC PRIVATE KEY"]

/-- What else may stand between the lines of a file, but not in one with a key. -/
def otherLabels : List String := ["PUBLIC KEY", "X509 CRL", "CERTIFICATE REQUEST", "ECHCONFIG"]

def checkIdentity (blocks : List Pem.Block) : Except TlsError Unit :=
  let keys := blocks.filter fun b => keyLabels.contains b.label
  if blocks.any fun b => otherLabels.contains b.label then .error .unknownKey
  else if keys.isEmpty then .error .noKey
  else if blocks.all (·.label != "CERTIFICATE") then .error .noCertificate
  else if keys.all fun b => Pem.isSequence b.contents then .ok ()
  else .error .invalidKey

def identity? (files : Files) (u : KubeUser) : Option Text.Bytes :=
  -- The certificate and the key of a user, if both can be had. That they cannot is no error.
  match Kubeconfig.contents files u.certificateData u.certificate,
      Kubeconfig.contents files u.keyData u.key with
  | .ok (some certificate), .ok (some key) => some (key ++ Pem.marker "\n" ++ certificate)
  | _, _ => none

def checkTls (files : Files) (s : Settings) : Except TlsError Unit := do
  if !(s.authorities.getD []).all Pem.isSequence then throw .authority
  match identity? files s.user with
  | some bytes => checkIdentity ((Pem.blocks? bytes).getD [])
  | none => pure ()
  if !(s.serverName.map ServerName.isValid).getD true then throw .serverName

def impersonates (u : KubeUser) : List String := u.impersonated.toList ++ u.impersonatedGroups

def setUp (sources : Sources) (s : Settings) : Except Panic (Except SetupError Connection) :=
  -- A token that no header can hold is not expected.
  match s.proxy with
  | some proxy => .ok (.error (proxyError proxy))
  | none =>
    match Credentials.authorize sources s.user with
    | .error e => .ok (.error (.auth e))
    | .ok (.bearer token) =>
      if Credentials.isHeaderText token then .ok rest
      else .error (.text "token is not valid header: InvalidHeaderValue")
    | .ok _ => .ok rest
where
  rest : Except SetupError Connection :=
    match checkTls sources.files s with
    | .error e => .error (.tls e)
    | .ok () =>
      if (impersonates s.user).all Credentials.isHeaderText then .ok ⟨s.server, s.ns⟩
      else .error .header

def failure (message : String) : Error := .internal "create_client" message

def find (sources : Sources) : Option Path → Except Panic (Except Error Connection)
  -- The connection that a file describes. Without a file none is known.
  | none => .ok (.error (failure "failed to infer config: no configuration file is named"))
  | some path => do
    match ← Kubeconfig.read sources.files path with
    | .error e =>
      return .error (failure ("failed to read kubeconfig " ++ path.text ++ ": " ++ e.message))
    | .ok k =>
      match k.load sources.files with
      | .error e => return .error (failure ("failed to load kubeconfig: " ++ e.message))
      | .ok settings =>
        return (← setUp sources settings).mapError fun e =>
          failure ("failed to create client: " ++ e.message)

end Connection

end ShareCheck
