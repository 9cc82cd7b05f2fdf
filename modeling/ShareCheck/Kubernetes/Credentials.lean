import ShareCheck.Error
import ShareCheck.Files
import ShareCheck.Kubernetes.Kubeconfig
import ShareCheck.Text.Blank
import ShareCheck.Timestamp

set_option autoImplicit false

namespace ShareCheck.Credentials

structure Sources where
  files : Files
  program : String → Option String
  now : Timestamp

inductive Authorization
  | none
  | bearer (token : String)
  | refreshed
  | basic (user password : String)
deriving DecidableEq, Repr

inductive StartError
  | missing
  | forbidden
  | notDirectory
  | nameTooLong
  | nulInName
deriving DecidableEq, Repr

namespace StartError

def message : StartError → String
  | missing => "No such file or directory (os error 2)"
  | forbidden => "Permission denied (os error 13)"
  | notDirectory => "Not a directory (os error 20)"
  | nameTooLong => "File name too long (os error 36)"
  | nulInName => "nul byte found in provided data"

def ofSystem (code : Nat) (kind text : String) : String :=
  s!"Os \x7b code: {code}, kind: " ++ kind ++ ", message: \x22" ++ text ++ "\x22 \x7d"

def details : StartError → String
  | missing => ofSystem 2 "NotFound" "No such file or directory"
  | forbidden => ofSystem 13 "PermissionDenied" "Permission denied"
  | notDirectory => ofSystem 20 "NotADirectory" "Not a directory"
  | nameTooLong => ofSystem 36 "InvalidFilename" "File name too long"
  | nulInName =>
    "Error \x7b kind: InvalidInput, message: \x22nul byte found in provided data\x22 \x7d"

end StartError

inductive AuthError
  | expiry (e : TimeError)
  | provider (message : String)
  | tokenFile (file : Path) (e : ReadError)
  | noCommand
  | start (e : StartError)
  | output (message : String)
  | tokenKey
deriving DecidableEq, Repr

def AuthError.message : AuthError → String
  | expiry e => "malformed token expiration date: " ++ e.message
  | provider message => "failed exec auth: " ++ message
  | tokenFile file e =>
    "failed to read token file '" ++ Text.quoted file.text ++ "': " ++ e.message
  | noCommand => "command must be specified to use exec authentication plugin"
  | start e => "unable to run auth exec: " ++ e.message
  | output message => "failed to parse auth exec output: " ++ message
  | tokenKey => "failed to parse token-key"

def startError (files : Files) (command : String) : StartError :=
  if command.toList.contains '\x00' then .nulInName
  else if command.toList.contains '/' then
    match files ⟨command⟩ with
    | .error .missing => .missing
    | .error .notDirectory => .notDirectory
    | .error .nameTooLong => .nameTooLong
    | _ => .forbidden
  else if command == "." || command == ".." then .forbidden
  else if 255 < command.utf8ByteSize then .nameTooLong
  else .missing

def run (sources : Sources) (command : String) : Except StartError String :=
  (sources.program command).elim (.error (startError sources.files command)) .ok

def cached (now : Timestamp) (p : AuthProvider) : Except AuthError (Option Authorization) :=
  -- A token from before, if it is still good for a minute.
  match p.settings.lookup "access-token", p.settings.lookup "expiry" with
  | some _, some expiry =>
    match Timestamp.parse expiry with
    | .error e => .error (.expiry e)
    | .ok t => .ok (if (now.toUtc (-60)).isBefore t then some .refreshed else none)
  | _, _ => .ok none

def commanded (sources : Sources) (p : AuthProvider) (command : String) :
    Except AuthError Authorization :=
  match run sources command with
  | .error e => .error (.provider ("Executing " ++ command ++ " failed: " ++ e.details))
  | .ok output =>
    if (p.settings.lookup "token-key").isSome then .error .tokenKey
    else .ok (.bearer (String.ofList (Text.trim output.toList)))

def fromGcp (sources : Sources) (p : AuthProvider) : Except AuthError Authorization := do
  match ← cached sources.now p with
  | some a => return a
  | none =>
    match p.settings.lookup "cmd-path" with
    | some command => commanded sources p command
    | none =>
      throw (.provider ("Enable oauth feature to use Google Application Credentials-based " ++
        "token source"))

def azureReplacement : Uri := ⟨some "https", "github.com", "/Azure/kubelogin", none⟩

def fromProvider (sources : Sources) (p : AuthProvider) : Except AuthError Authorization :=
  let token := p.settings.lookup "id-token"
  if p.name == "oidc" then
    (token.map Authorization.bearer).elim
      (.error (.provider "No id-token for oidc Authentication provider")) .ok
  else if p.name == "gcp" then (token.map Authorization.bearer).elim (fromGcp sources p) .ok
  else if p.name == "azure" then
    .error (.provider
      ("The azure auth plugin is not supported; use " ++ azureReplacement.text ++ " instead"))
  else .error (.provider ("Authentication with provider " ++ p.name ++ " not supported"))

def endOf (output : List Char) : String :=
  let line := output.countP (· == '\n') + 1
  let column := (output.reverse.takeWhile (· != '\n')).length
  s!"EOF while parsing a value at line {line} column {column}"

def fromPlugin (sources : Sources) : Option String → Except AuthError Authorization
  -- What a program prints has to be a credential. None of the programs that are known prints one.
  | none => .error .noCommand
  | some command =>
    match run sources command with
    | .error e => .error (.start e)
    | .ok output =>
      let start := Text.trimStart output.toList
      if start.isEmpty then .error (.output (endOf output.toList))
      else .error (.output "expected value at line 1 column 1")

def authorize (sources : Sources) (u : KubeUser) : Except AuthError Authorization :=
  match u.provider with
  | some p => fromProvider sources p
  | none =>
    match u.username, u.password, u.token, u.tokenFile, u.plugin with
    | some user, some password, _, _, _ => .ok (.basic user password)
    | _, _, some token, _, _ => .ok (.bearer token)
    | _, _, none, some file, _ =>
      match sources.files.readText file with
      | .ok _ => .ok .refreshed
      | .error e => .error (.tokenFile file e)
    | _, _, none, none, some command => fromPlugin sources command
    | _, _, none, none, none => .ok .none

def isHeaderText (s : String) : Bool :=
  s.toList.all fun c => c == '\t' || (' ' ≤ c && c != '\x7f')

end ShareCheck.Credentials
