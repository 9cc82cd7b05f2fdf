import ShareCheck.Access.Share
import ShareCheck.Scripted.Effect
import ShareCheck.Table
import ShareCheck.Text.Blank

set_option autoImplicit false

namespace ShareCheck.Scripted

open Text (Bytes)

inductive FileOperation
  | list
  | put
  | get
  | remove
deriving DecidableEq, Repr

def FileOperation.name : FileOperation → String
  | list => "list"
  | put => "put"
  | get => "get"
  | remove => "remove"

structure Rule where
  operation : Option String := none
  user : Option String := none
  host : Option String := none
  call : Option Nat := none
  effect : Effect := {}
  entries : Option (List String) := none
  drop : Bool := false
  data : Option Bytes := none
  before : Bytes := []
  after : Bytes := []
deriving Inhabited

def Rule.applies (r : Rule) (operation : FileOperation) (host user : String) (call : Nat) : Bool :=
  r.operation.all (· == operation.name) && r.user.all (· == user) && r.host.all (· == host) &&
    r.call.all (· == call)

structure StoredFile where
  unc : String
  name : String
  contents : Bytes
deriving DecidableEq, Repr

structure Shares where
  users : Table String := Table.empty
  unreachable : List String := []
  rules : List Rule := []
  files : List StoredFile := []
  /-- The calls of each user, the last one first. -/
  calls : Table (List (FileOperation × String × String)) := Table.empty
deriving Inhabited

namespace Shares

def history (s : Shares) : List (String × List String) :=
  s.calls.entries.map fun (user, calls) => (user, calls.reverse.map fun (_, _, line) => line)

def record (s : Shares) (user : String) (operation : FileOperation) (host line : String) : Shares :=
  let earlier := (s.calls.get? user).getD []
  let line := String.ofList (Text.trimEnd (operation.name ++ " " ++ line).toList)
  { s with calls := s.calls.insert user ((operation, host, line) :: earlier) }

def callCount (s : Shares) (operation : FileOperation) (host user : String) : Nat :=
  ((s.calls.get? user).getD []).countP fun (op, h, _) => op == operation && h == host

def logIn (s : Shares) (t : Target) (c : Credential) : Except Error Unit :=
  if s.unreachable.contains t.host then
    .error (.access .connection t.unc "NT_STATUS_CONNECTION_REFUSED")
  else if s.users.get? c.username = some c.password then .ok ()
  else .error (.access .auth t.unc "NT_STATUS_LOGON_FAILURE")

def call {α : Type} (operation : FileOperation) (t : Target) (c : Credential) (details : String)
    (work : Rule → Shares → Except Error α × Shares) : Request Shares α := fun _ s =>
  let s := s.record c.username operation t.host (t.unc ++ details)
  let count := s.callCount operation t.host c.username
  let rule := (s.rules.find? fun r => r.applies operation t.host c.username count).getD {}
  (rule.effect.before fun s =>
    match s.logIn t c with
    | .error e => (.error e, s)
    | .ok () => work rule s, s)

def namesAt (s : Shares) (unc : String) : List String :=
  (s.files.filter fun f => f.unc == unc).map (·.name)

def fileAt (s : Shares) (unc name : String) : Option Bytes :=
  (s.files.find? fun f => f.unc == unc && f.name == name).map (·.contents)

def without (s : Shares) (unc name : String) : List StoredFile :=
  s.files.filter fun f => !(f.unc == unc && f.name == name)

def list (t : Target) (c : Credential) : Request Shares (List String) :=
  call .list t c "" fun rule s => (.ok (rule.entries.getD (s.namesAt t.unc)), s)

def put (t : Target) (c : Credential) (name : String) (contents : Bytes) : Request Shares Unit :=
  call .put t c (" " ++ name ++ " " ++ Text.quoted (String.ofList (Text.decodeLossy contents)))
    fun rule s =>
      (.ok (), if rule.drop then s else
        { s with files := s.without t.unc name ++ [⟨t.unc, name, contents⟩] })

def get (t : Target) (c : Credential) (name : String) : Request Shares Bytes :=
  call .get t c (" " ++ name) fun rule s =>
    match rule.data <|> s.fileAt t.unc name with
    | some contents => (.ok (rule.before ++ contents ++ rule.after), s)
    | none => (.error (.access .operation t.unc "NT_STATUS_OBJECT_NAME_NOT_FOUND"), s)

def remove (t : Target) (c : Credential) (name : String) : Request Shares Unit :=
  call .remove t c (" " ++ name) fun _ s => (.ok (), { s with files := s.without t.unc name })

def client : ShareClient Shares where
  list := list
  put := put
  get := get
  remove := remove

end Shares

end ShareCheck.Scripted
