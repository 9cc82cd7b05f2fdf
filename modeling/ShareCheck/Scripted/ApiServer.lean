import ShareCheck.Kubernetes.Client
import ShareCheck.Table

set_option autoImplicit false

namespace ShareCheck.Scripted

open Rest

structure ApiFault where
  method : Option String := none
  path : Option String := none
  code : Nat
  reason : String
  message : String

def ApiFault.applies (f : ApiFault) (m : Message) : Bool :=
  f.method.all (· == m.method.name) && f.path.all (· == m.path)

def ApiFault.answer (f : ApiFault) : Answer :=
  -- Only codes from 400 to 599 tell of a failure. A status with another code is an object.
  if 400 ≤ f.code ∧ f.code < 600 then .error (.status f.message f.reason f.code)
  else .ok (.object [
    ("kind", .string "Status"), ("apiVersion", .string "v1"), ("metadata", .object []),
    ("status", .string "Failure"), ("message", .string f.message), ("reason", .string f.reason),
    ("code", .int f.code)])

structure ApiServer where
  objects : Table Json := Table.empty
  lists : Table (List Json) := Table.empty
  faults : List ApiFault := []
  /-- The requests, the last one first. -/
  requests : List Message := []

namespace ApiServer

def notFound (path : String) : ApiFailure := .status (path ++ " not found") "NotFound" 404

def alreadyExists (path : String) : ApiFailure :=
  .status (path ++ " already exists") "AlreadyExists" 409

def read (s : ApiServer) (path : String) : Answer :=
  match s.objects.get? path with
  | some object => .ok object
  | none =>
    match s.lists.get? path with
    | some items => .ok (.object [("items", .array items)])
    | none => .error (notFound path)

def create (s : ApiServer) (path : String) (object : Json) : Answer × ApiServer :=
  let item := path ++ "/" ++ (nameInMetadata object).getD ""
  if (s.objects.get? item).isSome then (.error (alreadyExists item), s)
  else (.ok object, { s with objects := s.objects.insert item object })

def delete (s : ApiServer) (path : String) : Answer × ApiServer :=
  match s.objects.get? path with
  | some object => (.ok object, { s with objects := s.objects.erase path })
  | none => (.error (notFound path), s)

def answer (m : Message) (s : ApiServer) : Answer × ApiServer :=
  let s := { s with requests := m :: s.requests }
  match s.faults.find? (·.applies m) with
  | some fault => (fault.answer, s)
  | none =>
    match m.method with
    | .get => (s.read m.path, s)
    | .post => s.create m.path (m.body.getD .null)
    | .delete => s.delete m.path

def server : Server ApiServer := fun m _ s =>
  -- Requests take no time.
  (.lands 0 fun s =>
    let (a, s) := answer m s
    (.ok a, s), s)

end ApiServer

end ShareCheck.Scripted
