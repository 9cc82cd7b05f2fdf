import ShareCheck.Activity
import ShareCheck.Json
import ShareCheck.Uri.Form

set_option autoImplicit false

namespace ShareCheck.Rest

inductive Method
  | get
  | post
  | delete
deriving DecidableEq, Repr

def Method.name : Method → String
  | get => "GET"
  | post => "POST"
  | delete => "DELETE"

structure Message where
  method : Method
  path : String
  query : List (String × String) := []
  body : Option Json := none
deriving Repr

def lastOfEach : List (String × String) → List (String × String)
  | [] => []
  | (name, value) :: rest =>
    if (rest.lookup name).isSome then lastOfEach rest else (name, value) :: lastOfEach rest

def Message.to (method : Method) (address : String) (body : Option Json) :
    Except RequestFault Message :=
  match Uri.parse address with
  | .ok u => .ok ⟨method, u.path, lastOfEach ((u.query.map Form.pairs).getD []), body⟩
  | .error e => .error (.address e)

abbrev Answer : Type := Except ApiFailure Json

abbrev Server (σ : Type) : Type := Message → Call σ Answer

def send {σ : Type} (server : Server σ) : Except RequestFault Message → Call σ Answer
  | .ok m => server m
  | .error fault => fun _ w => (.lands 0 fun w => (.ok (.error (.unsent fault)), w), w)

def unreachable {σ : Type} (reason : String) : Server σ := fun _ _ w =>
  (.lands 0 fun w => (.ok (.error (.transport reason)), w), w)

end ShareCheck.Rest
