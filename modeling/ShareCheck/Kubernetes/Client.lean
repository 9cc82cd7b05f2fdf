import ShareCheck.Kubernetes.Metadata
import ShareCheck.Kubernetes.Objects
import ShareCheck.Kubernetes.Rest

set_option autoImplicit false

/-!
A cluster looked at and changed through its API server. To ensure an object takes two requests: look
it up, create it if it is absent. Between them another client may create it, and then it belongs to
that client; so only the answer to the second request says who created the object.
-/
namespace ShareCheck.Kubernetes

open Rest

variable {σ : Type}

def objectRequest (method : Method) (type : ResourceType) (ns name query : String) :
    Except RequestFault Message :=
  if name.isEmpty then .error .unnamed
  else Message.to method (type.objectPath ns name ++ query) none

def lookUp (o : FixtureObject) : Except RequestFault Message :=
  objectRequest .get o.type o.ns o.name ""

def creation (o : FixtureObject) (body : Json) : Except RequestFault Message :=
  Message.to .post (o.type.collectionPath o.ns ++ "?") (some body)

def removal (o : FixtureObject) : Except RequestFault Message :=
  objectRequest .delete o.type o.ns o.name "?"

def judgeLookUp : Answer → Except Error Bool
  -- Whether the object is there. The server says that it is not by the reason it gives.
  | .ok _ => .ok true
  | .error (.status message reason code) =>
    if reason = "NotFound" then .ok false else .error (.api (.status message reason code))
  | .error failure => .error (.api failure)

def judgeCreation : Answer → Except Error Ensured
  -- A conflict means that the object came to be since it was looked up.
  | .ok _ => .ok .created
  | .error (.status message reason code) =>
    if code = 409 then .ok .alreadyPresent else .error (.api (.status message reason code))
  | .error failure => .error (.api failure)

def judgeRemoval (o : FixtureObject) : Answer → Except Error Unit
  -- An object that is gone needs no removal.
  | .ok _ => .ok ()
  | .error (.status message reason code) =>
    if code = 404 then .ok ()
    else .error (.teardown o.text (ApiFailure.status message reason code).text)
  | .error failure => .error (.teardown o.text failure.text)

def objectBody (o : FixtureObject) : Option Json :=
  match o.manifest with
  | .object members =>
    match members.lookup "metadata" with
    | some metadata =>
      (Metadata.read metadata).map fun read => .object (Json.insert "metadata" read members)
    | none => none
  | _ => none

def invalid (o : FixtureObject) : Error := .manifest o.text "not an object of the schema"

def ensure (server : Server σ) (o : FixtureObject) : Activity σ (Except Error Ensured) := do
  match judgeLookUp (← Activity.perform (send server (lookUp o))) with
  | .error e => pure (.error e)
  | .ok true => pure (.ok .alreadyPresent)
  | .ok false =>
    match objectBody o with
    | none => pure (.error (invalid o))
    | some body =>
      let answer ← Activity.perform (send server (creation o body))
      pure (judgeCreation answer)

def remove (server : Server σ) (o : FixtureObject) : Activity σ (Except Error Unit) := do
  let answer ← Activity.perform (send server (removal o))
  pure (judgeRemoval o answer)

def fixtures (server : Server σ) : FixtureClient σ where
  ensure := ensure server
  remove := remove server

def listing (plural ns parameter selector : String) : Except RequestFault Message :=
  let address := "/api/v1/namespaces/" ++ ns ++ "/" ++ plural
  Message.to .get (address ++ "?&" ++ parameter ++ "=" ++ Form.encode selector) none

def endOf (answer : Json) : String :=
  match answer.textSize? with
  | some size => s!" at line 1 column {size}"
  | none => ""

def judgeListing {α : Type} (read : Json → α) : Answer → Except Error (List α)
  | .ok answer =>
    match answer.member? "items" with
    | some items => .ok ((items.items?.getD []).map read)
    | none => .error (.api (.unreadable ("missing field `items`" ++ endOf answer)))
  | .error failure => .error (.api failure)

def judgeIdentity (r : ResourceRef) : Answer → Except Error ResourceIdentity
  | .ok answer =>
    match (answer.present? "metadata").bind (Json.text? "uid") with
    | some uid => .ok ⟨r.kind, r.name, uid⟩
    | none =>
      .error (.internal "resource_identity"
        (r.kind ++ " " ++ r.ns ++ "/" ++ r.name ++ " has no uid"))
  | .error failure => .error (.api failure)

def query (server : Server σ) : ClusterQuery σ where
  pods ns selector :=
    (send server (listing "pods" ns "labelSelector" selector)).map (judgeListing Pod.ofJson)
  services ns selector :=
    (send server (listing "services" ns "labelSelector" selector)).map
      (judgeListing Service.ofJson)
  events ns selector :=
    (send server (listing "events" ns "fieldSelector" selector)).map (judgeListing Event.ofJson)
  identity r :=
    let type := ResourceType.of r.apiVersion r.kind
    (send server (objectRequest .get type r.ns r.name "")).map (judgeIdentity r)

end ShareCheck.Kubernetes
