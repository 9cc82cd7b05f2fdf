import ShareCheck.Error
import ShareCheck.Files
import ShareCheck.Resource
import ShareCheck.Yaml.Documents

set_option autoImplicit false

namespace ShareCheck

structure Fixture where
  path : Path
  ns : String
deriving DecidableEq, Repr, Inhabited

def Fixture.text (f : Fixture) : String := f.path.text ++ " (ns " ++ f.ns ++ ")"

def Fixture.same (f g : Fixture) : Bool := f.path.same g.path && f.ns == g.ns

structure FixtureObject where
  type : ResourceType
  name : String
  ns : String
  manifest : Json
deriving Repr, Inhabited

def FixtureObject.text (o : FixtureObject) : String := o.type.kind ++ " " ++ o.ns ++ "/" ++ o.name

def FixtureObject.path (o : FixtureObject) : String := o.type.objectPath o.ns o.name

def setNamespace (ns : String) : Json → Json
  | .object members =>
    match members.lookup "metadata" with
    | some (.object metadata) =>
      let metadata := Json.insert "namespace" (.string ns) metadata
      .object (Json.insert "metadata" (.object metadata) members)
    | _ => .object members
  | j => j

def FixtureObject.ofDocument (ns : String) (doc : Json) : Except String FixtureObject :=
  match (doc.member? "apiVersion").bind Json.string?, (doc.member? "kind").bind Json.string?,
    ((doc.member? "metadata").bind (Json.member? "name")).bind Json.string? with
  | none, _, _ => .error "missing apiVersion"
  | some _, none, _ => .error "missing kind"
  | some _, some _, none => .error "missing metadata.name"
  | some apiVersion, some kind, some name =>
    .ok ⟨.of apiVersion kind, name, ns, setNamespace ns doc⟩

def objectsOf (origin ns : String) : List Json → Except Error (List FixtureObject)
  | [] => .ok []
  | doc :: rest =>
    match FixtureObject.ofDocument ns doc with
    | .error lack => .error (.manifest origin lack)
    | .ok o =>
      match objectsOf origin ns rest with
      | .error e => .error e
      | .ok os => .ok (o :: os)

def parseFixture (origin content ns : String) : Except Error (List FixtureObject) :=
  match Yaml.parseDocuments content with
  | .error e => .error (.manifest origin ("invalid YAML: " ++ e.message))
  | .ok [] => .error (.manifest origin "no documents")
  | .ok docs => objectsOf origin ns docs

def Fixture.load (files : Files) (f : Fixture) : Except Error (List FixtureObject) :=
  match files.readText f.path with
  | .error e => .error (.manifest f.path.text ("failed to read: " ++ e.message))
  | .ok content => parseFixture f.path.text content f.ns

end ShareCheck
