import ShareCheck.Json
import ShareCheck.Text.Quoted
import ShareCheck.Yaml.Compose

set_option autoImplicit false

namespace ShareCheck.Yaml

inductive DocumentError
  | notYaml (e : SyntaxError)
  /-- Documents are counted from zero, empty ones too. -/
  | complexKey (document : Nat)
  | invalid (document : Nat) (value : String)
deriving DecidableEq, Repr

def DocumentError.message : DocumentError → String
  | notYaml e => "syntax: " ++ e.message
  | complexKey document => s!"document {document}: mapping key must be a scalar"
  | invalid document value => s!"document {document}: invalid value " ++ Text.quoted value

def finiteReal? (text : String) : Option Number.Binary64 :=
  match Number.Decimal.read? text.toList with
  | some d => if d.toBinary64.isFinite then some d.toBinary64 else none
  | none => none

def Tree.keyText? : Tree → Option String
  | .text s | .real s => some s
  | .int n => some (toString n)
  | .bool b => some (toString b)
  | _ => none

mutual

def Tree.toJson (document : Nat) : Tree → Except DocumentError Json
  | .null => .ok .null
  | .bool b => .ok (.bool b)
  | .int n => .ok (.int n)
  | .text s => .ok (.string s)
  | .real s =>
    match finiteReal? s with
    | some x => .ok (.real x)
    | none => .error (.invalid document s)
  | .sequence items => do return .array (← itemsToJson document items)
  | .mapping entries => do return .object (← entriesToJson document entries [])
  | .alias id => .error (.invalid document s!"<unresolved alias {id}>")
  | .bad => .error (.invalid document "<bad value>")

def itemsToJson (document : Nat) : List Tree → Except DocumentError (List Json)
  | [] => .ok []
  | t :: rest => do
    let x ← Tree.toJson document t
    return x :: (← itemsToJson document rest)

def entriesToJson (document : Nat) :
    List (Tree × Tree) → List (String × Json) → Except DocumentError (List (String × Json))
  | [], members => .ok members
  | (key, value) :: rest, members =>
    match key.keyText? with
    | none => .error (.complexKey document)
    | some name => do
      let x ← Tree.toJson document value
      entriesToJson document rest (Json.insert name x members)

end

def documentsToJson : Nat → List Tree → Except DocumentError (List Json)
  | _, [] => .ok []
  | document, .null :: rest => documentsToJson (document + 1) rest
  | document, t :: rest => do
    let x ← t.toJson document
    return x :: (← documentsToJson (document + 1) rest)

def parseDocuments (text : String) : Except DocumentError (List Json) :=
  match Tree.documents text with
  | .error e => .error (.notYaml e)
  | .ok trees => documentsToJson 0 trees

end ShareCheck.Yaml
