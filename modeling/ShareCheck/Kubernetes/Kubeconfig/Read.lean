import ShareCheck.Error
import ShareCheck.Files
import ShareCheck.Kubernetes.Kubeconfig.Schema
import ShareCheck.Text.Utf16

set_option autoImplicit false

namespace ShareCheck.Kubeconfig

inductive ReadFailure
  | unreadable (e : ReadError)
  | notYaml
  | unexpected
  | mismatch
deriving DecidableEq, Repr

def ReadFailure.message : ReadFailure → String
  | unreadable e => "failed to read: " ++ e.message
  | notYaml => "not YAML"
  | unexpected => "not a configuration"
  | mismatch => "the documents differ in kind"

def decode (bytes : Text.Bytes) : Except Panic (Option String) :=
  -- The text of a file. Half of a unit of UTF-16 at its end is not looked for.
  match Text.decodeMarked bytes with
  | .ok cs => .ok (some (String.ofList cs))
  | .error .invalid => .ok none
  | .error .halfUnit => .error (.text "index out of bounds: the len is 1 but the index is 1")

def mergeAll : List Kubeconfig → Except ReadFailure Kubeconfig
  | [] => .ok {}
  | first :: rest => (rest.foldlM merge? first).elim (.error .mismatch) .ok

def ofText (dir : Path) (text : String) : Except ReadFailure Kubeconfig :=
  match Yaml11.values? text with
  | none => .error .notYaml
  | some values =>
    match values.mapM ofValue? with
    | none => .error .unexpected
    | some ks => mergeAll (ks.map (·.within dir))

def read (files : Files) (path : Path) : Except Panic (Except ReadFailure Kubeconfig) :=
  match files path with
  | .error e => .ok (.error (.unreadable e))
  | .ok bytes =>
    match decode bytes with
    | .error p => .error p
    | .ok none => .ok (.error (.unreadable .notText))
    | .ok (some text) => .ok (ofText path.parent text)

end ShareCheck.Kubeconfig
