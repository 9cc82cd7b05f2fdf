import ShareCheck.Yaml11.Value

set_option autoImplicit false

namespace ShareCheck.Kubeconfig.Record

open Yaml11 (Value)

variable {α : Type}

def text? (v : Value) : Option String :=
  match v.bare with
  | .scalar (.text s) => some s
  | _ => none

def bool? (v : Value) : Option Bool :=
  match v.bare with
  | .scalar (.bool b) => some b
  | _ => none

def list? (read : Value → Option α) (v : Value) : Option (List α) :=
  -- Null is a list without items.
  match v.bare with
  | .sequence items => items.mapM read
  | .scalar .null => some []
  | _ => none

def textMap? (v : Value) : Option (List (String × String)) :=
  -- Null is a mapping without entries.
  match v.bare with
  | .mapping entries => entries.mapM fun (key, v) => do return (← text? key, ← text? v)
  | .scalar .null => some []
  | _ => none

mutual

def isData : Value → Bool
  | .scalar _ => true
  | .sequence items => areData items
  | .mapping entries => haveData entries
  | .tagged .. => false

def areData : List Value → Bool
  | [] => true
  | v :: rest => isData v && areData rest

def haveData : List (Value × Value) → Bool
  | [] => true
  | (key, v) :: rest => (text? key).isSome && isData v && haveData rest

end

def data? (v : Value) : Option Unit := if isData v then some () else none

abbrev Members := List (String × Value)

def ofEntries (names : List String) : List (Value × Value) → Option Members
  | [] => some []
  | (key, v) :: rest => do
    let name ← text? key
    let more ← ofEntries names rest
    if !names.contains name then some more
    else if (more.lookup name).isSome then none
    else some ((name, v) :: more)

/-- The members of a record of these names. A list gives them in this order; of the last ones, so
many may be missing there. -/
def members? (names : List String) (mayLack : Nat) (v : Value) : Option Members :=
  match v.bare with
  | .mapping entries => ofEntries names entries
  | .sequence items =>
    if names.length ≤ items.length + mayLack && items.length ≤ names.length then
      some (names.zip items)
    else none
  | .scalar .null => some []
  | _ => none

def required (read : Value → Option α) (name : String) (m : Members) : Option α :=
  (m.lookup name).bind read

def lenient (read : Value → Option α) (name : String) (m : Members) : Option (Option α) :=
  match m.lookup name with
  | none => some none
  | some v => (read v).map some

def optional (read : Value → Option α) (name : String) (m : Members) : Option (Option α) :=
  match m.lookup name with
  | none => some none
  | some v => if v.isNull then some none else (read v).map some

def listed (read : Value → Option α) (name : String) (m : Members) : Option (List α) :=
  (optional (list? read) name m).map (·.getD [])

def check (read : Value → Option α) (names : List String) (m : Members) : Option Unit :=
  if names.all fun name => (optional read name m).isSome then some () else none

end ShareCheck.Kubeconfig.Record
