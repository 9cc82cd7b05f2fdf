import ShareCheck.Json
import ShareCheck.Timestamp

set_option autoImplicit false

namespace ShareCheck.Metadata

inductive Shape
  | text
  | integer
  | boolean
  /-- A point in time, which is sent in UTC and to the second. -/
  | time
  | anything
  | texts
  | textMap
deriving DecidableEq, Repr

def isText (j : Json) : Bool := j.string?.isSome

def Shape.read : Shape → Json → Option Json
  | text, .string s => some (.string s)
  | integer, .int n =>
    if -0x8000000000000000 ≤ n && n < 0x8000000000000000 then some (.int n) else none
  | boolean, .bool b => some (.bool b)
  | time, .string s => (Timestamp.parse s).toOption.map fun t => .string t.text
  | anything, value => some value
  | texts, .array items => if items.all isText then some (.array items) else none
  | textMap, .object members =>
    if members.all fun (_, value) => isText value then some (.object members) else none
  | _, _ => none

/-- The members of a record. Of those in `required`, a missing one is sent as empty text. -/
structure Schema where
  members : List (String × Shape)
  required : List String := []

def Schema.readMember (value : Option Json) (shape : Shape) : Option (Option Json) :=
  match value with
  | none => some none
  | some .null => some none
  | some value => (shape.read value).map some

def Schema.readMembers (s : Schema) (given : List (String × Json)) :
    List (String × Shape) → Option (List (String × Json))
  | [] => some []
  | (name, shape) :: rest =>
    match readMember (given.lookup name) shape, s.readMembers given rest with
    | some (some value), some more => some ((name, value) :: more)
    | some none, some more =>
      some (if s.required.contains name then (name, .string "") :: more else more)
    | _, _ => none

def Schema.read (s : Schema) : Json → Option Json
  | .object given => (s.readMembers given s.members).map .object
  | _ => none

def owner : Schema where
  members := [("apiVersion", .text), ("blockOwnerDeletion", .boolean), ("controller", .boolean),
    ("kind", .text), ("name", .text), ("uid", .text)]
  required := ["apiVersion", "kind", "name", "uid"]

def managedFields : Schema where
  members := [("apiVersion", .text), ("fieldsType", .text), ("fieldsV1", .anything),
    ("manager", .text), ("operation", .text), ("subresource", .text), ("time", .time)]

def plain : Schema where
  members := [("annotations", .textMap), ("creationTimestamp", .time),
    ("deletionGracePeriodSeconds", .integer), ("deletionTimestamp", .time), ("finalizers", .texts),
    ("generateName", .text), ("generation", .integer), ("labels", .textMap), ("name", .text),
    ("namespace", .text), ("resourceVersion", .text), ("selfLink", .text), ("uid", .text)]

def readRecords (s : Schema) (name : String) (given : List (String × Json)) :
    Option (List (String × Json)) :=
  match given.lookup name with
  | none => some []
  | some .null => some []
  | some (.array items) => (items.mapM s.read).map fun records => [(name, .array records)]
  | some _ => none

def read : Json → Option Json
  | .object given => do
    let members ← plain.readMembers given plain.members
    let owners ← readRecords owner "ownerReferences" given
    let fields ← readRecords managedFields "managedFields" given
    pure (.object (members ++ owners ++ fields))
  | _ => none

end ShareCheck.Metadata
