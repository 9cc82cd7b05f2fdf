import ShareCheck.Yaml11.Node
import ShareCheck.Yaml11.Plain

set_option autoImplicit false

namespace ShareCheck.Yaml11

inductive Value
  | scalar (s : Scalar)
  | sequence (items : List Value)
  | mapping (entries : List (Value × Value))
  | tagged (name : String) (v : Value)
deriving Repr, Inhabited

def Value.null : Value := .scalar .null

def Value.isNull : Value → Bool
  | .scalar .null => true
  | _ => false

def Value.bare : Value → Value
  | .tagged _ v => v.bare
  | v => v

def isZero : Number.Binary64 → Bool
  | .finite _ 0 _ => true
  | _ => false

def Scalar.same : Scalar → Scalar → Bool
  | .real x, .real y => x == y || (isZero x && isZero y)
  | a, b => a == b

mutual

def Value.same : Value → Value → Bool
  | .scalar a, .scalar b => a.same b
  | .sequence as, .sequence bs => sameItems as bs
  | .mapping as, .mapping bs => as.length == bs.length && containsEntries bs as
  | .tagged n v, .tagged m w => n == m && v.same w
  | _, _ => false

def sameItems : List Value → List Value → Bool
  | [], [] => true
  | a :: as, b :: bs => a.same b && sameItems as bs
  | _, _ => false

def containsEntries (entries : List (Value × Value)) : List (Value × Value) → Bool
  | [] => true
  | (k, v) :: rest =>
    (entries.any fun (l, w) => k.same l && v.same w) && containsEntries entries rest

end

mutual

/-- How many marks it takes to write a node: one for a scalar or an alias, two for a collection. -/
def Node.size : Node → Nat
  | .scalar .. | .alias _ => 1
  | .sequence _ items => 2 + itemsSize items
  | .mapping _ entries => 2 + entriesSize entries

def itemsSize : List Node → Nat
  | [] => 0
  | n :: rest => n.size + itemsSize rest

def entriesSize : List (Node × Node) → Nat
  | [] => 0
  | (k, v) :: rest => k.size + v.size + entriesSize rest

end

abbrev Reading := StateT Nat Option

namespace Reading

def ownTag? (tag : Option String) : Option String :=
  match tag.map String.toList with
  | some ('!' :: name) => some (String.ofList name)
  | _ => none

def withTag (tag : Option String) (v : Value) : Reading Value :=
  match ownTag? tag with
  | none => return v
  | some name => if name.isEmpty then failure else return .tagged name v

def scalar (tag : Option String) (plain : Bool) (text : String) : Option Scalar :=
  match tag with
  | some t =>
    if (ownTag? tag).isNone then Scalar.ofTagged t text
    else if plain then Scalar.ofPlain text
    else some (.text text)
  | none => if plain then Scalar.ofPlain text else some (.text text)

def addEntry (entries : List (Value × Value)) (key v : Value) : Reading (List (Value × Value)) :=
  if entries.any fun (other, _) => other.same key then failure else return entries ++ [(key, v)]

def follow (d : Document) : Node → Reading Node
  | .alias anchor => do
    match ← get with
    | 0 => failure
    | left + 1 =>
      set left
      d.anchored.lookup anchor
  | n => return n

def node (d : Document) (inner : Option (Node → Reading Value)) (n : Node) : Reading Value := do
  match ← follow d n with
  | .scalar tag plain text => withTag tag (.scalar (← scalar tag plain text))
  | .sequence tag items =>
    let read ← inner
    withTag tag (.sequence (← items.mapM read))
  | .mapping tag entries =>
    let read ← inner
    let pairs ← entries.foldlM (fun done (k, v) => do addEntry done (← read k) (← read v)) []
    withTag tag (.mapping pairs)
  | .alias _ => failure

def nested (d : Document) : Nat → Node → Reading Value
  | 0 => node d none
  | depth + 1 => node d (some (nested d depth))

end Reading

/-- How many aliases may be followed for each mark of a document. -/
def repetition : Nat := 100

/-- Nothing when two keys of a mapping are the same, when a scalar has no value, or when aliases
make the value too deep or too large. -/
def Document.value? (d : Document) : Option Value :=
  ((Reading.nested d Scan.depthLimit d.root).run (repetition * d.root.size)).map (·.1)

def values? (text : String) : Option (List Value) :=
  -- The values of a text. A text without documents stands for one null.
  match documents text with
  | .error _ => none
  | .ok [] => some [.null]
  | .ok ds => ds.mapM Document.value?

end ShareCheck.Yaml11
