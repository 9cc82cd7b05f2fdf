import ShareCheck.Number.Binary64

set_option autoImplicit false

namespace ShareCheck.Yaml

/-- A real keeps its text. `bad` stands for a scalar that is not what its tag says, and for an alias
inside of what it names. -/
inductive Tree
  | null
  | bool (b : Bool)
  | int (n : Int)
  | real (text : String)
  | text (s : String)
  | sequence (items : List Tree)
  | mapping (entries : List (Tree × Tree))
  | alias (id : Nat)
  | bad
deriving Repr, Inhabited

namespace Tree

mutual

def same : Tree → Tree → Bool
  -- Equality of trees. The order of the entries of a mapping counts.
  | null, null | bad, bad => true
  | bool a, bool b => a == b
  | int a, int b => a == b
  | real a, real b => a == b
  | text a, text b => a == b
  | .alias a, .alias b => a == b
  | sequence as, sequence bs => sameItems as bs
  | mapping as, mapping bs => sameEntries as bs
  | _, _ => false

def sameItems : List Tree → List Tree → Bool
  | [], [] => true
  | a :: as, b :: bs => same a b && sameItems as bs
  | _, _ => false

def sameEntries : List (Tree × Tree) → List (Tree × Tree) → Bool
  | [], [] => true
  | (k, v) :: as, (l, w) :: bs => same k l && same v w && sameEntries as bs
  | _, _ => false

end

end Tree

namespace Plain

def digit? (base : Nat) (c : Char) : Option Nat :=
  let n :=
    if c.isDigit then c.toNat - '0'.toNat
    else if 'a' ≤ c && c ≤ 'z' then c.toNat - 'a'.toNat + 10
    else if 'A' ≤ c && c ≤ 'Z' then c.toNat - 'A'.toNat + 10
    else base
  if n < base then some n else none

def magnitude? (base : Nat) (cs : List Char) : Option Nat :=
  if cs.isEmpty then none
  else cs.foldl (fun n c => do return base * (← n) + (← digit? base c)) (some 0)

def int? (base : Nat) (cs : List Char) : Option Int := do
  let (negative, digits) := Number.Decimal.sign cs
  let n ← magnitude? base digits
  let i : Int := if negative then -n else n
  if -0x8000000000000000 ≤ i ∧ i < 0x8000000000000000 then some i else none

def infinities : List String := [".inf", ".Inf", ".INF", "+.inf", "+.Inf", "+.INF"]

def negativeInfinities : List String := ["-.inf", "-.Inf", "-.INF"]

def notNumbers : List String := [".nan", ".NaN", ".NAN"]

def isReal (s : String) : Bool :=
  infinities.contains s || negativeInfinities.contains s || notNumbers.contains s ||
    (Number.Decimal.read? s.toList).isSome

def bool? (s : String) : Option Bool :=
  if s == "true" || s == "True" || s == "TRUE" then some true
  else if s == "false" || s == "False" || s == "FALSE" then some false
  else none

def spelledInt? (s : String) : Option Int :=
  -- Hexadecimal after `0x`, octal after `0o`; one plus sign may come before a signed number.
  match s.toList with
  | '0' :: 'x' :: rest => int? 16 rest
  | '0' :: 'o' :: rest => int? 8 rest
  | '+' :: rest => int? 10 rest
  | _ => none

end Plain

open Plain

def Tree.ofPlain (s : String) : Tree :=
  match spelledInt? s with
  | some i => .int i
  | none =>
    if s == "" || s == "~" || s == "null" then .null
    else match bool? s with
      | some b => .bool b
      | none =>
        match int? 10 s.toList with
        | some i => .int i
        | none => if isReal s then .real s else .text s

def coreTags : String := "tag:yaml.org,2002:"

def Tree.ofTagged (handle suffix s : String) : Tree :=
  if handle != coreTags then .text s
  else if suffix == "bool" then (bool? s).elim .bad .bool
  else if suffix == "int" then (int? 10 s.toList).elim .bad .int
  else if suffix == "float" then if isReal s then .real s else .bad
  else if suffix == "null" then if s == "~" || s == "null" then .null else .bad
  else .text s

end ShareCheck.Yaml
