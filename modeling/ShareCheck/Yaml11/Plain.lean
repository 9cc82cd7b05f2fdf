import ShareCheck.Yaml.Tree

set_option autoImplicit false

namespace ShareCheck.Yaml11

inductive Scalar
  | null
  | bool (b : Bool)
  | int (n : Int)
  | real (x : Number.Binary64)
  | text (s : String)
deriving DecidableEq, Repr, Inhabited

namespace Plain

def isNull (s : String) : Bool := ["null", "Null", "NULL", "~"].contains s

def bases : List (List Char × Nat) := [(['0', 'x'], 16), (['0', 'o'], 8), (['0', 'b'], 2)]

def unsigned? (base : Nat) (cs : List Char) : Option Nat := Yaml.Plain.magnitude? base cs

def based? (cs : List Char) : Option Nat :=
  bases.findSome? fun (start, base) =>
    if start.isPrefixOf cs then unsigned? base (cs.drop 2) else none

def isPadded (cs : List Char) : Bool :=
  match (Number.Decimal.sign cs).2 with
  | '0' :: d :: rest => (d :: rest).all Char.isDigit
  | _ => false

def decimal? (cs whole : List Char) : Option Nat :=
  if isPadded whole then none else unsigned? 10 cs

def int? (s : String) : Option Int :=
  match s.toList with
  | '-' :: rest => ((based? rest <|> decimal? rest s.toList)).map fun n => -(n : Int)
  | '+' :: rest => ((based? rest <|> decimal? rest s.toList)).map fun n => (n : Int)
  | cs => ((based? cs <|> decimal? cs cs)).map fun n => (n : Int)

def positiveInfinities : List String := [".inf", ".Inf", ".INF", "+.inf", "+.Inf", "+.INF"]

def negativeInfinities : List String := ["-.inf", "-.Inf", "-.INF"]

def notNumbers : List String := [".nan", ".NaN", ".NAN"]

def real? (s : String) : Option Number.Binary64 :=
  if positiveInfinities.contains s then some (.infinite false)
  else if negativeInfinities.contains s then some (.infinite true)
  else if notNumbers.contains s then some .nan
  else
    match Number.Decimal.read? s.toList with
    | some d => if d.toBinary64.isFinite then some d.toBinary64 else none
    | none => none

end Plain

def isShort (n : Int) : Bool := -0x8000000000000000 ≤ n && n < 0x10000000000000000

def isLong (n : Int) : Bool := -Nat.pow 2 127 ≤ n && n < Nat.pow 2 128

open Plain

def Scalar.ofInt? (s : String) : Option (Option Scalar) :=
  match int? s with
  | some n => if isShort n then some (some (.int n)) else if isLong n then some none else none
  | none => none

def Scalar.ofPlain (s : String) : Option Scalar :=
  if s.isEmpty || isNull s then some .null
  else match Yaml.Plain.bool? s with
    | some b => some (.bool b)
    | none =>
      match Scalar.ofInt? s with
      | some n => n
      | none =>
        if isPadded s.toList then some (.text s)
        else some ((real? s).elim (.text s) .real)

def Scalar.ofTagged (tag s : String) : Option Scalar :=
  if tag == Yaml.coreTags ++ "bool" then (Yaml.Plain.bool? s).map .bool
  else if tag == Yaml.coreTags ++ "int" then (Scalar.ofInt? s).join
  else if tag == Yaml.coreTags ++ "float" then (real? s).map .real
  else if tag == Yaml.coreTags ++ "null" then if isNull s then some .null else none
  else some (.text s)

end ShareCheck.Yaml11
