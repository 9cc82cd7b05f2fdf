set_option autoImplicit false

namespace ShareCheck.Number

/-- The nearest whole number to `num / den`; a half goes to the even neighbour. -/
def divNearest (num den : Nat) : Nat :=
  let q := num / den
  let twice := 2 * (num % den)
  if twice < den then q else if den < twice then q + 1 else q + q % 2

/-- A finite number is `mantissa * 2 ^ exponent`. Either the mantissa has 53 bits, or the exponent
is -1074, the least there is. -/
inductive Binary64
  | nan
  | infinite (negative : Bool)
  | finite (negative : Bool) (mantissa : Nat) (exponent : Int)
deriving DecidableEq, Repr

namespace Binary64

def zero (negative : Bool) : Binary64 := .finite negative 0 (-1074)

def scaled (num den : Nat) (e : Int) : Nat × Nat :=
  if 0 ≤ e then (num * Nat.pow 2 e.toNat, den)
  else (num, den * Nat.pow 2 (-e).toNat)

def exponentOf (num den : Nat) : Int :=
  let guess : Int := (num.log2 : Int) - den.log2 - 52
  let (n, d) := scaled num den (-guess)
  max (-1074) (if n < Nat.pow 2 52 * d then guess - 1 else guess)

def ofRatio (negative : Bool) (num den : Nat) : Binary64 :=
  if num = 0 then zero negative
  else
    let e := exponentOf num den
    let (n, d) := scaled num den (-e)
    let m := divNearest n d
    let (m, e) := if m = Nat.pow 2 53 then (Nat.pow 2 52, e + 1) else (m, e)
    if 971 < e then .infinite negative else .finite negative m e

/-- The number nearest to `digits * 10 ^ exponent`. Exponents far outside the range are settled
without computing the power. -/
def ofDecimal (negative : Bool) (digits : Nat) (exponent : Int) : Binary64 :=
  let places : Int := (Nat.toDigits 10 digits).length
  if digits = 0 then zero negative
  else if 400 < exponent + places then .infinite negative
  else if exponent + places < -400 then zero negative
  else if 0 ≤ exponent then ofRatio negative (digits * Nat.pow 10 exponent.toNat) 1
  else ofRatio negative digits (Nat.pow 10 (-exponent).toNat)

def isFinite : Binary64 → Bool
  | .finite .. => true
  | _ => false

def bits : Binary64 → UInt64
  | .nan => 0x7ff8000000000000
  | .infinite negative => sign negative ||| 0x7ff0000000000000
  | .finite negative m e =>
    if m < Nat.pow 2 52 then sign negative ||| UInt64.ofNat m
    else sign negative |||
      UInt64.ofNat ((e + 1075).toNat * Nat.pow 2 52 + (m - Nat.pow 2 52))
where
  sign (negative : Bool) : UInt64 := if negative then 0x8000000000000000 else 0

def addMagnitudes (m₁ : Nat) (e₁ : Int) (m₂ : Nat) (e₂ : Int) : Binary64 :=
  -- The exact sum of two nonnegative finite numbers is rounded once.
  let low := min e₁ e₂
  let sum := m₁ * Nat.pow 2 (e₁ - low).toNat + m₂ * Nat.pow 2 (e₂ - low).toNat
  let (n, d) := scaled sum 1 low
  ofRatio false n d

def mul : Binary64 → Binary64 → Binary64
  -- The exact product is rounded once.
  | .finite s₁ m₁ e₁, .finite s₂ m₂ e₂ =>
    let (n, d) := scaled (m₁ * m₂) 1 (e₁ + e₂)
    ofRatio (s₁ != s₂) n d
  | .infinite s₁, .finite s₂ m _ | .finite s₂ m _, .infinite s₁ =>
    if m = 0 then .nan else .infinite (s₁ != s₂)
  | .infinite s₁, .infinite s₂ => .infinite (s₁ != s₂)
  | .nan, _ | _, .nan => .nan

end Binary64

structure Decimal where
  negative : Bool
  digits : Nat
  exponent : Int
deriving DecidableEq, Repr

namespace Decimal

def digitsValue (cs : List Char) : Nat :=
  cs.foldl (fun n c => 10 * n + (c.toNat - '0'.toNat)) 0

def sign : List Char → Bool × List Char
  | '-' :: rest => (true, rest)
  | '+' :: rest => (false, rest)
  | rest => (false, rest)

def exponent? : List Char → Option Int
  | [] => some 0
  | mark :: rest =>
    let (negative, digits) := sign rest
    if (mark = 'e' || mark = 'E') && !digits.isEmpty && digits.all Char.isDigit then
      some (if negative then -(digitsValue digits : Int) else digitsValue digits)
    else none

def read? (text : List Char) : Option Decimal :=
  -- Digits with at most one point among them and at least one digit, then an exponent.
  let (negative, rest) := sign text
  let whole := rest.takeWhile Char.isDigit
  let rest := rest.dropWhile Char.isDigit
  let (fraction, rest) := match rest with
    | '.' :: rest => (rest.takeWhile Char.isDigit, rest.dropWhile Char.isDigit)
    | rest => ([], rest)
  if whole.isEmpty && fraction.isEmpty then none
  else (exponent? rest).map fun e =>
    ⟨negative, digitsValue (whole ++ fraction), e - fraction.length⟩

def toBinary64 (d : Decimal) : Binary64 := .ofDecimal d.negative d.digits d.exponent

end Decimal

end ShareCheck.Number
