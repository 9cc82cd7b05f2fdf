import ShareCheck.Number.Binary64

set_option autoImplicit false

namespace ShareCheck

structure Duration where
  nanos : Nat
deriving DecidableEq, Repr, Inhabited

namespace Duration

def perSecond : Nat := 1000000000

def ofMillis (ms : Nat) : Duration := ⟨ms * 1000000⟩

def ofSeconds (s nanos : Nat) : Duration := ⟨s * perSecond + nanos⟩

def seconds (d : Duration) : Nat := d.nanos / perSecond

def subsecond (d : Duration) : Nat := d.nanos % perSecond

def wholeMillis (d : Duration) : Nat := (d.nanos + 999999) / 1000000

instance : Min Duration := ⟨fun a b => if a.nanos ≤ b.nanos then a else b⟩

def places (width : Nat) (part : Nat) : String :=
  let digits := (Nat.toDigits 10 part)
  let padded := List.replicate (width - digits.length) '0' ++ digits
  let kept := (padded.reverse.dropWhile (· == '0')).reverse
  if kept.isEmpty then "" else "." ++ String.ofList kept

def text (d : Duration) : String :=
  let n := d.nanos
  if perSecond ≤ n then s!"{n / perSecond}" ++ places 9 (n % perSecond) ++ "s"
  else if 1000000 ≤ n then s!"{n / 1000000}" ++ places 6 (n % 1000000) ++ "ms"
  else if 1000 ≤ n then s!"{n / 1000}" ++ places 3 (n % 1000) ++ "µs"
  else s!"{n}ns"

open Number in
def toBinary64 (d : Duration) : Binary64 :=
  match Binary64.ofRatio false d.seconds 1, Binary64.ofRatio false d.subsecond perSecond with
  | .finite _ m₁ e₁, .finite _ m₂ e₂ => Binary64.addMagnitudes m₁ e₁ m₂ e₂
  | x, _ => x

open Number in
def secondsText (d : Duration) : String :=
  match d.toBinary64 with
  | .finite _ m e =>
    let (n, q) := Binary64.scaled m 1 e
    let tenths := divNearest (10 * n) q
    s!"{tenths / 10}.{tenths % 10}s"
  | _ => "infs"

inductive ScaleError
  | negative
  | tooLarge
deriving DecidableEq, Repr

def ScaleError.message : ScaleError → String
  | negative => "cannot convert float seconds to Duration: value is negative"
  | tooLarge => "cannot convert float seconds to Duration: value is either too big or NaN"

open Number in
def ofBinary64 : Binary64 → Except ScaleError Duration
  | .nan => .error .tooLarge
  | .infinite negative => .error (if negative then .negative else .tooLarge)
  | .finite negative m e =>
    let (n, d) := Binary64.scaled m 1 e
    if negative && m != 0 then .error .negative
    else if Nat.pow 2 64 * d ≤ n then .error .tooLarge
    else .ok ⟨divNearest (n * perSecond) d⟩

open Number in
def scale (factor : Binary64) (d : Duration) : Except ScaleError Duration :=
  ofBinary64 (d.toBinary64.mul factor)

end Duration

end ShareCheck
