import ShareCheck.Text.Utf8

set_option autoImplicit false

namespace ShareCheck.Text.Base64

def digit? (c : Char) : Option Nat :=
  if c.isUpper then some (c.toNat - 'A'.toNat)
  else if c.isLower then some (c.toNat - 'a'.toNat + 26)
  else if c.isDigit then some (c.toNat - '0'.toNat + 52)
  else if c == '+' then some 62
  else if c == '/' then some 63
  else none

def group? (cs : List Char) : Option Bytes := do
  match ← cs.mapM digit? with
  | [a, b] => if b % 16 == 0 then some [.ofNat (a * 4 + b / 16)] else none
  | [a, b, c] =>
    if c % 4 == 0 then some [.ofNat (a * 4 + b / 16), .ofNat (b % 16 * 16 + c / 4)] else none
  | [a, b, c, d] =>
    some [.ofNat (a * 4 + b / 16), .ofNat (b % 16 * 16 + c / 4), .ofNat (c % 4 * 64 + d)]
  | _ => none

def decode? : List Char → Option Bytes
  -- Four characters at a time. Padding fills up the last group.
  | [] => some []
  | [a, b, '=', '='] => group? [a, b]
  | [a, b, c, '='] => group? [a, b, c]
  | a :: b :: c :: d :: rest => do return (← group? [a, b, c, d]) ++ (← decode? rest)
  | _ => none

end ShareCheck.Text.Base64
