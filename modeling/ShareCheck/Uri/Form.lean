import ShareCheck.Text.Utf8
import ShareCheck.Text.Search

set_option autoImplicit false

namespace ShareCheck.Form

open Text (Bytes)

def isUnreserved (c : Char) : Bool := c.isAlphanum || ['*', '-', '.', '_'].contains c

def hexDigit (n : Nat) : Char := "0123456789ABCDEF".toList.getD n '0'

def encodeByte (b : UInt8) : List Char :=
  let c := Char.ofNat b.toNat
  if isUnreserved c then [c]
  else if c == ' ' then ['+']
  else ['%', hexDigit (b.toNat / 16), hexDigit (b.toNat % 16)]

def encode (s : String) : String :=
  String.ofList ((Text.encode s.toList).flatMap encodeByte)

def hexValue? (b : UInt8) : Option UInt8 :=
  if 0x30 ≤ b && b ≤ 0x39 then some (b - 0x30)
  else if 0x41 ≤ b && b ≤ 0x46 then some (b - 0x37)
  else if 0x61 ≤ b && b ≤ 0x66 then some (b - 0x57)
  else none

def decodeBytes : Bytes → Bytes
  -- A percent sign without two digits after it stands for itself.
  | 0x25 :: high :: low :: rest =>
    match hexValue? high, hexValue? low with
    | some h, some l => (16 * h + l) :: decodeBytes rest
    | _, _ => 0x25 :: decodeBytes (high :: low :: rest)
  | 0x2b :: rest => 0x20 :: decodeBytes rest
  | b :: rest => b :: decodeBytes rest
  | [] => []

def decode (cs : List Char) : String :=
  String.ofList (Text.decodeLossy (decodeBytes (Text.encode cs)))

def pairs (query : String) : List (String × String) :=
  -- The pairs of a query. What has no equals sign is a name without a value.
  ((query.toList.splitOn '&').filter (!·.isEmpty)).map fun piece =>
    match Text.splitOnce '=' piece with
    | some (name, value) => (decode name, decode value)
    | none => (decode piece, "")

end ShareCheck.Form
