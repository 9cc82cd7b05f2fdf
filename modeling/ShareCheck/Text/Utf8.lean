set_option autoImplicit false

namespace ShareCheck.Text

abbrev Bytes := List UInt8

namespace Utf8

def shape (lead : UInt8) : Option (UInt8 × UInt8 × Nat) :=
  if 0xc2 ≤ lead && lead ≤ 0xdf then some (0x80, 0xbf, 0)
  else if lead == 0xe0 then some (0xa0, 0xbf, 1)
  else if lead == 0xed then some (0x80, 0x9f, 1)
  else if 0xe1 ≤ lead && lead ≤ 0xef then some (0x80, 0xbf, 1)
  else if lead == 0xf0 then some (0x90, 0xbf, 2)
  else if 0xf1 ≤ lead && lead ≤ 0xf3 then some (0x80, 0xbf, 2)
  else if lead == 0xf4 then some (0x80, 0x8f, 2)
  else none

def leadBits (lead : UInt8) : Nat :=
  if lead < 0xe0 then lead.toNat % 32 else if lead < 0xf0 then lead.toNat % 16 else lead.toNat % 8

/-- Reads up to `more` trailing bytes: the value when all are there, and how many were. -/
def trail (value : Nat) (taken : Nat) : Nat → Bytes → Option Nat × Nat
  | 0, _ => (some value, taken)
  | _ + 1, [] => (none, taken)
  | more + 1, b :: rest =>
    if 0x80 ≤ b && b ≤ 0xbf then trail (value * 64 + b.toNat % 64) (taken + 1) more rest
    else (none, taken)

def first (lead : UInt8) (rest : Bytes) : Option Char × Nat :=
  if lead < 0x80 then (some (Char.ofNat lead.toNat), 0)
  else match shape lead, rest with
    | some (low, high, more), b :: rest =>
      if low ≤ b && b ≤ high then
        let (value, taken) := trail (leadBits lead * 64 + b.toNat % 64) 1 more rest
        (value.map Char.ofNat, taken)
      else (none, 0)
    | _, _ => (none, 0)

end Utf8

def decodeLossy : Bytes → List Char
  | [] => []
  | b :: rest =>
    let (c, taken) := Utf8.first b rest
    c.getD '\ufffd' :: decodeLossy (rest.drop taken)
termination_by bytes => bytes.length
decreasing_by rw [List.length_drop, List.length_cons]; omega

def decode : Bytes → Option (List Char)
  | [] => some []
  | b :: rest =>
    match Utf8.first b rest with
    | (some c, taken) => (decode (rest.drop taken)).map (c :: ·)
    | (none, _) => none
termination_by bytes => bytes.length
decreasing_by rw [List.length_drop, List.length_cons]; omega

def encode (text : List Char) : Bytes := text.flatMap String.utf8EncodeChar

end ShareCheck.Text
