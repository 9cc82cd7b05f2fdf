import ShareCheck.Text.Utf8

set_option autoImplicit false

namespace ShareCheck.Text

namespace Utf16

inductive Order
  | little
  | big
deriving DecidableEq, Repr

def units? (order : Order) : Bytes → Option (List Nat)
  | [] => some []
  | [_] => none
  | a :: b :: rest =>
    let unit := match order with
      | .little => a.toNat + 256 * b.toNat
      | .big => 256 * a.toNat + b.toNat
    (units? order rest).map (unit :: ·)

def chars? : List Nat → Option (List Char)
  -- Characters beyond the first plane take a pair of units, the high one first.
  | [] => some []
  | u :: rest =>
    if u < 0xd800 || 0xdfff < u then (chars? rest).map (Char.ofNat u :: ·)
    else match rest with
      | v :: rest =>
        if u < 0xdc00 && 0xdc00 ≤ v && v ≤ 0xdfff then
          (chars? rest).map (Char.ofNat (0x10000 + (u - 0xd800) * 0x400 + (v - 0xdc00)) :: ·)
        else none
      | [] => none

end Utf16

inductive MarkedFault
  | halfUnit
  | invalid
deriving DecidableEq, Repr

def decodeUtf16 (order : Utf16.Order) (bytes : Bytes) : Except MarkedFault (List Char) :=
  match Utf16.units? order bytes with
  | none => .error .halfUnit
  | some units => (Utf16.chars? units).elim (.error .invalid) .ok

def decodeMarked (bytes : Bytes) : Except MarkedFault (List Char) :=
  -- Without a mark the bytes are UTF-8. The mark is not part of the text.
  match bytes with
  | 0xff :: 0xfe :: rest => decodeUtf16 .little rest
  | 0xfe :: 0xff :: rest => decodeUtf16 .big rest
  | 0xef :: 0xbb :: 0xbf :: rest => (decode rest).elim (.error .invalid) .ok
  | bytes => (decode bytes).elim (.error .invalid) .ok

end ShareCheck.Text
