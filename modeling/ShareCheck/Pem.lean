import ShareCheck.Text.Base64
import ShareCheck.Text.Blank
import ShareCheck.Text.Search

set_option autoImplicit false

namespace ShareCheck.Pem

open Text (Bytes)

structure Block where
  label : String
  contents : Bytes
deriving DecidableEq, Repr

def marker (s : String) : Bytes := Text.encode s.toList

def split? (piece : String) (bytes : Bytes) : Option (Bytes × Bytes) :=
  let piece := marker piece
  if Text.occurs piece bytes then
    let before := Text.before piece bytes
    some (before, bytes.drop (before.length + piece.length))
  else none

def skipBlanks (bytes : Bytes) : Bytes := bytes.dropWhile (marker " \t\n\r").contains

def next? (bytes : Bytes) : Option ((Bytes × Bytes × Bytes) × Bytes) := do
  let (_, rest) ← split? "-----BEGIN " bytes
  let (label, rest) ← split? "-----" rest
  let (body, rest) ← split? "-----END " (skipBlanks rest)
  let (ending, rest) ← split? "-----" rest
  return ((label, body, ending), skipBlanks rest)

def splitBody (body : Bytes) : Bytes × Bytes :=
  (split? "\n\n" body <|> split? "\x0d\n\x0d\n" body).getD ([], body)

def read? (label body ending : Bytes) : Option Block := do
  let (headers, data) := splitBody body
  let name ← Text.decode label
  let lines := Text.lines (← Text.decode headers)
  let data := (← Text.decode data).filter (!Text.isBlank ·)
  let contents ← Text.Base64.decode? data
  if label == ending && !label.isEmpty && lines.all (·.contains ':') then
    some ⟨String.ofList name, contents⟩
  else none

/-- All blocks up to the first that is not complete, unless one of them cannot be read. What stands
between blocks does not matter. -/
def blocks? (bytes : Bytes) : Option (List Block) :=
  go bytes.length bytes
where
  go : Nat → Bytes → Option (List Block)
    | 0, _ => some []
    | n + 1, bytes =>
      match next? bytes with
      | none => some []
      | some ((label, body, ending), rest) => do
        return (← read? label body ending) :: (← go n rest)

def number (bytes : Bytes) : Nat := bytes.foldl (fun n b => 256 * n + b.toNat) 0

def isSequence : Bytes → Bool
  | 0x30 :: size :: rest =>
    if size < 0x80 then rest.length == size.toNat
    else
      let width := size.toNat - 0x80
      let written := rest.take width
      written.length == width && 0x80 ≤ number written && written.head? != some 0 &&
        (rest.drop width).length == number written
  | _ => false

end ShareCheck.Pem
