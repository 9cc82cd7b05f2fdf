set_option autoImplicit false

namespace ShareCheck.Text

def byteSize (text : List Char) : Nat := text.foldl (fun n c => n + c.utf8Size) 0

def isBoundary : List Char → Nat → Bool
  | _, 0 => true
  | [], _ + 1 => false
  | c :: cs, n + 1 => c.utf8Size ≤ n + 1 && isBoundary cs (n + 1 - c.utf8Size)

def boundaryUpTo (text : List Char) : Nat → Nat
  -- Zero is always a boundary, so the walk back ends there at the latest.
  | 0 => 0
  | n + 1 => if isBoundary text (n + 1) then n + 1 else boundaryUpTo text n

def takeBytes : Nat → List Char → List Char
  | _, [] => []
  | n, c :: cs => if c.utf8Size ≤ n then c :: takeBytes (n - c.utf8Size) cs else []

def truncate (limit : Nat) (text : List Char) : List Char :=
  if byteSize text ≤ limit then text else takeBytes (boundaryUpTo text limit) text

end ShareCheck.Text
