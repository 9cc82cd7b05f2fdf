set_option autoImplicit false

namespace ShareCheck.Text

variable {α : Type} [BEq α]

def occurs (piece : List α) : List α → Bool
  | [] => piece.isEmpty
  | x :: xs => piece.isPrefixOf (x :: xs) || occurs piece xs

theorem occurs_iff [LawfulBEq α] (piece text : List α) : occurs piece text ↔ piece <:+: text := by
  induction text with
  | nil => simp [occurs]
  | cons x xs ih => simp [occurs, ih, List.infix_cons_iff, List.isPrefixOf_iff_prefix]

def before (piece : List α) : List α → List α
  | [] => []
  | x :: xs => if piece.isPrefixOf (x :: xs) then [] else x :: before piece xs

def splitOnce (x : α) : List α → Option (List α × List α)
  | [] => none
  | y :: ys =>
    if y == x then some ([], ys)
    else (splitOnce x ys).map fun (left, right) => (y :: left, right)

/-- A line feed ends a line and takes one carriage return before it along; a last line without a
line feed keeps what it has. -/
def lines (text : List Char) : List (List Char) :=
  go [] text
where
  go : List Char → List Char → List (List Char)
    | [], [] => []
    | line, [] => [line.reverse]
    | '\r' :: line, '\n' :: rest => line.reverse :: go [] rest
    | line, '\n' :: rest => line.reverse :: go [] rest
    | line, c :: rest => go (c :: line) rest

def endsWith (tail text : List α) : Bool := tail.reverse.isPrefixOf text.reverse

end ShareCheck.Text
