set_option autoImplicit false

namespace ShareCheck

structure Path where
  text : String
deriving DecidableEq, Repr, Inhabited

namespace Path

def isAbsolute (p : Path) : Bool := p.text.toList.head? == some '/'

/-- The names between the slashes. A dot counts only as the first name of a relative path. -/
def names (p : Path) : List String :=
  let parts := (p.text.toList.splitOn '/').map String.ofList
  match parts with
  | [] => []
  | first :: rest =>
    let kept := rest.filter fun s => s != "" && s != "."
    if first == "" then kept else first :: kept

def join (base file : Path) : Path :=
  -- An absolute file stands on its own.
  if file.isAbsolute || base.text.isEmpty then file
  else if base.text.toList.getLast? == some '/' then ⟨base.text ++ file.text⟩
  else ⟨base.text ++ "/" ++ file.text⟩

def parent (p : Path) : Path :=
  let parts := p.text.toList.splitOn '/'
  let isBlank (part : List Char) : Bool := part.isEmpty || part == ['.']
  let above := ((parts.reverse.dropWhile isBlank).drop 1).dropWhile isBlank
  if above.isEmpty then
    ⟨if p.isAbsolute then "/" else if parts.head? == some ['.'] then "." else ""⟩
  else ⟨String.ofList (['/'].intercalate above.reverse)⟩

def same (p q : Path) : Bool := p.isAbsolute == q.isAbsolute && p.names == q.names

end Path

end ShareCheck
