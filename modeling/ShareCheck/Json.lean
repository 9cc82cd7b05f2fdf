import ShareCheck.Number.Binary64

set_option autoImplicit false

namespace ShareCheck

inductive Json
  | null
  | bool (b : Bool)
  | int (n : Int)
  | real (x : Number.Binary64)
  | string (s : String)
  | array (items : List Json)
  | object (members : List (String × Json))
deriving Repr, Inhabited

namespace Json

def insert (name : String) (value : Json) : List (String × Json) → List (String × Json)
  -- A member that is there already is replaced in its place.
  | [] => [(name, value)]
  | (other, old) :: rest =>
    if other = name then (name, value) :: rest else (other, old) :: insert name value rest

def member? (name : String) : Json → Option Json
  | object members => members.lookup name
  | _ => none

def string? : Json → Option String
  | string s => some s
  | _ => none

def bool? : Json → Option Bool
  | bool b => some b
  | _ => none

def items? : Json → Option (List Json)
  | array items => some items
  | _ => none

def isNull : Json → Bool
  | null => true
  | _ => false

def charSize (c : Char) : Nat :=
  if ['\x22', '\\', '\n', '\t', '\r', '\x08', '\x0c'].contains c then 2
  else if c < ' ' then 6
  else c.utf8Size

def stringSize (s : String) : Nat := s.toList.foldl (fun size c => size + charSize c) 2

mutual

/-- How many bytes the text without white space takes, unless a real is in it, which may be written
in several ways. -/
def textSize? : Json → Option Nat
  | null => some 4
  | bool b => some (if b then 4 else 5)
  | int n => some (toString n).length
  | real _ => none
  | string s => some (stringSize s)
  | array items => (itemsSize? items).map fun size => max 2 (size + 1)
  | object members => (membersSize? members).map fun size => max 2 (size + 1)

def itemsSize? : List Json → Option Nat
  | [] => some 0
  | j :: rest => do return 1 + (← j.textSize?) + (← itemsSize? rest)

def membersSize? : List (String × Json) → Option Nat
  | [] => some 0
  | (name, value) :: rest => do
    return 2 + stringSize name + (← value.textSize?) + (← membersSize? rest)

end

end Json

end ShareCheck
