import ShareCheck.Text.Casing.Mapping
import ShareCheck.Text.Casing.Property

set_option autoImplicit false

namespace ShareCheck.Text

open Casing

def mapRuns (runs : List Run) (c : Char) : Char :=
  match runs.findSome? (·.map? c.toNat) with
  | some n => Char.ofNat n
  | none => c

def lowerChar (c : Char) : List Char :=
  -- The dotted capital I is the one letter whose small form takes two code points.
  if c = '\u0130' then ['i', '\u0307'] else [mapRuns lowerRuns c]

def upperChar (c : Char) : List Char :=
  match upperSequences.lookup c.toNat with
  | some ns => ns.map Char.ofNat
  | none => [mapRuns upperRuns c]

def nextIsCased (cs : List Char) : Bool :=
  match cs.dropWhile isIgnorable with
  | c :: _ => isCased c
  | [] => false

def lower (cs : List Char) : List Char :=
  -- A capital sigma at the end of a word takes the final form.
  go [] cs
where
  go : List Char → List Char → List Char
    | _, [] => []
    | seen, c :: rest =>
      (if c = 'Σ' then [if nextIsCased seen && !nextIsCased rest then 'ς' else 'σ']
        else lowerChar c) ++ go (c :: seen) rest

def upper (cs : List Char) : List Char := cs.flatMap upperChar

end ShareCheck.Text
