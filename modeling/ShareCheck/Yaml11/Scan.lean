import ShareCheck.Yaml.Scan
import ShareCheck.Yaml11.Cursor

set_option autoImplicit false

namespace ShareCheck.Yaml11

open Yaml

/-- Lists have their innermost entry first. -/
structure Scanner where
  cursor : Cursor
  tokens : Array Placed
  keyAllowed : Bool
  keys : List SimpleKey
  indent : Int
  indents : List Int
  flowLevel : Nat

def Scanner.start (text : String) : Scanner where
  cursor := .ofText text
  tokens := #[]
  keyAllowed := true
  keys := [SimpleKey.none]
  indent := -1
  indents := []
  flowLevel := 0

abbrev Scan := StateT Scanner (Except SyntaxError)

namespace Scan

def cursor : Scan Cursor := return (← get).cursor

def setCursor (c : Cursor) : Scan Unit := modify fun s => { s with cursor := c }

def mark : Scan Mark := return (← get).cursor.mark

def peek : Scan Char := return (← get).cursor.peek

def fail {α : Type} (problem : String) : Scan α := do throw ⟨problem, ← mark⟩

def skip (n : Nat) : Scan Unit := modify fun s => { s with cursor := s.cursor.nextBy n }

def take (accept : Char → Bool) : Scan String := do
  let (text, c) := (← cursor).span accept
  setCursor c
  return text

def push (mark : Mark) (t : Token) : Scan Unit :=
  modify fun s => { s with tokens := s.tokens.push ⟨t, mark⟩ }

def insertAt (position : Nat) (mark : Mark) (t : Token) : Scan Unit :=
  modify fun s => { s with tokens := s.tokens.insertIdxIfInBounds position ⟨t, mark⟩ }

def allowKey (allowed : Bool) : Scan Unit := modify fun s => { s with keyAllowed := allowed }

def dropStaleKeys : Scan Unit := do
  -- A key ends on the line where it began, within 1024 characters, inside of brackets too.
  let s ← get
  let now := s.cursor.mark
  let stale (k : SimpleKey) : Bool :=
    k.possible && (k.mark.line < now.line || k.mark.index + 1024 < now.index)
  if s.keys.any fun k => stale k && k.required then fail "a key lacks its ':'"
  set { s with keys := s.keys.map fun k => if stale k then { k with possible := false } else k }

def updateKey (f : SimpleKey → SimpleKey) : Scan Unit :=
  modify fun s => match s.keys with
    | [] => s
    | k :: rest => { s with keys := f k :: rest }

def removeKey : Scan Unit := do
  match (← get).keys with
  | k :: _ => if k.possible && k.required then fail "a key lacks its ':'"
  | [] => pure ()
  updateKey fun k => { k with possible := false }

def saveKey : Scan Unit := do
  -- The next token may turn out to be a key. It has to at the column of an open block.
  let s ← get
  if s.keyAllowed then
    removeKey
    let here := s.cursor.mark
    let required := s.flowLevel == 0 && s.indent == here.column
    updateKey fun _ => ⟨true, required, s.tokens.size, here⟩

def depthLimit : Nat := 128

def checkDepth : Scan Unit := do
  let s ← get
  if depthLimit ≤ s.indents.length + s.flowLevel then fail "nested too deeply"

def rollIndent (column : Nat) (position : Option Nat) (t : Token) (mark : Mark) : Scan Unit := do
  let s ← get
  if s.flowLevel == 0 && s.indent < column then
    checkDepth
    set { s with indents := s.indent :: s.indents, indent := (column : Int) }
    match position with
    | some n => insertAt n mark t
    | none => push mark t

def unrollIndent (column : Int) : Scan Unit := do
  let s ← get
  if s.flowLevel == 0 then
    let (indent, indents, closed) := go column s.indent s.indents 0
    set { s with indent, indents }
    for _ in List.range closed do push s.cursor.mark .blockEnd
where
  go (column : Int) : Int → List Int → Nat → Int × List Int × Nat
    | indent, [], closed => (indent, [], closed)
    | indent, outer :: rest, closed =>
      if column < indent then go column outer rest (closed + 1) else (indent, outer :: rest, closed)

def toNextToken : Scan Unit := do
  -- Passes white space, line breaks and comments. Where a key may begin, no tab is passed.
  go (← cursor).bound
where
  go : Nat → Scan Unit
    | 0 => pure ()
    | n + 1 => do
      let s ← get
      let x := s.cursor.peek
      if x == ' ' || (x == '\t' && (0 < s.flowLevel || !s.keyAllowed)) then
        skip 1
        go n
      else if x == '#' then
        setCursor (passLine s.cursor)
        go n
      else if isLineBreak x then
        setCursor (passBreak s.cursor)
        if s.flowLevel == 0 then allowKey true
        go n

end Scan

end ShareCheck.Yaml11
