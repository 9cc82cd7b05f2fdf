import ShareCheck.Yaml.Cursor

set_option autoImplicit false

/-!
The state of reading tokens: open indentations, and for each level of brackets the place where a key
may have begun without a mark of its own. Such a key shows only at its colon, so its token is then
put in where it began.
-/
namespace ShareCheck.Yaml

structure Indent where
  outer : Int
  isBlock : Bool
deriving Repr

structure SimpleKey where
  possible : Bool
  required : Bool
  position : Nat
  mark : Mark
deriving Repr, Inhabited

def SimpleKey.none : SimpleKey := ⟨false, false, 0, ⟨0, 0, 0⟩⟩

/-- Lists have their innermost entry first. -/
structure Scanner where
  cursor : Cursor
  tokens : Array Placed
  adjacentValueAt : Nat
  keyAllowed : Bool
  keys : List SimpleKey
  indent : Int
  indents : List Indent
  flowLevel : Nat
  flowMappingStarted : Bool
  /-- Whether a pair without braces is open. There is one mark of this for all levels, so a pair
  whose value is in brackets itself is not read. -/
  pairOpen : Bool

abbrev Scan := StateT Scanner (Except SyntaxError)

namespace Scan

def cursor : Scan Cursor := return (← get).cursor

def setCursor (c : Cursor) : Scan Unit := modify fun s => { s with cursor := c }

def mark : Scan Mark := return (← get).cursor.mark

def peek : Scan Char := return (← get).cursor.peek

def fail {α : Type} (mark : Mark) (problem : String) : Scan α := throw ⟨problem, mark⟩

def failHere {α : Type} (problem : String) : Scan α := do fail (← mark) problem

def skip (n : Nat) : Scan Unit := modify fun s => { s with cursor := s.cursor.nextBy n }

def push (mark : Mark) (t : Token) : Scan Unit :=
  modify fun s => { s with tokens := s.tokens.push ⟨t, mark⟩ }

def insertAt (position : Nat) (mark : Mark) (t : Token) : Scan Unit :=
  modify fun s => { s with tokens := s.tokens.insertIdxIfInBounds position ⟨t, mark⟩ }

def allowKey (allowed : Bool) : Scan Unit := modify fun s => { s with keyAllowed := allowed }

def lineRest (tabs : Bool) : Scan (Bool × Bool) := do
  let (c, found) ← (← cursor).lineRest tabs
  setCursor c
  return found

def dropStaleKeys : Scan Unit := do
  -- Outside of brackets a key ends on the line where it began, within 1024 characters.
  let s ← get
  let now := s.cursor.mark
  let stale (k : SimpleKey) : Bool :=
    k.possible && s.flowLevel == 0 && (k.mark.line < now.line || k.mark.index + 1024 < now.index)
  if s.keys.any fun k => stale k && k.required then fail now "a key lacks its ':'"
  set { s with keys := s.keys.map fun k => if stale k then { k with possible := false } else k }

def updateKey (f : SimpleKey → SimpleKey) : Scan Unit :=
  modify fun s => match s.keys with
    | [] => s
    | k :: rest => { s with keys := f k :: rest }

def removeKey : Scan Unit := do
  match (← get).keys with
  | k :: _ => if k.possible && k.required then failHere "a key lacks its ':'"
  | [] => pure ()
  updateKey fun k => { k with possible := false }

def saveKey : Scan Unit := do
  -- The next token may turn out to be a key. It has to when it stands where the keys of an open
  -- block mapping stand.
  let s ← get
  if s.keyAllowed then
    let here := s.cursor.mark
    let required := s.flowLevel == 0 && s.indent == here.column &&
      (s.indents.head?.map (·.isBlock)).getD false
    updateKey fun _ => ⟨true, required, s.tokens.size, here⟩

def rollIndent (column : Nat) (position : Option Nat) (t : Token) (mark : Mark) : Scan Unit := do
  if (← get).flowLevel == 0 then
    modify fun s =>
      match s.indents with
      | top :: rest =>
        if s.indent ≤ column && !top.isBlock then { s with indent := top.outer, indents := rest }
        else s
      | [] => s
    let s ← get
    if s.indent < column then
      set { s with indents := ⟨s.indent, true⟩ :: s.indents, indent := (column : Int) }
      match position with
      | some n => insertAt n mark t
      | none => push mark t

def unrollIndent (column : Int) : Scan Unit := do
  let s ← get
  if s.flowLevel == 0 then
    let (indent, indents, closed) := go column s.indent s.indents 0
    set { s with indent, indents }
    for _ in List.range closed do push s.cursor.mark .blockEnd
where
  go (column : Int) : Int → List Indent → Nat → Int × List Indent × Nat
    | indent, [], closed => (indent, [], closed)
    | indent, top :: rest, closed =>
      if column < indent then go column top.outer rest (if top.isBlock then closed + 1 else closed)
      else (indent, top :: rest, closed)

def rollOneColumn : Scan Unit :=
  -- One column more that what follows has to be indented by, without opening a block.
  modify fun s =>
    if s.flowLevel == 0 && (s.indents.head?.map (·.isBlock)).getD false then
      { s with indents := ⟨s.indent, false⟩ :: s.indents, indent := s.indent + 1 }
    else s

def unrollOneColumns : Scan Unit :=
  modify fun s =>
    let (indent, indents) := go s.indent s.indents
    { s with indent, indents }
where
  go : Int → List Indent → Int × List Indent
    | indent, [] => (indent, [])
    | indent, top :: rest => if top.isBlock then (indent, top :: rest) else go top.outer rest

def toNextToken : Scan Unit := do
  -- Passes white space, line breaks and comments. A tab must not stand for the indentation of
  -- something in a block.
  go (← cursor).bound
where
  go : Nat → Scan Unit
    | 0 => pure ()
    | n + 1 => do
      let s ← get
      let c := s.cursor
      let x := c.peek
      if x == '\t' && !s.indents.isEmpty && c.lineStart && c.mark.column < s.indent then
        let _ ← lineRest true
        if !isBreakOrEnd (← peek) then
          failHere "a tab indents a line of a block"
        go n
      else if isSpace x then
        setCursor c.space
        go n
      else if isBreak x then
        setCursor c.lineBreak
        if s.flowLevel == 0 then allowKey true
        go n
      else if x == '#' then
        setCursor c.comment
        go n

def spacing : Scan Unit := do
  go (← cursor).bound true
where
  go : Nat → Bool → Scan Unit
    | 0, _ => pure ()
    | n + 1, missing => do
      let s ← get
      let c := s.cursor
      let x := c.peek
      if x == ' ' then
        setCursor c.space
        go n false
      else if isBreak x then
        setCursor c.lineBreak
        if s.flowLevel == 0 then allowKey true
        go n false
      else if x == '#' then
        setCursor c.comment
        go n missing
      else if missing then failHere "white space is missing"

def endPair (mark : Mark) : Scan Unit := do
  if (← get).pairOpen then
    modify fun s => { s with flowMappingStarted := false, pairOpen := false }
    push mark .flowMappingEnd

end Scan

end ShareCheck.Yaml
