import ShareCheck.Yaml.Scan.Plain

set_option autoImplicit false

namespace ShareCheck.Yaml.Scan

inductive Chomping
  | strip
  | clip
  | keep
deriving DecidableEq

def chomping? (c : Char) : Option Chomping :=
  if c == '+' then some .keep else if c == '-' then some .strip else none

def indentDigit (start : Mark) : Scan Nat := do
  let c ← peek
  if !c.isDigit then return 0
  else if c == '0' then
    fail start "a block cannot be indented by 0"
  else
    skip 1
    return c.toNat - '0'.toNat

def chompingMark : Scan (Option Chomping) := do
  match chomping? (← peek) with
  | some m =>
    skip 1
    return some m
  | none => return none

def blockHeader (start : Mark) : Scan (Chomping × Nat) := do
  match ← chompingMark with
  | some m => return (m, ← indentDigit start)
  | none =>
    let n ← indentDigit start
    if n == 0 then return (.clip, 0)
    else return ((← chompingMark).getD .clip, n)

def blockIndent (indent : Nat) : Nat → Cursor → Nat → Cursor × Nat
  | 0, c, breaks => (c, breaks)
  | n + 1, c, breaks =>
    if c.mark.column < indent && c.peek == ' ' then blockIndent indent n c.space breaks
    else if isBreak c.peek then blockIndent indent n c.lineBreak (breaks + 1)
    else (c, breaks)

def firstIndent : Nat → Cursor → Nat → Nat → Cursor × Nat × Nat
  | 0, c, breaks, widest => (c, breaks, widest)
  | n + 1, c, breaks, widest =>
    if c.peek == ' ' then firstIndent n c.space breaks widest
    else
      let widest := max widest c.mark.column
      if isBreak c.peek then firstIndent n c.lineBreak (breaks + 1) widest
      else (c, breaks, widest)

def newLines (n : Nat) : List Char := List.replicate n '\n'

/-- What has been read of a block: its text, latest first, whether a break ends it that is not in
the text yet, the empty lines after that, and whether the last line began with white space. -/
structure BlockText where
  text : List Char
  pending : Bool
  breaks : Nat
  spaced : Bool

def blockLines (literal : Bool) (indent : Nat) :
    Nat → Cursor → BlockText → Cursor × BlockText
  | 0, c, b => (c, b)
  | n + 1, c, b =>
    if c.mark.column != indent || isEnd c.peek || (indent == 0 && c.atDocumentEnd) then (c, b)
    else
      let spaced := isSpace c.peek
      let joint :=
        if !literal && b.pending && !b.spaced && !spaced then
          if b.breaks == 0 then [' '] else newLines b.breaks
        else newLines (b.breaks + if b.pending then 1 else 0)
      let (line, c) := c.span (!isBreakOrEnd ·)
      let text := line.toList.reverse ++ joint ++ b.text
      if isEnd c.peek then (c, ⟨text, false, 0, spaced⟩)
      else
        let (c, breaks) := blockIndent indent c.bound c.lineBreak 0
        blockLines literal indent n c ⟨text, true, breaks, spaced⟩

def emptyBlock (chomp : Chomping) (brokeLine : Bool) (breaks : Nat) : List Char :=
  if !brokeLine then []
  else match chomp with
    | .strip => []
    | .clip => ['\n']
    | .keep => newLines (max 1 breaks)

def blockText (literal : Bool) : Scan Placed := do
  let start ← mark
  skip 1
  unrollOneColumns
  let (chomp, increment) ← blockHeader start
  let _ ← lineRest true
  if !isBreakOrEnd (← peek) then
    fail start "text follows the mark of a block"
  let hasBreak := isBreak (← peek)
  if hasBreak then setCursor (← cursor).lineBreak
  if (← peek) == '\t' then fail start "a block begins with a tab"
  let s ← get
  let c := s.cursor
  let outer := s.indent
  let (c, breaks, indent) :=
    if increment == 0 then
      let (c, breaks, widest) := firstIndent c.bound c 0 0
      (c, breaks, max widest (outer + 1).toNat)
    else
      let indent := if 0 ≤ outer then outer.toNat + increment else increment
      let (c, breaks) := blockIndent indent c.bound c 0
      (c, breaks, indent)
  setCursor c
  if isEnd c.peek then
    let text := emptyBlock chomp (hasBreak && c.mark.line != start.line) breaks
    return ⟨.scalar false (String.ofList text), start⟩
  if c.mark.column < indent && outer < c.mark.column then
    failHere "the first line of a block is indented too little"
  let (after, b) := blockLines literal indent c.bound c ⟨[], false, breaks, false⟩
  setCursor after
  let tail :=
    (if chomp == .strip then [] else
      (if b.pending then ['\n'] else []) ++
        (if isEnd after.peek && max 1 indent ≤ after.mark.column then ['\n'] else [])) ++
      (if chomp == .keep then newLines b.breaks else [])
  return ⟨.scalar false (String.ofList (b.text.reverse ++ tail)), c.mark⟩

def block (literal : Bool) : Scan Unit := do
  saveKey
  allowKey true
  let t ← blockText literal
  push t.mark t.token

end ShareCheck.Yaml.Scan
