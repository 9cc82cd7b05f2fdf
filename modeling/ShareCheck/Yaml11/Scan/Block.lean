import ShareCheck.Yaml.Scan.Block
import ShareCheck.Yaml11.Scan.Plain

set_option autoImplicit false

namespace ShareCheck.Yaml11.Scan

open Yaml

def indentDigit : Scan Nat := do
  let c ← peek
  if !c.isDigit then return 0
  else if c == '0' then fail "a block cannot be indented by 0"
  else
    skip 1
    return c.toNat - '0'.toNat

def chompingMark : Scan (Option Yaml.Scan.Chomping) := do
  match Yaml.Scan.chomping? (← peek) with
  | some m =>
    skip 1
    return some m
  | none => return none

def blockHeader : Scan (Yaml.Scan.Chomping × Nat) := do
  match ← chompingMark with
  | some m => return (m, ← indentDigit)
  | none =>
    let n ← indentDigit
    if n == 0 then return (.clip, 0) else return ((← chompingMark).getD .clip, n)

/-- Empty lines before a line of a block, latest first, and the widest column met. Without a known
indentation all spaces belong to it, and no tab may. -/
def emptyLines (indent : Option Nat) : Nat → List Char → Nat → Scan (List Char × Nat)
  | 0, breaks, widest => return (breaks, widest)
  | n + 1, breaks, widest => do
    let c ← cursor
    let isIndentation := indent.all fun i => c.mark.column < i
    if isIndentation && c.peek == ' ' then
      skip 1
      emptyLines indent n breaks widest
    else if isIndentation && c.peek == '\t' then fail "a tab indents a line of a block"
    else
      let widest := max widest c.mark.column
      if isLineBreak c.peek then
        setCursor (passBreak c)
        emptyLines indent n (breakText c ++ breaks) widest
      else return (breaks, widest)

/-- What has been read of a block: its text, the break at the end of its last line and the breaks
after that, the latest character first, and whether the last line began with white space. -/
structure BlockText where
  text : List Char
  ending : List Char
  breaks : List Char
  spaced : Bool

def blockLines (literal : Bool) (indent : Nat) : Nat → BlockText → Scan BlockText
  | 0, b => return b
  | n + 1, b => do
    let c ← cursor
    if c.mark.column != indent || isEnd c.peek then return b
    else
      let spaced := isSpace c.peek
      let joins := !literal && b.ending == ['\n'] && !b.spaced && !spaced
      let joint :=
        if !joins then b.breaks ++ b.ending else if b.breaks.isEmpty then [' '] else b.breaks
      let line ← take (!isLineEnd ·)
      let c ← cursor
      setCursor (passBreak c)
      let (breaks, _) ← emptyLines (some indent) c.bound [] 0
      blockLines literal indent n
        ⟨line.toList.reverse ++ joint ++ b.text, breakText c, breaks, spaced⟩

def blockStart (increment : Nat) : Scan (List Char × Nat) := do
  let s ← get
  if increment == 0 then
    let (breaks, widest) ← emptyLines none s.cursor.bound [] 0
    return (breaks, max 1 (max widest (s.indent + 1).toNat))
  else
    let indent := s.indent.toNat + increment
    return ((← emptyLines (some indent) s.cursor.bound [] 0).1, indent)

def block (literal : Bool) : Scan Unit := do
  removeKey
  allowKey true
  let start ← mark
  skip 1
  let (chomp, increment) ← blockHeader
  setCursor (passLineRest (← cursor))
  if !isLineEnd (← peek) then fail "text follows the mark of a block"
  setCursor (passBreak (← cursor))
  let (breaks, indent) ← blockStart increment
  let b ← blockLines literal indent (← cursor).bound ⟨[], [], breaks, false⟩
  let tail :=
    if chomp == .strip then [] else if chomp == .clip then b.ending else b.breaks ++ b.ending
  push start (.scalar false (String.ofList (tail ++ b.text).reverse))

end ShareCheck.Yaml11.Scan
