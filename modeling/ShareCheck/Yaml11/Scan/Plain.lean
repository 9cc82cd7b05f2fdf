import ShareCheck.Yaml11.Scan

set_option autoImplicit false

namespace ShareCheck.Yaml11

open Yaml

/-- White space between words, the latest character first: what stands before the first line break,
whether there was one, what it stands for, and those after it. -/
structure Gap where
  blanks : List Char := []
  folded : Bool := false
  first : List Char := []
  more : List Char := []

namespace Gap

def text (g : Gap) : List Char :=
  if !g.folded then g.blanks
  else if g.first == ['\n'] then if g.more.isEmpty then [' '] else g.more
  else g.more ++ g.first

def addBreak (g : Gap) (breakText : List Char) : Gap :=
  if g.folded then { g with more := breakText ++ g.more }
  else { g with blanks := [], folded := true, first := breakText }

def addBlank (g : Gap) (c : Char) : Gap :=
  if g.folded then g else { g with blanks := c :: g.blanks }

end Gap

namespace Scan

def gap (indent : Int) : Nat → Gap → Scan Gap
  -- The gap at the cursor. A tab must not stand for an indentation of at least `indent`.
  | 0, g => return g
  | n + 1, g => do
    let c ← cursor
    let x := c.peek
    if isSpace x then
      if g.folded && c.mark.column < indent && x == '\t' then fail "a tab indents a line"
      skip 1
      gap indent n (g.addBlank x)
    else if isLineBreak x then
      setCursor (passBreak c)
      gap indent n (g.addBreak (breakText c))
    else return g

def plainEnds (inFlow : Bool) (c : Cursor) : Bool :=
  (c.peek == ':' && isGapOrEnd (c.peekAt 1)) || (inFlow && isFlow c.peek)

def plainWord (inFlow : Bool) : Nat → List Char → Scan (List Char)
  | 0, text => return text
  | n + 1, text => do
    let c ← cursor
    if isGapOrEnd c.peek then return text
    else if inFlow && c.peek == ':' && (isFlow (c.peekAt 1) || c.peekAt 1 == '?') then
      fail "':' stands before a bracket or comma"
    else if plainEnds inFlow c then return text
    else
      skip 1
      plainWord inFlow n (c.peek :: text)

def plainText (indent : Int) : Nat → Gap → List Char → Scan (List Char × Bool)
  | 0, g, text => return (text, g.folded)
  | n + 1, g, text => do
    let s ← get
    let c := s.cursor
    if atAnyDocumentMark c || c.peek == '#' then return (text, g.folded)
    let word ← plainWord (0 < s.flowLevel) c.bound []
    let (g, text) := if word.isEmpty then (g, text) else ({}, word ++ g.text ++ text)
    if !isGap (← peek) then return (text, g.folded)
    let g ← gap indent c.bound g
    if s.flowLevel == 0 && (← mark).column < indent then return (text, g.folded)
    plainText indent n g text

def plain : Scan Unit := do
  saveKey
  allowKey false
  let s ← get
  let start := s.cursor.mark
  let (text, folded) ← plainText (s.indent + 1) s.cursor.bound {} []
  if folded then allowKey true
  push start (.scalar true (String.ofList text.reverse))

end Scan

end ShareCheck.Yaml11
