import ShareCheck.Yaml.Scan.Quoted

set_option autoImplicit false

namespace ShareCheck.Yaml.Scan

def canContinue (inFlow : Bool) (c : Cursor) : Bool :=
  -- A colon before white space ends the scalar, as does any bracket or comma inside of brackets.
  let x := c.peek
  if x == ':' then !(isSpaceOrEnd (c.peekAt 1) || (inFlow && isFlow (c.peekAt 1)))
  else !(inFlow && isFlow x)

def plainWord (inFlow : Bool) : Nat → Cursor → List Char → Cursor × List Char
  | 0, c, text => (c, text)
  | n + 1, c, text =>
    if isSpaceOrEnd c.peek || !canContinue inFlow c then (c, text)
    else plainWord inFlow n c.next (c.peek :: text)

def plainGap (start : Mark) (indent : Int) : Nat → Gap → Scan Gap
  | 0, g => return g
  | n + 1, g => do
    let c ← cursor
    let x := c.peek
    if isSpace x then
      if !c.lineStart then
        setCursor c.space
        plainGap start indent n { g with blanks := x :: g.blanks }
      else if c.mark.column < indent && x == '\t' then
        let _ ← lineRest true
        if !isBreakOrEnd (← peek) then fail start "a tab indents a line of a plain scalar"
        plainGap start indent n g
      else
        setCursor c.space
        plainGap start indent n g
    else if isBreak x then
      setCursor c.lineBreak
      plainGap start indent n
        (if c.lineStart then { g with more := g.more + 1 }
          else { g with blanks := [], folded := true, first := true })
    else return g

def plainText (start : Mark) (indent : Int) : Nat → Gap → List Char → Scan (List Char)
  | 0, _, text => return text
  | n + 1, gap, text => do
    let s ← get
    let c := s.cursor
    let inFlow := 0 < s.flowLevel
    if c.atDocumentMark || c.peek == '#' then return text
    if inFlow && c.peek == '-' && isFlow (c.peekAt 1) then
      failHere "'-' stands before a bracket or comma"
    let taken := plainWord inFlow c.bound c []
    let (gap, text) :=
      if taken.2.isEmpty then (gap, text) else (⟨[], false, false, 0⟩, taken.2 ++ gap.text ++ text)
    setCursor taken.1
    let x := taken.1.peek
    if !(isSpace x || isBreak x) then return text
    let gap ← plainGap start indent c.bound gap
    if !inFlow && (← mark).column < indent then return text
    plainText start indent n gap text

def plain : Scan Unit := do
  saveKey
  allowKey false
  unrollOneColumns
  let s ← get
  let indent := s.indent + 1
  let start := s.cursor.mark
  if 0 < s.flowLevel && start.column < indent then
    failHere "a line inside brackets is indented too little"
  let text ← plainText start indent s.cursor.bound ⟨[], false, false, 0⟩ []
  if (← cursor).lineStart then allowKey true
  if text.isEmpty then fail start "a plain scalar is empty"
  push start (.scalar true (String.ofList text.reverse))

end ShareCheck.Yaml.Scan
