import ShareCheck.Yaml.Scan

set_option autoImplicit false

namespace ShareCheck.Yaml.Scan

def escapes : List (Char × Char) := [
    ('0', '\x00'), ('a', '\x07'), ('b', '\x08'), ('t', '\t'), ('\t', '\t'), ('n', '\n'),
    ('v', '\x0b'), ('f', '\x0c'), ('r', '\r'), ('e', '\x1b'), (' ', ' '), ('\x22', '\x22'),
    ('/', '/'), ('\\', '\\'), ('N', '\u0085'), ('_', '\u00a0'), ('L', '\u2028'), ('P', '\u2029')]

def numericEscapes : List (Char × Nat) := [('x', 2), ('u', 4), ('U', 8)]

def scalarValue? (n : Nat) : Option Char :=
  if n < 0xd800 || (0xdfff < n && n < 0x110000) then some (Char.ofNat n) else none

def escape (start : Mark) : Scan Char := do
  let name := (← cursor).peekAt 1
  match escapes.lookup name, numericEscapes.lookup name with
  | some c, _ =>
    skip 2
    return c
  | none, some digits =>
    skip 2
    let cs := ((← cursor).rest.take digits).map hexValue?
    if cs.length < digits || cs.contains none then
      fail start "an escape lacks hexadecimal digits"
    let n := cs.foldl (fun n d => 16 * n + d.getD 0) 0
    match scalarValue? n with
    | none =>
      fail start "an escape stands for no character"
    | some c =>
      skip digits
      return c
  | none, none => fail start "an escape is unknown"

def quotedWord (start : Mark) (single : Bool) : Nat → List Char → Scan (List Char × Bool)
  | 0, text => return (text, false)
  | n + 1, text => do
    let c ← cursor
    let x := c.peek
    if isSpaceOrEnd x then return (text, false)
    else if single && x == '\x27' then
      if c.peekAt 1 == '\x27' then
        skip 2
        quotedWord start single n ('\x27' :: text)
      else return (text, false)
    else if !single && x == '\x22' then return (text, false)
    else if !single && x == '\\' then
      if isBreak (c.peekAt 1) then
        setCursor c.next.lineBreak
        return (text, true)
      else quotedWord start single n ((← escape start) :: text)
    else
      skip 1
      quotedWord start single n (x :: text)

/-- White space between words: what stands before the first line break, whether there was one, and
how many came after it. -/
structure Gap where
  blanks : List Char
  folded : Bool
  first : Bool
  more : Nat

def Gap.text (g : Gap) : List Char :=
  if !g.folded then g.blanks
  else if !g.first then List.replicate g.more '\n'
  else if g.more == 0 then [' ']
  else List.replicate g.more '\n'

def quotedGap : Nat → Gap → Scan Gap
  | 0, g => return g
  | n + 1, g => do
    let s ← get
    let c := s.cursor
    let x := c.peek
    if isSpace x then
      if g.folded && x == '\t' && c.mark.column < s.indent then
        failHere "a tab indents a line in quotes"
      setCursor c.space
      quotedGap n (if g.folded then g else { g with blanks := x :: g.blanks })
    else if isBreak x then
      setCursor c.lineBreak
      quotedGap n
        (if g.folded then { g with more := g.more + 1 }
          else { g with blanks := [], folded := true, first := true })
    else return g

def quotedText (start : Mark) (single : Bool) : Nat → List Char → Scan (List Char)
  | 0, text => return text
  | n + 1, text => do
    let s ← get
    let c := s.cursor
    if c.atDocumentMark then
      fail start "a document ends inside quotes"
    if isEnd c.peek then
      fail start "the text ends inside quotes"
    if c.mark.column < s.indent then fail start "a line in quotes is indented too little"
    let (text, folded) ← quotedWord start single c.bound text
    let x ← peek
    if x == (if single then '\x27' else '\x22') then return text
    else
      let g ← quotedGap c.bound ⟨[], folded, false, 0⟩
      quotedText start single n (g.text ++ text)

def quoted (single : Bool) : Scan Unit := do
  -- The closing quote is followed by the end of the line, by what ends an entry in brackets, or by
  -- the colon of a key.
  saveKey
  allowKey false
  let start ← mark
  skip 1
  let text ← quotedText start single (← cursor).bound []
  skip 1
  let _ ← lineRest true
  let s ← get
  let x := s.cursor.peek
  let inFlow := 0 < s.flowLevel
  unless isBreakOrEnd x || (inFlow && [',', '}', ']', ':'].contains x) ||
      (x == ':' && start.line == s.cursor.mark.line) do
    failHere "text follows a closing quote"
  toNextToken
  modify fun s => { s with adjacentValueAt := s.cursor.mark.index }
  push start (.scalar false (String.ofList text.reverse))

end ShareCheck.Yaml.Scan
