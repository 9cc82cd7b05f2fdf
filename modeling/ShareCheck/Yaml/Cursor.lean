import ShareCheck.Yaml.Token

set_option autoImplicit false

namespace ShareCheck.Yaml

def isEnd (c : Char) : Bool := c == '\x00'

def isBreak (c : Char) : Bool := c == '\n' || c == '\r'

def isBreakOrEnd (c : Char) : Bool := isBreak c || isEnd c

def isSpace (c : Char) : Bool := c == ' ' || c == '\t'

def isSpaceOrEnd (c : Char) : Bool := isSpace c || isBreakOrEnd c

def isWord (c : Char) : Bool := c.isAlphanum || c == '_' || c == '-'

def isFlow (c : Char) : Bool := [',', '[', ']', '{', '}'].contains c

def isAnchorChar (c : Char) : Bool :=
  !isSpaceOrEnd c && !isFlow c && c != '\ufeff'

def isUriChar (c : Char) : Bool :=
  c.isAlphanum || c == '-' || "#;/?:@&=+$,_.!~*\x27()[]%".toList.contains c

def isTagChar (c : Char) : Bool := isUriChar c && !isFlow c && c != '!'

def hexValue? (c : Char) : Option Nat :=
  if c.isDigit then some (c.toNat - '0'.toNat)
  else if 'a' ≤ c && c ≤ 'f' then some (c.toNat - 'a'.toNat + 10)
  else if 'A' ≤ c && c ≤ 'F' then some (c.toNat - 'A'.toNat + 10)
  else none

structure Cursor where
  rest : List Char
  mark : Mark
  lineStart : Bool
  bound : Nat
deriving Repr, Inhabited

namespace Cursor

def ofText (text : String) : Cursor :=
  let rest := text.toList.takeWhile (!isEnd ·)
  ⟨rest, ⟨0, 0, 0⟩, true, rest.length + 2⟩

def peekAt (c : Cursor) (n : Nat) : Char := c.rest.getD n '\x00'

def peek (c : Cursor) : Char := c.rest.headD '\x00'

def space (c : Cursor) : Cursor :=
  { c with rest := c.rest.tail, mark := ⟨c.mark.index + 1, c.mark.line, c.mark.column + 1⟩ }

def next (c : Cursor) : Cursor := { c.space with lineStart := false }

def nextBy (c : Cursor) : Nat → Cursor
  | 0 => c
  | n + 1 => c.next.nextBy n

def newLine (c : Cursor) : Cursor :=
  { c with rest := c.rest.tail, mark := ⟨c.mark.index + 1, c.mark.line + 1, 0⟩, lineStart := true }

def lineBreak (c : Cursor) : Cursor :=
  -- A carriage return and the line feed after it are one break.
  if c.peek == '\r' && c.peekAt 1 == '\n' then c.space.newLine
  else if isBreak c.peek then c.newLine
  else c

def comment (c : Cursor) : Cursor :=
  c.nextBy (c.rest.takeWhile (!isBreakOrEnd ·)).length

def span (c : Cursor) (accept : Char → Bool) : String × Cursor :=
  let taken := c.rest.takeWhile accept
  (String.ofList taken, c.nextBy taken.length)

def spaces (c : Cursor) : Cursor :=
  let n := (c.rest.takeWhile isSpace).length
  { c with
    rest := c.rest.drop n,
    mark := ⟨c.mark.index + n, c.mark.line, c.mark.column + n⟩ }

def atDocumentStart (c : Cursor) : Bool :=
  c.mark.column == 0 && ['-', '-', '-'].isPrefixOf c.rest && isSpaceOrEnd (c.peekAt 3)

def atDocumentEnd (c : Cursor) : Bool :=
  c.mark.column == 0 && ['.', '.', '.'].isPrefixOf c.rest && isSpaceOrEnd (c.peekAt 3)

def atDocumentMark (c : Cursor) : Bool := c.atDocumentStart || c.atDocumentEnd

/-- White space to the end of the line with a comment at its end, and whether it holds tabs and
spaces. A comment has to be set off by white space. -/
def lineRest (c : Cursor) (tabs : Bool) : Except SyntaxError (Cursor × Bool × Bool) :=
  let blank := c.rest.takeWhile fun x => x == ' ' || (tabs && x == '\t')
  let after := if blank.isEmpty then c else
    { c with
      rest := c.rest.drop blank.length,
      mark := ⟨c.mark.index + blank.length, c.mark.line, c.mark.column + blank.length⟩ }
  let found := (blank.contains '\t', blank.contains ' ')
  if after.peek == '#' then
    if blank.isEmpty then
      .error ⟨"a comment is not set off by white space", after.mark⟩
    else .ok (after.comment, found)
  else .ok (after, found)

end Cursor

end ShareCheck.Yaml
