import ShareCheck.Yaml.Cursor

set_option autoImplicit false

namespace ShareCheck.Yaml11

open Yaml

def isAllowed (c : Char) : Bool :=
  ['\t', '\n', '\r', '\u0085'].contains c || (' ' ≤ c && c ≤ '~') ||
    ('\u00a0' ≤ c && c ≤ '\ufffd' && c != '\ufeff') || 0x10000 ≤ c.toNat

def isSeparator (c : Char) : Bool := c == '\u2028' || c == '\u2029'

def isLineBreak (c : Char) : Bool := isBreak c || c == '\u0085' || isSeparator c

def isLineEnd (c : Char) : Bool := isLineBreak c || isEnd c

def isGap (c : Char) : Bool := isSpace c || isLineBreak c

def isGapOrEnd (c : Char) : Bool := isSpace c || isLineEnd c

def breakText (c : Cursor) : List Char :=
  if isSeparator c.peek then [c.peek] else if isLineBreak c.peek then ['\n'] else []

def passBreak (c : Cursor) : Cursor :=
  if c.peek == '\r' && c.peekAt 1 == '\n' then c.space.newLine
  else if isLineBreak c.peek then c.newLine
  else c

def passLine (c : Cursor) : Cursor := c.nextBy (c.rest.takeWhile (!isLineEnd ·)).length

def atDocumentMark (mark : Char) (c : Cursor) : Bool :=
  c.mark.column == 0 && [mark, mark, mark].isPrefixOf c.rest && isGapOrEnd (c.peekAt 3)

def atAnyDocumentMark (c : Cursor) : Bool := atDocumentMark '-' c || atDocumentMark '.' c

def passLineRest (c : Cursor) : Cursor :=
  let c := c.spaces
  if c.peek == '#' then passLine c else c

end ShareCheck.Yaml11
