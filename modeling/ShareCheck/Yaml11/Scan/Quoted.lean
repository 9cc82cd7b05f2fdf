import ShareCheck.Yaml.Scan.Quoted
import ShareCheck.Yaml11.Scan.Plain

set_option autoImplicit false

namespace ShareCheck.Yaml11.Scan

open Yaml

def codePoint (digits : Nat) : Scan Char := do
  let cs := ((← cursor).rest.take digits).map hexValue?
  if cs.length < digits || cs.contains none then fail "an escape lacks hexadecimal digits"
  match Yaml.Scan.scalarValue? (cs.foldl (fun n d => 16 * n + d.getD 0) 0) with
  | none => fail "an escape stands for no character"
  | some c =>
    skip digits
    return c

def escape : Scan Char := do
  let name := (← cursor).peekAt 1
  match Yaml.Scan.escapes.lookup name, Yaml.Scan.numericEscapes.lookup name with
  | some c, _ =>
    skip 2
    return c
  | none, some digits =>
    skip 2
    codePoint digits
  | none, none => fail "an escape is unknown"

def quotedWord (quote : Char) : Nat → List Char → Scan (List Char × Bool)
  | 0, text => return (text, false)
  | n + 1, text => do
    let c ← cursor
    let x := c.peek
    let isDouble := quote == '\x22'
    if isGapOrEnd x then return (text, false)
    else if !isDouble && x == quote && c.peekAt 1 == quote then
      skip 2
      quotedWord quote n (quote :: text)
    else if x == quote then return (text, false)
    else if isDouble && x == '\\' && isLineBreak (c.peekAt 1) then
      setCursor (passBreak c.next)
      return (text, true)
    else if isDouble && x == '\\' then quotedWord quote n ((← escape) :: text)
    else
      skip 1
      quotedWord quote n (x :: text)

def quotedText (quote : Char) : Nat → List Char → Scan (List Char)
  | 0, text => return text
  | n + 1, text => do
    let c ← cursor
    if atAnyDocumentMark c then fail "a document ends inside quotes"
    if isEnd c.peek then fail "the text ends inside quotes"
    let (text, folded) ← quotedWord quote c.bound text
    if (← peek) == quote then return text
    let g ← gap (-1) c.bound { folded }
    quotedText quote n (g.text ++ text)

def quoted (quote : Char) : Scan Unit := do
  saveKey
  allowKey false
  let start ← mark
  skip 1
  let text ← quotedText quote (← cursor).bound []
  skip 1
  push start (.scalar false (String.ofList text.reverse))

end ShareCheck.Yaml11.Scan
