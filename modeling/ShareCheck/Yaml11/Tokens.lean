import ShareCheck.Yaml11.Scan.Block
import ShareCheck.Yaml11.Scan.Property
import ShareCheck.Yaml11.Scan.Quoted

set_option autoImplicit false

namespace ShareCheck.Yaml11

open Yaml

namespace Scan

def pushMark (t : Token) : Scan Unit := do
  let start ← mark
  skip 1
  push start t

def flowStart (t : Token) : Scan Unit := do
  saveKey
  checkDepth
  modify fun s => { s with keys := SimpleKey.none :: s.keys, flowLevel := s.flowLevel + 1 }
  allowKey true
  pushMark t

def flowEnd (t : Token) : Scan Unit := do
  removeKey
  modify fun s =>
    if 0 < s.flowLevel then { s with flowLevel := s.flowLevel - 1, keys := s.keys.tail } else s
  allowKey false
  pushMark t

def flowEntry : Scan Unit := do
  removeKey
  allowKey true
  pushMark .flowEntry

def openBlock (t : Token) : Scan Unit := do
  -- Begins what only may begin where a key may, unless inside of brackets.
  let s ← get
  if s.flowLevel == 0 then
    if !s.keyAllowed then fail "no list item, key or value may begin here"
    rollIndent s.cursor.mark.column none t s.cursor.mark

def blockEntry : Scan Unit := do
  openBlock .blockSequenceStart
  removeKey
  allowKey true
  pushMark .blockEntry

def key : Scan Unit := do
  openBlock .blockMappingStart
  removeKey
  allowKey ((← get).flowLevel == 0)
  pushMark .key

def value : Scan Unit := do
  let s ← get
  let k := s.keys.headD SimpleKey.none
  if k.possible then
    insertAt k.position k.mark .key
    rollIndent k.mark.column (some k.position) .blockMappingStart k.mark
    updateKey fun k => { k with possible := false }
    allowKey false
  else
    openBlock .blockMappingStart
    allowKey (s.flowLevel == 0)
  pushMark .value

def documentMark (t : Token) : Scan Unit := do
  unrollIndent (-1)
  removeKey
  allowKey false
  let start ← mark
  skip 3
  push start t

def streamEnd : Scan Unit := do
  unrollIndent (-1)
  removeKey
  push (← mark) .streamEnd

def structuralMarks : List (Char × Scan Unit) := [
    ('[', flowStart .flowSequenceStart), ('\x7b', flowStart .flowMappingStart),
    (']', flowEnd .flowSequenceEnd), ('\x7d', flowEnd .flowMappingEnd), (',', flowEntry)]

def scalarMarks : List (Char × Scan Unit) := [
    ('*', anchor true), ('&', anchor false), ('!', tag), ('\x27', quoted '\x27'),
    ('\x22', quoted '\x22')]

def beginsPlain (inFlow : Bool) (x y : Char) : Bool :=
  !(isGapOrEnd x || "-?:,[]\x7b\x7d#&*!|>\x27\x22%@\x60".toList.contains x) ||
    (x == '-' && !isSpace y) || (!inFlow && (x == '?' || x == ':') && !isGapOrEnd y)

def step : Scan Bool := do
  toNextToken
  dropStaleKeys
  let c ← cursor
  unrollIndent c.mark.column
  let x := c.peek
  let y := c.peekAt 1
  let inFlow := 0 < (← get).flowLevel
  if isEnd x then
    streamEnd
    return true
  if c.mark.column == 0 && x == '%' then directive
  else if atDocumentMark '-' c then documentMark .documentStart
  else if atDocumentMark '.' c then documentMark .documentEnd
  else if x == '-' && isGapOrEnd y then blockEntry
  else if x == '?' && (inFlow || isGapOrEnd y) then key
  else if x == ':' && (inFlow || isGapOrEnd y) then value
  else if x == '|' && !inFlow then block true
  else if x == '>' && !inFlow then block false
  else match structuralMarks.lookup x <|> scalarMarks.lookup x with
    | some scan => scan
    | none =>
      if beginsPlain inFlow x y then plain
      else fail ("nothing begins with the character " ++ String.singleton x)
  return false

def steps : Nat → Scan Unit
  | 0 => pure ()
  | n + 1 => do if !(← step) then steps n

end Scan

def tokens (text : String) : Except SyntaxError (List Placed) := do
  -- Every step but the last reads at least one character.
  let s := Scanner.start text
  if text.toList.any (!isAllowed ·) then throw ⟨"text has a control character", s.cursor.mark⟩
  let ((), s) ← (Scan.steps s.cursor.bound).run s
  return s.tokens.toList

end ShareCheck.Yaml11
