import ShareCheck.Yaml.Scan.Block
import ShareCheck.Yaml.Scan.Property

set_option autoImplicit false

namespace ShareCheck.Yaml

namespace Scan

def flowStart (t : Token) : Scan Unit := do
  saveKey
  rollOneColumn
  let start ← mark
  if (← get).flowLevel == 255 then failHere "brackets are nested too deeply"
  modify fun s => { s with keys := SimpleKey.none :: s.keys, flowLevel := s.flowLevel + 1 }
  allowKey true
  skip 1
  if t == .flowMappingStart then modify fun s => { s with flowMappingStarted := true }
  let _ ← lineRest true
  push start t

def flowEnd (t : Token) : Scan Unit := do
  -- A closed bracket may be a key, and then its colon needs no white space.
  removeKey
  modify fun s =>
    if 0 < s.flowLevel then { s with flowLevel := s.flowLevel - 1, keys := s.keys.tail } else s
  allowKey false
  let start ← mark
  endPair start
  skip 1
  let _ ← lineRest true
  modify fun s =>
    if 0 < s.flowLevel then { s with adjacentValueAt := s.cursor.mark.index } else s
  push start t

def flowEntry : Scan Unit := do
  removeKey
  allowKey true
  let start ← mark
  endPair start
  skip 1
  let _ ← lineRest true
  push start .flowEntry

def isProperty : Token → Bool
  | .anchor _ | .tag _ _ => true
  | _ => false

def blockEntry : Scan Unit := do
  let s ← get
  let start := s.cursor.mark
  if 0 < s.flowLevel then failHere "no list item may begin inside brackets"
  if !s.keyAllowed then failHere "no list item may begin here"
  match s.tokens.back? with
  | some t =>
    if isProperty t.token && start.column == 0 && t.mark.column == 0 && -1 < s.indent then
      fail t.mark "an anchor stands apart from what it names"
  | none => pure ()
  skip 1
  rollIndent start.column none .blockSequenceStart start
  let (tabs, _) ← lineRest true
  let c ← cursor
  if tabs && c.peek == '-' && isSpaceOrEnd (c.peekAt 1) then
    failHere "a tab after '-' sets off another list item"
  let _ ← lineRest false
  let x ← peek
  if isBreak x || isFlow x then rollOneColumn
  removeKey
  allowKey true
  push (← mark) .blockEntry

def key : Scan Unit := do
  let s ← get
  let start := s.cursor.mark
  if s.flowLevel == 0 then
    if !s.keyAllowed then failHere "no key may begin here"
    rollIndent start.column none .blockMappingStart start
  else set { s with flowMappingStarted := true }
  removeKey
  allowKey (s.flowLevel == 0)
  skip 1
  spacing
  if (← peek) == '\t' then failHere "a tab follows a key mark"
  push start .key

def value : Scan Unit := do
  let s ← get
  let k := s.keys.headD SimpleKey.none
  let start := s.cursor.mark
  let isPair := 0 < s.flowLevel && !s.flowMappingStarted
  set { s with pairOpen := isPair }
  skip 1
  if (← peek) == '\t' then
    let (_, spaced) ← lineRest true
    let x ← peek
    if !spaced && (x == '-' || isWord x) then
      failHere "only a tab follows ':'"
  if k.possible then
    insertAt k.position k.mark .key
    if isPair then
      if k.mark.line < start.line then fail start "':' stands on a later line than its key"
      insertAt k.position k.mark .flowMappingStart
    rollIndent k.mark.column (some k.position) .blockMappingStart start
    rollOneColumn
    updateKey fun k => { k with possible := false }
    allowKey false
  else
    if isPair then push start .flowMappingStart
    if s.flowLevel == 0 then
      if !s.keyAllowed then fail start "no value may stand here"
      rollIndent start.column none .blockMappingStart start
    rollOneColumn
    allowKey (s.flowLevel == 0)
  push start .value

def documentMark (t : Token) : Scan Unit := do
  unrollIndent (-1)
  removeKey
  allowKey false
  let start ← mark
  skip 3
  push start t

def documentEnd : Scan Unit := do
  documentMark .documentEnd
  let _ ← lineRest true
  if !isBreakOrEnd (← peek) then failHere "text follows the end of a document"

def streamEnd : Scan Unit := do
  let s ← get
  if s.keys.any fun k => k.required && k.possible then failHere "a key lacks its ':'"
  unrollIndent (-1)
  push s.cursor.mark .streamEnd

def step : Scan Bool := do
  toNextToken
  dropStaleKeys
  let c ← cursor
  unrollIndent c.mark.column
  let s ← get
  let x := c.peek
  let y := c.peekAt 1
  let spaced := isSpaceOrEnd y
  let inFlow := 0 < s.flowLevel
  if isEnd x then
    streamEnd
    return true
  if c.mark.column == 0 && x == '%' then directive
  else if c.atDocumentStart then documentMark .documentStart
  else if c.atDocumentEnd then documentEnd
  else if c.mark.column < s.indent then failHere "a line is indented too little"
  else if x == '[' then flowStart .flowSequenceStart
  else if x == '\x7b' then flowStart .flowMappingStart
  else if x == ']' then flowEnd .flowSequenceEnd
  else if x == '\x7d' then flowEnd .flowMappingEnd
  else if x == ',' then flowEntry
  else if x == '-' && spaced then blockEntry
  else if x == '?' && spaced then key
  else if x == ':' &&
      (spaced || (inFlow && (isFlow y || c.mark.index == s.adjacentValueAt))) then value
  else if x == '*' then anchor true
  else if x == '&' then anchor false
  else if x == '!' then tag
  else if x == '|' && !inFlow then block true
  else if x == '>' && !inFlow then block false
  else if x == '\x27' then quoted true
  else if x == '\x22' then quoted false
  else if ['%', '@', '\x60'].contains x then
    failHere ("nothing begins with the character " ++ String.singleton x)
  else plain
  return false

def steps : Nat → Scan Unit
  | 0 => pure ()
  | n + 1 => do if !(← step) then steps n

end Scan

def Scanner.start (text : String) : Scanner :=
  { cursor := .ofText text, tokens := #[], adjacentValueAt := 0, keyAllowed := true,
    keys := [SimpleKey.none], indent := -1, indents := [], flowLevel := 0,
    flowMappingStarted := false, pairOpen := false }

def Token.ofText (text : String) : Except SyntaxError (List Placed) := do
  -- Every step but the last reads at least one character.
  let s := Scanner.start text
  let ((), s) ← (Scan.steps s.cursor.bound).run s
  return s.tokens.toList

end ShareCheck.Yaml
