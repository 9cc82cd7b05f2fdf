import ShareCheck.Yaml.Scan.Quoted

set_option autoImplicit false

namespace ShareCheck.Yaml.Scan

def take (accept : Char → Bool) : Scan String := do
  let (text, c) := (← cursor).span accept
  setCursor c
  return text

def skipSpaces : Scan Unit := do setCursor (← cursor).spaces

def escapedWidth? (lead : Nat) : Option Nat :=
  if lead < 0x80 then some 1
  else if lead / 32 == 6 then some 2
  else if lead / 16 == 14 then some 3
  else if lead / 8 == 30 then some 4
  else none

def escapedByte (start : Mark) : Scan Nat := do
  let c ← cursor
  match c.peek, hexValue? (c.peekAt 1), hexValue? (c.peekAt 2) with
  | '%', some high, some low =>
    skip 3
    return 16 * high + low
  | _, _, _ => fail start "a tag has an escape without two hexadecimal digits"

def escapedRest (start : Mark) : Nat → Nat → Scan Nat
  -- The bytes after the first are put behind it eight bits at a time.
  | 0, code => return code
  | n + 1, code => do
    let byte ← escapedByte start
    if byte / 64 != 2 then
      fail start "a tag has an escape that continues no character"
    escapedRest start n ((code * 256 + byte) % Nat.pow 2 32)

def uriEscape (start : Mark) : Scan Char := do
  let lead ← escapedByte start
  match escapedWidth? lead with
  | none => fail start "a tag has an escape that begins no character"
  | some width =>
    match scalarValue? (← escapedRest start (width - 1) lead) with
    | some c => return c
    | none => fail start "a tag has an escape for no character"

def uriText (start : Mark) (accept : Char → Bool) : Nat → List Char → Scan (List Char)
  | 0, text => return text
  | n + 1, text => do
    let x ← peek
    if !accept x then return text
    else if x == '%' then uriText start accept n ((← uriEscape start) :: text)
    else
      skip 1
      uriText start accept n (x :: text)

def uri (start : Mark) (accept : Char → Bool) : Scan String := do
  let text ← uriText start accept (← cursor).bound []
  return String.ofList text.reverse

def tagHandle (start : Mark) (directive : Bool) : Scan String := do
  if (← peek) != '!' then fail start "a tag lacks its '!'"
  skip 1
  let name ← take isWord
  if (← peek) == '!' then
    skip 1
    return "!" ++ name ++ "!"
  else if directive && !name.isEmpty then
    fail start "the name in a tag directive does not end with '!'"
  else return "!" ++ name

def tagExpansion (start : Mark) : Scan String := do
  let x ← peek
  if x == '!' then
    skip 1
    return "!" ++ (← uri start isUriChar)
  else if !isTagChar x then fail start "a tag directive has no address"
  else uri start isUriChar

def isNamedHandle (handle : String) : Bool :=
  2 ≤ handle.utf8ByteSize && handle.toList.head? == some '!' && handle.toList.getLast? == some '!'

def tagSuffix (start : Mark) (head : String) : Scan String := do
  let text ← uriText start isTagChar (← cursor).bound []
  if head.isEmpty && text.isEmpty then
    fail start "a tag is empty"
  return String.ofList (head.toList.drop 1 ++ text.reverse)

def verbatimTag (start : Mark) : Scan String := do
  skip 2
  let text ← uri start isUriChar
  if (← peek) != '>' then
    fail start "a tag lacks its '>'"
  skip 1
  return text

def tag : Scan Unit := do
  saveKey
  allowKey false
  let start ← mark
  let (handle, suffix) ←
    if (← cursor).peekAt 1 == '<' then
      pure ("", ← verbatimTag start)
    else do
      let handle ← tagHandle start false
      if isNamedHandle handle then
        pure (handle, ← tagSuffix start "")
      else
        let suffix ← tagSuffix start handle
        pure (if suffix.isEmpty then ("", "!") else ("!", suffix))
  let s ← get
  let x := s.cursor.peek
  if isSpaceOrEnd x || (0 < s.flowLevel && isFlow x) then push start (.tag handle suffix)
  else fail start "a tag is not set off by white space"

def anchor (isAlias : Bool) : Scan Unit := do
  saveKey
  allowKey false
  let start ← mark
  skip 1
  let name ← take isAnchorChar
  if name.isEmpty then
    fail start "an anchor or alias has no name"
  push start (if isAlias then .alias name else .anchor name)

def versionNumber (start : Mark) : Scan Unit := do
  let digits ← take Char.isDigit
  if 9 < digits.length then
    fail start "a version number is too long"
  if digits.isEmpty then
    fail start "a version number is missing"

def directiveValue (start : Mark) (name : String) : Scan Token := do
  if name == "YAML" then
    skipSpaces
    versionNumber start
    if (← peek) != '.' then
      fail start "a version lacks its '.'"
    skip 1
    versionNumber start
    return .versionDirective
  else if name == "TAG" then
    skipSpaces
    let handle ← tagHandle start true
    skipSpaces
    let expansion ← tagExpansion start
    if !isSpaceOrEnd (← peek) then
      fail start "a tag directive is not set off by white space"
    return .tagDirective handle expansion
  else
    setCursor (← cursor).comment
    return .tagDirective "" ""

def directive : Scan Unit := do
  -- Directives of other names are passed over.
  unrollIndent (-1)
  removeKey
  allowKey false
  let start ← mark
  skip 1
  let name ← take isWord
  if name.isEmpty then
    fail start "a directive has no name"
  if !isSpaceOrEnd (← peek) then
    fail start "a directive has another character in its name"
  let t ← directiveValue start name
  let _ ← lineRest true
  if !isBreakOrEnd (← peek) then
    fail start "text follows a directive"
  setCursor (← cursor).lineBreak
  push start t

end ShareCheck.Yaml.Scan
