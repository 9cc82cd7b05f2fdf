import ShareCheck.Number.Binary64
import ShareCheck.Text.Utf8
import ShareCheck.Yaml.Scan.Property
import ShareCheck.Yaml11.Scan

set_option autoImplicit false

namespace ShareCheck.Yaml11.Scan

open Yaml

def isUriChar (c : Char) : Bool := isWord c || ";/?:@&=+$.%!~*\x27()".toList.contains c

def isWholeUriChar (c : Char) : Bool := isUriChar c || [',', '[', ']'].contains c

def escapedByte : Scan UInt8 := do
  let c ← cursor
  match c.peek, hexValue? (c.peekAt 1), hexValue? (c.peekAt 2) with
  | '%', some high, some low =>
    skip 3
    return .ofNat (16 * high + low)
  | _, _, _ => fail "a tag has an escape without two hexadecimal digits"

def escapedRest : Nat → Scan Text.Bytes
  | 0 => return []
  | n + 1 => do
    let byte ← escapedByte
    if byte / 64 != 2 then fail "a tag has an escape that continues no character"
    return byte :: (← escapedRest n)

def uriEscape : Scan (List Char) := do
  let lead ← escapedByte
  match Yaml.Scan.escapedWidth? lead.toNat with
  | none => fail "a tag has an escape that begins no character"
  | some width => return Text.decodeLossy (lead :: (← escapedRest (width - 1)))

def uriText (accept : Char → Bool) : Nat → List Char → Scan String
  | 0, text => return String.ofList text.reverse
  | n + 1, text => do
    let x ← peek
    if !accept x then return String.ofList text.reverse
    else if x == '%' then uriText accept n ((← uriEscape).reverse ++ text)
    else
      skip 1
      uriText accept n (x :: text)

def uri (accept : Char → Bool) : Scan String := do uriText accept (← cursor).bound []

def someUri (accept : Char → Bool) : Scan String := do
  let text ← uri accept
  if text.isEmpty then fail "a tag has no address"
  return text

def tagHandle : Scan String := do
  if (← peek) != '!' then fail "a tag lacks its '!'"
  skip 1
  let name ← take isWord
  if (← peek) == '!' then
    skip 1
    return "!" ++ name ++ "!"
  else return "!" ++ name

def tagParts : Scan (String × String) := do
  -- A name without an exclamation mark behind it is not a handle but the start of a suffix.
  if (← cursor).peekAt 1 == '<' then
    skip 2
    let text ← someUri isWholeUriChar
    if (← peek) != '>' then fail "a tag lacks its '>'"
    skip 1
    return ("", text)
  else
    let handle ← tagHandle
    if Yaml.Scan.isNamedHandle handle then return (handle, ← someUri isUriChar)
    else
      let suffix := String.ofList (handle.toList.drop 1) ++ (← uri isUriChar)
      return if suffix.isEmpty then ("", "!") else ("!", suffix)

def tag : Scan Unit := do
  saveKey
  allowKey false
  let start ← mark
  let (handle, suffix) ← tagParts
  let s ← get
  let x := s.cursor.peek
  unless isGapOrEnd x || (0 < s.flowLevel && x == ',') do
    fail "a tag is not set off by white space"
  push start (.tag handle suffix)

def anchor (isAlias : Bool) : Scan Unit := do
  saveKey
  allowKey false
  let start ← mark
  skip 1
  let name ← take isWord
  let x ← peek
  unless !name.isEmpty && (isGapOrEnd x || "?:,]\x7d%@\x60".toList.contains x) do
    fail "an anchor or alias has no name, or another character in its name"
  push start (if isAlias then .alias name else .anchor name)

def versionNumber : Scan Nat := do
  let digits ← take Char.isDigit
  if digits.isEmpty then fail "a version number is missing"
  if 9 < digits.length then fail "a version number is too long"
  return Number.Decimal.digitsValue digits.toList

def version : Scan Token := do
  let major ← versionNumber
  if (← peek) != '.' then fail "a version lacks its '.'"
  skip 1
  let minor ← versionNumber
  if major != 1 || (minor != 1 && minor != 2) then fail "a version is not 1.1 or 1.2"
  return .versionDirective

def tagExpansion : Scan Token := do
  let handle ← tagHandle
  if handle != "!" && !Yaml.Scan.isNamedHandle handle then
    fail "the name in a tag directive does not end with '!'"
  if !isSpace (← peek) then fail "a handle is not set off by white space"
  setCursor (← cursor).spaces
  let text ← someUri isWholeUriChar
  if !isGapOrEnd (← peek) then fail "a tag directive is not set off by white space"
  return .tagDirective handle text

def directiveValue (name : String) : Scan Token := do
  -- There are no directives but these two.
  setCursor (← cursor).spaces
  if name == "YAML" then version
  else if name == "TAG" then tagExpansion
  else fail "a directive is unknown"

def directive : Scan Unit := do
  unrollIndent (-1)
  removeKey
  allowKey false
  let start ← mark
  skip 1
  let name ← take isWord
  if name.isEmpty || !isGapOrEnd (← peek) then
    fail "a directive has no name, or another character in its name"
  let t ← directiveValue name
  setCursor (passLineRest (← cursor))
  if !isLineEnd (← peek) then fail "text follows a directive"
  setCursor (passBreak (← cursor))
  push start t

end ShareCheck.Yaml11.Scan
