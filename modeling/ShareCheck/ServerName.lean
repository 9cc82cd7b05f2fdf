import ShareCheck.Number.Binary64
import ShareCheck.Text.Search

set_option autoImplicit false

namespace ShareCheck.ServerName

def isLetter (c : Char) : Bool := c.isAlpha || c == '_'

def isLabel (label : List Char) : Bool :=
  !label.isEmpty && label.length ≤ 63 && label.all (fun c => isLetter c || c.isDigit || c == '-') &&
    label.head? != some '-' && label.getLast? != some '-'

def isDomainName (name : List Char) : Bool :=
  -- The last label is not a number. A dot may end a name, unless a number is before it.
  let labels := name.splitOn '.'
  let labels := if labels.getLast? == some [] then labels.dropLast else labels
  name.length ≤ 253 && !labels.isEmpty && labels.all isLabel &&
    !(labels.getLast?.getD []).all Char.isDigit

def isOctet (cs : List Char) : Bool :=
  !cs.isEmpty && cs.length ≤ 3 && cs.all Char.isDigit &&
    Number.Decimal.digitsValue cs ≤ 255 &&
    (cs.length == 1 || cs.head? != some '0')

def isVersion4 (address : List Char) : Bool :=
  let octets := address.splitOn '.'
  octets.length == 4 && octets.all isOctet

def isHexDigit (c : Char) : Bool :=
  c.isDigit || ('a' ≤ c && c ≤ 'f') || ('A' ≤ c && c ≤ 'F')

def isGroup (cs : List Char) : Bool := !cs.isEmpty && cs.length ≤ 4 && cs.all isHexDigit

def groups? (mayEndShort : Bool) (cs : List Char) : Option Nat :=
  if cs.isEmpty then some 0
  else
    let parts := cs.splitOn ':'
    if parts.all isGroup then some parts.length
    else if mayEndShort && parts.dropLast.all isGroup && isVersion4 (parts.getLast?.getD []) then
      some (parts.length + 1)
    else none

def isVersion6 (address : List Char) : Bool :=
  let head := Text.before [':', ':'] address
  if head.length == address.length then groups? true address == some 8
  else
    match groups? false head, groups? true (address.drop (head.length + 2)) with
    | some n, some m => n + m ≤ 7
    | _, _ => false

def isValid (name : String) : Bool :=
  let cs := name.toList
  isDomainName cs || isVersion4 cs || isVersion6 cs

end ShareCheck.ServerName
