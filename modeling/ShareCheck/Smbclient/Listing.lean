import ShareCheck.Text.Blank
import ShareCheck.Text.Search

set_option autoImplicit false

namespace ShareCheck.Smbclient

def isEntry (line : List Char) : Bool :=
  [' ', ' '].isPrefixOf line && !Text.occurs "blocks of size".toList line

def entryName (line : List Char) : List Char :=
  Text.trimEnd (Text.before [' ', ' '] (Text.trimStart line))

def isFileName (name : List Char) : Bool := name != [] && name != ['.'] && name != ['.', '.']

def entries (output : List Char) : List String :=
  ((((Text.lines output).filter isEntry).map entryName).filter isFileName).map String.ofList

end ShareCheck.Smbclient
