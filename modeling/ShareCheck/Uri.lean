set_option autoImplicit false

namespace ShareCheck

structure Uri where
  scheme : Option String
  authority : String
  path : String
  query : Option String
deriving DecidableEq, Repr, Inhabited

inductive UriError
  | empty
  | tooLong
  | schemeTooLong
  | character
  | authority
  | form
deriving DecidableEq, Repr

def UriError.message : UriError → String
  | empty => "empty string"
  | tooLong => "uri too long"
  | schemeTooLong => "scheme too long"
  | character => "invalid uri character"
  | authority => "invalid authority"
  | form => "invalid format"

namespace Uri

def limit : Nat := 0xfffe

def schemeLimit : Nat := 64

def isSchemeChar (c : Char) : Bool := c.isAlphanum || "+-.~".toList.contains c

def isAuthorityChar (c : Char) : Bool :=
  c.isAlphanum || "!$&\x27()*+,-.:;=@[]_~".toList.contains c

def isPathChar (c : Char) : Bool :=
  -- Quotes and braces stand for themselves in a path, which is not so in theory.
  '\x7f' < c || ('!' ≤ c && c < '\x7f' && !"#<>?\x60".toList.contains c)

def isQueryChar (c : Char) : Bool :=
  '\x7f' < c || ('!' ≤ c && c < '\x7f' && !"\x22#<>".toList.contains c)

def readPath (s : List Char) : Except UriError (String × Option String) :=
  let visible := s.takeWhile (· != '#')
  let path := visible.takeWhile (· != '?')
  let query := (visible.drop path.length).drop 1
  if path.all isPathChar && query.all isQueryChar then
    .ok (String.ofList path,
      if path.length < visible.length then some (String.ofList query) else none)
  else .error .character

/-- What the characters of an authority so far have shown. Colons and percent signs count since the
last bracket or at sign. -/
structure Authority where
  colons : Nat
  opened : Bool
  closed : Bool
  percent : Bool
  endsWithAt : Bool

namespace Authority

def start : Authority := ⟨0, false, false, false, false⟩

def step (a : Authority) (c : Char) : Except UriError Authority :=
  if c == ':' then
    if 8 ≤ a.colons then .error .authority
    else .ok { a with colons := a.colons + 1, endsWithAt := false }
  else if c == '[' then
    if a.percent || a.opened then .error .authority
    else .ok { a with opened := true, endsWithAt := false }
  else if c == ']' then
    if !a.opened || a.closed then .error .authority
    else .ok { a with closed := true, colons := 0, percent := false, endsWithAt := false }
  else if c == '@' then .ok { a with colons := 0, percent := false, endsWithAt := true }
  else if c == '%' then .ok { a with percent := true, endsWithAt := false }
  else if isAuthorityChar c then .ok { a with endsWithAt := false }
  else .error .character

def isComplete (a : Authority) : Bool :=
  -- At most one colon is left for the port, and percent signs only stand before an at sign.
  a.opened == a.closed && a.colons ≤ 1 && !a.endsWithAt && !a.percent

end Authority

def readAuthority (s : List Char) : Except UriError (List Char) := do
  let taken := s.takeWhile fun c => !(['/', '?', '#'].contains c)
  if (← taken.foldlM Authority.step .start).isComplete then return taken
  else throw .authority

def begins (word : String) (s : List Char) : Bool :=
  (s.take word.length).map Char.toLower == word.toList

def readScheme (s : List Char) : Except UriError (Option String × List Char) :=
  if begins "http://" s then .ok (some "http", s.drop 7)
  else if begins "https://" s then .ok (some "https", s.drop 8)
  else
    let name := s.takeWhile isSchemeChar
    let rest := s.drop name.length
    if [':', '/', '/'].isPrefixOf rest && 3 < s.length then
      if schemeLimit < name.length then .error .schemeTooLong
      else .ok (some (String.ofList name), rest.drop 3)
    else .ok (none, s)

def parse (text : String) : Except UriError Uri :=
  let s := text.toList
  if limit < text.utf8ByteSize then .error .tooLong
  else if s.isEmpty then .error .empty
  else if s == ['*'] then .ok ⟨none, "", "*", none⟩
  else if s.head? == some '/' then do
    let (path, query) ← readPath s
    return ⟨none, "", path, query⟩
  else do
    let (scheme, s) ← readScheme s
    let authority ← readAuthority s
    let rest := s.drop authority.length
    match scheme with
    | none =>
      if rest.isEmpty then return ⟨none, String.ofList authority, "", none⟩
      else throw .form
    | some scheme =>
      if authority.isEmpty then throw .form
      else
        let (path, query) ← readPath rest
        return ⟨some scheme, String.ofList authority, path, query⟩

def text (u : Uri) : String :=
  -- An address with a scheme has a path.
  (u.scheme.elim "" (· ++ "://")) ++ u.authority ++
    (if u.path.isEmpty && u.scheme.isSome then "/" else u.path) ++ u.query.elim "" ("?" ++ ·)

end Uri

end ShareCheck
