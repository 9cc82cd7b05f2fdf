import ShareCheck.Yaml.Tree
import ShareCheck.Yaml11.Tokens

set_option autoImplicit false

namespace ShareCheck.Yaml11

open Yaml

inductive Node
  | scalar (tag : Option String) (plain : Bool) (text : String)
  | sequence (tag : Option String) (items : List Node)
  | mapping (tag : Option String) (entries : List (Node × Node))
  | alias (anchor : Nat)
deriving Repr, Inhabited

def Node.empty : Node := .scalar none true ""

structure Document where
  root : Node
  /-- What anchors mark, by their numbers. Of two nodes with one number the first counts. -/
  anchored : List (Nat × Node)
deriving Repr, Inhabited

/-- An anchor's number is how many other names there were before it. When a name is used again, the
next new name gets its number too; then both stand for the node that begins last. -/
structure Parser where
  tokens : List Placed
  names : List (String × Nat)
  begun : Nat
  owners : List (Nat × Nat)
  nodes : List (Nat × Node)
  directives : List (String × String)

abbrev Parse := StateT Parser (Except SyntaxError)

namespace Parse

def peek : Parse Placed := return (← get).tokens.headD ⟨.streamEnd, ⟨0, 0, 0⟩⟩

def skip : Parse Unit := modify fun s => { s with tokens := s.tokens.tail }

def fail {α : Type} (problem : String) : Parse α := do throw ⟨problem, (← peek).mark⟩

def nextIs (ts : List Token) : Parse Bool := return ts.contains (← peek).token

def accept (t : Token) : Parse Bool := do
  if (← peek).token == t then
    skip
    return true
  else return false

def expect (t : Token) (problem : String) : Parse Unit := do
  if !(← accept t) then fail problem

def register (name : String) : Parse Nat := do
  let s ← get
  let others := s.names.filter fun (other, _) => other != name
  let number := s.names.length
  set { s with
    names := (name, number) :: others
    owners := (number, s.begun) :: s.owners
    begun := s.begun + 1 }
  return s.begun

def complete (owner : Option Nat) (n : Node) : Parse Node := do
  match owner with
  | some k => modify fun s => { s with nodes := (k, n) :: s.nodes }
  | none => pure ()
  return n

def defaultDirectives : List (String × String) := [("!", "!"), ("!!", coreTags)]

def resolveTag (handle suffix : String) : Parse String := do
  if handle.isEmpty then return suffix
  else match ((← get).directives ++ defaultDirectives).lookup handle with
    | some expansion => return expansion ++ suffix
    | none => fail "no directive explains the handle of a tag"

def tag? : Parse (Option String) := do
  match (← peek).token with
  | .tag handle suffix =>
    skip
    return some (← resolveTag handle suffix)
  | _ => return none

def anchor? : Parse (Option String) := do
  match (← peek).token with
  | .anchor name =>
    skip
    return some name
  | _ => return none

def properties : Parse (Option String × Option String) := do
  match ← anchor? with
  | some name => return (some name, ← tag?)
  | none =>
    match ← tag? with
    | some tag => return (← anchor?, some tag)
    | none => return (none, none)

mutual

def node : Nat → (block indentless : Bool) → Parse Node
  | 0, _, _ => fail "nested too deeply"
  | n + 1, block, indentless => do
    match (← peek).token with
    | .alias name =>
      match (← get).names.lookup name with
      | some number =>
        skip
        return .alias number
      | none => fail "an alias names no anchor"
    | _ => pure ()
    let (name, tag) ← properties
    let isBare := name.isNone && tag.isNone
    let owner ← name.mapM register
    match (← peek).token with
    | .scalar plain text =>
      skip
      complete owner (.scalar (tag.filter (· != "!")) plain text)
    | .flowSequenceStart =>
      skip
      complete owner (.sequence tag (← flowItems n true []))
    | .flowMappingStart =>
      skip
      complete owner (.mapping tag (← flowPairs n true []))
    | t =>
      if t == .blockEntry && indentless then
        complete owner (.sequence tag (← indentlessItems n []))
      else if t == .blockSequenceStart && block then
        skip
        complete owner (.sequence tag (← blockItems n []))
      else if t == .blockMappingStart && block then
        skip
        complete owner (.mapping tag (← blockPairs n []))
      else if isBare then fail "a node has no content"
      else complete owner (.scalar tag true "")

def nodeUnless : Nat → List Token → (block indentless : Bool) → Parse Node
  | 0, _, _, _ => fail "nested too deeply"
  | n + 1, stops, block, indentless => do
    if ← nextIs stops then return .empty
    else node n block indentless

def blockItems : Nat → List Node → Parse (List Node)
  | 0, _ => fail "nested too deeply"
  | n + 1, done => do
    if ← accept .blockEnd then return done.reverse
    else
      expect .blockEntry "a list is not continued with '-'"
      let item ← nodeUnless n [.blockEntry, .blockEnd] true false
      blockItems n (item :: done)

def indentlessItems : Nat → List Node → Parse (List Node)
  | 0, _ => fail "nested too deeply"
  | n + 1, done => do
    if ← accept .blockEntry then
      let item ← nodeUnless n [.blockEntry, .key, .value, .blockEnd] true false
      indentlessItems n (item :: done)
    else return done.reverse

def valueUnless : Nat → List Token → (block : Bool) → Parse Node
  | 0, _, _ => fail "nested too deeply"
  | n + 1, stops, block => do
    if ← accept .value then nodeUnless n stops block block
    else return .empty

def blockPairs : Nat → List (Node × Node) → Parse (List (Node × Node))
  | 0, _ => fail "nested too deeply"
  | n + 1, done => do
    if ← accept .blockEnd then return done.reverse
    else
      expect .key "a mapping is not continued with a key"
      let stops := [.key, .value, .blockEnd]
      let key ← nodeUnless n stops true true
      let value ← valueUnless n stops true
      blockPairs n ((key, value) :: done)

/-- A pair in a list is a mapping of its own. One that lacks its key loses the token after its
mark. -/
def flowItems : Nat → (first : Bool) → List Node → Parse (List Node)
  | 0, _, _ => fail "nested too deeply"
  | n + 1, first, done => do
    if ← accept .flowSequenceEnd then return done.reverse
    else
      if !first then expect .flowEntry "a list in brackets is not continued"
      if ← accept .flowSequenceEnd then return done.reverse
      else if ← accept .key then
        let key ←
          if ← nextIs [.value, .flowEntry, .flowSequenceEnd] then
            skip
            pure .empty
          else node n false false
        let value ← valueUnless n [.flowEntry, .flowSequenceEnd] false
        flowItems n false (.mapping none [(key, value)] :: done)
      else
        let item ← node n false false
        flowItems n false (item :: done)

def flowPairs : Nat → (first : Bool) → List (Node × Node) → Parse (List (Node × Node))
  | 0, _, _ => fail "nested too deeply"
  | n + 1, first, done => do
    if ← accept .flowMappingEnd then return done.reverse
    else
      if !first then expect .flowEntry "a mapping in braces is not continued"
      if ← accept .flowMappingEnd then return done.reverse
      else if ← accept .key then
        let stops := [.value, .flowEntry, .flowMappingEnd]
        let key ← nodeUnless n stops false false
        let value ← valueUnless n stops.tail false
        flowPairs n false ((key, value) :: done)
      else
        let key ← node n false false
        flowPairs n false ((key, .empty) :: done)

end

def readDirectives : Nat → (version : Bool) → Parse Unit
  | 0, _ => pure ()
  | n + 1, version => do
    match (← peek).token with
    | .versionDirective =>
      if version then fail "the version is declared twice"
      skip
      readDirectives n true
    | .tagDirective handle expansion =>
      if ((← get).directives.lookup handle).isSome then fail "a handle is declared twice"
      modify fun s => { s with directives := (handle, expansion) :: s.directives }
      skip
      readDirectives n version
    | _ => pure ()

def skipDocumentEnds : Nat → Parse Unit
  | 0 => pure ()
  | n + 1 => do if ← accept .documentEnd then skipDocumentEnds n

def isDirective : Token → Bool
  | .versionDirective | .tagDirective _ _ => true
  | _ => false

def markedDocument (bound : Nat) : Parse Node := do
  readDirectives bound false
  expect .documentStart "a document does not begin with a mark"
  let t := (← peek).token
  if isDirective t || [.documentStart, .documentEnd, .streamEnd].contains t then return .empty
  else node bound true false

def finish (root : Node) : Parse Document := do
  -- Names of anchors and of handles hold within one document.
  let s ← get
  set { s with names := [], begun := 0, owners := [], nodes := [], directives := [] }
  let _ ← accept .documentEnd
  return ⟨root, s.owners.filterMap fun (number, k) => (s.nodes.lookup k).map (number, ·)⟩

def documents (bound : Nat) : Nat → (first : Bool) → List Document → Parse (List Document)
  -- Only the first document may begin without a mark.
  | 0, _, done => return done.reverse
  | n + 1, first, done => do
    if !first then skipDocumentEnds bound
    let t := (← peek).token
    if t == .streamEnd then return done.reverse
    else
      let root ←
        if first && !isDirective t && t != .documentStart then node bound true false
        else markedDocument bound
      documents bound n false ((← finish root) :: done)

end Parse

def documents (text : String) : Except SyntaxError (List Document) := do
  let placed ← tokens text
  let bound := 4 * placed.length + 4
  return (← (Parse.documents bound bound true []).run ⟨placed, [], 0, [], [], []⟩).1

end ShareCheck.Yaml11
