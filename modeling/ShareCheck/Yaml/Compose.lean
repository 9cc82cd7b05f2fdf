import ShareCheck.Yaml.Scan.Structure
import ShareCheck.Yaml.Tree

set_option autoImplicit false

namespace ShareCheck.Yaml

/-- Anchors are numbered as they come. A name stands for the anchor that had it last; an anchor has
a tree only when that tree is complete. -/
structure Composer where
  tokens : List Placed
  names : List (String × Nat)
  trees : List (Nat × Tree)
  nextAnchor : Nat
  directives : List (String × String)

abbrev Compose := StateT Composer (Except SyntaxError)

namespace Compose

def peek : Compose Placed := return (← get).tokens.headD ⟨.streamEnd, ⟨0, 0, 0⟩⟩

def skip : Compose Unit := modify fun s => { s with tokens := s.tokens.tail }

def fail {α : Type} (problem : String) : Compose α := do throw ⟨problem, (← peek).mark⟩

def nextIs (ts : List Token) : Compose Bool := return ts.contains (← peek).token

def accept (t : Token) : Compose Bool := do
  if (← peek).token == t then
    skip
    return true
  else return false

def register (name : String) : Compose Nat := do
  let s ← get
  set { s with names := (name, s.nextAnchor) :: s.names, nextAnchor := s.nextAnchor + 1 }
  return s.nextAnchor

def complete (anchor : Option Nat) (t : Tree) : Compose Tree := do
  match anchor with
  | some id => modify fun s => { s with trees := (id, t) :: s.trees }
  | none => pure ()
  return t

def resolveTag (handle suffix : String) : Compose (String × String) := do
  -- A tag with its handle replaced by what a directive says. Only the two short handles need no
  -- directive.
  let directives := (← get).directives
  if handle == "!!" then
    return ((directives.lookup "!!").getD coreTags, suffix)
  else if handle == "" && suffix == "!" then
    return ((directives.lookup "").getD "", suffix)
  else match directives.lookup handle with
    | some expansion => return (expansion, suffix)
    | none =>
      if Scan.isNamedHandle handle then fail "no directive explains the name in a tag"
      else return (handle, suffix)

def properties : Compose (Option Nat × Option (String × String)) := do
  match (← peek).token with
  | .anchor name =>
    skip
    let id ← register name
    match (← peek).token with
    | .tag handle suffix =>
      skip
      return (some id, some (← resolveTag handle suffix))
    | _ => return (some id, none)
  | .tag handle suffix =>
    skip
    let tag ← resolveTag handle suffix
    match (← peek).token with
    | .anchor name =>
      skip
      return (some (← register name), some tag)
    | _ => return (none, some tag)
  | _ => return (none, none)

def scalar (plain : Bool) (text : String) : Option (String × String) → Tree
  | some (handle, suffix) => if plain then .ofTagged handle suffix text else .text text
  | none => if plain then .ofPlain text else .text text

/-- Pairs keys with values. While the key at hand is bad, the next tree takes its place. -/
def entries : Option Tree → List Tree → List (Tree × Tree) → Compose (List (Tree × Tree))
  | _, [], done => return done.reverse
  | none, t :: rest, done => entries (some t) rest done
  | some .bad, t :: rest, done => entries (some t) rest done
  | some key, t :: rest, done => do
    if done.any fun (k, _) => k.same key then fail "a key stands twice in a mapping"
    entries none rest ((key, t) :: done)

mutual

/-- A node. `block` allows block collections, `indentless` a block sequence that is not indented. -/
def node : Nat → (block indentless : Bool) → Compose Tree
  | 0, _, _ => fail "nested too deeply"
  | n + 1, block, indentless => do
    match (← peek).token with
    | .alias name =>
      match (← get).names.lookup name with
      | some id =>
        skip
        return ((← get).trees.lookup id).getD .bad
      | none => fail "an alias names no anchor"
    | _ => pure ()
    let (anchor, tag) ← properties
    match (← peek).token with
    | .scalar plain text =>
      skip
      complete anchor (scalar plain text tag)
    | .flowSequenceStart =>
      skip
      complete anchor (.sequence (← flowItems n true []))
    | .flowMappingStart =>
      skip
      complete anchor (.mapping (← entries none (← flowPairs n true []) []))
    | t =>
      if t == .blockEntry && indentless then
        complete anchor (.sequence (← indentlessItems n []))
      else if t == .blockSequenceStart && block then
        skip
        complete anchor (.sequence (← blockItems n []))
      else if t == .blockMappingStart && block then
        skip
        complete anchor (.mapping (← entries none (← blockPairs n []) []))
      else if tag.isSome || anchor.isSome then complete anchor (scalar true "" tag)
      else fail "a node has no content"

def nodeUnless : Nat → List Token → (block indentless : Bool) → Compose Tree
  | 0, _, _, _ => fail "nested too deeply"
  | n + 1, stops, block, indentless => do
    if ← nextIs stops then return .null
    else node n block indentless

def blockItems : Nat → List Tree → Compose (List Tree)
  | 0, _ => fail "nested too deeply"
  | n + 1, done => do
    if ← accept .blockEnd then return done.reverse
    else if ← accept .blockEntry then
      let t ← nodeUnless n [.blockEntry, .blockEnd] true false
      blockItems n (t :: done)
    else fail "a list is not continued with '-'"

def indentlessItems : Nat → List Tree → Compose (List Tree)
  | 0, _ => fail "nested too deeply"
  | n + 1, done => do
    if ← accept .blockEntry then
      let t ← nodeUnless n [.blockEntry, .key, .value, .blockEnd] true false
      indentlessItems n (t :: done)
    else return done.reverse

def blockPairs : Nat → List Tree → Compose (List Tree)
  | 0, _ => fail "nested too deeply"
  | n + 1, done => do
    if ← accept .blockEnd then return done.reverse
    else
      let key ←
        if ← accept .key then nodeUnless n [.key, .value, .blockEnd] true true
        else if ← nextIs [.value] then pure .null
        else fail "a mapping is not continued with a key"
      let value ←
        if ← accept .value then nodeUnless n [.key, .value, .blockEnd] true true
        else pure .null
      blockPairs n (value :: key :: done)

def flowValue : Nat → List Token → Compose Tree
  | 0, _ => fail "nested too deeply"
  | n + 1, stops => do
    if ← accept .value then nodeUnless n stops false false
    else return .null

def flowItems : Nat → (first : Bool) → List Tree → Compose (List Tree)
  | 0, _, _ => fail "nested too deeply"
  | n + 1, first, done => do
    if ← accept .flowSequenceEnd then return done.reverse
    else
      if !first then
        if !(← accept .flowEntry) then
          fail "a list in brackets is not continued"
      if ← accept .flowSequenceEnd then return done.reverse
      else if ← accept .key then
        let key ←
          if ← nextIs [.value, .flowEntry, .flowSequenceEnd] then
            skip
            pure .null
          else node n false false
        let value ← flowValue n [.flowEntry, .flowSequenceEnd]
        flowItems n false (.mapping (← entries none [key, value] []) :: done)
      else
        let t ← node n false false
        flowItems n false (t :: done)

def flowPairs : Nat → (first : Bool) → List Tree → Compose (List Tree)
  | 0, _, _ => fail "nested too deeply"
  | n + 1, first, done => do
    if ← accept .flowMappingEnd then return done.reverse
    else
      if !first then
        if !(← accept .flowEntry) then
          fail "a mapping in braces is not continued"
      if ← accept .flowMappingEnd then return done.reverse
      else if ← accept .key then
        let key ← nodeUnless n [.value, .flowEntry, .flowMappingEnd] false false
        let value ← flowValue n [.flowEntry, .flowMappingEnd]
        flowPairs n false (value :: key :: done)
      else if ← nextIs [.value] then
        let value ← flowValue n [.flowEntry, .flowMappingEnd]
        flowPairs n false (value :: .null :: done)
      else
        let key ← node n false false
        flowPairs n false (.null :: key :: done)

end

def readDirectives : Nat → (version : Bool) → Compose Unit
  -- Each directive takes the place of those before it.
  | 0, _ => pure ()
  | n + 1, version => do
    match (← peek).token with
    | .versionDirective =>
      if version then fail "the version is declared twice"
      modify fun s => { s with directives := [] }
      skip
      readDirectives n true
    | .tagDirective handle expansion =>
      modify fun s => { s with directives := [(handle, expansion)] }
      skip
      readDirectives n version
    | _ => pure ()

def skipDocumentEnds : Nat → Compose Unit
  | 0 => pure ()
  | n + 1 => do if ← accept .documentEnd then skipDocumentEnds n

def isDirective : Token → Bool
  | .versionDirective | .tagDirective _ _ => true
  | _ => false

def afterDocumentStart (bound : Nat) : Compose Tree := do
  let t := (← peek).token
  if isDirective t || [.documentStart, .documentEnd, .streamEnd].contains t then return .null
  else node bound true false

def finishDocument : Compose Bool := do
  let ended ← accept .documentEnd
  modify fun s => { s with directives := [] }
  if !ended && isDirective (← peek).token then
    fail "a directive follows a document without an end"
  return ended

def documents (bound : Nat) : Nat → (implicit : Bool) → List Tree → Compose (List Tree)
  -- Names of anchors hold within one document.
  | 0, _, done => return done.reverse
  | n + 1, implicit, done => do
    skipDocumentEnds bound
    let t := (← peek).token
    if t == .streamEnd then return done.reverse
    else
      modify fun s => { s with names := [] }
      let tree ←
        if implicit && !isDirective t && t != .documentStart then node bound true false
        else do
          readDirectives bound false
          if !(← accept .documentStart) then fail "a document does not begin with a mark"
          afterDocumentStart bound
      documents bound n (← finishDocument) (tree :: done)

end Compose

def Tree.documents (text : String) : Except SyntaxError (List Tree) := do
  -- A document that is empty is null.
  let tokens ← Token.ofText text
  let bound := 4 * tokens.length + 4
  let s : Composer := ⟨tokens, [], [], 1, []⟩
  return (← (Compose.documents bound bound true []).run s).1

end ShareCheck.Yaml
