set_option autoImplicit false

namespace ShareCheck.Yaml

structure Mark where
  index : Nat
  line : Nat
  column : Nat
deriving DecidableEq, Repr, Inhabited

structure SyntaxError where
  problem : String
  mark : Mark
deriving DecidableEq, Repr

def SyntaxError.message (e : SyntaxError) : String :=
  e.problem ++ s!" at line {e.mark.line + 1} column {e.mark.column + 1}"

inductive Token
  | versionDirective
  | tagDirective (handle expansion : String)
  | documentStart
  | documentEnd
  | streamEnd
  | blockSequenceStart
  | blockMappingStart
  | blockEnd
  | flowSequenceStart
  | flowSequenceEnd
  | flowMappingStart
  | flowMappingEnd
  | blockEntry
  | flowEntry
  | key
  | value
  | alias (name : String)
  | anchor (name : String)
  | tag (handle suffix : String)
  | scalar (plain : Bool) (text : String)
deriving DecidableEq, Repr, Inhabited

structure Placed where
  token : Token
  mark : Mark
deriving DecidableEq, Repr, Inhabited

end ShareCheck.Yaml
