import ShareCheck.Activity
import ShareCheck.Text.Quoted
import ShareCheck.Text.Utf8

set_option autoImplicit false

namespace ShareCheck

open Text (Bytes)

structure Credential where
  username : String
  password : String
deriving DecidableEq, Repr, Inhabited

def Credential.redacted (c : Credential) : String :=
  "Credential \x7b username: " ++ Text.quoted c.username ++ ", password: \"<redacted>\" \x7d"

structure Target where
  host : String
  share : String
deriving DecidableEq, Repr, Inhabited

def Target.unc (t : Target) : String := "//" ++ t.host ++ "/" ++ t.share

structure ShareClient (σ : Type) where
  list : Target → Credential → Request σ (List String)
  put : Target → Credential → (name : String) → Bytes → Request σ Unit
  get : Target → Credential → (name : String) → Request σ Bytes
  remove : Target → Credential → (name : String) → Request σ Unit

def ShareClient.within {τ σ : Type} (part : Part τ σ) (s : ShareClient σ) : ShareClient τ where
  list t c := (s.list t c).within part
  put t c name contents := (s.put t c name contents).within part
  get t c name := (s.get t c name).within part
  remove t c name := (s.remove t c name).within part

end ShareCheck
