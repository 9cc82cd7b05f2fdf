import ShareCheck.Text.Casing
import ShareCheck.Text.Search

set_option autoImplicit false

namespace ShareCheck

structure ResourceType where
  group : String
  version : String
  apiVersion : String
  kind : String
  plural : String
deriving DecidableEq, Repr, Inhabited

def splitApiVersion (apiVersion : String) : String × String :=
  -- The group and the version; what has no slash is a version of the core group.
  match Text.splitOnce '/' apiVersion.toList with
  | some (group, version) => (String.ofList group, String.ofList version)
  | none => ("", apiVersion)

def pluralChars (kind : List Char) : List Char :=
  let name := Text.lower kind
  let has (tail : String) := Text.endsWith tail.toList name
  if has "s" || has "ch" || has "sh" then name ++ ['e', 's']
  else if has "y" && !has "ay" && !has "ey" then name.dropLast ++ ['i', 'e', 's']
  else name ++ ['s']

def pluralKind (kind : String) : String := String.ofList (pluralChars kind.toList)

def ResourceType.of (apiVersion kind : String) : ResourceType :=
  let (group, version) := splitApiVersion apiVersion
  ⟨group, version, apiVersion, kind, pluralKind kind⟩

def ResourceType.collectionPath (r : ResourceType) (ns : String) : String :=
  (if r.group == "" then "/api/" else "/apis/") ++ r.apiVersion ++
    "/namespaces/" ++ ns ++ "/" ++ r.plural

def ResourceType.objectPath (r : ResourceType) (ns name : String) : String :=
  r.collectionPath ns ++ "/" ++ name

structure ShareIdentity where
  ns : String
  name : String
deriving DecidableEq, Repr, Inhabited

def ShareIdentity.text (s : ShareIdentity) : String := s.ns ++ "/" ++ s.name

structure ResourceRef where
  apiVersion : String
  kind : String
  ns : String
  name : String
deriving DecidableEq, Repr, Inhabited

structure ResourceIdentity where
  kind : String
  name : String
  uid : String
deriving DecidableEq, Repr, Inhabited

def ResourceIdentity.eventSelector (i : ResourceIdentity) : String :=
  "involvedObject.kind=" ++ i.kind ++ ",involvedObject.name=" ++ i.name ++
    ",involvedObject.uid=" ++ i.uid

end ShareCheck
