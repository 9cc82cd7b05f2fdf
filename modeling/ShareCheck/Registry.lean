import ShareCheck.Scenario
import ShareCheck.Table
import ShareCheck.Text.Quoted

set_option autoImplicit false

namespace ShareCheck

abbrev Registry (σ : Type) : Type := Table (Scenario σ)

namespace Registry

variable {σ : Type}

def register (r : Registry σ) (s : Scenario σ) : Registry σ := r.insert s.name s

def ofList (scenarios : List (Scenario σ)) : Registry σ := scenarios.foldl register Table.empty

def unknown (r : Registry σ) (name : String) : Error :=
  .internal "scenario selection"
    ("unknown scenario " ++ Text.quoted name ++ "; known: " ++ ", ".intercalate r.keys)

def lookup (r : Registry σ) (name : String) : Except Error (Scenario σ) :=
  match r.get? name with
  | some s => .ok s
  | none => .error (r.unknown name)

def select (r : Registry σ) : List String → Except Error (List (Scenario σ))
  -- The scenarios of these names, as often as they are named; without names, all.
  | [] => .ok r.values
  | names => names.mapM r.lookup

def runAll (setting : Scenario.Setting σ) : List (Scenario σ) → Activity σ (List Report)
  | [] => Activity.pure []
  | s :: rest => do
    let report ← s.run setting
    let more ← runAll setting rest
    pure (report :: more)

def run (r : Registry σ) (setting : Scenario.Setting σ) (names : List String) :
    Activity σ (Except Error (List Report)) :=
  -- A selection that names an unknown scenario runs nothing.
  match r.select names with
  | .error e => Activity.pure (.error e)
  | .ok scenarios => do
    let reports ← runAll setting scenarios
    pure (.ok reports)

def defaultNamespace : String := "default"

def localUser : Credential := ⟨"sambauser", "1nsecurely"⟩

def users (c : Config) : Scenario σ where
  name := "users1"
  share := ⟨c.ns, "tshare1"⟩
  shareName := "My Share"
  fixtures := [c.fixture ⟨"userssecret1.yaml"⟩, c.fixture ⟨"smbsecurityconfig1.yaml"⟩,
    c.fixture ⟨"smbshare1.yaml"⟩]
  credentials := [localUser]

def domainMember (c : Config) : Scenario σ where
  name := "domainMember1"
  share := ⟨c.ns, "tshare2"⟩
  shareName := "My Kingdom"
  fixtures := [c.fixture ⟨"joinsecret1.yaml"⟩, c.fixture ⟨"smbsecurityconfig2.yaml"⟩,
    c.fixture ⟨"smbshare2.yaml"⟩]
  credentials := [⟨"DOMAIN1\\bwayne", "1115Rose."⟩]
  steps := Step.base ++ Step.dnsMember

def sharesInDefault (c : Config) : Scenario σ where
  name := "smbSharesInDefault"
  share := ⟨defaultNamespace, "tshare3"⟩
  shareName := "My Other Share"
  fixtures := [c.fixture ⟨"userssecret1.yaml"⟩,
    c.fixtureIn ⟨"smbsecurityconfig1.yaml"⟩ defaultNamespace,
    c.fixtureIn ⟨"smbshare3.yaml"⟩ defaultNamespace]
  credentials := [localUser]

def sharesExternal (c : Config) : Scenario σ where
  name := "smbSharesExternal"
  share := ⟨c.ns, "tshare4"⟩
  shareName := "Since When"
  fixtures := [c.fixture ⟨"userssecret1.yaml"⟩, c.fixture ⟨"commonconfig1.yaml"⟩,
    c.fixture ⟨"smbsecurityconfig1.yaml"⟩, c.fixture ⟨"smbshare4.yaml"⟩]
  credentials := [localUser]
  steps := Step.base ++ Step.externalNetwork

def standard (c : Config) : Registry σ :=
  ofList [users c, domainMember c, sharesInDefault c, sharesExternal c]

end Registry

end ShareCheck
