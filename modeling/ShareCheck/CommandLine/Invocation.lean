import ShareCheck.CommandLine.Arguments
import ShareCheck.Config
import ShareCheck.Smbclient.Command

set_option autoImplicit false

namespace ShareCheck.CommandLine

structure RunOptions where
  scenarios : List String := []
  /-- In seconds. -/
  existTimeout : Nat := 10
  readyTimeout : Nat := 60
  /-- In milliseconds. -/
  pollInterval : Nat := 250
  dnsSettleDelay : Nat := 400
  /-- In seconds. -/
  accessTimeout : Nat := 30
  clientBefore : List String := []
deriving DecidableEq, Repr, Inhabited

inductive Command
  | list
  | run (options : RunOptions)
deriving DecidableEq, Repr

structure Invocation where
  logJson : Bool
  ns : String
  fixturesDir : Path
  kubeconfig : Option Path
  clusterDomain : String
  externalDomain : String
  command : Command
deriving DecidableEq, Repr

namespace Options

def help : Opt := { name := "help", short := some 'h', kind := .help }

def version : Opt := { name := "version", short := some 'V', kind := .version }

def logJson : Opt := { name := "log-json", kind := .flag }

def ns : Opt := { name := "namespace", kind := .text, standIn := some "SMBSHARE_E2E_NAMESPACE" }

def fixturesDir : Opt where
  name := "fixtures-dir"
  kind := .path
  standIn := some "SMBSHARE_E2E_FIXTURES_DIR"

def kubeconfig : Opt := { name := "kubeconfig", kind := .path, standIn := some "KUBECONFIG" }

def clusterDomain : Opt := { name := "cluster-domain", kind := .text }

def externalDomain : Opt where
  name := "external-domain"
  kind := .text
  standIn := some "SMBSHARE_E2E_EXTERNAL_DOMAIN"

def everywhere : List Opt :=
  [logJson, ns, fixturesDir, kubeconfig, clusterDomain, externalDomain, help]

def scenario : Opt := { name := "scenario", short := some 's', kind := .texts }

def existTimeout : Opt := { name := "exist-timeout-secs", kind := .number }

def readyTimeout : Opt := { name := "ready-timeout-secs", kind := .number }

def pollInterval : Opt := { name := "poll-interval-ms", kind := .number }

def dnsSettleDelay : Opt := { name := "dns-settle-ms", kind := .number }

def accessTimeout : Opt := { name := "access-timeout-secs", kind := .number }

def clientBefore : Opt where
  name := "smbclient-prefix"
  kind := .words
  standIn := some "SMBSHARE_E2E_SMBCLIENT_PREFIX"

def ofRun : List Opt :=
  [scenario, existTimeout, readyTimeout, pollInterval, dnsSettleDelay, accessTimeout, clientBefore]

end Options

def commandNames : List String := ["list", "run", "help"]

def helpAbout : List String → UsageError
  -- Help about a command, or about none; commands have no commands of their own.
  | [] => .displayHelp
  | [command] => if commandNames.contains command then .displayHelp else .invalidSubcommand
  | _ => .invalidSubcommand

def value (g : Option Given) (default : String) : String := ((g.bind (·.values.head?))).getD default

def natValue (g : Option Given) (default : Nat) : Nat :=
  ((g.bind (·.values.head?)).bind number?).getD default

def runOptions (l : Level) : RunOptions :=
  let d : RunOptions := {}
  { scenarios := ((l.find? Options.scenario).map (·.values)).getD []
    existTimeout := natValue (l.find? Options.existTimeout) d.existTimeout
    readyTimeout := natValue (l.find? Options.readyTimeout) d.readyTimeout
    pollInterval := natValue (l.find? Options.pollInterval) d.pollInterval
    dnsSettleDelay := natValue (l.find? Options.dnsSettleDelay) d.dnsSettleDelay
    accessTimeout := natValue (l.find? Options.accessTimeout) d.accessTimeout
    clientBefore := ((l.find? Options.clientBefore).map (·.values)).getD [] }

def invocation (outer inner : Level) (command : Command) : Invocation :=
  let d : Config := {}
  let get := chosen outer inner
  { logJson := (get Options.logJson).isSome
    ns := value (get Options.ns) d.ns
    fixturesDir := ⟨value (get Options.fixturesDir) d.fixturesDir.text⟩
    kubeconfig := ((get Options.kubeconfig).bind (·.values.head?)).map Path.mk
    clusterDomain := value (get Options.clusterDomain) d.clusterDomain
    externalDomain := value (get Options.externalDomain) d.externalDomain
    command := command }

def readCommand (env : String → Option String) (name : String) (words : List String) :
    Except UsageError (Level × Command) := do
  let options := if name = "run" then Options.everywhere ++ Options.ofRun else Options.everywhere
  let (l, _) ← Level.read options [] false {} words
  let l ← l.finish options env
  pure (l, if name = "run" then .run (runOptions l) else .list)

/-- Reads the words after the program's name. What comes with a command is judged before what comes
ahead of it. -/
def parse (env : String → Option String) (words : List String) : Except UsageError Invocation := do
  let options := Options.everywhere ++ [Options.version]
  let (outer, rest) ← Level.read options commandNames false {} words
  match rest with
  | some ("help", topics) => .error (helpAbout topics)
  | some (name, words) =>
    let (inner, command) ← readCommand env name words
    let outer ← outer.finish options env
    pure (invocation outer inner command)
  | none =>
    let outer ← outer.finish options env
    .error (if outer.given.isEmpty then .displayHelpOnMissing else .missingSubcommand)

def Invocation.config (i : Invocation) : Config :=
  let base : Config :=
    { ns := i.ns
      fixturesDir := i.fixturesDir
      clusterDomain := i.clusterDomain
      externalDomain := i.externalDomain
      kubeconfig := i.kubeconfig }
  match i.command with
  | .list => base
  | .run o =>
    { base with
      existTimeout := 1000 * o.existTimeout
      readyTimeout := 1000 * o.readyTimeout
      pollInterval := o.pollInterval
      dnsSettleDelay := o.dnsSettleDelay
      accessTimeout := 1000 * o.accessTimeout }

def RunOptions.launcher (o : RunOptions) : Smbclient.Launcher :=
  -- Words that are empty stand for nothing.
  { before := o.clientBefore.filter (· != "") }

end ShareCheck.CommandLine
