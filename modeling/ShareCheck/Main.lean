import ShareCheck.Harness

set_option autoImplicit false

namespace ShareCheck.Program

open CommandLine

def readError : IO.Error → ReadError
  | .inappropriateType _ code _ => if code = 20 then .notDirectory else .isDirectory
  | _ => .missing

def readFile (p : Path) : IO (Path × Except ReadError Text.Bytes) := do
  try
    let bytes ← IO.FS.readBinFile p.text
    return (p, .ok bytes.toList)
  catch e => return (p, .error (readError e))

def filesOf (i : Invocation) : List Path :=
  let fixtures := (Registry.standard (σ := StdGen) i.config).values.flatMap (·.fixtures)
  fixtures.map (·.path) ++ i.kubeconfig.toList

def filesBehind (files : Files) (i : Invocation) : List Path :=
  match i.kubeconfig.map (Kubeconfig.read files) with
  | some (.ok (.ok k)) => k.files
  | _ => []

def filesAt (contents : List (Path × Except ReadError Text.Bytes)) : Files := fun p =>
  (contents.lookup p).getD (.error .missing)

/-- It has no clock, so no token counts as still good. -/
def sources (files : Files) : Credentials.Sources where
  files
  program _ := none
  now := ⟨⟨Date.years.2, 12, 31⟩, 0, false⟩

def machine (files : Files) : Harness.Machine StdGen where
  sources := sources files
  server _ := Rest.unreachable "client error (Connect)"
  spawn _ _ _ := fun _ g => (.lands 0 fun g => (.ok (.error "Operation not supported"), g), g)
  suffix g :=
    let (n, g) := randNat g 0 0xffffffff
    (n.toUInt32, g)
  jitter g :=
    let (n, g) := randNat g 500000 1499999
    (.ofRatio false n 1000000, g)

def report (o : Harness.Outcome) : IO UInt32 := do
  for line in o.output do IO.println line
  for line in o.log do IO.eprintln line
  match o.result with
  | .ok () => return 0
  | .error e =>
    IO.eprintln ("Error: " ++ e.message)
    return 1

def execute (i : Invocation) : IO UInt32 := do
  let files ← (filesOf i).mapM readFile
  let more ← (filesBehind (filesAt files) i).mapM readFile
  let seed ← IO.rand 0 0x7fffffff
  match Harness.run (machine (filesAt (files ++ more))) i ⟨0, mkStdGen seed⟩ with
  | some (.ok outcome, _) => report outcome
  | some (.error p, _) =>
    IO.eprintln p.message
    return 101
  | none => return 1

def environment : IO (List (String × String)) := do
  let names := (Options.everywhere ++ Options.ofRun).filterMap (·.standIn)
  let pairs ← names.mapM fun name => do return (← IO.getEnv name).map fun value => (name, value)
  return pairs.filterMap id

end ShareCheck.Program

def main (args : List String) : IO UInt32 := do
  let settings ← ShareCheck.Program.environment
  match ShareCheck.CommandLine.parse (fun name => settings.lookup name) args with
  | .ok invocation => ShareCheck.Program.execute invocation
  | .error .displayHelp | .error .displayVersion =>
    IO.println "usage: share-check [options] list | run [options]"
    return 0
  | .error e =>
    IO.eprintln ("error: " ++ e.name)
    return 2
