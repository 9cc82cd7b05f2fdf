import ShareCheck.Backoff
import ShareCheck.CommandLine.Invocation
import ShareCheck.Kubernetes.Client
import ShareCheck.Kubernetes.Connection
import ShareCheck.Registry
import ShareCheck.Smbclient.Client

set_option autoImplicit false

namespace ShareCheck.Harness

open CommandLine

variable {σ : Type}

structure Machine (σ : Type) where
  sources : Credentials.Sources
  server : Connection → Rest.Server σ
  spawn : Smbclient.Spawn σ
  suffix : σ → UInt32 × σ
  /-- Between one half and one and a half. -/
  jitter : σ → Number.Binary64 × σ

def Machine.files (m : Machine σ) : Files := m.sources.files

structure Outcome where
  output : List String := []
  log : List String := []
  result : Except Error Unit

def connect (m : Machine σ) (kubeconfig : Option Path) :
    Activity σ (Except Error Connection) :=
  -- Repeats the attempt, because the way to the server may still be coming up.
  ({} : RetryPolicy).run m.jitter (Activity.ofResult (Connection.find m.sources kubeconfig))

def collaborators (m : Machine σ) (launcher : Smbclient.Launcher) (c : Connection) :
    Collaborators σ where
  query := Kubernetes.query (m.server c)
  fixtures := Kubernetes.fixtures (m.server c)
  shares := launcher.client m.spawn
  suffix := m.suffix

def loadAll (files : Files) : List Fixture → Except Error Unit
  | [] => .ok ()
  | f :: rest =>
    match f.load files with
    | .error e => .error e
    | .ok _ => loadAll files rest

def prepare (m : Machine σ) (registry : Registry σ) (names : List String) : Except Error Unit :=
  match registry.select names with
  | .error e => .error e
  | .ok scenarios => loadAll m.files (scenarios.flatMap (·.fixtures))

def verdict (reports : List Report) : Outcome where
  log := Run.summary reports
  result := (Run.finish reports).mapError (Error.verification "run")

def runScenarios (m : Machine σ) (config : Config) (o : RunOptions) : Activity σ Outcome := do
  let registry : Registry σ := Registry.standard config
  match prepare m registry o.scenarios with
  | .error e => pure { result := .error e }
  | .ok () =>
    match ← connect m config.kubeconfig with
    | .error e => pure { result := .error e }
    | .ok c =>
      match ← registry.run ⟨config, m.files, collaborators m o.launcher c⟩ o.scenarios with
      | .error e => pure { result := .error e }
      | .ok reports => pure (verdict reports)

def run (m : Machine σ) (i : Invocation) : Activity σ Outcome :=
  match i.command with
  | .list => Activity.pure
      { output := (Registry.standard (σ := σ) i.config).keys, result := .ok () }
  | .run o => runScenarios m i.config o

end ShareCheck.Harness
