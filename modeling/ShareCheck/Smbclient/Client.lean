import ShareCheck.Smbclient.Command
import ShareCheck.Smbclient.Listing
import ShareCheck.Smbclient.Status
import ShareCheck.Text.Blank

set_option autoImplicit false

namespace ShareCheck.Smbclient

open Text (Bytes)

inductive ExitStatus
  | exited (code : Nat)
  | killed (signal : Nat) (dumped : Bool := false)
deriving DecidableEq, Repr

def signalNames : List String := [
    "SIGHUP", "SIGINT", "SIGQUIT", "SIGILL", "SIGTRAP", "SIGABRT", "SIGBUS", "SIGFPE", "SIGKILL",
    "SIGUSR1", "SIGSEGV", "SIGUSR2", "SIGPIPE", "SIGALRM", "SIGTERM", "SIGSTKFLT", "SIGCHLD",
    "SIGCONT", "SIGSTOP", "SIGTSTP", "SIGTTIN", "SIGTTOU", "SIGURG", "SIGXCPU", "SIGXFSZ",
    "SIGVTALRM", "SIGPROF", "SIGWINCH", "SIGIO", "SIGPWR", "SIGSYS"]

namespace ExitStatus

def success (s : ExitStatus) : Bool := s == exited 0

def nameSuffix : Nat → String
  | 0 => ""
  | n + 1 => (signalNames[n]?.map fun name => s!" ({name})").getD ""

def dumpSuffix (dumped : Bool) : String := if dumped then " (core dumped)" else ""

def text : ExitStatus → String
  | exited code => s!"exit status: {code}"
  | killed signal dumped => s!"signal: {signal}{nameSuffix signal}{dumpSuffix dumped}"

end ExitStatus

structure Completed where
  status : ExitStatus
  stdout : Bytes
  stderr : Bytes
deriving DecidableEq, Repr

/-- Runs a command line with an input. A program that cannot be started gives the reason. One that
was started is waited for, and the system is taken to tell how it ended. -/
abbrev Spawn (σ : Type) : Type :=
  (program : String) → (arguments : List String) → (input : Bytes) →
    Call σ (Except String Completed)

def Completed.judge (unc : String) (c : Completed) : Except Error Bytes :=
  -- The output is judged first: a clean exit hides many failures.
  let text := Text.decodeLossy c.stdout ++ Text.decodeLossy c.stderr
  match classify text with
  | some failure => .error (.access failure unc (String.ofList (Text.trim text)))
  | none =>
    if c.status.success then .ok c.stdout
    else .error (.access .operation unc ("smbclient exited with " ++ c.status.text ++ ": " ++
      String.ofList (Text.trim (Text.decodeLossy c.stderr))))

variable {σ : Type}

def Launcher.run (l : Launcher) (spawn : Spawn σ) (target : Target) (c : Credential)
    (command : String) (data : Bytes) : Request σ Bytes :=
  let (program, arguments) := l.commandLine target c command
  (spawn program arguments (inputPayload c data)).map fun
    | .ok completed => completed.judge target.unc
    | .error reason =>
      .error (.internal "smbclient" ("failed to spawn " ++ program ++ ": " ++ reason))

def Launcher.client (l : Launcher) (spawn : Spawn σ) : ShareClient σ where
  list target c := (l.run spawn target c listCommand []).map fun answer =>
    answer.map fun output => entries (Text.decodeLossy output)
  put target c name data := (l.run spawn target c (putCommand name) data).map fun answer =>
    answer.map fun _ => ()
  get target c name := l.run spawn target c (getCommand name) []
  remove target c name := (l.run spawn target c (removeCommand name) []).map fun answer =>
    answer.map fun _ => ()

end ShareCheck.Smbclient
