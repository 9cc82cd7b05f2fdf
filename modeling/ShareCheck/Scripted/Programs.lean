import ShareCheck.Smbclient.Client

set_option autoImplicit false

namespace ShareCheck.Scripted

open Text (Bytes)

structure Sighting where
  arguments : List String
  password : Bytes
  input : Bytes
deriving DecidableEq, Repr

structure Programs where
  endings : List Smbclient.Completed
  /-- The last one first. -/
  seen : List Sighting := []
deriving Repr

namespace Programs

def noSuchFile : String := "No such file or directory (os error 2)"

def nulByte : String := "nul byte found in provided data"

def afterAssignments (arguments : List String) : List String :=
  arguments.dropWhile fun a => a.toList.contains '='

def sight (arguments : List String) (input : Bytes) : Sighting :=
  let (line, rest) := Smbclient.splitPayload input
  ⟨arguments, line.filter (· != 0), rest⟩

def finish (p : Programs) (s : Sighting) : Except String Smbclient.Completed × Programs :=
  match p.endings with
  | [] => (.ok ⟨.exited 0, [], []⟩, { p with seen := s :: p.seen })
  | e :: rest => (.ok e, ⟨rest, s :: p.seen⟩)

def start (program : String) (arguments : List String) (input : Bytes) (p : Programs) :
    Except String Smbclient.Completed × Programs :=
  let commandLine := program :: arguments
  if commandLine.any fun word => word.toList.contains '\x00' then (.error nulByte, p)
  else
  let line := if program == "env" then afterAssignments arguments else commandLine
  match line with
  | "sh" :: "-c" :: script :: rest =>
    if script = Smbclient.passwordFromInput then p.finish (sight rest input)
    else (.error noSuchFile, p)
  | _ => (.error noSuchFile, p)

def spawn : Smbclient.Spawn Programs := fun program arguments input _ p =>
  (.lands 0 fun p =>
    let (r, p) := start program arguments input p
    (.ok r, p), p)

end Programs

end ShareCheck.Scripted
