import ShareCheck.Access.Share

set_option autoImplicit false

namespace ShareCheck.Smbclient

open Text (Bytes)

def passwordFromInput : String :=
  "IFS= read -r PASSWD && export PASSWD && exec \"$0\" \"$@\""

structure Launcher where
  before : List String := []
  program : String := "smbclient"
deriving DecidableEq, Repr, Inhabited

def Launcher.shellArguments (l : Launcher) (target : Target) (c : Credential) (command : String) :
    List String :=
  ["-c", passwordFromInput, l.program, target.unc, "-U", c.username, "-c", command]

def Launcher.commandLine (l : Launcher) (target : Target) (c : Credential) (command : String) :
    String × List String :=
  match l.before with
  | [] => ("sh", l.shellArguments target c command)
  | program :: before => (program, before ++ "sh" :: l.shellArguments target c command)

def Launcher.argv (l : Launcher) (target : Target) (c : Credential) (command : String) :
    List String :=
  let (program, arguments) := l.commandLine target c command
  program :: arguments

def inputPayload (c : Credential) (data : Bytes) : Bytes :=
  Text.encode c.password.toList ++ 10 :: data

def splitPayload : Bytes → Bytes × Bytes
  | [] => ([], [])
  | b :: rest =>
    if b = 10 then ([], rest)
    else
      let (line, left) := splitPayload rest
      (b :: line, left)

def listCommand : String := "ls"

def putCommand (name : String) : String := "put - \"" ++ name ++ "\""

def getCommand (name : String) : String := "get \"" ++ name ++ "\" -"

def removeCommand (name : String) : String := "del \"" ++ name ++ "\""

end ShareCheck.Smbclient
