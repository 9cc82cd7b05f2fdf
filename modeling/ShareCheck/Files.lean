import ShareCheck.Path
import ShareCheck.Text.Utf8

set_option autoImplicit false

namespace ShareCheck

open Text (Bytes)

inductive ReadError
  | missing
  | notDirectory
  | isDirectory
  | nameTooLong
  | nulInPath
  | notText
deriving DecidableEq, Repr

def ReadError.message : ReadError → String
  | missing => "No such file or directory (os error 2)"
  | notDirectory => "Not a directory (os error 20)"
  | isDirectory => "Is a directory (os error 21)"
  | nameTooLong => "File name too long (os error 36)"
  | nulInPath => "file name contained an unexpected NUL byte"
  | notText => "stream did not contain valid UTF-8"

abbrev Files := Path → Except ReadError Bytes

def Files.readText (files : Files) (p : Path) : Except ReadError String :=
  match files p with
  | .error e => .error e
  | .ok bytes =>
    match Text.decode bytes with
    | some cs => .ok (String.ofList cs)
    | none => .error .notText

structure FileTree where
  files : List (List String × Bytes)
  directories : List (List String) := []
  isRoot : Bool := false

namespace FileTree

def ofList (files : List (String × Bytes)) : FileTree where
  files := files.reverse.map fun (path, bytes) =>
    (((path.toList.splitOn '/').map String.ofList).filter (fun s => s != "" && s != "."), bytes)

def root : FileTree where
  files := [(["dev", "null"], [])]
  directories :=
    ["bin", "boot", "dev", "etc", "home", "lib", "media", "mnt", "opt", "proc", "root", "run",
      "sbin", "srv", "sys", "tmp", "usr", "var"].map ([·])
  isRoot := true

def file? (t : FileTree) (names : List String) : Option Bytes := t.files.lookup names

def isDirectory (t : FileTree) (names : List String) : Bool :=
  names.isEmpty || t.directories.contains names ||
    t.files.any fun (file, _) => names.isPrefixOf file && file != names

def walkAbove : List String → Except ReadError Bytes
  | [] => .error .isDirectory
  | part :: rest =>
    if part == "" || part == "." || part == ".." then walkAbove rest
    else if 255 < part.utf8ByteSize then .error .nameTooLong
    else .error .missing

def walk (t : FileTree) (at_ : List String) : List String → Except ReadError Bytes
  | [] =>
    match t.file? at_.reverse with
    | some bytes => .ok bytes
    | none => .error .isDirectory
  | part :: rest =>
    if !t.isDirectory at_.reverse then .error .notDirectory
    else if part == "" || part == "." then walk t at_ rest
    else if part == ".." then
      match at_ with
      | [] => if t.isRoot then walk t [] rest else walkAbove rest
      | _ :: up => walk t up rest
    else if 255 < part.utf8ByteSize then .error .nameTooLong
    else
      let here := part :: at_
      if (t.file? here.reverse).isSome || t.isDirectory here.reverse then walk t here rest
      else .error .missing

def read (t : FileTree) : Files := fun p =>
  let text := p.text
  if text.toList.contains '\x00' then .error .nulInPath
  else if text.isEmpty then .error .missing
  else if 4096 ≤ text.utf8ByteSize then .error .nameTooLong
  else
    (if p.isAbsolute then root else t).walk [] ((text.toList.splitOn '/').map String.ofList)

end FileTree

end ShareCheck
