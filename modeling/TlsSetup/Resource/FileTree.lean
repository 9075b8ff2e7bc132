import TlsSetup.Resource.Loader

/-!
# Trees of files

What reading a file comes to when the tree of directories is known. A name is followed part by part:
only a directory has anything below it, and only a file can be read.
-/

namespace TlsSetup

/-- Files with their contents, and directories; `home` is where relative names start. -/
structure FileTree where
  entries : List (List String × Option Bytes)
  home : List String

namespace FileTree

inductive Node where
  | file (contents : Bytes)
  | directory
  deriving Repr, DecidableEq

/-- What stands at a place; a directory is there if something is below it. -/
def node? (t : FileTree) (place : List String) : Option Node :=
  match t.entries.lookup place with
  | some (some bytes) => some (.file bytes)
  | some none => some .directory
  | none =>
    if place.isEmpty ∨ t.entries.any (fun e => place.isPrefixOf e.1) then some .directory else none

def partLimit : Nat := 255

/-- The longest name of a file in bytes, with its end. -/
def nameLimit : Nat := 4096

def walk (t : FileTree) (place : List String) (node : Node) : List String → Except ReadFault Node
  | [] => .ok node
  | part :: rest =>
    match node with
    | .file _ => .error .notDirectory
    | .directory =>
      if part = "" ∨ part = "." then walk t place .directory rest
      else if part = ".." then walk t place.dropLast .directory rest
      else if partLimit < part.utf8ByteSize then .error .nameTooLong
      else
        match t.node? (place ++ [part]) with
        | none => .error .noSuchFile
        | some node => walk t (place ++ [part]) node rest

def read (t : FileTree) (path : String) : Except ReadFault Bytes :=
  if path.toList.contains '\x00' then .error .nulInName
  else if path = "" then .error .noSuchFile
  else if nameLimit ≤ path.utf8ByteSize then .error .nameTooLong
  else
    match t.walk (if Path.isAbsolute path then [] else t.home) .directory (Path.parts path) with
    | .ok (.file bytes) => .ok bytes
    | .ok .directory => .error .isDirectory
    | .error fault => .error fault

def loader (t : FileTree) (root : String) : Loader :=
  Loader.rooted root fun path => pure (t.read path)

end FileTree

end TlsSetup
