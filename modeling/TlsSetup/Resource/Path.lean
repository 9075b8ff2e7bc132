import TlsSetup.Text.Pieces

/-!
# Names of files

A file name is a text with parts between slashes. Two names denote the same place when their parts
agree; empty parts, and dots that are not at the front, do not count.
-/

namespace TlsSetup.Path

/-- Whether a name starts at the top of all directories. -/
def isAbsolute (p : String) : Bool := p.toList.head? == some '/'

def parts (p : String) : List String := (Text.pieces '/' p.toList).map String.ofList

/-- The parts that count; the first is `/` for an absolute name. -/
def components (p : String) : List String :=
  let named := (parts p).filter fun s => s != "" && s != "."
  if isAbsolute p then "/" :: named
  else if (parts p).head? == some "." then "." :: named
  else named

/-- A name seen from a directory. -/
def join (directory p : String) : String :=
  if isAbsolute p then p
  else
    match directory.toList.getLast? with
    | none => p
    | some '/' => directory ++ p
    | some _ => directory ++ "/" ++ p

end TlsSetup.Path
