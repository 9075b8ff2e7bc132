import TlsSetup.Bytes
import TlsSetup.Event
import TlsSetup.Resource.Path

/-!
# Loaders

Files are read through a loader, which first says where a name leads and then reads what is there. A
failure names the place that was tried.
-/

namespace TlsSetup

structure Loader where
  locate : String → String
  read : String → Logged (Except ReadFault Bytes)

namespace Loader

def load (l : Loader) (path : String) : Attempt Bytes :=
  ExceptT.mk do
    match ← l.read (l.locate path) with
    | .ok bytes => return .ok bytes
    | .error fault => return .error (.io (l.locate path) fault)

/-- Reads names below `root`, absolute ones as they are. -/
def rooted (root : String) (read : String → Logged (Except ReadFault Bytes)) : Loader where
  locate := Path.join root
  read := read

end Loader

structure Memory where
  files : List (List String × Bytes)

namespace Memory

def empty : Memory := ⟨[]⟩

/-- Puts a file under a name, in place of one that is there. -/
def insert (m : Memory) (path : String) (contents : Bytes) : Memory :=
  ⟨(Path.components path, contents) :: m.files⟩

def get? (m : Memory) (path : String) : Option Bytes := m.files.lookup (Path.components path)

def read (m : Memory) (path : String) : Except ReadFault Bytes :=
  match m.get? path with
  | some bytes => .ok bytes
  | none => .error (.absent (path ++ " not found"))

/-- Reads from memory; every name leads to itself. -/
def loader (m : Memory) : Loader where
  locate := id
  read path := pure (m.read path)

end Memory

end TlsSetup
