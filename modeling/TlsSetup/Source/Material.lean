import TlsSetup.Resource.Loader
import TlsSetup.X509.Certificate

/-!
# Where material comes from

Keys, certificates and lists are held in memory or named by files. What a program finds where it runs,
its files and its clock, is gathered in an environment.
-/

namespace TlsSetup

/-- Bytes that are at hand, or the name of a file that holds them. -/
inductive Material where
  | path (p : String)
  | value (bytes : Bytes)
  deriving Repr, DecidableEq

def Material.load (loader : Loader) : Material → Attempt Bytes
  | .path p => loader.load p
  | .value bytes => pure bytes

/-- The surroundings of a program: the instant, the platform's authorities, the directory in which it
runs, which is `.` if it cannot be found out, and the files. -/
structure Environment where
  now : X509.Instant
  authorities : List X509.Certificate
  directory : String
  files : String → Logged (Except ReadFault Bytes)

def Environment.loader (env : Environment) : Loader := Loader.rooted env.directory env.files

end TlsSetup
