import TlsSetup.Key.Identity
import TlsSetup.Source.Basic
import TlsSetup.Source.Material

/-!
# Sources of identities

Identities come from pairs of a key and a chain, of which the first is the one to fall back on, or from
a single archive. A server name chooses an identity whose leaf it matches.
-/

namespace TlsSetup

abbrev KeySource := Source Identity

/-- A private key and a chain that belong together. -/
structure KeyPair where
  key : Material
  chain : Material
  deriving Repr, DecidableEq

def KeyPair.load (loader : Loader) (pair : KeyPair) : Attempt Identity := do
  let key ← pair.key.load loader
  let chain ← pair.chain.load loader
  Attempt.ofExcept (Identity.ofPem key chain)

structure PemKeys where
  pairs : List KeyPair
  loader : Loader

namespace PemKeys

def new (env : Environment) : PemKeys := ⟨[], env.loader⟩

def add (k : PemKeys) (key chain : Material) : PemKeys := { k with pairs := k.pairs ++ [⟨key, chain⟩] }

def withLoader (k : PemKeys) (loader : Loader) : PemKeys := { k with loader }

def loadAll (k : PemKeys) : Attempt (List Identity) := k.pairs.mapM (KeyPair.load k.loader)

/-- The first pair is the identity to fall back on; a name chooses the first pair that it matches. -/
def source (k : PemKeys) : KeySource where
  default :=
    match k.pairs with
    | [] => pure none
    | pair :: _ => do return some (← pair.load k.loader)
  choice := do
    let identities ← k.loadAll
    return some fun name => pure (identities.find? fun i => i.matchesHost name)

end PemKeys

structure ArchiveKey where
  archive : Material
  password : String
  loader : Loader

namespace ArchiveKey

def new (env : Environment) (archive : Material) (password : String) : ArchiveKey :=
  ⟨archive, password, env.loader⟩

def withLoader (k : ArchiveKey) (loader : Loader) : ArchiveKey := { k with loader }

def load (k : ArchiveKey) : Attempt Identity := do
  let bytes ← k.archive.load k.loader
  Attempt.ofExcept (Identity.ofArchive bytes k.password)

/-- The archive's identity, for every name that it matches. -/
def source (k : ArchiveKey) : KeySource where
  default := do return some (← k.load)
  choice := do
    let identity ← k.load
    return some fun name => pure (if identity.matchesHost name then some identity else none)

end ArchiveKey

end TlsSetup
