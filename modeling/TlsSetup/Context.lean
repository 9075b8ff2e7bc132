import TlsSetup.Engine.Openssl
import TlsSetup.Engine.Rustls

/-!
# Contexts

A context belongs to one side of a connection and does not change. It holds what it was made from
beside the object of its engine.
-/

namespace TlsSetup

open X509

/-- The object of an engine. -/
inductive EngineContext where
  | openssl (c : OpensslContext)
  | rustlsServer (s : RustlsServer)
  | rustlsClient (c : RustlsClient)

/-- The certificates that an object presents to its peer; the rustls engine is told the whole chain. -/
def EngineContext.presented? : EngineContext → Option (List Certificate)
  | .openssl c => c.presented?
  | .rustlsServer s => some s.identity.chain
  | .rustlsClient c => c.identity.map (·.chain)

structure Context where
  role : Role
  engine : Engine
  cipherSuites : List String
  alpn : Option AlpnConfig
  sessionCache : Option Bool
  key : Option Identity
  acceptedIssuers : List Certificate
  verifiesPeer : Bool
  inner : EngineContext

namespace Context

def protocols (c : Context) : List String := (c.alpn.map (·.protocols)).getD []

def openssl? (c : Context) : Option OpensslContext :=
  match c.inner with
  | .openssl o => some o
  | _ => none

def rustlsServer? (c : Context) : Option RustlsServer :=
  match c.inner with
  | .rustlsServer s => some s
  | _ => none

def rustlsClient? (c : Context) : Option RustlsClient :=
  match c.inner with
  | .rustlsClient r => some r
  | _ => none

def describeKey : Option Identity → String
  | none => "None"
  | some i => "Identity(" ++ i.describe ++ ")"

def describe (c : Context) : String :=
  Text.record "TlsContext"
    [("role", c.role.name), ("engine", c.engine.describe),
      ("cipher_suites", Text.bracketed (c.cipherSuites.map Text.quoted)),
      ("alpn", Text.optional (c.alpn.map AlpnConfig.describe)),
      ("session_cache_enabled", Text.optional (c.sessionCache.map Text.truth)),
      ("key", describeKey c.key), ("accepted_issuers", toString c.acceptedIssuers.length),
      ("verifies_peer", Text.truth c.verifiesPeer)]

/-- The engine's context for a handshake of `role` that waits for the peer. -/
def blockingContext (c : Context) (role : Role) : Except Error OpensslContext :=
  if c.role ≠ role then .error (.config (.wrongSide role.name c.role.name))
  else
    match c.openssl? with
    | some o => .ok o
    | none => .error (.config (.blockingEngine c.engine.name))

end Context

end TlsSetup
