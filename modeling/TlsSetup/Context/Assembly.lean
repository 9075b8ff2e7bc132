import TlsSetup.Context
import TlsSetup.Credentials

/-!
# Assembly of contexts

A context is assembled from options and credentials. A server needs an identity; suites that are not
configured are those of the engine; protocols are negotiated only if that is wanted and there are any.
-/

namespace TlsSetup

namespace Options

/-- The suites of a context: the configured ones, or else those of the engine. -/
def effectiveSuites (o : Options) : List String :=
  if o.cipherSuites.isEmpty then o.engine.defaultCipherSuites else o.cipherSuites

/-- What the engine does when no protocol is in common. -/
def alpnFailures : Engine → SelectorFailure × ListenerFailure
  | .openssl => (.noAdvertise, .accept)
  | .rustls => (.noAdvertise, .fatalAlert)

def alpnConfig (o : Options) (useAlpn : Bool) : Except Error (Option AlpnConfig) :=
  if useAlpn && !o.protocols.isEmpty then
    (AlpnConfig.make o.protocols (alpnFailures o.engine).1 (alpnFailures o.engine).2).map some
  else .ok none

/-- Whether sessions are kept; only the openssl engine's servers have a say in it. -/
def sessionCacheFor (o : Options) (role : Role) : Option Bool :=
  if o.engine = .openssl ∧ role.isServer then some o.sessionCache else none

def engineContext (engine : Engine) (r : EngineRequest) : Attempt EngineContext := do
  match engine with
  | .openssl => return .openssl (← Attempt.ofExcept (OpensslContext.build r))
  | .rustls =>
    match r.role with
    | .server => do
      let s ← Attempt.ofExcept (Rustls.buildServer r)
      Logged.note .debug "built rustls server configuration"
      return .rustlsServer s
    | .client => do
      let c ← Attempt.ofExcept (Rustls.buildClient r)
      Logged.note .debug "built rustls client configuration"
      return .rustlsClient c

/-- What the engine of a context for `role` is asked for. -/
def engineRequest (o : Options) (role : Role) (alpn : Option AlpnConfig) (c : Credentials) :
    EngineRequest where
  role := role
  key := c.identity
  trust := c.trust
  cipherSuites := o.effectiveSuites
  alpn := alpn
  sessionCache := (o.sessionCacheFor role).getD false
  clientAuth := o.clientAuth

def contextOf (o : Options) (r : EngineRequest) (inner : EngineContext) : Context where
  role := r.role
  engine := o.engine
  cipherSuites := o.effectiveSuites
  alpn := r.alpn
  sessionCache := o.sessionCacheFor r.role
  key := r.key
  acceptedIssuers := r.trust.acceptedIssuers
  verifiesPeer := r.verifiesPeer
  inner := inner

def assemble (o : Options) (role : Role) (useAlpn : Bool) (c : Credentials) : Attempt Context := do
  if role.isServer && c.identity.isNone then throw (.config .keyMandatory)
  let alpn ← Attempt.ofExcept (o.alpnConfig useAlpn)
  let request := o.engineRequest role alpn c
  let inner ← engineContext o.engine request
  Logged.note .debug "built TLS context"
    [("role", role.name), ("engine", o.engine.name),
      ("cipher_suites", toString o.effectiveSuites.length), ("alpn", Text.truth alpn.isSome),
      ("verifies_peer", Text.truth request.verifiesPeer)]
  return o.contextOf request inner

end Options

end TlsSetup
