import TlsSetup.Engine
import TlsSetup.Role
import TlsSetup.Source.KeySource
import TlsSetup.Source.TrustSource

/-!
# Options

What all contexts of one listener have in common. Options are made from the defaults by a list of
settings: of most kinds the last one counts, lists of revoked certificates add up, and a cipher suite
that is named again is passed over.
-/

namespace TlsSetup

structure Options where
  engine : Engine
  sessionCache : Bool
  keySource : Option KeySource
  trustSource : Option TrustSource
  crlPaths : List String
  crlValues : List Bytes
  cipherSuites : List String
  protocols : List String
  clientAuth : ClientAuth
  resources : Loader

/-- One decision about the options. -/
inductive Setting where
  | engine (e : Engine)
  | sessionCache (enabled : Bool)
  | keySource (s : KeySource)
  | trustSource (s : TrustSource)
  | crlPath (p : String)
  | crlValue (bs : Bytes)
  | cipherSuite (name : String)
  | cipherSuites (names : List String)
  | protocols (names : List String)
  | clientAuth (mode : ClientAuth)
  | resources (l : Loader)

namespace Options

def default (env : Environment) : Options where
  engine := .openssl
  sessionCache := true
  keySource := none
  trustSource := none
  crlPaths := []
  crlValues := []
  cipherSuites := []
  protocols := []
  clientAuth := .none
  resources := env.loader

/-- Adds a name to a list, unless it is there. -/
def addSuite (names : List String) (name : String) : List String :=
  if names.contains name then names else names ++ [name]

def set (o : Options) : Setting → Options
  | .engine e => { o with engine := e }
  | .sessionCache enabled => { o with sessionCache := enabled }
  | .keySource s => { o with keySource := some s }
  | .trustSource s => { o with trustSource := some s }
  | .crlPath p => { o with crlPaths := o.crlPaths ++ [p] }
  | .crlValue bs => { o with crlValues := o.crlValues ++ [bs] }
  | .cipherSuite name => { o with cipherSuites := addSuite o.cipherSuites name }
  | .cipherSuites names => { o with cipherSuites := names.foldl addSuite o.cipherSuites }
  | .protocols names => { o with protocols := names }
  | .clientAuth mode => { o with clientAuth := mode }
  | .resources l => { o with resources := l }

/-- The defaults with some settings, in order. -/
def build (env : Environment) (settings : List Setting) : Options :=
  settings.foldl set (default env)

def hasCrls (o : Options) : Bool := !o.crlPaths.isEmpty || !o.crlValues.isEmpty

def describe (o : Options) : String :=
  Text.record "TlsOptions"
    [("engine", o.engine.describe), ("session_cache_enabled", Text.truth o.sessionCache),
      ("key_source", Text.truth o.keySource.isSome),
      ("trust_source", Text.truth o.trustSource.isSome),
      ("crl_paths", Text.bracketed (o.crlPaths.map Text.quotedPath)),
      ("crl_values", toString o.crlValues.length),
      ("cipher_suites", Text.bracketed (o.cipherSuites.map Text.quoted)),
      ("application_protocols", Text.bracketed (o.protocols.map Text.quoted)),
      ("client_auth", o.clientAuth.name)]

end Options

end TlsSetup
