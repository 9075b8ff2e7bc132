import TlsSetup.Options

/-!
# Settings

Options in the form in which they stand in a configuration file: files are named, nothing is read.
All names of files are seen from one root directory.
-/

namespace TlsSetup

structure PairSettings where
  keyPath : String
  certPath : String
  deriving Repr, DecidableEq

/-- Where the local identity comes from; `sni` are further pairs that a server name may choose. -/
inductive KeySettings where
  | pem (keyPath certPath : String) (sni : List PairSettings)
  | pkcs12 (path password : String)
  deriving Repr, DecidableEq

inductive TrustSettings where
  | pem (caPaths : List String)
  | system
  deriving Repr, DecidableEq

structure Settings where
  engine : Engine := .openssl
  sessionCache : Bool := true
  root : Option String := none
  key : Option KeySettings := none
  trust : Option TrustSettings := none
  crlPaths : List String := []
  crlValues : List String := []
  cipherSuites : List String := []
  protocols : List String := []
  clientAuth : ClientAuth := .none
  deriving Repr, DecidableEq

namespace KeySettings

/-- The source of the identity, whose files are read through `loader`. -/
def source (env : Environment) (loader : Loader) : KeySettings → KeySource
  | .pem keyPath certPath sni =>
    let main := (PemKeys.new env).add (.path keyPath) (.path certPath)
    let all := sni.foldl (fun k pair => k.add (.path pair.keyPath) (.path pair.certPath)) main
    (all.withLoader loader).source
  | .pkcs12 path password => ((ArchiveKey.new env (.path path) password).withLoader loader).source

def describePair (p : PairSettings) : String :=
  Text.record "PemPairSettings"
    [("key_path", Text.quotedPath p.keyPath), ("cert_path", Text.quotedPath p.certPath)]

def describe : KeySettings → String
  | .pem keyPath certPath sni =>
    Text.record "Pem"
      [("key_path", Text.quotedPath keyPath), ("cert_path", Text.quotedPath certPath),
        ("sni", Text.bracketed (sni.map describePair))]
  | .pkcs12 path password =>
    Text.record "Pkcs12" [("path", Text.quotedPath path), ("password", Text.quoted password)]

end KeySettings

namespace TrustSettings

/-- The source of trust, whose files are read through `loader`. -/
def source (env : Environment) (loader : Loader) : TrustSettings → TrustSource
  | .pem caPaths =>
    let anchors := caPaths.foldl (fun a p => a.add (.path p)) (PemAnchors.new env)
    (anchors.withLoader loader).source
  | .system => TrustSource.system env

def describe : TrustSettings → String
  | .pem caPaths =>
    Text.record "Pem" [("ca_paths", Text.bracketed (caPaths.map Text.quotedPath))]
  | .system => "System"

end TrustSettings

namespace Settings

/-- The loader of all files: below the root, or where the program runs. -/
def loader (s : Settings) (env : Environment) : Loader :=
  match s.root with
  | some root => Loader.rooted root env.files
  | none => env.loader

/-- The options that the settings stand for. -/
def options (s : Settings) (env : Environment) : Options :=
  let loader := s.loader env
  Options.build env
    ([.engine s.engine, .sessionCache s.sessionCache, .cipherSuites s.cipherSuites,
        .protocols s.protocols, .clientAuth s.clientAuth, .resources loader] ++
      (s.key.map fun k => Setting.keySource (k.source env loader)).toList ++
      (s.trust.map fun t => Setting.trustSource (t.source env loader)).toList ++
      s.crlPaths.map Setting.crlPath ++
      s.crlValues.map fun v => Setting.crlValue (Bytes.ofString v))

def describe (s : Settings) : String :=
  Text.record "TlsSettings"
    [("engine", s.engine.describe), ("session_cache_enabled", Text.truth s.sessionCache),
      ("root", Text.optional (s.root.map Text.quotedPath)),
      ("key", Text.optional (s.key.map KeySettings.describe)),
      ("trust", Text.optional (s.trust.map TrustSettings.describe)),
      ("crl_paths", Text.bracketed (s.crlPaths.map Text.quotedPath)),
      ("crl_values", Text.bracketed (s.crlValues.map Text.quoted)),
      ("cipher_suites", Text.bracketed (s.cipherSuites.map Text.quoted)),
      ("application_protocols", Text.bracketed (s.protocols.map Text.quoted)),
      ("client_auth", s.clientAuth.name)]

end Settings

end TlsSetup
