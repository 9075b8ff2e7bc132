import TlsSetup.Error
import TlsSetup.Text.Ascii

/-!
# Engines

The two libraries that can run a connection, each with its own names for cipher suites.
-/

namespace TlsSetup

inductive Engine where
  | openssl
  | rustls
  deriving Repr, DecidableEq

namespace Engine

/-- The engine of a name, whose case does not count. -/
def ofName (s : String) : Except Error Engine :=
  let name := Text.lowerAscii s
  if name = "openssl" ∨ name = "native" then .ok .openssl
  else if name = "rustls" ∨ name = "platform" then .ok .rustls
  else .error (.config (.unknownEngine s))

def name : Engine → String
  | .openssl => "openssl"
  | .rustls => "rustls"

def describe : Engine → String
  | .openssl => "OpenSsl"
  | .rustls => "Rustls"

/-- The suites of the rustls engine, in its order of preference. -/
def rustlsSuites : List String :=
  ["TLS13_AES_256_GCM_SHA384", "TLS13_AES_128_GCM_SHA256", "TLS13_CHACHA20_POLY1305_SHA256",
    "TLS_ECDHE_ECDSA_WITH_AES_256_GCM_SHA384", "TLS_ECDHE_ECDSA_WITH_AES_128_GCM_SHA256",
    "TLS_ECDHE_ECDSA_WITH_CHACHA20_POLY1305_SHA256", "TLS_ECDHE_RSA_WITH_AES_256_GCM_SHA384",
    "TLS_ECDHE_RSA_WITH_AES_128_GCM_SHA256", "TLS_ECDHE_RSA_WITH_CHACHA20_POLY1305_SHA256"]

def defaultCipherSuites : Engine → List String
  | .openssl =>
    ["TLS_AES_128_GCM_SHA256", "TLS_AES_256_GCM_SHA384", "TLS_CHACHA20_POLY1305_SHA256",
      "ECDHE-ECDSA-AES128-GCM-SHA256", "ECDHE-RSA-AES128-GCM-SHA256",
      "ECDHE-ECDSA-AES256-GCM-SHA384", "ECDHE-RSA-AES256-GCM-SHA384",
      "ECDHE-ECDSA-CHACHA20-POLY1305", "ECDHE-RSA-CHACHA20-POLY1305"]
  | .rustls => rustlsSuites

end Engine

end TlsSetup
