import TlsSetup.Engine
import TlsSetup.Error

/-!
# The provider of the rustls engine

The provider holds the suites of the engine, each of which is printed under a name of its own, and all
else that connections are computed with. A configuration is built on a provider that is restricted to
the suites with given names.
-/

namespace TlsSetup

inductive RustlsSuite where
  | tls13Aes256
  | tls13Aes128
  | tls13ChaCha20
  | ecdsaAes256
  | ecdsaAes128
  | ecdsaChaCha20
  | rsaAes256
  | rsaAes128
  | rsaChaCha20
  deriving Repr, DecidableEq

namespace RustlsSuite

/-- A suite as it is printed. -/
def name : RustlsSuite → String
  | .tls13Aes256 => "TLS13_AES_256_GCM_SHA384"
  | .tls13Aes128 => "TLS13_AES_128_GCM_SHA256"
  | .tls13ChaCha20 => "TLS13_CHACHA20_POLY1305_SHA256"
  | .ecdsaAes256 => "TLS_ECDHE_ECDSA_WITH_AES_256_GCM_SHA384"
  | .ecdsaAes128 => "TLS_ECDHE_ECDSA_WITH_AES_128_GCM_SHA256"
  | .ecdsaChaCha20 => "TLS_ECDHE_ECDSA_WITH_CHACHA20_POLY1305_SHA256"
  | .rsaAes256 => "TLS_ECDHE_RSA_WITH_AES_256_GCM_SHA384"
  | .rsaAes128 => "TLS_ECDHE_RSA_WITH_AES_128_GCM_SHA256"
  | .rsaChaCha20 => "TLS_ECDHE_RSA_WITH_CHACHA20_POLY1305_SHA256"

def all : List RustlsSuite :=
  [.tls13Aes256, .tls13Aes128, .tls13ChaCha20, .ecdsaAes256, .ecdsaAes128, .ecdsaChaCha20, .rsaAes256,
    .rsaAes128, .rsaChaCha20]

end RustlsSuite

/-- What connections are computed with: suites, and the rest, which is of type `α`. -/
structure Provider (α : Type) where
  suites : List RustlsSuite
  others : α

namespace Provider

variable {α : Type}

/-- The provider as it comes, with all suites. -/
def standard (others : α) : Provider α := ⟨RustlsSuite.all, others⟩

/-- The first suite that is printed like this. -/
def find (p : Provider α) (name : String) : Except Error RustlsSuite :=
  match p.suites.find? (·.name = name) with
  | some suite => .ok suite
  | none => .error (.config (.unsupportedSuite name))

/-- A provider with the suites of these names, in their order. -/
def restrictedTo (p : Provider α) (names : List String) : Except Error (Provider α) := do
  let suites ← names.mapM p.find
  return { p with suites := suites }

end Provider

end TlsSetup
