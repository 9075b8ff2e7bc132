import TlsSetup.Alpn
import TlsSetup.Options

/-!
# What an engine is asked for

The resolved material and the settings from which an engine makes the object of one context.
-/

namespace TlsSetup

structure EngineRequest where
  role : Role
  key : Option Identity
  trust : Trust
  cipherSuites : List String
  alpn : Option AlpnConfig
  sessionCache : Bool
  clientAuth : ClientAuth

/-- Whether the peer is asked for a certificate that is then judged. -/
def EngineRequest.verifiesPeer (r : EngineRequest) : Bool :=
  !r.trust.isNone &&
    match r.role with
    | .client => true
    | .server => r.clientAuth != .none

end TlsSetup
