import TlsSetup.Text.Quoted

/-!
# Sides of a connection

A context is built for one side of the handshake, and judges the certificates of the other.
-/

namespace TlsSetup

inductive Role where
  | client
  | server
  deriving Repr, DecidableEq

namespace Role

def isServer : Role → Bool
  | .client => false
  | .server => true

def name : Role → String
  | .client => "Client"
  | .server => "Server"

end Role

/-- Whether a server asks its clients for a certificate, and whether one must come. -/
inductive ClientAuth where
  | none
  | request
  | required
  deriving Repr, DecidableEq

namespace ClientAuth

def name : ClientAuth → String
  | .none => "None"
  | .request => "Request"
  | .required => "Required"

end ClientAuth

end TlsSetup
