import TlsSetup.Bytes
import TlsSetup.Error

/-!
# Application protocols

Protocols are negotiated by name: each side has a list in its order of preference, and a list travels
as the names one after the other, each behind its length in one byte. `encode` writes such a list and
`decode` reads the longest well-formed part at the front of any byte string.
-/

namespace TlsSetup

/-- What a server does when it has no protocol in common with the client. -/
inductive SelectorFailure where
  | noAdvertise
  | fatalAlert
  deriving Repr, DecidableEq

/-- What a client does when it cannot use the protocol that the server chose. -/
inductive ListenerFailure where
  | accept
  | fatalAlert
  deriving Repr, DecidableEq

def SelectorFailure.name : SelectorFailure → String
  | .noAdvertise => "NoAdvertise"
  | .fatalAlert => "FatalAlert"

def ListenerFailure.name : ListenerFailure → String
  | .accept => "Accept"
  | .fatalAlert => "FatalAlert"

namespace Alpn

def maxLength : Nat := 255

def isName (bs : Bytes) : Bool := 0 < bs.length && bs.length ≤ maxLength

def encode (names : List Bytes) : Bytes :=
  names.flatMap fun name => UInt8.ofNat name.length :: name

/-- The names at the front of `bs`; a length that is zero or too large ends the list. -/
def decode (bs : Bytes) : List Bytes :=
  match bs with
  | [] => []
  | n :: rest =>
    if n = 0 ∨ rest.length < n.toNat then []
    else rest.take n.toNat :: decode (rest.drop n.toNat)
termination_by bs.length
decreasing_by
  simp only [List.length_drop, List.length_cons]
  omega

/-- The first of our names that the peer offers, with the place of the peer's entry. -/
def select? (ours offered : List Bytes) : Option (Bytes × Nat) :=
  ours.findSome? fun name => (offered.findIdx? (· == name)).map fun i => (name, i)

end Alpn

/-- The protocols of a context, most preferred first. -/
structure AlpnConfig where
  protocols : List String
  selectorFailure : SelectorFailure
  listenerFailure : ListenerFailure
  deriving Repr, DecidableEq

namespace AlpnConfig

/-- Refuses names that cannot be written; the first one is reported. -/
def make (protocols : List String) (selector : SelectorFailure) (listener : ListenerFailure) :
    Except Error AlpnConfig :=
  match protocols.find? fun p => !Alpn.isName (Bytes.ofString p) with
  | some p => .error (.config (.protocolLength p.utf8ByteSize))
  | none => .ok ⟨protocols, selector, listener⟩

def names (a : AlpnConfig) : List Bytes := a.protocols.map Bytes.ofString

def wire (a : AlpnConfig) : Bytes := Alpn.encode a.names

def describe (a : AlpnConfig) : String :=
  Text.record "AlpnConfig"
    [("protocols", Text.bracketed (a.protocols.map Text.quoted)),
      ("selector_failure", a.selectorFailure.name),
      ("listener_failure", a.listenerFailure.name)]

end AlpnConfig

end TlsSetup
