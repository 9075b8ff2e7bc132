import TlsSetup.Engine.CipherRules
import TlsSetup.Engine.Request

/-!
# The openssl engine

Its context holds two lists of suites and the range of versions that they leave, how a peer is asked
for a certificate and who judges it, and how protocols are negotiated.
-/

namespace TlsSetup

open X509

structure VerifyMode where
  peer : Bool
  failIfNoCertificate : Bool
  deriving Repr, DecidableEq

namespace VerifyMode

def none : VerifyMode := ⟨false, false⟩

/-- The mode as a number: one for asking, two for insisting. -/
def bits (m : VerifyMode) : Nat := (if m.peer then 1 else 0) + if m.failIfNoCertificate then 2 else 0

end VerifyMode

/-- The part that a context plays when protocols are negotiated. -/
inductive AlpnPart where
  | offer (wire : Bytes)
  | choose (names : List Bytes)
  deriving Repr, DecidableEq

/-- What the engine reports of a certificate that is not accepted. -/
inductive VerifyCode where
  | certificateRevoked
  | certificateRejected
  deriving Repr, DecidableEq

def VerifyCode.ofRejection : Rejection → VerifyCode
  | .revoked => .certificateRevoked
  | .rejected _ | .emptyChain => .certificateRejected

/-- A question of the engine while it goes through the chain of a peer: how far from the leaf it is,
the chain that it has built, and the certificate that it is at. -/
structure PeerQuestion where
  depth : Nat
  chain : Option (List Certificate)
  current : Option Certificate

def PeerQuestion.certificates (q : PeerQuestion) : List Certificate := q.chain.getD q.current.toList

structure OpensslContext where
  role : Role
  identity : Option Identity
  modernSuites : List String
  legacySuites : List String
  /-- Whether version 1.3 is left out. -/
  atMostTls12 : Bool
  /-- Whether all older versions are left out. -/
  atLeastTls13 : Bool
  verifyMode : VerifyMode
  judges : List Validator
  /-- The names that a server sends when it asks for a certificate. -/
  clientAuthorities : List Bytes
  alpn : Option AlpnPart
  /-- Whether a server keeps sessions. -/
  sessionCache : Option Bool

/-- The items from a place on, if there are so many before it. -/
def suffixFrom? {α : Type} (place : Nat) (items : List α) : Option (List α) :=
  if place ≤ items.length then some (items.drop place) else none

namespace OpensslContext

/-- The least strength in bits of a leaf's key and signature. -/
def leastStrength : Nat := 112

/-- Whether the engine takes a kind of key at all. -/
def knowsKind : PublicKey → Bool
  | .octets kind _ => kind.canSign
  | .ec c _ => c != Crypto.Curve.sm2
  | _ => true

/-- Whether the engine takes an identity: its leaf must be strong enough. -/
def acceptsIdentity (i : Identity) : Bool :=
  let key := i.key.publicKey
  knowsKind key && leastStrength ≤ key.strength &&
    (i.leaf.isSelfSigned ||
      (SignatureScheme.ofAlgorithm? i.leaf.algorithm).any (leastStrength ≤ ·.strength key))

/-- Checks two lists of suites in turn; a list with a NUL inside cannot be handed over. -/
def checkSuites (modern legacy : List String) : Except Error Unit :=
  if modern.any (·.toList.contains '\x00') then .error .nulInText
  else if CipherRules.acceptsModern modern = false then .error (.provider .engine)
  else if legacy.isEmpty then .ok ()
  else if legacy.any (·.toList.contains '\x00') then .error .nulInText
  else if CipherRules.acceptsLegacy modern legacy = false then .error (.provider .engine)
  else .ok ()

def modeFor (r : EngineRequest) : VerifyMode :=
  if r.verifiesPeer then ⟨true, r.role.isServer && r.clientAuth == .required⟩ else .none

/-- The suites of version 1.3 among those that are asked for. -/
def modernOf (r : EngineRequest) : List String := r.cipherSuites.filter CipherRules.isModern

/-- The suites of older versions among those that are asked for. -/
def legacyOf (r : EngineRequest) : List String :=
  r.cipherSuites.filter fun s => !CipherRules.isModern s

def ofRequest (r : EngineRequest) : OpensslContext where
  role := r.role
  identity := r.key
  modernSuites := modernOf r
  legacySuites := legacyOf r
  atMostTls12 := (modernOf r).isEmpty
  atLeastTls13 := (legacyOf r).isEmpty
  verifyMode := modeFor r
  judges := r.trust.judges
  clientAuthorities :=
    if r.role.isServer then r.trust.acceptedIssuers.map (·.subject.encoding) else []
  alpn := r.alpn.map fun a =>
    match r.role with
    | .client => .offer a.wire
    | .server => .choose a.names
  sessionCache := if r.role.isServer then some r.sessionCache else none

/-- The certificates that are presented to the peer: the engine is told the first one of the chain apart
from the others, each by its place. -/
def presented? (c : OpensslContext) : Option (List Certificate) := do
  let i ← c.identity
  let leaf ← i.chain[0]?
  let others ← suffixFrom? 1 i.chain
  return leaf :: others

def build (r : EngineRequest) : Except Error OpensslContext := do
  if r.key.any fun i => !acceptsIdentity i then throw (.provider .engine)
  checkSuites (modernOf r) (legacyOf r)
  return ofRequest r

def verifyPeer (c : OpensslContext) (chain : List Certificate) :
    Logged (Except VerifyCode Unit) := do
  match ← checkChain c.judges c.role chain with
  | .ok () => return .ok ()
  | .error e => do
    Logged.note .debug ("peer certificate rejected: " ++ e.message)
    return .error (.ofRejection e)

/-- Answers a question of the engine; only those about the leaf decide. -/
def answer (c : OpensslContext) (q : PeerQuestion) : Logged (Except VerifyCode Unit) :=
  if q.depth ≠ 0 then pure (.ok ()) else c.verifyPeer q.certificates

/-- The protocol that a server with these names chooses from a client's list, as it stands there. -/
def chooseProtocol (names : List Bytes) (clientList : Bytes) : Logged (Option (Bytes × Nat)) := do
  match Alpn.select? names (Alpn.decode clientList) with
  | some chosen => return some chosen
  | none => do
    Logged.note .debug "no application protocol in common with client"
    return none

end OpensslContext

end TlsSetup
