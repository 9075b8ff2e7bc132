import TlsSetup.Engine.LeafForm
import TlsSetup.Engine.Request

/-!
# The rustls engine

Its configurations name exactly the suites that were asked for. They refuse keys and leaf certificates
that the engine cannot use, and judge peers with the validators of the context.
-/

namespace TlsSetup

open X509

/-- What the engine says of a peer's certificate that is not accepted. -/
inductive PeerFault where
  | badEncoding
  | revoked
  | other (rejection : Rejection)
  deriving Repr, DecidableEq

namespace PeerFault

def ofRejection : Rejection → PeerFault
  | .revoked => .revoked
  | e => .other e

def message : PeerFault → String
  | .badEncoding => "invalid peer certificate: BadEncoding"
  | .revoked => "invalid peer certificate: Revoked"
  | .other e => "invalid peer certificate: Other(OtherError(" ++ e.describe ++ "))"

end PeerFault

structure ClientVerifier where
  judges : List Validator
  /-- The names that the server sends when it asks for a certificate. -/
  rootHints : List Bytes
  mandatory : Bool

structure RustlsServer where
  suites : List String
  protocols : List Bytes
  identity : Identity
  verifier : Option ClientVerifier

/-- Without judges, a client takes every certificate. -/
structure RustlsClient where
  suites : List String
  protocols : List Bytes
  identity : Option Identity
  judges : List Validator

namespace Rustls

/-- The suites with these names; the first unknown name is reported. -/
def suites (names : List String) : Except Error (List String) :=
  match names.find? fun n => !Engine.rustlsSuites.contains n with
  | some name => .error (.config (.unsupportedSuite name))
  | none => .ok names

/-- Whether the engine can sign with an RSA key: two primes of half the length, which is a multiple of
512 bits, and numbers that follow from them as far as that is easily checked. -/
def usableRsa (k : RsaNumbers) : Bool :=
  let bits := Crypto.bitLength k.modulus
  let half := (bits + 1) / 2
  k.plain && 2040 < bits && bits ≤ 4096 && half % 512 == 0 && k.modulus % 2 == 1 &&
    65537 ≤ k.exponent && k.exponent < 2 ^ 33 && k.exponent % 2 == 1 &&
    [(k.prime1, k.exponent1), (k.prime2, k.exponent2)].all (fun (p, e) =>
      Crypto.bitLength p == half && p % 2 == 1 && e < p && e % 2 == 1) &&
    k.prime1 * k.prime2 % k.modulus == 0 &&
    half < Crypto.bitLength k.secret && k.secret < k.modulus && k.secret % 2 == 1 &&
    k.coefficient < k.prime1 && k.coefficient * k.prime2 % k.prime1 == 1

def usableKey : PrivateKey → Bool
  | .rsa k => usableRsa k
  | .ec c secret point portable =>
    (c == Crypto.Curve.p256 || c == Crypto.Curve.p384) && portable && 0 < secret &&
      secret < c.order && point == c.publicOf secret
  | .octets kind _ => kind == .ed25519
  | .pss _ | .dsa _ _ _ => false

/-- Checks whether the engine takes an identity: the key comes before the leaf. -/
def checkIdentity (i : Identity) : Except Error Unit :=
  if usableKey i.key = false then .error (.provider .unusableKey)
  else (LeafForm.check i).mapError .provider

def protocolsOf (r : EngineRequest) : List Bytes := (r.alpn.map (·.names)).getD []

/-- The verifier of a server that asks for certificates. -/
def verifierFor (r : EngineRequest) : Option ClientVerifier :=
  if r.verifiesPeer then
    some ⟨r.trust.judges, r.trust.acceptedIssuers.map (·.subject.encoding),
      r.clientAuth == .required⟩
  else none

/-- The judges of a client: nobody if the peer is not to be verified. -/
def clientJudges (r : EngineRequest) : List Validator :=
  if r.verifiesPeer then r.trust.judges else []

def buildServer (r : EngineRequest) : Except Error RustlsServer := do
  let suites ← suites r.cipherSuites
  match r.key with
  | none => throw (.config .keyMandatory)
  | some identity =>
    checkIdentity identity
    return ⟨suites, protocolsOf r, identity, verifierFor r⟩

def buildClient (r : EngineRequest) : Except Error RustlsClient := do
  let suites ← suites r.cipherSuites
  match r.key with
  | none => pure ()
  | some identity => checkIdentity identity
  return ⟨suites, protocolsOf r, r.key, clientJudges r⟩

/-- The certificates of a peer, which all must be readable. -/
def chainOf (leaf : Bytes) (sent : List Bytes) : Except PeerFault (List Certificate) :=
  match (leaf :: sent).mapM Certificate.decode? with
  | some chain => .ok chain
  | none => .error .badEncoding

def judge (judges : List Validator) (role : Role) (chain : List Certificate) :
    Logged (Except PeerFault Unit) := do
  match ← checkChain judges role chain with
  | .ok () => return .ok ()
  | .error e => return .error (.ofRejection e)

end Rustls

def ClientVerifier.verifyClient (v : ClientVerifier) (chain : List Certificate) :
    Logged (Except PeerFault Unit) :=
  Rustls.judge v.judges .server chain

def ClientVerifier.verifyPresented (v : ClientVerifier) (leaf : Bytes) (sent : List Bytes) :
    Logged (Except PeerFault Unit) :=
  match Rustls.chainOf leaf sent with
  | .error fault => pure (.error fault)
  | .ok chain => v.verifyClient chain

def RustlsClient.verifyServer (c : RustlsClient) (chain : List Certificate) :
    Logged (Except PeerFault Unit) :=
  if c.judges.isEmpty then pure (.ok ()) else Rustls.judge c.judges .client chain

/-- Judges what a server presents, which is not even read if there is nobody to judge it. -/
def RustlsClient.verifyPresented (c : RustlsClient) (leaf : Bytes) (sent : List Bytes) :
    Logged (Except PeerFault Unit) :=
  if c.judges.isEmpty then pure (.ok ())
  else
    match Rustls.chainOf leaf sent with
    | .error fault => pure (.error fault)
    | .ok chain => c.verifyServer chain

/-- The configuration for a client that offers these protocols: without protocols if there are some on
both sides and none in common. -/
def RustlsServer.configFor (s : RustlsServer) (offered : Option (List Bytes)) :
    Logged RustlsServer :=
  match offered with
  | none => pure s
  | some names =>
    if s.protocols.isEmpty || (Alpn.select? s.protocols names).isSome then pure s
    else do
      Logged.note .debug "no application protocol in common with client, not advertising ALPN"
      return { s with protocols := [] }

end TlsSetup
