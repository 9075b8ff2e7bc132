import TlsSetup.Context
import TlsSetup.ServerName

/-!
# Handshakes

How two rustls configurations come to an agreement. The client says which suites and protocols it
wants, most preferred first; the server settles version, suite and protocol. Then the client judges the
chain of the server, and the server the chain of the client if it asked for one.
-/

namespace TlsSetup

open X509

/-- Versions of the protocol, the older one first. -/
inductive Version where
  | tls12
  | tls13
  deriving Repr, DecidableEq

def Version.name : Version → String
  | .tls12 => "TLSv1_2"
  | .tls13 => "TLSv1_3"

def Version.ofSuite (suite : String) : Version :=
  if "TLS13_".toList.isPrefixOf suite.toList then .tls13 else .tls12

/-- What a client says first. -/
structure ClientHello where
  serverName : Option String
  suites : List String
  /-- The protocols that the client offers, unless it does not negotiate them. -/
  protocols : Option (List Bytes)
  deriving Repr, DecidableEq

/-- The first words of a client to a server of this name. -/
def RustlsClient.hello (c : RustlsClient) (name : ServerName) : ClientHello where
  serverName := name.sent
  suites := c.suites
  protocols := if c.protocols.isEmpty then none else some c.protocols

inductive Incompatibility where
  | noVersionInCommon
  | noSuiteInCommon
  | noProtocolInCommon
  deriving Repr, DecidableEq

def Incompatibility.message : Incompatibility → String
  | .noVersionInCommon => "peer is incompatible: Tls12NotOfferedOrEnabled"
  | .noSuiteInCommon => "peer is incompatible: NoCipherSuitesInCommon"
  | .noProtocolInCommon => "peer doesn't support any known protocol"

/-- What a server has settled with a client. -/
structure Agreement where
  config : RustlsServer
  hello : ClientHello
  version : Version
  suite : String
  protocol : Option Bytes

namespace RustlsServer

def offers (suites : List String) (v : Version) : Bool := suites.any fun s => Version.ofSuite s == v

/-- The version of a connection: the newer one if both sides have it. -/
def version (s : RustlsServer) (hello : ClientHello) : Except Incompatibility Version :=
  let both (v : Version) : Bool := offers hello.suites v && offers s.suites v
  if both .tls13 then .ok .tls13
  else if both .tls12 then .ok .tls12
  else .error .noVersionInCommon

/-- Whether a suite can be used with a key; suites of the newer version fit every key. -/
def fits (key : PublicKey) (suite : String) : Bool :=
  Version.ofSuite suite == .tls13 ||
    match key with
    | .rsa _ _ | .pss _ _ => "TLS_ECDHE_RSA_".toList.isPrefixOf suite.toList
    | .ec _ _ | .octets _ _ => "TLS_ECDHE_ECDSA_".toList.isPrefixOf suite.toList
    | .dsa _ _ => false

def canRun (s : RustlsServer) (v : Version) (suite : String) : Bool :=
  s.suites.contains suite && Version.ofSuite suite == v && fits s.identity.key.publicKey suite

/-- The suite of a connection: the first one of the client that the server can run. -/
def suite (s : RustlsServer) (v : Version) (hello : ClientHello) : Except Incompatibility String :=
  match hello.suites.find? (s.canRun v) with
  | some suite => .ok suite
  | none => .error .noSuiteInCommon

/-- The protocol of a connection: the first one of the server that the client offers. A server that has
protocols insists on one of them if the client offers any. -/
def protocol (s : RustlsServer) (hello : ClientHello) : Except Incompatibility (Option Bytes) :=
  match hello.protocols with
  | none => .ok none
  | some names =>
    match Alpn.select? s.protocols names with
    | some chosen => .ok (some chosen.1)
    | none => if s.protocols.isEmpty then .ok none else .error .noProtocolInCommon

/-- Settles version, suite and protocol with a client. -/
def agree (s : RustlsServer) (hello : ClientHello) : Except Incompatibility Agreement := do
  let version ← s.version hello
  let suite ← s.suite version hello
  let protocol ← s.protocol hello
  return ⟨s, hello, version, suite, protocol⟩

end RustlsServer

namespace Context

/-- The configuration for a client, if this is a context of a rustls server. -/
def serverConfigFor (c : Context) (hello : ClientHello) : Logged (Option RustlsServer) :=
  match c.rustlsServer? with
  | none => pure none
  | some s => do return some (← s.configFor hello.protocols)

def answer (c : Context) (hello : ClientHello) : Attempt Agreement := do
  match ← c.serverConfigFor hello with
  | none => throw (.config .notRustlsServer)
  | some config =>
    match config.agree hello with
    | .ok agreement => return agreement
    | .error e => throw (.handshake e.message)

end Context

/-- Which side ends a handshake that had begun, and why. -/
inductive HandshakeFault where
  | client (fault : PeerFault)
  | server (fault : PeerFault)
  /-- The server insists on a certificate, and the client has none. -/
  | noCertificate
  deriving Repr, DecidableEq

namespace HandshakeFault

def side : HandshakeFault → Role
  | .client _ => .client
  | .server _ | .noCertificate => .server

def message : HandshakeFault → String
  | .client fault | .server fault => fault.message
  | .noCertificate => "peer sent no certificates"

end HandshakeFault

namespace Agreement

/-- The names that the server sends when it asks for a certificate. -/
def rootHints (a : Agreement) : Option (List Bytes) := a.config.verifier.map (·.rootHints)

def clientChain (a : Agreement) (c : RustlsClient) : Option (List Certificate) :=
  if a.config.verifier.isSome then c.identity.map (·.chain) else none

def serverChain (a : Agreement) : List Certificate := a.config.identity.chain

def judgeClient (a : Agreement) (c : RustlsClient) : Logged (Except HandshakeFault Unit) :=
  match a.config.verifier with
  | none => pure (.ok ())
  | some verifier =>
    match a.clientChain c with
    | none => pure (if verifier.mandatory then .error .noCertificate else .ok ())
    | some chain => do
      match ← verifier.verifyClient chain with
      | .ok () => return .ok ()
      | .error fault => return .error (.server fault)

/-- Brings the handshake to its end: the client judges first. -/
def complete (a : Agreement) (c : RustlsClient) : Logged (Except HandshakeFault Unit) := do
  match ← c.verifyServer a.serverChain with
  | .error fault => return .error (.client fault)
  | .ok () => a.judgeClient c

end Agreement

end TlsSetup
