import TlsSetup.Handshake
import TlsSetup.Proofs.PeerVerification

/-!
# Clients without a certificate

A server that requires certificates demands one from its clients exactly if there is somebody to judge
it. Without trust it demands none, and lets in every client that accepts it.
-/

namespace TlsSetup

open X509

namespace EngineContext

end EngineContext

section Handshakes

variable {c : Context} {hello : ClientHello} {a : Agreement} {r : RustlsClient}

private theorem verifier_configFor (s : RustlsServer) (offered : Option (List Bytes)) :
    (s.configFor offered).value.verifier = s.verifier := by
  cases offered with
  | none => rfl
  | some names =>
    rw [RustlsServer.configFor]
    split <;> rfl

private theorem config_of_agree {s : RustlsServer} (h : s.agree hello = .ok a) : a.config = s := by
  obtain ⟨version, -, h⟩ := except_bind_eq_ok.mp h
  obtain ⟨suite, -, h⟩ := except_bind_eq_ok.mp h
  obtain ⟨protocol, -, h⟩ := except_bind_eq_ok.mp h
  rw [except_pure_eq_ok.mp h]

theorem value_serverConfigFor (c : Context) (hello : ClientHello) :
    (c.serverConfigFor hello).value =
      c.rustlsServer?.map fun s => (s.configFor hello.protocols).value := by
  rw [Context.serverConfigFor]
  cases c.rustlsServer? <;> rfl

theorem outcome_answer (c : Context) (hello : ClientHello) :
    (c.answer hello).outcome =
      match c.rustlsServer? with
      | none => .error (.config .notRustlsServer)
      | some s =>
        ((s.configFor hello.protocols).value.agree hello).mapError fun e =>
          Error.handshake e.message := by
  rw [Context.answer, Attempt.outcome_bind, Attempt.outcome_lift, value_serverConfigFor]
  cases c.rustlsServer? with
  | none => rfl
  | some s =>
    cases hagree : (s.configFor hello.protocols).value.agree hello <;>
      simp [hagree, bind, Except.bind, Except.mapError]

theorem server_of_answer (h : (c.answer hello).outcome = .ok a) :
    ∃ s, c.inner = .rustlsServer s ∧ a.config.verifier = s.verifier := by
  rw [outcome_answer, Context.rustlsServer?] at h
  cases hinner : c.inner with
  | rustlsServer s =>
    rw [hinner] at h
    cases hagree : (s.configFor hello.protocols).value.agree hello with
    | error e => simp [hagree, Except.mapError] at h
    | ok agreement =>
      obtain rfl : agreement = a := by simpa [hagree, Except.mapError] using h
      exact ⟨s, rfl, by rw [config_of_agree hagree, verifier_configFor]⟩
  | openssl _ => simp [hinner] at h
  | rustlsClient _ => simp [hinner] at h

end Handshakes

section Servers

variable {o : Options} {useAlpn : Bool} {cred : Credentials} {c : Context}

end Servers

def curveAlgorithm : Algorithm := ⟨[1, 2, 840, 10045, 4, 3, 2], none⟩

def baseKey : PrivateKey :=
  .ec Crypto.Curve.p256 1 (some (Crypto.Curve.p256.gx, Crypto.Curve.p256.gy)) true

/-- A certificate for that key with nameless holder and issuer. -/
def baseLeaf : Certificate where
  version := 2
  serial := 7
  innerAlgorithm := curveAlgorithm
  issuer := ⟨[], [48, 0]⟩
  notBefore := ⟨.utcTime, []⟩
  notAfter := ⟨.utcTime, []⟩
  subject := ⟨[], [48, 0]⟩
  key :=
    ⟨⟨PublicKey.ecOid,
        some ⟨.oid, false, Der.oidBytes Crypto.Curve.p256.oid,
          Der.encode 6 (Der.oidBytes Crypto.Curve.p256.oid)⟩⟩,
      4 :: (Bytes.ofNat 32 Crypto.Curve.p256.gx ++ Bytes.ofNat 32 Crypto.Curve.p256.gy), true⟩
  extensions := []
  algorithm := curveAlgorithm
  signature := ⟨0, []⟩
  signedPart :=
    Der.encode 48
      (Der.encode 160 (Der.encode 2 [2]) ++ Der.encode 2 [7] ++
        Der.encode 48 curveAlgorithm.content ++ Der.encode 48 [] ++ Der.encode 48 [] ++
        Der.encode 48 [] ++ Der.encode 48 baseKey.publicKey.content)

def baseIdentity : Identity := ⟨baseKey, baseLeaf, [], by decide +kernel⟩

private theorem checkIdentity_baseIdentity : Rustls.checkIdentity baseIdentity = .ok () := by
  decide +kernel

private theorem acceptsIdentity_baseIdentity :
    OpensslContext.acceptsIdentity baseIdentity = true := by
  decide +kernel

theorem exists_server_of_baseIdentity {o : Options} {useAlpn : Bool} {alpn : Option AlpnConfig}
    (hsuites : o.cipherSuites = [knownSuite o.engine]) (halpn : o.alpnConfig useAlpn = .ok alpn)
    (trust : Trust) :
    ∃ c, (o.assemble .server useAlpn ⟨some baseIdentity, trust⟩).outcome = .ok c ∧
      c.alpn = alpn := by
  have hgiven : o.effectiveSuites = [knownSuite o.engine] := by
    simp [Options.effectiveSuites, hsuites]
  obtain ⟨inner, hinner⟩ : ∃ inner, (Options.engineContext o.engine
      (o.engineRequest .server alpn ⟨some baseIdentity, trust⟩)).outcome = .ok inner := by
    cases he : o.engine with
    | openssl =>
      rw [he] at hgiven
      have hkey : ∀ i, (o.engineRequest .server alpn ⟨some baseIdentity, trust⟩).key = some i →
          OpensslContext.acceptsIdentity i = true := by
        rintro i hi
        obtain rfl := Option.some.inj hi
        exact acceptsIdentity_baseIdentity
      have hbuild := OpensslContext.build_eq_ok.mpr ⟨hkey, checkSuites_knownSuite _ hgiven, rfl⟩
      exact ⟨_, Options.engineContext_eq_ok.mpr (.inl ⟨rfl, _, hbuild, rfl⟩)⟩
    | rustls =>
      rw [he] at hgiven
      have hnames : Rustls.suites o.effectiveSuites = .ok [knownSuite .rustls] := by
        rw [hgiven]
        rfl
      have hbuild := Rustls.buildServer_eq_ok
        (r := o.engineRequest .server alpn ⟨some baseIdentity, trust⟩).mpr
        ⟨_, _, hnames, rfl, checkIdentity_baseIdentity, rfl⟩
      exact ⟨_, Options.engineContext_eq_ok.mpr (.inr (.inl ⟨rfl, rfl, _, hbuild, rfl⟩))⟩
  exact ⟨_, Options.assemble_eq_ok.mpr ⟨fun _ => rfl, alpn, inner, halpn, hinner, rfl⟩, rfl⟩

end TlsSetup
