import TlsSetup.Proofs.Creation
import TlsSetup.Proofs.Verdict

/-!
# Peers are verified

The three verifiers of the engines each put the chain of a peer together on their own, and report the
verdict on it in their own words. They agree with the verdict of the validators of the trust and so
with each other, but for one case: the rustls client takes a list without validators for the wish that
nobody be verified, and accepts every chain where the others accept none.
-/

namespace TlsSetup

open X509

inductive PeerAnswer where
  | accepted
  | revoked
  | refused
  | unreadable
  deriving Repr, DecidableEq

namespace PeerAnswer

def ofVerdict : Verdict → PeerAnswer
  | .ok () => .accepted
  | .error .revoked => .revoked
  | .error (.rejected _) | .error .emptyChain => .refused

def ofOpenssl : Except VerifyCode Unit → PeerAnswer
  | .ok () => .accepted
  | .error .certificateRevoked => .revoked
  | .error .certificateRejected => .refused

def ofRustls : Except PeerFault Unit → PeerAnswer
  | .ok () => .accepted
  | .error .badEncoding => .unreadable
  | .error .revoked => .revoked
  | .error (.other _) => .refused

end PeerAnswer

/-- One chain as it comes before both engines: at a question about the leaf, and as it is sent. -/
structure Presents (q : PeerQuestion) (leaf : Bytes) (sent : List Bytes)
    (chain : List Certificate) : Prop where
  at_leaf : q.depth = 0
  asked : q.certificates = chain
  readable : (leaf :: sent).mapM Certificate.decode? = some chain

/-- What the verifier of an engine's object answers; without a verifier every peer is accepted. -/
def EngineContext.answer (q : PeerQuestion) (leaf : Bytes) (sent : List Bytes) :
    EngineContext → PeerAnswer
  | .openssl c => if c.verifyMode.peer then .ofOpenssl (c.answer q).value else .accepted
  | .rustlsServer s =>
    match s.verifier with
    | some v => .ofRustls (v.verifyPresented leaf sent).value
    | none => .accepted
  | .rustlsClient c => .ofRustls (c.verifyPresented leaf sent).value

/-- What the validators say. -/
def judgement (vs : List Validator) (role : Role) (chain : List Certificate) : PeerAnswer :=
  .ofVerdict (checkChain vs role chain).value

theorem judgement_nil (role : Role) (chain : List Certificate) :
    judgement [] role chain = .refused := rfl

section Verifiers

variable {q : PeerQuestion} {leaf : Bytes} {sent : List Bytes} {chain : List Certificate}

private theorem ofOpenssl_verifyPeer (c : OpensslContext) (chain : List Certificate) :
    PeerAnswer.ofOpenssl (c.verifyPeer chain).value = judgement c.judges c.role chain := by
  rw [OpensslContext.verifyPeer, judgement, Logged.value_bind]
  cases (checkChain c.judges c.role chain).value with
  | ok => rfl
  | error e => cases e <;> rfl

private theorem ofRustls_judge (vs : List Validator) (role : Role) (chain : List Certificate) :
    PeerAnswer.ofRustls (Rustls.judge vs role chain).value = judgement vs role chain := by
  rw [Rustls.judge, judgement, Logged.value_bind]
  cases (checkChain vs role chain).value with
  | ok => rfl
  | error e => cases e <;> rfl

private theorem chainOf_of_presents (h : Presents q leaf sent chain) :
    Rustls.chainOf leaf sent = .ok chain := by
  rw [Rustls.chainOf, h.readable]

private theorem answer_openssl (c : OpensslContext) (h : Presents q leaf sent chain) :
    PeerAnswer.ofOpenssl (c.answer q).value = judgement c.judges c.role chain := by
  rw [OpensslContext.answer, if_neg (not_not.mpr h.at_leaf), h.asked, ofOpenssl_verifyPeer]

private theorem answer_rustlsServer (v : ClientVerifier) (h : Presents q leaf sent chain) :
    PeerAnswer.ofRustls (v.verifyPresented leaf sent).value = judgement v.judges .server chain := by
  rw [ClientVerifier.verifyPresented, chainOf_of_presents h]
  exact ofRustls_judge v.judges .server chain

private theorem answer_rustlsClient (c : RustlsClient) (hne : c.judges ≠ [])
    (h : Presents q leaf sent chain) :
    PeerAnswer.ofRustls (c.verifyPresented leaf sent).value = judgement c.judges .client chain := by
  have hsome : c.judges.isEmpty = false := by simpa using hne
  rw [RustlsClient.verifyPresented, hsome, chainOf_of_presents h]
  simp only [Bool.false_eq_true, if_false, RustlsClient.verifyServer, hsome]
  exact ofRustls_judge c.judges .client chain

theorem answer_rustlsClient_nil (c : RustlsClient) (hnil : c.judges = []) :
    PeerAnswer.ofRustls (c.verifyPresented leaf sent).value = .accepted := by
  simp [RustlsClient.verifyPresented, hnil, PeerAnswer.ofRustls]

end Verifiers

/-- A rustls client without validators. -/
def Unguarded (engine : Engine) (role : Role) (vs : List Validator) : Prop :=
  engine = .rustls ∧ role = .client ∧ vs = []

section Engines

variable {engine : Engine} {r : EngineRequest} {inner : EngineContext}
  {q : PeerQuestion} {leaf : Bytes} {sent : List Bytes} {chain : List Certificate}

/-- Every object that an engine makes for a peer to be verified has a verifier, and that passes on the
verdict of the validators that are asked for. -/
theorem answer_of_guarded (h : (Options.engineContext engine r).outcome = .ok inner)
    (hv : r.verifiesPeer = true) (hp : Presents q leaf sent chain)
    (hg : ¬ Unguarded engine r.role r.trust.judges) :
    inner.answer q leaf sent = judgement r.trust.judges r.role chain := by
  rcases Options.engineContext_eq_ok.mp h with ⟨-, c, hc, rfl⟩ | ⟨-, hr, s, hs, rfl⟩ |
    ⟨he, hr, c, hc, rfl⟩
  · obtain ⟨-, -, rfl⟩ := OpensslContext.build_eq_ok.mp hc
    have hpeer : (OpensslContext.ofRequest r).verifyMode.peer = true := by
      simp [OpensslContext.ofRequest, OpensslContext.modeFor, hv]
    rw [EngineContext.answer, if_pos hpeer]
    exact answer_openssl _ hp
  · obtain ⟨names, i, -, -, -, rfl⟩ := Rustls.buildServer_eq_ok.mp hs
    simp only [EngineContext.answer, Rustls.verifierFor, hv, if_true]
    rw [answer_rustlsServer _ hp, hr]
  · obtain ⟨names, -, -, rfl⟩ := Rustls.buildClient_eq_ok.mp hc
    have hjudges : Rustls.clientJudges r = r.trust.judges := if_pos hv
    have hne : r.trust.judges ≠ [] := fun hnil => hg ⟨he, hr, hnil⟩
    rw [EngineContext.answer, hjudges, answer_rustlsClient _ hne hp, hr]

theorem answer_of_unguarded (h : (Options.engineContext engine r).outcome = .ok inner)
    (hu : Unguarded engine r.role r.trust.judges) : inner.answer q leaf sent = .accepted := by
  obtain ⟨rfl, hrole, hnil⟩ := hu
  rcases Options.engineContext_eq_ok.mp h with ⟨he, -⟩ | ⟨-, hr, -⟩ | ⟨-, -, c, hc, rfl⟩
  · cases he
  · rw [hrole] at hr
    cases hr
  · obtain ⟨names, -, -, rfl⟩ := Rustls.buildClient_eq_ok.mp hc
    apply answer_rustlsClient_nil
    simp [Rustls.clientJudges, hnil]

end Engines

section Contexts

variable {o : Options} {role : Role} {useAlpn : Bool} {cred : Credentials} {c : Context}
  {q : PeerQuestion} {leaf : Bytes} {sent : List Bytes} {chain : List Certificate}

private theorem answer_eq_judgement {vs : List Validator}
    (hc : (o.assemble role useAlpn cred).outcome = .ok c) (hv : c.verifiesPeer = true)
    (hp : Presents q leaf sent chain) (hvs : cred.trust.judges = vs)
    (hg : ¬ Unguarded o.engine role vs) :
    c.inner.answer q leaf sent = judgement vs role chain := by
  subst hvs
  obtain ⟨-, alpn, inner, -, hinner, rfl⟩ := Options.assemble_eq_ok.mp hc
  exact answer_of_guarded hinner hv hp hg

private theorem answer_eq_accepted {vs : List Validator}
    (hc : (o.assemble role useAlpn cred).outcome = .ok c) (hvs : cred.trust.judges = vs)
    (hu : Unguarded o.engine role vs) : c.inner.answer q leaf sent = .accepted := by
  subst hvs
  obtain ⟨-, alpn, inner, -, hinner, rfl⟩ := Options.assemble_eq_ok.mp hc
  exact answer_of_unguarded hinner hu

/-- The verifier of a context that verifies its peer answers as the validators of its trust do, and as
that of every other such context for the same role and trust, on whatever engine. Only a rustls client
without validators does not: it accepts every chain, where every other context accepts none. -/
theorem verifying_context_answers_as_judged
    (hc : (o.assemble role useAlpn cred).outcome = .ok c) (hv : c.verifiesPeer = true)
    (hp : Presents q leaf sent chain) :
    (c.inner.answer q leaf sent = judgement cred.trust.judges role chain ↔
      ¬ Unguarded o.engine role cred.trust.judges) ∧
    (Unguarded o.engine role cred.trust.judges →
      c.inner.answer q leaf sent = .accepted ∧
        judgement cred.trust.judges role chain = .refused) ∧
    ∀ (o' : Options) (useAlpn' : Bool) (cred' : Credentials) (c' : Context),
      (o'.assemble role useAlpn' cred').outcome = .ok c' → c'.verifiesPeer = true →
      cred'.trust = cred.trust →
      (c'.inner.answer q leaf sent = c.inner.answer q leaf sent ↔
        (Unguarded o'.engine role cred.trust.judges ↔
          Unguarded o.engine role cred.trust.judges)) := by
  have hrefused : ∀ engine, Unguarded engine role cred.trust.judges →
      judgement cred.trust.judges role chain = .refused := by
    rintro engine ⟨-, -, hnil⟩
    rw [hnil, judgement_nil]
  refine ⟨⟨?_, answer_eq_judgement hc hv hp rfl⟩, ?_, ?_⟩
  · intro h hu
    rw [answer_eq_accepted hc rfl hu, hrefused _ hu] at h
    cases h
  · intro hu
    exact ⟨answer_eq_accepted hc rfl hu, hrefused _ hu⟩
  · intro o' useAlpn' cred' c' hc' hv' htrust
    have hvs : cred'.trust.judges = cred.trust.judges := congrArg Trust.judges htrust
    by_cases hu : Unguarded o.engine role cred.trust.judges
    · rw [answer_eq_accepted hc rfl hu]
      by_cases hu' : Unguarded o'.engine role cred.trust.judges
      · rw [answer_eq_accepted hc' hvs hu']
        simp [hu, hu']
      · rw [answer_eq_judgement hc' hv' hp hvs hu', hrefused _ hu]
        simp [hu, hu']
    · rw [answer_eq_judgement hc hv hp rfl hu]
      by_cases hu' : Unguarded o'.engine role cred.trust.judges
      · rw [answer_eq_accepted hc' hvs hu', hrefused _ hu']
        simp [hu, hu']
      · rw [answer_eq_judgement hc' hv' hp hvs hu']
        simp [hu, hu']

/-- Options never give validators without a member, so every context that they create and that verifies
its peer answers as its validators judge. -/
theorem created_context_answers_as_judged {serverName : Option String} {trustAll : Bool}
    (hc : (o.contextFor serverName useAlpn role trustAll).outcome = .ok c)
    (hv : c.verifiesPeer = true) (hp : Presents q leaf sent chain) :
    ∃ trust, (o.trustFor serverName trustAll).outcome = .ok trust ∧
      c.inner.answer q leaf sent = judgement trust.judges role chain := by
  obtain ⟨cred, hcred, hc⟩ := Options.contextFor_eq_ok.mp hc
  have htrust := (Options.credentialsFor_eq_ok.mp hcred).1
  refine ⟨cred.trust, htrust, answer_eq_judgement hc hv hp rfl ?_⟩
  rintro ⟨-, -, hnil⟩
  exact Options.judges_ne_nil_of_trustFor htrust (Options.trust_of_verifiesPeer hc hv) hnil

end Contexts

/-- A suite that an engine knows. -/
def knownSuite : Engine → String
  | .openssl => "TLS_AES_128_GCM_SHA256"
  | .rustls => "TLS13_AES_128_GCM_SHA256"

/-- Options with one suite and nothing else. -/
def bareOptions (engine : Engine) : Options where
  engine := engine
  sessionCache := false
  keySource := none
  trustSource := none
  crlPaths := []
  crlValues := []
  cipherSuites := [knownSuite engine]
  protocols := []
  clientAuth := .none
  resources := ⟨id, fun _ => pure (.ok [])⟩

theorem checkSuites_knownSuite (r : EngineRequest)
    (h : r.cipherSuites = [knownSuite .openssl]) :
    OpensslContext.checkSuites (OpensslContext.modernOf r) (OpensslContext.legacyOf r) =
      .ok () := by
  have hname : CipherRules.isModern (knownSuite .openssl) = true := by decide +kernel
  have haccepts : CipherRules.acceptsModern [knownSuite .openssl] = true := by decide +kernel
  have hmodern : OpensslContext.modernOf r = [knownSuite .openssl] := by
    simp [OpensslContext.modernOf, h, hname]
  have hlegacy : OpensslContext.legacyOf r = [] := by simp [OpensslContext.legacyOf, h, hname]
  have hnul : '\x00' ∉ (knownSuite .openssl).toList := by decide +kernel
  rw [hmodern, hlegacy, OpensslContext.checkSuites]
  simp [haccepts, hnul]

private theorem build_bareOptions (engine : Engine) (trust : Trust) :
    ∃ inner, (Options.engineContext engine
      ((bareOptions engine).engineRequest .client none ⟨none, trust⟩)).outcome = .ok inner := by
  cases engine with
  | openssl =>
    have hkey : ∀ i, ((bareOptions .openssl).engineRequest .client none ⟨none, trust⟩).key =
        some i → OpensslContext.acceptsIdentity i = true := by
      simp [Options.engineRequest]
    have hbuild := OpensslContext.build_eq_ok.mpr ⟨hkey, checkSuites_knownSuite _ rfl, rfl⟩
    exact ⟨_, Options.engineContext_eq_ok.mpr (.inl ⟨rfl, _, hbuild, rfl⟩)⟩
  | rustls => exact ⟨_, rfl⟩

private theorem exists_verifying_client (engine : Engine) (vs : List Validator) :
    ∃ c, ((bareOptions engine).assemble .client false ⟨none, .validators vs []⟩).outcome = .ok c ∧
      c.verifiesPeer = true := by
  obtain ⟨inner, hinner⟩ := build_bareOptions engine (.validators vs [])
  have halpn : (bareOptions engine).alpnConfig false = .ok none := by simp [Options.alpnConfig]
  refine ⟨_, Options.assemble_eq_ok.mpr ⟨by simp, none, inner, halpn, hinner, rfl⟩, rfl⟩

/-- The encoding of a certificate with the serial number 7 and nameless holder and issuer. -/
def bareCertificateBytes : Bytes :=
  [48, 72, 48, 59, 2, 1, 7, 48, 5, 6, 3, 42, 3, 4, 48, 0, 48, 30, 23, 13, 50, 52, 48, 49, 48, 49,
    48, 48, 48, 48, 48, 48, 90, 23, 13, 50, 53, 48, 49, 48, 49, 48, 48, 48, 48, 48, 48, 90, 48, 0,
    48, 11, 48, 5, 6, 3, 42, 3, 4, 3, 2, 0, 1, 48, 5, 6, 3, 42, 3, 4, 3, 2, 0, 1]

private theorem presents_bareCertificateBytes :
    ∃ q chain, Presents q bareCertificateBytes [] chain := by
  have hread : ([bareCertificateBytes].mapM Certificate.decode?).isSome = true := by cbv
  obtain ⟨chain, hchain⟩ := Option.isSome_iff_exists.mp hread
  exact ⟨⟨0, some chain, none⟩, chain, rfl, rfl, hchain⟩

theorem verifying_context_answers_as_judged_revokeAll :
    ∃ c q chain, ((bareOptions .rustls).assemble .client false
        ⟨none, .validators [Validator.revokeAll] []⟩).outcome = .ok c ∧ c.verifiesPeer = true ∧
      Presents q bareCertificateBytes [] chain ∧
      c.inner.answer q bareCertificateBytes [] = .revoked := by
  obtain ⟨c, hc, hv⟩ := exists_verifying_client .rustls [Validator.revokeAll]
  obtain ⟨q, chain, hp⟩ := presents_bareCertificateBytes
  refine ⟨c, q, chain, hc, hv, hp, ?_⟩
  have hguarded : ¬ Unguarded (bareOptions .rustls).engine .client [Validator.revokeAll] := by
    rintro ⟨-, -, hnil⟩
    cases hnil
  exact (verifying_context_answers_as_judged hc hv hp).1.mpr hguarded

/-- Of two clients for the same trust, which both say that they verify their peer, one refuses and one
accepts the same chain. -/
theorem rustls_client_without_validators_accepts :
    ∃ c c' q chain,
      ((bareOptions .rustls).assemble .client false ⟨none, .validators [] []⟩).outcome = .ok c ∧
      ((bareOptions .openssl).assemble .client false ⟨none, .validators [] []⟩).outcome = .ok c' ∧
      c.verifiesPeer = true ∧ c'.verifiesPeer = true ∧
      Presents q bareCertificateBytes [] chain ∧
      (checkChain [] .client chain).value = .error .noValidator ∧
      c'.inner.answer q bareCertificateBytes [] = .refused ∧
      c.inner.answer q bareCertificateBytes [] = .accepted := by
  obtain ⟨c, hc, hv⟩ := exists_verifying_client .rustls []
  obtain ⟨c', hc', hv'⟩ := exists_verifying_client .openssl []
  obtain ⟨q, chain, hp⟩ := presents_bareCertificateBytes
  have hguarded : ¬ Unguarded (bareOptions .openssl).engine .client [] := by
    rintro ⟨he, -⟩
    cases he
  refine ⟨c, c', q, chain, hc, hc', hv, hv', hp, rfl, ?_, ?_⟩
  · exact answer_eq_judgement hc' hv' hp rfl hguarded
  · exact answer_eq_accepted hc rfl ⟨rfl, rfl, rfl⟩

end TlsSetup
