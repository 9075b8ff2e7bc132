import TlsSetup.Proofs.AddedLists
import TlsSetup.Proofs.Protocols

/-!
# What a context says of itself

Whoever holds a context decides by what it says of itself, while connections are run by the object of
its engine. The two are made side by side from one request, by code of three kinds, and agree on all
that is settled before a handshake: side, identity, suites, protocols, kept sessions, issuers. They
disagree on whether the peer is verified in the one case of a rustls client without validators.
-/

namespace TlsSetup

open X509

namespace EngineContext

/-- The object is of this engine, and made for this side. -/
def IsFor (engine : Engine) (role : Role) : EngineContext → Prop
  | .openssl c => engine = .openssl ∧ c.role = role
  | .rustlsServer _ => engine = .rustls ∧ role = .server
  | .rustlsClient _ => engine = .rustls ∧ role = .client

def identity : EngineContext → Option Identity
  | .openssl c => c.identity
  | .rustlsServer s => some s.identity
  | .rustlsClient c => c.identity

/-- The object was given exactly these suites, in order. The openssl engine takes those of version 1.3
in a list of their own. -/
def WasGiven (names : List String) : EngineContext → Prop
  | .openssl c => c.modernSuites = names.filter CipherRules.isModern ∧
      c.legacySuites = names.filter fun s => !CipherRules.isModern s
  | .rustlsServer s => s.suites = names
  | .rustlsClient c => c.suites = names

/-- The protocols that the object negotiates, as they come before the peer. -/
def protocolNames : EngineContext → List Bytes
  | .openssl c =>
    match c.alpn with
    | none => []
    | some (.offer wire) => Alpn.decode wire
    | some (.choose names) => names
  | .rustlsServer s => s.protocols
  | .rustlsClient c => c.protocols

/-- Whether the object keeps sessions, if it has a say in it. -/
def sessionCache : EngineContext → Option Bool
  | .openssl c => c.sessionCache
  | .rustlsServer _ | .rustlsClient _ => none

/-- Whether the object wants a certificate from its peer and has it judged. -/
def checksPeer : EngineContext → Bool
  | .openssl c => c.verifyMode.peer
  | .rustlsServer s => s.verifier.isSome
  | .rustlsClient c => !c.judges.isEmpty

/-- The object is what an engine was asked for. -/
structure Fulfils (inner : EngineContext) (engine : Engine) (r : EngineRequest) : Prop where
  isFor : inner.IsFor engine r.role
  identity : inner.identity = r.key
  suites : inner.WasGiven r.cipherSuites
  protocols : inner.protocolNames = Rustls.protocolsOf r
  sessionCache : inner.sessionCache =
    if engine = .openssl ∧ r.role.isServer then some r.sessionCache else none
  authorities : r.role = .server → r.verifiesPeer = true →
    inner.advertised = r.trust.acceptedIssuers.map (·.subject.encoding)
  checksPeer : inner.checksPeer = true ↔
    r.verifiesPeer = true ∧ ¬ Unguarded engine r.role r.trust.judges

end EngineContext

section Engines

variable {r : EngineRequest} {engine : Engine} {inner : EngineContext}

private theorem protocolNames_ofRequest
    (hnames : ∀ a, r.alpn = some a → ∀ name ∈ a.names, Alpn.isName name = true) :
    (EngineContext.openssl (OpensslContext.ofRequest r)).protocolNames = Rustls.protocolsOf r := by
  cases halpn : r.alpn with
  | none => simp [EngineContext.protocolNames, OpensslContext.ofRequest, Rustls.protocolsOf, halpn]
  | some a =>
    cases hrole : r.role with
    | server =>
      simp [EngineContext.protocolNames, OpensslContext.ofRequest, Rustls.protocolsOf, halpn, hrole]
    | client =>
      have hdecode : Alpn.decode a.wire = a.names := Alpn.decode_encode (hnames a halpn)
      simp [EngineContext.protocolNames, OpensslContext.ofRequest, Rustls.protocolsOf, halpn, hrole,
        hdecode]

private theorem fulfils_ofRequest
    (hnames : ∀ a, r.alpn = some a → ∀ name ∈ a.names, Alpn.isName name = true) :
    (EngineContext.openssl (OpensslContext.ofRequest r)).Fulfils .openssl r where
  isFor := ⟨rfl, rfl⟩
  identity := rfl
  suites := ⟨rfl, rfl⟩
  protocols := protocolNames_ofRequest hnames
  sessionCache := by simp [EngineContext.sessionCache, OpensslContext.ofRequest]
  authorities hrole _ := by
    simp [EngineContext.advertised, OpensslContext.ofRequest, hrole, Role.isServer]
  checksPeer := by
    have hguarded : ¬ Unguarded .openssl r.role r.trust.judges := by
      rintro ⟨he, -⟩
      cases he
    rw [and_iff_left hguarded]
    cases hv : r.verifiesPeer <;>
      simp [EngineContext.checksPeer, OpensslContext.ofRequest, OpensslContext.modeFor, hv,
        VerifyMode.none]

theorem Rustls.eq_of_suites {names found : List String} (h : Rustls.suites names = .ok found) :
    found = names := by
  rw [Rustls.suites] at h
  split at h
  · cases h
  · exact (Except.ok.inj h).symm

private theorem fulfils_buildServer {s : RustlsServer} (hrole : r.role = .server)
    (h : Rustls.buildServer r = .ok s) : (EngineContext.rustlsServer s).Fulfils .rustls r := by
  obtain ⟨names, i, hsuites, hkey, -, rfl⟩ := Rustls.buildServer_eq_ok.mp h
  obtain rfl := Rustls.eq_of_suites hsuites
  have hguarded : ¬ Unguarded .rustls r.role r.trust.judges := by
    rintro ⟨-, hclient, -⟩
    rw [hrole] at hclient
    cases hclient
  refine ⟨⟨rfl, hrole⟩, hkey.symm, rfl, rfl, rfl, ?_, ?_⟩
  · intro _ hv
    simp [EngineContext.advertised, Rustls.verifierFor, hv]
  · rw [and_iff_left hguarded]
    cases hv : r.verifiesPeer <;> simp [EngineContext.checksPeer, Rustls.verifierFor, hv]

private theorem fulfils_buildClient {c : RustlsClient} (hrole : r.role = .client)
    (h : Rustls.buildClient r = .ok c) : (EngineContext.rustlsClient c).Fulfils .rustls r := by
  obtain ⟨names, hsuites, -, rfl⟩ := Rustls.buildClient_eq_ok.mp h
  obtain rfl := Rustls.eq_of_suites hsuites
  refine ⟨⟨rfl, hrole⟩, rfl, rfl, rfl, rfl, ?_, ?_⟩
  · intro hserver
    rw [hrole] at hserver
    cases hserver
  -- no judges stand both for a peer that is not verified and for validators without a member
  · have hjudges : (Rustls.clientJudges r).isEmpty = false ↔
        r.verifiesPeer = true ∧ r.trust.judges ≠ [] := by
      cases hv : r.verifiesPeer <;> simp [Rustls.clientJudges, hv]
    simp [EngineContext.checksPeer, Unguarded, hjudges, hrole]

private theorem fulfils_of_engineContext
    (hnames : ∀ a, r.alpn = some a → ∀ name ∈ a.names, Alpn.isName name = true)
    (h : (Options.engineContext engine r).outcome = .ok inner) : inner.Fulfils engine r := by
  rcases Options.engineContext_eq_ok.mp h with ⟨rfl, c, hc, rfl⟩ | ⟨rfl, hrole, s, hs, rfl⟩ |
    ⟨rfl, hrole, c, hc, rfl⟩
  · obtain ⟨-, -, rfl⟩ := OpensslContext.build_eq_ok.mp hc
    exact fulfils_ofRequest hnames
  · exact fulfils_buildServer hrole hs
  · exact fulfils_buildClient hrole hc

private theorem answer_of_unverified (h : (Options.engineContext engine r).outcome = .ok inner)
    (hv : r.verifiesPeer = false) (q : PeerQuestion) (leaf : Bytes) (sent : List Bytes) :
    inner.answer q leaf sent = .accepted := by
  rcases Options.engineContext_eq_ok.mp h with ⟨-, c, hc, rfl⟩ | ⟨-, -, s, hs, rfl⟩ |
    ⟨-, -, c, hc, rfl⟩
  · obtain ⟨-, -, rfl⟩ := OpensslContext.build_eq_ok.mp hc
    simp [EngineContext.answer, OpensslContext.ofRequest, OpensslContext.modeFor, VerifyMode.none, hv]
  · obtain ⟨names, i, -, -, -, rfl⟩ := Rustls.buildServer_eq_ok.mp hs
    simp [EngineContext.answer, Rustls.verifierFor, hv]
  · obtain ⟨names, -, -, rfl⟩ := Rustls.buildClient_eq_ok.mp hc
    apply answer_rustlsClient_nil
    simp [Rustls.clientJudges, hv]

end Engines

/-- A context says of itself what it was made from. -/
structure Context.Describes (c : Context) (o : Options) (role : Role) (useAlpn : Bool)
    (cred : Credentials) : Prop where
  side : c.role = role
  engine : c.engine = o.engine
  key : c.key = cred.identity
  server_key : role = .server → c.key.isSome = true
  suites : c.cipherSuites =
    if o.cipherSuites = [] then o.engine.defaultCipherSuites else o.cipherSuites
  suites_ne_nil : c.cipherSuites ≠ []
  alpn : c.alpn.isSome = true ↔ useAlpn = true ∧ o.protocols ≠ []
  protocols : ∀ a, c.alpn = some a →
    a = ⟨o.protocols, (Options.alpnFailures o.engine).1, (Options.alpnFailures o.engine).2⟩ ∧
      ∀ p ∈ a.protocols, 1 ≤ p.utf8ByteSize ∧ p.utf8ByteSize ≤ 255
  sessionCache : c.sessionCache =
    if o.engine = .openssl ∧ role = .server then some o.sessionCache else none
  acceptedIssuers : c.acceptedIssuers = cred.trust.acceptedIssuers
  verifiesPeer : c.verifiesPeer = true ↔
    cred.trust.isNone = false ∧ (role = .client ∨ o.clientAuth ≠ .none)

/-- The object of a context does what the context says of itself. -/
structure Context.MatchesObject (c : Context) : Prop where
  isFor : c.inner.IsFor c.engine c.role
  identity : c.inner.identity = c.key
  suites : c.inner.WasGiven c.cipherSuites
  protocols : c.inner.protocolNames = c.protocols.map Bytes.ofString
  sessionCache : c.inner.sessionCache = c.sessionCache
  authorities : c.role = .server → c.verifiesPeer = true →
    c.inner.advertised = c.acceptedIssuers.map (·.subject.encoding)

section Contexts

variable {o : Options} {role : Role} {useAlpn : Bool} {cred : Credentials} {c : Context}

theorem Engine.defaultCipherSuites_ne_nil (engine : Engine) : engine.defaultCipherSuites ≠ [] := by
  cases engine <;> simp [Engine.defaultCipherSuites, Engine.rustlsSuites]

theorem Options.effectiveSuites_eq (o : Options) : o.effectiveSuites =
    if o.cipherSuites = [] then o.engine.defaultCipherSuites else o.cipherSuites := by
  simp [effectiveSuites]

theorem Options.effectiveSuites_ne_nil (o : Options) : o.effectiveSuites ≠ [] := by
  rw [effectiveSuites_eq]
  split
  · exact o.engine.defaultCipherSuites_ne_nil
  · assumption

private theorem isName_of_alpnConfig {alpn : Option AlpnConfig}
    (h : o.alpnConfig useAlpn = .ok alpn) :
    ∀ a, alpn = some a → ∀ name ∈ a.names, Alpn.isName name = true := by
  intro a ha name hname
  rcases Options.alpnConfig_eq_ok.mp h with ⟨-, hnames, rfl⟩ | ⟨-, rfl⟩
  · obtain rfl := Option.some.inj ha
    obtain ⟨p, hp, rfl⟩ := List.mem_map.mp hname
    exact hnames p hp
  · cases ha

theorem describes_of_assemble (hc : (o.assemble role useAlpn cred).outcome = .ok c) :
    c.Describes o role useAlpn cred := by
  obtain ⟨hkey, alpn, inner, halpn, -, rfl⟩ := Options.assemble_eq_ok.mp hc
  refine ⟨rfl, rfl, rfl, hkey, o.effectiveSuites_eq, o.effectiveSuites_ne_nil, ?_, ?_, ?_, rfl, ?_⟩
  · change alpn.isSome = true ↔ _
    rcases Options.alpnConfig_eq_ok.mp halpn with ⟨hwanted, -, rfl⟩ | ⟨hunwanted, rfl⟩
    · simp [hwanted]
    · simp [hunwanted]
  · intro a ha
    rcases Options.alpnConfig_eq_ok.mp halpn with ⟨-, hnames, rfl⟩ | ⟨-, rfl⟩
    · obtain rfl := Option.some.inj ha
      exact ⟨rfl, fun p hp => Alpn.isName_iff.mp (hnames p hp)⟩
    · cases ha
  · cases role <;> simp [Options.contextOf, Options.engineRequest, Options.sessionCacheFor,
      Role.isServer]
  · cases role <;> simp [Options.contextOf, Options.engineRequest, EngineRequest.verifiesPeer]

theorem matchesObject_of_assemble (hc : (o.assemble role useAlpn cred).outcome = .ok c) :
    c.MatchesObject := by
  obtain ⟨-, alpn, inner, halpn, hinner, rfl⟩ := Options.assemble_eq_ok.mp hc
  have hfulfils := fulfils_of_engineContext (isName_of_alpnConfig halpn) hinner
  refine ⟨hfulfils.isFor, hfulfils.identity, hfulfils.suites, ?_, ?_, hfulfils.authorities⟩
  · refine hfulfils.protocols.trans ?_
    cases alpn <;> rfl
  · refine hfulfils.sessionCache.trans ?_
    change _ = o.sessionCacheFor role
    by_cases h : o.engine = .openssl ∧ role.isServer = true
    · simp [Options.engineRequest, Options.sessionCacheFor, h]
    · simp [Options.engineRequest, Options.sessionCacheFor, h]

/-- The object checks the peer as the context says, unless it is a rustls client that is told to verify
its peer and given nobody to do it. -/
theorem checksPeer_eq_iff (hc : (o.assemble role useAlpn cred).outcome = .ok c) :
    c.inner.checksPeer = c.verifiesPeer ↔
      (c.verifiesPeer = true → ¬ Unguarded o.engine role cred.trust.judges) := by
  obtain ⟨-, alpn, inner, halpn, hinner, rfl⟩ := Options.assemble_eq_ok.mp hc
  have hchecks : inner.checksPeer = true ↔ (o.engineRequest role alpn cred).verifiesPeer = true ∧
      ¬ Unguarded o.engine role cred.trust.judges :=
    (fulfils_of_engineContext (isName_of_alpnConfig halpn) hinner).checksPeer
  rw [Bool.eq_iff_iff]
  change (inner.checksPeer = true ↔ (o.engineRequest role alpn cred).verifiesPeer = true) ↔ _
  rw [hchecks, and_iff_left_iff_imp]
  rfl

private theorem answer_eq_iff {q : PeerQuestion} {leaf : Bytes} {sent : List Bytes}
    {chain : List Certificate} (hc : (o.assemble role useAlpn cred).outcome = .ok c)
    (hp : Presents q leaf sent chain) :
    c.inner.answer q leaf sent =
        (if c.verifiesPeer then judgement cred.trust.judges role chain else .accepted) ↔
      (c.verifiesPeer = true → ¬ Unguarded o.engine role cred.trust.judges) := by
  obtain ⟨-, alpn, inner, -, hinner, rfl⟩ := Options.assemble_eq_ok.mp hc
  cases hv : (o.engineRequest role alpn cred).verifiesPeer with
  | false =>
    have haccepts := answer_of_unverified hinner hv q leaf sent
    simp [Options.contextOf, hv, haccepts]
  | true =>
    have hverifies : (o.contextOf (o.engineRequest role alpn cred) inner).verifiesPeer = true := hv
    rw [hverifies, if_pos rfl, imp_iff_right rfl]
    constructor
    · intro hanswer hu
      have haccepts : inner.answer q leaf sent = .accepted := answer_of_unguarded hinner hu
      -- nobody accepts for want of a judge, but this client does
      obtain ⟨-, -, hnil⟩ := hu
      rw [hnil, judgement_nil] at hanswer
      cases hanswer.symm.trans haccepts
    · exact answer_of_guarded hinner hv hp

/-- An assembled context says of itself what it was made from, and its object does what it says. Only
whether the peer is verified depends on the trust: a rustls client without validators says that it
verifies its peer, and accepts every chain. -/
theorem assembled_context_agrees_with_object
    (hc : (o.assemble role useAlpn cred).outcome = .ok c) :
    c.Describes o role useAlpn cred ∧ c.MatchesObject ∧
    (c.inner.checksPeer = c.verifiesPeer ↔
      (c.verifiesPeer = true → ¬ Unguarded o.engine role cred.trust.judges)) ∧
    ∀ q leaf sent chain, Presents q leaf sent chain →
      (c.inner.answer q leaf sent =
          (if c.verifiesPeer then judgement cred.trust.judges role chain else .accepted) ↔
        (c.verifiesPeer = true → ¬ Unguarded o.engine role cred.trust.judges)) := by
  refine ⟨describes_of_assemble hc, matchesObject_of_assemble hc, checksPeer_eq_iff hc, ?_⟩
  intro q leaf sent chain hp
  exact answer_eq_iff hc hp

end Contexts

def negotiatingOptions : Options :=
  { bareOptions .rustls with protocols := ["h2", "http/1.1"] }

theorem assembled_context_agrees_with_object_negotiating :
    ∃ c, (negotiatingOptions.assemble .client true
        ⟨none, .validators [Validator.revokeAll] []⟩).outcome = .ok c ∧
      c.inner.protocolNames = ["h2", "http/1.1"].map Bytes.ofString ∧
      c.verifiesPeer = true ∧ c.inner.checksPeer = true := by
  have hnames : ∀ p ∈ ["h2", "http/1.1"], Alpn.isName (Bytes.ofString p) = true := by
    decide +kernel
  have halpn : negotiatingOptions.alpnConfig true =
      .ok (some ⟨["h2", "http/1.1"], .noAdvertise, .fatalAlert⟩) :=
    Options.alpnConfig_eq_ok.mpr (.inl ⟨⟨rfl, by simp [negotiatingOptions]⟩, hnames, rfl⟩)
  obtain ⟨inner, hinner⟩ : ∃ inner, (Options.engineContext .rustls
      (negotiatingOptions.engineRequest .client
        (some ⟨["h2", "http/1.1"], .noAdvertise, .fatalAlert⟩)
        ⟨none, .validators [Validator.revokeAll] []⟩)).outcome = .ok inner := ⟨_, rfl⟩
  have hc := Options.assemble_eq_ok.mpr ⟨by simp, _, inner, halpn, hinner, rfl⟩
  obtain ⟨hdescribes, hmatches, hchecks, -⟩ := assembled_context_agrees_with_object hc
  have hv := hdescribes.verifiesPeer.mpr ⟨rfl, .inl rfl⟩
  refine ⟨_, hc, hmatches.protocols, hv, ?_⟩
  rw [hchecks.mpr, hv]
  rintro - ⟨-, -, hnil⟩
  cases hnil

/-- Of two clients with the very same object one says that it verifies its peer and one that it does
not, so nothing that the object does can agree with both. -/
theorem one_object_said_to_verify_and_not_to :
    ∃ c c', ((bareOptions .rustls).assemble .client false ⟨none, .validators [] []⟩).outcome =
        .ok c ∧
      ((bareOptions .rustls).assemble .client false ⟨none, .none⟩).outcome = .ok c' ∧
      c.inner = c'.inner ∧ c.verifiesPeer = true ∧ c'.verifiesPeer = false ∧
      c.inner.checksPeer = false := by
  have halpn : (bareOptions .rustls).alpnConfig false = .ok none := rfl
  exact ⟨_, _, Options.assemble_eq_ok.mpr ⟨by simp, none, _, halpn, rfl, rfl⟩,
    Options.assemble_eq_ok.mpr ⟨by simp, none, _, halpn, rfl, rfl⟩, rfl, rfl, rfl, rfl⟩

end TlsSetup
