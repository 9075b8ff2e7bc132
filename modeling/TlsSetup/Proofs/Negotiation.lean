import TlsSetup.Proofs.ClientAuth
import TlsSetup.Proofs.Coherence

/-!
# Both engines negotiate the same protocol

A server of the openssl engine takes a client's list of protocols apart and chooses from it. A server of
the rustls engine gives the client a configuration that does not insist on a protocol if there is none
in common, and the engine chooses. Either way the protocol is the first of the server's that the client
offers, and no handshake fails for want of one.
-/

namespace TlsSetup

namespace Alpn

theorem isSome_findIdx? (name : Bytes) (offered : List Bytes) :
    (offered.findIdx? (· == name)).isSome = offered.contains name := by
  rw [List.findIdx?_isSome, List.any_beq']

theorem map_fst_select? (ours offered : List Bytes) :
    (select? ours offered).map (·.1) = ours.find? (offered.contains ·) := by
  induction ours with
  | nil => rfl
  | cons name rest ih =>
    rw [select?] at ih ⊢
    rw [List.findSome?_cons, List.find?_cons, ← isSome_findIdx?]
    cases offered.findIdx? (· == name) with
    | none => exact ih
    | some i => rfl

theorem select?_eq_none_iff {ours offered : List Bytes} :
    select? ours offered = none ↔ ∀ name ∈ ours, name ∉ offered := by
  rw [← Option.map_eq_none_iff (f := Prod.fst), map_fst_select?]
  simp

/-- The first of our names that an offer contains. -/
def firstCommon (ours : List Bytes) (offer : Option (List Bytes)) : Option Bytes :=
  offer.bind fun names => ours.find? (names.contains ·)

private theorem firstCommon_nil (offer : Option (List Bytes)) : firstCommon [] offer = none := by
  cases offer <;> rfl

end Alpn

namespace OpensslContext

/-- The protocol that a server settles on. The engine leaves the choice to the context, which it asks
only if it has protocols to choose from and the client offers some. -/
def protocolFor (c : OpensslContext) (offer : Option (List Bytes)) : Option Bytes :=
  match c.alpn, offer with
  | some (.choose ours), some names => (chooseProtocol ours (Alpn.encode names)).value.map (·.1)
  | _, _ => none

private theorem map_fst_chooseProtocol (ours : List Bytes) {names : List Bytes}
    (h : ∀ name ∈ names, Alpn.isName name = true) :
    (chooseProtocol ours (Alpn.encode names)).value.map (·.1) = ours.find? (names.contains ·) := by
  rw [chooseProtocol, Alpn.decode_encode h, ← Alpn.map_fst_select?]
  cases Alpn.select? ours names <;> rfl

private theorem protocolFor_ofRequest {r : EngineRequest} (hr : r.role = .server)
    {offer : Option (List Bytes)}
    (h : ∀ names, offer = some names → ∀ name ∈ names, Alpn.isName name = true) :
    (ofRequest r).protocolFor offer = Alpn.firstCommon (Rustls.protocolsOf r) offer := by
  cases halpn : r.alpn with
  | none => simp [protocolFor, ofRequest, Rustls.protocolsOf, halpn, Alpn.firstCommon_nil]
  | some a =>
    cases offer with
    | none => simp [protocolFor, Alpn.firstCommon]
    | some names =>
      have hchoice : (ofRequest r).alpn = some (.choose a.names) := by
        simp [ofRequest, halpn, hr]
      have hnames : Rustls.protocolsOf r = a.names := by rw [Rustls.protocolsOf, halpn]; rfl
      simp only [protocolFor, hchoice, hnames]
      exact map_fst_chooseProtocol a.names (h names rfl)

end OpensslContext

namespace RustlsServer

variable {s : RustlsServer} {hello : ClientHello} {offer : Option (List Bytes)}

/-- There are protocols on both sides, and none in common. -/
def LacksCommon (s : RustlsServer) (offer : Option (List Bytes)) : Prop :=
  s.protocols ≠ [] ∧ ∃ names, offer = some names ∧ ∀ name ∈ s.protocols, name ∉ names

private theorem configFor_of_lacksCommon (h : s.LacksCommon offer) :
    (s.configFor offer).value = { s with protocols := [] } := by
  obtain ⟨hsome, names, rfl, hnone⟩ := h
  have hempty : s.protocols.isEmpty = false := by simpa using hsome
  have hselect := Alpn.select?_eq_none_iff.mpr hnone
  rw [configFor, hempty, hselect]
  rfl

private theorem configFor_of_not_lacksCommon (h : ¬ s.LacksCommon offer) :
    (s.configFor offer).value = s := by
  cases offer with
  | none => rfl
  | some names =>
    have hkeep : (s.protocols.isEmpty || (Alpn.select? s.protocols names).isSome) = true := by
      by_contra hnot
      rw [Bool.or_eq_true, not_or, List.isEmpty_iff, Option.not_isSome_iff_eq_none] at hnot
      exact h ⟨hnot.1, names, rfl, Alpn.select?_eq_none_iff.mp hnot.2⟩
    rw [configFor, hkeep]
    rfl

private theorem firstCommon_of_lacksCommon (h : s.LacksCommon offer) :
    Alpn.firstCommon s.protocols offer = none := by
  obtain ⟨-, names, rfl, hnone⟩ := h
  rw [Alpn.firstCommon, Option.bind_some, ← Alpn.map_fst_select?,
    Alpn.select?_eq_none_iff.mpr hnone]
  rfl

/-- The engine's own choice: it fails only for want of a protocol in common. -/
theorem protocol_of_not_lacksCommon (h : ¬ s.LacksCommon hello.protocols) :
    s.protocol hello = .ok (Alpn.firstCommon s.protocols hello.protocols) := by
  rw [protocol]
  cases hoffer : hello.protocols with
  | none => rfl
  | some names =>
    rw [Alpn.firstCommon, Option.bind_some, ← Alpn.map_fst_select?]
    cases hselect : Alpn.select? s.protocols names with
    | some chosen => simp [hselect]
    | none =>
      have hempty : s.protocols.isEmpty = true := by
        by_contra hsome
        refine h ⟨?_, names, hoffer, Alpn.select?_eq_none_iff.mp hselect⟩
        rwa [List.isEmpty_iff] at hsome
      simp [hselect, hempty]

private theorem protocol_configFor (s : RustlsServer) (hello : ClientHello) :
    (s.configFor hello.protocols).value.protocol hello =
      .ok (Alpn.firstCommon s.protocols hello.protocols) := by
  by_cases h : s.LacksCommon hello.protocols
  · have hcleared : ¬ ({ s with protocols := [] } : RustlsServer).LacksCommon hello.protocols :=
      fun hlacks => hlacks.1 rfl
    rw [configFor_of_lacksCommon h, protocol_of_not_lacksCommon hcleared, Alpn.firstCommon_nil,
      firstCommon_of_lacksCommon h]
  · rw [configFor_of_not_lacksCommon h, protocol_of_not_lacksCommon h]

private theorem version_configFor (s : RustlsServer) (hello : ClientHello) :
    (s.configFor hello.protocols).value.version hello = s.version hello := by
  by_cases h : s.LacksCommon hello.protocols
  · rw [configFor_of_lacksCommon h]
    rfl
  · rw [configFor_of_not_lacksCommon h]

private theorem suite_configFor (s : RustlsServer) (hello : ClientHello) (v : Version) :
    (s.configFor hello.protocols).value.suite v hello = s.suite v hello := by
  by_cases h : s.LacksCommon hello.protocols
  · rw [configFor_of_lacksCommon h]
    rfl
  · rw [configFor_of_not_lacksCommon h]

variable {chosen : Option Bytes}

private theorem agree_eq_ok (hp : s.protocol hello = .ok chosen) {a : Agreement} :
    s.agree hello = .ok a ↔ ∃ version suite, s.version hello = .ok version ∧
      s.suite version hello = .ok suite ∧ a = ⟨s, hello, version, suite, chosen⟩ := by
  simp [-bind_pure_comp, agree, except_bind_eq_ok, except_pure_eq_ok, hp]

private theorem agree_eq_error (hp : s.protocol hello = .ok chosen) {e : Incompatibility}
    (h : s.agree hello = .error e) : e = .noVersionInCommon ∨ e = .noSuiteInCommon := by
  rcases except_bind_eq_error.mp h with hversion | ⟨v, -, h⟩
  · left
    rw [version] at hversion
    split at hversion
    · cases hversion
    · split at hversion
      · cases hversion
      · exact (Except.error.inj hversion).symm
  · right
    rcases except_bind_eq_error.mp h with hsuite | ⟨name, -, h⟩
    · rw [suite] at hsuite
      split at hsuite
      · cases hsuite
      · exact (Except.error.inj hsuite).symm
    · rw [hp] at h
      cases h

end RustlsServer

/-- How a server whose context holds `s` negotiates with a client, of all that it offers settling on
`chosen`. Protocols are taken out of its configuration only for this client and only if there is none in
common, so whether they agree is a matter of version and suite. -/
structure Context.Negotiates (c : Context) (s : RustlsServer) (hello : ClientHello)
    (chosen : Option Bytes) : Prop where
  config : ∃ config, (c.serverConfigFor hello).value = some config ∧
    config.protocol hello = .ok chosen ∧
    (s.LacksCommon hello.protocols → config = { s with protocols := [] }) ∧
    (¬ s.LacksCommon hello.protocols → config = s)
  protocol : ∀ a, (c.answer hello).outcome = .ok a → a.protocol = chosen
  agrees : (∃ a, (c.answer hello).outcome = .ok a) ↔
    ∃ version suite, s.version hello = .ok version ∧ s.suite version hello = .ok suite
  no_alert : (c.answer hello).outcome ≠
    .error (.handshake Incompatibility.noProtocolInCommon.message)

private theorem message_ne_noProtocolInCommon {e : Incompatibility}
    (h : e = .noVersionInCommon ∨ e = .noSuiteInCommon) :
    e.message ≠ Incompatibility.noProtocolInCommon.message := by
  rcases h with rfl | rfl <;> decide

private theorem negotiates_firstCommon {c : Context} {s : RustlsServer}
    (hs : c.rustlsServer? = some s) (hello : ClientHello) :
    c.Negotiates s hello (Alpn.firstCommon s.protocols hello.protocols) := by
  have hprotocol := s.protocol_configFor hello
  have hvalue : (c.serverConfigFor hello).value = some (s.configFor hello.protocols).value := by
    rw [value_serverConfigFor, hs, Option.map_some]
  have hanswer : (c.answer hello).outcome =
      ((s.configFor hello.protocols).value.agree hello).mapError fun e =>
        Error.handshake e.message := by
    rw [outcome_answer, hs]
  have hok : ∀ a, (c.answer hello).outcome = .ok a ↔
      (s.configFor hello.protocols).value.agree hello = .ok a := by
    intro a
    rw [hanswer]
    cases (s.configFor hello.protocols).value.agree hello <;> simp [Except.mapError]
  refine ⟨⟨_, hvalue, hprotocol, RustlsServer.configFor_of_lacksCommon,
    RustlsServer.configFor_of_not_lacksCommon⟩, ?_, ?_, ?_⟩
  · intro a ha
    obtain ⟨version, suite, -, -, rfl⟩ :=
      (RustlsServer.agree_eq_ok hprotocol).mp ((hok a).mp ha)
    rfl
  · simp only [hok, RustlsServer.agree_eq_ok hprotocol, RustlsServer.version_configFor,
      RustlsServer.suite_configFor]
    constructor
    · rintro ⟨a, version, suite, hversion, hsuite, -⟩
      exact ⟨version, suite, hversion, hsuite⟩
    · rintro ⟨version, suite, hversion, hsuite⟩
      exact ⟨_, version, suite, hversion, hsuite, rfl⟩
  · rw [hanswer]
    cases hagree : (s.configFor hello.protocols).value.agree hello with
    | ok a => nofun
    | error e =>
      have hne := message_ne_noProtocolInCommon (RustlsServer.agree_eq_error hprotocol hagree)
      simpa [Except.mapError] using hne

section Engines

variable {o o' : Options} {useAlpn useAlpn' : Bool} {cred cred' : Credentials} {c c' : Context}

private theorem openssl_of_assemble (he : o.engine = .openssl)
    (hc : (o.assemble .server useAlpn cred).outcome = .ok c) :
    ∃ alpn, o.alpnConfig useAlpn = .ok alpn ∧ c.alpn = alpn ∧
      c.openssl? = some (OpensslContext.ofRequest (o.engineRequest .server alpn cred)) := by
  obtain ⟨-, alpn, inner, halpn, hinner, rfl⟩ := Options.assemble_eq_ok.mp hc
  rw [he] at hinner
  obtain ⟨oc, hbuild, rfl⟩ := by simpa using Options.engineContext_eq_ok.mp hinner
  obtain ⟨-, -, rfl⟩ := OpensslContext.build_eq_ok.mp hbuild
  exact ⟨alpn, halpn, rfl, rfl⟩

private theorem rustlsServer_of_assemble (he : o.engine = .rustls)
    (hc : (o.assemble .server useAlpn cred).outcome = .ok c) :
    ∃ s, c.rustlsServer? = some s ∧ s.protocols = c.protocols.map Bytes.ofString := by
  have hmatches := matchesObject_of_assemble hc
  obtain ⟨-, alpn, inner, halpn, hinner, rfl⟩ := Options.assemble_eq_ok.mp hc
  rw [he] at hinner
  obtain ⟨s, -, rfl⟩ := by simpa [Options.engineRequest] using Options.engineContext_eq_ok.mp hinner
  exact ⟨s, rfl, hmatches.protocols⟩

/-- Servers of the two engines with the same protocols settle on the same one with every client: the
first of their own that it offers. The rustls server never ends a handshake for want of a protocol. What
its context holds has all protocols, whoever the client is; a client is given another configuration only
if it offers protocols, the server has some and none is in common. -/
theorem engines_negotiate_alike (he : o.engine = .openssl) (he' : o'.engine = .rustls)
    (hc : (o.assemble .server useAlpn cred).outcome = .ok c)
    (hc' : (o'.assemble .server useAlpn' cred').outcome = .ok c')
    (hp : c.protocols = c'.protocols) :
    ∃ oc s, c.openssl? = some oc ∧ c'.rustlsServer? = some s ∧
      s.protocols = c'.protocols.map Bytes.ofString ∧
      ∀ hello : ClientHello,
        (∀ names, hello.protocols = some names → ∀ name ∈ names, Alpn.isName name = true) →
        oc.protocolFor hello.protocols = Alpn.firstCommon s.protocols hello.protocols ∧
        c'.Negotiates s hello (oc.protocolFor hello.protocols) := by
  obtain ⟨alpn, halpn, hcalpn, hoc⟩ := openssl_of_assemble he hc
  obtain ⟨s, hs, hnames⟩ := rustlsServer_of_assemble he' hc'
  refine ⟨_, s, hoc, hs, hnames, fun hello hoffer => ?_⟩
  have hours : Rustls.protocolsOf (o.engineRequest .server alpn cred) = s.protocols := by
    rw [hnames, ← hp, Context.protocols, hcalpn]
    cases alpn <;> rfl
  have hchosen := OpensslContext.protocolFor_ofRequest
    (r := o.engineRequest .server alpn cred) rfl hoffer
  rw [hours] at hchosen
  refine ⟨hchosen, ?_⟩
  rw [hchosen]
  exact negotiates_firstCommon hs hello

end Engines

def twoProtocols (engine : Engine) : Options :=
  { bareOptions engine with protocols := ["h2", "http/1.1"] }

private theorem exists_server_of_twoProtocols (engine : Engine) :
    ∃ c, ((twoProtocols engine).assemble .server true ⟨some baseIdentity, .none⟩).outcome = .ok c ∧
      c.protocols = ["h2", "http/1.1"] := by
  have hnames : ∀ p ∈ (twoProtocols engine).protocols, Alpn.isName (Bytes.ofString p) = true := by
    simp only [twoProtocols, Alpn.isName_ofString_iff]
    decide +kernel
  have hwanted : true = true ∧ (twoProtocols engine).protocols ≠ [] := by simp [twoProtocols]
  have halpn := Options.alpnConfig_eq_ok.mpr (.inl ⟨hwanted, hnames, rfl⟩)
  obtain ⟨c, hc, hcalpn⟩ := exists_server_of_baseIdentity (o := twoProtocols engine) rfl halpn .none
  refine ⟨c, hc, ?_⟩
  rw [Context.protocols, hcalpn]
  rfl

def offering (names : List String) : ClientHello :=
  ⟨none, [knownSuite .rustls], some (names.map Bytes.ofString)⟩

private theorem isName_offering {names : List String} (h : ∀ p ∈ names, Alpn.Fits p) :
    ∀ offered, (offering names).protocols = some offered →
      ∀ name ∈ offered, Alpn.isName name = true := by
  intro offered hoffered
  obtain rfl := Option.some.inj hoffered
  exact Alpn.isName_of_forall_fits h

theorem engines_negotiate_alike_twoProtocols :
    ∃ c c' oc s,
      ((twoProtocols .openssl).assemble .server true ⟨some baseIdentity, .none⟩).outcome = .ok c ∧
      ((twoProtocols .rustls).assemble .server true ⟨some baseIdentity, .none⟩).outcome = .ok c' ∧
      c.protocols = c'.protocols ∧ c.openssl? = some oc ∧ c'.rustlsServer? = some s ∧
      oc.protocolFor (offering ["http/1.1", "h2"]).protocols = some (Bytes.ofString "h2") ∧
      c'.Negotiates s (offering ["http/1.1", "h2"]) (some (Bytes.ofString "h2")) ∧
      oc.protocolFor (offering ["spdy/3"]).protocols = none ∧
      c'.Negotiates s (offering ["spdy/3"]) none := by
  obtain ⟨c, hc, hp⟩ := exists_server_of_twoProtocols .openssl
  obtain ⟨c', hc', hp'⟩ := exists_server_of_twoProtocols .rustls
  obtain ⟨oc, s, hoc, hs, hnames, halike⟩ :=
    engines_negotiate_alike rfl rfl hc hc' (hp.trans hp'.symm)
  rw [hp'] at hnames
  have hfits : ∀ p ∈ ["http/1.1", "h2"], Alpn.Fits p := by decide +kernel
  have hfits' : ∀ p ∈ ["spdy/3"], Alpn.Fits p := by decide +kernel
  obtain ⟨hchosen, hnegotiates⟩ := halike _ (isName_offering hfits)
  obtain ⟨hchosen', hnegotiates'⟩ := halike _ (isName_offering hfits')
  have hfirst : Alpn.firstCommon s.protocols (offering ["http/1.1", "h2"]).protocols =
      some (Bytes.ofString "h2") := by
    rw [hnames]
    decide +kernel
  have hnone : Alpn.firstCommon s.protocols (offering ["spdy/3"]).protocols = none := by
    rw [hnames]
    decide +kernel
  rw [hchosen, hfirst] at hnegotiates
  rw [hchosen', hnone] at hnegotiates'
  exact ⟨c, c', oc, s, hc, hc', hp.trans hp'.symm, hoc, hs, hchosen.trans hfirst, hnegotiates,
    hchosen'.trans hnone, hnegotiates'⟩

end TlsSetup
