import TlsSetup.Proofs.PeerVerification
import TlsSetup.Proofs.RevocationInput

/-!
# More revocation lists

Settings that only add revocation lists change nothing but the judges of a context, and these become
stricter: a verdict stays as it is unless a list finds the chain revoked.
-/

namespace TlsSetup

open X509

/-- `more` are the settings with further lists put in between, as files or as values. -/
inductive AddsLists : List Setting → List Setting → Prop
  | nil : AddsLists [] []
  | keep (s : Setting) {settings more : List Setting} :
      AddsLists settings more → AddsLists (s :: settings) (s :: more)
  | path (p : String) {settings more : List Setting} :
      AddsLists settings more → AddsLists settings (.crlPath p :: more)
  | value (bs : Bytes) {settings more : List Setting} :
      AddsLists settings more → AddsLists settings (.crlValue bs :: more)

namespace Options

def withLists (o : Options) (paths : List String) (values : List Bytes) : Options :=
  { o with crlPaths := paths, crlValues := values }

/-- `o'` names all sources of revocation lists that `o` names, in their order, and is the same
otherwise. -/
inductive MoreLists (o : Options) : Options → Prop
  | intro {paths : List String} {values : List Bytes} (hpaths : o.crlPaths.Sublist paths)
      (hvalues : o.crlValues.Sublist values) : MoreLists o (o.withLists paths values)

variable {o o' : Options} {lists lists' : List RevocationList}

theorem MoreLists.refl (o : Options) : MoreLists o o := .intro (.refl _) (.refl _)

theorem MoreLists.set (h : MoreLists o o') (s : Setting) : MoreLists (o.set s) (o'.set s) := by
  obtain ⟨hpaths, hvalues⟩ := h
  cases s with
  | crlPath p => exact .intro (hpaths.append (.refl [p])) hvalues
  | crlValue bs => exact .intro hpaths (hvalues.append (.refl [bs]))
  | _ => exact .intro hpaths hvalues

theorem MoreLists.addPath (h : MoreLists o o') (p : String) : MoreLists o (o'.set (.crlPath p)) := by
  obtain ⟨hpaths, hvalues⟩ := h
  exact .intro (hpaths.trans (List.sublist_append_left _ _)) hvalues

theorem MoreLists.addValue (h : MoreLists o o') (bs : Bytes) :
    MoreLists o (o'.set (.crlValue bs)) := by
  obtain ⟨hpaths, hvalues⟩ := h
  exact .intro hpaths (hvalues.trans (List.sublist_append_left _ _))

theorem MoreLists.foldl {settings more : List Setting} (hadds : AddsLists settings more)
    (h : MoreLists o o') : MoreLists (settings.foldl Options.set o) (more.foldl Options.set o') := by
  induction hadds generalizing o o' with
  | nil => exact h
  | keep s _ ih => exact ih (h.set s)
  | path p _ ih => exact ih (h.addPath p)
  | value bs _ ih => exact ih (h.addValue bs)

private theorem moreLists_build {settings more : List Setting} (hadds : AddsLists settings more)
    (env : Environment) : MoreLists (build env settings) (build env more) :=
  MoreLists.foldl hadds (.refl _)

private theorem sublist_of_forall₂ {α β : Type} {R : α → β → Prop} {xs ys : List α} {as bs : List β}
    (hR : ∀ x a b, R x a → R x b → a = b) (hsub : xs.Sublist ys) (hx : List.Forall₂ R xs as)
    (hy : List.Forall₂ R ys bs) : as.Sublist bs := by
  induction hsub generalizing as bs with
  | slnil =>
    cases hx
    exact List.nil_sublist _
  | cons y _ ih =>
    cases hy with
    | cons _ hy => exact (ih hx hy).cons _
  | cons_cons y _ ih =>
    cases hx with
    | cons ha hx =>
      cases hy with
      | cons hb hy =>
        obtain rfl := hR _ _ _ ha hb
        exact (ih hx hy).cons_cons _

theorem MoreLists.sublist (h : MoreLists o o') (hlists : o.Configures lists)
    (hlists' : o'.Configures lists') : lists.Sublist lists' := by
  obtain ⟨hpaths, hvalues⟩ := h
  obtain ⟨files, values, hfiles, hfound, rfl⟩ := hlists
  obtain ⟨files', values', hfiles', hfound', rfl⟩ := hlists'
  have hf : files.Sublist files' :=
    sublist_of_forall₂ (R := o.FileHolds) (fun _ _ _ => FileHolds.unique) hpaths hfiles hfiles'
  have hv : values.Sublist values' :=
    sublist_of_forall₂ (fun _ _ _ h h' => Except.ok.inj (h.symm.trans h')) hvalues hfound hfound'
  exact hf.flatten.append hv.flatten

end Options

variable {lists lists' : List RevocationList} {us vs : List Validator} {role : Role}
  {chain : List Certificate}

theorem Listed.mono (hsub : lists ⊆ lists') (h : Listed lists chain) : Listed lists' chain := by
  obtain ⟨c, hc, list, hlist, hrevoked⟩ := h
  exact ⟨c, hc, list, hsub hlist, hrevoked⟩

private theorem checkChain_of_guards (hguards : List.Forall₂ (Validator.Guards lists) vs us)
    (hne : us ≠ [])
    (role : Role) (chain : List Certificate) :
    (Listed lists chain → (checkChain vs role chain).value = .error .revoked) ∧
    (¬ Listed lists chain →
      (checkChain vs role chain).value = (checkChain us role chain).value) := by
  constructor
  · intro hlisted
    cases hguards with
    | nil => exact absurd rfl hne
    | cons hv _ =>
      have hrevokes : (_ : Logged Verdict).value = _ := hv.revokes_listed role chain hlisted
      rw [checkChain, checkChainFrom_cons, hrevokes]
  · intro hunlisted
    exact checkChain_congr (hguards.imp fun v u hg => hg.check_unlisted role chain hunlisted)

/-- `t'` is as strict as `t` or stricter, and does not differ in anything else. -/
structure Tightens (t t' : Trust) : Prop where
  isNone : t'.isNone = t.isNone
  acceptedIssuers : t'.acceptedIssuers = t.acceptedIssuers
  verdict : ∀ role chain,
    (checkChain t'.judges role chain).value = (checkChain t.judges role chain).value ∨
      (checkChain t'.judges role chain).value = .error .revoked

theorem flatMap_acceptedIssuers_congr
    (h : List.Forall₂ (fun v u : Validator => v.acceptedIssuers = u.acceptedIssuers) vs us) :
    vs.flatMap (·.acceptedIssuers) = us.flatMap (·.acceptedIssuers) := by
  induction h with
  | nil => rfl
  | cons hv _ ih => rw [List.flatMap_cons, List.flatMap_cons, hv, ih]

theorem acceptedIssuers_judged (us : List Validator) (lists : List RevocationList) :
    (Options.judged us lists).acceptedIssuers = us.flatMap (·.acceptedIssuers) := by
  have hguards := Validator.guards_of_resolved lists us
  rw [Options.judged, Trust.acceptedIssuers, Trust.judges]
  exact flatMap_acceptedIssuers_congr (hguards.imp fun _ _ hv => hv.acceptedIssuers)

private theorem tightens_judged (hne : us ≠ []) (hsub : lists ⊆ lists') :
    Tightens (Options.judged us lists) (Options.judged us lists') where
  isNone := rfl
  acceptedIssuers := by rw [acceptedIssuers_judged, acceptedIssuers_judged]
  verdict role chain := by
    have hfew := checkChain_of_guards (Validator.guards_of_resolved lists us) hne role chain
    have hmany := checkChain_of_guards (Validator.guards_of_resolved lists' us) hne role chain
    by_cases hlisted : Listed lists' chain
    · exact .inr (hmany.1 hlisted)
    · have hunlisted : ¬ Listed lists chain := fun h => hlisted (h.mono hsub)
      exact .inl ((hmany.2 hlisted).trans (hfew.2 hunlisted).symm)

theorem Tightens.refl (t : Trust) : Tightens t t := ⟨rfl, rfl, fun _ _ => .inl rfl⟩

namespace Options

variable {o o' : Options} {serverName : Option String} {trustAll : Bool} {t t' : Trust}

theorem MoreLists.validatorsFor (h : MoreLists o o') (serverName : Option String) :
    o'.validatorsFor serverName = o.validatorsFor serverName := by
  obtain ⟨-, -⟩ := h
  rfl

theorem MoreLists.identityFor (h : MoreLists o o') (serverName : Option String) :
    o'.identityFor serverName = o.identityFor serverName := by
  obtain ⟨-, -⟩ := h
  rfl

/-- Further lists only make trust stricter, and change no verdict if there is nobody who checks them. -/
theorem MoreLists.tightens (h : MoreLists o o')
    (ht : (o.trustFor serverName trustAll).outcome = .ok t)
    (ht' : (o'.trustFor serverName trustAll).outcome = .ok t') :
    Tightens t t' ∧ (trustAll = true ∨ t = .none → t'.judges = t.judges) := by
  have hvalidators := h.validatorsFor serverName
  rcases trustFor_eq_ok.mp ht with ⟨rfl, lists, hlists, rfl⟩ | ⟨rfl, hanswer, rfl⟩ |
    ⟨rfl, us, lists, hanswer, hlists, rfl⟩
  · rcases trustFor_eq_ok.mp ht' with ⟨-, lists', -, rfl⟩ | ⟨hf, -⟩ | ⟨hf, -⟩
    · exact ⟨⟨rfl, rfl, fun _ _ => .inl rfl⟩, fun _ => rfl⟩
    · cases hf
    · cases hf
  · rw [← hvalidators] at hanswer
    rcases trustFor_eq_ok.mp ht' with ⟨hf, -⟩ | ⟨-, -, rfl⟩ | ⟨-, us, lists, hsome, -⟩
    · cases hf
    · exact ⟨.refl _, fun _ => rfl⟩
    · rw [hanswer] at hsome
      cases hsome
  · have hne := validatorsFor_ne_nil hanswer
    rcases trustFor_eq_ok.mp ht' with ⟨hf, -⟩ | ⟨-, hnone, -⟩ | ⟨-, us', lists', hsome, hlists', rfl⟩
    · cases hf
    · rw [hvalidators, hanswer] at hnone
      cases hnone
    · rw [hvalidators, hanswer] at hsome
      obtain rfl : us = us' := by simpa using hsome
      refine ⟨tightens_judged hne (h.sublist hlists hlists').subset, ?_⟩
      rintro (hf | hf) <;> cases hf

end Options

namespace EngineContext

/-- The same object with other judges; a server without a verifier has no use for them. -/
def withJudges (vs : List Validator) : EngineContext → EngineContext
  | .openssl c => .openssl { c with judges := vs }
  | .rustlsServer s =>
    .rustlsServer { s with verifier := s.verifier.map fun v => { v with judges := vs } }
  | .rustlsClient c => .rustlsClient { c with judges := vs }

/-- The names that a server sends when it asks for a certificate. -/
def advertised : EngineContext → List Bytes
  | .openssl c => c.clientAuthorities
  | .rustlsServer s => (s.verifier.map (·.rootHints)).getD []
  | .rustlsClient _ => []

private theorem advertised_withJudges (inner : EngineContext) (vs : List Validator) :
    (inner.withJudges vs).advertised = inner.advertised := by
  cases inner with
  | openssl c => rfl
  | rustlsServer s => cases hs : s.verifier <;> simp [withJudges, advertised, hs]
  | rustlsClient c => rfl

end EngineContext

def EngineRequest.withTrust (r : EngineRequest) (t : Trust) : EngineRequest := { r with trust := t }

section Contexts

variable {r : EngineRequest} {t t' : Trust} {engine : Engine} {inner inner' : EngineContext}

theorem Tightens.verifiesPeer (h : Tightens r.trust t') :
    (r.withTrust t').verifiesPeer = r.verifiesPeer := by
  rw [EngineRequest.verifiesPeer, EngineRequest.verifiesPeer, EngineRequest.withTrust, h.isNone]

private theorem clientJudges_eq (hr : r.role = .client) :
    Rustls.clientJudges r = r.trust.judges := by
  cases ht : r.trust <;> simp [Rustls.clientJudges, EngineRequest.verifiesPeer, hr, ht, Trust.isNone,
    Trust.judges]

theorem Tightens.ofRequest (h : Tightens r.trust t') :
    OpensslContext.ofRequest (r.withTrust t') =
      { OpensslContext.ofRequest r with judges := t'.judges } := by
  have hmode : OpensslContext.modeFor (r.withTrust t') = OpensslContext.modeFor r := by
    rw [OpensslContext.modeFor, OpensslContext.modeFor, h.verifiesPeer]
    rfl
  rw [OpensslContext.ofRequest, hmode, EngineRequest.withTrust, h.acceptedIssuers]
  rfl

theorem Tightens.verifierFor (h : Tightens r.trust t') :
    Rustls.verifierFor (r.withTrust t') =
      (Rustls.verifierFor r).map fun v => { v with judges := t'.judges } := by
  rw [Rustls.verifierFor, Rustls.verifierFor, h.verifiesPeer, EngineRequest.withTrust,
    h.acceptedIssuers]
  cases r.verifiesPeer <;> rfl

theorem Tightens.engineContext (h : Tightens r.trust t')
    (hinner : (Options.engineContext engine r).outcome = .ok inner)
    (hinner' : (Options.engineContext engine (r.withTrust t')).outcome = .ok inner') :
    inner' = inner.withJudges t'.judges := by
  rcases Options.engineContext_eq_ok.mp hinner with ⟨rfl, c, hc, rfl⟩ | ⟨rfl, hr, s, hs, rfl⟩ |
    ⟨rfl, hr, c, hc, rfl⟩
  · obtain ⟨c', hc', rfl⟩ := by simpa using Options.engineContext_eq_ok.mp hinner'
    obtain ⟨-, -, rfl⟩ := OpensslContext.build_eq_ok.mp hc
    obtain ⟨-, -, rfl⟩ := OpensslContext.build_eq_ok.mp hc'
    rw [h.ofRequest]
    rfl
  · have hr' : (r.withTrust t').role = .server := hr
    obtain ⟨s', hs', rfl⟩ := by simpa [hr'] using Options.engineContext_eq_ok.mp hinner'
    obtain ⟨names, i, hnames, hi, -, rfl⟩ := Rustls.buildServer_eq_ok.mp hs
    obtain ⟨names', i', hnames', hi', -, rfl⟩ := Rustls.buildServer_eq_ok.mp hs'
    obtain rfl : names = names' := Except.ok.inj (hnames.symm.trans hnames')
    obtain rfl : i = i' := Option.some.inj (hi.symm.trans hi')
    rw [h.verifierFor]
    rfl
  · have hr' : (r.withTrust t').role = .client := hr
    obtain ⟨c', hc', rfl⟩ := by simpa [hr'] using Options.engineContext_eq_ok.mp hinner'
    obtain ⟨names, hnames, -, rfl⟩ := Rustls.buildClient_eq_ok.mp hc
    obtain ⟨names', hnames', -, rfl⟩ := Rustls.buildClient_eq_ok.mp hc'
    obtain rfl : names = names' := Except.ok.inj (hnames.symm.trans hnames')
    rw [clientJudges_eq hr']
    rfl

theorem Tightens.contextOf (h : Tightens r.trust t') (o : Options) (inner inner' : EngineContext) :
    o.contextOf (r.withTrust t') inner' = { o.contextOf r inner with inner := inner' } := by
  rw [Options.contextOf, h.verifiesPeer]
  rw [EngineRequest.withTrust, h.acceptedIssuers]
  rfl

variable {o o' : Options} {serverName : Option String} {useAlpn trustAll : Bool} {role : Role}
  {cred cred' : Credentials} {c c' : Context}

/-- Further lists that make the trust stricter change a context only in its judges. -/
theorem Options.MoreLists.assemble (h : Options.MoreLists o o')
    (hidentity : cred'.identity = cred.identity) (htrust : Tightens cred.trust cred'.trust)
    (hc : (o.assemble role useAlpn cred).outcome = .ok c)
    (hc' : (o'.assemble role useAlpn cred').outcome = .ok c') :
    c' = { c with inner := c.inner.withJudges cred'.trust.judges } := by
  obtain @⟨paths, values, -, -⟩ := h
  obtain ⟨-, alpn, inner, halpn, hinner, rfl⟩ := Options.assemble_eq_ok.mp hc
  obtain ⟨-, alpn', inner', halpn', hinner', rfl⟩ := Options.assemble_eq_ok.mp hc'
  obtain rfl : alpn = alpn' := Except.ok.inj (halpn.symm.trans halpn')
  have hrequest : (o.withLists paths values).engineRequest role alpn cred' =
      (o.engineRequest role alpn cred).withTrust cred'.trust := by
    rw [Options.engineRequest, hidentity]
    rfl
  have htight : Tightens (o.engineRequest role alpn cred).trust cred'.trust := htrust
  rw [hrequest] at hinner' ⊢
  obtain rfl := htight.engineContext hinner hinner'
  exact htight.contextOf o inner _

variable {env : Environment} {settings more : List Setting}

/-- Revocation lists that are added anywhere among the settings change a context only in its judges,
and a verdict only into the finding that the chain is revoked; where everybody is trusted or nobody
judges they change no verdict. -/
theorem added_lists_only_tighten (hadds : AddsLists settings more)
    (hc : ((Options.build env settings).contextFor serverName useAlpn role trustAll).outcome = .ok c)
    (hc' : ((Options.build env more).contextFor serverName useAlpn role trustAll).outcome = .ok c') :
    ∃ trust trust',
      ((Options.build env settings).trustFor serverName trustAll).outcome = .ok trust ∧
      ((Options.build env more).trustFor serverName trustAll).outcome = .ok trust' ∧
      c.inner = c.inner.withJudges trust.judges ∧
      c' = { c with inner := c.inner.withJudges trust'.judges } ∧
      c'.inner.advertised = c.inner.advertised ∧
      ∀ (peerOf : Role) (chain : List Certificate),
        ((checkChain trust'.judges peerOf chain).value = .ok () →
          (checkChain trust.judges peerOf chain).value = .ok ()) ∧
        ((checkChain trust.judges peerOf chain).value = .error .revoked →
          (checkChain trust'.judges peerOf chain).value = .error .revoked) ∧
        (trustAll = true ∨ trust = .none →
          checkChain trust'.judges peerOf chain = checkChain trust.judges peerOf chain) := by
  have hmore := Options.moreLists_build hadds env
  obtain ⟨cred, hcred, hc⟩ := Options.contextFor_eq_ok.mp hc
  obtain ⟨cred', hcred', hc'⟩ := Options.contextFor_eq_ok.mp hc'
  obtain ⟨htrust, hidentity⟩ := Options.credentialsFor_eq_ok.mp hcred
  obtain ⟨htrust', hidentity'⟩ := Options.credentialsFor_eq_ok.mp hcred'
  obtain ⟨htight, hsame⟩ := hmore.tightens htrust htrust'
  have hid : cred'.identity = cred.identity := by
    rw [hmore.identityFor] at hidentity'
    exact Except.ok.inj (hidentity'.symm.trans hidentity)
  have hcontext := hmore.assemble hid htight hc hc'
  have hjudges := congrArg Context.inner
    ((Options.MoreLists.refl (Options.build env settings)).assemble rfl (.refl _) hc hc)
  refine ⟨cred.trust, cred'.trust, htrust, htrust', hjudges, hcontext, ?_, fun peerOf chain => ?_⟩
  · rw [hcontext, EngineContext.advertised_withJudges]
  · refine ⟨?_, ?_, fun hnobody => by rw [hsame hnobody]⟩
    · intro haccepted
      rcases htight.verdict peerOf chain with hv | hv
      · rw [← hv, haccepted]
      · rw [haccepted] at hv
        cases hv
    · intro hrevoked
      rcases htight.verdict peerOf chain with hv | hv
      · rw [hv, hrevoked]
      · exact hv

private theorem exists_keyless_client {t : Trust} (hengine : o.engine = .rustls)
    (hkey : o.keySource = none) (hsuites : o.cipherSuites = [knownSuite .rustls])
    (ht : (o.trustFor serverName trustAll).outcome = .ok t) :
    ∃ c, (o.contextFor serverName false .client trustAll).outcome = .ok c := by
  have hidentity : (o.identityFor serverName).outcome = .ok none := by
    rw [Options.identityFor, hkey]
    rfl
  have hnames : Rustls.suites o.effectiveSuites = .ok [knownSuite .rustls] := by
    rw [Options.effectiveSuites, hsuites]
    rfl
  have hbuild := Rustls.buildClient_eq_ok (r := o.engineRequest .client none ⟨none, t⟩).mpr
    ⟨_, hnames, by simp [Options.engineRequest], rfl⟩
  have hinner := Options.engineContext_eq_ok.mpr (.inr (.inr ⟨hengine, rfl, _, hbuild, rfl⟩))
  have halpn : o.alpnConfig false = .ok none := by simp [Options.alpnConfig]
  have hassemble := Options.assemble_eq_ok.mpr ⟨by simp, none, _, halpn, hinner, rfl⟩
  exact ⟨_, Options.contextFor_eq_ok.mpr
    ⟨_, Options.credentialsFor_eq_ok.mpr ⟨ht, hidentity⟩, hassemble⟩⟩

end Contexts

/-- Settings for a rustls client that accepts every server. -/
def trustingSettings : List Setting :=
  [.engine .rustls, .cipherSuite (knownSuite .rustls),
    .trustSource ⟨pure (some [Validator.trustAll]), pure none⟩]

def emptyEnvironment : Environment := ⟨0, [], "", fun _ => pure (.ok [])⟩

theorem added_lists_only_tighten_bareList :
    ∃ c c' vs vs',
      ((Options.build emptyEnvironment trustingSettings).contextFor none false .client
        false).outcome = .ok c ∧
      ((Options.build emptyEnvironment (.crlValue bareListBytes :: trustingSettings)).contextFor
        none false .client false).outcome = .ok c' ∧
      c.inner = c.inner.withJudges vs ∧ c' = { c with inner := c.inner.withJudges vs' } ∧
      (checkChain vs .client [bareCertificate 6]).value = .ok () ∧
      (checkChain vs .client [bareCertificate 7]).value = .ok () ∧
      (checkChain vs' .client [bareCertificate 7]).value = .error .revoked := by
  have hadds : AddsLists trustingSettings (.crlValue bareListBytes :: trustingSettings) :=
    .value _ (.keep _ (.keep _ (.keep _ .nil)))
  have ht : ((Options.build emptyEnvironment trustingSettings).trustFor none false).outcome =
      .ok (Options.judged [Validator.trustAll] []) :=
    Options.trustFor_eq_ok.mpr (.inr (.inr ⟨rfl, _, _, rfl, ⟨[], [], .nil, .nil, rfl⟩, rfl⟩))
  have ht' : ((Options.build emptyEnvironment
      (.crlValue bareListBytes :: trustingSettings)).trustFor none false).outcome =
        .ok (Options.judged [Validator.trustAll] [bareList]) :=
    Options.trustFor_eq_ok.mpr (.inr (.inr ⟨rfl, _, _, rfl,
      ⟨[], [[bareList]], .nil, .cons parseAll_bareListBytes .nil, rfl⟩, rfl⟩))
  obtain ⟨c, hc⟩ := exists_keyless_client rfl rfl rfl ht
  obtain ⟨c', hc'⟩ := exists_keyless_client rfl rfl rfl ht'
  obtain ⟨trust, trust', htrust, htrust', hinner, hcontext, -, hverdicts⟩ :=
    added_lists_only_tighten hadds hc hc'
  obtain rfl := Except.ok.inj (ht.symm.trans htrust)
  obtain rfl := Except.ok.inj (ht'.symm.trans htrust')
  have hjudged := checkChain_of_guards (Validator.guards_of_resolved [bareList] [Validator.trustAll])
    (by simp) .client
  refine ⟨c, c', _, _, hc, hc', hinner, hcontext, (hverdicts .client _).1 ?_, rfl, ?_⟩
  · apply (hjudged [bareCertificate 6]).2
    simp [Listed, show bareList.isRevoked (bareCertificate 6) = false by decide]
  · apply (hjudged [bareCertificate 7]).1
    simp [Listed, show bareList.isRevoked (bareCertificate 7) = true by decide]

end TlsSetup
