import TlsSetup.Proofs.ClientAuth
import TlsSetup.Proofs.Coherence
import TlsSetup.Proofs.Precedence

/-!
# Authorities that servers name

A server that asks its clients for certificates tells them whose it wants. The names are the subjects
of all issuers that the validators trust, whatever the engine: wrapping a validator with revocation
lists takes none away, and authorities in text form are all named, in the order of the texts.
-/

namespace TlsSetup

open X509

namespace Validator

variable {v w : Validator} {vs ws : List Validator}

/-- The second validator is the first one, wrapped with lists any number of times. -/
inductive Wraps (v : Validator) : Validator → Prop
  | refl : Wraps v v
  | revoking (lists : List RevocationList) {w : Validator} (hw : Wraps v w) :
      Wraps v (revoking lists w)

theorem Wraps.acceptedIssuers (h : Wraps v w) : w.acceptedIssuers = v.acceptedIssuers := by
  induction h with
  | refl => rfl
  | revoking lists _ ih => exact ih

/-- The names of the issuers that the validators trust, one validator after the other. -/
def authorities (vs : List Validator) : List Bytes :=
  (vs.flatMap (·.acceptedIssuers)).map (·.subject.encoding)

private theorem authorities_of_wraps (h : List.Forall₂ Wraps vs ws) :
    authorities ws = authorities vs := by
  have hissuers := flatMap_acceptedIssuers_congr (h.imp fun _ _ hw => hw.acceptedIssuers.symm)
  rw [authorities, ← hissuers, authorities]

end Validator

namespace PemAnchors

variable {a : PemAnchors}

def TextHolds (a : PemAnchors) (m : Material) (certs : List Certificate) : Prop :=
  ∃ bytes, (m.load a.loader).outcome = .ok bytes ∧ Certificate.listOfPem? bytes = some certs ∧
    certs ≠ []

/-- The certificates of all texts, one text after the other. -/
def Holds (a : PemAnchors) (certs : List Certificate) : Prop :=
  ∃ lists, List.Forall₂ a.TextHolds a.certificates lists ∧ certs = lists.flatten

private theorem parse_eq_ok {bytes : Bytes} {certs : List Certificate} :
    parse bytes = .ok certs ↔ Certificate.listOfPem? bytes = some certs ∧ certs ≠ [] := by
  rw [parse]
  cases Certificate.listOfPem? bytes with
  | none => simp
  | some found =>
    cases found with
    | nil =>
      simp only [reduceCtorEq, Option.some.injEq, false_iff, not_and, not_not]
      exact Eq.symm
    | cons first more =>
      simp only [Except.ok.injEq, Option.some.injEq, iff_self_and]
      rintro rfl
      exact List.cons_ne_nil _ _

private theorem load_eq_ok {certs : List Certificate} :
    a.load.outcome = .ok certs ↔ a.Holds certs := by
  have htext : ∀ (m : Material) (found : List Certificate),
      (do Attempt.ofExcept (parse (← m.load a.loader)) : Attempt _).outcome = .ok found ↔
        a.TextHolds m found := by
    intro m found
    simp only [Attempt.outcome_bind_eq_ok, Attempt.outcome_ofExcept, parse_eq_ok]
    exact Iff.rfl
  rw [load, Attempt.outcome_bind_eq_ok]
  simp only [Attempt.outcome_mapM_eq_ok, htext, Attempt.outcome_pure_eq_ok]
  exact Iff.rfl

end PemAnchors

namespace Options

variable {o : Options} {a : PemAnchors} {serverName : Option String} {t : Trust}

private theorem default_of_anchors (hne : a.certificates ≠ []) {found : Option (List Validator)} :
    a.source.default.outcome = .ok found ↔
      ∃ certs, a.Holds certs ∧ found = some [Validator.store a.now certs] := by
  have hsome : a.certificates.isEmpty = false := by simpa using hne
  rw [PemAnchors.source, hsome]
  simp only [Bool.false_eq_true, if_false, Attempt.outcome_bind_eq_ok, PemAnchors.load_eq_ok,
    Attempt.outcome_pure_eq_ok]

private theorem validatorsFor_of_anchors (hs : o.trustSource = some a.source)
    (hne : a.certificates ≠ []) {answer : Option (List Validator)} :
    (o.validatorsFor serverName).outcome = .ok answer ↔
      ∃ certs, a.Holds certs ∧ answer = some [Validator.store a.now certs] := by
  obtain ⟨chosen, hchooses, houtcome⟩ := chooses_validatorsFor hs serverName
  rw [hchooses.of_no_choice rfl] at houtcome
  rw [houtcome, except_map_eq_ok]
  simp only [default_of_anchors hne]
  constructor
  · rintro ⟨found, ⟨certs, hcerts, rfl⟩, rfl⟩
    exact ⟨certs, hcerts, rfl⟩
  · rintro ⟨certs, hcerts, rfl⟩
    exact ⟨_, ⟨certs, hcerts, rfl⟩, rfl⟩

/-- Trust that is found in authorities in text form accepts them all as issuers. -/
theorem acceptedIssuers_of_anchors (hs : o.trustSource = some a.source) (hne : a.certificates ≠ [])
    (ht : (o.trustFor serverName false).outcome = .ok t) :
    t.isNone = false ∧ a.Holds t.acceptedIssuers := by
  rcases trustFor_eq_ok.mp ht with ⟨hf, -⟩ | ⟨-, hnone, -⟩ | ⟨-, us, lists, hus, -, rfl⟩
  · cases hf
  · obtain ⟨certs, -, hsome⟩ := (validatorsFor_of_anchors hs hne).mp hnone
    cases hsome
  · obtain ⟨certs, hcerts, hsome⟩ := (validatorsFor_of_anchors hs hne).mp hus
    obtain rfl := Option.some.inj hsome
    refine ⟨rfl, ?_⟩
    rw [acceptedIssuers_judged, List.flatMap_singleton]
    exact hcerts

end Options

/-- The server asks its clients for certificates, and tells them these names and no others. -/
structure Context.AsksFor (c : Context) (names : List Bytes) : Prop where
  asks : c.inner.checksPeer = true
  advertises : c.inner.advertised = names
  told : ∀ hello a, (c.answer hello).outcome = .ok a → a.rootHints = some names

section Servers

variable {o : Options} {useAlpn : Bool} {cred : Credentials} {c : Context}

private theorem told_of_advertised {names : List Bytes} (hasks : c.inner.checksPeer = true)
    (hnames : c.inner.advertised = names) {hello : ClientHello} {a : Agreement}
    (ha : (c.answer hello).outcome = .ok a) : a.rootHints = some names := by
  obtain ⟨s, hs, hverifier⟩ := server_of_answer ha
  rw [hs] at hasks hnames
  obtain ⟨v, hv⟩ := Option.isSome_iff_exists.mp hasks
  rw [Agreement.rootHints, hverifier, hv, ← hnames]
  simp [EngineContext.advertised, hv]

private theorem server_asksFor_authorities (hauth : o.clientAuth ≠ .none)
    (hc : (o.assemble .server useAlpn cred).outcome = .ok c) (ht : cred.trust.isNone = false) :
    c.AsksFor (Validator.authorities cred.trust.judges) := by
  have hdescribes := describes_of_assemble hc
  have hverifies : c.verifiesPeer = true := hdescribes.verifiesPeer.mpr ⟨ht, .inr hauth⟩
  have hguarded : ¬ Unguarded o.engine .server cred.trust.judges := by
    rintro ⟨-, hclient, -⟩
    cases hclient
  have hasks : c.inner.checksPeer = true := by
    rw [(checksPeer_eq_iff hc).mpr fun _ => hguarded, hverifies]
  have hnames : c.inner.advertised = Validator.authorities cred.trust.judges := by
    rw [(matchesObject_of_assemble hc).authorities hdescribes.side hverifies,
      hdescribes.acceptedIssuers]
    rfl
  exact ⟨hasks, hnames, fun hello a ha => told_of_advertised hasks hnames ha⟩

/-- A server that asks for certificates names every issuer that its validators trust, one validator
after the other, on either engine; revocation lists around the validators change nothing. If they come
from authorities in text form, it names all certificates of all texts in their order. -/
theorem servers_name_all_authorities (hauth : o.clientAuth ≠ .none)
    (hc : (o.assemble .server useAlpn cred).outcome = .ok c) (ht : cred.trust.isNone = false) :
    c.AsksFor (Validator.authorities cred.trust.judges) ∧
    c.acceptedIssuers = cred.trust.judges.flatMap (·.acceptedIssuers) ∧
    (∀ (o' : Options) (useAlpn' : Bool) (cred' : Credentials) (c' : Context),
      o'.clientAuth ≠ .none → (o'.assemble .server useAlpn' cred').outcome = .ok c' →
      cred'.trust.isNone = false →
      List.Forall₂ Validator.Wraps cred.trust.judges cred'.trust.judges →
        c'.AsksFor (Validator.authorities cred.trust.judges)) ∧
    ∀ (source : Options) (a : PemAnchors) (serverName : Option String),
      source.trustSource = some a.source → a.certificates ≠ [] →
      (source.trustFor serverName false).outcome = .ok cred.trust →
        ∃ lists, List.Forall₂ a.TextHolds a.certificates lists ∧
          c.AsksFor (lists.flatten.map (·.subject.encoding)) := by
  have hasks := server_asksFor_authorities hauth hc ht
  have hissuers : c.acceptedIssuers = cred.trust.acceptedIssuers :=
    (describes_of_assemble hc).acceptedIssuers
  refine ⟨hasks, hissuers, ?_, ?_⟩
  · intro o' useAlpn' cred' c' hauth' hc' ht' hwraps
    rw [← Validator.authorities_of_wraps hwraps]
    exact server_asksFor_authorities hauth' hc' ht'
  · intro source a serverName hs hne htrust
    obtain ⟨-, lists, hlists, hcerts⟩ := Options.acceptedIssuers_of_anchors hs hne htrust
    refine ⟨lists, hlists, ?_⟩
    rw [← hcerts]
    exact hasks

end Servers

def letterName (letter : UInt8) : Bytes := [48, 12, 49, 10, 48, 8, 6, 3, 85, 4, 3, 12, 1, letter]

/-- An authority in text form; the last line of its base 64 holds its name. -/
def authorityText (lastLine : String) : Bytes :=
  Bytes.ofString ("-----BEGIN CERTIFICATE-----\n" ++
    "MFQwRwIBBzAFBgMqAwQwADAeFw0yNDAxMDEwMDAwMDBaFw0yNTAxMDEwMDAwMDBa\n" ++
    lastLine ++ "\n-----END CERTIFICATE-----\n")

def firstAuthority : Bytes := authorityText "MAwxCjAIBgNVBAMMAUEwCzAFBgMqAwQDAgABMAUGAyoDBAMCAAE="

def secondAuthority : Bytes := authorityText "MAwxCjAIBgNVBAMMAUIwCzAFBgMqAwQDAgABMAUGAyoDBAMCAAE="

/-- Two texts, of which the first one holds two authorities and the second one holds one of them. -/
def twoTexts : PemAnchors where
  certificates := [.value (secondAuthority ++ firstAuthority), .value firstAuthority]
  loader := ⟨id, fun _ => pure (.ok [])⟩
  now := 0

private theorem holds_twoTexts : ∃ certs, twoTexts.Holds certs ∧
    certs.map (·.subject.encoding) = [letterName 66, letterName 65, letterName 65] := by
  have hboth : (Certificate.listOfPem? (secondAuthority ++ firstAuthority)).map
      (·.map (·.subject.encoding)) = some [letterName 66, letterName 65] := by decide +kernel
  have hfirst : (Certificate.listOfPem? firstAuthority).map (·.map (·.subject.encoding)) =
      some [letterName 65] := by decide +kernel
  obtain ⟨both, hread, hnames⟩ := Option.map_eq_some_iff.mp hboth
  obtain ⟨first, hread', hnames'⟩ := Option.map_eq_some_iff.mp hfirst
  have hsome : both ≠ [] := by
    rintro rfl
    cases hnames
  have hsome' : first ≠ [] := by
    rintro rfl
    cases hnames'
  refine ⟨_, ⟨[both, first], ?_, rfl⟩, ?_⟩
  · exact .cons ⟨_, rfl, hread, hsome⟩ (.cons ⟨_, rfl, hread', hsome'⟩ .nil)
  · simp [hnames, hnames']

/-- Options for servers that ask for certificates. -/
def askingOptions (engine : Engine) : Options :=
  { bareOptions engine with
    trustSource := some twoTexts.source
    clientAuth := .request }

private theorem trustFor_askingOptions (engine : Engine) :
    ∃ certs, ((askingOptions engine).trustFor none false).outcome =
        .ok (.validators [Validator.store 0 certs] []) ∧
      certs.map (·.subject.encoding) = [letterName 66, letterName 65, letterName 65] := by
  obtain ⟨certs, hholds, hnames⟩ := holds_twoTexts
  have hvalidators : ((askingOptions engine).validatorsFor none).outcome =
      .ok (some [Validator.store 0 certs]) :=
    (Options.validatorsFor_of_anchors rfl (by simp [twoTexts])).mpr ⟨certs, hholds, rfl⟩
  have hlists : (askingOptions engine).Configures [] := ⟨[], [], .nil, .nil, rfl⟩
  exact ⟨certs, Options.trustFor_eq_validators.mpr ⟨_, hvalidators, hlists, rfl⟩, hnames⟩

theorem servers_name_all_authorities_twoTexts :
    ∃ trust c c', ((askingOptions .rustls).trustFor none false).outcome = .ok trust ∧
      ((askingOptions .rustls).assemble .server false ⟨some baseIdentity, trust⟩).outcome = .ok c ∧
      ((askingOptions .openssl).assemble .server false ⟨some baseIdentity, .validators
        (Validator.revokingAll [] (Validator.revokingAll [bareList] trust.judges))
        [bareList]⟩).outcome = .ok c' ∧
      c.AsksFor [letterName 66, letterName 65, letterName 65] ∧
      c'.AsksFor [letterName 66, letterName 65, letterName 65] := by
  obtain ⟨certs, htrust, hnames⟩ := trustFor_askingOptions .rustls
  have halpn : ∀ engine, (askingOptions engine).alpnConfig false = .ok none := fun _ => rfl
  have hauth : ∀ engine, (askingOptions engine).clientAuth ≠ .none := by simp [askingOptions]
  obtain ⟨c, hc, -⟩ := exists_server_of_baseIdentity rfl (halpn .rustls)
    (.validators [Validator.store 0 certs] [])
  obtain ⟨c', hc', -⟩ := exists_server_of_baseIdentity rfl (halpn .openssl)
    (.validators [Validator.revoking [] (Validator.revoking [bareList] (Validator.store 0 certs))]
      [bareList])
  obtain ⟨hasks, -, hwrapped, -⟩ := servers_name_all_authorities (hauth .rustls) hc rfl
  have hasks' := hwrapped _ _ _ c' (hauth .openssl) hc' rfl
    (.cons (.revoking _ (.revoking _ .refl)) .nil)
  have hauthorities : Validator.authorities [Validator.store 0 certs] =
      [letterName 66, letterName 65, letterName 65] := by
    rw [Validator.authorities, List.flatMap_singleton]
    exact hnames
  exact ⟨_, c, c', htrust, hc, hc', hauthorities ▸ hasks, hauthorities ▸ hasks'⟩

end TlsSetup
