import TlsSetup.Engine.Provider
import TlsSetup.Proofs.Coherence
import TlsSetup.Proofs.Conversion

/-!
# Suites by their printed names

The provider of the rustls engine is restricted to suites by the names that they are printed under. No
two suites are printed alike, so a list of names stands for one list of suites at most. It stands for
one if every name is printed somewhere, and else the first name that is not is reported.
-/

namespace TlsSetup

namespace RustlsSuite

private theorem mem_all (s : RustlsSuite) : s ∈ all := by
  cases s <;> decide

private theorem map_name_all : all.map name = Engine.rustlsSuites := rfl

private theorem nodup_map_name_all : (all.map name).Nodup := by
  decide +kernel

private theorem name_injective : Function.Injective name := fun s t h =>
  List.inj_on_of_nodup_map nodup_map_name_all (mem_all s) (mem_all t) h

/-- A suite is printed under this name. -/
def IsPrinted (n : String) : Prop := ∃ s : RustlsSuite, s.name = n

private theorem mem_rustlsSuites_iff {n : String} : n ∈ Engine.rustlsSuites ↔ IsPrinted n := by
  rw [← map_name_all, List.mem_map]
  exact exists_congr fun s => and_iff_right (mem_all s)

private theorem exists_map_name_iff {names : List String} :
    (∃ suites : List RustlsSuite, suites.map name = names) ↔ ∀ n ∈ names, IsPrinted n := by
  constructor
  · rintro ⟨suites, rfl⟩ n hn
    obtain ⟨s, -, hs⟩ := List.mem_map.mp hn
    exact ⟨s, hs⟩
  · intro h
    induction names with
    | nil => exact ⟨[], rfl⟩
    | cons n names ih =>
      obtain ⟨⟨s, hs⟩, hrest⟩ := List.forall_mem_cons.mp h
      obtain ⟨suites, hsuites⟩ := ih hrest
      exact ⟨s :: suites, by rw [List.map_cons, hs, hsuites]⟩

end RustlsSuite

namespace Provider

open RustlsSuite

variable {α : Type} {others : α} {names : List String} {n : String} {e : Error}

private theorem find_eq_ok {s : RustlsSuite} : (standard others).find n = .ok s ↔ s.name = n := by
  rw [find]
  cases hfound : (standard others).suites.find? (·.name = n) with
  | some t =>
    -- the first suite that is found is the only one
    have ht : t.name = n := by simpa using List.find?_some hfound
    rw [Except.ok.injEq, ← ht, name_injective.eq_iff, eq_comm]
  | none =>
    have hnone := List.find?_eq_none.mp hfound s (mem_all s)
    simpa using hnone

private theorem find_eq_error : (standard others).find n = .error e ↔
    ¬ IsPrinted n ∧ e = .config (.unsupportedSuite n) := by
  cases hfind : (standard others).find n with
  | ok s =>
    have hprinted : IsPrinted n := ⟨s, find_eq_ok.mp hfind⟩
    simp [hprinted]
  | error e' =>
    have hunprinted : ¬ IsPrinted n := by
      rintro ⟨s, hs⟩
      rw [find_eq_ok.mpr hs] at hfind
      cases hfind
    have he : e' = .config (.unsupportedSuite n) := by
      rw [find] at hfind
      split at hfind
      · cases hfind
      · exact (Except.error.inj hfind).symm
    rw [he, Except.error.injEq, and_iff_right hunprinted, eq_comm]

private theorem mapM_find_eq_ok {suites : List RustlsSuite} :
    names.mapM (standard others).find = .ok suites ↔ suites.map name = names := by
  rw [except_mapM_eq_ok, ← List.forall₂_eq_eq_eq, List.forall₂_map_left_iff]
  simp only [find_eq_ok]
  exact ⟨List.Forall₂.flip, List.Forall₂.flip⟩

/-- A restriction has exactly the suites with the given names, and all else as before. -/
theorem restrictedTo_eq_ok {p : Provider α} : (standard others).restrictedTo names = .ok p ↔
    p.suites.map name = names ∧ p.others = others := by
  rw [restrictedTo, except_bind_eq_ok]
  simp only [mapM_find_eq_ok, except_pure_eq_ok]
  constructor
  · rintro ⟨suites, hsuites, rfl⟩
    exact ⟨hsuites, rfl⟩
  · rintro ⟨hsuites, rfl⟩
    exact ⟨p.suites, hsuites, rfl⟩

private theorem exists_restrictedTo_iff :
    (∃ p, (standard others).restrictedTo names = .ok p) ↔ ∀ n ∈ names, IsPrinted n := by
  rw [← exists_map_name_iff]
  constructor
  · rintro ⟨p, hp⟩
    exact ⟨p.suites, (restrictedTo_eq_ok.mp hp).1⟩
  · rintro ⟨suites, hsuites⟩
    exact ⟨⟨suites, others⟩, restrictedTo_eq_ok.mpr ⟨hsuites, rfl⟩⟩

private theorem restrictedTo_eq_error : (standard others).restrictedTo names = .error e ↔
    ∃ before n after, names = before ++ n :: after ∧ (∀ m ∈ before, IsPrinted m) ∧ ¬ IsPrinted n ∧
      e = .config (.unsupportedSuite n) := by
  have hmapM : (standard others).restrictedTo names = .error e ↔
      names.mapM (standard others).find = .error e := by
    rw [restrictedTo]
    cases names.mapM (standard others).find <;> simp [bind, Except.bind, pure, Except.pure]
  simp only [hmapM, except_mapM_eq_error, find_eq_ok, find_eq_error]
  rfl

/-- The engine's answer to a list of names is what its provider is restricted to. -/
theorem suites_eq (others : α) (names : List String) :
    Rustls.suites names = ((standard others).restrictedTo names).map fun p => p.suites.map name := by
  rw [Rustls.suites]
  cases hfirst : names.find? fun n => !Engine.rustlsSuites.contains n with
  | none =>
    have hall : ∀ n ∈ names, IsPrinted n := fun n hn => by
      have hmem := List.find?_eq_none.mp hfirst n hn
      simpa [mem_rustlsSuites_iff] using hmem
    have hexists : ∃ p, (standard others).restrictedTo names = .ok p :=
      exists_restrictedTo_iff.mpr hall
    obtain ⟨p, hp⟩ := hexists
    rw [hp, Except.map, (restrictedTo_eq_ok.mp hp).1]
  | some n =>
    obtain ⟨hn, before, after, hsplit, hbefore⟩ := List.find?_eq_some_iff_append.mp hfirst
    have herror : (standard others).restrictedTo names = .error (.config (.unsupportedSuite n)) := by
      refine restrictedTo_eq_error.mpr ⟨before, n, after, hsplit, fun m hm => ?_, ?_, rfl⟩
      · simpa [mem_rustlsSuites_iff] using hbefore m hm
      · simpa [mem_rustlsSuites_iff] using hn
    rw [herror, Except.map]

/-- What becomes of a provider with all suites when it is restricted to some names. -/
structure Restricts (others : α) (names : List String) : Prop where
  succeeds_iff : (∃ p, (standard others).restrictedTo names = .ok p) ↔ ∀ n ∈ names, IsPrinted n
  eq_ok_iff : ∀ p, (standard others).restrictedTo names = .ok p ↔
    p.suites.map name = names ∧ p.others = others
  eq_error_iff : ∀ e, (standard others).restrictedTo names = .error e ↔
    ∃ before n after, names = before ++ n :: after ∧ (∀ m ∈ before, IsPrinted m) ∧ ¬ IsPrinted n ∧
      e = .config (.unsupportedSuite n)
  named : ∀ e, (standard others).restrictedTo names = .error e → ∃ n ∈ names,
    e.message = "Invalid configuration: " ++ ("Unsupported cipher suite for rustls: " ++ n)
  of_engine : Rustls.suites names =
    ((standard others).restrictedTo names).map fun p => p.suites.map name

private theorem restricts (others : α) (names : List String) : Restricts others names where
  succeeds_iff := exists_restrictedTo_iff
  eq_ok_iff _ := restrictedTo_eq_ok
  eq_error_iff _ := restrictedTo_eq_error
  named e he := by
    obtain ⟨before, n, after, rfl, -, -, rfl⟩ := restrictedTo_eq_error.mp he
    exact ⟨n, by simp, rfl⟩
  of_engine := suites_eq others names

end Provider

/-- The names of the suites that an object of the rustls engine has. -/
def EngineContext.rustlsNames? : EngineContext → Option (List String)
  | .openssl _ => none
  | .rustlsServer s => some s.suites
  | .rustlsClient c => some c.suites

section Contexts

open RustlsSuite

variable {α : Type} {o : Options} {role : Role} {useAlpn : Bool} {cred : Credentials} {c : Context}

theorem EngineContext.rustlsNames_of_wasGiven {inner : EngineContext} {names : List String}
    (hfor : inner.IsFor .rustls role) (hgiven : inner.WasGiven names) :
    inner.rustlsNames? = some names := by
  cases inner with
  | openssl e => cases hfor.1
  | rustlsServer s => exact congrArg some hgiven
  | rustlsClient s => exact congrArg some hgiven

private theorem exists_suites_of_engineContext {r : EngineRequest} {inner : EngineContext}
    (h : (Options.engineContext .rustls r).outcome = .ok inner) :
    ∃ names, Rustls.suites r.cipherSuites = .ok names := by
  rcases Options.engineContext_eq_ok.mp h with ⟨he, -⟩ | ⟨-, -, s, hs, -⟩ | ⟨-, -, s, hs, -⟩
  · cases he
  · obtain ⟨names, i, hsuites, -⟩ := Rustls.buildServer_eq_ok.mp hs
    exact ⟨names, hsuites⟩
  · obtain ⟨names, hsuites, -⟩ := Rustls.buildClient_eq_ok.mp hs
    exact ⟨names, hsuites⟩

private theorem restrictedTo_of_assemble (others : α) (he : o.engine = .rustls)
    (hc : (o.assemble role useAlpn cred).outcome = .ok c) :
    ∃ p, (Provider.standard others).restrictedTo c.cipherSuites = .ok p ∧
      p.suites.map name = c.cipherSuites ∧ c.inner.rustlsNames? = some c.cipherSuites := by
  have hmatches := matchesObject_of_assemble hc
  have hfor : c.inner.IsFor .rustls c.role := by
    rw [← he, ← (describes_of_assemble hc).engine]
    exact hmatches.isFor
  have hnames := EngineContext.rustlsNames_of_wasGiven hfor hmatches.suites
  obtain ⟨-, alpn, inner, -, hinner, rfl⟩ := Options.assemble_eq_ok.mp hc
  rw [he] at hinner
  obtain ⟨found, hfound⟩ := exists_suites_of_engineContext hinner
  rw [Provider.suites_eq others, except_map_eq_ok] at hfound
  obtain ⟨p, hp, -⟩ := hfound
  exact ⟨p, hp, (Provider.restrictedTo_eq_ok.mp hp).1, hnames⟩

private theorem assemble_congr_suites {names : List String}
    (h : ({ o with cipherSuites := names } : Options).effectiveSuites = o.effectiveSuites) :
    ({ o with cipherSuites := names } : Options).assemble role useAlpn cred =
      o.assemble role useAlpn cred := by
  have hrequest : ∀ alpn, ({ o with cipherSuites := names } : Options).engineRequest role alpn cred =
      o.engineRequest role alpn cred := fun alpn => by
    rw [Options.engineRequest, h]
    rfl
  have hcontext : ∀ r inner, ({ o with cipherSuites := names } : Options).contextOf r inner =
      o.contextOf r inner := fun r inner => by
    rw [Options.contextOf, h]
    rfl
  simp only [Options.assemble, hrequest, hcontext, h]
  rfl

private theorem set_defaultCipherSuites (engine : Engine) (hnil : o.cipherSuites = []) :
    o.set (.cipherSuites engine.defaultCipherSuites) =
      { o with cipherSuites := engine.defaultCipherSuites } := by
  have hdistinct : engine.defaultCipherSuites.eraseDups = engine.defaultCipherSuites := by
    cases engine <;> decide +kernel
  rw [Options.set, hnil, Options.foldl_addSuite, hdistinct]

private theorem assemble_set_defaultCipherSuites (hnil : o.cipherSuites = []) :
    (o.set (.cipherSuites o.engine.defaultCipherSuites)).assemble role useAlpn cred =
      o.assemble role useAlpn cred := by
  rw [set_defaultCipherSuites _ hnil]
  apply assemble_congr_suites
  rw [Options.effectiveSuites_eq, Options.effectiveSuites_eq, if_pos hnil]
  exact if_neg o.engine.defaultCipherSuites_ne_nil

/-- A provider is restricted to a list of names exactly: to the suites that are printed so, in their
order, or else not at all. A context of the rustls engine has exactly the suites that it says, and the
engine's own names are as good as none. -/
theorem restriction_to_names_is_exact (others : α) :
    (∀ names, Provider.Restricts others names) ∧
    (∀ o role useAlpn cred c, o.engine = .rustls →
      (Options.assemble o role useAlpn cred).outcome = .ok c →
      ∃ p, (Provider.standard others).restrictedTo c.cipherSuites = .ok p ∧
        p.suites.map name = c.cipherSuites ∧ c.inner.rustlsNames? = some c.cipherSuites) ∧
    ∀ o role useAlpn cred, o.engine = .rustls → Options.cipherSuites o = [] →
      Options.assemble (o.set (.cipherSuites (all.map name))) role useAlpn cred =
        o.assemble role useAlpn cred := by
  refine ⟨Provider.restricts others, ?_, ?_⟩
  · intro o role useAlpn cred c he hc
    exact restrictedTo_of_assemble others he hc
  · intro o role useAlpn cred he hnil
    have hnames : all.map name = o.engine.defaultCipherSuites := by
      rw [he]
      rfl
    rw [hnames]
    exact assemble_set_defaultCipherSuites hnil

/-- Options with two suites, in an order that the engine would not choose. -/
def reversedOptions : Options :=
  { bareOptions .rustls with
    cipherSuites := ["TLS_ECDHE_RSA_WITH_AES_128_GCM_SHA256", "TLS13_AES_256_GCM_SHA384"] }

private theorem exists_reversed_client :
    ∃ c, (reversedOptions.assemble .client false ⟨none, .none⟩).outcome = .ok c := by
  have hprinted : Rustls.suites reversedOptions.cipherSuites = .ok reversedOptions.cipherSuites := by
    have hp : (Provider.standard ()).restrictedTo reversedOptions.cipherSuites =
        .ok ⟨[.rsaAes128, .tls13Aes256], ()⟩ := Provider.restrictedTo_eq_ok.mpr ⟨rfl, rfl⟩
    rw [Provider.suites_eq (), hp]
    rfl
  have hbuild : Rustls.buildClient (reversedOptions.engineRequest .client none ⟨none, .none⟩) =
      .ok ⟨reversedOptions.cipherSuites, [], none, []⟩ :=
    Rustls.buildClient_eq_ok.mpr ⟨_, hprinted, by simp [Options.engineRequest], rfl⟩
  have hinner := Options.engineContext_eq_ok.mpr (.inr (.inr ⟨rfl, rfl, _, hbuild, rfl⟩))
  exact ⟨_, Options.assemble_eq_ok.mpr ⟨by simp, none, _, rfl, hinner, rfl⟩⟩

theorem restriction_to_names_is_exact_reversed :
    ∃ p c, (Provider.standard ()).restrictedTo reversedOptions.cipherSuites = .ok p ∧
      p.suites = [.rsaAes128, .tls13Aes256] ∧
      (reversedOptions.assemble .client false ⟨none, .none⟩).outcome = .ok c ∧
      c.inner.rustlsNames? = some reversedOptions.cipherSuites ∧
      (Provider.standard ()).restrictedTo ["TLS13_AES_256_GCM_SHA384", "NULL", "NONE"] =
        .error (.config (.unsupportedSuite "NULL")) := by
  obtain ⟨hrestricts, hcontexts, -⟩ := restriction_to_names_is_exact ()
  obtain ⟨c, hc⟩ := exists_reversed_client
  obtain ⟨p, hp, hnames, hinner⟩ := hcontexts reversedOptions .client false _ c rfl hc
  have hsuites : c.cipherSuites = reversedOptions.cipherSuites := (describes_of_assemble hc).suites
  rw [hsuites] at hp hnames hinner
  have hmodern : IsPrinted "TLS13_AES_256_GCM_SHA384" := ⟨.tls13Aes256, rfl⟩
  have hnull : ¬ IsPrinted "NULL" := by
    rintro ⟨s, hs⟩
    cases s <;> exact absurd hs (by decide)
  refine ⟨p, c, hp, name_injective.list_map hnames, hc, hinner, ?_⟩
  exact ((hrestricts _).eq_error_iff _).mpr
    ⟨["TLS13_AES_256_GCM_SHA384"], "NULL", ["NONE"], rfl, by simpa using hmodern, hnull, rfl⟩

end Contexts

end TlsSetup
