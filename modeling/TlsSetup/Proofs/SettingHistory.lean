import TlsSetup.Proofs.Conversion

/-!
# What options keep of their settings

Options are made by any number of settings, each of which is about one field. A field depends only on
what the settings for it give, in their order: some keep what was given last, some keep all of it, and
the suites keep the first mention of each name. So settings for different fields may change places.
-/

namespace TlsSetup

namespace Setting

inductive Field where
  | engine
  | sessionCache
  | keySource
  | trustSource
  | crlPaths
  | crlValues
  | cipherSuites
  | protocols
  | clientAuth
  | resources
  deriving DecidableEq

/-- What one setting gives for a field. -/
abbrev Field.Gift : Field → Type
  | .engine => Engine
  | .sessionCache => Bool
  | .keySource => KeySource
  | .trustSource => TrustSource
  | .crlPaths => String
  | .crlValues => Bytes
  | .cipherSuites => List String
  | .protocols => List String
  | .clientAuth => ClientAuth
  | .resources => Loader

/-- The field that a setting is about, with what it gives. -/
def gift : Setting → (f : Field) × f.Gift
  | .engine e => ⟨.engine, e⟩
  | .sessionCache enabled => ⟨.sessionCache, enabled⟩
  | .keySource s => ⟨.keySource, s⟩
  | .trustSource s => ⟨.trustSource, s⟩
  | .crlPath p => ⟨.crlPaths, p⟩
  | .crlValue bs => ⟨.crlValues, bs⟩
  | .cipherSuite name => ⟨.cipherSuites, [name]⟩
  | .cipherSuites names => ⟨.cipherSuites, names⟩
  | .protocols names => ⟨.protocols, names⟩
  | .clientAuth mode => ⟨.clientAuth, mode⟩
  | .resources l => ⟨.resources, l⟩

def field (s : Setting) : Field := s.gift.1

def giftFor? (f : Field) (s : Setting) : Option f.Gift :=
  if h : s.field = f then some (h ▸ s.gift.2) else none

/-- What some settings give for a field, in order. -/
def given (f : Field) (settings : List Setting) : List f.Gift := settings.filterMap (giftFor? f)

/-- The names of suites that some settings give, with repetitions. -/
def namesGiven (settings : List Setting) : List String :=
  (given .cipherSuites settings : List (List String)).flatten

/-- The settings for each field are the same ones, in the same order. -/
def SameHistory (settings others : List Setting) : Prop :=
  ∀ f, settings.filter (·.field = f) = others.filter (·.field = f)

end Setting

namespace Options

open Setting

/-- What a field keeps if only what was given last counts. -/
def lastOr {α : Type} (unset : α) (gifts : List α) : α := gifts.getLast?.getD unset

/-- The options that come of a history of settings, field by field. -/
def ofHistory (env : Environment) (settings : List Setting) : Options where
  engine := lastOr Engine.openssl (given .engine settings)
  sessionCache := lastOr true (given .sessionCache settings)
  keySource := (given .keySource settings).getLast?
  trustSource := (given .trustSource settings).getLast?
  crlPaths := given .crlPaths settings
  crlValues := given .crlValues settings
  cipherSuites := (namesGiven settings).eraseDups
  protocols := lastOr [] (given .protocols settings)
  clientAuth := lastOr ClientAuth.none (given .clientAuth settings)
  resources := lastOr env.loader (given .resources settings)

private theorem given_concat (f : Field) (settings : List Setting) (s : Setting) :
    given f (settings ++ [s]) = given f settings ++ (giftFor? f s).toList := by
  rw [given, List.filterMap_append]
  cases h : giftFor? f s <;> simp [given, h]

private theorem eraseDups_append_names (names more : List String) :
    (names ++ more).eraseDups = more.foldl addSuite names.eraseDups := by
  rw [← foldl_addSuite, List.foldl_append, foldl_addSuite]

private theorem ofHistory_concat (env : Environment) (settings : List Setting) (s : Setting) :
    ofHistory env (settings ++ [s]) = (ofHistory env settings).set s := by
  cases s <;> simp [ofHistory, namesGiven, given_concat, lastOr, giftFor?, field, gift, set,
    eraseDups_append_names]

private theorem build_eq_ofHistory (env : Environment) (settings : List Setting) :
    build env settings = ofHistory env settings := by
  -- from the end, where the last setting stands
  induction settings using List.reverseRecOn with
  | nil => rfl
  | append_singleton settings s ih =>
    rw [ofHistory_concat, ← ih, build, build, List.foldl_append, List.foldl_cons, List.foldl_nil]

end Options

section FirstMentions

/-- A list has each of the given names once, in the order in which they are first mentioned. -/
structure FirstMentions (given distinct : List String) : Prop where
  nodup : distinct.Nodup
  mem_iff : ∀ n, n ∈ distinct ↔ n ∈ given
  ordered : distinct.Pairwise fun a b => given.idxOf a < given.idxOf b

namespace FirstMentions

variable {given distinct others : List String}

theorem unique (h : FirstMentions given distinct) (h' : FirstMentions given others) :
    distinct = others := by
  have hperm : distinct.Perm others := (List.perm_ext_iff_of_nodup h.nodup h'.nodup).mpr fun n =>
    (h.mem_iff n).trans (h'.mem_iff n).symm
  exact hperm.eq_of_pairwise (fun a b _ _ hab hba => absurd hba hab.asymm) h.ordered h'.ordered

theorem addSuite (h : FirstMentions given distinct) (name : String) :
    FirstMentions (given ++ [name]) (Options.addSuite distinct name) := by
  have hold : distinct.Pairwise fun a b => (given ++ [name]).idxOf a < (given ++ [name]).idxOf b :=
    h.ordered.imp_of_mem fun ha hb hab => by
      rwa [List.idxOf_append_of_mem ((h.mem_iff _).mp ha),
        List.idxOf_append_of_mem ((h.mem_iff _).mp hb)]
  rw [Options.addSuite]
  by_cases hname : name ∈ distinct
  · rw [if_pos (by simpa using hname)]
    refine ⟨h.nodup, fun n => ?_, hold⟩
    rw [List.mem_append, ← h.mem_iff, List.mem_singleton, or_iff_left_of_imp]
    rintro rfl
    exact hname
  -- a new name stands behind all that were mentioned, in the one list as in the other
  · have hnew : name ∉ given := fun hn => hname ((h.mem_iff name).mpr hn)
    rw [if_neg (by simpa using hname)]
    refine ⟨?_, fun n => ?_, List.pairwise_append.mpr ⟨hold, by simp, ?_⟩⟩
    · rw [← List.concat_eq_append]
      exact h.nodup.concat hname
    · rw [List.mem_append, List.mem_append, h.mem_iff]
    · intro a ha b hb
      obtain rfl := List.mem_singleton.mp hb
      have hmem := (h.mem_iff a).mp ha
      rw [List.idxOf_append_of_mem hmem, List.idxOf_append_of_notMem hnew]
      exact Nat.lt_add_right _ (List.idxOf_lt_length_of_mem hmem)

theorem eraseDups (given : List String) : FirstMentions given given.eraseDups := by
  induction given using List.reverseRecOn with
  | nil => exact ⟨List.nodup_nil, by simp, List.Pairwise.nil⟩
  | append_singleton given name ih =>
    rw [Options.eraseDups_append_names]
    exact ih.addSuite name

private theorem iff_eq_eraseDups : FirstMentions given distinct ↔ distinct = given.eraseDups :=
  ⟨fun h => h.unique (eraseDups given), fun h => h ▸ eraseDups given⟩

end FirstMentions

end FirstMentions

namespace Setting

variable {settings others before after : List Setting} {s t : Setting}

private theorem giftFor?_of_ne {f : Field} (h : s.field ≠ f) : s.giftFor? f = none := dif_neg h

private theorem given_filter (f : Field) (settings : List Setting) :
    given f (settings.filter (·.field = f)) = given f settings := by
  rw [given, List.filterMap_filter, given]
  apply List.filterMap_congr
  intro s _
  by_cases h : s.field = f
  · simp [h]
  · simp [h, giftFor?_of_ne]

theorem SameHistory.given_eq (h : SameHistory settings others) (f : Field) :
    given f settings = given f others := by
  rw [← given_filter, h f, given_filter]

theorem SameHistory.swap (h : s.field ≠ t.field) :
    SameHistory (before ++ s :: t :: after) (before ++ t :: s :: after) := by
  intro f
  rw [List.filter_append, List.filter_append]
  congr 1
  by_cases hs : s.field = f
  · have ht : t.field ≠ f := fun ht => h (hs.trans ht.symm)
    simp [hs, ht]
  · simp [List.filter_cons, hs]

private theorem given_ne_nil_iff {f : Field} :
    given f settings ≠ [] ↔ ∃ s ∈ settings, s.field = f := by
  rw [given, Ne, List.filterMap_eq_nil_iff]
  simp [giftFor?]

end Setting

namespace Options

open Setting

variable {env : Environment} {settings others before after : List Setting} {s t : Setting}
  {names : List String}

private theorem ofHistory_congr (h : ∀ f, given f settings = given f others) :
    ofHistory env settings = ofHistory env others := by
  simp only [ofHistory, namesGiven, h]

private theorem build_eq_of_sameHistory (h : SameHistory settings others) :
    build env settings = build env others := by
  rw [build_eq_ofHistory, build_eq_ofHistory, ofHistory_congr h.given_eq]

private theorem foldl_set_cipherSuite (o : Options) (names : List String) :
    (names.map Setting.cipherSuite).foldl set o = o.set (.cipherSuites names) := by
  induction names generalizing o with
  | nil => rfl
  | cons name names ih =>
    rw [List.map_cons, List.foldl_cons, ih]
    rfl

private theorem foldl_addSuite_of_subset {found : List String} (h : names ⊆ found) :
    names.foldl addSuite found = found := by
  induction names with
  | nil => rfl
  | cons name names ih =>
    obtain ⟨hname, hrest⟩ := List.cons_subset.mp h
    rw [List.foldl_cons, addSuite, if_pos (by simpa using hname), ih hrest]

private theorem set_cipherSuites_of_given (h : names ⊆ namesGiven settings) :
    (build env settings).set (.cipherSuites names) = build env settings := by
  have hsuites : names ⊆ (build env settings).cipherSuites := fun n hn => by
    rw [build_eq_ofHistory]
    exact List.mem_eraseDups.mpr (h hn)
  rw [set, foldl_addSuite_of_subset hsuites]

private theorem build_append_cons (env : Environment) (before after : List Setting) (s : Setting) :
    build env (before ++ s :: after) = after.foldl set ((build env before).set s) := by
  rw [build, List.foldl_append, List.foldl_cons]
  rfl

private theorem hasCrls_build_iff : (build env settings).hasCrls = true ↔
    ∃ s ∈ settings, s.field = .crlPaths ∨ s.field = .crlValues := by
  have hlists : (build env settings).hasCrls = true ↔
      given .crlPaths settings ≠ [] ∨ given .crlValues settings ≠ [] := by
    rw [build_eq_ofHistory]
    simp [hasCrls, ofHistory]
  rw [hlists, given_ne_nil_iff, given_ne_nil_iff]
  simp only [← exists_or, ← and_or_left]

/-- Options are told from what was given for each field, in order, whatever stands between. -/
theorem options_follow_history_of_fields (env : Environment) :
    (∀ settings, build env settings = ofHistory env settings) ∧
    (∀ settings names, (build env settings).cipherSuites = names ↔
      FirstMentions (namesGiven settings) names) ∧
    (∀ settings others, SameHistory settings others → build env settings = build env others) ∧
    (∀ before s t after, field s ≠ field t →
      build env (before ++ s :: t :: after) = build env (before ++ t :: s :: after)) ∧
    (∀ before names after, build env (before ++ .cipherSuites names :: after) =
      build env (before ++ names.map .cipherSuite ++ after)) ∧
    (∀ before names after, names ⊆ namesGiven before →
      build env (before ++ .cipherSuites names :: after) = build env (before ++ after)) ∧
    ∀ settings, (build env settings).hasCrls = true ↔
      ∃ s ∈ settings, s.field = .crlPaths ∨ s.field = .crlValues := by
  refine ⟨build_eq_ofHistory env, ?_, fun _ _ => build_eq_of_sameHistory, ?_, ?_, ?_,
    fun _ => hasCrls_build_iff⟩
  · intro settings names
    rw [build_eq_ofHistory, FirstMentions.iff_eq_eraseDups, eq_comm]
    rfl
  · intro before s t after h
    exact build_eq_of_sameHistory (.swap h)
  · intro before names after
    rw [build_append_cons, ← foldl_set_cipherSuite, build, build, List.foldl_append,
      List.foldl_append]
  · intro before names after h
    rw [build_append_cons, set_cipherSuites_of_given h, build, build, List.foldl_append]

/-- Settings for four fields, with one suite named again. -/
def mixedSettings : List Setting :=
  [.cipherSuite "A", .engine .rustls, .cipherSuites ["B", "A"], .crlPath "list.crl",
    .clientAuth .required, .engine .openssl]

theorem options_follow_history_of_fields_mixed :
    build diskEnvironment mixedSettings = build diskEnvironment
        [.engine .rustls, .crlPath "list.crl", .engine .openssl, .cipherSuite "A",
          .cipherSuites ["B", "A"], .clientAuth .required] ∧
      (build diskEnvironment mixedSettings).engine = .openssl ∧
      (build diskEnvironment mixedSettings).cipherSuites = ["A", "B"] ∧
      build diskEnvironment (mixedSettings ++ [.cipherSuites ["B"]]) =
        build diskEnvironment mixedSettings ∧
      (build diskEnvironment mixedSettings).hasCrls = true := by
  obtain ⟨hbuild, hnames, hsame, -, -, hagain, hcrls⟩ :=
    options_follow_history_of_fields diskEnvironment
  have hgiven : namesGiven mixedSettings = ["A", "B", "A"] := rfl
  have hmentions : FirstMentions (namesGiven mixedSettings) ["A", "B"] :=
    FirstMentions.iff_eq_eraseDups.mpr (by rw [hgiven]; decide)
  refine ⟨hsame _ _ fun f => ?_, ?_, (hnames _ _).mpr hmentions, ?_, (hcrls _).mpr ?_⟩
  · cases f <;> rfl
  · rw [hbuild]
    rfl
  · have hagain := hagain mixedSettings ["B"] [] (by simp [hgiven])
    rwa [List.append_nil] at hagain
  · exact ⟨.crlPath "list.crl", by simp [mixedSettings], .inl rfl⟩

end Options

end TlsSetup
