import TlsSetup.Engine.SuiteSetup
import TlsSetup.Proofs.Coherence
import TlsSetup.Proofs.HostLabels

/-!
# Which lists of suites are in effect

The openssl engine has a list of its own for either kind of suites, which nobody asked for. A context is
told both kinds apart. If one of them has no name, the versions that need it are taken away, so that no
list of the engine's own is in effect for a version that is left; and as there are always some names,
there is always such a version.
-/

namespace TlsSetup

namespace Text

variable {separator : Char} {parts : List (List Char)}

private theorem pieces_intercalate (hne : parts ≠ []) (h : ∀ part ∈ parts, separator ∉ part) :
    pieces separator ([separator].intercalate parts) = parts := by
  induction parts with
  | nil => exact absurd rfl hne
  | cons part rest ih =>
    obtain ⟨hpart, hrest⟩ := List.forall_mem_cons.mp h
    cases rest with
    | nil => rw [List.intercalate_singleton, pieces_of_notMem hpart]
    | cons next others =>
      rw [List.intercalate_cons_cons, List.append_assoc, List.singleton_append,
        pieces_append hpart, ih (by simp) hrest]

end Text

section Joined

variable {names : List String}

private theorem pieces_joined (hne : names ≠ []) (h : ∀ n ∈ names, ':' ∉ n.toList) :
    Text.pieces ':' (":".intercalate names).toList = names.map String.toList := by
  have hparts : ∀ part ∈ names.map String.toList, ':' ∉ part := by simpa using h
  rw [String.toList_intercalate]
  exact Text.pieces_intercalate (by simpa using hne) hparts

private theorem mem_joined_iff {c : Char} (hc : c ≠ ':') :
    c ∈ (":".intercalate names).toList ↔ ∃ n ∈ names, c ∈ n.toList := by
  rw [String.toList_intercalate]
  induction names with
  | nil => simp
  | cons name rest ih =>
    cases rest with
    | nil => simp
    | cons next others =>
      have htail : c ∈ ":".toList.intercalate (next.toList :: others.map String.toList) ↔
          ∃ n ∈ next :: others, c ∈ n.toList := ih
      rw [List.map_cons, List.map_cons, List.intercalate_cons_cons, List.mem_append, List.mem_append,
        htail]
      simp [hc]

private theorem joined_ne_empty (hne : names ≠ []) (h : ∀ n ∈ names, n ≠ "") :
    ":".intercalate names ≠ "" := by
  obtain ⟨name, rest, rfl⟩ := List.exists_cons_of_ne_nil hne
  have hname : name.toList ≠ [] := by simpa using h name (by simp)
  obtain ⟨c, cs, hcs⟩ := List.exists_cons_of_ne_nil hname
  intro hempty
  have hnil := String.toList_eq_nil_iff.mpr hempty
  rw [String.toList_intercalate] at hnil
  cases rest <;> simp [hcs] at hnil

end Joined

section SharedOut

/-- Names are shared out by a test: each of them is put into one of two lists, which keep their order. -/
structure SharedOut (test : String → Prop) (names passing failing : List String) : Prop where
  passing_sublist : passing.Sublist names
  failing_sublist : failing.Sublist names
  perm : (passing ++ failing).Perm names
  passes : ∀ n ∈ passing, test n
  fails : ∀ n ∈ failing, ¬ test n
  one_of_two : ∀ n ∈ names, (n ∈ passing ∧ n ∉ failing) ∨ (n ∉ passing ∧ n ∈ failing)

variable {test : String → Prop} {names passing failing : List String}

theorem SharedOut.passing_eq_nil_iff (h : SharedOut test names passing failing) :
    passing = [] ↔ ∀ n ∈ names, ¬ test n := by
  constructor
  · intro hnil n hn
    rcases h.one_of_two n hn with ⟨hmem, -⟩ | ⟨-, hmem⟩
    · simp [hnil] at hmem
    · exact h.fails n hmem
  · intro hall
    exact List.eq_nil_iff_forall_not_mem.mpr fun n hn =>
      hall n (h.passing_sublist.subset hn) (h.passes n hn)

theorem SharedOut.failing_eq_nil_iff (h : SharedOut test names passing failing) :
    failing = [] ↔ ∀ n ∈ names, test n := by
  constructor
  · intro hnil n hn
    rcases h.one_of_two n hn with ⟨hmem, -⟩ | ⟨-, hmem⟩
    · exact h.passes n hmem
    · simp [hnil] at hmem
  · intro hall
    exact List.eq_nil_iff_forall_not_mem.mpr fun n hn =>
      h.fails n hn (hall n (h.failing_sublist.subset hn))

end SharedOut

namespace CipherRules

def IsModernName (name : String) : Prop :=
  "TLS_".toList <+: name.toList ∧ ¬ "_WITH_".toList <:+: name.toList

private theorem contains_iff (part cs : List Char) :
    isModern.contains part cs = true ↔ part <:+: cs := by
  induction cs with
  | nil => simp [isModern.contains]
  | cons c cs ih => simp [isModern.contains, ih, List.infix_cons_iff]

private theorem isModern_iff {name : String} : isModern name = true ↔ IsModernName name := by
  rw [isModern, IsModernName, ← contains_iff]
  simp

private theorem isModern_eq_false_iff {name : String} :
    isModern name = false ↔ ¬ IsModernName name := by
  rw [← isModern_iff, Bool.not_eq_true]

private theorem ne_empty_of_isModern {name : String} (h : isModern name = true) : name ≠ "" := by
  rintro rfl
  exact absurd (isModern_iff.mp h).1 (by decide)

/-- Of a list that is handed over as one text the engine sees the same suites. -/
theorem modernSuites_joined (names : List String) :
    modernSuites [":".intercalate names] = modernSuites names := by
  rw [modernSuites, String.intercalate_singleton, modernSuites]

private theorem acceptsLegacy_joined (modern legacy : List String) :
    acceptsLegacy [":".intercalate modern] [":".intercalate legacy] =
      acceptsLegacy modern legacy := by
  rw [acceptsLegacy, String.intercalate_singleton, modernSuites_joined, acceptsLegacy]

end CipherRules

namespace SuiteSetup

open CipherRules

variable {names modern legacy : List String} {s : SuiteSetup}

private theorem contains_nul_joined (names : List String) :
    (":".intercalate names).toList.contains '\x00' = names.any (·.toList.contains '\x00') := by
  rw [Bool.eq_iff_iff, List.contains_iff_mem, mem_joined_iff (by decide)]
  simp

private theorem setModern_joined (h : ∀ n ∈ modern, isModern n = true) :
    s.setModern (":".intercalate modern) =
      if modern.any (·.toList.contains '\x00') then .error .nulInText
      else if acceptsModern modern = false then .error (.provider .engine)
      else .ok { s with modernList := some (":".intercalate modern) } := by
  have hempty : (":".intercalate modern).isEmpty = modern.isEmpty := by
    by_cases hnil : modern = []
    · rw [hnil]
      rfl
    · have hjoined := joined_ne_empty hnil fun n hn => ne_empty_of_isModern (h n hn)
      rw [List.isEmpty_eq_false_iff.mpr hnil, ← Bool.not_eq_true, String.isEmpty_iff]
      exact hjoined
  rw [setModern, contains_nul_joined, hempty, acceptsModern, acceptsModern, modernSuites_joined]
  cases modern.isEmpty <;> simp

private theorem setLegacy_joined (hs : s.modernList = some (":".intercalate modern)) :
    s.setLegacy (":".intercalate legacy) =
      if legacy.any (·.toList.contains '\x00') then .error .nulInText
      else if acceptsLegacy modern legacy = false then .error (.provider .engine)
      else .ok { s with legacyList := some (":".intercalate legacy) } := by
  rw [setLegacy, contains_nul_joined, hs, Option.toList_some, acceptsLegacy_joined]
  simp

private theorem sharedOut_filter (names : List String) :
    SharedOut IsModernName names (names.filter isModern) (names.filter fun n => !isModern n) where
  passing_sublist := List.filter_sublist
  failing_sublist := List.filter_sublist
  perm := List.filter_append_perm isModern names
  passes n hn := isModern_iff.mp (List.mem_filter.mp hn).2
  fails n hn := isModern_eq_false_iff.mp (by simpa using (List.mem_filter.mp hn).2)
  one_of_two n hn := by
    cases hm : isModern n with
    | true => exact .inl (by simp [hn, hm])
    | false => exact .inr (by simp [hn, hm])

/-- What a context has been told when its suites are of these two kinds. -/
def told (modern legacy : List String) : SuiteSetup where
  modernList := some (":".intercalate modern)
  legacyList := if legacy = [] then none else some (":".intercalate legacy)
  oldest := if legacy = [] then some .tls13 else none
  newest := if modern = [] then some .tls12 else none

/-- The engine takes what it is told exactly if the two lists pass their check. -/
theorem tell_fresh (names : List String) :
    fresh.tell names =
      (OpensslContext.checkSuites (names.filter isModern) (names.filter fun n => !isModern n)).map
        fun _ => told (names.filter isModern) (names.filter fun n => !isModern n) := by
  have hsplit : names.partition isModern =
      (names.filter isModern, names.filter fun n => !isModern n) := List.partition_eq_filter_filter
  have hmodern : ∀ n ∈ names.filter isModern, isModern n = true := fun n hn =>
    (List.mem_filter.mp hn).2
  rw [tell, hsplit, OpensslContext.checkSuites]
  generalize names.filter isModern = modern at hmodern ⊢
  generalize names.filter (fun n => !isModern n) = legacy
  simp only [setModern_joined hmodern]
  by_cases hnul : modern.any (·.toList.contains '\x00') = true
  · rw [if_pos hnul, if_pos hnul]
    rfl
  by_cases haccepts : acceptsModern modern = false
  · rw [if_neg hnul, if_neg hnul, if_pos haccepts, if_pos haccepts]
    rfl
  rw [if_neg hnul, if_neg hnul, if_neg haccepts, if_neg haccepts]
  -- the first list is set, and only the second one can still be refused
  change (if legacy.isEmpty then _ else _) = _
  by_cases hnone : legacy = []
  · by_cases hold : modern = []
    · simp [hnone, hold, told, fresh, Except.map, pure, Except.pure]
    · simp [hnone, hold, told, fresh, Except.map, pure, Except.pure]
  · have hlegacy : ¬ legacy.isEmpty = true := by simpa using hnone
    rw [if_neg hlegacy, if_neg hlegacy, @setLegacy_joined modern legacy _ (by split <;> rfl)]
    by_cases hrest : legacy.any (·.toList.contains '\x00') = true
    · rw [if_pos hrest, if_pos hrest]
      rfl
    by_cases hused : acceptsLegacy modern legacy = false
    · rw [if_neg hrest, if_neg hrest, if_pos hused, if_pos hused]
      rfl
    rw [if_neg hrest, if_neg hrest, if_neg hused, if_neg hused]
    by_cases hold : modern = []
    · simp [hnone, hold, told, fresh, Except.map]
    · simp [hnone, hold, told, fresh, Except.map]

private theorem tell_of_build {r : EngineRequest} {e : OpensslContext}
    (h : OpensslContext.build r = .ok e) :
    fresh.tell r.cipherSuites = .ok (told e.modernSuites e.legacySuites) := by
  obtain ⟨-, hchecked, rfl⟩ := OpensslContext.build_eq_ok.mp h
  have hlists : OpensslContext.checkSuites (r.cipherSuites.filter isModern)
      (r.cipherSuites.filter fun n => !isModern n) = .ok () := hchecked
  rw [tell_fresh, hlists]
  rfl

private theorem bounds_of_build {r : EngineRequest} {e : OpensslContext}
    (h : OpensslContext.build r = .ok e) :
    (e.atMostTls12 = true ↔ (told e.modernSuites e.legacySuites).newest = some .tls12) ∧
    (e.atLeastTls13 = true ↔ (told e.modernSuites e.legacySuites).oldest = some .tls13) := by
  obtain ⟨-, -, rfl⟩ := OpensslContext.build_eq_ok.mp h
  constructor
  · by_cases hmodern : OpensslContext.modernOf r = [] <;>
      simp [OpensslContext.ofRequest, told, hmodern]
  · by_cases hlegacy : OpensslContext.legacyOf r = [] <;>
      simp [OpensslContext.ofRequest, told, hlegacy]

/-- The names of suites for a version, of two kinds. -/
def namesFor (modern legacy : List String) (v : ProtocolVersion) : List String :=
  if v = .tls13 then modern else legacy

/-- A context has been told some names, which are of these two kinds. No name is lost, and the versions
that are left are those for which there is a name. -/
structure Carries (s : SuiteSetup) (names modern legacy : List String) : Prop where
  shared : SharedOut IsModernName names modern legacy
  modern_set : s.modernList = some (":".intercalate modern)
  legacy_set : legacy ≠ [] → s.legacyList = some (":".intercalate legacy)
  legacy_own_iff : s.legacyList = none ↔ s.oldest = some .tls13
  capped_iff : s.newest = some .tls12 ↔ ∀ n ∈ names, ¬ IsModernName n
  uncapped_iff : s.newest = none ↔ ∃ n ∈ names, IsModernName n
  raised_iff : s.oldest = some .tls13 ↔ ∀ n ∈ names, IsModernName n
  unraised_iff : s.oldest = none ↔ ∃ n ∈ names, ¬ IsModernName n
  not_both : s.newest = none ∨ s.oldest = none
  allows_iff : ∀ v, s.allows v = true ↔ ∃ n ∈ names, (IsModernName n ↔ v = .tls13)
  allows_some : ∃ v, s.allows v = true
  in_effect : ∀ v, s.allows v = true → namesFor modern legacy v ≠ [] ∧
    s.listFor v = some (":".intercalate (namesFor modern legacy v))
  reads_back : ∀ v, s.allows v = true → (∀ n ∈ names, ':' ∉ n.toList) →
    Text.pieces ':' (":".intercalate (namesFor modern legacy v)).toList =
      (namesFor modern legacy v).map String.toList

private theorem allows_told (modern legacy : List String) (v : ProtocolVersion)
    (hne : modern ≠ [] ∨ legacy ≠ []) :
    (told modern legacy).allows v = true ↔ namesFor modern legacy v ≠ [] := by
  by_cases hmodern : modern = []
  · have hlegacy : legacy ≠ [] := by simpa [hmodern] using hne
    cases v <;> simp [told, allows, namesFor, hmodern, hlegacy, ProtocolVersion.rank]
  · by_cases hlegacy : legacy = []
    · cases v <;> simp [told, allows, namesFor, hmodern, hlegacy, ProtocolVersion.rank]
    · have hnames : namesFor modern legacy v ≠ [] := by
        rw [namesFor]
        split
        · exact hmodern
        · exact hlegacy
      simp [told, allows, hmodern, hlegacy, hnames]

private theorem listFor_told (modern legacy : List String) (v : ProtocolVersion)
    (h : namesFor modern legacy v ≠ []) :
    (told modern legacy).listFor v = some (":".intercalate (namesFor modern legacy v)) := by
  cases v <;> simp_all [told, listFor, namesFor]

private theorem namesFor_ne_nil_iff (h : SharedOut IsModernName names modern legacy)
    (v : ProtocolVersion) :
    namesFor modern legacy v ≠ [] ↔ ∃ n ∈ names, (IsModernName n ↔ v = .tls13) := by
  rw [namesFor]
  by_cases hv : v = .tls13
  · rw [if_pos hv, Ne, h.passing_eq_nil_iff]
    simp [hv]
  · rw [if_neg hv, Ne, h.failing_eq_nil_iff]
    simp [hv]

private theorem namesFor_subset (h : SharedOut IsModernName names modern legacy)
    (v : ProtocolVersion) :
    namesFor modern legacy v ⊆ names := by
  rw [namesFor]
  split
  · exact h.passing_sublist.subset
  · exact h.failing_sublist.subset

private theorem carries_told (h : SharedOut IsModernName names modern legacy) (hne : names ≠ []) :
    (told modern legacy).Carries names modern legacy := by
  have hmodern := h.passing_eq_nil_iff
  have hlegacy := h.failing_eq_nil_iff
  obtain ⟨n, hn⟩ := List.exists_mem_of_ne_nil names hne
  have hkinds : modern ≠ [] ∨ legacy ≠ [] := by
    rcases h.one_of_two n hn with ⟨hmem, -⟩ | ⟨-, hmem⟩
    · exact .inl (List.ne_nil_of_mem hmem)
    · exact .inr (List.ne_nil_of_mem hmem)
  have hallows : ∀ v, (told modern legacy).allows v = true ↔ namesFor modern legacy v ≠ [] :=
    fun v => allows_told modern legacy v hkinds
  refine {
    shared := h
    modern_set := rfl
    legacy_set := fun hne => if_neg hne
    legacy_own_iff := by simp [told]
    capped_iff := by simp [told, hmodern]
    uncapped_iff := by simp [told, hmodern]
    raised_iff := by simp [told, hlegacy]
    unraised_iff := by simp [told, hlegacy]
    not_both := ?_
    allows_iff := fun v => (hallows v).trans (namesFor_ne_nil_iff h v)
    allows_some := ?_
    in_effect := fun v hv => ⟨(hallows v).mp hv, listFor_told modern legacy v ((hallows v).mp hv)⟩
    reads_back := fun v hv hcolon => pieces_joined ((hallows v).mp hv) fun n hn =>
      hcolon n (namesFor_subset h v hn) }
  · rcases hkinds with hkind | hkind
    · exact .inl (by simp [told, hkind])
    · exact .inr (by simp [told, hkind])
  · rcases hkinds with hkind | hkind
    · exact ⟨.tls13, (hallows _).mpr hkind⟩
    · exact ⟨.tls12, (hallows _).mpr hkind⟩

end SuiteSetup

section Contexts

variable {o : Options} {role : Role} {useAlpn : Bool} {cred : Credentials} {c : Context}

/-- Every context of the openssl engine was told all its suites, each in the list of its kind, and the
engine's own list for either kind is in effect for no version that the context allows. A list that was
set is the one in effect, whatever its words stand for. -/
theorem no_list_of_the_engine_in_effect (he : o.engine = .openssl)
    (hc : (o.assemble role useAlpn cred).outcome = .ok c) :
    ∃ e setup, c.inner = .openssl e ∧ c.cipherSuites ≠ [] ∧
      c.cipherSuites =
        (if o.cipherSuites = [] then Engine.openssl.defaultCipherSuites else o.cipherSuites) ∧
      SuiteSetup.fresh.tell c.cipherSuites = .ok setup ∧
      setup.Carries c.cipherSuites e.modernSuites e.legacySuites ∧
      (e.atMostTls12 = true ↔ setup.newest = some .tls12) ∧
      (e.atLeastTls13 = true ↔ setup.oldest = some .tls13) := by
  have hdescribes := describes_of_assemble hc
  have hne := hdescribes.suites_ne_nil
  have hsuites := hdescribes.suites
  rw [he] at hsuites
  obtain ⟨-, alpn, inner, -, hinner, rfl⟩ := Options.assemble_eq_ok.mp hc
  rw [he] at hinner
  obtain ⟨e, hbuild, rfl⟩ := by simpa using Options.engineContext_eq_ok.mp hinner
  have htold := SuiteSetup.tell_of_build hbuild
  have hbounds := SuiteSetup.bounds_of_build hbuild
  obtain ⟨-, -, rfl⟩ := OpensslContext.build_eq_ok.mp hbuild
  have hcarries := SuiteSetup.carries_told (SuiteSetup.sharedOut_filter o.effectiveSuites) hne
  exact ⟨_, _, rfl, hne, hsuites, htold, hcarries, hbounds⟩

/-- Options with one suite, which is of the older kind. -/
def legacyOptions : Options :=
  { bareOptions .openssl with cipherSuites := ["ECDHE-RSA-AES128-GCM-SHA256"] }

private theorem exists_legacy_client :
    ∃ c, (legacyOptions.assemble .client false ⟨none, .none⟩).outcome = .ok c := by
  have hlegacy : CipherRules.isModern "ECDHE-RSA-AES128-GCM-SHA256" = false := by decide +kernel
  have haccepts : CipherRules.acceptsLegacy [] ["ECDHE-RSA-AES128-GCM-SHA256"] = true := by
    decide +kernel
  have hchecked : OpensslContext.checkSuites
      (OpensslContext.modernOf (legacyOptions.engineRequest .client none ⟨none, .none⟩))
      (OpensslContext.legacyOf (legacyOptions.engineRequest .client none ⟨none, .none⟩)) = .ok () := by
    simp [OpensslContext.checkSuites, OpensslContext.modernOf, OpensslContext.legacyOf,
      Options.engineRequest, Options.effectiveSuites, legacyOptions, hlegacy, haccepts,
      CipherRules.acceptsModern]
  have hbuild := OpensslContext.build_eq_ok.mpr
    ⟨by simp [Options.engineRequest], hchecked, rfl⟩
  have hinner := Options.engineContext_eq_ok.mpr (.inl ⟨rfl, _, hbuild, rfl⟩)
  exact ⟨_, Options.assemble_eq_ok.mpr ⟨by simp, none, _, rfl, hinner, rfl⟩⟩

theorem no_list_of_the_engine_in_effect_legacy :
    ∃ c setup, (legacyOptions.assemble .client false ⟨none, .none⟩).outcome = .ok c ∧
      SuiteSetup.fresh.tell ["ECDHE-RSA-AES128-GCM-SHA256"] = .ok setup ∧
      setup.newest = some .tls12 ∧ setup.allows .tls13 = false ∧
      setup.listFor .tls12 = some "ECDHE-RSA-AES128-GCM-SHA256" := by
  obtain ⟨c, hc⟩ := exists_legacy_client
  obtain ⟨e, setup, he, -, hsuites, htold, hcarries, -, -⟩ := no_list_of_the_engine_in_effect rfl hc
  have hnames : c.cipherSuites = ["ECDHE-RSA-AES128-GCM-SHA256"] := hsuites
  have hlegacy : ¬ CipherRules.IsModernName "ECDHE-RSA-AES128-GCM-SHA256" :=
    CipherRules.isModern_eq_false_iff.mp (by decide +kernel)
  rw [hnames] at htold hcarries
  have hallows : setup.allows .tls12 = true := by simp [hcarries.allows_iff, hlegacy]
  have hforbids : ¬ setup.allows .tls13 = true := by simp [hcarries.allows_iff, hlegacy]
  obtain ⟨-, hlist⟩ := hcarries.in_effect _ hallows
  have hmodern : e.modernSuites = [] :=
    hcarries.shared.passing_eq_nil_iff.mpr (by simpa using hlegacy)
  have hperm := hcarries.shared.perm
  rw [hmodern, List.nil_append, List.perm_singleton] at hperm
  refine ⟨c, setup, hc, htold, ?_, by simpa using hforbids, ?_⟩
  · simp [hcarries.capped_iff, hlegacy]
  · rw [hlist, SuiteSetup.namesFor, if_neg (by decide), hperm]
    rfl

end Contexts

end TlsSetup
