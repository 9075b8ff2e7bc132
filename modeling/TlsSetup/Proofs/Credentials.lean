import TlsSetup.Credentials
import TlsSetup.Proofs.Attempt

/-!
# What credentials are found

Every stage of the search for credentials is described by what it needs to succeed. Trust that names
validators comes from a set of validators with at least one member and from all configured revocation
lists, files before values.
-/

namespace TlsSetup

open X509

theorem Source.ask_filter_some {α : Type} {s : Source α} {p : α → Bool}
    {found : String → α → Logged Unit} {missing : String → Logged Unit} {name : Option String}
    {a : α} (h : ((s.filter p).ask found missing name).outcome = .ok (some a)) : p a = true := by
  have hdefault : (s.filter p).default.outcome = .ok (some a) → p a = true := by
    intro h
    obtain ⟨x, -, hx⟩ := Attempt.outcome_bind_eq_ok.mp h
    simp only [Attempt.outcome_pure, Except.ok.injEq, Option.filter_eq_some_iff] at hx
    exact hx.2
  cases name with
  | none => exact hdefault h
  | some name =>
    obtain ⟨choice, hchoice, h⟩ := Attempt.outcome_bind_eq_ok.mp h
    cases choice with
    | none => exact hdefault h
    | some choose =>
      obtain ⟨answer, hanswer, h⟩ := Attempt.outcome_bind_eq_ok.mp h
      cases answer with
      | none =>
        obtain ⟨-, -, h⟩ := Attempt.outcome_bind_eq_ok.mp h
        exact hdefault h
      | some b =>
        obtain ⟨-, -, h⟩ := Attempt.outcome_bind_eq_ok.mp h
        obtain rfl : b = a := by simpa using h
        obtain ⟨inner, -, hinner⟩ := Attempt.outcome_bind_eq_ok.mp hchoice
        simp only [Attempt.outcome_pure, Except.ok.injEq, Option.map_eq_some_iff] at hinner
        obtain ⟨chooseAny, -, rfl⟩ := hinner
        obtain ⟨x, -, hx⟩ := Attempt.outcome_bind_eq_ok.mp hanswer
        simp only [Attempt.outcome_pure, Except.ok.injEq, Option.filter_eq_some_iff] at hx
        exact hx.2

namespace Options

variable {o : Options} {serverName : Option String}

theorem validatorsFor_ne_nil {us : List Validator}
    (h : (o.validatorsFor serverName).outcome = .ok (some us)) : us ≠ [] := by
  unfold validatorsFor at h
  cases hs : o.trustSource with
  | none =>
    rw [hs] at h
    simp at h
  | some source =>
    rw [hs] at h
    have := Source.ask_filter_some h
    simpa using this

/-- The lists that a file holds. -/
def FileHolds (o : Options) (path : String) (lists : List RevocationList) : Prop :=
  ∃ bytes, (o.resources.load path).outcome = .ok bytes ∧ RevocationList.parseAll bytes = .ok lists

/-- The lists are those of all files and then those of all values, each in order. -/
def Configures (o : Options) (lists : List RevocationList) : Prop :=
  ∃ files values, List.Forall₂ o.FileHolds o.crlPaths files ∧
    List.Forall₂ (fun bytes found => RevocationList.parseAll bytes = .ok found) o.crlValues values ∧
    lists = files.flatten ++ values.flatten

private theorem listsOfFile_eq_ok {path : String} {lists : List RevocationList} :
    (o.listsOfFile path).outcome = .ok lists ↔ o.FileHolds path lists :=
  Attempt.outcome_bind_eq_ok

private theorem revocationLists_eq_ok {lists : List RevocationList} :
    o.revocationLists.outcome = .ok lists ↔ o.Configures lists := by
  unfold revocationLists Configures
  by_cases hc : o.hasCrls = true
  · simp only [hc, if_true, Attempt.outcome_bind_eq_ok, Attempt.outcome_mapM_eq_ok,
      listsOfFile_eq_ok, Attempt.outcome_ofExcept, Attempt.outcome_lift, Attempt.outcome_pure]
    simp [eq_comm]
  · have hnil : o.crlPaths = [] ∧ o.crlValues = [] := by simpa [hasCrls] using hc
    simp [hc, hnil, eq_comm]

theorem trustFor_eq_validators {vs : List Validator} {lists : List RevocationList} :
    (o.trustFor serverName false).outcome = .ok (.validators vs lists) ↔
      ∃ us, (o.validatorsFor serverName).outcome = .ok (some us) ∧ o.Configures lists ∧
        vs = if lists.isEmpty then us else Validator.revokingAll lists us := by
  simp only [trustFor, Bool.false_eq_true, if_false, Attempt.outcome_bind_eq_ok,
    ← revocationLists_eq_ok]
  constructor
  · rintro ⟨answer, hanswer, h⟩
    cases answer with
    | none =>
      obtain ⟨-, -, h⟩ := Attempt.outcome_bind_eq_ok.mp h
      simp at h
    | some us =>
      obtain ⟨found, hfound, h⟩ := Attempt.outcome_bind_eq_ok.mp h
      simp only [judged, Attempt.outcome_pure, Except.ok.injEq, Trust.validators.injEq] at h
      obtain ⟨rfl, rfl⟩ := h
      exact ⟨us, hanswer, hfound, rfl⟩
  · rintro ⟨us, hus, hlists, rfl⟩
    exact ⟨some us, hus, Attempt.outcome_bind_eq_ok.mpr ⟨lists, hlists, rfl⟩⟩

/-- Trust is in everybody if that is wanted, and otherwise in the validators that are found. -/
theorem trustFor_eq_ok {trustAll : Bool} {t : Trust} :
    (o.trustFor serverName trustAll).outcome = .ok t ↔
      (trustAll = true ∧ ∃ lists, o.Configures lists ∧ t = .trustAll lists) ∨
      (trustAll = false ∧ (o.validatorsFor serverName).outcome = .ok none ∧ t = .none) ∨
      (trustAll = false ∧ ∃ us lists, (o.validatorsFor serverName).outcome = .ok (some us) ∧
        o.Configures lists ∧ t = judged us lists) := by
  cases trustAll with
  | true =>
    simp only [trustFor, if_true, Attempt.outcome_bind_eq_ok, Attempt.outcome_pure_eq_ok,
      Attempt.outcome_lift, ← revocationLists_eq_ok]
    simp
  | false =>
    simp only [trustFor, Bool.false_eq_true, if_false, Attempt.outcome_bind_eq_ok,
      ← revocationLists_eq_ok, false_and, false_or, true_and]
    constructor
    · rintro ⟨answer, hanswer, h⟩
      cases answer with
      | none =>
        obtain ⟨-, -, h⟩ := Attempt.outcome_bind_eq_ok.mp h
        exact .inl ⟨hanswer, Attempt.outcome_pure_eq_ok.mp h⟩
      | some us =>
        obtain ⟨lists, hlists, h⟩ := Attempt.outcome_bind_eq_ok.mp h
        exact .inr ⟨us, lists, hanswer, hlists, Attempt.outcome_pure_eq_ok.mp h⟩
    · rintro (⟨hanswer, rfl⟩ | ⟨us, lists, hanswer, hlists, rfl⟩)
      · exact ⟨none, hanswer, rfl⟩
      · exact ⟨some us, hanswer, Attempt.outcome_bind_eq_ok.mpr ⟨lists, hlists, rfl⟩⟩

theorem judges_ne_nil_of_trustFor {trustAll : Bool} {t : Trust}
    (h : (o.trustFor serverName trustAll).outcome = .ok t) (ht : t.isNone = false) :
    t.judges ≠ [] := by
  cases t with
  | none => cases ht
  | trustAll lists => simp [Trust.judges]
  | validators vs lists =>
    cases trustAll with
    | true =>
      simp only [trustFor, if_true, Attempt.outcome_bind_eq_ok, Attempt.outcome_pure_eq_ok] at h
      obtain ⟨-, -, found, -, h⟩ := h
      cases h
    | false =>
      obtain ⟨us, hus, -, rfl⟩ := trustFor_eq_validators.mp h
      have hne := validatorsFor_ne_nil hus
      rw [Trust.judges]
      split
      · exact hne
      · rw [Validator.revokingAll, Ne, List.map_eq_nil_iff]
        exact hne

theorem credentialsFor_eq_ok {trustAll : Bool} {cred : Credentials} :
    (o.credentialsFor serverName trustAll).outcome = .ok cred ↔
      (o.trustFor serverName trustAll).outcome = .ok cred.trust ∧
      (o.identityFor serverName).outcome = .ok cred.identity := by
  simp only [credentialsFor, Attempt.outcome_bind_eq_ok, Attempt.outcome_pure_eq_ok]
  constructor
  · rintro ⟨trust, htrust, identity, hidentity, rfl⟩
    exact ⟨htrust, hidentity⟩
  · rintro ⟨htrust, hidentity⟩
    exact ⟨_, htrust, _, hidentity, rfl⟩

end Options

end TlsSetup
