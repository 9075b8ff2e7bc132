import TlsSetup.Proofs.Verdict

/-!
# Who is consulted about a chain

Validators are consulted one after the other, each at most once, and only about the direction of the
connection. The first one that accepts the chain or finds it revoked ends the consultation with its
verdict. If there is none, all have been consulted, and the rejection by the first one stands.
-/

namespace TlsSetup

open X509

variable {role : Role} {chain : List Certificate} {v : Validator} {vs : List Validator}

/-- Nobody is consulted after this validator: it accepts the chain or finds it revoked. -/
def Validator.decides (role : Role) (chain : List Certificate) (v : Validator) : Bool :=
  match (v.check role chain).value with
  | .ok () => true
  | .error .revoked => true
  | .error _ => false

/-- What can be seen while all of these validators judge the chain, one after the other. -/
def consultation (role : Role) (chain : List Certificate) (vs : List Validator) : List Event :=
  vs.flatMap fun v => (v.check role chain).events

/-- What is said of a chain if no validator decides: what the first one says, if there is one. -/
def undecided (role : Role) (chain : List Certificate) : List Validator → Verdict
  | [] => .error (.rejected "no trust validator configured")
  | v :: _ => (v.check role chain).value

theorem Validator.decides_iff :
    v.decides role chain = true ↔ v.Accepts role chain ∨ v.Revokes role chain := by
  unfold decides Accepts Revokes
  split <;> simp_all

theorem Validator.not_decides_iff :
    v.decides role chain = false ↔ ∃ e, (v.check role chain).value = .error e ∧ e ≠ .revoked := by
  unfold decides
  split <;> simp_all

section Step

variable (first : Option Rejection)

private theorem checkChainFrom_of_decides (h : v.decides role chain = true) (vs : List Validator) :
    checkChainFrom first role chain (v :: vs) = v.check role chain := by
  rw [checkChainFrom]
  rcases Validator.decides_iff.mp h with h | h
  all_goals
    apply Logged.ext
    · rw [Logged.value_bind, h]
      rfl
    · rw [Logged.events_bind, h]
      exact List.append_nil _

private theorem checkChainFrom_of_rejects {e : Rejection}
    (h : (v.check role chain).value = .error e) (he : e ≠ .revoked) (vs : List Validator) :
    checkChainFrom first role chain (v :: vs) =
      ⟨(checkChainFrom (some (first.getD e)) role chain vs).value,
        (v.check role chain).events ++
          (checkChainFrom (some (first.getD e)) role chain vs).events⟩ := by
  rw [checkChainFrom]
  apply Logged.ext
  · rw [Logged.value_bind, h]
    cases e <;> simp_all
  · rw [Logged.events_bind, h]
    cases e <;> simp_all

end Step

private theorem checkChainFrom_of_first {k : Nat} (first : Option Rejection)
    (hk : vs.findIdx? (Validator.decides role chain) = some k) :
    ∃ v, vs[k]? = some v ∧ checkChainFrom first role chain vs =
      ⟨(v.check role chain).value, consultation role chain (vs.take (k + 1))⟩ := by
  induction vs generalizing first k with
  | nil => cases hk
  | cons w vs ih =>
    rw [List.findIdx?_cons] at hk
    by_cases hw : w.decides role chain = true
    · rw [if_pos hw] at hk
      obtain rfl := Option.some.inj hk
      refine ⟨w, rfl, ?_⟩
      rw [checkChainFrom_of_decides first hw]
      simp [consultation]
    · rw [if_neg hw] at hk
      obtain ⟨i, hi, rfl⟩ := Option.map_eq_some_iff.mp hk
      obtain ⟨e, he, hne⟩ := Validator.not_decides_iff.mp (Bool.not_eq_true _ ▸ hw)
      -- the rejection that is kept does not matter, for it is never the outcome
      obtain ⟨v, hv, hrest⟩ := ih (some (first.getD e)) hi
      refine ⟨v, by simpa using hv, ?_⟩
      rw [checkChainFrom_of_rejects first he hne, hrest]
      simp [consultation]

private theorem checkChainFrom_of_undecided (first : Option Rejection)
    (h : ∀ v ∈ vs, v.decides role chain = false) :
    checkChainFrom first role chain vs =
      ⟨match first with
        | some e => .error e
        | none => undecided role chain vs, consultation role chain vs⟩ := by
  induction vs generalizing first with
  | nil => cases first <;> rfl
  | cons w vs ih =>
    obtain ⟨e, he, hne⟩ := Validator.not_decides_iff.mp (h w (by simp))
    have hrest := ih (some (first.getD e)) fun v hv => h v (by simp [hv])
    rw [checkChainFrom_of_rejects first he hne, hrest]
    cases first with
    | some first => simp [consultation]
    | none => simp [consultation, undecided, he]

private theorem checkChain_append {k : Nat}
    (hk : vs.findIdx? (Validator.decides role chain) = some k)
    (more : List Validator) : checkChain (vs ++ more) role chain = checkChain vs role chain := by
  have hlt : k < vs.length := (List.findIdx?_eq_some_iff_getElem.mp hk).1
  have hmore : (vs ++ more).findIdx? (Validator.decides role chain) = some k := by
    rw [List.findIdx?_append, hk]
    rfl
  obtain ⟨v, hv, hall⟩ := checkChainFrom_of_first none hmore
  obtain ⟨w, hw, hfew⟩ := checkChainFrom_of_first none hk
  rw [List.getElem?_append_left hlt, hw] at hv
  obtain rfl := Option.some.inj hv
  rw [List.take_append_of_le_length hlt] at hall
  rw [checkChain, checkChain, hall, hfew]

private theorem decides_of_value (h : (checkChain vs role chain).value = .ok () ∨
    (checkChain vs role chain).value = .error .revoked) :
    ∃ v ∈ vs, v.decides role chain = true := by
  rcases h with h | h
  · obtain ⟨v, hv, ha⟩ := ((checkChain_accepted_iff vs).mp h).exists_mem
    exact ⟨v, hv, Validator.decides_iff.mpr (.inl ha)⟩
  · obtain ⟨v, hv, hr⟩ := ((checkChain_revoked_iff vs).mp h).exists_mem
    exact ⟨v, hv, Validator.decides_iff.mpr (.inr hr)⟩

private theorem checkChainFrom_of_map_check (first : Option Rejection) {us : List Validator}
    (h : us.map (·.check role chain) = vs.map (·.check role chain)) :
    checkChainFrom first role chain us = checkChainFrom first role chain vs := by
  induction us generalizing first vs with
  | nil =>
    rw [List.map_nil, List.nil_eq, List.map_eq_nil_iff] at h
    rw [h]
  | cons u us ih =>
    cases vs with
    | nil => cases h
    | cons v vs =>
      obtain ⟨hhead, hrest⟩ := List.cons.inj h
      have htail : ∀ first, checkChainFrom first role chain us = checkChainFrom first role chain vs :=
        fun first => ih first hrest
      simp only [checkChainFrom, hhead, htail]

/-- The first validator that decides is the last one that is consulted, and its verdict is the outcome;
all before it are consulted once, in order. If none decides, all are consulted once, and the outcome is
what the first says. What they would say about the other direction does not count, and validators that
are added behind cannot change a decision, nor are they consulted. -/
theorem checkChain_consults_until_decided (vs : List Validator) (role : Role)
    (chain : List Certificate) :
    (∀ k, vs.findIdx? (Validator.decides role chain) = some k →
      ∃ v, vs[k]? = some v ∧ checkChain vs role chain =
        ⟨(v.check role chain).value, consultation role chain (vs.take (k + 1))⟩) ∧
    (vs.findIdx? (Validator.decides role chain) = none →
      checkChain vs role chain = ⟨undecided role chain vs, consultation role chain vs⟩) ∧
    (∀ us : List Validator, us.map (·.check role chain) = vs.map (·.check role chain) →
      checkChain us role chain = checkChain vs role chain) ∧
    ∀ more : List Validator, (checkChain vs role chain).value = .ok () ∨
        (checkChain vs role chain).value = .error .revoked →
      checkChain (vs ++ more) role chain = checkChain vs role chain := by
  refine ⟨fun k hk => checkChainFrom_of_first none hk, fun hnone => ?_,
    fun us h => checkChainFrom_of_map_check none h, fun more h => ?_⟩
  · exact checkChainFrom_of_undecided none (List.findIdx?_eq_none_iff.mp hnone)
  · obtain ⟨v, hv, hdecides⟩ := decides_of_value h
    obtain ⟨k, hk⟩ := Option.isSome_iff_exists.mp
      (List.findIdx?_isSome.trans (List.any_eq_true.mpr ⟨v, hv, hdecides⟩))
    exact checkChain_append hk more

/-- Gives one verdict on every chain, and records about which direction it is consulted. -/
def Validator.recording (name : String) (verdict : Verdict) : Validator :=
  { Validator.trustAll with
    checkServer := fun _ => do
      Logged.ask (name ++ ".server")
      return verdict
    checkClient := fun _ => do
      Logged.ask (name ++ ".client")
      return verdict }

theorem checkChain_consults_until_decided_second :
    let first := Validator.recording "first" (.error .emptyChain)
    let second := Validator.recording "second" (.error .revoked)
    let third := Validator.recording "third" (.ok ())
    checkChain [first, second, third] .client [] =
        ⟨.error .revoked, [.asked "first.server", .asked "second.server"]⟩ ∧
      checkChain [first, .recording "other" (.error (.rejected "unknown"))] .server [] =
        ⟨.error .emptyChain, [.asked "first.client", .asked "other.client"]⟩ ∧
      checkChain [first, { second with checkClient := fun _ => pure (.ok ()) }] .client [] =
        checkChain [first, second] .client [] ∧
      checkChain ([first, second] ++ [third]) .client [] = checkChain [first, second] .client [] := by
  intro first second third
  have hall := checkChain_consults_until_decided [first, second, third] .client []
  have hnone := checkChain_consults_until_decided
    [first, .recording "other" (.error (.rejected "unknown"))] .server []
  have htwo := checkChain_consults_until_decided [first, second] .client []
  obtain ⟨v, hv, houtcome⟩ := hall.1 1 rfl
  obtain rfl := Option.some.inj hv
  exact ⟨houtcome, hnone.2.1 rfl, htwo.2.2.1 _ rfl, htwo.2.2.2 [third] (.inr rfl)⟩

end TlsSetup
