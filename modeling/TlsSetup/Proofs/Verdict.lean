import Mathlib
import TlsSetup.Trust.Validator

/-!
# The verdict of several validators

Validators are asked in order, and the first one that accepts the chain or finds it revoked decides.
So a finding of revocation is final only among the validators that are asked: it settles the verdict
exactly when no validator before it accepts. The order does not matter as long as the validators do not
contradict each other in this way.
-/

namespace TlsSetup

open X509

namespace Validator

/-- The validator accepts the chain of the peer of a context for `role`. -/
def Accepts (role : Role) (chain : List Certificate) (v : Validator) : Prop :=
  (v.check role chain).value = .ok ()

/-- The validator finds a revoked certificate in the chain. -/
def Revokes (role : Role) (chain : List Certificate) (v : Validator) : Prop :=
  (v.check role chain).value = .error .revoked

end Validator

/-- Some element has `P`, and no element before it has `Q`. -/
def Leads {α : Type} (P Q : α → Prop) (xs : List α) : Prop :=
  ∃ before x after, xs = before ++ x :: after ∧ P x ∧ ∀ y ∈ before, ¬ Q y

section Leads

variable {α : Type} {P Q : α → Prop}

private theorem leads_nil : ¬ Leads P Q [] := by
  rintro ⟨before, x, after, h, -⟩
  cases before <;> cases h

private theorem leads_cons (x : α) (xs : List α) :
    Leads P Q (x :: xs) ↔ P x ∨ ¬ Q x ∧ Leads P Q xs := by
  constructor
  · rintro ⟨before, y, after, h, hy, hq⟩
    cases before with
    | nil =>
      obtain ⟨rfl, -⟩ := List.cons.inj h
      exact Or.inl hy
    | cons z before =>
      obtain ⟨rfl, rfl⟩ := List.cons.inj h
      exact Or.inr ⟨hq x (by simp), before, y, after, rfl, hy, fun w hw => hq w (by simp [hw])⟩
  · rintro (hx | ⟨hx, before, y, after, rfl, hy, hq⟩)
    · exact ⟨[], x, xs, rfl, hx, by simp⟩
    · refine ⟨x :: before, y, after, rfl, hy, ?_⟩
      intro w hw
      rcases List.mem_cons.mp hw with rfl | hw
      · exact hx
      · exact hq w hw

theorem Leads.exists_mem {xs : List α} (h : Leads P Q xs) : ∃ x ∈ xs, P x := by
  obtain ⟨before, x, after, rfl, hx, -⟩ := h
  exact ⟨x, by simp, hx⟩

private theorem leads_of_mem {xs : List α} (hP : ∃ x ∈ xs, P x) (hQ : ∀ x ∈ xs, ¬ Q x) :
    Leads P Q xs := by
  obtain ⟨x, hx, hp⟩ := hP
  obtain ⟨before, after, rfl⟩ := List.append_of_mem hx
  exact ⟨before, x, after, rfl, hp, fun y hy => hQ y (by simp [hy])⟩

private theorem leads_or_leads {xs : List α} (h : ∃ x ∈ xs, P x) : Leads P Q xs ∨ Leads Q P xs := by
  induction xs with
  | nil => simp at h
  | cons x xs ih =>
    rw [leads_cons, leads_cons]
    by_cases hp : P x
    · exact Or.inl (Or.inl hp)
    · by_cases hq : Q x
      · exact Or.inr (Or.inl hq)
      · have htail : ∃ y ∈ xs, P y := by simpa [hp] using h
        rcases ih htail with hl | hl
        · exact Or.inl (Or.inr ⟨hq, hl⟩)
        · exact Or.inr (Or.inr ⟨hp, hl⟩)

private theorem exists_perm_leads {xs : List α} (hP : ∃ x ∈ xs, P x) :
    ∃ ys, ys.Perm xs ∧ Leads P Q ys := by
  obtain ⟨x, hx, hp⟩ := hP
  obtain ⟨before, after, rfl⟩ := List.append_of_mem hx
  exact ⟨x :: (before ++ after), List.perm_middle.symm, (leads_cons x _).mpr (Or.inl hp)⟩

end Leads

variable {role : Role} {chain : List Certificate}

theorem checkChainFrom_cons (first : Option Rejection) (v : Validator) (vs : List Validator) :
    (checkChainFrom first role chain (v :: vs)).value =
      match (v.check role chain).value with
      | .ok () => .ok ()
      | .error .revoked => .error .revoked
      | .error e => (checkChainFrom (some (first.getD e)) role chain vs).value := by
  rw [checkChainFrom, Logged.value_bind]
  split <;> simp_all

private theorem checkChainFrom_congr (first : Option Rejection) {vs us : List Validator}
    (h : List.Forall₂ (fun v u => (v.check role chain).value = (u.check role chain).value) vs us) :
    (checkChainFrom first role chain vs).value = (checkChainFrom first role chain us).value := by
  induction h generalizing first with
  | nil => rfl
  | cons hv _ ih =>
    rw [checkChainFrom_cons, checkChainFrom_cons, hv]
    simp only [ih]

theorem checkChain_congr {vs us : List Validator}
    (h : List.Forall₂ (fun v u => (v.check role chain).value = (u.check role chain).value) vs us) :
    (checkChain vs role chain).value = (checkChain us role chain).value :=
  checkChainFrom_congr none h

theorem checkChain_cons_revoked {v : Validator} {events : List Event} (vs : List Validator)
    (h : v.check role chain = ⟨.error .revoked, events⟩) :
    checkChain (v :: vs) role chain = ⟨.error .revoked, events⟩ := by
  rw [checkChain, checkChainFrom, h]
  apply Logged.ext
  · rfl
  · simp

/-- The rejection that is kept for the end is never a revocation, which ends the search at once. -/
private theorem checkChainFrom_value (first : Option Rejection) (hf : first ≠ some .revoked)
    (vs : List Validator) :
    ((checkChainFrom first role chain vs).value = .ok () ↔
        Leads (Validator.Accepts role chain) (Validator.Revokes role chain) vs) ∧
      ((checkChainFrom first role chain vs).value = .error .revoked ↔
        Leads (Validator.Revokes role chain) (Validator.Accepts role chain) vs) := by
  induction vs generalizing first with
  | nil =>
    simp only [leads_nil, iff_false, checkChainFrom, Logged.value_pure]
    refine ⟨by simp, ?_⟩
    intro h
    cases first with
    | none => cases h
    | some e => exact hf (congrArg some (Except.error.inj h))
  | cons v vs ih =>
    rw [checkChainFrom_cons, leads_cons, leads_cons, Validator.Accepts, Validator.Revokes]
    cases hv : (v.check role chain).value with
    | ok => simp
    | error e =>
      by_cases he : e = .revoked
      · simp [he]
      · have hnext : some (first.getD e) ≠ some .revoked := by
          cases first with
          | none => simpa using he
          | some f => exact hf
        have hrest := ih _ hnext
        cases e with
        | revoked => exact absurd rfl he
        | rejected reason => simpa using hrest
        | emptyChain => simpa using hrest

/-- A chain is accepted if a validator accepts it that no finding of revocation precedes. -/
theorem checkChain_accepted_iff (vs : List Validator) :
    (checkChain vs role chain).value = .ok () ↔
      Leads (Validator.Accepts role chain) (Validator.Revokes role chain) vs :=
  (checkChainFrom_value none (by simp) vs).1

/-- A chain is reported as revoked if a validator finds it so that no accepting one precedes. -/
theorem checkChain_revoked_iff (vs : List Validator) :
    (checkChain vs role chain).value = .error .revoked ↔
      Leads (Validator.Revokes role chain) (Validator.Accepts role chain) vs :=
  (checkChainFrom_value none (by simp) vs).2

/-- Two lists of validators accept the same chain, and report the same one as revoked. -/
def JudgeAlike (role : Role) (chain : List Certificate) (vs ws : List Validator) : Prop :=
  ((checkChain vs role chain).value = .ok () ↔ (checkChain ws role chain).value = .ok ()) ∧
    ((checkChain vs role chain).value = .error .revoked ↔
      (checkChain ws role chain).value = .error .revoked)

/-- One validator accepts the chain that another one finds revoked. -/
def Contradict (role : Role) (chain : List Certificate) (vs : List Validator) : Prop :=
  (∃ v ∈ vs, v.Accepts role chain) ∧ ∃ v ∈ vs, v.Revokes role chain

theorem Contradict.of_perm {vs ws : List Validator} (hp : ws.Perm vs)
    (h : Contradict role chain ws) : Contradict role chain vs := by
  obtain ⟨⟨v, hv, ha⟩, w, hw, hr⟩ := h
  exact ⟨⟨v, hp.mem_iff.mp hv, ha⟩, w, hp.mem_iff.mp hw, hr⟩

private theorem checkChain_accepted_of_consistent {vs : List Validator}
    (h : ¬ Contradict role chain vs) :
    (checkChain vs role chain).value = .ok () ↔ ∃ v ∈ vs, v.Accepts role chain := by
  rw [checkChain_accepted_iff]
  constructor
  · exact Leads.exists_mem
  · intro ha
    exact leads_of_mem ha fun v hv hr => h ⟨ha, v, hv, hr⟩

private theorem checkChain_revoked_of_consistent {vs : List Validator}
    (h : ¬ Contradict role chain vs) :
    (checkChain vs role chain).value = .error .revoked ↔ ∃ v ∈ vs, v.Revokes role chain := by
  rw [checkChain_revoked_iff]
  constructor
  · exact Leads.exists_mem
  · intro hr
    exact leads_of_mem hr fun v hv ha => h ⟨⟨v, hv, ha⟩, hr⟩

private theorem judgeAlike_of_perm {vs ws : List Validator} (hp : ws.Perm vs)
    (h : ¬ Contradict role chain vs) : JudgeAlike role chain vs ws := by
  have hw : ¬ Contradict role chain ws := fun hc => h (hc.of_perm hp)
  constructor
  · rw [checkChain_accepted_of_consistent h, checkChain_accepted_of_consistent hw]
    simp only [hp.mem_iff]
  · rw [checkChain_revoked_of_consistent h, checkChain_revoked_of_consistent hw]
    simp only [hp.mem_iff]

/-- A validator that finds the chain revoked settles the verdict unless an accepting one precedes all
that do, and the order of the validators does not matter exactly if they do not contradict each other. -/
theorem checkChain_revocation_final (vs : List Validator) (role : Role)
    (chain : List Certificate) :
    ((∃ v ∈ vs, v.Revokes role chain) →
      ((checkChain vs role chain).value = .error .revoked ↔
          ¬ Leads (Validator.Accepts role chain) (Validator.Revokes role chain) vs) ∧
        ((checkChain vs role chain).value = .ok () ↔
          Leads (Validator.Accepts role chain) (Validator.Revokes role chain) vs)) ∧
    ((∀ ws : List Validator, ws.Perm vs → JudgeAlike role chain vs ws) ↔
      ¬ Contradict role chain vs) := by
  refine ⟨fun hr => ⟨⟨?_, ?_⟩, checkChain_accepted_iff vs⟩, ?_, ?_⟩
  · intro h hl
    rw [(checkChain_accepted_iff vs).mpr hl] at h
    cases h
  · intro hl
    apply (checkChain_revoked_iff vs).mpr
    exact (leads_or_leads hr).resolve_right hl
  · -- Either kind of validator can be brought to the front, and the two orders differ.
    rintro h ⟨ha, hr⟩
    obtain ⟨ws, hw, hl⟩ := exists_perm_leads (Q := Validator.Revokes role chain) ha
    obtain ⟨us, hu, hl'⟩ := exists_perm_leads (Q := Validator.Accepts role chain) hr
    have hok := (h ws hw).1.mpr ((checkChain_accepted_iff ws).mpr hl)
    have hrev := (h us hu).2.mpr ((checkChain_revoked_iff us).mpr hl')
    rw [hok] at hrev
    cases hrev
  · intro h ws hw
    exact judgeAlike_of_perm hw h

def Validator.revokeAll : Validator :=
  { Validator.trustAll with
    checkServer := fun _ => pure (.error .revoked)
    checkClient := fun _ => pure (.error .revoked) }

theorem checkChain_revocation_final_first :
    (∃ v ∈ [Validator.revokeAll, Validator.trustAll], v.Revokes .client []) ∧
      (checkChain [Validator.revokeAll, Validator.trustAll] .client []).value =
        .error .revoked := by
  have hr : ∃ v ∈ [Validator.revokeAll, Validator.trustAll], v.Revokes .client [] :=
    ⟨Validator.revokeAll, by simp, rfl⟩
  refine ⟨hr, ((checkChain_revocation_final _ .client []).1 hr).1.mpr ?_⟩
  rw [leads_cons]
  rintro (h | ⟨h, -⟩)
  · cases h
  · exact h rfl

/-- The same two validators accept or refuse every chain, as the one or the other is asked first. -/
theorem accepting_validator_hides_revocation :
    ∃ vs ws : List Validator, ws.Perm vs ∧ ∀ (role : Role) (chain : List Certificate),
      (∃ v ∈ vs, v.Revokes role chain) ∧ (checkChain vs role chain).value = .ok () ∧
        (checkChain ws role chain).value = .error .revoked := by
  refine ⟨[.trustAll, .revokeAll], [.revokeAll, .trustAll], List.Perm.swap _ _ _, ?_⟩
  intro role chain
  cases role
  · exact ⟨⟨.revokeAll, by simp, rfl⟩, rfl, rfl⟩
  · exact ⟨⟨.revokeAll, by simp, rfl⟩, rfl, rfl⟩

end TlsSetup
