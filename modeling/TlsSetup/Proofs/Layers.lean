import TlsSetup.Proofs.Revocation

/-!
# Revocation in layers

A validator that is wrapped with several sets of lists, one after the other, judges as if it were
wrapped once with all of them. Neither the order of the lists nor repetitions make a difference, and a
validator that is wrapped without any list judges as before.
-/

namespace TlsSetup

open X509

variable {lists others : List RevocationList} {chain : List Certificate}

private theorem listed_append :
    Listed (lists ++ others) chain ↔ Listed lists chain ∨ Listed others chain := by
  simp only [Listed, List.mem_append]
  constructor
  · intro h
    obtain ⟨c, hc, list, hlist | hlist, hrevoked⟩ := h
    · exact .inl ⟨c, hc, list, hlist, hrevoked⟩
    · exact .inr ⟨c, hc, list, hlist, hrevoked⟩
  · intro h
    rcases h with ⟨c, hc, list, hlist, hrevoked⟩ | ⟨c, hc, list, hlist, hrevoked⟩
    · exact ⟨c, hc, list, .inl hlist, hrevoked⟩
    · exact ⟨c, hc, list, .inr hlist, hrevoked⟩

private theorem listed_congr (h : ∀ list, list ∈ lists ↔ list ∈ others) :
    Listed lists chain ↔ Listed others chain := by
  simp only [Listed, h]

namespace Validator

variable {v w u : Validator} {role : Role}

/-- Two validators trust the same issuers and judge every chain alike, and both check for revocation
or neither does. -/
structure Alike (v w : Validator) : Prop where
  acceptedIssuers : v.acceptedIssuers = w.acceptedIssuers
  checksRevocation : v.checksRevocation = w.checksRevocation
  check : ∀ role chain, (v.check role chain).value = (w.check role chain).value

theorem Guards.append (hw : Guards lists w v) (hv : Guards others v u) :
    Guards (lists ++ others) w u where
  acceptedIssuers := hw.acceptedIssuers.trans hv.acceptedIssuers
  revokes_listed := by
    intro role chain h
    by_cases hlisted : Listed lists chain
    · exact hw.revokes_listed role chain hlisted
    · have hinner := hv.revokes_listed role chain ((listed_append.mp h).resolve_left hlisted)
      rw [Revokes] at hinner ⊢
      rw [hw.check_unlisted role chain hlisted, hinner]
  check_unlisted := by
    intro role chain h
    rw [listed_append, not_or] at h
    rw [hw.check_unlisted role chain h.1, hv.check_unlisted role chain h.2]

theorem Guards.congr (h : ∀ list, list ∈ lists ↔ list ∈ others) (hv : Guards lists v u) :
    Guards others v u where
  acceptedIssuers := hv.acceptedIssuers
  revokes_listed role chain hlisted := hv.revokes_listed role chain ((listed_congr h).mpr hlisted)
  check_unlisted role chain hlisted :=
    hv.check_unlisted role chain fun hl => hlisted ((listed_congr h).mp hl)

theorem Guards.alike (hv : Guards lists v u) (hw : Guards lists w u)
    (hchecks : v.checksRevocation = w.checksRevocation) : Alike v w where
  acceptedIssuers := hv.acceptedIssuers.trans hw.acceptedIssuers.symm
  checksRevocation := hchecks
  check := by
    intro role chain
    by_cases hlisted : Listed lists chain
    · have hvr := hv.revokes_listed role chain hlisted
      have hwr := hw.revokes_listed role chain hlisted
      rw [Revokes] at hvr hwr
      rw [hvr, hwr]
    · rw [hv.check_unlisted role chain hlisted, hw.check_unlisted role chain hlisted]

/-- Wraps a validator with one set of lists after the other; the last set is the innermost. -/
def revokingIn (layers : List (List RevocationList)) (v : Validator) : Validator :=
  layers.foldr revoking v

private theorem foldr_revokingAll (layers : List (List RevocationList)) (vs : List Validator) :
    layers.foldr revokingAll vs = vs.map (revokingIn layers) := by
  induction layers with
  | nil => exact (List.map_id vs).symm
  | cons lists layers ih =>
    rw [List.foldr_cons, ih, revokingAll, List.map_map]
    rfl

private theorem guards_revokingIn (layers : List (List RevocationList)) (v : Validator) :
    Guards layers.flatten (revokingIn layers v) v := by
  induction layers with
  | nil => exact guards_nil v
  | cons lists layers ih => exact (guards_revoking lists _).append ih

/-- What is done about a chain with a listed certificate is a matter of the layers alone. -/
theorem exists_check_revokingIn (layers : List (List RevocationList)) (role : Role)
    (h : Listed layers.flatten chain) :
    ∃ events, ∀ v, (revokingIn layers v).check role chain = ⟨.error .revoked, events⟩ := by
  induction layers with
  | nil => exact absurd h (not_listed_nil chain)
  | cons lists layers ih =>
    by_cases hlisted : Listed lists chain
    · obtain ⟨before, c, after, -, -, -, hcheck⟩ := checkRevoked_of_listed hlisted
      exact ⟨_, fun v => check_revoking_of_found _ role hcheck⟩
    · rw [List.flatten_cons, listed_append] at h
      obtain ⟨events, hevents⟩ := ih (h.resolve_left hlisted)
      refine ⟨(checkRevoked lists chain).events ++ events, fun v => ?_⟩
      have hinner := hevents v
      change (revoking lists (revokingIn layers v)).check role chain = _
      rw [check_revoking]
      apply Logged.ext
      · rw [Logged.value_bind, checkRevoked_of_not_listed hlisted, hinner]
      · rw [Logged.events_bind, checkRevoked_of_not_listed hlisted, hinner]

private theorem checksRevocation_revokingIn {layers : List (List RevocationList)} (h : layers ≠ [])
    (v : Validator) : (revokingIn layers v).checksRevocation = true := by
  cases layers with
  | nil => exact absurd rfl h
  | cons lists layers => rfl

private theorem alike_revokingIn {layers : List (List RevocationList)} (h : layers ≠ [])
    (v : Validator) :
    Alike (revokingIn layers v) (revoking layers.flatten v) :=
  (guards_revokingIn layers v).alike (guards_revoking layers.flatten v)
    (checksRevocation_revokingIn h v)

private theorem alike_revoking (h : ∀ list, list ∈ lists ↔ list ∈ others) (v : Validator) :
    Alike (revoking lists v) (revoking others v) :=
  ((guards_revoking lists v).congr h).alike (guards_revoking others v) rfl

private theorem forall₂_map {R : Validator → Validator → Prop} {f g : Validator → Validator}
    (h : ∀ v, R (f v) (g v)) (vs : List Validator) : List.Forall₂ R (vs.map f) (vs.map g) := by
  rw [List.forall₂_map_left_iff, List.forall₂_map_right_iff, List.forall₂_same]
  intro v _
  exact h v

/-- Validators that are wrapped in layers stand for those inside in their order. They judge every chain
as if they were wrapped once with the lists of all layers, name the same issuers and check for
revocation. A chain with a listed certificate is refused before a validator inside is asked, and of
every other chain the verdict is that of the validator inside. Which lists there are is all that counts
of them, and where there are none all verdicts stay as they are. -/
theorem layers_revoke_as_one (vs : List Validator) (layers : List (List RevocationList)) :
    (∀ inner outer, List.Forall₂ Alike (revokingAll outer (revokingAll inner vs))
      (revokingAll (outer ++ inner) vs)) ∧
    (layers ≠ [] →
      List.Forall₂ Alike (layers.foldr revokingAll vs) (revokingAll layers.flatten vs) ∧
      ∀ w ∈ layers.foldr revokingAll vs, w.checksRevocation = true) ∧
    List.Forall₂ (Guards layers.flatten) (layers.foldr revokingAll vs) vs ∧
    (∀ role chain, Listed layers.flatten chain →
      ∃ events, ∀ us, ∀ w ∈ layers.foldr revokingAll us,
        w.check role chain = ⟨.error .revoked, events⟩) ∧
    (∀ lists others, (∀ list, list ∈ lists ↔ list ∈ others) →
      List.Forall₂ Alike (revokingAll lists vs) (revokingAll others vs)) ∧
    List.Forall₂ (fun w v => ∀ role chain, (w.check role chain).value = (v.check role chain).value)
      (revokingAll [] vs) vs := by
  refine ⟨?_, ?_, ?_, ?_, ?_, ?_⟩
  · intro inner outer
    have hflat : [outer, inner].flatten = outer ++ inner := by simp
    have htwo := forall₂_map (alike_revokingIn (List.cons_ne_nil outer [inner])) vs
    rwa [← foldr_revokingAll, hflat] at htwo
  · intro hne
    rw [foldr_revokingAll]
    refine ⟨forall₂_map (alike_revokingIn hne) vs, ?_⟩
    intro w hw
    obtain ⟨v, -, rfl⟩ := List.mem_map.mp hw
    exact checksRevocation_revokingIn hne v
  · rw [foldr_revokingAll, List.forall₂_map_left_iff, List.forall₂_same]
    intro v _
    exact guards_revokingIn layers v
  · intro role chain h
    obtain ⟨events, hevents⟩ := exists_check_revokingIn layers role h
    refine ⟨events, fun us w hw => ?_⟩
    rw [foldr_revokingAll] at hw
    obtain ⟨v, -, rfl⟩ := List.mem_map.mp hw
    exact hevents v
  · intro lists others h
    exact forall₂_map (alike_revoking h) vs
  · rw [revokingAll, List.forall₂_map_left_iff, List.forall₂_same]
    intro v _ role chain
    exact (guards_revoking [] v).check_unlisted role chain (not_listed_nil chain)

def secondList : RevocationList := ⟨⟨[], [48, 0]⟩, [⟨6, none, false⟩]⟩

/-- Two layers, each with a list, around a validator that accepts every chain: a certificate on either
list is refused, and a chain with none of them is accepted. -/
theorem layers_revoke_as_one_twoLists :
    ((revoking [bareList] (revoking [secondList] trustAll)).check .client
        [bareCertificate 5, bareCertificate 6]).value = .error .revoked ∧
    ((revoking [bareList] (revoking [secondList] trustAll)).check .client
        [bareCertificate 5, bareCertificate 7]).value = .error .revoked ∧
    ((revoking [bareList] (revoking [secondList] trustAll)).check .client
        [bareCertificate 5]).value = .ok () ∧
    Alike (revoking [bareList] (revoking [secondList] trustAll))
      (revoking [bareList, secondList] trustAll) ∧
    Alike (revoking [bareList, secondList] trustAll)
      (revoking [secondList, bareList, bareList] trustAll) := by
  obtain ⟨-, hlayers, hguards, hlisted, -, -⟩ :=
    layers_revoke_as_one [trustAll] [[bareList], [secondList]]
  obtain ⟨halike, -⟩ := hlayers (by simp)
  obtain ⟨-, -, -, -, hset, -⟩ := layers_revoke_as_one [trustAll] []
  have hsame := hset [bareList, secondList] [secondList, bareList, bareList] (by simp [or_comm])
  have hsix : Listed [bareList, secondList] [bareCertificate 5, bareCertificate 6] :=
    ⟨bareCertificate 6, by simp, secondList, by simp, by decide⟩
  have hseven : Listed [bareList, secondList] [bareCertificate 5, bareCertificate 7] :=
    ⟨bareCertificate 7, by simp, bareList, by simp, by decide⟩
  have hfive : ¬ Listed [bareList, secondList] [bareCertificate 5] := by
    simp [Listed, show bareList.isRevoked (bareCertificate 5) = false by decide,
      show secondList.isRevoked (bareCertificate 5) = false by decide]
  obtain ⟨_, hrefused⟩ := hlisted .client _ hsix
  obtain ⟨_, hrefused'⟩ := hlisted .client _ hseven
  refine ⟨?_, ?_, ?_, (List.forall₂_cons.mp halike).1, (List.forall₂_cons.mp hsame).1⟩
  · rw [hrefused [trustAll] _ (List.mem_singleton_self _)]
  · rw [hrefused' [trustAll] _ (List.mem_singleton_self _)]
  · exact (List.forall₂_cons.mp hguards).1.check_unlisted .client _ hfive

end Validator

end TlsSetup
