import TlsSetup.Proofs.KeyPairs

/-!
# Spellings of a server name

Letter case and dots at the end of a name do not change which host it denotes. Identities are chosen by
the host. A table of validators by name disregards case only: for a spelling with other dots at its end
it may have no entry, and then the default judges the peer.
-/

namespace TlsSetup

open X509 Text

namespace Host

variable {n n' : String}

/-- Spellings that differ in ASCII letter case and in dots at the end, and in nothing else. -/
def Alike (n n' : String) : Prop :=
  ∃ base i j, (lowerAscii n).toList = base ++ List.replicate i '.' ∧
    (lowerAscii n').toList = base ++ List.replicate j '.'

theorem canonical_eq_rdropWhile (s : String) :
    canonical s = (lowerAscii s).toList.rdropWhile (· == '.') := rfl

private theorem rdropWhile_append_dots (base : List Char) (i : Nat) :
    (base ++ List.replicate i '.').rdropWhile (· == '.') = base.rdropWhile (· == '.') := by
  induction i with
  | zero => rw [List.replicate_zero, List.append_nil]
  | succ i ih =>
    rw [List.replicate_succ', ← List.append_assoc, List.rdropWhile_concat_pos _ _ _ rfl, ih]

theorem exists_dots_of_rdropWhile (cs : List Char) :
    ∃ i, cs = cs.rdropWhile (· == '.') ++ List.replicate i '.' := by
  induction cs using List.reverseRecOn with
  | nil => exact ⟨0, rfl⟩
  | append_singleton cs c ih =>
    by_cases hc : c = '.'
    · obtain ⟨i, hi⟩ := ih
      refine ⟨i + 1, ?_⟩
      rw [hc, List.rdropWhile_concat_pos _ _ _ rfl, List.replicate_succ', ← List.append_assoc, ← hi]
    · refine ⟨0, ?_⟩
      rw [List.rdropWhile_concat_neg _ _ _ (by simpa using hc), List.replicate_zero, List.append_nil]

theorem alike_iff : Alike n n' ↔ canonical n = canonical n' := by
  constructor
  · rintro ⟨base, i, j, hn, hn'⟩
    rw [canonical_eq_rdropWhile, canonical_eq_rdropWhile, hn, hn', rdropWhile_append_dots,
      rdropWhile_append_dots]
  · intro h
    obtain ⟨i, hi⟩ := exists_dots_of_rdropWhile (lowerAscii n).toList
    obtain ⟨j, hj⟩ := exists_dots_of_rdropWhile (lowerAscii n').toList
    rw [← canonical_eq_rdropWhile] at hi hj
    rw [← h] at hj
    exact ⟨_, i, j, hi, hj⟩

theorem covers_congr (h : Alike n n') (pattern : String) : covers pattern n = covers pattern n' := by
  rw [covers, covers, alike_iff.mp h]

end Host

theorem Identity.matchesHost_congr {n n' : String} (h : Host.Alike n n') (i : Identity) :
    i.matchesHost n = i.matchesHost n' := by
  simp only [matchesHost, Holder.matchesHost, Host.covers_congr h]

namespace Source

variable {α : Type} {s : Source α} {counts : α → Bool} {n n' : String}
  {chosen chosen' : Except Error (Option α)} {asked asked' : List Event}

theorem Chooses.congr_name (h : s.Chooses counts (some n) chosen asked)
    (h' : s.Chooses counts (some n') chosen' asked')
    (hsame : ∀ choose, s.choice.outcome = .ok (some choose) →
      (choose n).outcome = (choose n').outcome) : chosen = chosen' := by
  cases hchoice : s.choice.outcome with
  | error e =>
    rw [(h.unique (.choice_fails hchoice)).1, (h'.unique (.choice_fails hchoice)).1]
  | ok choice =>
    cases choice with
    | none => rw [h.of_no_choice hchoice, h'.of_no_choice hchoice]
    | some choose =>
      have hname := hsame choose hchoice
      cases hanswer : (choose n').outcome with
      | error e =>
        rw [hanswer] at hname
        rw [(h.unique (.name_fails hchoice hname)).1, (h'.unique (.name_fails hchoice hanswer)).1]
      | ok answer =>
        rw [hanswer] at hname
        rw [h.of_answer hchoice hname, h'.of_answer hchoice hanswer]

end Source

/-- Identities from pairs of texts or from an archive. -/
def KeySource.IsStored (s : KeySource) : Prop :=
  (∃ k : PemKeys, s = k.source) ∨ ∃ k : ArchiveKey, s = k.source

theorem KeySource.IsStored.choice_congr {s : KeySource} (hs : s.IsStored) {n n' : String}
    (h : Host.Alike n n') {choose : Choice Identity}
    (hchoice : s.choice.outcome = .ok (some choose)) : choose n = choose n' := by
  rcases hs with ⟨k, rfl⟩ | ⟨k, rfl⟩
  · obtain ⟨identities, -, hchoose⟩ := Attempt.outcome_bind_eq_ok.mp hchoice
    obtain rfl := Option.some.inj (Attempt.outcome_pure_eq_ok.mp hchoose)
    simp only [Identity.matchesHost_congr h]
  · obtain ⟨identity, -, hchoose⟩ := Attempt.outcome_bind_eq_ok.mp hchoice
    obtain rfl := Option.some.inj (Attempt.outcome_pure_eq_ok.mp hchoose)
    simp only [Identity.matchesHost_congr h]

namespace NamedTrust

variable {t : NamedTrust} {n n' : String}

/-- The validators that the table has for a name; a set without validators does not count. -/
def setFor (t : NamedTrust) (name : String) : Option (List Validator) :=
  (t.names.lookup (lowerAscii name)).filter fun vs => !vs.isEmpty

private theorem setFor_congr (h : lowerAscii n = lowerAscii n') (t : NamedTrust) :
    t.setFor n = t.setFor n' := by
  rw [setFor, setFor, h]

private theorem lookup_filter_of_ne {key other : String} (h : other ≠ key)
    (entries : List (String × List Validator)) :
    (entries.filter (·.1 != key)).lookup other = entries.lookup other := by
  induction entries with
  | nil => rfl
  | cons entry rest ih =>
    obtain ⟨name, vs⟩ := entry
    by_cases hname : name = key
    · subst hname
      have hbeq : (other == name) = false := by simpa using h
      rw [List.filter_cons_of_neg (by simp), ih, List.lookup_cons, hbeq]
    · rw [List.filter_cons_of_pos (by simpa using hname), List.lookup_cons, List.lookup_cons, ih]

theorem lookup_withName (t : NamedTrust) (key name : String) (vs : List Validator) :
    (t.withName key vs).names.lookup (lowerAscii name) =
      if lowerAscii name = lowerAscii key then some vs else t.names.lookup (lowerAscii name) := by
  rw [withName, List.lookup_cons]
  by_cases h : lowerAscii name = lowerAscii key
  · simp [h]
  · have hbeq : (lowerAscii name == lowerAscii key) = false := by simpa using h
    simp only [hbeq, lookup_filter_of_ne h, if_neg h]

private theorem setFor_withName (t : NamedTrust) (key name : String) (vs : List Validator) :
    (t.withName key vs).setFor name =
      if lowerAscii name = lowerAscii key then (some vs).filter fun vs => !vs.isEmpty
      else t.setFor name := by
  rw [setFor, setFor, lookup_withName]
  split <;> rfl

end NamedTrust

namespace Options

variable {o : Options} {t : NamedTrust} {n n' : String}

/-- The options take identities from what is stored, and validators from a table by name. -/
structure ByName (o : Options) (t : NamedTrust) : Prop where
  key : ∃ s, o.keySource = some s ∧ s.IsStored
  trust : o.trustSource = some t.source

private theorem identityFor_congr {s : KeySource} (hs : o.keySource = some s) (hstored : s.IsStored)
    (h : Host.Alike n n') :
    (o.identityFor (some n)).outcome = (o.identityFor (some n')).outcome := by
  apply (chooses_identityFor hs (some n)).congr_name (chooses_identityFor hs (some n'))
  intro choose hchoice
  rw [hstored.choice_congr h hchoice]

/-- A name that the table has no validators for gets those of the default. -/
theorem validatorsFor_named (hs : o.trustSource = some t.source) (n : String) :
    (o.validatorsFor (some n)).outcome =
      match t.setFor n with
      | some us => .ok (some us)
      | none => (o.validatorsFor none).outcome := by
  obtain ⟨chosen, hchooses, houtcome⟩ := chooses_validatorsFor hs (some n)
  obtain ⟨default, hdefault, hnone⟩ := chooses_validatorsFor hs none
  rw [houtcome, hnone, hchooses.of_answer rfl rfl, (hdefault.unique .unnamed).1]
  rw [NamedTrust.setFor]
  cases hset : (t.names.lookup (lowerAscii n)).filter fun vs => !vs.isEmpty with
  | none => rfl
  | some us =>
    obtain ⟨-, hus⟩ := Option.filter_eq_some_iff.mp hset
    simp only [Except.map, Option.filter_some, hus, if_true]

private theorem trustFor_congr {trustAll : Bool}
    (h : trustAll = true ∨
      (o.validatorsFor (some n)).outcome = (o.validatorsFor (some n')).outcome) :
    (o.trustFor (some n) trustAll).outcome = (o.trustFor (some n') trustAll).outcome := by
  cases trustAll with
  | true => rfl
  | false =>
    obtain hsame : (o.validatorsFor (some n)).outcome = (o.validatorsFor (some n')).outcome := by
      simpa using h
    simp only [trustFor, Bool.false_eq_true, if_false, Attempt.outcome_bind, hsame]

private theorem credentialsFor_congr {trustAll : Bool}
    (htrust : (o.trustFor (some n) trustAll).outcome = (o.trustFor (some n') trustAll).outcome)
    (hidentity : (o.identityFor (some n)).outcome = (o.identityFor (some n')).outcome) :
    (o.credentialsFor (some n) trustAll).outcome =
      (o.credentialsFor (some n') trustAll).outcome := by
  simp only [credentialsFor, Attempt.outcome_bind, htrust, hidentity]

theorem ByName.congr (hby : ByName o t) (h : Host.Alike n n') :
    (o.identityFor (some n)).outcome = (o.identityFor (some n')).outcome ∧
      ∀ trustAll, trustAll = true ∨ t.setFor n = t.setFor n' →
        (o.credentialsFor (some n) trustAll).outcome =
          (o.credentialsFor (some n') trustAll).outcome := by
  obtain ⟨⟨s, hs, hstored⟩, ht⟩ := hby
  have hidentity := identityFor_congr hs hstored h
  refine ⟨hidentity, fun trustAll hsame => credentialsFor_congr (trustFor_congr ?_) hidentity⟩
  refine hsame.imp_right fun hset => ?_
  rw [validatorsFor_named ht, validatorsFor_named ht, hset]

/-- A table with one name, for which nobody is trusted; by default everybody is. -/
def guardedName (name : String) : NamedTrust :=
  (NamedTrust.empty.withDefault ⟨pure (some [Validator.trustAll]), pure none⟩).withName name
    [Validator.revokeAll]

def guardingOptions (name : String) : Options :=
  { bareOptions .openssl with
    keySource := some (PemKeys.source ⟨[], ⟨id, fun _ => pure (.ok [])⟩⟩)
    trustSource := some (guardedName name).source }

private theorem byName_guardingOptions (name : String) :
    (guardingOptions name).ByName (guardedName name) :=
  ⟨⟨_, rfl, .inl ⟨_, rfl⟩⟩, rfl⟩

private theorem credentialsFor_guardingOptions (name n : String) :
    ((guardingOptions name).credentialsFor (some n) false).outcome =
      .ok ⟨none, .validators
        (if lowerAscii n = lowerAscii name then [Validator.revokeAll] else [Validator.trustAll])
        []⟩ := by
  have hset : (guardedName name).setFor n =
      if lowerAscii n = lowerAscii name then some [Validator.revokeAll] else none :=
    NamedTrust.setFor_withName _ name n _
  have hvalidators : ((guardingOptions name).validatorsFor (some n)).outcome = .ok (some
      (if lowerAscii n = lowerAscii name then [Validator.revokeAll] else [Validator.trustAll])) := by
    rw [validatorsFor_named (byName_guardingOptions name).trust, hset]
    by_cases h : lowerAscii n = lowerAscii name
    · rw [if_pos h, if_pos h]
    · rw [if_neg h, if_neg h]
      rfl
  have hlists : (guardingOptions name).Configures [] := ⟨[], [], .nil, .nil, rfl⟩
  exact credentialsFor_eq_ok.mpr
    ⟨trustFor_eq_validators.mpr ⟨_, hvalidators, hlists, rfl⟩, rfl⟩

private theorem credentialsFor_guardingOptions_ne {name n : String}
    (h : lowerAscii n ≠ lowerAscii name) :
    ((guardingOptions name).credentialsFor (some name) false).outcome ≠
      ((guardingOptions name).credentialsFor (some n) false).outcome := by
  rw [credentialsFor_guardingOptions, credentialsFor_guardingOptions, if_pos rfl, if_neg h]
  intro hsame
  have hverdict := congrArg (fun r : Except Error Credentials =>
    r.map fun c => (checkChain c.trust.judges .client []).value) hsame
  cases hverdict

/-- Spellings of one name choose the same identity. They choose the same validators if the table has
the same set for both, or none for either; in particular if they differ in case only. Where dots are
added or left out, a table that has one spelling and not the other tells them apart. -/
theorem alike_names_get_same_credentials (h : Host.Alike n n') :
    (∀ o t, ByName o t →
      (o.identityFor (some n)).outcome = (o.identityFor (some n')).outcome ∧
      ∀ trustAll, trustAll = true ∨ t.setFor n = t.setFor n' →
        (o.credentialsFor (some n) trustAll).outcome =
          (o.credentialsFor (some n') trustAll).outcome) ∧
    ((∀ o t, ByName o t → ∀ trustAll, (o.credentialsFor (some n) trustAll).outcome =
        (o.credentialsFor (some n') trustAll).outcome) ↔
      lowerAscii n = lowerAscii n') := by
  refine ⟨fun o t hby => hby.congr h, ?_, ?_⟩
  · intro hall
    by_contra hne
    -- the table that has the first spelling only
    exact credentialsFor_guardingOptions_ne (Ne.symm hne) (hall _ _ (byName_guardingOptions n) false)
  · intro hlower o t hby trustAll
    exact (hby.congr h).2 trustAll (.inr (NamedTrust.setFor_congr hlower t))

/-- The table with b alone, and the pairs for a and b. -/
def guardedPairs : Options := (guardingOptions "b").serving twoPairs

private theorem byName_guardedPairs : guardedPairs.ByName (guardedName "b") :=
  ⟨⟨_, rfl, .inl ⟨twoPairs, rfl⟩⟩, rfl⟩

private theorem credentialsFor_guardedPairs {i : Identity}
    (hi : (guardedPairs.identityFor (some "b")).outcome = .ok (some i)) :
    (guardedPairs.credentialsFor (some "b") true).outcome = .ok ⟨some i, .trustAll []⟩ ∧
      (guardedPairs.credentialsFor (some "b") false).outcome =
        .ok ⟨some i, .validators [Validator.revokeAll] []⟩ := by
  have hlists : guardedPairs.Configures [] := ⟨[], [], .nil, .nil, rfl⟩
  -- where identities come from makes no difference to the trust
  have htrust := (credentialsFor_eq_ok.mp (credentialsFor_guardingOptions "b" "b")).1
  rw [if_pos rfl] at htrust
  constructor
  · exact credentialsFor_eq_ok.mpr ⟨trustFor_eq_ok.mpr (.inl ⟨rfl, [], hlists, rfl⟩), hi⟩
  · exact credentialsFor_eq_ok.mpr ⟨htrust, hi⟩

/-- The second pair is chosen for b in other letters and with a dot at its end. -/
theorem alike_names_get_same_credentials_lastDot : ∃ i j, twoPairs.Loads [i, j] ∧
    i.matchesHost "b" = false ∧ Host.Alike "B." "b" ∧
    (guardedPairs.identityFor (some "B.")).outcome = .ok (some j) ∧
    (guardedPairs.credentialsFor (some "B.") true).outcome = .ok ⟨some j, .trustAll []⟩ ∧
    Host.Alike "B" "b" ∧
    (guardedPairs.credentialsFor (some "B") false).outcome =
      .ok ⟨some j, .validators [Validator.revokeAll] []⟩ := by
  obtain ⟨i, j, hloads, -, hib, hjb⟩ := loads_twoPairs
  have hidentity := identityFor_of_loads (guardingOptions "b") "b" hloads
  rw [List.find?_cons, hib, List.find?_cons, hjb] at hidentity
  obtain ⟨hall, hnamed⟩ := credentialsFor_guardedPairs hidentity
  have hdot : Host.Alike "B." "b" := Host.alike_iff.mpr (by decide +kernel)
  have hcase : Host.Alike "B" "b" := Host.alike_iff.mpr (by decide +kernel)
  have hlower : lowerAscii "B" = lowerAscii "b" := String.toList_inj.mp (by decide +kernel)
  obtain ⟨hsame, htrust⟩ := (alike_names_get_same_credentials hdot).1 _ _ byName_guardedPairs
  have hspelled := (alike_names_get_same_credentials hcase).2.mpr hlower _ _ byName_guardedPairs
  exact ⟨i, j, hloads, hib, hdot, hsame.trans hidentity, (htrust true (.inl rfl)).trans hall, hcase,
    (hspelled false).trans hnamed⟩

/-- Nobody is trusted for the name, and with a dot at its end everybody is. -/
theorem last_dot_loses_validators :
    Host.Alike "b.example.com" "b.example.com." ∧
    (guardingOptions "b.example.com").ByName (guardedName "b.example.com") ∧
    ((guardingOptions "b.example.com").credentialsFor (some "b.example.com") false).outcome =
      .ok ⟨none, .validators [Validator.revokeAll] []⟩ ∧
    ((guardingOptions "b.example.com").credentialsFor (some "b.example.com.") false).outcome =
      .ok ⟨none, .validators [Validator.trustAll] []⟩ ∧
    ((guardingOptions "b.example.com").credentialsFor (some "b.example.com") false).outcome ≠
      ((guardingOptions "b.example.com").credentialsFor (some "b.example.com.") false).outcome := by
  have hne : ¬ lowerAscii "b.example.com." = lowerAscii "b.example.com" := by
    rw [← String.toList_inj]
    decide +kernel
  refine ⟨Host.alike_iff.mpr (by decide +kernel), byName_guardingOptions _, ?_, ?_,
    credentialsFor_guardingOptions_ne hne⟩
  · rw [credentialsFor_guardingOptions, if_pos rfl]
  · rw [credentialsFor_guardingOptions, if_neg hne]

end Options

end TlsSetup
