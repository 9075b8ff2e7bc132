import TlsSetup.Proofs.Credentials
import TlsSetup.Proofs.Questions

/-!
# Names come before defaults

A source that is asked for a server name first chooses by the name, and falls back on its default only
if that gives nothing that counts. A failure on the way is the answer, and never a reason to fall back.
Identities and validators are both chosen in this way; a set without validators does not count.
-/

namespace TlsSetup

open X509

namespace Source

variable {α : Type} {s : Source α} {counts : α → Bool} {name : Option String}

/-- What a source chooses for a server name, and all that it is asked until then. -/
inductive Chooses (s : Source α) (counts : α → Bool) :
    Option String → Except Error (Option α) → List Event → Prop
  | unnamed : Chooses s counts none s.default.outcome s.default.asked
  | choice_fails {name : String} {e : Error} (hchoice : s.choice.outcome = .error e) :
      Chooses s counts (some name) (.error e) s.choice.asked
  | no_choice {name : String} (hchoice : s.choice.outcome = .ok none) :
      Chooses s counts (some name) s.default.outcome (s.choice.asked ++ s.default.asked)
  | name_fails {name : String} {choose : Choice α} {e : Error}
      (hchoice : s.choice.outcome = .ok (some choose)) (hname : (choose name).outcome = .error e) :
      Chooses s counts (some name) (.error e) (s.choice.asked ++ (choose name).asked)
  | hit {name : String} {choose : Choice α} {a : α}
      (hchoice : s.choice.outcome = .ok (some choose)) (hname : (choose name).outcome = .ok (some a))
      (hcounts : counts a = true) :
      Chooses s counts (some name) (.ok (some a)) (s.choice.asked ++ (choose name).asked)
  | miss {name : String} {choose : Choice α} {answer : Option α}
      (hchoice : s.choice.outcome = .ok (some choose)) (hname : (choose name).outcome = .ok answer)
      (hcounts : answer.filter counts = none) :
      Chooses s counts (some name) s.default.outcome
        (s.choice.asked ++ (choose name).asked ++ s.default.asked)

/-- The rules leave no choice: exactly one of them applies. -/
theorem Chooses.unique {chosen again : Except Error (Option α)} {asked asked' : List Event}
    (h : s.Chooses counts name chosen asked) (h' : s.Chooses counts name again asked') :
    chosen = again ∧ asked = asked' := by
  cases h <;> cases h' <;> simp_all

theorem Chooses.of_no_choice {chosen : Except Error (Option α)} {asked : List Event}
    (h : s.Chooses counts name chosen asked) (hchoice : s.choice.outcome = .ok none) :
    chosen = s.default.outcome := by
  cases name with
  | none => exact (h.unique .unnamed).1
  | some name => exact (h.unique (.no_choice hchoice)).1

theorem Chooses.of_answer {name : String} {chosen : Except Error (Option α)} {asked : List Event}
    {choose : Choice α} {answer : Option α} (h : s.Chooses counts (some name) chosen asked)
    (hchoice : s.choice.outcome = .ok (some choose)) (hname : (choose name).outcome = .ok answer) :
    chosen = match answer.filter counts with
      | some a => .ok (some a)
      | none => s.default.outcome := by
  cases hcounts : answer.filter counts with
  | none => exact (h.unique (.miss hchoice hname hcounts)).1
  | some a =>
    obtain ⟨rfl, ha⟩ := Option.filter_eq_some_iff.mp hcounts
    exact (h.unique (.hit hchoice hname ha)).1

private theorem outcome_filter_default :
    (s.filter counts).default.outcome = s.default.outcome.map (Option.filter counts) := by
  change (s.default >>= fun a => pure (a.filter counts)).outcome = _
  rw [Attempt.outcome_bind]
  cases s.default.outcome <;> rfl

private theorem asked_filter_default : (s.filter counts).default.asked = s.default.asked :=
  Attempt.asked_bind_of_silent _ fun _ => rfl

private theorem outcome_filter_choice :
    (s.filter counts).choice.outcome = s.choice.outcome.map
      (Option.map fun choose name => do return (← choose name).filter counts) := by
  change (s.choice >>= fun c => pure (c.map _)).outcome = _
  rw [Attempt.outcome_bind]
  cases s.choice.outcome <;> rfl

private theorem asked_filter_choice : (s.filter counts).choice.asked = s.choice.asked :=
  Attempt.asked_bind_of_silent _ fun _ => rfl

private theorem filter_true (s : Source α) : s.filter (fun _ => true) = s := by
  have hanswer : (Option.filter fun _ : α => true) = id := by
    funext answer
    cases answer <;> rfl
  simp only [filter, bind_pure_comp, hanswer, id_map]
  change (⟨s.default, (Option.map fun choose => choose) <$> s.choice⟩ : Source α) = s
  rw [Option.map_id_fun', id_map]

variable {found : String → α → Logged Unit} {missing : String → Logged Unit}

private theorem chooses_ask_named {choose : Choice α} (hfound : ∀ name a, (found name a).asked = [])
    (hmissing : ∀ name, (missing name).asked = [])
    (hchoice : s.choice.outcome = .ok (some choose)) (name : String) :
    ∃ chosen,
      s.Chooses counts (some name) chosen ((s.filter counts).ask found missing (some name)).asked ∧
      ((s.filter counts).ask found missing (some name)).outcome =
        chosen.map (Option.filter counts) := by
  have hfilter : (s.filter counts).choice.outcome =
      .ok (some fun name => do return (← choose name).filter counts) := by
    rw [outcome_filter_choice, hchoice]
    rfl
  have hasked : (do return (← choose name).filter counts : Attempt (Option α)).asked =
      (choose name).asked := Attempt.asked_bind_of_silent _ fun _ => rfl
  rw [ask, Attempt.asked_bind_ok _ hfilter, Attempt.outcome_bind_ok _ hfilter, asked_filter_choice]
  cases hname : (choose name).outcome with
  | error e =>
    have hanswer := Attempt.outcome_bind_error
      (fun answer => (pure (answer.filter counts) : Attempt (Option α))) hname
    rw [Attempt.asked_bind_error _ hanswer, Attempt.outcome_bind_error _ hanswer, hasked]
    exact ⟨.error e, .name_fails hchoice hname, rfl⟩
  | ok answer =>
    have hanswer := Attempt.outcome_bind_ok
      (fun answer => (pure (answer.filter counts) : Attempt (Option α))) hname
    rw [Attempt.outcome_pure] at hanswer
    rw [Attempt.asked_bind_ok _ hanswer, Attempt.outcome_bind_ok _ hanswer, hasked]
    -- the source sees the answer only after the filter, as a hit or as nothing
    cases hcounts : answer.filter counts with
    | none =>
      refine ⟨s.default.outcome, ?_, outcome_filter_default⟩
      have hdefault : (do missing name; (s.filter counts).default : Attempt (Option α)).asked =
          s.default.asked := by
        rw [Attempt.asked_bind_ok (a := ()) _ rfl, Attempt.asked_lift, hmissing,
          asked_filter_default]
        rfl
      rw [← List.append_assoc, hdefault]
      exact .miss hchoice hname hcounts
    | some a =>
      obtain ⟨rfl, ha⟩ := Option.filter_eq_some_iff.mp hcounts
      refine ⟨.ok (some a), ?_, ?_⟩
      · rw [Attempt.asked_bind_of_silent _ fun _ => rfl, Attempt.asked_lift, hfound, List.append_nil]
        exact .hit hchoice hname ha
      · change _ = Except.ok ((some a).filter counts)
        rw [hcounts]
        rfl

/-- A source is asked by the rules if only records are written where it has an answer and where it has
none; what it chose is then kept if it counts. -/
theorem chooses_ask (s : Source α) (counts : α → Bool)
    (hfound : ∀ name a, (found name a).asked = [])
    (hmissing : ∀ name, (missing name).asked = []) (name : Option String) :
    ∃ chosen, s.Chooses counts name chosen ((s.filter counts).ask found missing name).asked ∧
      ((s.filter counts).ask found missing name).outcome = chosen.map (Option.filter counts) := by
  cases name with
  | none =>
    have hasked : ((s.filter counts).ask found missing none).asked = s.default.asked :=
      asked_filter_default
    rw [hasked]
    exact ⟨s.default.outcome, .unnamed, outcome_filter_default⟩
  | some name =>
    cases hchoice : s.choice.outcome with
    | error e =>
      have hfilter : (s.filter counts).choice.outcome = .error e := by
        rw [outcome_filter_choice, hchoice]
        rfl
      rw [ask, Attempt.asked_bind_error _ hfilter, Attempt.outcome_bind_error _ hfilter,
        asked_filter_choice]
      exact ⟨.error e, .choice_fails hchoice, rfl⟩
    | ok choice =>
      cases choice with
      | some choose => exact chooses_ask_named hfound hmissing hchoice name
      | none =>
        have hfilter : (s.filter counts).choice.outcome = .ok none := by
          rw [outcome_filter_choice, hchoice]
          rfl
        rw [ask, Attempt.asked_bind_ok _ hfilter, Attempt.outcome_bind_ok _ hfilter,
          asked_filter_choice, asked_filter_default]
        exact ⟨_, .no_choice hchoice, outcome_filter_default⟩

end Source

namespace Options

variable {o : Options} {serverName : Option String}

theorem chooses_identityFor {s : KeySource} (hs : o.keySource = some s)
    (serverName : Option String) :
    s.Chooses (fun _ => true) serverName (o.identityFor serverName).outcome
      (o.identityFor serverName).asked := by
  have hfound : ∀ name (identity : Identity),
      (Logged.note .debug "using per-name key material"
        [("server_name", name), ("subject", identity.holder.subject)]).asked = [] :=
    fun _ _ => rfl
  have hmissing : ∀ name,
      (Logged.note .debug "no per-name key material, using default"
        [("server_name", name)]).asked = [] := fun _ => rfl
  have hrules := s.chooses_ask (fun _ => true) hfound hmissing serverName
  obtain ⟨chosen, hchosen, houtcome⟩ := hrules
  -- identities are not filtered: the rules hold for the filter that lets everything pass
  have hall : chosen.map (Option.filter fun _ => true) = chosen := by
    cases chosen with
    | error e => rfl
    | ok answer => cases answer <;> rfl
  rw [hall, Source.filter_true] at houtcome
  rw [Source.filter_true] at hchosen
  rw [identityFor, hs]
  simp only [houtcome]
  exact hchosen

theorem chooses_validatorsFor {s : TrustSource} (hs : o.trustSource = some s)
    (serverName : Option String) :
    ∃ chosen,
      s.Chooses (fun vs => !vs.isEmpty) serverName chosen (o.validatorsFor serverName).asked ∧
      (o.validatorsFor serverName).outcome = chosen.map (Option.filter fun vs => !vs.isEmpty) := by
  rw [validatorsFor, hs]
  exact s.chooses_ask _ (fun _ _ => rfl) (fun _ => rfl) serverName

/-- What becomes of the set of validators that a source has chosen. -/
structure TrustFollows (o : Options) (serverName : Option String)
    (chosen : Except Error (Option (List Validator))) : Prop where
  /-- What was chosen is found as it is, and a set without validators is none. -/
  found : (o.validatorsFor serverName).outcome =
    chosen.map (Option.filter fun vs => !vs.isEmpty)
  /-- After the source only the files with lists are asked, and only for a set with a member. -/
  asked : (o.trustFor serverName false).asked = (o.validatorsFor serverName).asked ++
    match chosen with
    | .ok (some (_ :: _)) => o.revocationLists.asked
    | _ => []
  failure : ∀ e, chosen = .error e → (o.trustFor serverName false).outcome = .error e
  /-- There is no trust exactly if there is no set or an empty one. -/
  untrusting : (o.trustFor serverName false).outcome = .ok .none ↔
    chosen = .ok none ∨ chosen = .ok (some [])
  /-- A set with a member is the result, behind the configured lists if there are any. -/
  trusting : ∀ us, us ≠ [] → chosen = .ok (some us) → ∀ t,
    (o.trustFor serverName false).outcome = .ok t ↔ ∃ lists, o.Configures lists ∧
      t = .validators (if lists = [] then us else us.map (Validator.revoking lists)) lists

private theorem judged_eq (us : List Validator) (lists : List RevocationList) : judged us lists =
    .validators (if lists = [] then us else us.map (Validator.revoking lists)) lists := by
  cases lists <;> rfl

private theorem filter_nonempty_eq_none_iff {chosen : Except Error (Option (List Validator))} :
    chosen.map (Option.filter fun vs => !vs.isEmpty) = .ok none ↔
      chosen = .ok none ∨ chosen = .ok (some []) := by
  cases chosen with
  | error e => simp [Except.map]
  | ok answer =>
    cases answer with
    | none => simp [Except.map]
    | some us => cases us <;> simp [Except.map]

theorem trustFollows {chosen : Except Error (Option (List Validator))}
    (h : (o.validatorsFor serverName).outcome =
      chosen.map (Option.filter fun vs => !vs.isEmpty)) : o.TrustFollows serverName chosen where
  found := h
  asked := by
    have hbind : o.trustFor serverName false = o.validatorsFor serverName >>= _ := rfl
    rw [hbind]
    cases chosen with
    | error e => rw [Attempt.asked_bind_error _ h, List.append_nil]
    | ok answer =>
      rw [Attempt.asked_bind_ok _ h]
      cases answer with
      | none => rfl
      | some us =>
        cases us with
        | nil => rfl
        | cons u us => exact congrArg _ (Attempt.asked_bind_of_silent _ fun _ => rfl)
  failure e he := by
    subst he
    exact Attempt.outcome_bind_error _ h
  untrusting := by
    rw [trustFor_eq_ok, h, ← filter_nonempty_eq_none_iff]
    simp [judged]
  trusting us hus hchosen t := by
    have hsome : (o.validatorsFor serverName).outcome = .ok (some us) := by
      rw [h, hchosen]
      cases us with
      | nil => exact absurd rfl hus
      | cons u us => rfl
    rw [trustFor_eq_ok, hsome]
    simp [judged_eq]

/-- For identities and for validators, a name that is given comes before the default, which is asked
only if there is nothing for the name; a failure on the way is the outcome. Trust in validators always
names one. -/
theorem names_precede_defaults (o : Options) (serverName : Option String) :
    (∀ s, o.keySource = some s → ∀ chosen asked,
      s.Chooses (fun _ => true) serverName chosen asked ↔
        chosen = (o.identityFor serverName).outcome ∧ asked = (o.identityFor serverName).asked) ∧
    (∀ s, o.trustSource = some s → ∃ chosen, o.TrustFollows serverName chosen ∧
      ∀ again asked, s.Chooses (fun vs => !vs.isEmpty) serverName again asked ↔
        again = chosen ∧ asked = (o.validatorsFor serverName).asked) ∧
    (o.keySource = none → o.identityFor serverName = pure none) ∧
    (o.trustSource = none → o.validatorsFor serverName = pure none ∧
      o.TrustFollows serverName (.ok none)) ∧
    ∀ trustAll vs lists, (o.trustFor serverName trustAll).outcome = .ok (.validators vs lists) →
      vs ≠ [] := by
  refine ⟨?_, ?_, ?_, ?_, ?_⟩
  · intro s hs chosen asked
    have hchooses := chooses_identityFor hs serverName
    constructor
    · intro h
      exact h.unique hchooses
    · rintro ⟨rfl, rfl⟩
      exact hchooses
  · intro s hs
    obtain ⟨chosen, hchooses, houtcome⟩ := chooses_validatorsFor hs serverName
    refine ⟨chosen, trustFollows houtcome, fun again asked => ⟨?_, ?_⟩⟩
    · intro h
      exact h.unique hchooses
    · rintro ⟨rfl, rfl⟩
      exact hchooses
  · intro hs
    rw [identityFor, hs]
  · intro hs
    have hnone : o.validatorsFor serverName = pure none := by rw [validatorsFor, hs]
    refine ⟨hnone, trustFollows ?_⟩
    rw [hnone]
    rfl
  · intro trustAll vs lists h
    exact judges_ne_nil_of_trustFor h rfl

end Options

/-- Options whose collaborators tell what they are asked. Their source of trust fails for one name, has
a validator for another, and an empty set for every other one. -/
def tellingOptions : Options where
  engine := .rustls
  sessionCache := false
  keySource := some
    { default := do Logged.ask "key.default"; return none
      choice := do Logged.ask "key.mapper"; return none }
  trustSource := some
    { default := do Logged.ask "trust.default"; return some [Validator.trustAll]
      choice := do
        Logged.ask "trust.mapper"
        return some fun name => do
          Logged.ask ("trust.lookup " ++ name)
          if name = "fails" then throw (.provider .engine)
          return some (if name = "known" then [Validator.store 0 []] else []) }
  crlPaths := ["lists"]
  crlValues := []
  cipherSuites := []
  protocols := []
  clientAuth := .none
  resources := ⟨id, fun path => do Logged.ask ("read " ++ path); return .ok []⟩

private theorem configures_tellingOptions : tellingOptions.Configures [] :=
  ⟨[[]], [], .cons ⟨[], rfl, rfl⟩ .nil, .nil, rfl⟩

/-- A name for which the source fails, one for which it has a validator, and one for which it has an
empty set: only for the last one the default is asked. The source of identities cannot choose by name. -/
theorem names_precede_defaults_threeNames :
    ((tellingOptions.trustFor (some "fails") false).outcome = .error (.provider .engine) ∧
      (tellingOptions.trustFor (some "fails") false).asked =
        [.asked "trust.mapper", .asked "trust.lookup fails"]) ∧
    ((tellingOptions.trustFor (some "known") false).outcome =
        .ok (.validators [Validator.store 0 []] []) ∧
      (tellingOptions.trustFor (some "known") false).asked =
        [.asked "trust.mapper", .asked "trust.lookup known", .asked "read lists"]) ∧
    ((tellingOptions.trustFor (some "other") false).outcome =
        .ok (.validators [Validator.trustAll] []) ∧
      (tellingOptions.trustFor (some "other") false).asked =
        [.asked "trust.mapper", .asked "trust.lookup other", .asked "trust.default",
          .asked "read lists"]) ∧
    (tellingOptions.identityFor (some "known")).outcome = .ok none ∧
      (tellingOptions.identityFor (some "known")).asked =
        [.asked "key.mapper", .asked "key.default"] := by
  have hlists := configures_tellingOptions
  have hnames := Options.names_precede_defaults tellingOptions
  refine ⟨?_, ?_, ?_, ?_⟩
  · obtain ⟨chosen, hfollows, hrules⟩ := (hnames (some "fails")).2.1 _ rfl
    obtain ⟨rfl, hasked⟩ := (hrules _ _).mp (.name_fails rfl rfl)
    refine ⟨hfollows.failure _ rfl, ?_⟩
    rw [hfollows.asked, ← hasked]
    rfl
  · obtain ⟨chosen, hfollows, hrules⟩ := (hnames (some "known")).2.1 _ rfl
    obtain ⟨rfl, hasked⟩ := (hrules _ _).mp (.hit rfl rfl rfl)
    refine ⟨(hfollows.trusting _ (by simp) rfl _).mpr ⟨[], hlists, rfl⟩, ?_⟩
    rw [hfollows.asked, ← hasked]
    rfl
  · obtain ⟨chosen, hfollows, hrules⟩ := (hnames (some "other")).2.1 _ rfl
    obtain ⟨rfl, hasked⟩ := (hrules _ _).mp (.miss rfl rfl rfl)
    refine ⟨(hfollows.trusting [Validator.trustAll] (by simp) rfl _).mpr ⟨[], hlists, rfl⟩, ?_⟩
    rw [hfollows.asked, ← hasked]
    rfl
  · obtain ⟨houtcome, hasked⟩ := ((hnames (some "known")).1 _ rfl _ _).mp (.no_choice rfl)
    exact ⟨houtcome.symm, hasked.symm⟩

end TlsSetup
