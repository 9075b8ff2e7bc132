import TlsSetup.Proofs.Revocation
import TlsSetup.Proofs.Stages

/-!
# Trust in everybody

Where everybody is to be trusted, the source of trust plays no part: it is not asked, and the trust is
the same whatever it would say and for whatever name. The configured lists are loaded as they are for
validators, so that a fault in them does not stay hidden, but nobody looks at them afterwards.
-/

namespace TlsSetup

open X509

/-- Nothing that a peer presents is refused, and nobody is named whose certificates are wanted. -/
structure Trust.AcceptsEverybody (t : Trust) : Prop where
  verdict : ∀ role chain, checkChain t.judges role chain = pure (.ok ())
  judge_accepts : ∀ v ∈ t.judges, ∀ role chain, v.check role chain = pure (.ok ())
  unrevoking : ∀ v ∈ t.judges, v.checksRevocation = false
  acceptedIssuers : t.acceptedIssuers = []

private theorem check_trustAll (role : Role) (chain : List Certificate) :
    Validator.trustAll.check role chain = pure (.ok ()) := by
  cases role <;> rfl

theorem Trust.acceptsEverybody (lists : List RevocationList) :
    (Trust.trustAll lists).AcceptsEverybody where
  verdict role chain := by
    rw [judges, checkChain, checkChainFrom, check_trustAll]
    rfl
  judge_accepts v hv role chain := by
    obtain rfl := List.mem_singleton.mp hv
    exact check_trustAll role chain
  unrevoking v hv := by
    obtain rfl := List.mem_singleton.mp hv
    rfl
  acceptedIssuers := rfl

namespace Options

variable {o : Options} {serverName : Option String}

private theorem lists_of_trustingAll :
    (o.trustFor serverName true).outcome.map Trust.revocationLists = o.revocationLists.outcome := by
  have hbind : (o.trustFor serverName true).outcome =
      (o.revocationLists >>= fun lists => pure (.trustAll lists)).outcome := rfl
  rw [hbind, Attempt.outcome_bind]
  cases o.revocationLists.outcome <;> rfl

private theorem lists_of_validators {us : List Validator}
    (hus : (o.validatorsFor serverName).outcome = .ok (some us)) :
    (o.trustFor serverName false).outcome.map Trust.revocationLists =
      o.revocationLists.outcome := by
  have hbind : (o.trustFor serverName false).outcome =
      (o.revocationLists >>= fun lists => pure (judged us lists)).outcome :=
    Attempt.outcome_bind_ok _ hus
  rw [hbind, Attempt.outcome_bind]
  cases o.revocationLists.outcome <;> rfl

/-- Trust in everybody is the same whatever the source of trust and the server name are, and nothing is
asked for it but the configured lists. It fails exactly if they cannot be loaded. Otherwise it holds the
lists that validators of any source would check, and accepts every chain. -/
theorem trustAll_ignores_source (o : Options) (source : Option TrustSource)
    (serverName otherName : Option String) :
    { o with trustSource := source }.trustFor otherName true = o.trustFor serverName true ∧
    (o.trustFor serverName true).asked = Steps.asked o.listSteps ∧
    (∀ e, (o.trustFor serverName true).outcome = .error e ↔ Steps.fault o.listSteps = some e) ∧
    (∀ t, (o.trustFor serverName true).outcome = .ok t ↔
      ∃ lists, o.Configures lists ∧ t = .trustAll lists) ∧
    (∀ name us, ({ o with trustSource := source }.validatorsFor name).outcome = .ok (some us) →
      ({ o with trustSource := source }.trustFor name false).outcome.map Trust.revocationLists =
        (o.trustFor serverName true).outcome.map Trust.revocationLists) ∧
    ∀ t, (o.trustFor serverName true).outcome = .ok t → t.AcceptsEverybody := by
  have htakes : Takes (o.trustFor serverName true) o.listSteps := takes_trustFor
  have houtcome : ∀ t, (o.trustFor serverName true).outcome = .ok t ↔
      ∃ lists, o.Configures lists ∧ t = .trustAll lists := by
    intro t
    rw [trustFor_eq_ok]
    simp
  -- the two attempts are one: neither the source nor the name occurs in them
  refine ⟨rfl, htakes.asked, ?_, houtcome, ?_, ?_⟩
  · intro e
    rw [← htakes.fault, faultOf_eq_some_iff]
  · intro name us hus
    rw [lists_of_trustingAll, lists_of_validators hus]
    rfl
  · intro t ht
    obtain ⟨lists, -, rfl⟩ := (houtcome t).mp ht
    exact Trust.acceptsEverybody lists

end Options

def failingSource : TrustSource :=
  ⟨throw (Error.provider .engine), throw (Error.provider .engine)⟩

theorem trustAll_ignores_source_listedTwice :
    ({ listedTwice with trustSource := some failingSource }.trustFor (some "name") true).outcome =
      .ok (.trustAll [bareList, bareList]) ∧
    Listed [bareList, bareList] [bareCertificate 7] ∧
    checkChain (Trust.trustAll [bareList, bareList]).judges .client [bareCertificate 7] =
      pure (.ok ()) := by
  obtain ⟨hsame, -, -, houtcome, -, haccepts⟩ :=
    Options.trustAll_ignores_source listedTwice (some failingSource) none (some "name")
  obtain ⟨us, -, hlists, -⟩ := Options.trustFor_eq_validators.mp trustFor_listedTwice
  have htrust : (listedTwice.trustFor none true).outcome = .ok (.trustAll [bareList, bareList]) :=
    (houtcome _).mpr ⟨_, hlists, rfl⟩
  refine ⟨?_, ?_, (haccepts _ htrust).verdict _ _⟩
  · rw [hsame]
    exact htrust
  · exact ⟨bareCertificate 7, by simp, bareList, by simp, by decide⟩

end TlsSetup
