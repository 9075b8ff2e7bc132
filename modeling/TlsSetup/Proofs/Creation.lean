import TlsSetup.Context.Creation
import TlsSetup.Proofs.Assembly
import TlsSetup.Proofs.Credentials

/-!
# Contexts from options

A context is created exactly if its credentials are found and it can be assembled from them; the
records that are written on the way do not matter.
-/

namespace TlsSetup.Options

variable {o : Options} {serverName : Option String} {useAlpn trustAll : Bool} {role : Role}
  {cred : Credentials} {c : Context}

theorem contextFor_eq_ok :
    (o.contextFor serverName useAlpn role trustAll).outcome = .ok c ↔
      ∃ cred, (o.credentialsFor serverName trustAll).outcome = .ok cred ∧
        (o.assemble role useAlpn cred).outcome = .ok c := by
  simp only [contextFor, Attempt.outcome_bind_eq_ok, Attempt.outcome_noting, Attempt.outcome_lift]
  simp

theorem trust_of_verifiesPeer (hc : (o.assemble role useAlpn cred).outcome = .ok c)
    (hv : c.verifiesPeer = true) : cred.trust.isNone = false := by
  obtain ⟨-, alpn, inner, -, -, rfl⟩ := assemble_eq_ok.mp hc
  have hsome : (!cred.trust.isNone) = true := (Bool.and_eq_true_iff.mp hv).1
  simpa using hsome

end TlsSetup.Options
