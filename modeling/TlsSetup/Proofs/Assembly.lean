import TlsSetup.Context.Assembly
import TlsSetup.Proofs.Attempt

/-!
# What contexts are made of

Every stage of the assembly of a context is described by what it needs to succeed and by what it then
makes of the request.
-/

namespace TlsSetup

namespace OpensslContext

theorem build_eq_ok {r : EngineRequest} {c : OpensslContext} :
    build r = .ok c ↔ (∀ i, r.key = some i → acceptsIdentity i = true) ∧
      checkSuites (modernOf r) (legacyOf r) = .ok () ∧ c = ofRequest r := by
  rw [build]
  cases hk : r.key with
  | none => simp [-bind_pure_comp, except_bind_eq_ok, except_pure_eq_ok, Unique.exists_iff]
  | some i =>
    by_cases hi : acceptsIdentity i = true
    · simp [-bind_pure_comp, hi, except_bind_eq_ok, except_pure_eq_ok, Unique.exists_iff]
    · simp [hi, except_throw_ne_ok, except_bind_eq_ok]

end OpensslContext

namespace Rustls

theorem buildServer_eq_ok {r : EngineRequest} {s : RustlsServer} :
    buildServer r = .ok s ↔ ∃ names i, suites r.cipherSuites = .ok names ∧ r.key = some i ∧
      checkIdentity i = .ok () ∧ s = ⟨names, protocolsOf r, i, verifierFor r⟩ := by
  rw [buildServer, except_bind_eq_ok]
  apply exists_congr
  intro names
  cases hk : r.key with
  | none => simp [except_throw_ne_ok]
  | some i => simp [-bind_pure_comp, except_bind_eq_ok, except_pure_eq_ok, Unique.exists_iff]

theorem buildClient_eq_ok {r : EngineRequest} {c : RustlsClient} :
    buildClient r = .ok c ↔ ∃ names, suites r.cipherSuites = .ok names ∧
      (∀ i, r.key = some i → checkIdentity i = .ok ()) ∧
      c = ⟨names, protocolsOf r, r.key, clientJudges r⟩ := by
  rw [buildClient, except_bind_eq_ok]
  apply exists_congr
  intro names
  cases hk : r.key with
  | none => simp [except_pure_eq_ok]
  | some i => simp [-bind_pure_comp, except_bind_eq_ok, except_pure_eq_ok, Unique.exists_iff]

end Rustls

namespace Options

theorem engineContext_eq_ok {engine : Engine} {r : EngineRequest} {inner : EngineContext} :
    (engineContext engine r).outcome = .ok inner ↔
      (engine = .openssl ∧ ∃ c, OpensslContext.build r = .ok c ∧ inner = .openssl c) ∨
      (engine = .rustls ∧ r.role = .server ∧
        ∃ s, Rustls.buildServer r = .ok s ∧ inner = .rustlsServer s) ∨
      (engine = .rustls ∧ r.role = .client ∧
        ∃ c, Rustls.buildClient r = .ok c ∧ inner = .rustlsClient c) := by
  cases engine with
  | openssl =>
    simp only [engineContext, Attempt.outcome_bind_eq_ok, Attempt.outcome_pure_eq_ok,
      Attempt.outcome_ofExcept]
    simp
  | rustls =>
    cases hr : r.role with
    | server =>
      simp only [engineContext, hr, Attempt.outcome_bind_eq_ok, Attempt.outcome_pure_eq_ok,
        Attempt.outcome_ofExcept, Attempt.outcome_lift]
      simp
    | client =>
      simp only [engineContext, hr, Attempt.outcome_bind_eq_ok, Attempt.outcome_pure_eq_ok,
        Attempt.outcome_ofExcept, Attempt.outcome_lift]
      simp

/-- A context needs an identity if it is a server's, protocols that can be negotiated, and the object
that its engine makes of them. -/
theorem assemble_eq_ok {o : Options} {role : Role} {useAlpn : Bool} {cred : Credentials}
    {c : Context} :
    (o.assemble role useAlpn cred).outcome = .ok c ↔
      (role = .server → cred.identity.isSome = true) ∧
      ∃ alpn inner, o.alpnConfig useAlpn = .ok alpn ∧
        (engineContext o.engine (o.engineRequest role alpn cred)).outcome = .ok inner ∧
        c = o.contextOf (o.engineRequest role alpn cred) inner := by
  by_cases hk : role = .server → cred.identity.isSome = true
  · have hpass : (role.isServer && cred.identity.isNone) = false := by
      cases role <;> simp_all [Role.isServer]
    rw [and_iff_right hk]
    simp [-bind_pure_comp, -Attempt.outcome_pure, assemble, hpass, Attempt.outcome_bind_eq_ok,
      Attempt.outcome_pure_eq_ok, Unique.exists_iff]
  · have hstop : (role.isServer && cred.identity.isNone) = true := by
      cases role <;> simp_all [Role.isServer]
    simp [assemble, hstop, hk]

end Options

end TlsSetup
