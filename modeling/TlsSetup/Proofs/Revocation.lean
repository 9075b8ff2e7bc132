import TlsSetup.Proofs.Credentials
import TlsSetup.Proofs.Verdict

/-!
# Revocation is enforced

Every validator of a resolved trust looks for the certificates of a chain on all configured lists
before it judges the chain. A chain with a certificate on one of them is reported as revoked, and the
validators that were configured are not asked; of every other chain they judge as if there were no
lists.
-/

namespace TlsSetup

open X509

/-- Some certificate of the chain, wherever it stands, is on some list. -/
def Listed (lists : List RevocationList) (chain : List Certificate) : Prop :=
  ∃ c ∈ chain, ∃ list ∈ lists, list.isRevoked c = true

private theorem onSomeList_iff {lists : List RevocationList} {c : Certificate} :
    Validator.onSomeList lists c = true ↔ ∃ list ∈ lists, list.isRevoked c = true :=
  List.any_eq_true

private theorem listed_cons (lists : List RevocationList) (c : Certificate)
    (chain : List Certificate) :
    Listed lists (c :: chain) ↔ Validator.onSomeList lists c = true ∨ Listed lists chain := by
  simp [Listed, onSomeList_iff]

theorem not_listed_nil (chain : List Certificate) : ¬ Listed [] chain := by
  simp [Listed]

def lookupEvent (c : Certificate) : Event :=
  .diagnostic ⟨.trace, "checking revocation", [("serial", c.serialText)]⟩

/-- What is recorded when a certificate is found. -/
def findingEvent (c : Certificate) : Event :=
  .diagnostic ⟨.warn, "rejecting revoked certificate",
    [("subject", (Holder.ofCertificate c).subject), ("issuer", (Holder.ofCertificate c).issuer),
      ("serial", (Holder.ofCertificate c).serial)]⟩

/-- What is recorded of a search that passes over `before` and finds `c`. -/
def searchEvents (before : List Certificate) (c : Certificate) : List Event :=
  (before ++ [c]).map lookupEvent ++ [findingEvent c]

namespace Validator

variable {lists : List RevocationList} {chain : List Certificate}

theorem checkRevoked_of_listed (h : Listed lists chain) :
    ∃ before c after, chain = before ++ c :: after ∧ onSomeList lists c = true ∧
      (∀ d ∈ before, onSomeList lists d = false) ∧
      checkRevoked lists chain = ⟨.error .revoked, searchEvents before c⟩ := by
  induction chain with
  | nil => simp [Listed] at h
  | cons c chain ih =>
    by_cases hc : onSomeList lists c = true
    · refine ⟨[], c, chain, rfl, hc, by simp, ?_⟩
      simp only [checkRevoked, hc, if_true]
      rfl
    · obtain ⟨before, d, after, rfl, hd, hbefore, hcheck⟩ :=
        ih (((listed_cons lists c chain).mp h).resolve_left hc)
      refine ⟨c :: before, d, after, rfl, hd, ?_, ?_⟩
      · intro e he
        rcases List.mem_cons.mp he with rfl | he
        · simpa using hc
        · exact hbefore e he
      · simp only [checkRevoked, hc, hcheck]
        rfl

theorem checkRevoked_of_not_listed (h : ¬ Listed lists chain) :
    (checkRevoked lists chain).value = .ok () := by
  induction chain with
  | nil => rfl
  | cons c chain ih =>
    rw [listed_cons, not_or] at h
    simp only [checkRevoked, h.1, Logged.value_bind]
    exact ih h.2

theorem check_revoking (v : Validator) (role : Role) :
    (revoking lists v).check role chain = do
      match ← checkRevoked lists chain with
      | .ok () => v.check role chain
      | .error e => return .error e := by
  cases role <;> rfl

private theorem check_revoking_of_not_listed (v : Validator) (role : Role)
    (h : ¬ Listed lists chain) :
    ((revoking lists v).check role chain).value = (v.check role chain).value := by
  rw [check_revoking, Logged.value_bind, checkRevoked_of_not_listed h]

theorem check_revoking_of_found {events : List Event} (v : Validator) (role : Role)
    (h : checkRevoked lists chain = ⟨.error .revoked, events⟩) :
    (revoking lists v).check role chain = ⟨.error .revoked, events⟩ := by
  rw [check_revoking, h]
  apply Logged.ext
  · rfl
  · simp

/-- `v` trusts the issuers of `u` and judges as `u` does, but first refuses all chains with a listed
certificate. -/
structure Guards (lists : List RevocationList) (v u : Validator) : Prop where
  acceptedIssuers : v.acceptedIssuers = u.acceptedIssuers
  revokes_listed : ∀ role chain, Listed lists chain → v.Revokes role chain
  check_unlisted : ∀ role chain, ¬ Listed lists chain →
    (v.check role chain).value = (u.check role chain).value

theorem guards_revoking (lists : List RevocationList) (v : Validator) :
    Guards lists (revoking lists v) v where
  acceptedIssuers := rfl
  revokes_listed role chain h := by
    obtain ⟨before, c, after, -, -, -, hcheck⟩ := checkRevoked_of_listed h
    rw [Revokes, check_revoking_of_found v role hcheck]
  check_unlisted role _ h := check_revoking_of_not_listed v role h

theorem guards_nil (v : Validator) : Guards [] v v where
  acceptedIssuers := rfl
  revokes_listed _ chain h := absurd h (not_listed_nil chain)
  check_unlisted _ _ _ := rfl

theorem guards_of_resolved (lists : List RevocationList) (us : List Validator) :
    List.Forall₂ (Guards lists) (if lists.isEmpty then us else revokingAll lists us) us := by
  by_cases hl : lists = []
  · subst hl
    exact List.forall₂_same.mpr fun v _ => guards_nil v
  · have hne : lists.isEmpty = false := by simpa using hl
    rw [hne, revokingAll]
    exact List.forall₂_map_left_iff.mpr (List.forall₂_same.mpr fun v _ => guards_revoking lists v)

end Validator

/-- The verdict on a chain with a listed certificate, and all that is done before it is reached. -/
theorem checkChain_revokingAll_of_listed {lists : List RevocationList} {chain : List Certificate}
    {us : List Validator} (hus : us ≠ []) (role : Role) (h : Listed lists chain) :
    ∃ before c after, chain = before ++ c :: after ∧ Validator.onSomeList lists c = true ∧
      (∀ d ∈ before, Validator.onSomeList lists d = false) ∧
      checkChain (Validator.revokingAll lists us) role chain =
        ⟨.error .revoked, searchEvents before c⟩ := by
  obtain ⟨before, c, after, hsplit, hc, hbefore, hcheck⟩ := Validator.checkRevoked_of_listed h
  refine ⟨before, c, after, hsplit, hc, hbefore, ?_⟩
  cases us with
  | nil => exact absurd rfl hus
  | cons u us => exact checkChain_cons_revoked _ (Validator.check_revoking_of_found u role hcheck)

/-- Resolved validators stand for the configured ones in their order, and check all configured lists:
a chain with a listed certificate is refused before any configured validator is asked, and of every
other chain the verdict is theirs. -/
theorem trustFor_enforces_revocation {o : Options} {serverName : Option String}
    {vs : List Validator} {lists : List RevocationList}
    (h : (o.trustFor serverName false).outcome = .ok (.validators vs lists)) :
    ∃ us, (o.validatorsFor serverName).outcome = .ok (some us) ∧ o.Configures lists ∧
      vs ≠ [] ∧ vs.length = us.length ∧ List.Forall₂ (Validator.Guards lists) vs us ∧
      ∀ (role : Role) (chain : List Certificate),
        (Listed lists chain →
          ∃ before c after, chain = before ++ c :: after ∧ Validator.onSomeList lists c = true ∧
            (∀ d ∈ before, Validator.onSomeList lists d = false) ∧
            checkChain vs role chain = ⟨.error .revoked, searchEvents before c⟩) ∧
        (¬ Listed lists chain →
          (checkChain vs role chain).value = (checkChain us role chain).value) := by
  obtain ⟨us, hus, hlists, rfl⟩ := Options.trustFor_eq_validators.mp h
  have hne := Options.validatorsFor_ne_nil hus
  have hguards := Validator.guards_of_resolved lists us
  have hlen := hguards.length_eq
  refine ⟨us, hus, hlists, ?_, hlen, hguards, fun role chain => ⟨?_, ?_⟩⟩
  · intro hnil
    rw [hnil] at hlen
    exact hne (List.length_eq_zero_iff.mp hlen.symm)
  · intro hlisted
    have hsome : lists.isEmpty = false := by
      cases lists with
      | nil => exact absurd hlisted (not_listed_nil chain)
      | cons list lists => rfl
    rw [hsome]
    exact checkChain_revokingAll_of_listed hne role hlisted
  · intro hunlisted
    apply checkChain_congr
    exact hguards.imp fun v u hg => hg.check_unlisted role chain hunlisted

/-- A list of a nameless issuer that names the serial number 7. -/
def bareList : RevocationList := ⟨⟨[], [48, 0]⟩, [⟨7, none, false⟩]⟩

def bareListBytes : Bytes :=
  [48, 59, 48, 46, 48, 5, 6, 3, 42, 3, 4, 48, 0, 23, 13, 50, 52, 48, 49, 48, 49, 48, 48, 48, 48, 48,
    48, 90, 48, 20, 48, 18, 2, 1, 7, 23, 13, 50, 52, 48, 49, 48, 49, 48, 48, 48, 48, 48, 48, 90, 48,
    5, 6, 3, 42, 3, 4, 3, 2, 0, 1]

theorem parseAll_bareListBytes : RevocationList.parseAll bareListBytes = .ok [bareList] := by
  cbv

/-- A certificate of the same issuer with nothing but a serial number. -/
def bareCertificate (serial : Int) : Certificate where
  version := 0
  serial := serial
  innerAlgorithm := ⟨[], none⟩
  issuer := ⟨[], [48, 0]⟩
  notBefore := ⟨.utcTime, []⟩
  notAfter := ⟨.utcTime, []⟩
  subject := ⟨[], [48, 0]⟩
  key := ⟨⟨[], none⟩, [], true⟩
  extensions := []
  algorithm := ⟨[], none⟩
  signature := ⟨0, []⟩
  signedPart := []

/-- Options with a validator that accepts every chain, and the list in a file and as a value. -/
def listedTwice : Options where
  engine := .openssl
  sessionCache := false
  keySource := none
  trustSource := some ⟨pure (some [Validator.trustAll]), pure none⟩
  crlPaths := ["list"]
  crlValues := [bareListBytes]
  cipherSuites := []
  protocols := []
  clientAuth := .none
  resources := ⟨id, fun _ => pure (.ok bareListBytes)⟩

private theorem validatorsFor_listedTwice :
    (listedTwice.validatorsFor none).outcome = .ok (some [Validator.trustAll]) := rfl

theorem trustFor_listedTwice :
    (listedTwice.trustFor none false).outcome =
      .ok (.validators (Validator.revokingAll [bareList, bareList] [Validator.trustAll])
        [bareList, bareList]) := by
  refine Options.trustFor_eq_validators.mpr ⟨_, validatorsFor_listedTwice, ?_, rfl⟩
  exact ⟨[[bareList]], [[bareList]], .cons ⟨bareListBytes, rfl, parseAll_bareListBytes⟩ .nil,
    .cons parseAll_bareListBytes .nil, rfl⟩

theorem trustFor_enforces_revocation_listedTwice :
    ∃ vs, (listedTwice.trustFor none false).outcome = .ok (.validators vs [bareList, bareList]) ∧
      (checkChain vs .client [bareCertificate 6, bareCertificate 7]).value = .error .revoked ∧
      (checkChain vs .client [bareCertificate 6]).value = .ok () := by
  refine ⟨_, trustFor_listedTwice, ?_⟩
  obtain ⟨us, hus, -, -, -, -, hchain⟩ := trustFor_enforces_revocation trustFor_listedTwice
  obtain rfl : us = [Validator.trustAll] := by
    rw [validatorsFor_listedTwice] at hus
    simpa using hus.symm
  constructor
  · have hlisted : Listed [bareList, bareList] [bareCertificate 6, bareCertificate 7] :=
      ⟨bareCertificate 7, by simp, bareList, by simp, by decide⟩
    obtain ⟨before, c, after, -, -, -, hcheck⟩ := (hchain .client _).1 hlisted
    rw [hcheck]
  · have hunlisted : ¬ Listed [bareList, bareList] [bareCertificate 6] := by
      simp [Listed, show bareList.isRevoked (bareCertificate 6) = false by decide]
    exact (hchain .client _).2 hunlisted

end TlsSetup
