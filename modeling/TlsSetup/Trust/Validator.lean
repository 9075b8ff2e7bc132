import TlsSetup.Event
import TlsSetup.Role
import TlsSetup.X509.Holder
import TlsSetup.X509.Path

/-!
# Validators

A validator judges the chain that a peer presents, leaf first, and names the issuers that it trusts.
What it does while it judges is part of its answer. `checkChain` asks several validators in order: the
first one that accepts or finds a revoked certificate decides.
-/

namespace TlsSetup

open X509

/-- Judges chains of servers and of clients. -/
structure Validator where
  checkServer : List Certificate → Logged Verdict
  checkClient : List Certificate → Logged Verdict
  acceptedIssuers : List Certificate
  checksRevocation : Bool
  /-- How the validator is shown, if it can be. -/
  description : Option String

namespace Validator

def check (v : Validator) (role : Role) (chain : List Certificate) : Logged Verdict :=
  match role with
  | .client => v.checkServer chain
  | .server => v.checkClient chain

def trustAll : Validator where
  checkServer _ := pure (.ok ())
  checkClient _ := pure (.ok ())
  acceptedIssuers := []
  checksRevocation := false
  description := some "TrustAllValidator"

/-- Accepts a chain whose leaf has a path to one of the anchors. -/
def checkAnchored (now : Instant) (anchors : List Certificate) (chain : List Certificate) :
    Logged Verdict :=
  match chain with
  | [] => pure (.error .emptyChain)
  | leaf :: sent =>
    match Path.verify now anchors leaf sent with
    | .ok () => pure (.ok ())
    | .error fault => do
      Logged.note .trace ("chain rejected by store: " ++ fault.message)
        [("subject", leaf.subjectName)]
      return .error (.rejected fault.message)

/-- Trusts exactly the given anchors, at the instant `now`. -/
def store (now : Instant) (anchors : List Certificate) : Validator where
  checkServer := checkAnchored now anchors
  checkClient := checkAnchored now anchors
  acceptedIssuers := anchors
  checksRevocation := false
  description :=
    some (Text.record "StoreValidator" [("anchors", toString anchors.length)])

/-- Trusts the authorities of the platform, and names none of them. -/
def platform (now : Instant) (authorities : List Certificate) : Validator :=
  { store now authorities with
    acceptedIssuers := []
    description := (store now []).description }

end Validator

/-- What is said of a chain when there is nobody to judge it. -/
def Rejection.noValidator : Rejection := .rejected "no trust validator configured"

/-- Asks the validators in order for the peer of `role`; `first` is the first rejection so far. -/
def checkChainFrom (first : Option Rejection) (role : Role) (chain : List Certificate) :
    List Validator → Logged Verdict
  | [] => pure (.error (first.getD .noValidator))
  | v :: rest => do
    match ← v.check role chain with
    | .ok () => return .ok ()
    | .error .revoked => return .error .revoked
    | .error e => checkChainFrom (some (first.getD e)) role chain rest

/-- Judges a chain: accepted if one validator accepts it, unless one before has found it revoked. -/
def checkChain (validators : List Validator) (role : Role) (chain : List Certificate) :
    Logged Verdict :=
  checkChainFrom none role chain validators

end TlsSetup
