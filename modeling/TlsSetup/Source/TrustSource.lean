import TlsSetup.Key.Identity
import TlsSetup.Source.Basic
import TlsSetup.Source.Material
import TlsSetup.Text.Ascii
import TlsSetup.Trust.Revocation

/-!
# Sources of trust

Validators come from authorities in text form, from the platform, or from a table by server name. The
outcome for one context is `Trust`.
-/

namespace TlsSetup

open X509

abbrev TrustSource := Source (List Validator)

structure PemAnchors where
  certificates : List Material
  loader : Loader
  now : Instant

namespace PemAnchors

def new (env : Environment) : PemAnchors := ⟨[], env.loader, env.now⟩

def add (a : PemAnchors) (m : Material) : PemAnchors :=
  { a with certificates := a.certificates ++ [m] }

def withLoader (a : PemAnchors) (loader : Loader) : PemAnchors := { a with loader }

/-- The authorities in one text, of which there must be one. -/
def parse (bs : Bytes) : Except Error (List Certificate) :=
  match Certificate.listOfPem? bs with
  | none => .error (.parse .trustAnchor)
  | some [] => .error (.parse .noTrustAnchor)
  | some certs => .ok certs

def load (a : PemAnchors) : Attempt (List Certificate) := do
  let lists ← a.certificates.mapM fun m => do
    Attempt.ofExcept (parse (← m.load a.loader))
  return lists.flatten

/-- One validator that trusts all authorities, if there is any text. -/
def source (a : PemAnchors) : TrustSource where
  default :=
    if a.certificates.isEmpty then pure none
    else do return some [Validator.store a.now (← a.load)]
  choice := pure none

end PemAnchors

def TrustSource.system (env : Environment) : TrustSource where
  default := pure (some [Validator.platform env.now env.authorities])
  choice := pure none

/-- Validators by name, and a source to fall back on. -/
structure NamedTrust where
  default : Option TrustSource
  names : List (String × List Validator)

namespace NamedTrust

def empty : NamedTrust := ⟨none, []⟩

def withDefault (t : NamedTrust) (source : TrustSource) : NamedTrust :=
  { t with default := some source }

/-- Sets the validators of a name, whose case does not count. -/
def withName (t : NamedTrust) (name : String) (validators : List Validator) : NamedTrust :=
  let name := Text.lowerAscii name
  { t with names := (name, validators) :: t.names.filter (·.1 != name) }

def source (t : NamedTrust) : TrustSource where
  default :=
    match t.default with
    | some source => source.default
    | none => pure none
  choice := pure (some fun name => pure (t.names.lookup (Text.lowerAscii name)))

def describe (t : NamedTrust) : String :=
  Text.record "SniTrust"
    [("default", Text.truth t.default.isSome),
      ("names", Text.bracketed (t.names.map fun (name, _) => Text.quoted name))]

end NamedTrust

/-- How the peer of one context is judged. -/
inductive Trust where
  | none
  | trustAll (lists : List RevocationList)
  | validators (vs : List Validator) (lists : List RevocationList)

namespace Trust

def isNone : Trust → Bool
  | .none => true
  | _ => false

/-- Who judges the peer, in order. -/
def judges : Trust → List Validator
  | .none => []
  | .trustAll _ => [Validator.trustAll]
  | .validators vs _ => vs

def revocationLists : Trust → List RevocationList
  | .none => []
  | .trustAll lists | .validators _ lists => lists

def acceptedIssuers (t : Trust) : List Certificate := t.judges.flatMap (·.acceptedIssuers)

end Trust

end TlsSetup
