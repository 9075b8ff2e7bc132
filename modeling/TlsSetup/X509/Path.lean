import TlsSetup.X509.NameRules

/-!
# Certification paths

A path leads from a certificate to one that is trusted, each certificate issued by the next. It is
first built from names and key identifiers, with trusted issuers before those that the peer sent, and
then judged: as a list of authorities, by its signatures and times from the top down, and by the names
that its authorities may certify. The first fault found is the answer.
-/

namespace TlsSetup.X509

inductive PathFault where
  | noLocalIssuer
  | noIssuer
  | selfSignedLeaf
  | selfSignedInChain
  | tooLong
  | unhandledCritical
  | delegated
  | invalidAuthority
  | unspecified
  | spelledOutCurve
  | pathLength
  | leafSignature
  | noCertificateSigning
  | undecodableKey
  | badSignature
  | notBeforeFormat
  | notAfterFormat
  | notYetValid
  | expired
  | name (fault : NameFault)
  deriving Repr, DecidableEq

def NameFault.message : NameFault → String
  | .permitted => "permitted subtree violation"
  | .excluded => "excluded subtree violation"
  | .bounds => "name constraints minimum and maximum not supported"
  | .type => "unsupported name constraint type"
  | .form => "unsupported or invalid name syntax"

def PathFault.message : PathFault → String
  | .noLocalIssuer => "unable to get local issuer certificate"
  | .noIssuer => "unable to get issuer certificate"
  | .selfSignedLeaf => "self-signed certificate"
  | .selfSignedInChain => "self-signed certificate in certificate chain"
  | .tooLong => "certificate chain too long"
  | .unhandledCritical => "unhandled critical extension"
  | .delegated => "proxy certificates not allowed, please set the appropriate flag"
  | .invalidAuthority => "invalid CA certificate"
  | .unspecified => "unspecified certificate verification error"
  | .spelledOutCurve => "Certificate public key has explicit ECC parameters"
  | .pathLength => "path length constraint exceeded"
  | .leafSignature => "unable to verify the first certificate"
  | .noCertificateSigning => "key usage does not include certificate signing"
  | .undecodableKey => "unable to decode issuer public key"
  | .badSignature => "certificate signature failure"
  | .notBeforeFormat => "format error in certificate's notBefore field"
  | .notAfterFormat => "format error in certificate's notAfter field"
  | .notYetValid => "certificate is not yet valid or the system clock is incorrect"
  | .expired => "certificate has expired"
  | .name fault => fault.message

namespace Path

/-- The first fault of a certificate's validity period at an instant. -/
def checkTime (now : Instant) (c : Certificate) : Except PathFault Unit :=
  match Clock.parse? c.notBefore with
  | none => .error .notBeforeFormat
  | some start =>
    if now < start then .error .notYetValid
    else
      match Clock.parse? c.notAfter with
      | none => .error .notAfterFormat
      | some finish => if finish ≤ now then .error .expired else .ok ()

def isCurrent (now : Instant) (c : Certificate) : Bool := (checkTime now c).isOk

/-- Whether `a` is valid longer than `b`; an end that cannot be read is not compared. -/
def outlasts (a b : Certificate) : Bool :=
  match Clock.parse? a.notAfter, Clock.parse? b.notAfter with
  | some x, some y => y < x
  | _, _ => false

/-- The issuer of `c` among some certificates: the first one that is current, or else the one that was
valid longest. -/
def bestIssuer? (now : Instant) (c : Certificate) (candidates : List Certificate) :
    Option Certificate :=
  let issuers := candidates.filter fun i => c.mayBeIssuedBy i
  match issuers.find? (isCurrent now) with
  | some i => some i
  | none =>
    issuers.foldl
      (fun best i =>
        match best with
        | none => some i
        | some b => if outlasts i b then some i else some b)
      none

def limit : Nat := 101

/-- Extends a path whose top is `top` with trusted certificates only, up to one that is
self-signed; `below` holds the other certificates, last one first. -/
def climbTrusted (now : Instant) (anchors : List Certificate) (top : Certificate)
    (below : List Certificate) : Nat → Except PathFault (List Certificate)
  | 0 => .error .tooLong
  | fuel + 1 =>
    match bestIssuer? now top anchors with
    | none => .error .noIssuer
    | some issuer =>
      if issuer.isSelfSigned then .ok (below.reverse ++ [top, issuer])
      else climbTrusted now anchors issuer (top :: below) fuel

/-- The fault of a path whose top has no trusted issuer and none among the peer's certificates. -/
def openEnd (top : Certificate) (below : List Certificate) : PathFault :=
  if top.isSelfSigned then (if below.isEmpty then .selfSignedLeaf else .selfSignedInChain)
  else .noLocalIssuer

/-- Extends a path whose top is `top`: a trusted issuer comes first, and after one only trusted
issuers follow, and the key of the certificate below it must be readable; `sent` are the peer's
certificates that are not in use. A self-signed top counts as trusted only if it is itself an anchor. -/
def climb (now : Instant) (anchors : List Certificate) (top : Certificate)
    (below sent : List Certificate) : Nat → Except PathFault (List Certificate)
  | 0 => .error .tooLong
  | fuel + 1 =>
    let trusted := bestIssuer? now top anchors
    if top.isSelfSigned then
      match trusted with
      | some issuer =>
        if issuer.same top then .ok (below.reverse ++ [issuer])
        else .error (openEnd top below)
      | none => .error (openEnd top below)
    else
      match trusted with
      | some issuer =>
        if top.publicKey?.isNone then .error .unspecified
        else if issuer.isSelfSigned then .ok (below.reverse ++ [top, issuer])
        else climbTrusted now anchors issuer (top :: below) fuel
      | none =>
        let fresh := sent.filter fun c =>
          (top.isSelfIssued && below.isEmpty) ||
            !(top :: below).any fun used => used.same c
        match bestIssuer? now top fresh with
        | some issuer =>
          climb now anchors issuer (top :: below)
            (sent.eraseP fun c => c.same issuer) fuel
        | none => .error (openEnd top below)

/-- A path from `leaf` to a trusted certificate, leaf first. -/
def build (now : Instant) (anchors : List Certificate) (leaf : Certificate)
    (sent : List Certificate) : Except PathFault (List Certificate) :=
  climb now anchors leaf [] sent limit

/-- Judges the certificates above the leaf, lowest first: each is an authority, one that is only
tolerated may stand at the top alone, and `passed` authorities below that are not self-issued stay
within the limits; `first` says that the certificate stands directly above the leaf. -/
def checkAuthorities (first : Bool) (passed : Nat) : List Certificate → Except PathFault Unit
  | [] => .ok ()
  | c :: rest =>
    if c.hasUnhandledCritical then .error .unhandledCritical
    else if c.isDelegated then .error .delegated
    else
      match c.authority? with
      | none => .error .invalidAuthority
      | some own =>
        if own = false ∧ rest ≠ [] then .error .invalidAuthority
        else if c.hasSpelledOutCurve then .error .spelledOutCurve
        else
          let bound := (c.basicConstraints?.getD none).bind (·.pathLength)
          if first = false ∧ bound.any (fun b => b < Int.ofNat passed) then .error .pathLength
          else checkAuthorities false (if c.isSelfIssued then passed else passed + 1) rest

/-- Judges the extensions of a path, leaf first. Below an authority, even the leaf has a key that can
be read, and one whose curve has a name. -/
def checkExtensions : List Certificate → Except PathFault Unit
  | [] => .ok ()
  | leaf :: rest =>
    if leaf.hasUnhandledCritical then .error .unhandledCritical
    else if leaf.isDelegated then .error .delegated
    else if !rest.isEmpty && leaf.publicKey?.isNone then .error .unspecified
    else if !rest.isEmpty && leaf.hasSpelledOutCurve then .error .spelledOutCurve
    else checkAuthorities true 0 rest

def checkSignature (c issuer : Certificate) : Except PathFault Unit :=
  if issuer.refusesSigning then .error .noCertificateSigning
  else
    match issuer.publicKey? with
    | none => .error .undecodableKey
    | some key =>
      if c.algorithm.same c.innerAlgorithm ∧ c.isSignedBy key then .ok () else .error .badSignature

/-- Checks signatures and times below `issuer`; the certificates come top first. -/
def checkLinks (now : Instant) (issuer : Certificate) : List Certificate → Except PathFault Unit
  | [] => .ok ()
  | c :: rest => do
    checkSignature c issuer
    checkTime now c
    checkLinks now c rest

/-- Checks signatures and times from the top down; the signature of a self-signed top adds nothing and
is not looked at. -/
def checkSignatures (now : Instant) (path : List Certificate) : Except PathFault Unit :=
  match path.reverse with
  | [] => .ok ()
  | top :: rest =>
    if top.mayBeIssuedBy top then do
      checkTime now top
      checkLinks now top rest
    else if rest.isEmpty then .error .leafSignature
    else checkLinks now top rest

/-- Checks the names of one certificate against the authorities above it, the highest first. -/
def checkNames (isLeaf : Bool) (c : Certificate) : List Certificate → Except PathFault Unit
  | [] => .ok ()
  | authority :: rest =>
    match authority.nameConstraints?.getD none with
    | none => checkNames isLeaf c rest
    | some nc =>
      match nc.check isLeaf c with
      | .error fault => .error (.name fault)
      | .ok () => checkNames isLeaf c rest

/-- Checks the names of a path whose certificates come top first; `above` are those higher up, the
highest first. Self-issued certificates other than the leaf are passed over. -/
def checkAllNames (above : List Certificate) : List Certificate → Except PathFault Unit
  | [] => .ok ()
  | c :: rest => do
    unless c.isSelfIssued && !rest.isEmpty do
      checkNames rest.isEmpty c above
    checkAllNames (above ++ [c]) rest

/-- Judges a certificate with the certificates that came with it. -/
def verify (now : Instant) (anchors : List Certificate) (leaf : Certificate)
    (sent : List Certificate) : Except PathFault Unit := do
  let path ← build now anchors leaf sent
  checkExtensions path
  checkSignatures now path
  checkAllNames [] path.reverse

end Path

end TlsSetup.X509
