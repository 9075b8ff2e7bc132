import TlsSetup.Key.Signature

/-!
# What a certificate says about itself

The extensions that matter when a path of certificates is judged. An extension that cannot be read or
occurs twice makes the certificate unsound, and an unsound certificate is nobody's issuer.
-/

namespace TlsSetup.X509

open Der

/-- Whether a key belongs to an authority, and how many authorities may follow. -/
structure BasicConstraints where
  isAuthority : Bool
  pathLength : Option Int
  deriving Repr, DecidableEq

/-- By which of its properties the issuer is known. -/
structure AuthorityKey where
  keyId : Option Bytes
  names : Option (List GeneralName)
  serial : Option Int
  deriving Repr, DecidableEq

/-- A set of names and the bounds that must not be used with it. -/
structure Subtree where
  base : GeneralName
  bounded : Bool
  deriving Repr, DecidableEq

/-- The names that an authority may and may not certify. -/
structure NameConstraints where
  permitted : List Subtree
  excluded : List Subtree
  deriving Repr, DecidableEq

namespace Certificate

/-- The value of an extension: `none` if it is unsound, `some none` if it is absent. -/
def extension? {α : Type} (c : Certificate) (oid : Oid) (read : Bytes → Option α) :
    Option (Option α) :=
  match occurrence oid c.extensions with
  | .absent => some none
  | .once value => (read value).map some
  | .repeated => none

def basicConstraints? (c : Certificate) : Option (Option BasicConstraints) :=
  c.extension? [2, 5, 29, 19] fun bs => record? bs do
    let authority ← Fields.readingIf .boolean Element.truth?
    let length ← Fields.readingIf .integer Element.integer?
    guard (length.all (0 ≤ ·))
    return ⟨authority.getD false, length⟩

/-- The bytes of a bit string of which one of the first two is not zero. -/
def usageBits? (bs : Bytes) : Option Bytes := do
  let bits ← first? bs Element.bits?
  if (bits.bytes.take 2).all (· == 0) then none else some bits.bytes

def keyUsage? (c : Certificate) : Option (Option Bytes) := c.extension? [2, 5, 29, 15] usageBits?

def extendedUsage? (c : Certificate) : Option (Option (List Oid)) :=
  c.extension? [2, 5, 29, 37] fun bs => list? bs Element.oid?

def subjectKeyId? (c : Certificate) : Option (Option Bytes) :=
  c.extension? [2, 5, 29, 14] fun bs => first? bs Element.octets?

def authorityKey? (c : Certificate) : Option (Option AuthorityKey) :=
  c.extension? [2, 5, 29, 35] fun bs => record? bs do
    let keyId ← Fields.readingIf (.context 0) Element.string?
    let names ← Fields.readingIf (.context 1) (·.items? GeneralName.ofElement?)
    let serial ← Fields.readingIf (.context 2) fun e => do integer? (← e.primitive?)
    return ⟨keyId, names, serial⟩

def altNames? (c : Certificate) : Option (Option (List GeneralName)) :=
  c.extension? [2, 5, 29, 17] GeneralName.list?

def subtree? (e : Element) : Option Subtree :=
  e.record? do
    let base ← Fields.reading GeneralName.ofElement?
    let least ← Fields.readingIf (.context 0) fun e => do integer? (← e.primitive?)
    let most ← Fields.readingIf (.context 1) fun e => do integer? (← e.primitive?)
    return ⟨base, most.isSome || least.any (· != 0)⟩

def subtrees? (e : Element) : Option (List Subtree) := e.items? subtree?

def nameConstraints? (c : Certificate) : Option (Option NameConstraints) :=
  c.extension? [2, 5, 29, 30] fun bs => record? bs do
    let permitted ← Fields.readingIf (.context 0) subtrees?
    let excluded ← Fields.readingIf (.context 1) subtrees?
    return ⟨permitted.getD [], excluded.getD []⟩

/-- The first byte of the uses that an older extension allows. -/
def legacyUsage? (c : Certificate) : Option (Option UInt8) :=
  c.extension? [2, 16, 840, 1, 113730, 1, 1] fun bs => do
    return (← first? bs Element.bits?).bytes.headD 0

/-- A place with revocation lists: a full name or the end of one, reasons, and issuers of lists. A
place without a name has at least one issuer. -/
def distributionPoint? (e : Element) : Option Unit := do
  let (place, _, issuers) ← e.record? do
    let place ← Fields.wrapped 0 fun e =>
      if e.tag = .context 0 then (e.items? GeneralName.ofElement?).map fun _ => ()
      else if e.tag = .context 1 then (e.items? Name.attribute?).map fun _ => ()
      else none
    let reasons ← Fields.readingIf (.context 1) Element.bitString?
    let issuers ← Fields.readingIf (.context 2) (·.items? GeneralName.ofElement?)
    return (place, reasons, issuers.getD [])
  guard (place.isSome || !issuers.isEmpty)

def distributionPoints? (c : Certificate) : Option (Option (List Unit)) :=
  c.extension? [2, 5, 29, 31] fun bs => list? bs distributionPoint?

/-- Whether the holder of an ordinary certificate speaks through this one, with the rules for that. -/
def delegation? (c : Certificate) : Option (Option Unit) :=
  c.extension? [1, 3, 6, 1, 5, 5, 7, 1, 14] fun bs => record? bs do
    let _ ← Fields.readingIf .integer Element.integer?
    let _ ← Fields.reading (·.record? do
      let _ ← Fields.reading Element.oid?
      let _ ← Fields.readingIf .octetString Element.octets?)

def isDelegated (c : Certificate) : Bool := c.delegation? matches some (some _)

/-- Whether a certificate is said to belong to an authority. -/
def claimsAuthority (c : Certificate) : Bool :=
  match c.basicConstraints? with
  | some (some b) => b.isAuthority
  | _ => false

def hasOtherNames (c : Certificate) : Bool :=
  c.extensions.any fun e => e.oid == [2, 5, 29, 17] || e.oid == [2, 5, 29, 18]

/-- Whether all extensions can be read, and a delegated certificate is neither an authority's nor has
other names. -/
def isSound (c : Certificate) : Bool :=
  c.basicConstraints?.isSome && c.keyUsage?.isSome && c.extendedUsage?.isSome &&
    c.subjectKeyId?.isSome && c.authorityKey?.isSome && c.altNames?.isSome &&
    c.nameConstraints?.isSome && c.legacyUsage?.isSome && c.distributionPoints?.isSome &&
    c.delegation?.isSome && !(c.isDelegated && (c.claimsAuthority || c.hasOtherNames))

def isSelfIssued (c : Certificate) : Bool := c.subject.same c.issuer

/-- Whether the key may not sign certificates because of its declared use. -/
def refusesSigning (c : Certificate) : Bool :=
  match c.keyUsage? with
  | some (some bits) => (bits.headD 0).toNat / 4 % 2 == 0
  | _ => false

/-- Whether what `k` says of the issuer holds of `c`. -/
def AuthorityKey.agrees (k : AuthorityKey) (c : Certificate) : Bool :=
  (match k.keyId, c.subjectKeyId? with
    | some a, some (some b) => a == b
    | _, _ => true) &&
    k.serial.all (· == c.serial) &&
    match (k.names.getD []).findSome? fun
        | .directory name => some name
        | _ => none with
    | some name => name.same c.issuer
    | none => true

/-- Whether `c` may have been issued by the holder of `issuer`, its signature apart. -/
def mayBeIssuedBy (c issuer : Certificate) : Bool :=
  issuer.subject.same c.issuer && issuer.isSound && c.isSound &&
    (match c.authorityKey? with
      | some (some k) => AuthorityKey.agrees k issuer
      | _ => true) &&
    match SignatureScheme.ofAlgorithm? c.innerAlgorithm, issuer.publicKey? with
    | some scheme, some key => scheme.fits key
    | _, _ => false

/-- Whether `c` presents itself as its own issuer; its signature is not looked at. -/
def isSelfSigned (c : Certificate) : Bool := c.isSelfIssued && c.mayBeIssuedBy c

def understood : List Oid :=
  [[2, 16, 840, 1, 113730, 1, 1], [2, 5, 29, 15], [2, 5, 29, 17], [2, 5, 29, 19], [2, 5, 29, 32],
    [2, 5, 29, 31], [2, 5, 29, 37], [1, 3, 6, 1, 5, 5, 7, 1, 7], [1, 3, 6, 1, 5, 5, 7, 1, 8],
    [2, 5, 29, 36], [1, 3, 6, 1, 5, 5, 7, 1, 14], [2, 5, 29, 30], [2, 5, 29, 33], [2, 5, 29, 54]]

def hasUnhandledCritical (c : Certificate) : Bool :=
  c.extensions.any fun e => e.critical && !understood.contains e.oid

/-- Whether an older extension says that the key belongs to an authority. -/
def legacyAuthority (c : Certificate) : Bool :=
  match c.legacyUsage? with
  | some (some bits) => bits.toNat % 8 != 0
  | _ => false

/-- Whether a certificate may stand above another one in a path: `some true` if it says so itself,
`some false` if it is only tolerated at the top. -/
def authority? (c : Certificate) : Option Bool :=
  if c.refusesSigning then none
  else
    match c.basicConstraints? with
    | some (some b) => if b.isAuthority then some true else none
    | _ =>
      if c.version = 0 ∧ c.isSelfSigned then some false
      else if c.keyUsage? matches some (some _) then some false
      else if c.legacyAuthority then some false
      else none

end Certificate

end TlsSetup.X509
