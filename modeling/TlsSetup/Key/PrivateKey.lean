import TlsSetup.Codec.Pem.Armor
import TlsSetup.Key.PublicKey

/-!
# Private keys

The secret halves of keys and the forms in which they are stored. A private key determines its
public key, except that a curve key may bring the public key with it.
-/

namespace TlsSetup

open Der Crypto X509

/-- The numbers of an RSA key as they were stored, whether or not they fit together. A `plain` key has
two primes. -/
structure RsaNumbers where
  modulus : Nat
  exponent : Nat
  secret : Nat
  prime1 : Nat
  prime2 : Nat
  exponent1 : Nat
  exponent2 : Nat
  coefficient : Nat
  plain : Bool
  deriving Repr, DecidableEq

/-- A key that only its holder knows. A curve key is `portable` if it was stored in the first version
with the name of its curve and both coordinates of its point. -/
inductive PrivateKey where
  | rsa (numbers : RsaNumbers)
  | pss (numbers : RsaNumbers)
  | dsa (group : DsaGroup) (value secret : Nat)
  | ec (curve : Curve) (secret : Nat) (point : Curve.Location) (portable : Bool)
  | octets (kind : OctetKey) (secret : Bytes)
  deriving Repr, DecidableEq

namespace PrivateKey

def publicKey : PrivateKey → PublicKey
  | .rsa k => .rsa k.modulus k.exponent
  | .pss k => .pss k.modulus k.exponent
  | .dsa group value _ => .dsa group value
  | .ec c _ point _ => .ec c point
  | .octets kind secret => .octets kind (kind.publicKey secret)

/-- One more prime of an RSA key, with two numbers that follow from it. -/
def furtherPrime? (e : Element) : Option Nat :=
  e.record? do
    let prime ← Fields.reading Element.magnitude?
    let _ ← Fields.reading Element.magnitude?
    let _ ← Fields.reading Element.magnitude?
    return prime

/-- The numbers of an RSA key: version, modulus, both exponents, and five that follow from them. Keys
of version 1 have more than two primes. -/
def rsaNumbers? (bs : Bytes) : Option RsaNumbers :=
  record? bs do
    let version ← Fields.reading Element.small?
    let modulus ← Fields.reading Element.magnitude?
    let exponent ← Fields.reading Element.magnitude?
    let secret ← Fields.reading Element.magnitude?
    let prime1 ← Fields.reading Element.magnitude?
    let prime2 ← Fields.reading Element.magnitude?
    let exponent1 ← Fields.reading Element.magnitude?
    let exponent2 ← Fields.reading Element.magnitude?
    let coefficient ← Fields.reading Element.magnitude?
    let further ← Fields.readingIf .sequence (·.items? furtherPrime?)
    guard (version = 1 → further.any (!·.isEmpty))
    return {
      modulus, exponent, secret, prime1, prime2, exponent1, exponent2, coefficient
      plain := version == 0 && further.isNone }

/-- A key of powers: version, group, public value and secret number. -/
def dsaKey? (bs : Bytes) : Option PrivateKey :=
  record? bs do
    let _ ← Fields.reading Element.small?
    let p ← Fields.reading Element.magnitude?
    let order ← Fields.reading Element.magnitude?
    let generator ← Fields.reading Element.magnitude?
    let value ← Fields.reading Element.magnitude?
    let secret ← Fields.reading Element.magnitude?
    return .dsa ⟨p, order, generator⟩ value secret

/-- The key with a secret number in a group that is known from elsewhere. -/
def powerOf? (group : DsaGroup) (bs : Bytes) : Option PrivateKey := do
  let secret ← first? bs Element.integer?
  guard (0 ≤ secret ∧ group.p % 2 = 1)
  return .dsa group (group.publicOf secret.toNat) secret.toNat

/-- A curve key: version, secret number, curve and public key, of which the last two may be missing;
`outer` is the curve that is known from elsewhere. -/
def curveKey? (outer : Option CurveChoice) (bs : Bytes) : Option PrivateKey := do
  let (version, secret, inner, bits) ← record? bs do
    let version ← Fields.reading Element.small?
    let secret ← Fields.reading Element.octets?
    let inner ← Fields.wrapped 0 CurveChoice.ofElement?
    let bits ← Fields.wrapped 1 Element.bits?
    return (version, Bytes.toNat secret, inner, bits)
  let choice ← inner <|> outer
  let curve := choice.curve
  match bits with
  | some bits =>
    let portable := version == 1 && bits.bytes.head? == some 4 && !choice.spelledOut
    return .ec curve secret (← curve.location? bits.bytes) portable
  | none => return .ec curve secret (curve.publicOf secret) false

/-- A secret in a byte string of its own. -/
def octets? (kind : OctetKey) (bs : Bytes) : Option PrivateKey := do
  let secret ← first? bs Element.octets?
  if secret.length = kind.size then some (.octets kind secret) else none

/-- Something that is noted beside a stored key: its kind and its values. -/
structure Property where
  kind : Oid
  values : List Element
  deriving Repr, DecidableEq

def Property.ofElement? (e : Element) : Option Property :=
  e.record? do
    let kind ← Fields.reading Element.oid?
    let values ← Fields.reading (·.set? Element.open?)
    return ⟨kind, values⟩

structure Wrapped where
  algorithm : Algorithm
  contents : Bytes
  deriving Repr, DecidableEq

/-- Reads a key that is stored with its algorithm; only version 1 may bring the public key. -/
def Wrapped.ofElement? (e : Element) : Option Wrapped :=
  e.record? do
    let version ← Fields.reading Element.integer?
    let algorithm ← Fields.reading Algorithm.ofElement?
    let contents ← Fields.reading Element.octets?
    let _ ← Fields.readingIf (.context 0) (·.items? Property.ofElement?)
    let point ← Fields.readingIf (.context 1) Element.bitString?
    guard (version = 1 ∨ (version = 0 ∧ point.isNone))
    return ⟨algorithm, contents⟩

def Wrapped.key? (w : Wrapped) : Option PrivateKey :=
  let oid := w.algorithm.oid
  if oid = PublicKey.rsaOid then (rsaNumbers? w.contents).map .rsa
  else if oid = Padding.oid then do
    guard (PublicKey.hasFitLimits w.algorithm)
    return .pss (← rsaNumbers? w.contents)
  else if oid = PublicKey.dsaOid then do
    powerOf? (← PublicKey.group? (← w.algorithm.parameters)) w.contents
  else if oid = PublicKey.ecOid then do
    let choice ← PublicKey.curve? w.algorithm
    curveKey? (some choice) w.contents
  else do
    guard w.algorithm.parameters.isNone
    octets? (← OctetKey.ofOid? oid) w.contents

def ofPkcs8? (bs : Bytes) : Option PrivateKey := first? bs Wrapped.ofElement? >>= Wrapped.key?

/-- Whether a key is on the curve whose keys are used by other rules. -/
def isOnSm2 (k : PrivateKey) : Bool :=
  match k with
  | .ec c _ _ _ => c == Curve.sm2
  | _ => false

def isRsa (k : PrivateKey) : Bool := k matches .rsa _

def isDsa (k : PrivateKey) : Bool := k matches .dsa _ _ _

def isEc (k : PrivateKey) : Bool := k matches .ec _ _ _ _

def rsa? (bs : Bytes) : Option PrivateKey :=
  (rsaNumbers? bs).map .rsa <|> (ofPkcs8? bs).filter isRsa

def dsa? (bs : Bytes) : Option PrivateKey := dsaKey? bs <|> (ofPkcs8? bs).filter isDsa

def ec? (bs : Bytes) : Option PrivateKey := curveKey? none bs <|> (ofPkcs8? bs).filter isEc

/-- The key in a block whose label is exactly one of those that can hold one. -/
def ofArmor? (block : Pem.Armor) : Option PrivateKey :=
  let labelled (names : List String) : Bool := names.any fun s => Bytes.ofString s == block.label
  if labelled ["PRIVATE KEY", "ENCRYPTED PRIVATE KEY"] then ofPkcs8? block.contents
  else if labelled ["RSA PRIVATE KEY", "RSA PUBLIC KEY"] then rsa? block.contents
  else if labelled ["DSA PRIVATE KEY", "DSA PUBLIC KEY", "DSA PARAMETERS"] then dsa? block.contents
  else if labelled ["EC PRIVATE KEY", "EC PARAMETERS"] then ec? block.contents
  else none

/-- The longest header that does not count. -/
def headerLimit : Nat := 10

/-- The key in the first block that holds one by its exact label. Malformed blocks do not count, nor do
keys by other rules; the search ends at a block with a long header. -/
def search? : List (Option Pem.Armor) → Option PrivateKey
  | [] => none
  | none :: rest => search? rest
  | some block :: rest =>
    if headerLimit < block.header.length then none
    else (ofArmor? block).filter (!·.isOnSm2) <|> search? rest

/-- Reads the contents of a block as a key of the kind that its label names. The case of the kind's
letters does not count; the outer option says whether the label is one for keys. -/
def ofKind? (block : Pem.Armor) : Option (Option PrivateKey) :=
  let bs := block.contents
  let kind := (block.label.take (block.label.length - 12)).map Text.lowerByte
  if block.label = Bytes.ofString "PRIVATE KEY" then some (ofPkcs8? bs)
  else if block.label = Bytes.ofString "ENCRYPTED PRIVATE KEY" then some none
  else if (Bytes.ofString " PRIVATE KEY").isSuffixOf block.label = false then none
  else if kind = Bytes.ofString "rsa" then some (rsa? bs)
  else if kind = Bytes.ofString "ec" then some (ec? bs)
  else if kind = Bytes.ofString "dsa" then some (dsa? bs)
  else none

/-- The key in the first block with a label for keys, which must not have a header; neither it nor one
before it may be malformed. -/
def decide? : List (Option Pem.Armor) → Option PrivateKey
  | [] | none :: _ => none
  | some block :: rest =>
    match ofKind? block with
    | some key => if block.header.isEmpty then key else none
    | none => decide? rest

/-- The private key in a text of blocks: the first one that can be read by its exact label, or else
what the first block for keys holds. -/
def ofPem? (bs : Bytes) : Option PrivateKey :=
  let blocks := Pem.Armor.blocks bs
  search? blocks <|> decide? blocks

end PrivateKey

end TlsSetup
