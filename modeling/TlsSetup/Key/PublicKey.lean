import TlsSetup.Crypto.Dsa
import TlsSetup.Crypto.OctetKey
import TlsSetup.Key.CurveChoice
import TlsSetup.Key.Padding

/-!
# Public keys

The keys that certificates hold, how large and how strong they are, and how they are encoded.
-/

namespace TlsSetup

open Der Crypto X509

/-- A key that everybody may know. A `pss` key is an RSA key for padded signatures only. -/
inductive PublicKey where
  | rsa (modulus exponent : Nat)
  | pss (modulus exponent : Nat)
  | dsa (group : DsaGroup) (value : Nat)
  | ec (curve : Curve) (point : Curve.Location)
  | octets (kind : OctetKey) (bytes : Bytes)
  deriving Repr, DecidableEq

namespace PublicKey

def rsaOid : Oid := [1, 2, 840, 113549, 1, 1, 1]

def dsaOid : Oid := [1, 2, 840, 10040, 4, 1]

def ecOid : Oid := [1, 2, 840, 10045, 2, 1]

def bits : PublicKey → Nat
  | .rsa n _ | .pss n _ => bitLength n
  | .dsa g _ => bitLength g.p
  | .ec c _ => bitLength c.order
  | .octets k _ => k.bits

/-- The least lengths of RSA keys with 8, 16, 24, … bits of strength. -/
def rsaLengths : List Nat :=
  [16, 41, 81, 138, 213, 308, 425, 566, 729, 920, 1137, 1383, 1657, 1963, 2301, 2671, 3076, 3514,
    3991, 4502, 5054, 5642, 6274, 6947, 7681, 8418, 9216, 10064, 10953, 11893, 12877, 13914, 15361]

/-- The strength that comes with one of some least lengths, which stand with the strongest first. -/
def strengthBy (steps : List (Nat × Nat)) (length : Nat) : Option Nat :=
  (steps.find? fun (least, _) => least ≤ length).map (·.2)

/-- The strength of a group: that of its prime or of its order, whichever is less. -/
def groupStrength (g : DsaGroup) : Nat :=
  let prime := strengthBy [(15360, 256), (7680, 192), (3072, 128), (2048, 112), (1024, 80)]
    (bitLength g.p)
  let order := bitLength g.order / 2
  if order < 80 then 0 else min order (prime.getD 0)

def strength : PublicKey → Nat
  | .rsa n _ | .pss n _ => 8 * (rsaLengths.filter (· ≤ bitLength n)).length
  | .dsa g _ => groupStrength g
  | .ec c _ =>
    let length := bitLength c.order
    (strengthBy [(512, 256), (384, 192), (256, 128), (224, 112), (160, 80)] length).getD (length / 2)
  | .octets k _ => k.strength

def curve? (a : Algorithm) : Option CurveChoice := do CurveChoice.ofElement? (← a.parameters)

def rsaNumbers? (bits : Bytes) : Option (Nat × Nat) :=
  record? bits do
    let n ← Fields.reading Element.magnitude?
    let e ← Fields.reading Element.magnitude?
    return (n, e)

def group? (e : Element) : Option DsaGroup :=
  e.record? do
    let p ← Fields.reading Element.magnitude?
    let order ← Fields.reading Element.magnitude?
    let generator ← Fields.reading Element.magnitude?
    return ⟨p, order, generator⟩

/-- The parameters of a `pss` key limit its signatures; they may be missing. -/
def hasFitLimits (a : Algorithm) : Bool :=
  a.parameters.isNone || (Padding.ofAlgorithm? a).isSome

def decode? (a : Algorithm) (bits : Bytes) : Option PublicKey :=
  if a.oid = rsaOid then (rsaNumbers? bits).map fun (n, e) => .rsa n e
  else if a.oid = Padding.oid then do
    guard (hasFitLimits a)
    let (n, e) ← rsaNumbers? bits
    return .pss n e
  else if a.oid = dsaOid then do
    let group ← group? (← a.parameters)
    let value ← first? bits Element.integer?
    return .dsa group value.natAbs
  else if a.oid = ecOid then do
    let c := (← curve? a).curve
    return .ec c (← c.location? bits)
  else do
    let kind ← OctetKey.ofOid? a.oid
    if bits.length = kind.size ∧ a.parameters.isNone then return .octets kind bits else none

/-- The contents of the shortest encoding of an algorithm and a key. -/
def contentOf (oid : Oid) (parameters bits : Bytes) : Bytes :=
  encode 48 (encode 6 (oidBytes oid) ++ parameters) ++ encode 3 (0 :: bits)

/-- The contents of the shortest encoding of a key together with its algorithm. A point has both
coordinates; infinity has no such encoding. -/
def content : PublicKey → Bytes
  | .rsa n e =>
    contentOf rsaOid (encode 5 []) (encode 48 (encode 2 (naturalBytes n) ++ encode 2 (naturalBytes e)))
  | .pss n e =>
    contentOf Padding.oid [] (encode 48 (encode 2 (naturalBytes n) ++ encode 2 (naturalBytes e)))
  | .dsa g value =>
    contentOf dsaOid
      (encode 48 ([g.p, g.order, g.generator].flatMap fun n => encode 2 (naturalBytes n)))
      (encode 2 (naturalBytes value))
  | .ec c (some (x, y)) =>
    contentOf ecOid (encode 6 (oidBytes c.oid))
      (4 :: Bytes.ofNat c.size x ++ Bytes.ofNat c.size y)
  | .ec _ none => []
  | .octets kind bytes => contentOf kind.oid [] bytes

end PublicKey

namespace X509.Certificate

def publicKey? (c : Certificate) : Option PublicKey :=
  if c.key.readable then PublicKey.decode? c.key.algorithm c.key.bits else none

/-- Whether the key of a certificate is on a curve that is given by its numbers. -/
def hasSpelledOutCurve (c : Certificate) : Bool :=
  c.key.algorithm.oid == PublicKey.ecOid &&
    (PublicKey.curve? c.key.algorithm).any (·.spelledOut)

end X509.Certificate

end TlsSetup
