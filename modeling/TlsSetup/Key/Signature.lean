import TlsSetup.Key.PublicKey

/-!
# Signatures

How signatures are made and with which keys they are checked.
-/

namespace TlsSetup

open Der Crypto X509

/-- How a signature is made. The digest of the message may be one that is not computed here, and for
curves one that goes without saying; padding may have parameters that cannot be read. -/
inductive SignatureScheme where
  | rsa (digest : Option NamedDigest)
  | padded (padding : Option Padding)
  | dsa (digest : Option NamedDigest)
  | ecdsa (digest : Option NamedDigest)
  | octets (kind : OctetKey)
  /-- A scheme that fits no key here, with its strength. -/
  | foreign (strength : Nat)

namespace SignatureScheme

/-- The schemes that are named with their digests. -/
def named : List (Oid × SignatureScheme) :=
  let pkcs (n : Nat) : Oid := [1, 2, 840, 113549, 1, 1, n]
  let oiw (n : Nat) : Oid := [1, 3, 14, 3, 2, n]
  let nist (n : Nat) : Oid := [2, 16, 840, 1, 101, 3, 4, 3, n]
  let ecdsa (n : Nat) : Oid := [1, 2, 840, 10045, 4, 3, n]
  [(pkcs 2, .rsa none), (pkcs 3, .rsa none), (pkcs 4, .rsa NamedDigest.md5),
    (pkcs 5, .rsa NamedDigest.sha1), (pkcs 11, .rsa NamedDigest.sha256),
    (pkcs 12, .rsa NamedDigest.sha384), (pkcs 13, .rsa NamedDigest.sha512),
    (pkcs 14, .rsa NamedDigest.sha224), (oiw 3, .rsa NamedDigest.md5), (oiw 15, .rsa none),
    (oiw 29, .rsa NamedDigest.sha1), ([2, 5, 8, 3, 100], .rsa none),
    ([1, 3, 36, 3, 3, 1, 2], .rsa NamedDigest.ripemd160), (oiw 13, .dsa none),
    ([1, 2, 840, 10040, 4, 3], .dsa NamedDigest.sha1), (nist 1, .dsa NamedDigest.sha224),
    (nist 2, .dsa NamedDigest.sha256), ([1, 2, 840, 10045, 4, 1], .ecdsa NamedDigest.sha1),
    ([1, 2, 840, 10045, 4, 2], .ecdsa none), ([1, 2, 840, 10045, 4, 3], .ecdsa none),
    (ecdsa 1, .ecdsa NamedDigest.sha224), (ecdsa 2, .ecdsa NamedDigest.sha256),
    (ecdsa 3, .ecdsa NamedDigest.sha384), (ecdsa 4, .ecdsa NamedDigest.sha512),
    ([1, 2, 156, 10197, 1, 501], .foreign 128)] ++
    (NamedDigest.sponges.zipIdx 13).map (fun (d, n) => (nist n, .rsa d)) ++
    ((OctetKey.all.filter OctetKey.canSign).map fun k => (k.oid, .octets k)) ++
    [11, 14].flatMap fun family =>
      [112, 128, 192, 256].zipIdx.map fun (strength, n) =>
        ([1, 3, 132, 1, family, n], .foreign strength)

def ofAlgorithm? (a : Algorithm) : Option SignatureScheme :=
  if a.oid = Padding.oid then some (.padded (Padding.ofAlgorithm? a))
  else (named.find? fun (oid, _) => oid == a.oid).map (·.2)

/-- The strength in bits of a scheme in a certificate with this key: where the scheme does not tell, it
is as strong as the key. -/
def strength (scheme : SignatureScheme) (key : Option PublicKey) : Nat :=
  let own := (key.map PublicKey.strength).getD 0
  match scheme with
  | .rsa digest | .dsa digest => (digest.map (·.strength)).getD 0
  | .ecdsa digest => (digest.map (·.strength)).getD own
  | .padded padding => (padding.map Padding.strength).getD own
  | .octets kind => kind.strength
  | .foreign strength => strength

def fits (scheme : SignatureScheme) (key : PublicKey) : Bool :=
  match scheme, key with
  | .rsa _, .rsa _ _ | .padded _, .rsa _ _ | .padded _, .pss _ _ => true
  | .dsa _, .dsa _ _ => true
  | .ecdsa _, .ec c _ => c != Curve.sm2
  | .octets a, .octets b _ => a == b
  | _, _ => false

/-- The padded form of a digest that an RSA signature of `size` bytes hides. -/
def rsaMessage (oid : Oid) (digest : Bytes) (size : Nat) : Bytes :=
  let algorithm := encode 48 (encode 6 (oidBytes oid) ++ encode 5 [])
  let info := encode 48 (algorithm ++ encode 4 digest)
  0 :: 1 :: List.replicate (size - info.length - 3) 255 ++ 0 :: info

def encodePair (r s : Nat) : Bytes :=
  encode 48 (encode 2 (naturalBytes r) ++ encode 2 (naturalBytes s))

/-- The two numbers of a signature, which has no other form than this one. -/
def pair? (signature : Bytes) : Option (Nat × Nat) := do
  let (r, s) ← record? signature do
    let r ← Fields.reading Element.magnitude?
    let s ← Fields.reading Element.magnitude?
    return (r, s)
  if encodePair r s = signature then some (r, s) else none

/-- What an RSA signature hides, in as many bytes as the modulus has; keys with strange exponents are
not used. -/
def rsaOpen? (n e : Nat) (signature : Bytes) : Option Bytes :=
  let bits := bitLength n
  if signature.toNat < n ∧ signature.length ≤ (bits + 7) / 8 ∧ bits ≤ 16384 ∧ e < n ∧
      (bits ≤ 3072 ∨ bitLength e ≤ 64) then
    some (Bytes.ofNat ((bits + 7) / 8) (powMod signature.toNat e n))
  else none

def verifyPadded (p : Padding) (n e : Nat) (signature message : Bytes) : Bool :=
  (rsaOpen? n e signature).any fun whole => p.holds (bitLength n) whole message

def verify (scheme : SignatureScheme) (key : PublicKey) (signature message : Bytes) : Bool :=
  match scheme, key with
  | .rsa (some d), .rsa n e =>
    let size := (bitLength n + 7) / 8
    signature.length == size &&
      rsaOpen? n e signature == some (rsaMessage d.oid (d.digest.hash message) size)
  | .padded (some p), .rsa n e | .padded (some p), .pss n e => verifyPadded p n e signature message
  | .dsa (some d), .dsa g value =>
    match pair? signature with
    | some (r, s) => g.verify value r s (d.digest.hash message)
    | none => false
  | .ecdsa (some d), .ec c (some (x, y)) =>
    match pair? signature with
    | some (r, s) => c.verify x y r s (d.digest.hash message)
    | none => false
  | .octets kind, .octets own bytes => kind == own && kind.verify bytes signature message
  | _, _ => false

end SignatureScheme

def X509.Certificate.isSignedBy (c : Certificate) (key : PublicKey) : Bool :=
  match SignatureScheme.ofAlgorithm? c.algorithm with
  | some scheme => c.signature.unused == 0 && scheme.verify key c.signature.bytes c.signedPart
  | none => false

end TlsSetup
