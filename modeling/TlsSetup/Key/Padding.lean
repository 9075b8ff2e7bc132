import TlsSetup.Crypto.KeyDerivation
import TlsSetup.Crypto.NamedDigest
import TlsSetup.X509.Certificate

/-!
# Padded digests

An RSA signature may hide a salted digest: the digest of message and salt stands at the end, and before
it the salt, covered by bytes that are generated from that digest.
-/

namespace TlsSetup

open Der Crypto X509

/-- The digest of the message, the digest that generates bytes, and the length of the salt. -/
structure Padding where
  digest : NamedDigest
  generator : NamedDigest
  saltLength : Nat

namespace Padding

def oid : Oid := [1, 2, 840, 113549, 1, 1, 10]

/-- The digest that an algorithm names, the usual one if there is none. -/
def digestOf? : Option Algorithm → Option NamedDigest
  | none => some NamedDigest.sha1
  | some a => NamedDigest.ofOid? a.oid

/-- The digest of the generator that an algorithm names. -/
def generatorOf? : Option Algorithm → Option NamedDigest
  | none => some NamedDigest.sha1
  | some a => do
    guard (a.oid = [1, 2, 840, 113549, 1, 1, 8])
    digestOf? (some (← Algorithm.ofElement? (← a.parameters)))

/-- The parameters of an algorithm for padded signatures. -/
def ofAlgorithm? (a : Algorithm) : Option Padding := do
  (← a.parameters).record? do
    let digest ← Fields.wrapped 0 Algorithm.ofElement?
    let generator ← Fields.wrapped 1 Algorithm.ofElement?
    let length ← Fields.wrapped 2 Element.integer?
    let trailer ← Fields.wrapped 3 Element.integer?
    let saltLength := length.getD 20
    guard (0 ≤ saltLength ∧ trailer.getD 1 = 1)
    return ⟨← digestOf? digest, ← generatorOf? generator, saltLength.toNat⟩

/-- How many bits of security the digest of the message is worth; for the usual one, this is a little
more than elsewhere. -/
def strength (p : Padding) : Nat :=
  if p.digest.oid = NamedDigest.sha1.oid then 64 else p.digest.strength

def generate (d : Digest) (seed : Bytes) (length : Nat) : Bytes :=
  ((List.range ((length + d.size - 1) / d.size)).flatMap fun i =>
    d.hash (seed ++ Bytes.ofNat 4 i)).take length

/-- Whether a number of `bits - 1` bits, written in `size` bytes, hides the digest of a message. -/
def holds (p : Padding) (bits : Nat) (whole message : Bytes) : Bool :=
  let d := p.digest.digest
  let spare := (bits - 1) % 8
  let (first, body) := if spare = 0 then (whole.take 1, whole.drop 1) else ([], whole)
  let top : UInt8 := if spare = 0 then 255 else UInt8.ofNat (2 ^ spare - 1)
  if body.length < d.size + p.saltLength + 2 then false
  else
    let coverLength := body.length - d.size - 1
    let covered := body.take coverLength
    let tail := (body.drop coverLength).take d.size
    let cover := generate p.generator.digest tail coverLength
    let plain : Bytes := match xorBytes covered cover with
      | b :: rest => (b &&& top) :: rest
      | [] => []
    let zeros := coverLength - p.saltLength - 1
    let salt := plain.drop (zeros + 1)
    first.all (· == 0) && (body.headD 0 &&& ~~~ top) == 0 && body.getLast? == some 0xBC &&
      (plain.take zeros).all (· == 0) && (plain.drop zeros).head? == some 1 &&
      d.hash (List.replicate 8 0 ++ d.hash message ++ salt) == tail

end Padding

end TlsSetup
