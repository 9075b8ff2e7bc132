import TlsSetup.Crypto.Modular

/-!
# Signatures by powers

Keys are powers of a generator modulo a prime, and signatures are pairs of numbers modulo the order of
the generator.
-/

namespace TlsSetup.Crypto

/-- A prime, the order of a generator, and the generator. -/
structure DsaGroup where
  p : Nat
  order : Nat
  generator : Nat
  deriving Repr, DecidableEq

namespace DsaGroup

def publicOf (g : DsaGroup) (secret : Nat) : Nat := powMod g.generator secret g.p

/-- Whether `(r, s)` is a signature of the digest under the public value; only three lengths of orders
are used. -/
def verify (g : DsaGroup) (value r s : Nat) (digest : Bytes) : Bool :=
  let bits := bitLength g.order
  if [160, 224, 256].contains bits && bitLength g.p ≤ 10000 && 0 < r && r < g.order && 0 < s &&
      s < g.order then
    let w := inverseMod s g.order
    let u := Bytes.toNat (digest.take (bits / 8)) * w % g.order
    let v := r * w % g.order
    powMod g.generator u g.p * powMod value v g.p % g.p % g.order == r
  else false

end DsaGroup

end TlsSetup.Crypto
