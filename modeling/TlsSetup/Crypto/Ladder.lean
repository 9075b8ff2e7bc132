import TlsSetup.Crypto.Modular

/-!
# Multiples by a ladder

Curves `y² = x³ + ax² + x` of which only the coordinate `x` of a point is used. A multiple is computed
from the binary digits of its factor, the highest first, with two multiples whose difference is the
point itself. Numbers are written with the least significant byte first.
-/

namespace TlsSetup.Crypto

/-- A curve: the field, the number `(a - 2) / 4`, the base point, and the length of a number. -/
structure Ladder where
  p : Nat
  factor : Nat
  base : Nat
  size : Nat

namespace Ladder

/-- The curve over the field of `2 ^ 255 - 19` elements. -/
def x25519 : Ladder := ⟨2 ^ 255 - 19, 121665, 9, 32⟩

/-- The curve over the field of `2 ^ 448 - 2 ^ 224 - 1` elements. -/
def x448 : Ladder := ⟨2 ^ 448 - 2 ^ 224 - 1, 39081, 5, 56⟩

structure Fraction where
  x : Nat
  z : Nat

/-- Twice `q`, and the sum of `q` and `r`, whose difference is `u`. -/
def step (c : Ladder) (u : Nat) (q r : Fraction) : Fraction × Fraction :=
  let sum := q.x + q.z
  let difference := subMod q.x q.z c.p
  let aa := sum * sum % c.p
  let bb := difference * difference % c.p
  let e := subMod aa bb c.p
  let da := subMod r.x r.z c.p * sum % c.p
  let cb := (r.x + r.z) * difference % c.p
  let minus := subMod da cb c.p
  (⟨aa * bb % c.p, e * (aa + c.factor * e) % c.p⟩,
    ⟨(da + cb) * (da + cb) % c.p, u * (minus * minus % c.p) % c.p⟩)

/-- Goes through the lowest `n` digits of `k`. -/
def climb (c : Ladder) (u k : Nat) (q r : Fraction) : Nat → Fraction
  | 0 => q
  | n + 1 =>
    if k.testBit n then
      let (r, q) := c.step u r q
      climb c u k q r n
    else
      let (q, r) := c.step u q r
      climb c u k q r n

def multiple (c : Ladder) (k : Nat) : Nat :=
  let q := c.climb c.base k ⟨1, 0⟩ ⟨c.base, 1⟩ (8 * c.size)
  q.x * inverseMod q.z c.p % c.p

/-- The factor that a byte string stands for: its highest bit counts as set, the bits above it and
those below the cofactor as unset. -/
def factorOf (c : Ladder) (secret : Bytes) : Nat :=
  let n := Bytes.toNat secret.reverse
  if c.size = 32 then n % 2 ^ 254 / 8 * 8 + 2 ^ 254 else n % 2 ^ 447 / 4 * 4 + 2 ^ 447

def publicKey (c : Ladder) (secret : Bytes) : Bytes :=
  (Bytes.ofNat c.size (c.multiple (c.factorOf secret))).reverse

end Ladder

end TlsSetup.Crypto
