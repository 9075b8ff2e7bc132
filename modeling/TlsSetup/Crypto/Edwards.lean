import TlsSetup.Crypto.Digest
import TlsSetup.Crypto.Modular

/-!
# The twisted Edwards curve

Keys and signatures over the field of `2 ^ 255 - 19` elements. Numbers are written with the least
significant byte first. A point `(x, y)` is held as `(xz, yz, z, xyz)`.
-/

namespace TlsSetup.Crypto.Edwards

def p : Nat := 2 ^ 255 - 19

def order : Nat := 2 ^ 252 + 27742317777372353535851937790883648493

/-- The coefficient of the curve `-x² + y² = 1 + dx²y²`. -/
def d : Nat := (p - 121665) * inverseMod 121666 p % p

structure Point where
  x : Nat
  y : Nat
  z : Nat
  t : Nat
  deriving Repr, DecidableEq

def neutral : Point := ⟨0, 1, 1, 0⟩

def add (q r : Point) : Point :=
  let a := subMod q.y q.x p * subMod r.y r.x p % p
  let b := (q.y + q.x) * (r.y + r.x) % p
  let c := 2 * q.t * r.t % p * d % p
  let e := 2 * q.z * r.z % p
  let f := subMod b a p
  let g := subMod e c p
  let h := (e + c) % p
  let i := (b + a) % p
  ⟨f * g % p, h * i % p, g * h % p, f * i % p⟩

def multiply (n : Nat) (q : Point) : Point :=
  if n = 0 then neutral
  else
    let half := multiply (n / 2) q
    let twice := add half half
    if n % 2 = 1 then add twice q else twice
termination_by n
decreasing_by omega

/-- The coordinate `x` of the point with this `y`, with the given parity. -/
def recoverX? (y : Nat) (odd : Bool) : Option Nat :=
  let square := subMod (y * y) 1 p * inverseMod ((d * (y * y) + 1) % p) p % p
  let root := powMod square ((p + 3) / 8) p
  let root := if root * root % p = square then root else root * powMod 2 ((p - 1) / 4) p % p
  if root * root % p ≠ square then none
  else if root = 0 ∧ odd then none
  else some (if (root % 2 == 1) == odd then root else p - root)

/-- A number whose least significant byte comes first. -/
def littleNat (bs : Bytes) : Nat := Bytes.toNat bs.reverse

def decodePoint? (bs : Bytes) : Option Point := do
  guard (bs.length = 32)
  let n := littleNat bs
  let y := n % 2 ^ 255
  guard (y < p)
  let x ← recoverX? y (n / 2 ^ 255 % 2 == 1)
  return ⟨x, y, 1, x * y % p⟩

def encodePoint (q : Point) : Bytes :=
  let i := inverseMod q.z p
  let x := q.x * i % p
  let y := q.y * i % p
  (Bytes.ofNat 32 (y + (if x % 2 = 1 then 2 ^ 255 else 0))).reverse

/-- The base point has `y = 4 / 5` and an even `x`. -/
def base : Point :=
  let y := 4 * inverseMod 5 p % p
  let x := (recoverX? y false).getD 0
  ⟨x, y, 1, x * y % p⟩

/-- The secret factor that a seed stands for. -/
def secret (seed : Bytes) : Nat :=
  let n := littleNat ((sha512.hash seed).take 32)
  n % 2 ^ 254 / 8 * 8 + 2 ^ 254

def publicKey (seed : Bytes) : Bytes := encodePoint (multiply (secret seed) base)

def verify (key signature message : Bytes) : Bool :=
  if signature.length ≠ 64 then false
  else
    let r := signature.take 32
    let s := littleNat (signature.drop 32)
    match decodePoint? key with
    | none => false
    | some a =>
      let k := littleNat (sha512.hash (r ++ key ++ message)) % order
      let minus : Point := ⟨subMod 0 a.x p, a.y, a.z, subMod 0 a.t p⟩
      s < order && encodePoint (add (multiply s base) (multiply k minus)) == r

end TlsSetup.Crypto.Edwards
