import TlsSetup.Crypto.Keccak
import TlsSetup.Crypto.Modular

/-!
# The larger Edwards curve

Keys and signatures over the field of `2 ^ 448 - 2 ^ 224 - 1` elements, on the curve
`x² + y² = 1 - 39081x²y²`. Numbers are written with the least significant byte first. A point `(x, y)` is
held as `(xz, yz, z)`.
-/

namespace TlsSetup.Crypto.Edwards448

def p : Nat := 2 ^ 448 - 2 ^ 224 - 1

def order : Nat :=
  2 ^ 446 - 13818066809895115352007386748515426880336692474882178609894547503885

def d : Nat := p - 39081

structure Point where
  x : Nat
  y : Nat
  z : Nat
  deriving Repr, DecidableEq

def neutral : Point := ⟨0, 1, 1⟩

def add (q r : Point) : Point :=
  let a := q.z * r.z % p
  let b := a * a % p
  let c := q.x * r.x % p
  let e := q.y * r.y % p
  let f := d * (c * e % p) % p
  let g := subMod b f p
  let h := (b + f) % p
  let i := subMod (subMod ((q.x + q.y) * (r.x + r.y)) c p) e p
  ⟨a * g % p * i % p, a * h % p * subMod e c p % p, g * h % p⟩

def multiply (n : Nat) (q : Point) : Point :=
  if n = 0 then neutral
  else
    let half := multiply (n / 2) q
    let twice := add half half
    if n % 2 = 1 then add twice q else twice
termination_by n
decreasing_by omega

def base : Point where
  x := 0x4f1970c66bed0ded221d15a622bf36da9e146570470f1767ea6de324a3d3a46412ae1af72ab66511433b80e18b00938e2626a82bc70cc05e
  y := 0x693f46716eb6bc248876203756c9c7624bea73736ca3984087789c1e05a0c2d73ad3ff1ce67c39c4fdbd132c4ed7c8ad9808795bf230fa14
  z := 1

/-- A number whose least significant byte comes first. -/
def littleNat (bs : Bytes) : Nat := Bytes.toNat bs.reverse

def decodePoint? (bs : Bytes) : Option Point := do
  guard (bs.length = 57)
  let n := littleNat bs
  let y := n % 2 ^ 455
  let odd := n / 2 ^ 455 == 1
  guard (y < p)
  let square := subMod (y * y) 1 p * inverseMod (subMod (d * (y * y)) 1 p) p % p
  let root := powMod square ((p + 1) / 4) p
  guard (root * root % p = square ∧ ¬ (root = 0 ∧ odd))
  return ⟨if (root % 2 == 1) == odd then root else p - root, y, 1⟩

def encodePoint (q : Point) : Bytes :=
  let i := inverseMod q.z p
  let x := q.x * i % p
  let y := q.y * i % p
  (Bytes.ofNat 57 (y + (if x % 2 = 1 then 2 ^ 455 else 0))).reverse

def secret (seed : Bytes) : Nat :=
  littleNat ((shake256 114 seed).take 56) % 2 ^ 447 / 4 * 4 + 2 ^ 447

def publicKey (seed : Bytes) : Bytes := encodePoint (multiply (secret seed) base)

/-- What stands before everything that is signed. -/
def preamble : Bytes := Bytes.ofString "SigEd448" ++ [0, 0]

def verify (key signature message : Bytes) : Bool :=
  if signature.length ≠ 114 then false
  else
    let r := signature.take 57
    let s := littleNat (signature.drop 57)
    match decodePoint? key with
    | none => false
    | some a =>
      let k := littleNat (shake256 114 (preamble ++ r ++ key ++ message)) % order
      s < order &&
        encodePoint (add (multiply s base) (multiply k ⟨subMod 0 a.x p, a.y, a.z⟩)) == r

end TlsSetup.Crypto.Edwards448
