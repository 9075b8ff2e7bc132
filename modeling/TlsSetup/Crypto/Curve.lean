import TlsSetup.Crypto.Modular
import TlsSetup.Codec.Der.Value

/-!
# Elliptic curves over prime fields

Curves `y² = x³ + ax + b` with a base point of prime order, multiples of points, and signatures by
them. A point is held as three coordinates that stand for `(x / z², y / z³)`, with `z = 0` for the
point at infinity, so that sums need no division.
-/

namespace TlsSetup.Crypto

/-- A curve, its base point `(gx, gy)` and the order of that point. -/
structure Curve where
  oid : Der.Oid
  p : Nat
  a : Nat
  b : Nat
  gx : Nat
  gy : Nat
  order : Nat
  deriving Repr, DecidableEq

namespace Curve

/-- A point by three coordinates. -/
structure Point where
  x : Nat
  y : Nat
  z : Nat
  deriving Repr, DecidableEq

def p256 : Curve where
  oid := [1, 2, 840, 10045, 3, 1, 7]
  p := 0xffffffff00000001000000000000000000000000ffffffffffffffffffffffff
  a := 0xffffffff00000001000000000000000000000000fffffffffffffffffffffffc
  b := 0x5ac635d8aa3a93e7b3ebbd55769886bc651d06b0cc53b0f63bce3c3e27d2604b
  gx := 0x6b17d1f2e12c4247f8bce6e563a440f277037d812deb33a0f4a13945d898c296
  gy := 0x4fe342e2fe1a7f9b8ee7eb4a7c0f9e162bce33576b315ececbb6406837bf51f5
  order := 0xffffffff00000000ffffffffffffffffbce6faada7179e84f3b9cac2fc632551

def p384 : Curve where
  oid := [1, 3, 132, 0, 34]
  p := 2 ^ 384 - 2 ^ 128 - 2 ^ 96 + 2 ^ 32 - 1
  a := 2 ^ 384 - 2 ^ 128 - 2 ^ 96 + 2 ^ 32 - 4
  b := 0xb3312fa7e23ee7e4988e056be3f82d19181d9c6efe8141120314088f5013875ac656398d8a2ed19d2a85c8edd3ec2aef
  gx := 0xaa87ca22be8b05378eb1c71ef320ad746e1d3b628ba79b9859f741e082542a385502f25dbf55296c3a545e3872760ab7
  gy := 0x3617de4a96262c6f5d9e98bf9292dc29f8f41dbd289a147ce9da3113b5f0b8c00a60b1ce1d7e819d7a431d7c90ea0e5f
  order := 0xffffffffffffffffffffffffffffffffffffffffffffffffc7634d81f4372ddf581a0db248b0a77aecec196accc52973

def p521 : Curve where
  oid := [1, 3, 132, 0, 35]
  p := 2 ^ 521 - 1
  a := 2 ^ 521 - 4
  b := 0x051953eb9618e1c9a1f929a21a0b68540eea2da725b99b315f3b8b489918ef109e156193951ec7e937b1652c0bd3bb1bf073573df883d2c34f1ef451fd46b503f00
  gx := 0xc6858e06b70404e9cd9e3ecb662395b4429c648139053fb521f828af606b4d3dbaa14b5e77efe75928fe1dc127a2ffa8de3348b3c1856a429bf97e7e31c2e5bd66
  gy := 0x11839296a789a3bc0045c8a5fb42c7d1bd998f54449579b446817afbd17273e662c97ee72995ef42640c550b9013fad0761353c7086a272c24088be94769fd16650
  order := 0x1fffffffffffffffffffffffffffffffffffffffffffffffffffffffffffffffffa51868783bf2f966b7fcc0148f709a5d03bb5c9b8899c47aebb6fb71e91386409

def bits (c : Curve) : Nat := bitLength c.p

def size (c : Curve) : Nat := (c.bits + 7) / 8

/-- The coordinates of a point; the point at infinity has none. -/
abbrev Location := Option (Nat × Nat)

def infinity : Point := ⟨1, 1, 0⟩

def base (c : Curve) : Point := ⟨c.gx, c.gy, 1⟩

def double (c : Curve) (q : Point) : Point :=
  if q.z = 0 ∨ q.y = 0 then infinity
  else
    let yy := q.y * q.y % c.p
    let zz := q.z * q.z % c.p
    let s := 4 * q.x * yy % c.p
    let m := (3 * q.x * q.x + c.a * (zz * zz % c.p)) % c.p
    let x := subMod (m * m) (2 * s % c.p) c.p
    let y := subMod (m * subMod s x c.p) (8 * yy * yy % c.p) c.p
    ⟨x, y, 2 * q.y * q.z % c.p⟩

def add (c : Curve) (q r : Point) : Point :=
  if q.z = 0 then r
  else if r.z = 0 then q
  else
    let qzz := q.z * q.z % c.p
    let rzz := r.z * r.z % c.p
    let u1 := q.x * rzz % c.p
    let u2 := r.x * qzz % c.p
    let s1 := q.y * (rzz * r.z % c.p) % c.p
    let s2 := r.y * (qzz * q.z % c.p) % c.p
    if u1 = u2 then (if s1 = s2 then c.double q else infinity)
    else
      let h := subMod u2 u1 c.p
      let d := subMod s2 s1 c.p
      let hh := h * h % c.p
      let hhh := h * hh % c.p
      let v := u1 * hh % c.p
      let x := subMod (subMod (d * d) hhh c.p) (2 * v % c.p) c.p
      let y := subMod (d * subMod v x c.p) (s1 * hhh % c.p) c.p
      ⟨x, y, h * q.z % c.p * r.z % c.p⟩

/-- The `n`-fold of a point, by the binary digits of `n`. -/
def multiply (c : Curve) (n : Nat) (q : Point) : Point :=
  if n = 0 then infinity
  else
    let half := c.double (c.multiply (n / 2) q)
    if n % 2 = 1 then c.add half q else half
termination_by n
decreasing_by omega

def locate (c : Curve) (q : Point) : Location :=
  if q.z = 0 then none
  else
    let i := inverseMod q.z c.p
    let ii := i * i % c.p
    some (q.x * ii % c.p, q.y * (ii * i % c.p) % c.p)

def isOn (c : Curve) (x y : Nat) : Bool :=
  x < c.p && y < c.p && y * y % c.p == (x * x * x + c.a * x + c.b) % c.p

/-- The point that a byte string stands for: a single zero for infinity, both coordinates, or one and a
bit of the other. -/
def location? (c : Curve) (bs : Bytes) : Option Location :=
  match bs with
  | [] => none
  | [0] => some none
  | form :: rest =>
    let x := Bytes.toNat (rest.take c.size)
    if (form = 4 ∨ form = 6 ∨ form = 7) ∧ rest.length = 2 * c.size then
      let y := Bytes.toNat (rest.drop c.size)
      if c.isOn x y ∧ (form = 4 ∨ form.toNat % 2 = y % 2) then some (some (x, y)) else none
    else if (form = 2 ∨ form = 3) ∧ rest.length = c.size then
      let root := rootMod ((x * x * x + c.a * x + c.b) % c.p) c.p
      let y := if root % 2 = form.toNat % 2 then root else c.p - root
      if c.isOn x y then some (some (x, y)) else none
    else none

/-- The point that belongs to a secret number. -/
def publicOf (c : Curve) (secret : Nat) : Location := c.locate (c.multiply secret c.base)

/-- The number that a digest stands for: its first bits, as many as the order has. -/
def digestNumber (c : Curve) (digest : Bytes) : Nat :=
  digest.toNat / 2 ^ (digest.length * 8 - bitLength c.order)

/-- Whether `(r, s)` is a signature of the digest under the key `(x, y)`. -/
def verify (c : Curve) (x y r s : Nat) (digest : Bytes) : Bool :=
  if 0 < r ∧ r < c.order ∧ 0 < s ∧ s < c.order then
    let w := inverseMod s c.order
    let u := c.digestNumber digest * w % c.order
    let v := r * w % c.order
    match c.locate (c.add (c.multiply u c.base) (c.multiply v ⟨x, y, 1⟩)) with
    | none => false
    | some (px, _) => px % c.order == r
  else false

end Curve

end TlsSetup.Crypto
