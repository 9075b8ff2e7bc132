import TlsSetup.Bytes

/-!
# The shortest decimal text of a binary number

A binary number of 64 bits is shown by the fewest decimal digits that are read back as the same number,
and among those by the nearest. The digits come from exact arithmetic on the interval of all reals that
round to the number; `Layout` says how they are written.
-/

namespace TlsSetup.Decimal

structure Ratio where
  num : Nat
  den : Nat
  deriving Repr, DecidableEq

namespace Ratio

def le (a b : Ratio) : Bool := a.num * b.den ≤ b.num * a.den

def lt (a b : Ratio) : Bool := a.num * b.den < b.num * a.den

def scaled (m b : Nat) (e : Int) : Ratio :=
  if 0 ≤ e then ⟨m * b ^ e.toNat, 1⟩ else ⟨m, b ^ (-e).toNat⟩

def distance (a b : Ratio) : Ratio :=
  ⟨a.num * b.den - b.num * a.den + (b.num * a.den - a.num * b.den), a.den * b.den⟩

/-- The largest multiple of `10 ^ e` that is not above the number, as a multiple. -/
def floorAt (a : Ratio) (e : Int) : Nat :=
  if 0 ≤ e then a.num / (a.den * 10 ^ e.toNat) else a.num * 10 ^ (-e).toNat / a.den

end Ratio

/-- The number `m * 2 ^ q`, with the reals that round to it. -/
structure Binary where
  m : Nat
  q : Int
  deriving Repr, DecidableEq

namespace Binary

/-- The number with these bits, its sign apart. -/
def ofBits (bits : UInt64) : Binary :=
  let fraction := bits.toNat % 2 ^ 52
  let exponent := bits.toNat / 2 ^ 52 % 2048
  if exponent = 0 then ⟨fraction, -1074⟩ else ⟨2 ^ 52 + fraction, Int.ofNat exponent - 1075⟩

def value (b : Binary) : Ratio := .scaled b.m 2 b.q

def upper (b : Binary) : Ratio := .scaled (2 * b.m + 1) 2 (b.q - 1)

/-- The lower end is nearer where numbers get twice as dense. -/
def lower (b : Binary) : Ratio :=
  if b.m = 2 ^ 52 ∧ -1074 < b.q then .scaled (4 * b.m - 1) 2 (b.q - 2)
  else .scaled (2 * b.m - 1) 2 (b.q - 1)

/-- Whether a real is read as this number; the ends are if `m` is even. -/
def reads (b : Binary) (r : Ratio) : Bool :=
  if b.m % 2 = 0 then b.lower.le r && r.le b.upper else b.lower.lt r && r.lt b.upper

end Binary

/-- The number of decimal places before the point, less one; `fuel` bounds the search. -/
def magnitude (r : Ratio) : Int :=
  Int.ofNat (Nat.toDigits 10 (r.num * 10 ^ 330 / r.den)).length - 331

/-- The digits at `n` places if the number can be read back from them, with the power of ten. Between
two that are equally near, the last digit is even. -/
def atPlaces (b : Binary) (n : Nat) : Option (Nat × Int) :=
  let e := magnitude b.value + 1 - Int.ofNat n
  let below := b.value.floorAt e
  let low := Ratio.scaled below 10 e
  let high := Ratio.scaled (below + 1) 10 e
  match b.reads low && 0 < below, b.reads high with
  | true, true =>
    let up := high.distance b.value
    let down := low.distance b.value
    if up.lt down ∨ (down.lt up = false ∧ below % 2 = 1) then some (below + 1, e)
    else some (below, e)
  | true, false => some (below, e)
  | false, true => some (below + 1, e)
  | false, false => none

def shortest (b : Binary) : Nat × Int :=
  ((List.range 17).findSome? fun n => atPlaces b (n + 1)).getD (b.m, b.q)

def trimmed (digits : List Char) (e : Int) : List Char × Int :=
  let kept := (digits.reverse.dropWhile (· == '0')).reverse
  (kept, e + Int.ofNat (digits.length - kept.length))

/-- How digits are written: positionally if the point falls within these bounds, counted from the
front of the digits, and otherwise with an exponent of a sign and at least `exponentPlaces` digits. -/
structure Layout where
  leastPoint : Int
  mostPoint : Int
  exponentPlaces : Nat
  deriving Repr, DecidableEq

def Layout.write (l : Layout) (digits : List Char) (point : Int) : String :=
  let n := Int.ofNat digits.length
  let zeros (k : Int) : List Char := List.replicate k.toNat '0'
  String.ofList <|
    if l.leastPoint < point ∧ point ≤ l.mostPoint then
      if n ≤ point then digits ++ zeros (point - n) ++ ['.', '0']
      else if 0 < point then digits.take point.toNat ++ '.' :: digits.drop point.toNat
      else '0' :: '.' :: zeros (-point) ++ digits
    else
      let size := Nat.toDigits 10 (point - 1).natAbs
      let sign := if 1 ≤ point then '+' else '-'
      let exponent := 'e' :: sign :: zeros (l.exponentPlaces - size.length) ++ size
      match digits with
      | [] => exponent
      | [d] => d :: exponent
      | d :: more => d :: '.' :: more ++ exponent

/-- The text of the number with these bits, which is finite. -/
def Layout.text (l : Layout) (bits : UInt64) : String :=
  let sign := if 2 ^ 63 ≤ bits.toNat then "-" else ""
  let b := Binary.ofBits bits
  if b.m = 0 then sign ++ "0.0"
  else
    let (d, e) := shortest b
    let (digits, e) := trimmed (Nat.toDigits 10 d) e
    sign ++ l.write digits (Int.ofNat digits.length + e)

end TlsSetup.Decimal
