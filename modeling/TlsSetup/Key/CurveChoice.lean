import TlsSetup.Codec.Der.Fields
import TlsSetup.Crypto.KnownCurves

/-!
# Choices of a curve

A key says on which curve it is by the curve's name or by all of its numbers. Numbers that belong to a
curve with a name stand for that curve; other curves have no name.
-/

namespace TlsSetup

open Der Crypto

/-- A curve, and whether it was given by its numbers. -/
structure CurveChoice where
  curve : Curve
  spelledOut : Bool
  deriving Repr, DecidableEq

namespace CurveChoice

/-- The most bits of a prime. -/
def fieldLimit : Nat := 661

/-- The prime of a field: an odd number above three. -/
def prime? (e : Element) : Option Nat :=
  e.record? do
    let kind ← Fields.reading Element.oid?
    guard (kind = [1, 2, 840, 10045, 1, 1])
    let p ← Fields.reading Element.integer?
    guard (3 < p ∧ p % 2 = 1 ∧ bitLength p.toNat ≤ fieldLimit)
    return p.toNat

/-- The two coefficients of a curve, which may be followed by the seed that they came from. -/
def coefficients? (e : Element) : Option (Nat × Nat) :=
  e.record? do
    let a ← Fields.reading Element.octets?
    let b ← Fields.reading Element.octets?
    let _ ← Fields.readingIf .bitString Element.bitString?
    return (a.toNat, b.toNat)

/-- The curve that numbers describe: a field, coefficients, a base point and its order, which is not
much larger than the field. -/
def numbers? (e : Element) : Option Curve :=
  e.record? do
    let _ ← Fields.reading Element.small?
    let p ← Fields.reading prime?
    let (a, b) ← Fields.reading coefficients?
    let base ← Fields.reading Element.octets?
    let order ← Fields.reading Element.integer?
    let cofactor ← Fields.readingIf .integer Element.integer?
    guard (0 < order ∧ bitLength order.toNat ≤ bitLength p + 1 ∧ cofactor.all (0 ≤ ·))
    let plain : Curve := ⟨[], p, a % p, b % p, 0, 0, order.toNat⟩
    match plain.location? base with
    | some (some (x, y)) => return { plain with gx := x, gy := y }
    | _ => failure

/-- The curve with these numbers, with its name if it has one. -/
def named (c : Curve) : Curve :=
  (Curve.known.find? fun k => { k with oid := c.oid } == c).getD c

def ofElement? (e : Element) : Option CurveChoice :=
  match e.oid? with
  | some oid => (Curve.ofOid? oid).map fun c => ⟨c, false⟩
  | none => (numbers? e).map fun c => ⟨named c, true⟩

end CurveChoice

end TlsSetup
