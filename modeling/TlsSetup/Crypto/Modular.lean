import TlsSetup.Bytes

/-!
# Arithmetic modulo a number

Powers, inverses and square roots modulo a prime, and differences that do not become negative.
-/

namespace TlsSetup.Crypto

/-- `base ^ exponent` modulo `m`. -/
def powMod (base exponent m : Nat) : Nat :=
  if exponent = 0 then 1 % m
  else
    let half := powMod (base * base % m) (exponent / 2) m
    if exponent % 2 = 1 then half * base % m else half
termination_by exponent
decreasing_by omega

theorem powMod_eq (base exponent m : Nat) : powMod base exponent m = base ^ exponent % m := by
  fun_induction powMod base exponent m with
  | case1 => simp
  | case2 base e he half ho ih =>
    have hsplit : e = 2 * (e / 2) + 1 := by omega
    have hpow : base ^ e = (base * base) ^ (e / 2) * base := by
      conv => lhs; rw [hsplit, Nat.pow_succ, Nat.pow_mul, Nat.pow_two]
    rw [show half = _ from ih, hpow, Nat.mul_mod, ← Nat.pow_mod, Nat.mod_mod, ← Nat.mul_mod]
  | case3 base e he half ho ih =>
    have hsplit : e = 2 * (e / 2) := by omega
    have hpow : base ^ e = (base * base) ^ (e / 2) := by
      conv => lhs; rw [hsplit, Nat.pow_mul, Nat.pow_two]
    rw [show half = _ from ih, hpow, ← Nat.pow_mod]

/-- The inverse of `a` modulo the prime `p`, zero for zero. -/
def inverseMod (a p : Nat) : Nat := powMod a (p - 2) p

/-- `a - b` modulo `m`, for a reduced `b`. -/
def subMod (a b m : Nat) : Nat := (a + m - b) % m

def bitLength (n : Nat) : Nat := if n = 0 then 0 else Nat.log2 n + 1

/-- Makes `r` a root of `a`, where `r * r` is `a * t` and `t` has an order that divides `2 ^ n`; the order
of `c` is `2 ^ (n + 1)`. -/
def adjustRoot (p c t r : Nat) : Nat → Nat
  | 0 => r
  | n + 1 =>
    let square := c * c % p
    if powMod t (2 ^ n) p = 1 then adjustRoot p square t r n
    else adjustRoot p square (t * square % p) (r * c % p) n

/-- A number that is not a square modulo the prime `p`: the first one of the next few. -/
def nonSquare (p : Nat) : Nat :=
  ((List.range 200).find? fun z => powMod z ((p - 1) / 2) p == p - 1).getD 0

def twos (n : Nat) : Nat → Nat
  | 0 => 0
  | limit + 1 => if n % 2 = 0 then twos (n / 2) limit + 1 else 0

/-- A square root of `a` modulo the odd prime `p`, if there is one. -/
def rootMod (a p : Nat) : Nat :=
  let s := twos (p - 1) (bitLength p)
  let odd := (p - 1) / 2 ^ s
  adjustRoot p (powMod (nonSquare p) odd p) (powMod a odd p) (powMod a ((odd + 1) / 2) p) (s - 1)

end TlsSetup.Crypto
