import TlsSetup.Bytes
import TlsSetup.Text.Ascii

/-!
# Base 64

Three bytes are written as four of 64 symbols; a shorter last group is filled up with `=`. `decode?`
reads exactly what `encode` writes, group by group, so that encodings may follow one another;
`decodeLoose?` passes over white space and does not look at bits that are left over.
-/

namespace TlsSetup.Base64

def symbol (n : Nat) : UInt8 :=
  if n < 26 then UInt8.ofNat (65 + n)
  else if n < 52 then UInt8.ofNat (71 + n)
  else if n < 62 then UInt8.ofNat (n - 4)
  else if n = 62 then 43
  else 47

def value? (b : UInt8) : Option Nat :=
  if 65 ≤ b ∧ b ≤ 90 then some (b.toNat - 65)
  else if 97 ≤ b ∧ b ≤ 122 then some (b.toNat - 71)
  else if 48 ≤ b ∧ b ≤ 57 then some (b.toNat + 4)
  else if b = 43 then some 62
  else if b = 47 then some 63
  else none

def pad : UInt8 := 61

def encode : Bytes → Bytes
  | [] => []
  | [a] => [symbol (a.toNat / 4), symbol (a.toNat % 4 * 16), pad, pad]
  | [a, b] =>
    [symbol (a.toNat / 4), symbol (a.toNat % 4 * 16 + b.toNat / 16), symbol (b.toNat % 16 * 4), pad]
  | a :: b :: c :: rest =>
    symbol (a.toNat / 4) :: symbol (a.toNat % 4 * 16 + b.toNat / 16) ::
      symbol (b.toNat % 16 * 4 + c.toNat / 64) :: symbol (c.toNat % 64) :: encode rest

/-- The bytes of one group of four symbols; bits left over must be zero if `exact` says so. -/
def group? (exact : Bool) (a b c d : UInt8) : Option Bytes := do
  let x ← value? a
  let y ← value? b
  let first := UInt8.ofNat (x * 4 + y / 16)
  if c = pad then
    if d = pad ∧ (exact → y % 16 = 0) then some [first] else none
  else
    let z ← value? c
    let second := UInt8.ofNat (y % 16 * 16 + z / 4)
    if d = pad then
      if exact → z % 4 = 0 then some [first, second] else none
    else
      let w ← value? d
      some [first, second, UInt8.ofNat (z % 4 * 64 + w)]

/-- The bytes of groups that follow one another, each of them complete. -/
def decode? : Bytes → Option Bytes
  | [] => some []
  | a :: b :: c :: d :: rest => do
    let bytes ← group? true a b c d
    let more ← decode? rest
    return bytes ++ more
  | _ => none

/-- Whether a byte stands between symbols without a meaning. -/
def isGap (b : UInt8) : Bool := b == 32 || b == 9 || b == 10 || b == 13

/-- The bytes of groups of which only the last may be padded. -/
def groups? : Bytes → Option Bytes
  | [] => some []
  | a :: b :: c :: d :: rest => do
    let bytes ← group? false a b c d
    if c = pad ∨ d = pad then (if rest.isEmpty then some bytes else none)
    else
      let more ← groups? rest
      return bytes ++ more
  | _ => none

/-- The bytes of a text with gaps that ends at its end or at a hyphen. -/
def decodeLoose? (bs : Bytes) : Option Bytes :=
  groups? ((bs.takeWhile (· != 45)).filter fun b => !isGap b)

end TlsSetup.Base64
