import TlsSetup.Codec.Der

/-!
# Values of tagged encodings

What the contents of an element stand for: numbers, object identifiers, bits and strings. A string may
be put together from parts, whose own types do not matter. A value whose type is left open is checked
as its tag says, as far as its type has rules.
-/

namespace TlsSetup.Der

abbrev Oid := List Nat

/-- The arcs after the first two, each in base 128 without leading zeros. -/
def readArcs? (fresh : Bool) (acc : Nat) : Bytes → Option (List Nat)
  | [] => if fresh then some [] else none
  | b :: rest =>
    if fresh ∧ b = 128 then none
    else
      let value := acc * 128 + b.toNat % 128
      if b < 128 then (readArcs? true 0 rest).map (value :: ·)
      else readArcs? false value rest

def oid? (bs : Bytes) : Option Oid :=
  match readArcs? true 0 bs with
  | none | some [] => none
  | some (first :: rest) =>
    if first < 40 then some (0 :: first :: rest)
    else if first < 80 then some (1 :: (first - 40) :: rest)
    else some (2 :: (first - 80) :: rest)

/-- Whether contents have a redundant first byte. -/
def redundantSign : Bytes → Bool
  | a :: b :: _ => (a == 0 && b < 128) || (a == 255 && 128 ≤ b)
  | _ => false

def integer? (bs : Bytes) : Option Int :=
  match bs with
  | [] => none
  | b :: _ =>
    if redundantSign bs then none
    else if b < 128 then some (Int.ofNat (Bytes.toNat bs))
    else some (Int.ofNat (Bytes.toNat bs) - Int.ofNat (256 ^ bs.length))

/-- The base 256 digits of a number without zeros in front. -/
def digits (n : Nat) : Bytes := if _h : n = 0 then [] else digits (n / 256) ++ [UInt8.ofNat (n % 256)]
decreasing_by omega

def naturalBytes (n : Nat) : Bytes :=
  match digits n with
  | [] => [0]
  | b :: rest => if b < 128 then b :: rest else 0 :: b :: rest

/-- The shortest form of a length. -/
def lengthBytes (n : Nat) : Bytes :=
  if n < 128 then [UInt8.ofNat n] else UInt8.ofNat (128 + (digits n).length) :: digits n

def encode (tag : UInt8) (content : Bytes) : Bytes := tag :: lengthBytes content.length ++ content

/-- The digits of a number in base 128, all of which have their top bit set. -/
def highDigits (n : Nat) : Bytes :=
  if _h : n = 0 then [] else highDigits (n / 128) ++ [UInt8.ofNat (128 + n % 128)]
decreasing_by omega

/-- An arc in base 128, with the top bit of its last digit clear. -/
def arcBytes (n : Nat) : Bytes := highDigits (n / 128) ++ [UInt8.ofNat (n % 128)]

def oidBytes : Oid → Bytes
  | a :: b :: rest => arcBytes (a * 40 + b) ++ rest.flatMap arcBytes
  | _ => []

def small? (bs : Bytes) : Option Int :=
  if bs.isEmpty then some 0
  else do
    let n ← integer? bs
    if -(2 ^ 31) ≤ n ∧ n < 2 ^ 31 then some n else none

/-- Bits in bytes: those that are `unused` stand last and are zero. -/
structure Bits where
  unused : Nat
  bytes : Bytes
  deriving Repr, DecidableEq

def bits? : Bytes → Option Bits
  | [] => none
  | unused :: bytes =>
    if 7 < unused then none
    else
      match bytes.reverse with
      | [] => some ⟨0, []⟩
      | last :: front =>
        let size := 2 ^ unused.toNat
        some ⟨unused.toNat, (UInt8.ofNat (last.toNat / size * size) :: front).reverse⟩

def partsLimit : Nat := 5

def gather? (depth : Nat) (bs : Bytes) : Option Bytes := do
  let parts ← (← readAll? .basic bs).mapM fun e =>
    if e.constructed then
      match depth with
      | 0 => none
      | depth + 1 => gather? depth e.content
    else some e.content
  return parts.flatten

namespace Element

def primitive? (e : Element) : Option Bytes := if e.constructed then none else some e.content

def string? (e : Element) : Option Bytes :=
  if e.constructed then gather? partsLimit e.content else some e.content

def tagged? (e : Element) (tag : Tag) : Option Element := if e.tag = tag then some e else none

def oid? (e : Element) : Option Oid := do Der.oid? (← (← e.tagged? .oid).primitive?)

def integer? (e : Element) : Option Int := do Der.integer? (← (← e.tagged? .integer).primitive?)

def small? (e : Element) : Option Int := do Der.small? (← (← e.tagged? .integer).primitive?)

/-- The number that the bytes of an element stand for without regard to a sign. -/
def magnitude? (e : Element) : Option Nat := do
  return Bytes.toNat (← (← e.tagged? .integer).primitive?)

def truth? (e : Element) : Option Bool := do
  match ← (← e.tagged? .boolean).primitive? with
  | [b] => return b != 0
  | _ => failure

def bitString? (e : Element) : Option Bits := do Der.bits? (← e.string?)

def bits? (e : Element) : Option Bits := do (← e.tagged? .bitString).bitString?

def octets? (e : Element) : Option Bytes := do (← e.tagged? .octetString).string?

/-- Whether a string of a universal type can have these contents. -/
def stringFits (type : Nat) (bs : Bytes) : Bool :=
  if type = 3 then (Der.bits? bs).isSome
  else if type = 23 then 13 ≤ bs.length
  else if type = 24 then 15 ≤ bs.length
  else if type = 28 then bs.length % 4 == 0
  else if type = 30 then bs.length % 2 == 0
  else true

/-- Whether an element whose type is left open holds a value of the type that its tag names. -/
def isValue (e : Element) : Bool :=
  if e.tag.tagClass ≠ .universal then true
  else
    match e.tag.number with
    | 1 => e.truth?.isSome
    | 2 | 10 => (e.primitive? >>= Der.integer?).isSome
    | 5 => e.primitive? == some []
    | 6 => e.oid?.isSome
    | 16 | 17 => e.constructed
    | type => e.string?.any (stringFits type)

/-- What two values whose types are left open are compared by, apart from their tags: lists, sets and
values of other classes by their encodings, bits without the number of unused ones. -/
def valueBytes (e : Element) : Bytes :=
  if e.tag.tagClass ≠ .universal ∨ e.tag = .sequence ∨ e.tag = .set then e.encoding
  else if e.tag = .bitString then (e.bits?.map (·.bytes)).getD []
  else e.string?.getD []

def sameValue (a b : Element) : Bool := a.tag == b.tag && a.valueBytes == b.valueBytes

/-- The shortest encoding of a value whose type is left open; lists, sets and values of other classes
stay as they are. -/
def shortest (e : Element) : Bytes :=
  if e.tag.tagClass ≠ .universal ∨ e.tag = .sequence ∨ e.tag = .set ∨ 31 ≤ e.tag.number then
    e.encoding
  else
    let content :=
      if e.tag = .bitString then
        (e.bits?.map fun bits => UInt8.ofNat bits.unused :: bits.bytes).getD []
      else e.string?.getD []
    encode (UInt8.ofNat e.tag.number) content

end Element

end TlsSetup.Der
