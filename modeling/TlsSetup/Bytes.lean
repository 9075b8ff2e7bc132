/-!
# Byte strings

Byte strings are lists, so that every reader below is a plain recursion on its input. The module
holds the conversions that the rest of the library shares: text as UTF-8, hexadecimal digits, and
unsigned numbers in base 256 with the most significant byte first.
-/

-- Powers of numbers are those of the core library, also where another instance is in sight.
attribute [instance (high), default_instance high] instPowNat

namespace TlsSetup

abbrev Bytes := List UInt8

namespace Bytes

def ofString (s : String) : Bytes := s.toUTF8.data.toList

def toString? (bs : Bytes) : Option String := String.fromUTF8? ⟨bs.toArray⟩

@[simp] theorem length_ofString (s : String) : (ofString s).length = s.utf8ByteSize := rfl

theorem ofString_injective {s t : String} (h : ofString s = ofString t) : s = t := by
  have hdata : s.toUTF8.data = t.toUTF8.data := by
    exact Array.toList_inj.1 h
  have harray : s.toUTF8 = t.toUTF8 := by
    cases hs : s.toUTF8 with
    | mk a => cases ht : t.toUTF8 with
      | mk b => simp_all
  exact String.toByteArray_inj.1 harray

/-- The number written by `bs` in base 256. -/
def toNat (bs : Bytes) : Nat := bs.foldl (fun n b => n * 256 + b.toNat) 0

/-- The last `width` base 256 digits of `n`. -/
def ofNat (width n : Nat) : Bytes :=
  match width with
  | 0 => []
  | w + 1 => ofNat w (n / 256) ++ [UInt8.ofNat (n % 256)]

@[simp] theorem length_ofNat (width n : Nat) : (ofNat width n).length = width := by
  induction width generalizing n with
  | zero => rfl
  | succ w ih => simp [ofNat, ih]

/-- One hexadecimal digit; `upper` chooses between `a` and `A`. -/
def hexDigit (upper : Bool) (n : Nat) : Char :=
  if n < 10 then Char.ofNat (48 + n) else Char.ofNat ((if upper then 55 else 87) + n)

def toHex (bs : Bytes) (upper : Bool := false) : String :=
  String.ofList (bs.flatMap fun b => [hexDigit upper (b.toNat / 16), hexDigit upper (b.toNat % 16)])

def hexValue? (c : Char) : Option Nat :=
  if '0' ≤ c ∧ c ≤ '9' then some (c.toNat - 48)
  else if 'a' ≤ c ∧ c ≤ 'f' then some (c.toNat - 87)
  else if 'A' ≤ c ∧ c ≤ 'F' then some (c.toNat - 55)
  else none

def ofHexDigits? : List Char → Option Bytes
  | [] => some []
  | [_] => none
  | a :: b :: rest => do
    let high ← hexValue? a
    let low ← hexValue? b
    let tail ← ofHexDigits? rest
    return UInt8.ofNat (high * 16 + low) :: tail

end Bytes

end TlsSetup
