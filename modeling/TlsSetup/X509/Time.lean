import TlsSetup.Codec.Der.Fields

/-!
# Points in time

Times in certificates and revocation lists. An instant is compared through the number whose decimal
digits are year, month, day, hour, minute and second; `Clock.parse?` is the form that a validity
period must have, and `Clock.wellFormed` the wider one that the structure of a revocation list allows.
-/

namespace TlsSetup.X509

open Der

/-- A second, as the number `YYYYMMDDhhmmss`. -/
abbrev Instant := Nat

/-- A time as it is written: short year or long year, and the characters. -/
structure Time where
  tag : Tag
  digits : Bytes
  deriving Repr, DecidableEq

namespace Time

def isTime (e : Element) : Bool := e.tag == .utcTime || e.tag == .generalizedTime

/-- The time that an element holds, if it has enough characters for one. -/
def ofElement? (e : Element) : Option Time := do
  let digits ← e.string?
  if isTime e ∧ Element.stringFits e.tag.number digits then some ⟨e.tag, digits⟩ else none

end Time

namespace Clock

def pair? (a b : UInt8) : Option Nat :=
  if 48 ≤ a ∧ a ≤ 57 ∧ 48 ≤ b ∧ b ≤ 57 then some ((a.toNat - 48) * 10 + (b.toNat - 48)) else none

/-- The values of the digit pairs at the front, `n` of them, and what follows. -/
def pairs? : Nat → Bytes → Option (List Nat × Bytes)
  | 0, bs => some ([], bs)
  | n + 1, a :: b :: rest => do
    let v ← pair? a b
    let (vs, rest) ← pairs? n rest
    return (v :: vs, rest)
  | _ + 1, _ => none

def isLeap (year : Nat) : Bool := year % 4 == 0 && (year % 100 != 0 || year % 400 == 0)

def daysIn (year month : Nat) : Nat :=
  if month = 2 then (if isLeap year then 29 else 28)
  else if month = 4 ∨ month = 6 ∨ month = 9 ∨ month = 11 then 30 else 31

/-- Whether the calendar has this day and the day this time. -/
def isValid (year month day hour minute second : Nat) : Bool :=
  1 ≤ month && month ≤ 12 && 1 ≤ day && day ≤ daysIn year month && hour ≤ 23 && minute ≤ 59 &&
    second ≤ 59

def instant (year month day hour minute second : Nat) : Instant :=
  ((((year * 100 + month) * 100 + day) * 100 + hour) * 100 + minute) * 100 + second

/-- Years of two digits lie between 1950 and 2049. -/
def fullYear (yy : Nat) : Nat := if yy < 50 then 2000 + yy else 1900 + yy

def ofFields? (year month day hour minute second : Nat) : Option Instant :=
  if isValid year month day hour minute second then
    some (instant year month day hour minute second)
  else none

/-- The instant that a bound of a validity period names: all digits, then `Z`. -/
def parse? (t : Time) : Option Instant :=
  if t.tag = Tag.utcTime then
    match pairs? 6 t.digits with
    | some ([yy, mo, d, h, mi, s], [90]) => ofFields? (fullYear yy) mo d h mi s
    | _ => none
  else
    match pairs? 7 t.digits with
    | some ([cc, yy, mo, d, h, mi, s], [90]) => ofFields? (cc * 100 + yy) mo d h mi s
    | _ => none

/-- `Z`, or an offset of hours and minutes. -/
def isZone : Bytes → Bool
  | [90] => true
  | [sign, a, b, c, d] =>
    (sign == 43 || sign == 45) &&
      match pair? a b, pair? c d with
      | some h, some m => h ≤ 25 && m ≤ 59
      | _, _ => false
  | _ => false

/-- A short time in a revocation list: the seconds may be missing, the zone may not. -/
def shortWellFormed (bs : Bytes) : Bool :=
  match pairs? 5 bs with
  | some ([yy, mo, d, h, mi], rest) =>
    let (s, zone) := match pairs? 1 rest with
      | some ([s], zone) => (s, zone)
      | _ => (0, rest)
    isValid (fullYear yy) mo d h mi s && isZone zone
  | _ => false

/-- Up to three digits of a fraction, and what follows them. -/
def fraction? (bs : Bytes) : Option Bytes :=
  let digits := bs.takeWhile fun b => 48 ≤ b ∧ b ≤ 57
  let rest := bs.dropWhile fun b => 48 ≤ b ∧ b ≤ 57
  if digits.isEmpty ∨ 3 < digits.length then none else some rest

/-- A long time in a revocation list: with seconds, maybe with a fraction, and in zone `Z`. -/
def longWellFormed (bs : Bytes) : Bool :=
  match pairs? 7 bs with
  | some ([cc, yy, mo, d, h, mi, s], rest) =>
    isValid (cc * 100 + yy) mo d h mi s &&
      match rest with
      | 46 :: rest => fraction? rest == some [90]
      | rest => rest == [90]
  | _ => false

/-- Whether an element of a revocation list is a time; the class of its tag is not looked at. -/
def wellFormed (e : Element) : Bool :=
  (e.tag.number == Tag.utcTime.number && shortWellFormed e.content) ||
    (e.tag.number == Tag.generalizedTime.number && longWellFormed e.content)

end Clock

end TlsSetup.X509
