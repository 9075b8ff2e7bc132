import TlsSetup.Codec.Der.Fields
import TlsSetup.Text.Ascii

/-!
# Distinguished names

A name is a list of groups of attributes. Two names are the same when their groups agree one by one
as collections, with text compared by its characters: the string type, the case of ASCII letters and
the amount of white space do not count.
-/

namespace TlsSetup.X509

open Der

/-- One attribute of a name, with the contents of its value. -/
structure Attribute where
  kind : Oid
  valueTag : Tag
  value : Bytes
  deriving Repr, DecidableEq

structure Name where
  groups : List (List Attribute)
  encoding : Bytes
  deriving Repr, DecidableEq

namespace Name

def commonNameOid : Oid := [2, 5, 4, 3]

def isValueType (n : Nat) : Bool :=
  n == 3 || (7 ≤ n && n ≤ 9) || (11 ≤ n && n ≤ 16) || (18 ≤ n && n ≤ 20) || n == 22 ||
    (28 ≤ n && n ≤ 30)

/-- A code point, unless it is a surrogate or too large. -/
def char? (n : Nat) : Option Char :=
  if n < 55296 ∨ (57343 < n ∧ n < 1114112) then some (Char.ofNat n) else none

def wide? : Bytes → Option (List Char)
  | [] => some []
  | a :: b :: rest => do
    let c ← char? (a.toNat * 256 + b.toNat)
    let cs ← wide? rest
    return c :: cs
  | _ => none

def wider? : Bytes → Option (List Char)
  | [] => some []
  | a :: b :: c :: d :: rest => do
    let x ← char? (((a.toNat * 256 + b.toNat) * 256 + c.toNat) * 256 + d.toNat)
    let cs ← wider? rest
    return x :: cs
  | _ => none

/-- The characters of a value of this universal type, for the types that are texts. -/
def characters? (type : Nat) (bs : Bytes) : Option (List Char) :=
  if type = 12 then bs.toString?.map String.toList
  else if type = 28 then wider? bs
  else if type = 30 then wide? bs
  else if type = 18 ∨ type = 19 ∨ type = 20 ∨ type = 22 then some (bs.map fun b => Char.ofNat b.toNat)
  else none

def isSpaceChar (c : Char) : Bool := c == ' ' || (9 ≤ c.toNat && c.toNat ≤ 13)

/-- Runs of white space as one blank, `pending` telling whether one is open. -/
def squeeze (pending : Bool) : List Char → List Char
  | [] => []
  | c :: cs =>
    if isSpaceChar c then squeeze true cs
    else (if pending then [' ', c.toLower] else [c.toLower]) ++ squeeze false cs

/-- White space at the ends removed, runs inside made one blank, ASCII capitals made small. -/
def normalText (cs : List Char) : List Char := squeeze false (cs.dropWhile isSpaceChar)

/-- What is compared of an attribute value: its normal text, or else its type and bytes. -/
inductive Comparable where
  | text (cs : List Char)
  | opaqueValue (type : Nat) (bs : Bytes)
  deriving Repr, DecidableEq

/-- The comparable form of an attribute; a text that is badly encoded has none. -/
def comparable? (a : Attribute) : Option (Oid × Comparable) :=
  let type := a.valueTag.number
  if type = 12 ∨ type = 19 ∨ type = 20 ∨ type = 22 ∨ type = 28 ∨ type = 30 then
    (characters? type a.value).map fun cs => (a.kind, .text (normalText cs))
  else some (a.kind, .opaqueValue type a.value)

/-- The comparable forms of all attributes, in their groups; a group without attributes does not
count. -/
def comparable (n : Name) : List (List (Oid × Comparable)) :=
  (n.groups.map fun group => group.filterMap comparable?).filter fun group => !group.isEmpty

/-- Whether the groups `xs` agree one by one with the first groups of `ys`; what is left of those. -/
def agree? : List (List (Oid × Comparable)) → List (List (Oid × Comparable)) →
    Option (List (List (Oid × Comparable)))
  | [], ys => some ys
  | _ :: _, [] => none
  | x :: xs, y :: ys => if x.isPerm y then agree? xs ys else none

/-- Whether two names denote the same entity. -/
def same (a b : Name) : Bool := (agree? a.comparable b.comparable).any (·.isEmpty)

def isBelow (n base : Name) : Bool := (agree? base.comparable n.comparable).isSome

/-- The contents of an attribute value, for the types that it may have: a list keeps its encoding, and
bits come after the number of those that are unused. -/
def contents? (e : Element) : Option Bytes := do
  guard (e.tag.tagClass = .universal ∧ isValueType e.tag.number)
  if e.tag = .sequence then
    guard e.constructed
    return e.encoding
  else if e.tag = .bitString then
    let bits ← e.bits?
    return UInt8.ofNat bits.unused :: bits.bytes
  else
    let bs ← e.string?
    guard (Element.stringFits e.tag.number bs)
    return bs

def attribute? (e : Element) : Option Attribute := do
  let a ← e.record? do
    let kind ← Fields.reading Element.oid?
    let value ← Fields.any
    return (⟨kind, value.tag, ← contents? value⟩ : Attribute)
  guard (comparable? a).isSome
  return a

def ofElement? (e : Element) : Option Name := do
  return ⟨← e.list? fun group => group.set? attribute?, e.encoding⟩

/-- The text of an attribute value up to the first NUL, for the types that are texts. -/
def text? (a : Attribute) : Option String :=
  (characters? a.valueTag.number a.value).map fun cs =>
    String.ofList (cs.takeWhile (· != '\x00'))

/-- The first common name of a name, if it has one that is a text. -/
def commonName? (n : Name) : Option String :=
  (n.groups.flatten.find? (·.kind == commonNameOid)).bind text?

/-- How a name is shown: by its common name, if it has one. -/
def display (n : Name) : String := n.commonName?.getD "<undef>"

end Name

end TlsSetup.X509
