import TlsSetup.X509.GeneralName
import TlsSetup.X509.Time

/-!
# Certificates

The fields of a certificate as they are encoded, and the parts of it that identify its holder.
-/

namespace TlsSetup.X509

open Der

structure Algorithm where
  oid : Oid
  parameters : Option Element
  deriving Repr, DecidableEq

structure Extension where
  oid : Oid
  critical : Bool
  value : Bytes
  deriving Repr, DecidableEq

/-- A public key as it is encoded: its algorithm and the bits that hold it. An element whose tag and
length take too many bytes is not `readable` as a key. -/
structure KeyInfo where
  algorithm : Algorithm
  bits : Bytes
  readable : Bool
  deriving Repr, DecidableEq

structure Certificate where
  version : Int
  serial : Int
  innerAlgorithm : Algorithm
  issuer : Name
  notBefore : Time
  notAfter : Time
  subject : Name
  key : KeyInfo
  extensions : List Extension
  algorithm : Algorithm
  signature : Bits
  /-- The bytes that are signed. -/
  signedPart : Bytes
  deriving Repr, DecidableEq

namespace Algorithm

def ofElement? (e : Element) : Option Algorithm :=
  e.record? do
    let oid ← Fields.reading Element.oid?
    let parameters ← Fields.open?
    return ⟨oid, parameters⟩

/-- Whether two algorithms agree, parameters included. -/
def same (a b : Algorithm) : Bool :=
  a.oid == b.oid &&
    match a.parameters, b.parameters with
    | none, none => true
    | some x, some y => x.sameValue y
    | _, _ => false

def content (a : Algorithm) : Bytes :=
  encode 6 (oidBytes a.oid) ++ (a.parameters.map Element.shortest).getD []

end Algorithm

namespace Extension

def ofElement? (e : Element) : Option Extension :=
  e.record? do
    let oid ← Fields.reading Element.oid?
    let critical ← Fields.readingIf .boolean Element.truth?
    let value ← Fields.reading Element.octets?
    return ⟨oid, critical.getD false, value⟩

def listOfElement? (e : Element) : Option (List Extension) := e.list? ofElement?

end Extension

/-- The value of the only extension of this kind: an absent or repeated one has none. -/
inductive Occurrence where
  | absent
  | once (value : Bytes)
  | repeated

def occurrence (oid : Oid) (es : List Extension) : Occurrence :=
  match es.filter (·.oid == oid) with
  | [] => .absent
  | [e] => .once e.value
  | _ => .repeated

namespace Certificate

def subjectAltNameOid : Oid := [2, 5, 29, 17]

/-- The two bounds of a validity period. -/
def validity? (e : Element) : Option (Time × Time) :=
  e.record? do
    let notBefore ← Fields.reading Time.ofElement?
    let notAfter ← Fields.reading Time.ofElement?
    return (notBefore, notAfter)

/-- The most bytes that the tag and the length of a key may take. -/
def keyHeadLimit : Nat := 7

def key? (e : Element) : Option KeyInfo :=
  e.record? do
    let algorithm ← Fields.reading Algorithm.ofElement?
    let bits ← Fields.reading Element.bits?
    return ⟨algorithm, bits.bytes, e.encoding.length - e.content.length ≤ keyHeadLimit⟩

def body? (e : Element) : Option Certificate :=
  e.record? do
    let version ← Fields.wrapped 0 Element.integer?
    let serial ← Fields.reading Element.integer?
    let innerAlgorithm ← Fields.reading Algorithm.ofElement?
    let issuer ← Fields.reading Name.ofElement?
    let (notBefore, notAfter) ← Fields.reading validity?
    let subject ← Fields.reading Name.ofElement?
    let key ← Fields.reading key?
    let _ ← Fields.readingIf (.context 1) Element.bitString?
    let _ ← Fields.readingIf (.context 2) Element.bitString?
    let extensions ← Fields.wrapped 3 Extension.listOfElement?
    return {
      version := version.getD 0
      serial, innerAlgorithm, issuer, notBefore, notAfter, subject, key
      extensions := extensions.getD []
      algorithm := innerAlgorithm, signature := ⟨0, []⟩, signedPart := e.encoding }

/-- Reads a certificate at the front of `bs`; the bytes after it are returned. -/
def read? (bs : Bytes) : Option (Certificate × Bytes) := do
  let (e, rest) ← Der.read? .basic bs
  let c ← e.record? do
    let body ← Fields.reading body?
    let algorithm ← Fields.reading Algorithm.ofElement?
    let signature ← Fields.reading Element.bits?
    return { body with algorithm, signature }
  return (c, rest)

def decode? (bs : Bytes) : Option Certificate := (read? bs).map (·.1)

/-- Whether two certificates are one: the lengths of their outer parts may be written differently. -/
def same (a b : Certificate) : Bool :=
  a.signedPart == b.signedPart && a.algorithm.same b.algorithm && a.signature == b.signature

/-- The subject alternative names, none if they cannot be read or occur twice. -/
def altNames (c : Certificate) : List GeneralName :=
  match occurrence subjectAltNameOid c.extensions with
  | .once value => (GeneralName.list? value).getD []
  | _ => []

/-- The alternative names that are host names. -/
def dnsNames (c : Certificate) : List String :=
  c.altNames.filterMap fun
    | .dns bs => bs.toString?
    | _ => none

end Certificate

end TlsSetup.X509
