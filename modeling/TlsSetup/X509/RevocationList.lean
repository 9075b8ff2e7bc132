import TlsSetup.Text.Quoted
import TlsSetup.X509.Holder

/-!
# Revocation lists

A list names its issuer and the serial numbers that the issuer has revoked. An entry may name another
issuer, who then holds for the entries after it as well, and may take a serial number off again.
-/

namespace TlsSetup.X509

open Der

structure RevokedItem where
  serial : Int
  date : Time
  extensions : List Extension
  deriving Repr, DecidableEq

/-- An entry as it is looked up: whose certificates it concerns, if not those of the list's issuer,
and whether it takes them off the list. -/
structure RevokedEntry where
  serial : Int
  issuers : Option (List GeneralName)
  removed : Bool
  deriving Repr, DecidableEq

structure RevocationList where
  issuer : Name
  entries : List RevokedEntry
  deriving Repr, DecidableEq

namespace RevokedItem

def certificateIssuerOid : Oid := [2, 5, 29, 29]

def reasonOid : Oid := [2, 5, 29, 21]

/-- The reason that takes an entry off a list. -/
def removeFromList : Int := 8

def ofElement? (e : Element) : Option RevokedItem :=
  e.record? do
    let serial ← Fields.reading Element.integer?
    let date ← Fields.reading Time.ofElement?
    let extensions ← Fields.readingIf .sequence Extension.listOfElement?
    return ⟨serial, date, extensions.getD []⟩

def listOfElement? (e : Element) : Option (List RevokedItem) := e.list? ofElement?

def reason? (bs : Bytes) : Option Int :=
  first? bs fun e => do integer? (← (← e.tagged? .enumerated).primitive?)

/-- An entry of which nothing more is known than its serial number. -/
def plain (item : RevokedItem) : RevokedEntry := ⟨item.serial, none, false⟩

/-- The entries of a list. An issuer that an entry names holds until the next one is named; after an
entry whose issuer or reason cannot be read, entries are plain. -/
def resolve (current : Option (List GeneralName)) : List RevokedItem → List RevokedEntry
  | [] => []
  | item :: rest =>
    let named := match occurrence certificateIssuerOid item.extensions with
      | .absent => some current
      | .once value => (GeneralName.list? value).map some
      | .repeated => none
    match named with
    | none => (item :: rest).map plain
    | some issuers =>
      let reason := match occurrence reasonOid item.extensions with
        | .absent => some none
        | .once value => (reason? value).map some
        | .repeated => none
      match reason with
      | none => ⟨item.serial, issuers, false⟩ :: rest.map plain
      | some r => ⟨item.serial, issuers, r == some removeFromList⟩ :: resolve issuers rest

end RevokedItem

/-- Whether an entry of a list by `listIssuer` concerns certificates of `issuer`. -/
def RevokedEntry.concerns (entry : RevokedEntry) (listIssuer issuer : Name) : Bool :=
  match entry.issuers with
  | none => issuer.same listIssuer
  | some names => names.any fun
    | .directory name => issuer.same name
    | _ => false

namespace RevocationList

def body? (e : Element) : Option RevocationList :=
  e.record? do
    let _ ← Fields.readingIf .integer Element.integer?
    let _ ← Fields.reading Algorithm.ofElement?
    let issuer ← Fields.reading Name.ofElement?
    let _ ← Fields.reading Time.ofElement?
    let next ← Fields.takeIf Time.isTime
    guard (next.all fun t => (Time.ofElement? t).isSome)
    let items ← Fields.readingIf .sequence RevokedItem.listOfElement?
    let _ ← Fields.wrapped 0 Extension.listOfElement?
    return ⟨issuer, RevokedItem.resolve none (items.getD [])⟩

/-- Reads a list at the front of `bs`; bytes after it do not count. -/
def decode? (bs : Bytes) : Option RevocationList :=
  record? bs do
    let list ← Fields.reading body?
    let _ ← Fields.reading Algorithm.ofElement?
    let _ ← Fields.reading Element.bits?
    return list

/-- Whether `c` is on the list: the first entry with its serial number that concerns its issuer
decides. -/
def isRevoked (list : RevocationList) (c : Certificate) : Bool :=
  match list.entries.find? fun e => e.serial == c.serial && e.concerns list.issuer c.issuer with
  | none => false
  | some entry => !entry.removed

def issuerName (list : RevocationList) : String := list.issuer.display

def revokedCount (list : RevocationList) : Nat := list.entries.length

def describe (list : RevocationList) : String :=
  Text.record "RevocationList"
    [("issuer", Text.quoted list.issuerName), ("revoked", toString list.revokedCount)]

end RevocationList

end TlsSetup.X509
