import TlsSetup.Codec.Pem.Block
import TlsSetup.Text.Ascii
import TlsSetup.Trust.Validator
import TlsSetup.X509.Outline
import TlsSetup.X509.RevocationList

/-!
# Revocation

Revocation lists come as encodings that follow one another or as text with a block for each. A
validator that is wrapped with lists refuses a chain as soon as one of its certificates is on one of
them, and asks the validator inside only if none is.
-/

namespace TlsSetup

open X509

namespace X509.RevocationList

def blockLabel : String := "X509 CRL"

def ofBytes (bs : Bytes) : Except Error RevocationList :=
  match decode? bs with
  | some list => .ok list
  | none => .error (.parse .crlContent)

/-- The lists in blocks of text. -/
def ofBlocks : List (Except PemFault Pem.Block) → Except Error (List RevocationList)
  | [] => .ok []
  | .error fault :: _ => .error (.parse (.crlPem fault))
  | .ok block :: rest =>
    if block.label ≠ blockLabel then .error (.parse (.crlLabel block.label))
    else do
      let list ← ofBytes block.contents
      let lists ← ofBlocks rest
      return list :: lists

/-- The lists in encodings that follow one another. -/
def ofEncodings (bs : Bytes) : Except Error (List RevocationList) :=
  match bs with
  | [] => .ok []
  | b :: tail =>
    match _h : Outline.split? (b :: tail) with
    | none => .error (.parse .crlStructure)
    | some (one, rest) => do
      let list ← ofBytes one
      let lists ← ofEncodings rest
      return list :: lists
termination_by bs.length
decreasing_by exact Outline.length_split? (by assumption)

def textMark : Bytes := Bytes.ofString "-----BEGIN"

/-- The lists in a byte string of either form, none if it is blank. -/
def parseAll (bs : Bytes) : Except Error (List RevocationList) :=
  let rest := bs.dropWhile Text.isBlankByte
  if rest.isEmpty then .ok []
  else if textMark.isPrefixOf rest then ofBlocks (Pem.blocks bs)
  else ofEncodings bs

end X509.RevocationList

namespace Validator

def onSomeList (lists : List RevocationList) (c : Certificate) : Bool :=
  lists.any fun list => list.isRevoked c

/-- Looks for the certificates of a chain on the lists, in order and up to the first that is found. -/
def checkRevoked (lists : List RevocationList) : List Certificate → Logged Verdict
  | [] => pure (.ok ())
  | c :: rest => do
    Logged.note .trace "checking revocation" [("serial", c.serialText)]
    if onSomeList lists c then
      let holder := Holder.ofCertificate c
      Logged.note .warn "rejecting revoked certificate"
        [("subject", holder.subject), ("issuer", holder.issuer), ("serial", holder.serial)]
      return .error .revoked
    else checkRevoked lists rest

/-- Refuses chains with a certificate on one of the lists before `inner` is asked. -/
def revoking (lists : List RevocationList) (inner : Validator) : Validator where
  checkServer chain := do
    match ← checkRevoked lists chain with
    | .ok () => inner.checkServer chain
    | .error e => return .error e
  checkClient chain := do
    match ← checkRevoked lists chain with
    | .ok () => inner.checkClient chain
    | .error e => return .error e
  acceptedIssuers := inner.acceptedIssuers
  checksRevocation := true
  description := inner.description.map fun shown =>
    Text.record "RevocationDecorator"
      [("inner", shown), ("lists", Text.bracketed (lists.map RevocationList.describe))]

def revokingAll (lists : List RevocationList) (validators : List Validator) : List Validator :=
  validators.map (revoking lists)

end Validator

end TlsSetup
