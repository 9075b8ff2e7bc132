import TlsSetup.Host
import TlsSetup.X509.Certificate

/-!
# Holders of certificates

The fields of a certificate by which a person or a server name refers to it. Alternative names are
authoritative for host names; the common name counts only where there are none.
-/

namespace TlsSetup.X509

/-- The hexadecimal digits of a number, in pairs. -/
def hexNumber (n : Int) : String :=
  let digits := (Nat.toDigits 16 n.natAbs).map Char.toUpper
  let pairs := if digits.length % 2 = 1 then '0' :: digits else digits
  if n = 0 then "0" else (if n < 0 then "-" else "") ++ String.ofList pairs

structure Holder where
  subject : String
  issuer : String
  dnsNames : List String
  serial : String
  deriving Repr, DecidableEq

namespace Holder

def ofCertificate (c : Certificate) : Holder where
  subject := c.subject.display
  issuer := c.issuer.display
  dnsNames := c.dnsNames
  serial := hexNumber c.serial

def matchesHost (h : Holder) (host : String) : Bool :=
  if h.dnsNames.isEmpty then Host.covers h.subject host
  else h.dnsNames.any fun pattern => Host.covers pattern host

end Holder

def Certificate.subjectName (c : Certificate) : String := c.subject.display

def Certificate.serialText (c : Certificate) : String := hexNumber c.serial

end TlsSetup.X509
