import TlsSetup.Error
import TlsSetup.Key.Archive
import TlsSetup.X509.Holder

/-!
# Identities

An identity is a private key with a chain of certificates whose first one, the leaf, holds the public
half of the key. There is no identity without a leaf or with a key that does not belong to it.
-/

namespace TlsSetup

open X509

def X509.Certificate.labels : List Bytes :=
  [Bytes.ofString "CERTIFICATE", Bytes.ofString "X509 CERTIFICATE"]

def X509.Certificate.listOfPem? (bs : Bytes) : Option (List Certificate) :=
  Pem.Armor.decodeAll? labels decode? bs

/-- A private key and the certificates that vouch for it. -/
structure Identity where
  key : PrivateKey
  leaf : Certificate
  intermediates : List Certificate
  key_matches : leaf.publicKey? = some key.publicKey

namespace Identity

/-- The certificates, leaf first. -/
def chain (i : Identity) : List Certificate := i.leaf :: i.intermediates

def holder (i : Identity) : Holder := Holder.ofCertificate i.leaf

def matchesHost (i : Identity) (host : String) : Bool := i.holder.matchesHost host

def describe (i : Identity) : String :=
  Text.record "KeyProvider"
    [("subject", Text.quoted i.holder.subject), ("chain", toString i.chain.length)]

/-- The identity of a key and a chain, leaf first. -/
def ofChain (key : PrivateKey) (chain : List Certificate) : Except Error Identity :=
  match chain with
  | [] => .error (.config .emptyChain)
  | leaf :: intermediates =>
    match h : leaf.publicKey? with
    | none => .error (.provider .engine)
    | some certified =>
      if hk : certified = key.publicKey then
        .ok ⟨key, leaf, intermediates, h.trans (congrArg some hk)⟩
      else .error (.config .keyMismatch)

/-- The identity in a text with a key and a text with a chain. -/
def ofPem (key chain : Bytes) : Except Error Identity :=
  match PrivateKey.ofPem? key with
  | none => .error (.parse .privateKey)
  | some key =>
    match Certificate.listOfPem? chain with
    | none => .error (.parse .certificate)
    | some [] => .error (.parse .noCertificate)
    | some chain => ofChain key chain

/-- The first certificate that holds the public half of a key, and the others in order. -/
def leafOf? (key : PrivateKey) : List Certificate → Option (Certificate × List Certificate)
  | [] => none
  | c :: rest =>
    if c.publicKey? = some key.publicKey then some (c, rest)
    else (leafOf? key rest).map fun (leaf, others) => (leaf, c :: others)

/-- The identity in an archive: its leaf is the certificate of the archive's key. -/
def ofArchive (bs : Bytes) (password : String) : Except Error Identity :=
  match Archive.Sealed.decode? bs with
  | none => .error (.parse .archive)
  | some whole =>
    if password.toList.contains '\x00' then .error .nulInText
    else
      match whole.open? password with
      | none => .error (.parse .archive)
      | some contents =>
        match contents.key with
        | none => .error (.parse .archiveWithoutKey)
        | some key =>
          match leafOf? key contents.certificates with
          | none => .error (.parse .archiveWithoutCertificate)
          | some (leaf, others) => ofChain key (leaf :: others)

end Identity

end TlsSetup
