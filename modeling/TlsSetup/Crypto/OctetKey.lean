import TlsSetup.Codec.Der.Value
import TlsSetup.Crypto.Edwards
import TlsSetup.Crypto.Edwards448
import TlsSetup.Crypto.Ladder

/-!
# Keys that are byte strings

Kinds of keys of which both halves are byte strings of one length, without parameters. Two kinds make
signatures; the other two only agree on secrets.
-/

namespace TlsSetup.Crypto

inductive OctetKey where
  | ed25519
  | ed448
  | x25519
  | x448
  deriving Repr, DecidableEq

namespace OctetKey

def all : List OctetKey := [ed25519, ed448, x25519, x448]

def oid : OctetKey → Der.Oid
  | .x25519 => [1, 3, 101, 110]
  | .x448 => [1, 3, 101, 111]
  | .ed25519 => [1, 3, 101, 112]
  | .ed448 => [1, 3, 101, 113]

def ofOid? (oid : Der.Oid) : Option OctetKey := all.find? fun k => k.oid == oid

/-- The length of a key in bytes. -/
def size : OctetKey → Nat
  | .ed25519 | .x25519 => 32
  | .ed448 => 57
  | .x448 => 56

/-- The length of a key in bits, as it is reported. -/
def bits : OctetKey → Nat
  | .x25519 => 253
  | .ed25519 => 256
  | .x448 => 448
  | .ed448 => 456

def strength : OctetKey → Nat
  | .ed25519 | .x25519 => 128
  | .ed448 | .x448 => 224

def canSign : OctetKey → Bool
  | .ed25519 | .ed448 => true
  | .x25519 | .x448 => false

def publicKey (k : OctetKey) (secret : Bytes) : Bytes :=
  match k with
  | .ed25519 => Edwards.publicKey secret
  | .ed448 => Edwards448.publicKey secret
  | .x25519 => Ladder.x25519.publicKey secret
  | .x448 => Ladder.x448.publicKey secret

def verify (k : OctetKey) (key signature message : Bytes) : Bool :=
  match k with
  | .ed25519 => Edwards.verify key signature message
  | .ed448 => Edwards448.verify key signature message
  | .x25519 | .x448 => false

end OctetKey

end TlsSetup.Crypto
