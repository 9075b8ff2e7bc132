import TlsSetup.Crypto.Aes
import TlsSetup.Crypto.NamedDigest
import TlsSetup.Crypto.TripleDes
import TlsSetup.X509.Certificate

/-!
# Bytes encrypted with a password

A password becomes the key of a cipher in one of two ways: by the rule that also protects whole
archives, which gives the first block as well and tells a missing password from an empty one, or by a
function that is named beside the cipher.
-/

namespace TlsSetup.Archive

open Der Crypto X509

/-- Bytes that are encrypted under an algorithm. -/
structure Cryptogram where
  algorithm : Algorithm
  bytes : Bytes
  deriving Repr, DecidableEq

/-- An algorithm and the bytes that it was applied to. -/
def cryptogram? (e : Element) : Option Cryptogram :=
  e.record? do
    let algorithm ← Fields.reading Algorithm.ofElement?
    let bytes ← Fields.reading Element.octets?
    return ⟨algorithm, bytes⟩

/-- A password in units of two bytes, with a final zero. -/
def wideText (s : String) : Bytes :=
  (s.toList ++ ['\x00']).flatMap fun c =>
    let n := c.toNat
    if n < 65536 then Bytes.ofNat 2 n
    else
      Bytes.ofNat 2 (55296 + (n - 65536) / 1024) ++ Bytes.ofNat 2 (56320 + (n - 65536) % 1024)

/-- The password in the form that protects archives; a missing one has no bytes, an empty one two. -/
def archiveSecret (password : Option String) : Bytes := (password.map wideText).getD []

/-- The cipher with this name that stands beside the name of a function. -/
def cipher? (oid : Oid) : Option BlockCipher :=
  if oid = [2, 16, 840, 1, 101, 3, 4, 1, 2] then some (Aes.cipher 16)
  else if oid = [2, 16, 840, 1, 101, 3, 4, 1, 22] then some (Aes.cipher 24)
  else if oid = [2, 16, 840, 1, 101, 3, 4, 1, 42] then some (Aes.cipher 32)
  else if oid = [1, 2, 840, 113549, 3, 7] then some (TripleDes.cipher 24)
  else none

/-- How a password becomes a key. -/
structure Stretching where
  salt : Bytes
  rounds : Nat
  length : Option Int
  digest : Digest

/-- Reads a function with its parameters; without the name of a digest it is the usual one. -/
def stretching? (a : Algorithm) : Option Stretching := do
  guard (a.oid = [1, 2, 840, 113549, 1, 5, 12])
  (← a.parameters).record? do
    let salt ← Fields.reading Element.octets?
    let rounds ← Fields.reading Element.integer?
    let length ← Fields.readingIf .integer Element.integer?
    guard (0 < rounds)
    let digest ← match ← Fields.takeIf fun _ => true with
      | none => some NamedDigest.sha1
      | some e => (Algorithm.ofElement? e).bind fun prf => NamedDigest.ofKeyedOid? prf.oid
    return ⟨salt, rounds.toNat, length, digest.digest⟩

def Stretching.key (s : Stretching) (password : String) (length : Nat) : Bytes :=
  passwordKey s.digest (Bytes.ofString password) s.salt s.rounds length

/-- The key and the first block of a cipher by the rule of archives. -/
def Cryptogram.decryptByArchiveRule? (c : Cryptogram) (cipher : BlockCipher)
    (password : Option String) : Option Bytes := do
  let (salt, rounds) ← (← c.algorithm.parameters).record? do
    let salt ← Fields.reading Element.octets?
    let rounds ← Fields.reading Element.integer?
    return (salt, rounds)
  guard (0 ≤ rounds)
  let derive (purpose : UInt8) : Nat → Bytes :=
    archiveKey sha1 purpose (archiveSecret password) salt rounds.toNat
  cipher.decrypt? (derive 1 cipher.keySize) (derive 2 cipher.blockSize) c.bytes

/-- The bytes that were encrypted under a function and a cipher. -/
def Cryptogram.decryptByFunction? (c : Cryptogram) (password : Option String) : Option Bytes := do
  let (kdf, cipher) ← (← c.algorithm.parameters).record? do
    let kdf ← Fields.reading Algorithm.ofElement?
    let cipher ← Fields.reading Algorithm.ofElement?
    return (kdf, cipher)
  let named ← cipher? cipher.oid
  let s ← stretching? kdf
  guard (s.length.all (· == Int.ofNat named.keySize))
  let iv ← (← cipher.parameters).octets?
  named.decrypt? (s.key (password.getD "") named.keySize) iv c.bytes

/-- The bytes that were encrypted with a password. -/
def Cryptogram.decrypt? (c : Cryptogram) (password : Option String) : Option Bytes :=
  if c.algorithm.oid = [1, 2, 840, 113549, 1, 5, 13] then c.decryptByFunction? password
  else if c.algorithm.oid = [1, 2, 840, 113549, 1, 12, 1, 3] then
    c.decryptByArchiveRule? (TripleDes.cipher 24) password
  else if c.algorithm.oid = [1, 2, 840, 113549, 1, 12, 1, 4] then
    c.decryptByArchiveRule? (TripleDes.cipher 16) password
  else none

end TlsSetup.Archive
