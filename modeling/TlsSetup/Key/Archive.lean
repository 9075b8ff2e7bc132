import TlsSetup.Key.Cryptogram
import TlsSetup.Key.PrivateKey

/-!
# Archives of keys and certificates

An archive holds bags in parts that may be encrypted, and a keyed digest over all parts. The key and
the digest come from one password; without a password, both the missing and the empty one are tried.
-/

namespace TlsSetup.Archive

open Der Crypto X509

/-- The contents of an archive: its first private key and its certificates in order. -/
structure Contents where
  key : Option PrivateKey
  certificates : List Certificate
  deriving Repr, DecidableEq

def dataOid : Oid := [1, 2, 840, 113549, 1, 7, 1]

def encryptedDataOid : Oid := [1, 2, 840, 113549, 1, 7, 6]

/-- A part: bytes, an encrypted part, or something else that does not count. -/
inductive Part where
  | plain (bytes : Option Bytes)
  | encrypted (cryptogram : Option Cryptogram)
  | other
  deriving Repr, DecidableEq

/-- The check over all parts. -/
structure Check where
  algorithm : Algorithm
  digest : Bytes
  salt : Bytes
  rounds : Int

/-- An archive whose parts have not been opened. -/
structure Sealed where
  whole : Part
  check : Option Check

/-- The contents of an encrypted part, of which the bytes may be missing. -/
def encrypted? (e : Element) : Option (Option Cryptogram) :=
  e.record? do
    let _ ← Fields.reading Element.integer?
    Fields.reading fun e => e.record? do
      let _ ← Fields.reading Element.oid?
      let algorithm ← Fields.reading Algorithm.ofElement?
      let bytes ← Fields.readingIf (.context 0) Element.string?
      return bytes.map (⟨algorithm, ·⟩)

def part? (e : Element) : Option Part :=
  e.record? do
    let kind ← Fields.reading Element.oid?
    if kind = dataOid then return .plain (← Fields.wrapped 0 Element.octets?)
    else if kind = encryptedDataOid then
      return .encrypted (← Fields.wrapped 0 encrypted?).join
    else
      let _ ← Fields.wrapped 0 Element.open?
      return .other

def check? (e : Element) : Option Check :=
  e.record? do
    let digest ← Fields.reading cryptogram?
    let salt ← Fields.reading Element.octets?
    let rounds ← Fields.readingIf .integer Element.integer?
    return ⟨digest.algorithm, digest.bytes, salt, rounds.getD 1⟩

/-- Reads the outer structure of an archive; bytes after it do not count. -/
def Sealed.decode? (bs : Bytes) : Option Sealed :=
  record? bs do
    let _ ← Fields.reading Element.integer?
    let whole ← Fields.reading part?
    let check ← Fields.readingIf .sequence check?
    return ⟨whole, check⟩

/-- The key of a check and its digest, by the rule of archives or by a function that is named in the
check itself, with a length of at most 64 bytes. -/
def Check.key? (c : Check) (password : Option String) : Option (Bytes × Digest) :=
  if c.algorithm.oid = [1, 2, 840, 113549, 1, 5, 14] then do
    let (kdf, mac) ← (← c.algorithm.parameters).record? do
      let kdf ← Fields.reading Algorithm.ofElement?
      let mac ← Fields.reading Algorithm.ofElement?
      return (kdf, mac)
    let digest ← NamedDigest.ofKeyedOid? mac.oid
    let s ← stretching? kdf
    let length := (← s.length).toNat
    guard (0 < length ∧ length ≤ 64)
    return (s.key (password.getD "") length, digest.digest)
  else do
    let d := (← NamedDigest.ofOid? c.algorithm.oid).digest
    guard (0 ≤ c.rounds)
    return (archiveKey d 3 (archiveSecret password) c.salt c.rounds.toNat d.size, d)

def Check.holds (c : Check) (password : Option String) (bs : Bytes) : Bool :=
  match c.key? password with
  | none => false
  | some (key, d) => hmac d key bs == c.digest

/-- The bytes of a part, none if they are missing or cannot be decrypted; other parts have no bytes at
all. -/
def Part.bytes? (p : Part) (password : Option String) : Option (Option Bytes) :=
  match p with
  | .plain bytes => bytes.map some
  | .encrypted cryptogram => do return some (← (← cryptogram).decrypt? password)
  | .other => some none

inductive Bag where
  | key (wrapped : PrivateKey.Wrapped)
  | encryptedKey (cryptogram : Cryptogram)
  | certificate (bytes : Bytes)
  deriving Repr, DecidableEq

def bagOid (n : Nat) : Oid := [1, 2, 840, 113549, 1, 12, 10, 1, n]

/-- The value of a bag for certificates or lists; only certificates of the usual kind count. -/
def credential? (e : Element) : Option (Option Bytes) :=
  e.record? do
    let kind ← Fields.reading Element.oid?
    if kind = [1, 2, 840, 113549, 1, 9, 22, 1] then
      return some (← Fields.wrapping 0 Element.octets?)
    else
      let _ ← Fields.wrapping 0 Element.open?
      return none

def nestingLimit : Nat := 26

/-- The value of a bag of some kind, given how nested bags are read; bags of other kinds do not
count. -/
def bagValue (nested : Fields (List Bag)) (kind : Oid) : Fields (List Bag) :=
  if kind = bagOid 1 then do
    return [.key (← Fields.wrapping 0 PrivateKey.Wrapped.ofElement?)]
  else if kind = bagOid 2 then do
    return [.encryptedKey (← Fields.wrapping 0 cryptogram?)]
  else if kind = bagOid 3 then do
    return ((← Fields.wrapping 0 credential?).map Bag.certificate).toList
  else if kind = bagOid 4 ∨ kind = bagOid 5 then do
    let _ ← Fields.wrapping 0 credential?
    return []
  else if kind = bagOid 6 then nested
  else do
    let _ ← Fields.wrapping 0 Element.open?
    return []

/-- Whether the first property of a kind, if it has a value, has one with this tag. -/
def isTyped (kind : Oid) (tag : Tag) (properties : List PrivateKey.Property) : Bool :=
  match properties.find? (·.kind == kind) with
  | some p => p.values.head?.all (·.tag == tag)
  | none => true

/-- Whether the name of a bag is a text and its key a byte string. -/
def areTyped (properties : List PrivateKey.Property) : Bool :=
  isTyped [1, 2, 840, 113549, 1, 9, 20] ⟨.universal, 30⟩ properties &&
    isTyped [1, 2, 840, 113549, 1, 9, 21] .octetString properties

/-- Reads a bag, which may hold other bags. -/
def bags? (depth : Nat) (e : Element) : Option (List Bag) :=
  let nested : Fields (List Bag) :=
    match depth with
    | 0 => failure
    | depth + 1 => do return (← Fields.wrapping 0 (·.list? (bags? depth))).flatten
  e.record? do
    let kind ← Fields.reading Element.oid?
    let bags ← bagValue nested kind
    let properties ← Fields.readingIf .set (·.items? PrivateKey.Property.ofElement?)
    guard (areTyped (properties.getD []))
    return bags

/-- Adds the contents of a bag; only the first key counts. -/
def addBag? (password : Option String) (acc : Contents) : Bag → Option Contents
  | .key wrapped =>
    if acc.key.isSome then some acc
    else do return { acc with key := some (← wrapped.key?) }
  | .encryptedKey cryptogram =>
    if acc.key.isSome then some acc
    else do
      let key ← PrivateKey.ofPkcs8? (← cryptogram.decrypt? password)
      return { acc with key := some key }
  | .certificate bytes => do
    return { acc with certificates := acc.certificates ++ [← Certificate.decode? bytes] }

def addPart? (password : Option String) (acc : Contents) (p : Part) : Option Contents := do
  match ← p.bytes? password with
  | none => return acc
  | some bs => (← list? bs (bags? nestingLimit)).flatten.foldlM (addBag? password) acc

/-- The password that opens an archive whose check holds; `none` stands for a missing password. Without
a check, an empty password counts as missing. -/
def Sealed.password? (s : Sealed) (password : String) (bs : Bytes) : Option (Option String) :=
  let candidates := if password.isEmpty then [none, some ""] else [some password]
  candidates.find? fun p => s.check.all (·.holds p bs)

def Sealed.open? (s : Sealed) (password : String) : Option Contents := do
  match s.whole with
  | .plain (some bs) =>
    let password ← s.password? password bs
    (← list? bs part?).foldlM (addPart? password) ⟨none, []⟩
  | _ => none

end TlsSetup.Archive
