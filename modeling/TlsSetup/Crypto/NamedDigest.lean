import TlsSetup.Codec.Der.Value
import TlsSetup.Crypto.Keccak
import TlsSetup.Crypto.Md5
import TlsSetup.Crypto.Ripemd

/-!
# Digests by name

The object identifiers under which digests are known, alone and as keyed digests.
-/

namespace TlsSetup.Crypto

open Der

/-- A digest, its name, and how many bits of security its collisions are worth. -/
structure NamedDigest where
  oid : Oid
  digest : Digest
  strength : Nat

namespace NamedDigest

/-- A digest whose results are as strong as half their length says. -/
def sound (oid : Oid) (digest : Digest) : NamedDigest := ⟨oid, digest, digest.size * 4⟩

/-- The member `n` of the family of digests that share an arc. -/
def sha (n : Nat) : Oid := [2, 16, 840, 1, 101, 3, 4, 2, n]

def md5 : NamedDigest := ⟨[1, 2, 840, 113549, 2, 5], Crypto.md5, 39⟩

def sha1 : NamedDigest := ⟨[1, 3, 14, 3, 2, 26], Crypto.sha1, 63⟩

def ripemd160 : NamedDigest := sound [1, 3, 36, 3, 2, 1] Crypto.ripemd160

def sha224 : NamedDigest := sound (sha 4) Crypto.sha224

def sha256 : NamedDigest := sound (sha 1) Crypto.sha256

def sha384 : NamedDigest := sound (sha 2) Crypto.sha384

def sha512 : NamedDigest := sound (sha 3) Crypto.sha512

def sha512t224 : NamedDigest := sound (sha 5) (sha512Short 28)

def sha512t256 : NamedDigest := sound (sha 6) (sha512Short 32)

/-- The digests of the sponge family, shortest first. -/
def sponges : List NamedDigest :=
  [sound (sha 7) (sha3 28), sound (sha 8) (sha3 32), sound (sha 9) (sha3 48),
    sound (sha 10) (sha3 64)]

def known : List NamedDigest :=
  [md5, sha1, ripemd160, sha224, sha256, sha384, sha512, sha512t224, sha512t256] ++ sponges

def ofOid? (oid : Oid) : Option NamedDigest := known.find? fun d => d.oid == oid

def keyed : List (Oid × NamedDigest) :=
  [([1, 3, 6, 1, 5, 5, 8, 1, 1], md5), ([1, 3, 6, 1, 5, 5, 8, 1, 2], sha1)] ++
    ([md5, sha1, sha224, sha256, sha384, sha512, sha512t224, sha512t256].zipIdx 6).map
      (fun (d, n) => ([1, 2, 840, 113549, 2, n], d)) ++
    (sponges.zipIdx 13).map fun (d, n) => (sha n, d)

def ofKeyedOid? (oid : Oid) : Option NamedDigest :=
  (keyed.find? fun (name, _) => name == oid).map (·.2)

end NamedDigest

end TlsSetup.Crypto
