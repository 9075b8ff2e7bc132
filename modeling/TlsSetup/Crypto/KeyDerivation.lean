import TlsSetup.Crypto.Digest

/-!
# Keyed digests and keys from passwords

The keyed digest of a message, and the two ways in which the password of an archive is stretched: one
for its encryption and one for its integrity check.
-/

namespace TlsSetup.Crypto

def xorBytes (a b : Bytes) : Bytes := List.zipWith (· ^^^ ·) a b

def hmac (d : Digest) (key message : Bytes) : Bytes :=
  let short := if d.blockSize < key.length then d.hash key else key
  let block := short ++ List.replicate (d.blockSize - short.length) 0
  d.hash (block.map (· ^^^ 0x5C) ++ d.hash (block.map (· ^^^ 0x36) ++ message))

/-- The first value and its `rounds - 1` successors, combined. -/
def stretch (step : Bytes → Bytes) (rounds : Nat) (first : Bytes) : Bytes :=
  ((List.range (rounds - 1)).foldl
    (fun (last, sum) _ => let next := step last; (next, xorBytes sum next)) (first, first)).2

def passwordKey (d : Digest) (password salt : Bytes) (rounds length : Nat) : Bytes :=
  ((List.range ((length + d.size - 1) / d.size)).flatMap fun i =>
    stretch (hmac d password) rounds (hmac d password (salt ++ Bytes.ofNat 4 (i + 1)))).take length

def repeated (bs : Bytes) (length : Nat) : Bytes :=
  if bs.isEmpty then []
  else ((List.replicate (length / bs.length + 1) bs).flatten).take length

/-- What is left of `blocks` when every one of them has been increased by `amount + 1`. -/
def increased (size amount : Nat) (blocks : Bytes) : Bytes :=
  (chunks size blocks).flatMap fun b => Bytes.ofNat size (b.toNat + amount + 1)

/-- Blocks of key material: the `rounds`-fold digest of purpose and seed, after which the seed is
increased by it. -/
def archiveBlocks (d : Digest) (purpose : Bytes) (rounds : Nat) : Nat → Bytes → Bytes
  | 0, _ => []
  | n + 1, seed =>
    let a := (List.range (rounds - 1)).foldl (fun x _ => d.hash x) (d.hash (purpose ++ seed))
    let b := repeated a d.blockSize
    a ++ archiveBlocks d purpose rounds n (increased d.blockSize b.toNat seed)

def archiveKey (d : Digest) (purpose : UInt8) (password salt : Bytes) (rounds length : Nat) :
    Bytes :=
  let fill (bs : Bytes) : Bytes :=
    repeated bs (d.blockSize * ((bs.length + d.blockSize - 1) / d.blockSize))
  (archiveBlocks d (List.replicate d.blockSize purpose) rounds ((length + d.size - 1) / d.size)
    (fill salt ++ fill password)).take length

end TlsSetup.Crypto
