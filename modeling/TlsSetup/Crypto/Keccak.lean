import TlsSetup.Crypto.Digest

/-!
# Digests of the sponge family

A sponge has a state of 25 words. Blocks of the padded message are added to its first words, with a
permutation of the whole state after each, and then as many result bytes are taken as are wanted.
-/

namespace TlsSetup.Crypto

namespace Keccak

/-- The state: the word in column `x` of row `y` has index `x + 5 * y`. -/
abbrev State := Array UInt64

def word (s : State) (x y : Nat) : UInt64 := s.getD (x % 5 + 5 * (y % 5)) 0

def State.of (f : Nat → Nat → UInt64) : State :=
  ((List.range 25).map fun i => f (i % 5) (i / 5)).toArray

def rotateLeft (w : UInt64) (n : UInt64) : UInt64 := rotate64 w (64 - n)

/-- Adds to each word the sums of two neighbouring columns. -/
def spread (s : State) : State :=
  let sums : Array UInt64 := ((List.range 5).map fun x =>
    (List.range 5).foldl (fun sum y => sum ^^^ word s x y) 0).toArray
  let sum (x : Nat) : UInt64 := sums.getD (x % 5) 0
  State.of fun x y => word s x y ^^^ sum (x + 4) ^^^ rotateLeft (sum (x + 1)) 1

def distances : Array UInt64 :=
  #[0, 1, 62, 28, 27, 36, 44, 6, 55, 20, 3, 10, 43, 25, 39, 41, 45, 15, 21, 8, 18, 2, 61, 56, 14]

def rotateWords (s : State) : State :=
  State.of fun x y => rotateLeft (word s x y) (distances.getD (x + 5 * y) 0)

def rearrange (s : State) : State := State.of fun x y => word s (x + 3 * y) x

/-- Combines each word with the two to its right. -/
def combine (s : State) : State :=
  State.of fun x y => word s x y ^^^ (~~~ word s (x + 1) y &&& word s (x + 2) y)

def constants : List UInt64 :=
  [0x0000000000000001, 0x0000000000008082, 0x800000000000808A, 0x8000000080008000,
    0x000000000000808B, 0x0000000080000001, 0x8000000080008081, 0x8000000000008009,
    0x000000000000008A, 0x0000000000000088, 0x0000000080008009, 0x000000008000000A,
    0x000000008000808B, 0x800000000000008B, 0x8000000000008089, 0x8000000000008003,
    0x8000000000008002, 0x8000000000000080, 0x000000000000800A, 0x800000008000000A,
    0x8000000080008081, 0x8000000000008080, 0x0000000080000001, 0x8000000080008008]

def round (s : State) (constant : UInt64) : State :=
  (combine (rearrange (rotateWords (spread s)))).modify 0 (· ^^^ constant)

def permute (s : State) : State := constants.foldl round s

/-- Adds a block to the first words and permutes the state; words have their least significant byte
first. -/
def absorb (s : State) (block : Bytes) : State :=
  let words := ((chunks 8 block).map fun w => UInt64.ofNat (Bytes.toNat w.reverse)).toArray
  permute (State.of fun x y => word s x y ^^^ words.getD (x + 5 * y) 0)

def bytes (s : State) : Bytes := s.toList.flatMap fun w => (Bytes.ofNat 8 w.toNat).reverse

def squeeze (rate : Nat) : Nat → State → Bytes
  | 0, _ => []
  | n + 1, s => (bytes s).take rate ++ squeeze rate n (permute s)

/-- The message in whole blocks of `rate` bytes: a byte that names the purpose comes after it, and the
last bit of the last block is set. -/
def padded (rate : Nat) (purpose : UInt8) (bs : Bytes) : Bytes :=
  let zeros := rate - 1 - bs.length % rate
  let body := bs ++ purpose :: List.replicate zeros 0
  body.dropLast ++ [body.getLastD 0 ||| 128]

def sponge (rate : Nat) (purpose : UInt8) (size : Nat) (bs : Bytes) : Bytes :=
  let s := (chunks rate (padded rate purpose bs)).foldl absorb (Array.replicate 25 0)
  (squeeze rate ((size + rate - 1) / rate) s).take size

end Keccak

def sha3 (size : Nat) : Digest where
  blockSize := 200 - 2 * size
  size := size
  hash := Keccak.sponge (200 - 2 * size) 6 size

/-- As many bytes as are wanted from a sponge over blocks of 136 bytes. -/
def shake256 (size : Nat) (bs : Bytes) : Bytes := Keccak.sponge 136 31 size bs

end TlsSetup.Crypto
