import TlsSetup.Crypto.KeyDerivation

/-!
# Chained blocks

A block cipher decrypts blocks of a fixed length. A message is padded to whole blocks, and each block
is combined with the encrypted one before it.
-/

namespace TlsSetup.Crypto

/-- A block cipher: the lengths of blocks and keys, the keys of the rounds, and how a block is decrypted
with them. -/
structure BlockCipher where
  blockSize : Nat
  keySize : Nat
  roundKeys : Bytes → List Bytes
  decryptBlock : List Bytes → Bytes → Bytes

namespace BlockCipher

/-- Decrypts blocks of which each was combined with the encrypted one before it. -/
def decryptChain (c : BlockCipher) (keys : List Bytes) (before : Bytes) : List Bytes → Bytes
  | [] => []
  | block :: rest => xorBytes (c.decryptBlock keys block) before ++ c.decryptChain keys block rest

/-- A byte string without its padding: `n` bytes of value `n`, at least one and at most a block. -/
def unpad? (size : Nat) (bs : Bytes) : Option Bytes := do
  let n := (← bs.getLast?).toNat
  guard (1 ≤ n ∧ n ≤ size ∧ n ≤ bs.length)
  let padding := bs.drop (bs.length - n)
  guard (padding.all (·.toNat == n))
  return bs.take (bs.length - n)

/-- The padded message that was encrypted in chained blocks, of which the first was combined with
`iv`. -/
def decrypt? (c : BlockCipher) (key iv bs : Bytes) : Option Bytes := do
  guard (key.length = c.keySize ∧ iv.length = c.blockSize)
  guard (0 < bs.length ∧ bs.length % c.blockSize = 0)
  unpad? c.blockSize (c.decryptChain (c.roundKeys key) iv (chunks c.blockSize bs))

end BlockCipher

end TlsSetup.Crypto
