import TlsSetup.Crypto.BlockCipher

/-!
# The block cipher with three passes

Blocks of eight bytes are decrypted, encrypted and decrypted again under three keys of eight bytes, of
which the first may serve as the third. Blocks are handled as lists of bits, and each pass has sixteen
rounds that change one half of the block by a function of the other.
-/

namespace TlsSetup.Crypto.TripleDes

/-- The bits of a byte string, the most significant one of each byte first. -/
def bits (bs : Bytes) : List Bool :=
  bs.flatMap fun b => (List.range 8).map fun i => b.toNat.testBit (7 - i)

def number (bs : List Bool) : Nat := bs.foldl (fun n b => n * 2 + b.toNat) 0

/-- The bits at the places that a table names, which counts from one. -/
def pick (table : List Nat) (bs : List Bool) : List Bool :=
  let bs := bs.toArray
  table.map fun i => bs.getD (i - 1) false

def xorBits (a b : List Bool) : List Bool := List.zipWith (· ^^ ·) a b

def arrangement : List Nat :=
  [58, 60, 62, 64, 57, 59, 61, 63].flatMap fun i => (List.range 8).map fun j => i - 8 * j

def restoration : List Nat :=
  (List.range 64).map fun i => (arrangement.findIdx? (· == i + 1)).getD 0 + 1

/-- Half a block as eight pieces of six bits that overlap. -/
def expansion : List Nat :=
  (List.range 8).flatMap fun i => (List.range 6).map fun j => (4 * i + j + 31) % 32 + 1

def dispersion : List Nat :=
  [16, 7, 20, 21, 29, 12, 28, 17, 1, 15, 23, 26, 5, 18, 31, 10,
    2, 8, 24, 14, 32, 27, 3, 9, 19, 13, 30, 6, 22, 11, 4, 25]

/-- The bits of a key that count, in two halves. -/
def keyBits : List Nat :=
  [57, 49, 41, 33, 25, 17, 9, 1, 58, 50, 42, 34, 26, 18,
    10, 2, 59, 51, 43, 35, 27, 19, 11, 3, 60, 52, 44, 36,
    63, 55, 47, 39, 31, 23, 15, 7, 62, 54, 46, 38, 30, 22,
    14, 6, 61, 53, 45, 37, 29, 21, 13, 5, 28, 20, 12, 4]

/-- The bits of the halves that make up the key of a round. -/
def roundBits : List Nat :=
  [14, 17, 11, 24, 1, 5, 3, 28, 15, 6, 21, 10,
    23, 19, 12, 4, 26, 8, 16, 7, 27, 20, 13, 2,
    41, 52, 31, 37, 47, 55, 30, 40, 51, 45, 33, 48,
    44, 49, 39, 56, 34, 53, 46, 42, 50, 36, 29, 32]

/-- The eight substitutions, in four rows of sixteen each. -/
def substitutions : List (Array Nat) :=
  [#[14, 4, 13, 1, 2, 15, 11, 8, 3, 10, 6, 12, 5, 9, 0, 7,
      0, 15, 7, 4, 14, 2, 13, 1, 10, 6, 12, 11, 9, 5, 3, 8,
      4, 1, 14, 8, 13, 6, 2, 11, 15, 12, 9, 7, 3, 10, 5, 0,
      15, 12, 8, 2, 4, 9, 1, 7, 5, 11, 3, 14, 10, 0, 6, 13],
    #[15, 1, 8, 14, 6, 11, 3, 4, 9, 7, 2, 13, 12, 0, 5, 10,
      3, 13, 4, 7, 15, 2, 8, 14, 12, 0, 1, 10, 6, 9, 11, 5,
      0, 14, 7, 11, 10, 4, 13, 1, 5, 8, 12, 6, 9, 3, 2, 15,
      13, 8, 10, 1, 3, 15, 4, 2, 11, 6, 7, 12, 0, 5, 14, 9],
    #[10, 0, 9, 14, 6, 3, 15, 5, 1, 13, 12, 7, 11, 4, 2, 8,
      13, 7, 0, 9, 3, 4, 6, 10, 2, 8, 5, 14, 12, 11, 15, 1,
      13, 6, 4, 9, 8, 15, 3, 0, 11, 1, 2, 12, 5, 10, 14, 7,
      1, 10, 13, 0, 6, 9, 8, 7, 4, 15, 14, 3, 11, 5, 2, 12],
    #[7, 13, 14, 3, 0, 6, 9, 10, 1, 2, 8, 5, 11, 12, 4, 15,
      13, 8, 11, 5, 6, 15, 0, 3, 4, 7, 2, 12, 1, 10, 14, 9,
      10, 6, 9, 0, 12, 11, 7, 13, 15, 1, 3, 14, 5, 2, 8, 4,
      3, 15, 0, 6, 10, 1, 13, 8, 9, 4, 5, 11, 12, 7, 2, 14],
    #[2, 12, 4, 1, 7, 10, 11, 6, 8, 5, 3, 15, 13, 0, 14, 9,
      14, 11, 2, 12, 4, 7, 13, 1, 5, 0, 15, 10, 3, 9, 8, 6,
      4, 2, 1, 11, 10, 13, 7, 8, 15, 9, 12, 5, 6, 3, 0, 14,
      11, 8, 12, 7, 1, 14, 2, 13, 6, 15, 0, 9, 10, 4, 5, 3],
    #[12, 1, 10, 15, 9, 2, 6, 8, 0, 13, 3, 4, 14, 7, 5, 11,
      10, 15, 4, 2, 7, 12, 9, 5, 6, 1, 13, 14, 0, 11, 3, 8,
      9, 14, 15, 5, 2, 8, 12, 3, 7, 0, 4, 10, 1, 13, 11, 6,
      4, 3, 2, 12, 9, 5, 15, 10, 11, 14, 1, 7, 6, 0, 8, 13],
    #[4, 11, 2, 14, 15, 0, 8, 13, 3, 12, 9, 7, 5, 10, 6, 1,
      13, 0, 11, 7, 4, 9, 1, 10, 14, 3, 5, 12, 2, 15, 8, 6,
      1, 4, 11, 13, 12, 3, 7, 14, 10, 15, 6, 8, 0, 5, 9, 2,
      6, 11, 13, 8, 1, 4, 10, 7, 9, 5, 0, 15, 14, 2, 3, 12],
    #[13, 2, 8, 4, 6, 15, 11, 1, 10, 9, 3, 14, 5, 0, 12, 7,
      1, 15, 13, 8, 10, 3, 7, 4, 12, 5, 6, 11, 0, 14, 9, 2,
      7, 11, 4, 1, 9, 12, 14, 2, 0, 6, 10, 13, 15, 3, 5, 8,
      2, 1, 14, 7, 4, 10, 8, 13, 15, 12, 9, 0, 3, 5, 6, 11]]

/-- Four bits for six: the outer two choose the row, the inner four the place in it. -/
def substitute (table : Array Nat) (six : List Bool) : List Bool :=
  let row := number [six.headD false, six.getLastD false]
  let n := table.getD (16 * row + number ((six.drop 1).take 4)) 0
  (List.range 4).map fun i => n.testBit (3 - i)

def sixes (bs : List Bool) : List (List Bool) :=
  (List.range 8).map fun i => (bs.drop (6 * i)).take 6

def mix (half key : List Bool) : List Bool :=
  pick dispersion ((List.zipWith substitute substitutions
    (sixes (xorBits (pick expansion half) key))).flatten)

def rotations : List Nat := [1, 2, 4, 6, 8, 10, 12, 14, 15, 17, 19, 21, 23, 25, 27, 28]

def schedule (key : List Bool) : List (List Bool) :=
  let chosen := pick keyBits key
  rotations.map fun n =>
    let rotate (half : List Bool) : List Bool := half.drop n ++ half.take n
    pick roundBits (rotate (chosen.take 28) ++ rotate (chosen.drop 28))

/-- One pass over a block, with the keys of the rounds in order. -/
def pass (keys : List (List Bool)) (block : List Bool) : List Bool :=
  let start := pick arrangement block
  let (l, r) := keys.foldl (fun (l, r) k => (r, xorBits l (mix r k)))
    (start.take 32, start.drop 32)
  pick restoration (r ++ l)

def bytes (bs : List Bool) : Bytes :=
  (List.range (bs.length / 8)).map fun i => UInt8.ofNat (number ((bs.drop (8 * i)).take 8))

/-- The keys of all rounds in the order of decryption: those of the third key from last to first, those
of the second in order, and those of the first from last to first. -/
def roundKeys (key : Bytes) : List Bytes :=
  let part (n : Nat) : List Bytes := (schedule (bits ((key.drop (8 * n)).take 8))).map bytes
  let third := if key.length = 16 then part 0 else part 2
  third.reverse ++ part 1 ++ (part 0).reverse

def decryptBlock (keys : List Bytes) (block : Bytes) : Bytes :=
  let keys := keys.map bits
  bytes (pass (keys.drop 32) (pass ((keys.drop 16).take 16) (pass (keys.take 16) (bits block))))

def cipher (keySize : Nat) : BlockCipher where
  blockSize := 8
  keySize := keySize
  roundKeys := roundKeys
  decryptBlock := decryptBlock

end TlsSetup.Crypto.TripleDes
