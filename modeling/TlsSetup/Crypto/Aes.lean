import TlsSetup.Crypto.BlockCipher

/-!
# The block cipher with a field

Decryption of blocks of sixteen bytes under keys of 16, 24 or 32 bytes. The substitution of the cipher
is inversion in the field of 256 elements followed by a fixed affine map.
-/

namespace TlsSetup.Crypto.Aes

/-- Multiplication by `x` in the field. -/
def double (a : UInt8) : UInt8 := if a < 128 then a <<< 1 else (a <<< 1) ^^^ 0x1B

def timesBits (a b : UInt8) : Nat → UInt8
  | 0 => 0
  | n + 1 => (if b % 2 = 1 then a else 0) ^^^ timesBits (double a) (b / 2) n

def times (a b : UInt8) : UInt8 := timesBits a b 8

def allBytes : List UInt8 := (List.range 256).map UInt8.ofNat

def inverse (a : UInt8) : UInt8 := (allBytes.find? fun b => times a b == 1).getD 0

def rotate (x n : UInt8) : UInt8 := (x <<< n) ||| (x >>> (8 - n))

def substitution (a : UInt8) : UInt8 :=
  let b := inverse a
  b ^^^ rotate b 1 ^^^ rotate b 2 ^^^ rotate b 3 ^^^ rotate b 4 ^^^ 0x63

def substitutionTable : Array UInt8 := (allBytes.map substitution).toArray

def restorationTable : Array UInt8 :=
  (allBytes.map fun b => UInt8.ofNat ((substitutionTable.toList.findIdx? (· == b)).getD 0)).toArray

def substitute (b : UInt8) : UInt8 := substitutionTable.getD b.toNat 0

def restore (b : UInt8) : UInt8 := restorationTable.getD b.toNat 0

/-- The next word of the expanded key, whose index is `i`, from the word before it and the one
`size` places back. -/
def nextWord (size i : Nat) (roundByte : UInt8) (last back : Bytes) : Bytes :=
  let mixed :=
    if i % size = 0 then
      match (last.drop 1 ++ last.take 1).map substitute with
      | b :: rest => (b ^^^ roundByte) :: rest
      | [] => []
    else if 6 < size ∧ i % size = 4 then last.map substitute
    else last
  xorBytes mixed back

/-- The expanded key: `count` words, as an array that is extended word by word. -/
def expand (key : Bytes) (count : Nat) : Array Bytes :=
  let size := key.length / 4
  ((List.range count).foldl
    (fun (ws, roundByte) i =>
      if i < size then (ws, roundByte)
      else
        let w := nextWord size i roundByte (ws.getD (i - 1) []) (ws.getD (i - size) [])
        (ws.push w, if i % size = 0 then double roundByte else roundByte))
    ((chunks 4 key).toArray, (1 : UInt8))).1

/-- Moves row `r` of the block, which is stored by columns, `r` places to the right. -/
def unshift (block : Bytes) : Bytes :=
  (List.range 16).map fun i => block.getD ((i / 4 + 4 - i % 4) % 4 * 4 + i % 4) 0

/-- Multiplies every column by the inverse of the cipher's matrix. -/
def unmix (block : Bytes) : Bytes :=
  (chunks 4 block).flatMap fun column =>
    (List.range 4).map fun r =>
      let entry (i : Nat) : UInt8 := column.getD ((r + i) % 4) 0
      times (entry 0) 14 ^^^ times (entry 1) 11 ^^^ times (entry 2) 13 ^^^ times (entry 3) 9

def decryptBlock (roundKeys : List Bytes) (block : Bytes) : Bytes :=
  match roundKeys with
  | [] => block
  | last :: more => go more (xorBytes block last)
where
  go : List Bytes → Bytes → Bytes
    | [], b => b
    | [first], b => xorBytes ((unshift b).map restore) first
    | k :: more, b => go more (unmix (xorBytes ((unshift b).map restore) k))

def cipher (keySize : Nat) : BlockCipher where
  blockSize := 16
  keySize := keySize
  roundKeys key := (chunks 16 (expand key (4 * (keySize / 4 + 7))).toList.flatten).reverse
  decryptBlock := decryptBlock

end TlsSetup.Crypto.Aes
