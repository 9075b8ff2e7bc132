import TlsSetup.Bytes

/-!
# Message digests

A digest cuts its padded message into blocks and folds them into a state of a few words. The larger
family has one rule for words of 32 and of 64 bits; its constants are the fractional digits of square
and cube roots of the first primes.
-/

namespace TlsSetup.Crypto

/-- A digest: the lengths of its blocks and results, and the function itself. -/
structure Digest where
  blockSize : Nat
  size : Nat
  hash : Bytes → Bytes

/-- The message, a byte `0x80`, zeros and the message's length in bits, in whole blocks. -/
def padded (blockSize lengthSize : Nat) (bs : Bytes) : Bytes :=
  let zeros := (2 * blockSize - 1 - lengthSize - bs.length % blockSize) % blockSize
  bs ++ 128 :: List.replicate zeros 0 ++ Bytes.ofNat lengthSize (bs.length * 8)

/-- The same in blocks of 64 bytes, with the least significant byte of the length first. -/
def paddedLittle (bs : Bytes) : Bytes :=
  let whole := padded 64 8 bs
  whole.take (whole.length - 8) ++ (Bytes.ofNat 8 (bs.length * 8)).reverse

/-- Pieces of `n` bytes; a shorter rest is dropped. -/
def chunks (n : Nat) (bs : Bytes) : List Bytes :=
  if _h : 0 < n ∧ n ≤ bs.length then bs.take n :: chunks n (bs.drop n) else []
termination_by bs.length
decreasing_by
  simp only [List.length_drop]
  omega

/-- The binary digits of a `k`-th root of `n` below place `i`, added to those in `acc`. -/
def rootFrom (k n : Nat) : Nat → Nat → Nat
  | 0, acc => acc
  | i + 1, acc => rootFrom k n i (if (acc + 2 ^ i) ^ k ≤ n then acc + 2 ^ i else acc)

/-- The first 64 binary digits after the point of the `k`-th root of `p`. -/
def rootFraction (k p : Nat) : Nat := rootFrom k (p * 2 ^ (64 * k)) 72 0 % 2 ^ 64

def isPrime (n : Nat) : Bool := 2 ≤ n && (List.range n).all fun d => d < 2 || n % d != 0

def primes : List Nat := (List.range 410).filter isPrime

/-- The digest family over words `W`. -/
structure Sha2 (W : Type) where
  wordSize : Nat
  ofNat : Nat → W
  toNat : W → Nat
  add : W → W → W
  xor : W → W → W
  and : W → W → W
  not : W → W
  spread0 : W → W
  spread1 : W → W
  mix0 : W → W
  mix1 : W → W
  constants : List W

namespace Sha2

variable {W : Type}

structure State (W : Type) where
  a : W
  b : W
  c : W
  d : W
  e : W
  f : W
  g : W
  h : W

def schedule (p : Sha2 W) (zero : W) (block : List W) : Array W :=
  (List.range (p.constants.length - 16)).foldl
    (fun w i =>
      w.push (p.add (p.add (p.mix1 (w.getD (i + 14) zero)) (w.getD (i + 9) zero))
        (p.add (p.mix0 (w.getD (i + 1) zero)) (w.getD i zero))))
    block.toArray

def round (p : Sha2 W) (s : State W) (k w : W) : State W :=
  let choice := p.xor (p.and s.e s.f) (p.and (p.not s.e) s.g)
  let majority := p.xor (p.xor (p.and s.a s.b) (p.and s.a s.c)) (p.and s.b s.c)
  let t1 := p.add (p.add (p.add s.h (p.spread1 s.e)) (p.add choice k)) w
  let t2 := p.add (p.spread0 s.a) majority
  ⟨p.add t1 t2, s.a, s.b, s.c, p.add s.d t1, s.e, s.f, s.g⟩

def compress (p : Sha2 W) (s : State W) (block : Bytes) : State W :=
  let words := (chunks p.wordSize block).map fun w => p.ofNat w.toNat
  let ws := p.schedule (p.ofNat 0) words
  let t := (p.constants.zip ws.toList).foldl (fun s (k, w) => p.round s k w) s
  ⟨p.add s.a t.a, p.add s.b t.b, p.add s.c t.c, p.add s.d t.d, p.add s.e t.e, p.add s.f t.f,
    p.add s.g t.g, p.add s.h t.h⟩

def digest (p : Sha2 W) (initial : State W) (size : Nat) : Digest where
  blockSize := 16 * p.wordSize
  size := size
  hash bs :=
    let blocks := chunks (16 * p.wordSize) (padded (16 * p.wordSize) (2 * p.wordSize) bs)
    let s := blocks.foldl p.compress initial
    ([s.a, s.b, s.c, s.d, s.e, s.f, s.g, s.h].flatMap fun w =>
      Bytes.ofNat p.wordSize (p.toNat w)).take size

/-- The state whose words come from the square roots of eight primes. -/
def initial (p : Sha2 W) (shift : Nat) (ps : List Nat) : State W :=
  let word (i : Nat) : W := p.ofNat (rootFraction 2 (ps.getD i 0) / 2 ^ shift)
  ⟨word 0, word 1, word 2, word 3, word 4, word 5, word 6, word 7⟩

end Sha2

def rotate32 (x n : UInt32) : UInt32 := (x >>> n) ||| (x <<< (32 - n))

def rotate64 (x n : UInt64) : UInt64 := (x >>> n) ||| (x <<< (64 - n))

def sha2Words32 : Sha2 UInt32 where
  wordSize := 4
  ofNat := UInt32.ofNat
  toNat := UInt32.toNat
  add := (· + ·)
  xor := (· ^^^ ·)
  and := (· &&& ·)
  not := (~~~ ·)
  spread0 x := rotate32 x 2 ^^^ rotate32 x 13 ^^^ rotate32 x 22
  spread1 x := rotate32 x 6 ^^^ rotate32 x 11 ^^^ rotate32 x 25
  mix0 x := rotate32 x 7 ^^^ rotate32 x 18 ^^^ (x >>> 3)
  mix1 x := rotate32 x 17 ^^^ rotate32 x 19 ^^^ (x >>> 10)
  constants := (primes.take 64).map fun q => UInt32.ofNat (rootFraction 3 q / 2 ^ 32)

def sha2Words64 : Sha2 UInt64 where
  wordSize := 8
  ofNat := UInt64.ofNat
  toNat := UInt64.toNat
  add := (· + ·)
  xor := (· ^^^ ·)
  and := (· &&& ·)
  not := (~~~ ·)
  spread0 x := rotate64 x 28 ^^^ rotate64 x 34 ^^^ rotate64 x 39
  spread1 x := rotate64 x 14 ^^^ rotate64 x 18 ^^^ rotate64 x 41
  mix0 x := rotate64 x 1 ^^^ rotate64 x 8 ^^^ (x >>> 7)
  mix1 x := rotate64 x 19 ^^^ rotate64 x 61 ^^^ (x >>> 6)
  constants := primes.map fun q => UInt64.ofNat (rootFraction 3 q)

def sha256 : Digest := sha2Words32.digest (sha2Words32.initial 32 primes) 32

/-- Its initial state has the lower halves of the words that `sha384` begins with. -/
def sha224 : Digest := sha2Words32.digest (sha2Words32.initial 0 (primes.drop 8)) 28

def sha512 : Digest := sha2Words64.digest (sha2Words64.initial 0 primes) 64

def sha384 : Digest := sha2Words64.digest (sha2Words64.initial 0 (primes.drop 8)) 48

/-- A shorter result of the family over words of 64 bits: its initial state is the digest of its name,
which is computed from a state that differs from the one of `sha512` in every other bit. -/
def sha512Short (size : Nat) : Digest :=
  let flip (w : UInt64) : UInt64 := w ^^^ 0xA5A5A5A5A5A5A5A5
  let i := sha2Words64.initial 0 primes
  let name := Bytes.ofString ("SHA-512/" ++ toString (size * 8))
  let words := (chunks 8
    ((sha2Words64.digest ⟨flip i.a, flip i.b, flip i.c, flip i.d, flip i.e, flip i.f, flip i.g,
      flip i.h⟩ 64).hash name)).map fun w => UInt64.ofNat w.toNat
  let word (n : Nat) : UInt64 := words.getD n 0
  sha2Words64.digest ⟨word 0, word 1, word 2, word 3, word 4, word 5, word 6, word 7⟩ size

namespace Sha1

structure State where
  a : UInt32
  b : UInt32
  c : UInt32
  d : UInt32
  e : UInt32

def schedule (block : List UInt32) : Array UInt32 :=
  (List.range 64).foldl
    (fun w i =>
      w.push (rotate32 (w.getD (i + 13) 0 ^^^ w.getD (i + 8) 0 ^^^ w.getD (i + 2) 0 ^^^
        w.getD i 0) 31))
    block.toArray

def round (s : State) (t : Nat) (w : UInt32) : State :=
  let (f, k) : UInt32 × UInt32 :=
    if t < 20 then ((s.b &&& s.c) ||| (~~~ s.b &&& s.d), 0x5A827999)
    else if t < 40 then (s.b ^^^ s.c ^^^ s.d, 0x6ED9EBA1)
    else if t < 60 then ((s.b &&& s.c) ||| (s.b &&& s.d) ||| (s.c &&& s.d), 0x8F1BBCDC)
    else (s.b ^^^ s.c ^^^ s.d, 0xCA62C1D6)
  ⟨rotate32 s.a 27 + f + s.e + k + w, s.a, rotate32 s.b 2, s.c, s.d⟩

def compress (s : State) (block : Bytes) : State :=
  let ws := schedule ((chunks 4 block).map fun w => UInt32.ofNat w.toNat)
  let t := ((List.range 80).zip ws.toList).foldl (fun s (t, w) => round s t w) s
  ⟨s.a + t.a, s.b + t.b, s.c + t.c, s.d + t.d, s.e + t.e⟩

end Sha1

def sha1 : Digest where
  blockSize := 64
  size := 20
  hash bs :=
    let s := (chunks 64 (padded 64 8 bs)).foldl Sha1.compress
      ⟨0x67452301, 0xEFCDAB89, 0x98BADCFE, 0x10325476, 0xC3D2E1F0⟩
    [s.a, s.b, s.c, s.d, s.e].flatMap fun w => Bytes.ofNat 4 w.toNat

end TlsSetup.Crypto
