import TlsSetup.Crypto.Digest

/-!
# The oldest digest

Four words with the least significant byte first, folded over blocks of 64 bytes in four times sixteen
rounds.
-/

namespace TlsSetup.Crypto

namespace Md5

structure State where
  a : UInt32
  b : UInt32
  c : UInt32
  d : UInt32

/-- The constants of the rounds: the sines of 1, 2, …, 64 times `2 ^ 32`. -/
def constants : List UInt32 :=
  [0xd76aa478, 0xe8c7b756, 0x242070db, 0xc1bdceee, 0xf57c0faf, 0x4787c62a, 0xa8304613, 0xfd469501,
    0x698098d8, 0x8b44f7af, 0xffff5bb1, 0x895cd7be, 0x6b901122, 0xfd987193, 0xa679438e, 0x49b40821,
    0xf61e2562, 0xc040b340, 0x265e5a51, 0xe9b6c7aa, 0xd62f105d, 0x02441453, 0xd8a1e681, 0xe7d3fbc8,
    0x21e1cde6, 0xc33707d6, 0xf4d50d87, 0x455a14ed, 0xa9e3e905, 0xfcefa3f8, 0x676f02d9, 0x8d2a4c8a,
    0xfffa3942, 0x8771f681, 0x6d9d6122, 0xfde5380c, 0xa4beea44, 0x4bdecfa9, 0xf6bb4b60, 0xbebfbc70,
    0x289b7ec6, 0xeaa127fa, 0xd4ef3085, 0x04881d05, 0xd9d4d039, 0xe6db99e5, 0x1fa27cf8, 0xc4ac5665,
    0xf4292244, 0x432aff97, 0xab9423a7, 0xfc93a039, 0x655b59c3, 0x8f0ccc92, 0xffeff47d, 0x85845dd1,
    0x6fa87e4f, 0xfe2ce6e0, 0xa3014314, 0x4e0811a1, 0xf7537e82, 0xbd3af235, 0x2ad7d2bb, 0xeb86d391]

/-- How far round `t` rotates: four distances for each sixteen rounds. -/
def distance (t : Nat) : UInt32 :=
  [7, 12, 17, 22, 5, 9, 14, 20, 4, 11, 16, 23, 6, 10, 15, 21].getD (t / 16 * 4 + t % 4) 0

/-- Round `t`: a function of three words and a choice of the block's word that change every sixteen
rounds. -/
def round (block : Array UInt32) (s : State) (t : Nat) (constant : UInt32) : State :=
  let (f, i) : UInt32 × Nat :=
    if t < 16 then ((s.b &&& s.c) ||| (~~~ s.b &&& s.d), t)
    else if t < 32 then ((s.d &&& s.b) ||| (~~~ s.d &&& s.c), 5 * t + 1)
    else if t < 48 then (s.b ^^^ s.c ^^^ s.d, 3 * t + 5)
    else (s.c ^^^ (s.b ||| ~~~ s.d), 7 * t)
  let sum := s.a + f + constant + block.getD (i % 16) 0
  ⟨s.d, s.b + rotate32 sum (32 - distance t), s.b, s.c⟩

def compress (s : State) (block : Bytes) : State :=
  let words := ((chunks 4 block).map fun w => UInt32.ofNat (Bytes.toNat w.reverse)).toArray
  let t := ((List.range 64).zip constants).foldl (fun s (t, k) => round words s t k) s
  ⟨s.a + t.a, s.b + t.b, s.c + t.c, s.d + t.d⟩

end Md5

def md5 : Digest where
  blockSize := 64
  size := 16
  hash bs :=
    let s := (chunks 64 (paddedLittle bs)).foldl Md5.compress
      ⟨0x67452301, 0xEFCDAB89, 0x98BADCFE, 0x10325476⟩
    [s.a, s.b, s.c, s.d].flatMap fun w => (Bytes.ofNat 4 w.toNat).reverse

end TlsSetup.Crypto
