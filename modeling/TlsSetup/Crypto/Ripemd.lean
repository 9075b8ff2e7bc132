import TlsSetup.Crypto.Digest

/-!
# The digest with two lines

Five words with the least significant byte first. Each block is folded in twice, along two lines of
five times sixteen rounds, and both results are added to the state.
-/

namespace TlsSetup.Crypto

namespace Ripemd

structure State where
  a : UInt32
  b : UInt32
  c : UInt32
  d : UInt32
  e : UInt32

/-- The functions of three words, one for each sixteen rounds. -/
def mix (n : Nat) (x y z : UInt32) : UInt32 :=
  match n with
  | 0 => x ^^^ y ^^^ z
  | 1 => (x &&& y) ||| (~~~ x &&& z)
  | 2 => (x ||| ~~~ y) ^^^ z
  | 3 => (x &&& z) ||| (y &&& ~~~ z)
  | _ => x ^^^ (y ||| ~~~ z)

/-- A line: the order of the block's words, the distances of the rotations, the constants, and whether
the functions are used from last to first. -/
structure Line where
  order : List Nat
  distances : List UInt32
  constants : List UInt32
  fromLast : Bool

def left : Line where
  order :=
    [0, 1, 2, 3, 4, 5, 6, 7, 8, 9, 10, 11, 12, 13, 14, 15,
      7, 4, 13, 1, 10, 6, 15, 3, 12, 0, 9, 5, 2, 14, 11, 8,
      3, 10, 14, 4, 9, 15, 8, 1, 2, 7, 0, 6, 13, 11, 5, 12,
      1, 9, 11, 10, 0, 8, 12, 4, 13, 3, 7, 15, 14, 5, 6, 2,
      4, 0, 5, 9, 7, 12, 2, 10, 14, 1, 3, 8, 11, 6, 15, 13]
  distances :=
    [11, 14, 15, 12, 5, 8, 7, 9, 11, 13, 14, 15, 6, 7, 9, 8,
      7, 6, 8, 13, 11, 9, 7, 15, 7, 12, 15, 9, 11, 7, 13, 12,
      11, 13, 6, 7, 14, 9, 13, 15, 14, 8, 13, 6, 5, 12, 7, 5,
      11, 12, 14, 15, 14, 15, 9, 8, 9, 14, 5, 6, 8, 6, 5, 12,
      9, 15, 5, 11, 6, 8, 13, 12, 5, 12, 13, 14, 11, 8, 5, 6]
  constants := [0, 0x5A827999, 0x6ED9EBA1, 0x8F1BBCDC, 0xA953FD4E]
  fromLast := false

def right : Line where
  order :=
    [5, 14, 7, 0, 9, 2, 11, 4, 13, 6, 15, 8, 1, 10, 3, 12,
      6, 11, 3, 7, 0, 13, 5, 10, 14, 15, 8, 12, 4, 9, 1, 2,
      15, 5, 1, 3, 7, 14, 6, 9, 11, 8, 12, 2, 10, 0, 4, 13,
      8, 6, 4, 1, 3, 11, 15, 0, 5, 12, 2, 13, 9, 7, 10, 14,
      12, 15, 10, 4, 1, 5, 8, 7, 6, 2, 13, 14, 0, 3, 9, 11]
  distances :=
    [8, 9, 9, 11, 13, 15, 15, 5, 7, 7, 8, 11, 14, 14, 12, 6,
      9, 13, 15, 7, 12, 8, 9, 11, 7, 7, 12, 7, 6, 15, 13, 11,
      9, 7, 15, 11, 8, 6, 6, 14, 12, 13, 5, 14, 13, 13, 7, 5,
      15, 5, 8, 11, 14, 14, 6, 14, 6, 9, 12, 9, 12, 5, 15, 8,
      8, 5, 12, 9, 12, 5, 14, 6, 8, 13, 6, 5, 15, 13, 11, 11]
  constants := [0x50A28BE6, 0x5C4DD124, 0x6D703EF3, 0x7A6D76E9, 0]
  fromLast := true

def rotateLeft (w n : UInt32) : UInt32 := rotate32 w (32 - n)

/-- Round `t` of a line with a word of the block and the distance of its rotation. -/
def round (l : Line) (s : State) (t : Nat) (w distance : UInt32) : State :=
  let n := t / 16
  let f := mix (if l.fromLast then 4 - n else n) s.b s.c s.d
  let sum := rotateLeft (s.a + f + w + l.constants.getD n 0) distance + s.e
  ⟨s.e, sum, s.b, rotateLeft s.c 10, s.d⟩

def run (l : Line) (block : Array UInt32) (s : State) : State :=
  ((List.range 80).zip (l.order.zip l.distances)).foldl
    (fun s (t, i, distance) => round l s t (block.getD i 0) distance) s

def compress (s : State) (block : Bytes) : State :=
  let words := ((chunks 4 block).map fun w => UInt32.ofNat (Bytes.toNat w.reverse)).toArray
  let x := run left words s
  let y := run right words s
  ⟨s.b + x.c + y.d, s.c + x.d + y.e, s.d + x.e + y.a, s.e + x.a + y.b, s.a + x.b + y.c⟩

end Ripemd

def ripemd160 : Digest where
  blockSize := 64
  size := 20
  hash bs :=
    let s := (chunks 64 (paddedLittle bs)).foldl Ripemd.compress
      ⟨0x67452301, 0xEFCDAB89, 0x98BADCFE, 0x10325476, 0xC3D2E1F0⟩
    [s.a, s.b, s.c, s.d, s.e].flatMap fun w => (Bytes.ofNat 4 w.toNat).reverse

end TlsSetup.Crypto
