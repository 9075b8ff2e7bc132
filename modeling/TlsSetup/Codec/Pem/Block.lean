import TlsSetup.Codec.Base64
import TlsSetup.Error
import TlsSetup.Text.Blank

/-!
# Labelled blocks of text

A block is a line with its label, lines of base 64, and a closing line. `blocks` takes the blocks of a
text one after the other and passes over the lines between them; `Block.write` is the form that it
takes to pieces.
-/

namespace TlsSetup.Pem

open Text

/-- A block: its label and the bytes that it carries. -/
structure Block where
  label : String
  contents : Bytes
  deriving Repr, DecidableEq

def opening : List Char := "-----BEGIN ".toList

def closing : List Char := "-----END ".toList

def dashes : List Char := "-----".toList

/-- The lines of a text; `line` holds what has been read of the first one, last byte first. -/
def linesFrom (line : Bytes) : Bytes → List Bytes
  | [] => if line.isEmpty then [] else [line.reverse]
  | b :: rest => if b = 10 then line.reverse :: linesFrom [] rest else linesFrom (b :: line) rest

def lines (bs : Bytes) : List Bytes := linesFrom [] bs

def contains (part : List Char) : List Char → Bool
  | [] => part.isEmpty
  | c :: cs => part.isPrefixOf (c :: cs) || contains part cs

/-- The label of an opening line: up to its first hyphen, and more hyphens must follow. -/
def label? (afterOpening : List Char) : Option String :=
  if contains dashes afterOpening then
    some (String.ofList (afterOpening.takeWhile (· != '-')))
  else none

def readLine (line : Bytes) : Except PemFault (List Char) :=
  match line.toString? with
  | some s => .ok s.toList
  | none => .error .notUtf8

/-- Passes over lines up to the next opening line: its label and the lines after it. -/
def findOpening : List Bytes → Except PemFault (Option (String × List Bytes))
  | [] => .ok none
  | line :: rest =>
    match readLine line with
    | .error fault => .error fault
    | .ok cs =>
      if opening.isPrefixOf cs then
        match label? (cs.drop opening.length) with
        | some label => .ok (some (label, rest))
        | none => .error .invalidHeader
      else findOpening rest

/-- The base 64 text up to the next closing line, and the lines after that. -/
def readBody : List Bytes → Except PemFault (List Char × List Bytes)
  | [] => .error .incomplete
  | line :: rest =>
    match readLine line with
    | .error fault => .error fault
    | .ok cs =>
      if closing.isPrefixOf cs then .ok ([], rest)
      else
        match readBody rest with
        | .error fault => .error fault
        | .ok (more, rest) => .ok (trimEnd cs ++ more, rest)

theorem length_findOpening {ls rest : List Bytes} {label : String}
    (h : findOpening ls = .ok (some (label, rest))) : rest.length < ls.length := by
  induction ls with
  | nil => simp [findOpening] at h
  | cons line ls ih =>
    unfold findOpening at h
    split at h
    · simp at h
    · split at h
      · split at h
        · simp only [Except.ok.injEq, Option.some.injEq, Prod.mk.injEq] at h
          obtain ⟨-, rfl⟩ := h
          simp
        · simp at h
      · have := ih h
        simp
        omega

theorem length_readBody {ls rest : List Bytes} {text : List Char}
    (h : readBody ls = .ok (text, rest)) : rest.length < ls.length := by
  induction ls generalizing text with
  | nil => simp [readBody] at h
  | cons line ls ih =>
    unfold readBody at h
    split at h
    · simp at h
    · split at h
      · simp only [Except.ok.injEq, Prod.mk.injEq] at h
        obtain ⟨-, rfl⟩ := h
        simp
      · split at h
        · simp at h
        · next hb =>
          simp only [Except.ok.injEq, Prod.mk.injEq] at h
          obtain ⟨-, rfl⟩ := h
          have := ih hb
          simp
          omega

def decodeText (cs : List Char) : Except PemFault Bytes :=
  match Base64.decode? (Bytes.ofString (String.ofList cs)) with
  | some bytes => .ok bytes
  | none => .error .base64

/-- The blocks of a text, up to the first one that is malformed. -/
def blocksOf (ls : List Bytes) : List (Except PemFault Block) :=
  match _ho : findOpening ls with
  | .error fault => [.error fault]
  | .ok none => []
  | .ok (some (label, body)) =>
    match _hb : readBody body with
    | .error fault => [.error fault]
    | .ok (text, rest) =>
      match decodeText text with
      | .error fault => [.error fault]
      | .ok contents => .ok ⟨label, contents⟩ :: blocksOf rest
termination_by ls.length
decreasing_by
  have h1 := length_findOpening (by assumption)
  have h2 := length_readBody (by assumption)
  omega

def blocks (bs : Bytes) : List (Except PemFault Block) := blocksOf (lines bs)

/-- A byte string cut into pieces of `width` bytes; the last one may be shorter. -/
def wrap (width : Nat) (bs : Bytes) : List Bytes :=
  if _h : width = 0 ∨ bs.length ≤ width then (if bs.isEmpty then [] else [bs])
  else bs.take width :: wrap width (bs.drop width)
termination_by bs.length
decreasing_by
  simp only [List.length_drop]
  omega

/-- The text of a block, with lines of at most `width` symbols that end in `newline`. -/
def Block.write (width : Nat) (newline : Bytes) (block : Block) : Bytes :=
  let lines := [Bytes.ofString ("-----BEGIN " ++ block.label ++ "-----")] ++
    wrap width (Base64.encode block.contents) ++
    [Bytes.ofString ("-----END " ++ block.label ++ "-----")]
  lines.flatMap (· ++ newline)

end TlsSetup.Pem
