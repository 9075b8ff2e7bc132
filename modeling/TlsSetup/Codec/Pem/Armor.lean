import TlsSetup.Codec.Base64

/-!
# Blocks that carry credentials

The reader for keys and certificates. Its lines have at most 254 bytes, the closing line must repeat
the label, and a block may begin with header lines. A block that is malformed or empty is reported in
its place, and reading goes on with the lines after the fault.
-/

namespace TlsSetup.Pem

structure Armor where
  label : Bytes
  header : Bytes
  contents : Bytes
  deriving Repr, DecidableEq

namespace Armor

def lineLimit : Nat := 254

/-- Pieces that end after a line feed or when they are full; `piece` holds what has been read of the
first one, last byte first, and `room` how many bytes it can still take. -/
def pieces (room : Nat) (piece : Bytes) : Bytes → List Bytes
  | [] => if piece.isEmpty then [] else [piece.reverse]
  | b :: rest =>
    if b = 10 ∨ room ≤ 1 then (b :: piece).reverse :: pieces lineLimit [] rest
    else pieces (room - 1) (b :: piece) rest

/-- A line without control characters, blanks and bytes outside ASCII at its end. -/
def clean (line : Bytes) : Bytes :=
  (line.reverse.dropWhile fun b => b ≤ 32 || 128 ≤ b).reverse

/-- A line without a byte order mark at its front. -/
def withoutMark (line : Bytes) : Bytes :=
  match line with
  | 0xEF :: 0xBB :: 0xBF :: b :: rest => b :: rest
  | _ => line

def opening : Bytes := Bytes.ofString "-----BEGIN "

def closing : Bytes := Bytes.ofString "-----END "

def dashes : Bytes := Bytes.ofString "-----"

def beforeNul (bs : Bytes) : Bytes := bs.takeWhile (· != 0)

def label? (line : Bytes) : Option Bytes :=
  if opening.isPrefixOf line ∧ dashes.isSuffixOf line then
    some (beforeNul ((line.drop opening.length).take (line.length - opening.length - dashes.length)))
  else none

/-- What is kept of a line inside a block; only a line without a NUL keeps its end. -/
def kept (line : Bytes) : Bytes := if line.contains 0 then beforeNul line else line ++ [10]

/-- The label of the next opening line and the lines after it; `first` says that no line of the
search has been read. -/
def findOpening (first : Bool) : List Bytes → Option (Bytes × List Bytes)
  | [] => none
  | line :: rest =>
    match label? (clean (if first then withoutMark line else line)) with
    | some label => some (label, rest)
    | none => findOpening false rest

/-- How far the header lines of a block have been read. -/
inductive Stage where
  | undecided
  | header
  | data
  deriving Repr, DecidableEq

/-- What is known of a block while its lines are read. -/
structure Progress where
  stage : Stage
  /-- The lines before the data. -/
  header : Bytes
  /-- A short line has been read after a header, so the data must end. -/
  ended : Bool
  /-- The line before was cut off because it was full. -/
  cut : Bool
  text : Bytes
  deriving Repr, DecidableEq

def Progress.start : Progress := ⟨.undecided, [], false, false, []⟩

/-- The header lines of a block and its data, once its closing line has been read. Lines without a
blank line after them are the data unless one of them holds a colon. -/
def Progress.finish (p : Progress) : Bytes × Bytes :=
  match p.stage with
  | .undecided => ([], p.text)
  | .header => (p.text, [])
  | .data => (p.header, p.text)

/-- The outcome of a block, none if its lines are malformed, and the lines after those read. -/
def readBody (label : Bytes) (p : Progress) : List Bytes → Option (Bytes × Bytes) × List Bytes
  | [] => (none, [])
  | line :: rest =>
    let cut := line.length == lineLimit && line.getLast? != some 10
    let stage := if p.stage = .undecided ∧ line.contains 58 then Stage.header else p.stage
    let text := clean line
    if text.isEmpty then
      if p.cut then readBody label { p with stage, cut } rest
      else if stage = .data then (none, rest)
      else readBody label ⟨.data, p.text, p.ended, cut, []⟩ rest
    else if closing.isPrefixOf text then
      if text.drop closing.length = label ++ dashes then (some { p with stage }.finish, rest)
      else (none, rest)
    else if p.ended ∨ (stage = .data ∧ 64 < text.length) then (none, rest)
    else
      readBody label
        { p with
          stage, cut
          ended := stage = .data && text.length < 64
          text := p.text ++ kept text } rest

theorem length_findOpening {first : Bool} {ls rest : List Bytes} {label : Bytes}
    (h : findOpening first ls = some (label, rest)) : rest.length < ls.length := by
  induction ls generalizing first with
  | nil => simp [findOpening] at h
  | cons line ls ih =>
    rw [findOpening] at h
    split at h
    · simp only [Option.some.injEq, Prod.mk.injEq] at h
      obtain ⟨-, rfl⟩ := h
      simp
    · have := ih h
      simp
      omega

theorem length_readBody (label : Bytes) (p : Progress) (ls : List Bytes) :
    (readBody label p ls).2.length ≤ ls.length := by
  induction ls generalizing p with
  | nil => simp [readBody]
  | cons line ls ih =>
    have step (q : Progress) : (readBody label q ls).2.length ≤ (line :: ls).length := by
      have := ih q
      simp
      omega
    simp only [readBody]
    repeat' split
    all_goals first | exact step _ | simp

/-- The blocks of a text; a malformed one is reported as `none`. -/
def blocksOf (ls : List Bytes) : List (Option Armor) :=
  match _h : findOpening true ls with
  | none => []
  | some (label, body) =>
    let read := readBody label .start body
    (do
      let (header, text) ← read.1
      let contents ← Base64.decodeLoose? text
      if contents.isEmpty then none else some ⟨label, header, contents⟩) ::
      blocksOf read.2
termination_by ls.length
decreasing_by
  have h1 := length_findOpening (by assumption)
  have h2 := length_readBody label .start body
  omega

def blocks (bs : Bytes) : List (Option Armor) := blocksOf (pieces lineLimit [] bs)

/-- What `decode` makes of the blocks with one of these labels. A malformed block, a header or
contents that cannot be decoded fail; other blocks do not count. -/
def decodeAll? {α : Type} (labels : List Bytes) (decode : Bytes → Option α) (bs : Bytes) :
    Option (List α) :=
  (blocks bs).foldr
    (fun block rest => do
      let block ← block
      if labels.contains block.label then
        guard block.header.isEmpty
        let a ← decode block.contents
        return a :: (← rest)
      else rest)
    (some [])

end Armor

end TlsSetup.Pem
