import TlsSetup.Key.Identity

/-!
# The form of a leaf

An engine may read the leaf of an identity anew and more strictly than it was read at first: a tag takes
one byte, a length the fewest bytes, and nothing follows the last field. The extensions that are
understood occur once, others are not critical, and the key is the one that the identity holds. The
first fault found is the answer.
-/

namespace TlsSetup.LeafForm

open Der X509

def sizeLimit : Nat := 65535

/-- The contents of the element with this tag at the front, and the bytes after it. -/
def next? (tag : UInt8) (bs : Bytes) : Option (Bytes × Bytes) :=
  match Der.read? .basic bs with
  | none => none
  | some (e, rest) =>
    if e.encoding = encode tag e.content ∧ e.content.length < sizeLimit then some (e.content, rest)
    else none

theorem length_next? {tag : UInt8} {bs content rest : Bytes}
    (h : next? tag bs = some (content, rest)) : rest.length < bs.length := by
  unfold next? at h
  split at h
  · simp at h
  · next hr =>
    split at h
    · obtain ⟨-, rfl⟩ := by simpa using h
      exact length_read? hr
    · simp at h

/-- A reader that takes fields off the front of a byte string. -/
abbrev Reader (α : Type) := StateT Bytes (Except ProviderFault) α

def field (tag : UInt8) (fault : ProviderFault) : Reader Bytes := fun bs =>
  match next? tag bs with
  | some taken => .ok taken
  | none => .error fault

def fieldIf (tag : UInt8) : Reader (Option Bytes) := do
  if (← get).head? = some tag then return some (← field tag .certificateEncoding) else return none

def whole {α : Type} (bs : Bytes) (f : Reader α) : Except ProviderFault α :=
  match f.run bs with
  | .error fault => .error fault
  | .ok (a, []) => .ok a
  | .ok (_, _ :: _) => .error .certificateEncoding

/-- Checks the version in its wrapping: a number of one byte, which must be the third version's. -/
def checkVersion (bs : Bytes) : Except ProviderFault Unit :=
  match next? 2 bs with
  | none => .error .certificateEncoding
  | some (number, rest) =>
    match Der.integer? number with
    | none => .error .certificateEncoding
    | some n =>
      if n < 0 ∨ 256 ≤ n then .error .certificateEncoding
      else if n = 2 ∧ rest = [] then .ok ()
      else .error .certificateVersion

/-- The last arcs of the extensions that are understood, whose other arcs are 2, 5 and 29. -/
def understood : List UInt8 := [15, 17, 19, 30, 31, 37]

/-- Whether the extension `id` can have this value: for all but one, a sequence. -/
def valueFits (id : UInt8) (value : Bytes) : Bool :=
  id == 15 || (next? 48 value).any (·.2.isEmpty)

/-- Checks an extension that is understood, where those in `seen` stand before it. -/
def checkValue (seen : List UInt8) (id : UInt8) (value : Bytes) :
    Except ProviderFault (List UInt8) :=
  if seen.contains id then .error .repeatedExtension
  else if valueFits id value then .ok (id :: seen)
  else .error .certificateEncoding

def extension (bs : Bytes) : Except ProviderFault (Bytes × Bool × Bytes) := whole bs do
  let kind ← field 6 .certificateEncoding
  let critical ←
    match ← fieldIf 1 with
    | none | some [0] => pure false
    | some [255] => pure true
    | some _ => throw .certificateEncoding
  let value ← field 4 .certificateEncoding
  return (kind, critical, value)

def checkExtension (seen : List UInt8) (bs : Bytes) : Except ProviderFault (List UInt8) := do
  let (kind, critical, value) ← extension bs
  match kind with
  | [85, 29, id] => if understood.contains id then return ← checkValue seen id value
  | _ => pure ()
  if critical then throw .criticalExtension else return seen

def checkExtensions (seen : List UInt8) (bs : Bytes) : Except ProviderFault Unit :=
  match bs with
  | [] => .ok ()
  | b :: tail =>
    match _h : next? 48 (b :: tail) with
    | none => .error .certificateEncoding
    | some (content, rest) =>
      match checkExtension seen content with
      | .error fault => .error fault
      | .ok seen => checkExtensions seen rest
termination_by bs.length
decreasing_by exact length_next? (by assumption)

/-- Checks the fields of the signed part and returns the one that holds the key; `algorithm` is the
algorithm of the signature itself. -/
def keyField (algorithm : Bytes) : Reader Bytes := do
  checkVersion (← field 160 .certificateVersion)
  let _serial ← field 2 .certificateEncoding
  if (← field 48 .certificateEncoding) ≠ algorithm then throw .algorithmsDiffer
  let _issuer ← field 48 .certificateEncoding
  let _validity ← field 48 .certificateEncoding
  let _subject ← field 48 .certificateEncoding
  let key ← field 48 .certificateEncoding
  unless (← get).isEmpty do
    let extensions ← whole (← field 163 .certificateEncoding) (field 48 .certificateEncoding)
    checkExtensions [] extensions
  return key

def check (i : Identity) : Except ProviderFault Unit := do
  let body ← whole i.leaf.signedPart (field 48 .certificateEncoding)
  if i.leaf.signature.unused ≠ 0 then throw .certificateEncoding
  let key ← whole body (keyField i.leaf.algorithm.content)
  if key ≠ i.key.publicKey.content then throw .keysDiffer

end TlsSetup.LeafForm
