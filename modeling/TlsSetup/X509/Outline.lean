import TlsSetup.X509.Certificate

/-!
# The outline of a revocation list

A list of lists has no separators, so each list must show where it ends. `Outline.split?` cuts one
list off the front by its structure: definite lengths only, the parts in their order, and times of
the calendar. Parts are known by the numbers of their tags alone, whatever the class, and bytes that
follow the known parts inside a sequence are passed over.
-/

namespace TlsSetup.X509.Outline

open Der

/-- A reader that takes parts off the front of a byte string. -/
abbrev Scan (α : Type) := StateT Bytes Option α

def isNumbered (tag : Tag) (e : Element) : Bool := e.tag.number == tag.number

/-- Whether an element has the number of a tag and is not put together from others. -/
def isPlain (tag : Tag) (e : Element) : Bool := isNumbered tag e && !e.constructed

namespace Scan

def element : Scan Element := fun bs => Der.read? .strict bs

def passing (p : Element → Bool) : Scan Element := do
  let e ← element
  if p e then return e else failure

/-- The next element if it passes `p`; otherwise nothing is taken. -/
def optionally (p : Element → Bool) : Scan Unit := fun bs =>
  match Der.read? .strict bs with
  | some (e, rest) => if p e then some ((), rest) else some ((), bs)
  | none => some ((), bs)

/-- A sequence that begins with the parts that `parts` takes. -/
def sequence (parts : Scan Unit) : Scan Unit := do
  let e ← passing (isNumbered .sequence)
  let _ ← parts.run e.content
  return ()

def time : Scan Unit := do
  let _ ← passing Clock.wellFormed
  return ()

def identifier : Scan Unit := do
  let _ ← passing fun e => !e.constructed
  return ()

/-- An algorithm, maybe with a parameter. -/
def algorithm : Scan Unit := sequence do
  identifier
  unless (← get).isEmpty do
    let _ ← element
  return ()

def name : Scan Unit := sequence (return ())

/-- Bits; those that are unused are zero, and there are none without others. -/
def bits : Scan Unit := do
  match (← passing (isPlain .bitString)).content with
  | [] => failure
  | unused :: bytes =>
    if 7 < unused then failure
    match bytes.getLast? with
    | none => if unused = 0 then return () else failure
    | some last => if last.toNat % 2 ^ unused.toNat = 0 then return () else failure

end Scan

def isTruth (e : Element) : Bool := isNumbered .boolean e && e.content.length == 1

/-- A version: a small number that is not negative. -/
def isVersion (e : Element) : Bool :=
  isPlain .integer e &&
    match integer? e.content with
    | some n => 0 ≤ n && n < 4294967296
    | none => false

def isExtension (e : Element) : Bool :=
  isNumbered .sequence e && (extensionParts.run e.content).isSome
where
  extensionParts : Scan Unit := do
    Scan.identifier
    Scan.optionally isTruth
    let _ ← Scan.passing (isPlain .octetString)
    return ()

def isExtensions (e : Element) : Bool :=
  isNumbered .sequence e && (readAll? .strict e.content).any fun es => es.all isExtension

/-- What follows the entries: nothing, or a tag of number zero before the extensions. -/
def isTail (bs : Bytes) : Bool :=
  bs.isEmpty ||
    (do
      let (tag, _, body) ← readTag? bs
      let (_, body) ← readExtent? .strict body
      guard (tag.number = 0)
      let (e, rest) ← Der.read? .strict body
      guard (rest.isEmpty ∧ isExtensions e)).isSome

def body : Scan Unit := Scan.sequence do
  Scan.optionally isVersion
  Scan.algorithm
  Scan.name
  Scan.time
  Scan.optionally Clock.wellFormed
  Scan.optionally (isNumbered .sequence)
  if isTail (← get) then return () else failure

/-- Takes one list off the front: its bytes and those after it. -/
def split? (bs : Bytes) : Option (Bytes × Bytes) := do
  let (e, rest) ← Der.read? .strict bs
  guard (isNumbered .sequence e)
  let _ ← (do body; Scan.algorithm; Scan.bits : Scan Unit).run e.content
  return (e.encoding, rest)

theorem length_split? {bs list rest : Bytes} (h : split? bs = some (list, rest)) :
    rest.length < bs.length := by
  obtain ⟨⟨e, after⟩, hread, h⟩ := Option.bind_eq_some_iff.mp h
  obtain ⟨-, -, h⟩ := Option.bind_eq_some_iff.mp h
  obtain ⟨-, -, h⟩ := Option.bind_eq_some_iff.mp h
  simp only [Option.pure_def, Option.some.injEq, Prod.mk.injEq] at h
  obtain ⟨-, rfl⟩ := h
  exact length_read? hread

end TlsSetup.X509.Outline
