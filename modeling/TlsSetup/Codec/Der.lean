import TlsSetup.Bytes

/-!
# Tagged encodings

The encoding of structured data: every element is a tag, a length and contents. The reader takes one
element off the front of its input. `Rules.strict` wants definite lengths; `Rules.basic` also takes
constructed elements that run up to an end marker. The main statement says that reading consumes at
least one byte, so that elements can be read one after the other.
-/

namespace TlsSetup.Der

/-- Which encodings of a length a reader takes. -/
inductive Rules where
  | basic
  | strict
  deriving Repr, DecidableEq

/-- The class of a tag: universal, application, context specific or private. -/
inductive TagClass where
  | universal
  | application
  | context
  | reserved
  deriving Repr, DecidableEq

structure Tag where
  tagClass : TagClass
  number : Nat
  deriving Repr, DecidableEq

/-- One element; `encoding` is all of its bytes and `content` those after tag and length. -/
structure Element where
  tag : Tag
  constructed : Bool
  content : Bytes
  encoding : Bytes
  deriving Repr, DecidableEq

namespace Tag

def boolean : Tag := ⟨.universal, 1⟩
def integer : Tag := ⟨.universal, 2⟩
def bitString : Tag := ⟨.universal, 3⟩
def octetString : Tag := ⟨.universal, 4⟩
def null : Tag := ⟨.universal, 5⟩
def oid : Tag := ⟨.universal, 6⟩
def enumerated : Tag := ⟨.universal, 10⟩
def utf8String : Tag := ⟨.universal, 12⟩
def sequence : Tag := ⟨.universal, 16⟩
def set : Tag := ⟨.universal, 17⟩
def utcTime : Tag := ⟨.universal, 23⟩
def generalizedTime : Tag := ⟨.universal, 24⟩

def context (n : Nat) : Tag := ⟨.context, n⟩

def classOf (b : UInt8) : TagClass :=
  if b < 64 then .universal else if b < 128 then .application else if b < 192 then .context
  else .reserved

end Tag

def split? (n : Nat) (bs : Bytes) : Option (Bytes × Bytes) :=
  if n ≤ bs.length then some (bs.take n, bs.drop n) else none

/-- A number in base 128 whose last digit has its top bit clear. -/
def readBase128? (acc : Nat) : Bytes → Option (Nat × Bytes)
  | [] => none
  | b :: rest =>
    let value := acc * 128 + b.toNat % 128
    if 2147483648 ≤ value then none
    else if b < 128 then some (value, rest)
    else readBase128? value rest

def readTag? : Bytes → Option (Tag × Bool × Bytes)
  | [] => none
  | b :: rest =>
    let constructed := b.toNat / 32 % 2 == 1
    if b.toNat % 32 = 31 then
      (readBase128? 0 rest).map fun (n, rest) => (⟨Tag.classOf b, n⟩, constructed, rest)
    else some (⟨Tag.classOf b, b.toNat % 32⟩, constructed, rest)

/-- The length of an element: a number of bytes, or open until an end marker. -/
inductive Extent where
  | definite (n : Nat)
  | untilEnd
  deriving Repr, DecidableEq

/-- A length of `n` bytes in its long form, in few enough digits: zeros in front of them do not count,
and the length must not end the input. -/
def basicLength? (n : Nat) (bs : Bytes) : Option (Extent × Bytes) :=
  if bs.length ≤ n then none
  else
    let digits : Bytes := (bs.take n).dropWhile (· == 0)
    if 8 < digits.length ∨ 2 ^ 63 ≤ digits.toNat then none
    else some (.definite digits.toNat, bs.drop n)

/-- A length of `n` bytes in its long form, with as many digits as there are. -/
def strictLength? (n : Nat) (bs : Bytes) : Option (Extent × Bytes) :=
  if n = 127 then none
  else
    match split? n bs with
    | none => none
    | some ((digits : Bytes), rest) =>
      if 2 ^ 63 ≤ digits.toNat then none
      else some (.definite digits.toNat, rest)

def readExtent? (rules : Rules) : Bytes → Option (Extent × Bytes)
  | [] => none
  | b :: rest =>
    if b < 128 then some (.definite b.toNat, rest)
    else
      match rules with
      | .basic => if b = 128 then some (.untilEnd, rest) else basicLength? (b.toNat - 128) rest
      | .strict => if b = 128 then none else strictLength? (b.toNat - 128) rest

/-- The bytes after the end marker that closes `level + 1` open elements. -/
def afterEnd? (fuel level : Nat) (bs : Bytes) : Option Bytes :=
  match fuel with
  | 0 => none
  | fuel + 1 =>
    match bs with
    | 0 :: 0 :: rest =>
      match level with
      | 0 => some rest
      | level + 1 => afterEnd? fuel level rest
    | _ =>
      match readTag? bs with
      | none => none
      | some (_, constructed, rest) =>
        match readExtent? .basic rest with
        | none => none
        | some (.untilEnd, rest) =>
          if constructed then afterEnd? fuel (level + 1) rest else none
        | some (.definite n, rest) =>
          match split? n rest with
          | none => none
          | some (_, rest) => afterEnd? fuel level rest

/-- Takes one element off the front. -/
def read? (rules : Rules) (bs : Bytes) : Option (Element × Bytes) :=
  match readTag? bs with
  | none => none
  | some (tag, constructed, body) =>
    match readExtent? rules body with
    | none => none
    | some (.definite n, body) =>
      match split? n body with
      | none => none
      | some (content, rest) =>
        some (⟨tag, constructed, content, bs.take (bs.length - rest.length)⟩, rest)
    | some (.untilEnd, body) =>
      if constructed then
        match afterEnd? body.length 0 body with
        | none => none
        | some rest =>
          some (⟨tag, constructed, body.take (body.length - rest.length - 2),
            bs.take (bs.length - rest.length)⟩, rest)
      else none

theorem split?_eq_some {n : Nat} {bs a b : Bytes} (h : split? n bs = some (a, b)) :
    bs = a ++ b ∧ a.length = n := by
  unfold split? at h
  split at h
  · next hn =>
    obtain ⟨rfl, rfl⟩ := by simpa using h
    simp [hn]
  · simp at h

theorem length_readBase128? {acc n : Nat} {bs rest : Bytes}
    (h : readBase128? acc bs = some (n, rest)) : rest.length < bs.length := by
  induction bs generalizing acc with
  | nil => simp [readBase128?] at h
  | cons b bs ih =>
    simp only [readBase128?] at h
    split at h
    · simp at h
    · split at h
      · obtain ⟨-, rfl⟩ := by simpa using h
        simp
      · have := ih h
        simp
        omega

theorem length_readTag? {bs rest : Bytes} {tag : Tag} {constructed : Bool}
    (h : readTag? bs = some (tag, constructed, rest)) : rest.length < bs.length := by
  cases bs with
  | nil => simp [readTag?] at h
  | cons b bs =>
    simp only [readTag?] at h
    split at h
    · cases hr : readBase128? 0 bs with
      | none => simp [hr] at h
      | some p =>
        obtain ⟨n, r⟩ := p
        have := length_readBase128? hr
        simp only [hr, Option.map_some, Option.some.injEq, Prod.mk.injEq] at h
        obtain ⟨-, -, rfl⟩ := h
        simp
        omega
    · simp only [Option.some.injEq, Prod.mk.injEq] at h
      obtain ⟨-, -, rfl⟩ := h
      simp

theorem length_basicLength? {n : Nat} {bs rest : Bytes} {e : Extent}
    (h : basicLength? n bs = some (e, rest)) : rest.length ≤ bs.length := by
  unfold basicLength? at h
  split at h
  · simp at h
  · dsimp only at h
    split at h
    · simp at h
    · obtain ⟨-, rfl⟩ := by simpa using h
      simp

theorem length_strictLength? {n : Nat} {bs rest : Bytes} {e : Extent}
    (h : strictLength? n bs = some (e, rest)) : rest.length ≤ bs.length := by
  unfold strictLength? at h
  split at h
  · simp at h
  · split at h
    · simp at h
    · next hs =>
      have hlen := congrArg List.length (split?_eq_some hs).1
      split at h
      · simp at h
      · obtain ⟨-, rfl⟩ := by simpa using h
        simp at hlen
        omega

theorem length_readExtent? {rules : Rules} {bs rest : Bytes} {e : Extent}
    (h : readExtent? rules bs = some (e, rest)) : rest.length < bs.length := by
  cases bs with
  | nil => simp [readExtent?] at h
  | cons b bs =>
    simp only [readExtent?] at h
    rw [List.length_cons]
    split at h
    · obtain ⟨-, rfl⟩ := by simpa using h
      omega
    · cases rules with
      | basic =>
        simp only at h
        split at h
        · obtain ⟨-, rfl⟩ := by simpa using h
          omega
        · have := length_basicLength? h
          omega
      | strict =>
        simp only at h
        split at h
        · simp at h
        · have := length_strictLength? h
          omega

theorem length_afterEnd? {fuel level : Nat} {bs rest : Bytes}
    (h : afterEnd? fuel level bs = some rest) : rest.length < bs.length := by
  induction fuel generalizing level bs with
  | zero => simp [afterEnd?] at h
  | succ fuel ih =>
    unfold afterEnd? at h
    split at h
    · split at h
      · obtain rfl := by simpa using h
        simp only [List.length_cons]
        omega
      · have := ih h
        simp
        omega
    · split at h
      · simp at h
      · next hr =>
        have h1 := length_readTag? hr
        split at h
        · simp at h
        · next he =>
          have h2 := length_readExtent? he
          split at h
          · have := ih h
            omega
          · simp at h
        · next he =>
          have h2 := length_readExtent? he
          split at h
          · simp at h
          · next hs =>
            have h3 := congrArg List.length (split?_eq_some hs).1
            have := ih h
            simp at h3
            omega

/-- Reading an element consumes at least one byte. -/
theorem length_read? {rules : Rules} {bs rest : Bytes} {e : Element}
    (h : read? rules bs = some (e, rest)) : rest.length < bs.length := by
  unfold read? at h
  split at h
  · simp at h
  · next ht =>
    have h1 := length_readTag? ht
    split at h
    · simp at h
    · next he =>
      have h2 := length_readExtent? he
      split at h
      · simp at h
      · next hs =>
        have h3 := congrArg List.length (split?_eq_some hs).1
        simp only [Option.some.injEq, Prod.mk.injEq] at h
        obtain ⟨-, rfl⟩ := h
        simp at h3
        omega
    · next he =>
      have h2 := length_readExtent? he
      split at h
      · split at h
        · simp at h
        · next ha =>
          have h3 := length_afterEnd? ha
          simp only [Option.some.injEq, Prod.mk.injEq] at h
          obtain ⟨-, rfl⟩ := h
          omega
      · simp at h

/-- The elements that make up `bs`, which must end with the last of them; an end marker is none. -/
def readAll? (rules : Rules) (bs : Bytes) : Option (List Element) :=
  match bs with
  | [] => some []
  | 0 :: 0 :: _ => none
  | b :: tail =>
    match _h : read? rules (b :: tail) with
    | none => none
    | some (e, rest) => (readAll? rules rest).map (e :: ·)
termination_by bs.length
decreasing_by exact length_read? (by assumption)

end TlsSetup.Der
