import Mathlib
import TlsSetup.Bytes

/-!
# Items cut off the front

A reader of items without separators takes one item off the front of its input, then the next one off
what is left, and so on until nothing can be taken. It comes to an end if every item has bytes of its
own, and what it has taken by then depends on nothing but the input.
-/

namespace TlsSetup

/-- Takes one item off the front of a byte string, and gives what is left. -/
abbrev Cutter (α : Type) := Bytes → Option (α × Bytes)

namespace Cutter

variable {α : Type} {cut : Cutter α}

/-- Every item that is taken has bytes of its own. -/
def Shortens (cut : Cutter α) : Prop :=
  ∀ ⦃bs item rest⦄, cut bs = some (item, rest) → rest.length < bs.length

/-- Bytes that follow do not change what is taken. -/
def Stable (cut : Cutter α) : Prop :=
  ∀ ⦃bs item rest⦄, cut bs = some (item, rest) → ∀ more, cut (bs ++ more) = some (item, rest ++ more)

/-- Some rounds take `items` off `bs` and leave `rest`. -/
inductive Rounds (cut : Cutter α) : Bytes → List α → Bytes → Prop
  | done (bs : Bytes) : Rounds cut bs [] bs
  | next {bs between rest : Bytes} {item : α} {items : List α}
      (hcut : cut bs = some (item, between)) (hrounds : Rounds cut between items rest) :
      Rounds cut bs (item :: items) rest

namespace Rounds

variable {bs rest left : Bytes} {items others : List α}

theorem length_le (hcut : Shortens cut) (h : Rounds cut bs items rest) :
    items.length + rest.length ≤ bs.length := by
  induction h with
  | done bs => simp
  | next hitem _ ih =>
    have hless := hcut hitem
    simp only [List.length_cons]
    omega

theorem trans (h : Rounds cut bs items rest) (h' : Rounds cut rest others left) :
    Rounds cut bs (items ++ others) left := by
  induction h with
  | done bs => exact h'
  | next hitem _ ih => exact .next hitem (ih h')

theorem exists_others (h : Rounds cut bs items rest) (h' : Rounds cut bs others left)
    (hleft : cut left = none) : ∃ tail, Rounds cut rest tail left ∧ others = items ++ tail := by
  induction h generalizing others with
  | done bs => exact ⟨others, h', rfl⟩
  | next hitem _ ih =>
    cases h' with
    | done =>
      rw [hitem] at hleft
      cases hleft
    | next hother hrounds =>
      rw [hitem] at hother
      cases hother
      obtain ⟨tail, htail, rfl⟩ := ih hrounds
      exact ⟨tail, htail, rfl⟩

theorem unique (h : Rounds cut bs items rest) (hrest : cut rest = none)
    (h' : Rounds cut bs others left) (hleft : cut left = none) : items = others ∧ rest = left := by
  obtain ⟨tail, htail, rfl⟩ := h.exists_others h' hleft
  cases htail with
  | done => exact ⟨(List.append_nil items).symm, rfl⟩
  | next hitem _ =>
    rw [hrest] at hitem
    cases hitem

theorem append (hcut : Stable cut) (h : Rounds cut bs items rest) (more : Bytes) :
    Rounds cut (bs ++ more) items (rest ++ more) := by
  induction h with
  | done bs => exact .done _
  | next hitem _ ih => exact .next (hcut hitem more) ih

/-- If an item is taken with the bytes that stand for it, rounds take items that follow one another. -/
theorem iff_flatten {P : Bytes → α → Prop}
    (hcut : ∀ {bs item rest}, cut bs = some (item, rest) ↔ ∃ d, bs = d ++ rest ∧ P d item) :
    Rounds cut bs items rest ↔
      ∃ ds : List Bytes, bs = ds.flatten ++ rest ∧ List.Forall₂ P ds items := by
  constructor
  · intro h
    induction h with
    | done bs => exact ⟨[], rfl, .nil⟩
    | next hitem _ ih =>
      obtain ⟨d, rfl, hd⟩ := hcut.mp hitem
      obtain ⟨ds, rfl, hds⟩ := ih
      refine ⟨d :: ds, ?_, .cons hd hds⟩
      rw [List.flatten_cons, List.append_assoc]
  · intro h
    obtain ⟨ds, rfl, hds⟩ := h
    induction hds with
    | nil => exact .done _
    | cons hd _ ih =>
      rw [List.flatten_cons, List.append_assoc]
      exact .next (hcut.mpr ⟨_, rfl, hd⟩) ih

end Rounds

theorem eq_none_of_shortens (hcut : Shortens cut) : cut [] = none := by
  cases hitem : cut [] with
  | none => rfl
  | some taken => exact absurd (hcut hitem) (Nat.not_lt_zero _)

/-- Every input is cut up as far as possible in finitely many rounds. -/
theorem exists_rounds (hcut : Shortens cut) (bs : Bytes) :
    ∃ items rest, Rounds cut bs items rest ∧ cut rest = none := by
  induction hn : bs.length using Nat.strong_induction_on generalizing bs with
  | h n ih =>
    cases hitem : cut bs with
    | none => exact ⟨[], bs, .done bs, hitem⟩
    | some taken =>
      obtain ⟨item, between⟩ := taken
      have hless := hcut hitem
      obtain ⟨items, rest, hrounds, hrest⟩ := ih between.length (by omega) between rfl
      exact ⟨item :: items, rest, .next hitem hrounds, hrest⟩

end Cutter

end TlsSetup
