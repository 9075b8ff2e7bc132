import TlsSetup.Proofs.Cutting
import TlsSetup.Proofs.Protocols

/-!
# The names in a peer's list

A peer may send any bytes as its list of protocols. The names that are read are those of the longest
part at the front that is a list as it is written: after it the bytes end, or a length is zero or goes
beyond the end. Nothing beyond the end is looked at, and what follows a name does not change it.
-/

namespace TlsSetup

/-- The `length` bytes from `start` on, if all of them are there. -/
def Bytes.slice? (bs : Bytes) (start length : Nat) : Option Bytes :=
  if start + length ≤ bs.length then some ((bs.drop start).take length) else none

theorem Bytes.slice?_append (front piece rest : Bytes) :
    slice? (front ++ (piece ++ rest)) front.length piece.length = some piece := by
  have hfits : front.length + piece.length ≤ (front ++ (piece ++ rest)).length := by
    simp only [List.length_append]
    omega
  rw [slice?, if_pos hfits, List.drop_left, List.take_left]

theorem Bytes.length_of_slice? {bs piece : Bytes} {start length : Nat}
    (h : bs.slice? start length = some piece) : piece.length = length := by
  rw [slice?] at h
  split at h
  · next hfits =>
    obtain rfl := Option.some.inj h
    rw [List.length_take, List.length_drop]
    omega
  · cases h

namespace Alpn

open Cutter (Rounds Shortens Stable)

variable {bs name rest : Bytes} {names : List Bytes}

/-- Takes the first name off a list. -/
def cut? : Cutter Bytes
  | [] => none
  | n :: rest =>
    if n = 0 ∨ rest.length < n.toNat then none else some (rest.take n.toNat, rest.drop n.toNat)

/-- No name begins here: the bytes end, or a length is zero or goes beyond the end. -/
inductive Ends : Bytes → Prop
  | nil : Ends []
  | zero (after : Bytes) : Ends (0 :: after)
  | beyond {n : UInt8} {after : Bytes} (h : after.length < n.toNat) : Ends (n :: after)

private theorem cut?_cons_eq_none_iff {n : UInt8} :
    cut? (n :: rest) = none ↔ n = 0 ∨ rest.length < n.toNat := by
  rw [cut?]
  split <;> simp_all

private theorem cut?_eq_none_iff : cut? bs = none ↔ Ends bs := by
  cases bs with
  | nil => exact iff_of_true rfl .nil
  | cons n after =>
    rw [cut?_cons_eq_none_iff]
    constructor
    · intro h
      rcases h with rfl | hbeyond
      · exact .zero after
      · exact .beyond hbeyond
    · intro h
      cases h with
      | zero => exact .inl rfl
      | beyond hbeyond => exact .inr hbeyond

theorem cut?_eq_some_iff : cut? bs = some (name, rest) ↔
    isName name = true ∧ bs = UInt8.ofNat name.length :: (name ++ rest) := by
  constructor
  · intro h
    cases bs with
    | nil => cases h
    | cons n after =>
      rw [cut?] at h
      split at h
      · cases h
      · next hfits =>
        obtain ⟨rfl, rfl⟩ := by simpa using h
        rw [not_or, not_lt] at hfits
        have hlength : (after.take n.toNat).length = n.toNat := by
          rw [List.length_take]
          omega
        have hpos : n.toNat ≠ 0 := fun hzero => hfits.1 (UInt8.toNat_inj.mp hzero)
        have hmax := n.toNat_lt
        refine ⟨isName_iff.mpr (by omega), ?_⟩
        rw [hlength, List.take_append_drop, UInt8.ofNat_toNat]
  · intro h
    obtain ⟨hname, rfl⟩ := h
    rw [cut?, if_neg (length_of_isName hname rest), toNat_length hname, List.take_left,
      List.drop_left]

theorem shortens_cut? : Shortens cut? := by
  intro bs name rest h
  obtain ⟨-, rfl⟩ := cut?_eq_some_iff.mp h
  simp only [List.length_cons, List.length_append]
  omega

private theorem stable_cut? : Stable cut? := by
  intro bs name rest h more
  obtain ⟨hname, rfl⟩ := cut?_eq_some_iff.mp h
  exact cut?_eq_some_iff.mpr ⟨hname, by simp⟩

/-- Rounds take the names that are written in front of what they leave. -/
theorem rounds_cut?_iff : Rounds cut? bs names rest ↔
    (∀ name ∈ names, isName name = true) ∧ bs = encode names ++ rest := by
  constructor
  · intro h
    induction h with
    | done bs => exact ⟨nofun, rfl⟩
    | next hcut _ ih =>
      obtain ⟨hname, rfl⟩ := cut?_eq_some_iff.mp hcut
      obtain ⟨hnames, rfl⟩ := ih
      refine ⟨List.forall_mem_cons.mpr ⟨hname, hnames⟩, ?_⟩
      rw [encode_cons, List.cons_append, List.append_assoc]
  · intro h
    obtain ⟨hnames, rfl⟩ := h
    induction names with
    | nil => exact .done _
    | cons name names ih =>
      obtain ⟨hname, hnames⟩ := List.forall_mem_cons.mp hnames
      refine .next (cut?_eq_some_iff.mpr ⟨hname, ?_⟩) (ih hnames)
      rw [encode_cons, List.cons_append, List.append_assoc]

private theorem exists_rounds_decode (bs : Bytes) :
    ∃ rest, Rounds cut? bs (decode bs) rest ∧ cut? rest = none := by
  fun_induction decode bs with
  | case1 => exact ⟨[], .done [], rfl⟩
  | case2 n rest hend => exact ⟨n :: rest, .done _, cut?_cons_eq_none_iff.mpr hend⟩
  | case3 n rest hfits ih =>
    obtain ⟨left, hrounds, hleft⟩ := ih
    exact ⟨left, .next (by rw [cut?, if_neg hfits]) hrounds, hleft⟩

private theorem decode_eq_of_rounds (h : Rounds cut? bs names rest) (hrest : cut? rest = none) :
    decode bs = names := by
  obtain ⟨left, hrounds, hleft⟩ := exists_rounds_decode bs
  exact (hrounds.unique hleft h hrest).1

private theorem decode_append_of_rounds (h : Rounds cut? bs names rest) (more : Bytes) :
    decode (bs ++ more) = names ++ decode (rest ++ more) := by
  obtain ⟨left, hrounds, hleft⟩ := exists_rounds_decode (rest ++ more)
  exact decode_eq_of_rounds ((h.append stable_cut? more).trans hrounds) hleft

structure Entry where
  start : Nat
  name : Bytes
  deriving Repr, DecidableEq

/-- The entries of a list that stands at `place`. -/
def layout (place : Nat) : List Bytes → List Entry
  | [] => []
  | name :: names => ⟨place + 1, name⟩ :: layout (place + 1 + name.length) names

/-- Goes through `bs` from `place` on and reads each byte and each name at its own place. There is no
result if one of the reads is outside of `bs`. -/
def entriesFrom? (bs : Bytes) (place : Nat) : Option (List Entry) :=
  if place = bs.length then some []
  else
    match _h : bs[place]? with
    | none => none
    | some n =>
      if n = 0 ∨ bs.length < place + 1 + n.toNat then some []
      else do
        let name ← bs.slice? (place + 1) n.toNat
        let more ← entriesFrom? bs (place + 1 + n.toNat)
        return ⟨place + 1, name⟩ :: more
termination_by bs.length - place
decreasing_by
  have hplace := (List.getElem?_eq_some_iff.mp _h).1
  omega

theorem map_name_layout (place : Nat) (names : List Bytes) :
    (layout place names).map Entry.name = names := by
  induction names generalizing place with
  | nil => rfl
  | cons name names ih => simp only [layout, List.map_cons, ih]

theorem slice?_of_mem_entries {place : Nat} {entries : List Entry}
    (h : entriesFrom? bs place = some entries) :
    ∀ e ∈ entries, bs.slice? e.start e.name.length = some e.name := by
  fun_induction entriesFrom? bs place generalizing entries with
  | case1 =>
    obtain rfl := Option.some.inj h
    exact nofun
  | case2 => cases h
  | case3 =>
    obtain rfl := Option.some.inj h
    exact nofun
  | case4 place _ n _ _ ih =>
    obtain ⟨name, hname, h⟩ := Option.bind_eq_some_iff.mp h
    obtain ⟨more, hmore, h⟩ := Option.bind_eq_some_iff.mp h
    obtain rfl := Option.some.inj h
    refine List.forall_mem_cons.mpr ⟨?_, ih hmore⟩
    rw [Bytes.length_of_slice? hname]
    exact hname

private theorem entriesFrom?_cons (front : Bytes) (n : UInt8) (after : Bytes) :
    entriesFrom? (front ++ n :: after) front.length =
      if n = 0 ∨ after.length < n.toNat then some []
      else do
        let name ← (front ++ n :: after).slice? (front.length + 1) n.toNat
        let more ← entriesFrom? (front ++ n :: after) (front.length + 1 + n.toNat)
        return ⟨front.length + 1, name⟩ :: more := by
  have hplace : front.length ≠ (front ++ n :: after).length := by simp
  have hread : (front ++ n :: after)[front.length]? = some n := by simp
  have hbeyond : (front ++ n :: after).length < front.length + 1 + n.toNat ↔
      after.length < n.toNat := by
    simp only [List.length_append, List.length_cons]
    omega
  rw [entriesFrom?, if_neg hplace]
  split
  · next hnone =>
    rw [hread] at hnone
    cases hnone
  · next m hm =>
    obtain rfl := Option.some.inj (hread.symm.trans hm)
    simp only [hbeyond]

private theorem entriesFrom?_of_rounds (front : Bytes) (h : Rounds cut? bs names rest)
    (hrest : cut? rest = none) :
    entriesFrom? (front ++ bs) front.length = some (layout front.length names) := by
  induction h generalizing front with
  | done bs =>
    cases bs with
    | nil => simp [entriesFrom?, layout]
    | cons n after => rw [entriesFrom?_cons, if_pos (cut?_cons_eq_none_iff.mp hrest), layout]
  | @next bs between rest name names hcut _ ih =>
    obtain ⟨hname, rfl⟩ := cut?_eq_some_iff.mp hcut
    have hslice := Bytes.slice?_append (front ++ [UInt8.ofNat name.length]) name between
    rw [List.append_assoc, List.singleton_append, List.length_append, List.length_singleton]
      at hslice
    have hplace : (front ++ UInt8.ofNat name.length :: name).length =
        front.length + 1 + name.length := by
      simp only [List.length_append, List.length_cons]
      omega
    have hnext := ih (front ++ UInt8.ofNat name.length :: name) hrest
    rw [hplace, List.append_assoc, List.cons_append] at hnext
    rw [entriesFrom?_cons, if_neg (length_of_isName hname between), toNat_length hname, hslice,
      layout, Option.bind_eq_bind, Option.bind_some, hnext]
    rfl

theorem entriesFrom?_zero (bs : Bytes) : entriesFrom? bs 0 = some (layout 0 (decode bs)) := by
  obtain ⟨rest, hrounds, hrest⟩ := exists_rounds_decode bs
  exact entriesFrom?_of_rounds [] hrounds hrest

/-- `bs` is made of `names`, each behind its length, and of bytes with which no further name begins. -/
structure Parts (bs : Bytes) (names : List Bytes) (rest : Bytes) : Prop where
  fits : ∀ name ∈ names, 1 ≤ name.length ∧ name.length ≤ 255
  whole : bs = encode names ++ rest
  ends : Ends rest

private theorem parts_iff : Parts bs names rest ↔ Rounds cut? bs names rest ∧ cut? rest = none := by
  rw [rounds_cut?_iff, cut?_eq_none_iff]
  simp only [isName_iff]
  constructor
  · intro h
    exact ⟨⟨h.fits, h.whole⟩, h.ends⟩
  · intro h
    exact ⟨h.1.1, h.1.2, h.2⟩

/-- Any bytes are read, in at most as many rounds as there are bytes and without a read outside of
them, as the names of a list at their front and a rest with which no further name begins. There is only
one way to take them apart like this, any other list at their front is the beginning of this one, and
bytes that follow leave its names as they are. -/
theorem decode_longest_list_at_front (bs : Bytes) :
    (∀ names left, Rounds cut? bs names left → names.length + left.length ≤ bs.length) ∧
    ∃ rest, Rounds cut? bs (decode bs) rest ∧ Parts bs (decode bs) rest ∧
      (∀ names left, Parts bs names left → names = decode bs ∧ left = rest) ∧
      (∀ names left, (∀ name ∈ names, isName name = true) → bs = encode names ++ left →
        names <+: decode bs) ∧
      entriesFrom? bs 0 = some (layout 0 (decode bs)) ∧
      (∀ e ∈ layout 0 (decode bs), bs.slice? e.start e.name.length = some e.name) ∧
      ∀ more, decode bs <+: decode (bs ++ more) ∧
        decode (bs ++ more) = decode bs ++ decode (rest ++ more) := by
  obtain ⟨rest, hrounds, hrest⟩ := exists_rounds_decode bs
  have hparts := parts_iff.mpr ⟨hrounds, hrest⟩
  refine ⟨fun names left => Rounds.length_le shortens_cut?, rest, hrounds, hparts, ?_, ?_,
    entriesFrom?_zero bs, slice?_of_mem_entries (entriesFrom?_zero bs), ?_⟩
  · intro names left h
    obtain ⟨h, hleft⟩ := parts_iff.mp h
    exact h.unique hleft hrounds hrest
  · intro names left hnames hbs
    obtain ⟨tail, -, htail⟩ := (rounds_cut?_iff.mpr ⟨hnames, hbs⟩).exists_others hrounds hrest
    rw [htail]
    exact List.prefix_append _ _
  · intro more
    have happend := decode_append_of_rounds hrounds more
    refine ⟨?_, happend⟩
    rw [happend]
    exact List.prefix_append _ _

-- the second length goes beyond the end, though a name stands behind it
example : decode (2 :: Bytes.ofString "h2" ++ 9 :: Bytes.ofString "http/1.1") =
    [Bytes.ofString "h2"] := by cbv

end Alpn

end TlsSetup
