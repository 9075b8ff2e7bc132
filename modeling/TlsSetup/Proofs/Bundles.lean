import TlsSetup.Proofs.Attempt
import TlsSetup.Proofs.Reading
import TlsSetup.Trust.Revocation

/-!
# Encodings that follow one another

A bundle is a byte string made of complete encodings of revocation lists. It is read as the lists that
it is made of, in their order, and whatever is not a bundle is refused.
-/

namespace TlsSetup.X509

open Der

namespace Outline

theorem split?_cut {bs one rest : Bytes} (h : split? bs = some (one, rest)) :
    bs = one ++ rest ∧ ∀ after, split? (one ++ after) = some (one, after) := by
  obtain ⟨⟨e, more⟩, hread, h⟩ := Option.bind_eq_some_iff.mp h
  obtain ⟨u, hguard, h⟩ := Option.bind_eq_some_iff.mp h
  obtain ⟨v, hparts, h⟩ := Option.bind_eq_some_iff.mp h
  obtain ⟨rfl, rfl⟩ : e.encoding = one ∧ more = rest := by simpa using h
  obtain ⟨hbs, hagain⟩ := read?_strict hread
  refine ⟨hbs, fun after => Option.bind_eq_some_iff.mpr ⟨(e, after), hagain after, ?_⟩⟩
  exact Option.bind_eq_some_iff.mpr ⟨u, hguard, Option.bind_eq_some_iff.mpr ⟨v, hparts, rfl⟩⟩

private theorem head_of_split? {b : UInt8} {bs one rest : Bytes}
    (h : split? (b :: bs) = some (one, rest)) :
    b.toNat % 32 = 31 ∨ b.toNat % 32 = 16 := by
  obtain ⟨⟨e, more⟩, hread, h⟩ := Option.bind_eq_some_iff.mp h
  obtain ⟨u, hguard, -⟩ := Option.bind_eq_some_iff.mp h
  obtain ⟨body, htag⟩ := readTag?_of_read? hread
  have hnumber : e.tag.number = 16 := by simpa [guard, isNumbered, Tag.sequence] using hguard
  rw [← hnumber]
  exact number_of_readTag? htag

end Outline

namespace RevocationList

variable {bs d after : Bytes} {ds : List Bytes} {list : RevocationList} {lists : List RevocationList}

/-- `d` is one complete encoding of `list`: it is cut off whole, and it can be decoded. -/
structure Encodes (d : Bytes) (list : RevocationList) : Prop where
  complete : Outline.split? d = some (d, [])
  decoded : decode? d = some list

/-- `d` is one complete encoding. -/
def IsEncoding (d : Bytes) : Prop := ∃ list, Encodes d list

/-- `bs` is made of complete encodings. -/
def IsBundle (bs : Bytes) : Prop := ∃ ds : List Bytes, bs = ds.flatten ∧ ∀ d ∈ ds, IsEncoding d

theorem Encodes.split?_append (h : Encodes d list) (after : Bytes) :
    Outline.split? (d ++ after) = some (d, after) :=
  (Outline.split?_cut h.complete).2 after

theorem Encodes.ne_nil (h : Encodes d list) : d ≠ [] := by
  rintro rfl
  simpa using Outline.length_split? h.complete

theorem decode?_append (h : decode? d = some list) (after : Bytes) :
    decode? (d ++ after) = some list := by
  obtain ⟨⟨e, rest⟩, hread, hlist⟩ := Option.bind_eq_some_iff.mp h
  exact Option.bind_eq_some_iff.mpr ⟨(e, rest ++ after), read?_append hread after, hlist⟩

theorem forall₂_encodes (h : ∀ d ∈ ds, IsEncoding d) : ∃ lists, List.Forall₂ Encodes ds lists := by
  induction ds with
  | nil => exact ⟨[], .nil⟩
  | cons d ds ih =>
    obtain ⟨⟨list, hlist⟩, hds⟩ := List.forall_mem_cons.mp h
    obtain ⟨lists, hlists⟩ := ih hds
    exact ⟨list :: lists, .cons hlist hlists⟩

theorem isEncoding_of_forall₂ (h : List.Forall₂ Encodes ds lists) : ∀ d ∈ ds, IsEncoding d := by
  induction h with
  | nil => simp
  | cons hd _ ih => exact List.forall_mem_cons.mpr ⟨⟨_, hd⟩, ih⟩

theorem ofBytes_eq_ok_iff : ofBytes bs = .ok list ↔ decode? bs = some list := by
  cases hd : decode? bs <;> simp [ofBytes, hd]

theorem ofEncodings_eq (hne : bs ≠ []) :
    ofEncodings bs = match Outline.split? bs with
      | none => .error (.parse .crlStructure)
      | some (one, rest) => do
        let list ← ofBytes one
        let lists ← ofEncodings rest
        return list :: lists := by
  cases bs with
  | nil => exact absurd rfl hne
  | cons b tail =>
    rw [ofEncodings]
    split
    · next hnone => rw [hnone]
    · next hsome => rw [hsome]

theorem ofEncodings_cons (h : Encodes d list) (after : Bytes) :
    ofEncodings (d ++ after) = (do let lists ← ofEncodings after; return list :: lists) := by
  have hne : d ++ after ≠ [] := List.append_ne_nil_of_left_ne_nil h.ne_nil after
  rw [ofEncodings_eq hne, h.split?_append after]
  simp only [ofBytes_eq_ok_iff.mpr h.decoded]
  rfl

private theorem ofEncodings_eq_error {e : Error} (h : ofEncodings bs = .error e) :
    ∃ fault, e = .parse fault := by
  fun_induction ofEncodings bs with
  | case1 => cases h
  | case2 b tail hsplit => exact ⟨_, (Except.error.inj h).symm⟩
  | case3 b tail one rest hsplit ih =>
    unfold ofBytes at h
    split at h
    · cases hrest : ofEncodings rest with
      | ok lists =>
        rw [hrest] at h
        cases h
      | error fault =>
        rw [hrest] at h
        exact ih (hrest.trans h)
    · exact ⟨_, (Except.error.inj h).symm⟩

/-- Exactly the bundles are read, as the lists that they are made of. -/
theorem ofEncodings_eq_ok_iff :
    ofEncodings bs = .ok lists ↔ ∃ ds : List Bytes, bs = ds.flatten ∧ List.Forall₂ Encodes ds lists := by
  constructor
  · intro h
    fun_induction ofEncodings bs generalizing lists with
    | case1 =>
      obtain rfl := Except.ok.inj h
      exact ⟨[], rfl, .nil⟩
    | case2 b tail hsplit => cases h
    | case3 b tail one rest hsplit ih =>
      obtain ⟨list, hone, h⟩ := except_bind_eq_ok.mp h
      obtain ⟨others, hothers, h⟩ := except_bind_eq_ok.mp h
      obtain rfl := except_pure_eq_ok.mp h
      obtain ⟨hbs, hagain⟩ := Outline.split?_cut hsplit
      obtain ⟨ds, rfl, hds⟩ := ih hothers
      exact ⟨one :: ds, hbs, .cons ⟨by simpa using hagain [], ofBytes_eq_ok_iff.mp hone⟩ hds⟩
  · rintro ⟨ds, rfl, h⟩
    induction h with
    | nil => simp [ofEncodings]
    | cons hd _ ih =>
      rw [List.flatten_cons, ofEncodings_cons hd, ih]
      rfl

theorem isBundle_iff : IsBundle bs ↔ ∃ lists, ofEncodings bs = .ok lists := by
  constructor
  · rintro ⟨ds, rfl, hds⟩
    obtain ⟨lists, hlists⟩ := forall₂_encodes hds
    exact ⟨lists, ofEncodings_eq_ok_iff.mpr ⟨ds, rfl, hlists⟩⟩
  · rintro ⟨lists, h⟩
    obtain ⟨ds, rfl, hds⟩ := ofEncodings_eq_ok_iff.mp h
    exact ⟨ds, rfl, isEncoding_of_forall₂ hds⟩

theorem ofEncodings_of_not_isBundle (h : ¬ IsBundle bs) :
    ∃ fault, ofEncodings bs = .error (.parse fault) := by
  cases hread : ofEncodings bs with
  | ok lists => exact absurd (isBundle_iff.mpr ⟨lists, hread⟩) h
  | error e =>
    obtain ⟨fault, rfl⟩ := ofEncodings_eq_error hread
    exact ⟨fault, rfl⟩

theorem textMark_eq_cons : textMark = 45 :: Bytes.ofString "----BEGIN" := rfl

theorem parseAll_append (h : Encodes d list) (after : Bytes) :
    parseAll (d ++ after) = ofEncodings (d ++ after) := by
  cases d with
  | nil => exact absurd rfl h.ne_nil
  | cons b tail =>
    have hhead := Outline.head_of_split? h.complete
    have hne {n : UInt8} (hn : n.toNat % 32 ≠ 31 ∧ n.toNat % 32 ≠ 16) : b ≠ n := by
      rintro rfl
      exact hhead.elim hn.1 hn.2
    have hblank : Text.isBlankByte b = false := by
      simp [Text.isBlankByte, hne (n := 32) (by decide), hne (n := 9) (by decide),
        hne (n := 10) (by decide), hne (n := 12) (by decide), hne (n := 13) (by decide)]
    have hmark : textMark.isPrefixOf (b :: (tail ++ after)) = false := by
      rw [textMark_eq_cons]
      simp [List.isPrefixOf, (hne (n := 45) (by decide)).symm]
    rw [parseAll, List.cons_append, List.dropWhile_cons_of_neg (by simp [hblank])]
    simp [hmark]

end RevocationList

end TlsSetup.X509
