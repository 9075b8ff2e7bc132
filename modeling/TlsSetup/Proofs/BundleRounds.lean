import TlsSetup.Proofs.BundleForms
import TlsSetup.Proofs.Cutting

/-!
# Bundles are read to the last byte

Encodings that follow one another are read in rounds: each takes one list off the front of what is
left, and the bytes that it has taken are told from the length of what it leaves. The rounds end, and
only what they have taken to the last byte is a result; there is only one way to cut a bundle up.
-/

namespace TlsSetup.X509.RevocationList

open Cutter (Rounds Shortens)

variable {bs rest : Bytes} {ds ds' : List Bytes} {list : RevocationList}
  {lists : List RevocationList}

/-- One round: cuts a list off by its outline, and decodes the bytes that are gone. -/
def cut? : Cutter RevocationList := fun bs => do
  let (_, rest) ← Outline.split? bs
  let list ← decode? (bs.take (bs.length - rest.length))
  return (list, rest)

private theorem take_of_split? {one : Bytes} (h : Outline.split? bs = some (one, rest)) :
    bs.take (bs.length - rest.length) = one := by
  obtain ⟨rfl, -⟩ := Outline.split?_cut h
  rw [List.length_append, Nat.add_sub_cancel, List.take_left]

theorem cut?_eq_some_iff :
    cut? bs = some (list, rest) ↔ ∃ d, bs = d ++ rest ∧ Encodes d list := by
  constructor
  · intro h
    obtain ⟨⟨one, after⟩, hsplit, h⟩ := Option.bind_eq_some_iff.mp h
    obtain ⟨read, hread, h⟩ := Option.bind_eq_some_iff.mp h
    obtain ⟨rfl, rfl⟩ : read = list ∧ after = rest := by simpa using h
    rw [take_of_split? hsplit] at hread
    obtain ⟨hbs, hagain⟩ := Outline.split?_cut hsplit
    exact ⟨one, hbs, by simpa using hagain [], hread⟩
  · intro h
    obtain ⟨d, rfl, hd⟩ := h
    have hsplit := hd.split?_append rest
    refine Option.bind_eq_some_iff.mpr ⟨(d, rest), hsplit, ?_⟩
    refine Option.bind_eq_some_iff.mpr ⟨list, ?_, rfl⟩
    rw [take_of_split? hsplit]
    exact hd.decoded

private theorem shortens_split? : Shortens Outline.split? := fun _ _ _ => Outline.length_split?

theorem shortens_cut? : Shortens cut? := by
  intro bs list rest h
  obtain ⟨d, rfl, hd⟩ := cut?_eq_some_iff.mp h
  exact Outline.length_split? (hd.split?_append rest)

private theorem split?_eq_some_iff {one : Bytes} : Outline.split? bs = some (one, rest) ↔
    ∃ d, bs = d ++ rest ∧ d = one ∧ Outline.split? d = some (d, []) := by
  constructor
  · intro h
    obtain ⟨hbs, hagain⟩ := Outline.split?_cut h
    exact ⟨one, hbs, rfl, by simpa using hagain []⟩
  · intro h
    obtain ⟨d, rfl, rfl, hd⟩ := h
    exact (Outline.split?_cut hd).2 rest

/-- There is one way at most to cut a byte string up into lists by their outlines. -/
theorem cuts_unique (hds : ∀ d ∈ ds, Outline.split? d = some (d, []))
    (hds' : ∀ d ∈ ds', Outline.split? d = some (d, [])) (h : ds.flatten = ds'.flatten) :
    ds = ds' := by
  have hrounds : ∀ cuts : List Bytes, (∀ d ∈ cuts, Outline.split? d = some (d, [])) →
      Rounds Outline.split? cuts.flatten cuts [] := by
    intro cuts hcuts
    refine (Rounds.iff_flatten split?_eq_some_iff).mpr ⟨cuts, by simp, ?_⟩
    rw [List.forall₂_same]
    intro d hd
    exact ⟨rfl, hcuts d hd⟩
  have hend := Cutter.eq_none_of_shortens shortens_split?
  have hfirst := hrounds ds hds
  rw [h] at hfirst
  exact (hfirst.unique hend (hrounds ds' hds') hend).1

private theorem ofEncodings_of_rounds (h : Rounds cut? bs lists rest) :
    ofEncodings bs = (ofEncodings rest).map (lists ++ ·) := by
  induction h with
  | done bs => cases ofEncodings bs <;> rfl
  | next hcut _ ih =>
    obtain ⟨d, rfl, hd⟩ := cut?_eq_some_iff.mp hcut
    rw [ofEncodings_cons hd, ih]
    cases ofEncodings _ <;> rfl

/-- Why no list can be taken off the front: there is no outline of one, or it cannot be decoded. -/
inductive Refuses (bs : Bytes) : ParseFault → Prop
  | outline (h : Outline.split? bs = none) : Refuses bs .crlStructure
  | content {one rest : Bytes} (h : Outline.split? bs = some (one, rest))
      (hone : decode? one = none) : Refuses bs .crlContent

private theorem exists_refuses (h : cut? bs = none) : ∃ fault, Refuses bs fault := by
  cases hsplit : Outline.split? bs with
  | none => exact ⟨_, .outline hsplit⟩
  | some taken =>
    obtain ⟨one, rest⟩ := taken
    cases hone : decode? one with
    | none => exact ⟨_, .content hsplit hone⟩
    | some list =>
      obtain ⟨d, rfl, rfl, hd⟩ := split?_eq_some_iff.mp hsplit
      have hcut : cut? (d ++ rest) = some (list, rest) :=
        cut?_eq_some_iff.mpr ⟨d, rfl, hd, hone⟩
      rw [h] at hcut
      cases hcut

private theorem ofEncodings_of_refuses {fault : ParseFault} (hne : bs ≠ []) (h : Refuses bs fault) :
    ofEncodings bs = .error (.parse fault) := by
  rw [ofEncodings_eq hne]
  cases h with
  | outline hsplit => rw [hsplit]
  | content hsplit hone =>
    simp only [hsplit, ofBytes, hone]
    rfl

private theorem parseAll_of_content (hcontent : HasContent bs)
    (hform : ¬ textMark <+: bs.dropWhile Text.isBlankByte) : parseAll bs = ofEncodings bs := by
  have hne : (bs.dropWhile Text.isBlankByte).isEmpty = false := by
    rw [List.isEmpty_eq_false_iff, Ne, dropWhile_isBlankByte_eq_nil_iff, not_not]
    exact hcontent
  have hmark : textMark.isPrefixOf (bs.dropWhile Text.isBlankByte) = false := by
    rwa [← Bool.not_eq_true, List.isPrefixOf_iff_prefix]
  rw [parseAll, hne, hmark]
  rfl

/-- Data that is neither blank nor text is read in finitely many rounds, and what decides is what the
last of them leaves: the lists are the result if it is nothing, and the reason for which no further list
can be taken off it is an error otherwise. So exactly the data that is made of encodings, from the first
byte to the last, is read, as the lists that they encode; all other data is refused as a whole. Data can
be cut up in one way at most. -/
theorem parseAll_accounts_for_all_bytes (hcontent : HasContent bs)
    (hform : ¬ textMark <+: bs.dropWhile Text.isBlankByte) :
    (∀ lists rest, Rounds cut? bs lists rest → lists.length + rest.length ≤ bs.length) ∧
    (∃ lists rest, Rounds cut? bs lists rest ∧ cut? rest = none ∧
      (rest = [] ∧ parseAll bs = .ok lists ∨
        rest ≠ [] ∧ ∃ fault, Refuses rest fault ∧ parseAll bs = .error (.parse fault))) ∧
    (∀ lists, parseAll bs = .ok lists ↔ ∃ ds : List Bytes, ds ≠ [] ∧ (∀ d ∈ ds, d ≠ []) ∧
      ds.flatten = bs ∧ List.Forall₂ Encodes ds lists) ∧
    (∀ ds ds' : List Bytes, ds.flatten = bs → ds'.flatten = bs →
      (∀ d ∈ ds, Outline.split? d = some (d, [])) →
      (∀ d ∈ ds', Outline.split? d = some (d, [])) → ds = ds') ∧
    ((∃ fault, parseAll bs = .error (.parse fault)) ↔ ¬ IsBundle bs) := by
  rw [parseAll_of_content hcontent hform]
  refine ⟨fun _ _ => Rounds.length_le shortens_cut?, ?_, ?_, ?_, ?_⟩
  · obtain ⟨lists, rest, hrounds, hrest⟩ := Cutter.exists_rounds shortens_cut? bs
    refine ⟨lists, rest, hrounds, hrest, ?_⟩
    rw [ofEncodings_of_rounds hrounds]
    by_cases hnil : rest = []
    · refine .inl ⟨hnil, ?_⟩
      rw [hnil, ofEncodings, Except.map, List.append_nil]
    · obtain ⟨fault, hfault⟩ := exists_refuses hrest
      refine .inr ⟨hnil, fault, hfault, ?_⟩
      rw [ofEncodings_of_refuses hnil hfault, Except.map]
  · intro lists
    rw [ofEncodings_eq_ok_iff]
    constructor
    · intro h
      obtain ⟨ds, hbs, hds⟩ := h
      refine ⟨ds, ?_, ?_, hbs.symm, hds⟩
      · intro hnil
        obtain ⟨b, hb, -⟩ := hcontent
        rw [hbs, hnil] at hb
        cases hb
      · intro d hd
        obtain ⟨list, hlist⟩ := isEncoding_of_forall₂ hds d hd
        exact hlist.ne_nil
    · intro h
      obtain ⟨ds, -, -, hbs, hds⟩ := h
      exact ⟨ds, hbs.symm, hds⟩
  · intro ds ds' hbs hbs' hds hds'
    exact cuts_unique hds hds' (hbs.trans hbs'.symm)
  · constructor
    · intro h hbundle
      obtain ⟨fault, hfault⟩ := h
      obtain ⟨lists, hlists⟩ := isBundle_iff.mp hbundle
      rw [hlists] at hfault
      cases hfault
    · exact ofEncodings_of_not_isBundle

private theorem not_isBundle_blank : ¬ IsBundle (32 :: bareListBytes) := by
  have hread : ofEncodings (32 :: bareListBytes) = .error (.parse .crlStructure) := by cbv
  rw [isBundle_iff, hread]
  intro h
  obtain ⟨lists, h⟩ := h
  cases h

/-- Two lists are read, but not one with a blank in front of it. -/
theorem parseAll_accounts_for_all_bytes_twoLists :
    (HasContent (bareListBytes ++ bareListBytes) ∧
      ¬ textMark <+: (bareListBytes ++ bareListBytes).dropWhile Text.isBlankByte ∧
      parseAll (bareListBytes ++ bareListBytes) = .ok [bareList, bareList]) ∧
    HasContent (32 :: bareListBytes) ∧
      ¬ textMark <+: (32 :: bareListBytes).dropWhile Text.isBlankByte ∧
      ∃ fault, parseAll (32 :: bareListBytes) = .error (.parse fault) := by
  have htwo : HasContent (bareListBytes ++ bareListBytes) := by decide
  have htwoForm : ¬ textMark <+: (bareListBytes ++ bareListBytes).dropWhile Text.isBlankByte := by
    decide
  have hblank : HasContent (32 :: bareListBytes) := by decide
  have hblankForm : ¬ textMark <+: (32 :: bareListBytes).dropWhile Text.isBlankByte := by
    decide
  have hone := encodes_bareListBytes
  obtain ⟨-, -, hread, -, -⟩ := parseAll_accounts_for_all_bytes htwo htwoForm
  obtain ⟨-, -, -, -, hrefused⟩ := parseAll_accounts_for_all_bytes hblank hblankForm
  refine ⟨⟨htwo, htwoForm, ?_⟩, hblank, hblankForm, hrefused.mpr not_isBundle_blank⟩
  refine (hread _).mpr ⟨[bareListBytes, bareListBytes], by simp, ?_, by simp, ?_⟩
  · simp [hone.ne_nil]
  · exact .cons hone (.cons hone .nil)

end TlsSetup.X509.RevocationList
