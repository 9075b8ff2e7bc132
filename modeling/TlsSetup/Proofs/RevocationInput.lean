import TlsSetup.Proofs.Revocation

/-!
# Revocation lists that are overlooked

Data that is not blank should be refused if it holds no revocation list. The form of the data is told
from its first word, though, which may be indented or end in a line feed, and the blocks of a text
begin only with lines that start with `-----BEGIN ` and its blank. Data between the two is taken for a
text without blocks: it gives no list and no error, and chains are not checked for revocation.
-/

namespace TlsSetup

open X509

namespace Pem

/-- A line of text that opens no block. -/
def IsPlainLine (line : Bytes) : Prop :=
  ∃ cs, readLine line = .ok cs ∧ opening.isPrefixOf cs = false

instance (line : Bytes) : Decidable (IsPlainLine line) :=
  match h : readLine line with
  | .error _ => .isFalse (by simp [IsPlainLine, h])
  | .ok cs => decidable_of_iff (opening.isPrefixOf cs = false) (by simp [IsPlainLine, h])

/-- The search finds nothing, without a fault, exactly if all lines can be passed over. -/
theorem findOpening_eq_none_iff (ls : List Bytes) :
    findOpening ls = .ok none ↔ ∀ line ∈ ls, IsPlainLine line := by
  induction ls with
  | nil => simp [findOpening]
  | cons line ls ih =>
    rw [List.forall_mem_cons, ← ih, IsPlainLine, findOpening]
    cases hl : readLine line with
    | error fault => simp
    | ok cs =>
      by_cases hp : opening.isPrefixOf cs = true
      · cases hc : label? (cs.drop opening.length) <;> simp [hp, hc]
      · simp [hp]

private theorem blocksOf_eq_nil_iff (ls : List Bytes) :
    blocksOf ls = [] ↔ ∀ line ∈ ls, IsPlainLine line := by
  rw [← findOpening_eq_none_iff, blocksOf]
  constructor
  · intro h
    split at h
    · cases h
    · assumption
    · split at h
      · cases h
      · split at h <;> cases h
  · intro h
    split
    · next he => rw [h] at he; cases he
    · rfl
    · next he => rw [h] at he; cases he

end Pem

/-- Some byte is not white space. -/
def HasContent (bs : Bytes) : Prop := ∃ b ∈ bs, Text.isBlankByte b = false

instance (bs : Bytes) : Decidable (HasContent bs) :=
  inferInstanceAs (Decidable (∃ b ∈ bs, Text.isBlankByte b = false))

namespace X509.RevocationList

/-- Text that is taken for a text with blocks, and in which no line opens one. -/
def Overlooked (bs : Bytes) : Prop :=
  textMark.isPrefixOf (bs.dropWhile Text.isBlankByte) = true ∧
    ∀ line ∈ Pem.lines bs, Pem.IsPlainLine line

instance (bs : Bytes) : Decidable (Overlooked bs) :=
  inferInstanceAs (Decidable (_ ∧ ∀ line ∈ Pem.lines bs, Pem.IsPlainLine line))

private theorem ofBlocks_eq_nil_iff (blocks : List (Except PemFault Pem.Block)) :
    ofBlocks blocks = .ok [] ↔ blocks = [] := by
  cases blocks with
  | nil => simp [ofBlocks]
  | cons block rest =>
    cases block with
    | error fault => simp [ofBlocks]
    | ok block =>
      rw [ofBlocks]
      split
      · simp
      · cases ofBytes block.contents <;> cases ofBlocks rest <;>
          simp [bind, Except.bind, pure, Except.pure]

private theorem ofEncodings_eq_nil_iff (bs : Bytes) : ofEncodings bs = .ok [] ↔ bs = [] := by
  cases bs with
  | nil => simp [ofEncodings]
  | cons b tail =>
    rw [ofEncodings]
    split
    · simp
    · next one rest _ =>
      cases ofBytes one <;> cases ofEncodings rest <;>
        simp [bind, Except.bind, pure, Except.pure]

theorem dropWhile_isBlankByte_eq_nil_iff (bs : Bytes) :
    bs.dropWhile Text.isBlankByte = [] ↔ ¬ HasContent bs := by
  rw [List.dropWhile_eq_nil_iff, HasContent]
  simp

/-- Blank data gives no list, and so does text that is overlooked; nothing else does. -/
theorem parseAll_eq_nil_iff (bs : Bytes) :
    parseAll bs = .ok [] ↔ ¬ HasContent bs ∨ Overlooked bs := by
  rw [← dropWhile_isBlankByte_eq_nil_iff, Overlooked, parseAll]
  by_cases hb : bs.dropWhile Text.isBlankByte = []
  · simp [hb]
  · by_cases hm : textMark.isPrefixOf (bs.dropWhile Text.isBlankByte) = true
    · simp [hb, hm, ofBlocks_eq_nil_iff, Pem.blocks, Pem.blocksOf_eq_nil_iff]
    · have hne : bs ≠ [] := by
        rintro rfl
        exact hb rfl
      simp [hb, hm, ofEncodings_eq_nil_iff, hne]

end X509.RevocationList

private theorem exists_of_forall₂ {α β : Type} {R : α → β → Prop} {xs : List α} {ys : List β}
    (h : List.Forall₂ R xs ys) : ∀ x ∈ xs, ∃ y, R x y := by
  induction h with
  | nil => simp
  | cons hx _ ih => exact List.forall_mem_cons.mpr ⟨⟨_, hx⟩, ih⟩

private theorem flatten_eq_nil_iff_of_forall₂ {α β : Type} {R : α → List β → Prop} {xs : List α}
    {ys : List (List β)} (hR : ∀ x ys zs, R x ys → R x zs → ys = zs) (h : List.Forall₂ R xs ys) :
    ys.flatten = [] ↔ ∀ x ∈ xs, R x [] := by
  induction h with
  | nil => simp
  | cons hx _ ih =>
    rw [List.flatten_cons, List.append_eq_nil_iff, ih, List.forall_mem_cons]
    apply and_congr_left'
    constructor
    · rintro rfl
      exact hx
    · intro hnil
      exact hR _ _ _ hx hnil

namespace Options

variable {o : Options} {lists : List RevocationList}

/-- Data from which the options take revocation lists: the contents of a file, or a value. -/
def Supplies (o : Options) (bs : Bytes) : Prop :=
  (∃ path ∈ o.crlPaths, (o.resources.load path).outcome = .ok bs) ∨ bs ∈ o.crlValues

/-- Some data that the options supply says what is revoked, and is not overlooked. -/
def SuppliesLists (o : Options) : Prop :=
  ∃ bs, o.Supplies bs ∧ HasContent bs ∧ ¬ RevocationList.Overlooked bs

theorem FileHolds.unique {path : String} {found again : List RevocationList}
    (h : o.FileHolds path found) (h' : o.FileHolds path again) : found = again := by
  obtain ⟨bytes, hload, hparse⟩ := h
  obtain ⟨bytes', hload', hparse'⟩ := h'
  obtain rfl : bytes = bytes' := Except.ok.inj (hload.symm.trans hload')
  exact Except.ok.inj (hparse.symm.trans hparse')

theorem Configures.eq_nil_iff (h : o.Configures lists) :
    lists = [] ↔ ∀ bs, o.Supplies bs → RevocationList.parseAll bs = .ok [] := by
  obtain ⟨files, values, hfiles, hvalues, rfl⟩ := h
  rw [List.append_eq_nil_iff,
    flatten_eq_nil_iff_of_forall₂ (R := o.FileHolds) (fun _ _ _ => FileHolds.unique) hfiles,
    flatten_eq_nil_iff_of_forall₂ (fun _ _ _ h h' => Except.ok.inj (h.symm.trans h')) hvalues]
  constructor
  · rintro ⟨hf, hv⟩ bs (⟨path, hpath, hload⟩ | hmem)
    · obtain ⟨bytes, hload', hparse⟩ := hf path hpath
      obtain rfl : bs = bytes := Except.ok.inj (hload.symm.trans hload')
      exact hparse
    · exact hv bs hmem
  · intro hall
    refine ⟨fun path hpath => ?_, fun bs hmem => hall bs (.inr hmem)⟩
    obtain ⟨found, bytes, hload, -⟩ := exists_of_forall₂ hfiles path hpath
    exact ⟨bytes, hload, hall bytes (.inl ⟨path, hpath, hload⟩)⟩

theorem Configures.ne_nil_iff (h : o.Configures lists) : lists ≠ [] ↔ o.SuppliesLists := by
  rw [Ne, h.eq_nil_iff, SuppliesLists, not_forall]
  apply exists_congr
  intro bs
  rw [RevocationList.parseAll_eq_nil_iff]
  tauto

end Options

/-- Data with content is refused or gives a list unless it is overlooked. Chains are checked for
revocation exactly if the options supply such data; otherwise the configured validators are left as
they are. -/
theorem revocation_input_enforced_unless_overlooked (o : Options) (serverName : Option String) :
    (∀ bs, HasContent bs →
      (RevocationList.parseAll bs = .ok [] ↔ RevocationList.Overlooked bs)) ∧
    ∀ vs lists, (o.trustFor serverName false).outcome = .ok (.validators vs lists) →
      ((lists ≠ [] ∧ ∀ v ∈ vs, v.checksRevocation = true) ↔ o.SuppliesLists) ∧
      (¬ o.SuppliesLists →
        lists = [] ∧ (o.validatorsFor serverName).outcome = .ok (some vs)) := by
  constructor
  · intro bs hbs
    rw [RevocationList.parseAll_eq_nil_iff]
    simp [hbs]
  · intro vs lists h
    obtain ⟨us, hus, hlists, rfl⟩ := Options.trustFor_eq_validators.mp h
    rw [← hlists.ne_nil_iff]
    refine ⟨⟨And.left, fun hne => ⟨hne, ?_⟩⟩, fun hnil => ?_⟩
    · have hsome : lists.isEmpty = false := by simpa using hne
      intro v hv
      rw [hsome] at hv
      obtain ⟨u, -, rfl⟩ := List.mem_map.mp hv
      rfl
    · rw [not_not] at hnil
      subst hnil
      exact ⟨rfl, hus⟩

/-- The list that names the serial number 7, as text. -/
def bareListText : Bytes := Bytes.ofString ("-----BEGIN X509 CRL-----\n" ++
  "MDswLjAFBgMqAwQwABcNMjQwMTAxMDAwMDAwWjAUMBICAQcXDTI0MDEwMTAwMDAw\n" ++
  "MFowBQYDKgMEAwIAAQ==\n" ++ "-----END X509 CRL-----\n")

private theorem bareListText_eq_write :
    bareListText = Pem.Block.write 64 [10] ⟨RevocationList.blockLabel, bareListBytes⟩ := by
  cbv

def indentedListText : Bytes := 32 :: 32 :: bareListText

private theorem overlooked_indentedListText : RevocationList.Overlooked indentedListText := by
  decide +kernel

theorem revocation_input_enforced_unless_overlooked_listedTwice :
    ∃ vs lists, (listedTwice.trustFor none false).outcome = .ok (.validators vs lists) ∧
      lists ≠ [] ∧ ∀ v ∈ vs, v.checksRevocation = true := by
  have hsupplies : listedTwice.SuppliesLists :=
    ⟨bareListBytes, .inr (by simp [listedTwice]), by decide, by decide⟩
  have hall := (revocation_input_enforced_unless_overlooked listedTwice none).2
  exact ⟨_, _, trustFor_listedTwice, (hall _ _ trustFor_listedTwice).1.mpr hsupplies⟩

/-- Options with a validator that accepts every chain, and the indented text for a list. -/
def listedIndented : Options := { listedTwice with crlPaths := [], crlValues := [indentedListText] }

/-- Two blanks in front of the text of a list turn revocation off, and the options resolve without an
error. -/
theorem indented_list_disables_revocation :
    indentedListText =
        32 :: 32 :: Pem.Block.write 64 [10] ⟨RevocationList.blockLabel, bareListBytes⟩ ∧
      RevocationList.parseAll bareListBytes = .ok [bareList] ∧
      HasContent indentedListText ∧ RevocationList.parseAll indentedListText = .ok [] ∧
      (listedIndented.trustFor none false).outcome = .ok (.validators [Validator.trustAll] []) ∧
      bareList.isRevoked (bareCertificate 7) = true ∧
      (checkChain [Validator.trustAll] .client [bareCertificate 7]).value = .ok () := by
  have hparse : RevocationList.parseAll indentedListText = .ok [] :=
    (RevocationList.parseAll_eq_nil_iff _).mpr (.inr overlooked_indentedListText)
  have htext := congrArg (fun text => 32 :: 32 :: text) bareListText_eq_write
  refine ⟨htext, parseAll_bareListBytes, by decide +kernel, hparse, ?_, by decide, rfl⟩
  refine Options.trustFor_eq_validators.mpr ⟨[Validator.trustAll], rfl, ?_, rfl⟩
  exact ⟨[], [[]], .nil, .cons hparse .nil, rfl⟩

end TlsSetup
