import TlsSetup.Proofs.Blocks
import TlsSetup.Proofs.Bundles
import TlsSetup.Proofs.RevocationInput

/-!
# The two forms of a bundle

A bundle is read as the same lists whether its encodings follow one another or each of them stands in
a block of text. The forms differ in what they make of bytes after a list: between encodings they are
refused unless they are lists as well, but inside a block they are passed over.
-/

namespace TlsSetup.X509.RevocationList

variable {d text : Bytes} {ds texts : List Bytes} {list : RevocationList}
  {lists : List RevocationList}

/-- A block of text that carries `d`, with lines of some width that end in a line feed, or in a
carriage return and a line feed. -/
def IsTextOf (d text : Bytes) : Prop :=
  ∃ (width : Nat) (newline : Bytes), (newline = [10] ∨ newline = [13, 10]) ∧
    text = Pem.Block.write width newline ⟨blockLabel, d⟩

private theorem isLabel_blockLabel : Pem.IsLabel blockLabel := ⟨by decide, by decide⟩

theorem IsTextOf.blocks_append (h : IsTextOf d text) (rest : Bytes) :
    Pem.blocks (text ++ rest) = .ok ⟨blockLabel, d⟩ :: Pem.blocks rest := by
  obtain ⟨width, newline, hnewline, rfl⟩ := h
  exact Pem.blocks_write_append isLabel_blockLabel hnewline width rest

theorem IsTextOf.starts_with_mark (h : IsTextOf d text) : textMark <+: text := by
  obtain ⟨width, newline, -, rfl⟩ := h
  have hopening : textMark <+: Bytes.utf8 Pem.opening :=
    ⟨[32], by decide +kernel⟩
  rw [Pem.Block.write, List.flatMap_append, List.flatMap_append, List.flatMap_singleton,
    Pem.ofString_opening, Bytes.utf8_append]
  simp only [List.append_assoc]
  exact hopening.trans (List.prefix_append _ _)

private theorem parseAll_of_mark {bs : Bytes} (h : textMark <+: bs) :
    parseAll bs = ofBlocks (Pem.blocks bs) := by
  obtain ⟨rest, rfl⟩ := h
  have hmark : textMark.isPrefixOf (textMark ++ rest) = true := by simp
  have hstart : (textMark ++ rest).dropWhile Text.isBlankByte = textMark ++ rest := by
    rw [textMark_eq_cons, List.cons_append, List.dropWhile_cons_of_neg (by decide)]
  have hne : (textMark ++ rest).isEmpty = false := by
    rw [textMark_eq_cons]
    rfl
  rw [parseAll]
  simp only [hstart, hmark, hne, if_true]
  rfl

theorem IsTextOf.parseAll_append (h : IsTextOf d text) (rest : Bytes) :
    parseAll (text ++ rest) = ofBlocks (Pem.blocks (text ++ rest)) :=
  parseAll_of_mark (h.starts_with_mark.trans (List.prefix_append _ _))

private theorem ofBlocks_texts (htexts : List.Forall₂ IsTextOf ds texts)
    (hds : List.Forall₂ (fun d list => decode? d = some list) ds lists) :
    ofBlocks (Pem.blocks texts.flatten) = .ok lists := by
  induction htexts generalizing lists with
  | nil =>
    cases hds
    simp [Pem.blocks, Pem.lines, Pem.linesFrom, Pem.blocksOf, Pem.findOpening, ofBlocks]
  | cons htext _ ih =>
    cases hds with
    | cons hlist hds =>
      rw [List.flatten_cons, htext.blocks_append, ofBlocks, if_neg (not_not.mpr rfl),
        ofBytes_eq_ok_iff.mpr hlist, ih hds]
      rfl

private theorem parseAll_texts (htexts : List.Forall₂ IsTextOf ds texts)
    (hds : List.Forall₂ (fun d list => decode? d = some list) ds lists) :
    parseAll texts.flatten = .ok lists := by
  cases htexts with
  | nil =>
    cases hds
    simp [parseAll]
  | cons htext htexts =>
    rw [List.flatten_cons, htext.parseAll_append, ← List.flatten_cons,
      ofBlocks_texts (.cons htext htexts) hds]

private theorem parseAll_text_append {t : Bytes} (hd : Encodes d list)
    (htext : IsTextOf (d ++ t) text) :
    parseAll text = .ok [list] := by
  have hread := parseAll_texts (.cons htext .nil) (.cons (decode?_append hd.decoded t) .nil)
  simpa using hread

private theorem parseAll_encodings (hds : List.Forall₂ Encodes ds lists) :
    parseAll ds.flatten = .ok lists := by
  have hread : ofEncodings ds.flatten = .ok lists := ofEncodings_eq_ok_iff.mpr ⟨ds, rfl, hds⟩
  cases hds with
  | nil => simp [parseAll]
  | cons hd _ =>
    rw [List.flatten_cons] at hread ⊢
    rw [parseAll_append hd, hread]

/-- Encodings that follow one another and the same encodings in blocks of text are read as the same
lists: one for each of them, in their order. -/
theorem parseAll_encodings_and_texts (hds : ∀ d ∈ ds, IsEncoding d)
    (htexts : List.Forall₂ IsTextOf ds texts) :
    ∃ lists, lists.length = ds.length ∧ List.Forall₂ Encodes ds lists ∧
      parseAll ds.flatten = .ok lists ∧ parseAll texts.flatten = .ok lists := by
  obtain ⟨lists, hlists⟩ := forall₂_encodes hds
  exact ⟨lists, hlists.length_eq.symm, hlists, parseAll_encodings hlists,
    parseAll_texts htexts (hlists.imp fun _ _ h => h.decoded)⟩

theorem encodes_bareListBytes : Encodes bareListBytes bareList where
  complete := by decide +kernel
  decoded := by decide +kernel

private theorem isEncoding_bareListBytes :
    IsEncoding bareListBytes := ⟨bareList, encodes_bareListBytes⟩

theorem parseAll_encodings_and_texts_bareList :
    ∃ lists, lists.length = 2 ∧
      List.Forall₂ Encodes [bareListBytes, bareListBytes] lists ∧
      parseAll (bareListBytes ++ bareListBytes) = .ok lists ∧
      parseAll (Pem.Block.write 64 [10] ⟨blockLabel, bareListBytes⟩ ++
        Pem.Block.write 7 [13, 10] ⟨blockLabel, bareListBytes⟩) = .ok lists := by
  have hds : ∀ d ∈ [bareListBytes, bareListBytes], IsEncoding d := by
    simp [isEncoding_bareListBytes]
  have htexts : List.Forall₂ IsTextOf [bareListBytes, bareListBytes]
      [Pem.Block.write 64 [10] ⟨blockLabel, bareListBytes⟩,
        Pem.Block.write 7 [13, 10] ⟨blockLabel, bareListBytes⟩] :=
    .cons ⟨64, [10], .inl rfl, rfl⟩ (.cons ⟨7, [13, 10], .inr rfl, rfl⟩ .nil)
  simpa using parseAll_encodings_and_texts hds htexts

/-- Bytes after a complete encoding are refused or give the lists that they are made of. In the text
of a block they are never looked at, so that lists after the first are lost. -/
theorem trailing_bytes_refused_between_encodings (hd : Encodes d list) (t : Bytes) :
    (¬ IsBundle t → ∃ fault, parseAll (d ++ t) = .error (.parse fault)) ∧
    (∀ ds : List Bytes, t = ds.flatten → (∀ e ∈ ds, IsEncoding e) →
      ∃ lists, List.Forall₂ Encodes ds lists ∧ parseAll (d ++ t) = .ok (list :: lists)) ∧
    ∀ text, IsTextOf (d ++ t) text → parseAll text = .ok [list] := by
  refine ⟨fun ht => ?_, ?_, fun text htext => ?_⟩
  · obtain ⟨fault, hfault⟩ := ofEncodings_of_not_isBundle ht
    refine ⟨fault, ?_⟩
    rw [parseAll_append hd, ofEncodings_cons hd, hfault]
    rfl
  · rintro ds rfl hds
    obtain ⟨lists, hlists⟩ := forall₂_encodes hds
    exact ⟨lists, hlists, parseAll_encodings (.cons hd hlists)⟩
  · exact parseAll_text_append hd htext

private theorem not_isBundle_zero : ¬ IsBundle [0] := by
  have hread : ofEncodings [0] = .error (.parse .crlStructure) := by cbv
  rw [isBundle_iff, hread]
  rintro ⟨lists, h⟩
  cases h

theorem trailing_bytes_refused_between_encodings_bareList :
    Encodes bareListBytes bareList ∧ ¬ IsBundle [0] ∧
      (∃ fault, parseAll (bareListBytes ++ [0]) = .error (.parse fault)) ∧
      (∃ lists, List.Forall₂ Encodes [bareListBytes] lists ∧
        parseAll (bareListBytes ++ bareListBytes) = .ok (bareList :: lists)) ∧
      parseAll (Pem.Block.write 64 [10] ⟨blockLabel, bareListBytes ++ [0]⟩) = .ok [bareList] := by
  obtain ⟨hrefused, -, htext⟩ := trailing_bytes_refused_between_encodings encodes_bareListBytes [0]
  have hlists := (trailing_bytes_refused_between_encodings encodes_bareListBytes bareListBytes).2.1
  refine ⟨encodes_bareListBytes, not_isBundle_zero, hrefused not_isBundle_zero, ?_, ?_⟩
  · exact hlists [bareListBytes] (by simp) (List.forall_mem_singleton.mpr isEncoding_bareListBytes)
  · exact htext _ ⟨64, [10], .inl rfl, rfl⟩

/-- A block whose contents are a list and a zero is read without an error, and a block with two lists
gives only the first of them. -/
theorem block_hides_trailing_bytes :
    IsEncoding bareListBytes ∧ ¬ IsBundle [0] ∧
      parseAll (Pem.Block.write 64 [10] ⟨blockLabel, bareListBytes ++ [0]⟩) = .ok [bareList] ∧
      parseAll (bareListBytes ++ bareListBytes) = .ok [bareList, bareList] ∧
      parseAll (Pem.Block.write 64 [10] ⟨blockLabel, bareListBytes ++ bareListBytes⟩) =
        .ok [bareList] := by
  have hd := encodes_bareListBytes
  refine ⟨isEncoding_bareListBytes, not_isBundle_zero, ?_, ?_, ?_⟩
  · exact parseAll_text_append hd ⟨64, [10], .inl rfl, rfl⟩
  · simpa using parseAll_encodings (.cons hd (.cons hd .nil))
  · exact parseAll_text_append hd ⟨64, [10], .inl rfl, rfl⟩

end TlsSetup.X509.RevocationList
