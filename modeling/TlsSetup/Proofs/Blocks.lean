import TlsSetup.Codec.Pem.Block
import TlsSetup.Proofs.Base64

/-!
# Blocks are read back

A block that has been written is the first block that is read, whatever follows it, for every width of
its lines and for both ends of a line.
-/

namespace TlsSetup

namespace Bytes

def utf8 (cs : List Char) : Bytes := cs.flatMap String.utf8EncodeChar

theorem utf8_append (cs ds : List Char) : utf8 (cs ++ ds) = utf8 cs ++ utf8 ds :=
  List.flatMap_append

private theorem ofString_ofList (cs : List Char) : ofString (String.ofList cs) = utf8 cs := by
  simp [ofString, utf8, String.toUTF8, List.utf8Encode]

private theorem ofString_eq_utf8 (s : String) : ofString s = utf8 s.toList := by
  rw [← ofString_ofList, String.ofList_toList]

private theorem toString?_ofString (s : String) : toString? (ofString s) = some s := by
  have hbytes : (⟨(ofString s).toArray⟩ : ByteArray) = s.toByteArray := by
    simp [ofString, String.toUTF8]
  rw [toString?, hbytes, String.fromUTF8?, dif_pos s.isValidUTF8]
  rfl

private theorem eq_lineFeed_of_mem_utf8EncodeChar {c : Char} (h : 10 ∈ String.utf8EncodeChar c) :
    c = '\n' := by
  have hsmall {n : Nat} (hn : 10 = UInt8.ofNat n) : n % 256 = 10 := by
    simpa using (congrArg UInt8.toNat hn).symm
  rw [String.utf8EncodeChar] at h
  split at h
  · have hc : c.val.toNat % 256 = 10 := hsmall (by simpa using h)
    apply Char.ext
    apply UInt32.toNat_inj.mp
    change c.val.toNat = 10
    omega
  -- The bytes of a longer form all have their top bit set.
  · exfalso
    split at h
    · simp only [List.mem_cons, List.not_mem_nil, or_false] at h
      rcases h with h | h <;> have := hsmall h <;> omega
    · split at h
      · simp only [List.mem_cons, List.not_mem_nil, or_false] at h
        rcases h with h | h | h <;> have := hsmall h <;> omega
      · simp only [List.mem_cons, List.not_mem_nil, or_false] at h
        rcases h with h | h | h | h <;> have := hsmall h <;> omega

private theorem lineFeed_not_mem_utf8 {cs : List Char} (h : '\n' ∉ cs) : 10 ∉ utf8 cs := by
  intro hmem
  obtain ⟨c, hc, hten⟩ := List.mem_flatMap.mp hmem
  exact h (eq_lineFeed_of_mem_utf8EncodeChar hten ▸ hc)

end Bytes

namespace Pem

open Text Bytes

private theorem linesFrom_append {line : Bytes} (hline : 10 ∉ line) (start rest : Bytes) :
    linesFrom start (line ++ 10 :: rest) = (start.reverse ++ line) :: linesFrom [] rest := by
  induction line generalizing start with
  | nil => simp [linesFrom]
  | cons b line ih =>
    obtain ⟨hb, hline⟩ := not_or.mp (mt List.mem_cons.mpr hline)
    simp [linesFrom, Ne.symm hb, ih hline]

private theorem lines_append {ls : List Bytes} (hls : ∀ line ∈ ls, 10 ∉ line) (rest : Bytes) :
    lines (ls.flatMap (· ++ [10]) ++ rest) = ls ++ lines rest := by
  induction ls with
  | nil => rfl
  | cons line ls ih =>
    obtain ⟨hline, hls⟩ := List.forall_mem_cons.mp hls
    have hfirst := linesFrom_append hline [] (ls.flatMap (· ++ [10]) ++ rest)
    simpa [lines, hfirst] using ih hls

private theorem readLine_utf8 (cs : List Char) : readLine (utf8 cs) = .ok cs := by
  simp only [← ofString_ofList, readLine, toString?_ofString, String.toList_ofList]

private theorem flatten_wrap (width : Nat) (bs : Bytes) : (wrap width bs).flatten = bs := by
  fun_induction wrap width bs with
  | case1 bs _ hempty => simp [List.isEmpty_iff.mp hempty]
  | case2 bs _ _ => simp
  | case3 bs _ ih => simp [ih]

/-- Nothing but white space, which is not kept at the end of a line. -/
def Blank (cs : List Char) : Prop := ∀ c ∈ cs, isWhiteSpace c = true

/-- Neither white space nor a hyphen, as are the characters of base 64. -/
def Visible (cs : List Char) : Prop := ∀ c ∈ cs, isWhiteSpace c = false ∧ c ≠ '-'

variable {cs tail : List Char}

private theorem trimEnd_append (hcs : Visible cs) (htail : Blank tail) :
    trimEnd (cs ++ tail) = cs := by
  have hkept : cs.reverse.dropWhile isWhiteSpace = cs.reverse := by
    cases hr : cs.reverse with
    | nil => rfl
    | cons c more =>
      have hc : c ∈ cs := by
        rw [← List.mem_reverse, hr]
        exact List.mem_cons_self
      rw [List.dropWhile_cons_of_neg (by simp [(hcs c hc).1])]
  rw [trimEnd, List.reverse_append, List.dropWhile_append_of_pos (by simpa [Blank] using htail), hkept,
    List.reverse_reverse]

private theorem not_closing (hcs : Visible cs) (htail : Blank tail) :
    closing.isPrefixOf (cs ++ tail) = false := by
  rw [← Bool.not_eq_true, List.isPrefixOf_iff_prefix]
  intro hprefix
  have hyphen : '-' ∈ cs ++ tail := hprefix.subset (by decide : '-' ∈ closing)
  rcases List.mem_append.mp hyphen with hmem | hmem
  · exact (hcs _ hmem).2 rfl
  · exact absurd (htail _ hmem) (by decide)

private theorem readBody_append {pieces : List (List Char)}
    (hpieces : ∀ piece ∈ pieces, Visible piece)
    (htail : Blank tail) (label : List Char) (after : List Bytes) :
    readBody ((pieces.map fun piece => utf8 (piece ++ tail)) ++ utf8 (closing ++ label) :: after) =
      .ok (pieces.flatten, after) := by
  induction pieces with
  | nil =>
    have hclosing : closing.isPrefixOf (closing ++ label) = true := by simp
    simp only [List.map_nil, List.nil_append, readBody, readLine_utf8, hclosing, if_true,
      List.flatten_nil]
  | cons piece pieces ih =>
    obtain ⟨hpiece, hpieces⟩ := List.forall_mem_cons.mp hpieces
    simp only [List.map_cons, List.cons_append, readBody, readLine_utf8, not_closing hpiece htail,
      ih hpieces, trimEnd_append hpiece htail]
    simp

private theorem contains_append (part before after : List Char) :
    contains part (before ++ (part ++ after)) = true := by
  induction before with
  | nil =>
    cases h : part ++ after with
    | nil => simp [contains, (List.append_eq_nil_iff.mp h).1]
    | cons c more =>
      have hpart : part.isPrefixOf (part ++ after) = true := by simp
      rw [h] at hpart
      simp only [List.nil_append, contains, hpart, Bool.true_or]
  | cons c before ih => simp [contains, ih]

private theorem label?_append {label : List Char} (hlabel : '-' ∉ label) (tail : List Char) :
    label? (label ++ (dashes ++ tail)) = some (String.ofList label) := by
  have htake : (label ++ (dashes ++ tail)).takeWhile (· != '-') = label := by
    rw [List.takeWhile_append_of_pos]
    · simp [dashes]
    · intro c hc
      simp only [bne_iff_ne]
      rintro rfl
      exact hlabel hc
  rw [label?, contains_append, if_pos rfl, htake]

private theorem findOpening_cons {label : List Char} (hlabel : '-' ∉ label) (tail : List Char)
    (after : List Bytes) :
    findOpening (utf8 (opening ++ (label ++ (dashes ++ tail))) :: after) =
      .ok (some (String.ofList label, after)) := by
  have hopening : opening.isPrefixOf (opening ++ (label ++ (dashes ++ tail))) = true := by simp
  simp only [findOpening, readLine_utf8, hopening, if_true, List.drop_left, label?_append hlabel]

def asciiChar (b : UInt8) : Char := Char.ofNat b.toNat

private theorem asciiChar_of_isGraphic {b : UInt8} (h : Base64.IsGraphic b) :
    String.utf8EncodeChar (asciiChar b) = [b] ∧ isWhiteSpace (asciiChar b) = false ∧
      asciiChar b ≠ '-' := by
  have hall : ∀ n < 127, 32 < n → n ≠ 45 →
      String.utf8EncodeChar (Char.ofNat n) = [UInt8.ofNat n] ∧
        isWhiteSpace (Char.ofNat n) = false ∧ Char.ofNat n ≠ '-' := by
    decide +kernel
  obtain ⟨hlow, hhigh, hne⟩ := h
  have hb := hall b.toNat (UInt8.lt_iff_toNat_lt.mp hhigh) (UInt8.lt_iff_toNat_lt.mp hlow)
    (fun h => hne (UInt8.toNat_inj.mp h))
  rwa [UInt8.ofNat_toNat] at hb

private theorem utf8_map_asciiChar {bs : Bytes} (h : ∀ b ∈ bs, Base64.IsGraphic b) :
    utf8 (bs.map asciiChar) = bs := by
  induction bs with
  | nil => rfl
  | cons b bs ih =>
    obtain ⟨hb, hbs⟩ := List.forall_mem_cons.mp h
    have hmore := ih hbs
    rw [utf8] at hmore ⊢
    rw [List.map_cons, List.flatMap_cons, (asciiChar_of_isGraphic hb).1, hmore]
    rfl

private theorem visible_map_asciiChar {bs : Bytes} (h : ∀ b ∈ bs, Base64.IsGraphic b) :
    Visible (bs.map asciiChar) := by
  intro c hc
  obtain ⟨b, hb, rfl⟩ := List.mem_map.mp hc
  exact (asciiChar_of_isGraphic (h b hb)).2

private theorem decodeText_encode (bs : Bytes) :
    decodeText ((Base64.encode bs).map asciiChar) = .ok bs := by
  rw [decodeText, ofString_ofList, utf8_map_asciiChar Base64.isGraphic_of_mem_encode,
    Base64.decode?_encode]

/-- The lines of base 64 that carry a byte string, as text. -/
def bodyLines (width : Nat) (bs : Bytes) : List (List Char) :=
  (wrap width (Base64.encode bs)).map (·.map asciiChar)

private theorem isGraphic_of_mem_wrap {width : Nat} {bs piece : Bytes}
    (h : piece ∈ wrap width (Base64.encode bs)) : ∀ b ∈ piece, Base64.IsGraphic b := by
  intro b hb
  have hmem : b ∈ Base64.encode bs := by
    rw [← flatten_wrap width (Base64.encode bs)]
    exact List.mem_flatten_of_mem h hb
  exact Base64.isGraphic_of_mem_encode b hmem

private theorem visible_of_mem_bodyLines (width : Nat) (bs : Bytes) :
    ∀ line ∈ bodyLines width bs, Visible line := by
  intro line hline
  obtain ⟨piece, hpiece, rfl⟩ := List.mem_map.mp hline
  exact visible_map_asciiChar (isGraphic_of_mem_wrap hpiece)

private theorem decodeText_bodyLines (width : Nat) (bs : Bytes) :
    decodeText (bodyLines width bs).flatten = .ok bs := by
  rw [bodyLines, ← List.map_flatten, flatten_wrap, decodeText_encode]

theorem ofString_opening (label : String) :
    ofString ("-----BEGIN " ++ label ++ "-----") = utf8 (opening ++ (label.toList ++ dashes)) := by
  rw [ofString_eq_utf8, String.toList_append, String.toList_append, List.append_assoc]
  rfl

private theorem ofString_closing (label : String) :
    ofString ("-----END " ++ label ++ "-----") = utf8 (closing ++ (label.toList ++ dashes)) := by
  rw [ofString_eq_utf8, String.toList_append, String.toList_append, List.append_assoc]
  rfl

/-- The lines of a block, each with what is left of its end once it is read as a line. -/
def Block.textLines (width : Nat) (tail : List Char) (block : Block) : List (List Char) :=
  (opening ++ (block.label.toList ++ (dashes ++ tail))) ::
    ((bodyLines width block.contents).map (· ++ tail) ++
      [closing ++ (block.label.toList ++ (dashes ++ tail))])

theorem Block.write_eq (width : Nat) (tail : List Char) (block : Block) :
    block.write width (utf8 tail ++ [10]) =
      ((block.textLines width tail).map utf8).flatMap (· ++ [10]) := by
  have hwrap : (wrap width (Base64.encode block.contents)).flatMap (· ++ (utf8 tail ++ [10])) =
      (((bodyLines width block.contents).map (· ++ tail)).map utf8).flatMap (· ++ [10]) := by
    rw [bodyLines, List.map_map, List.map_map, List.flatMap_map]
    refine List.flatMap_congr fun piece hpiece => ?_
    simp [utf8_append, utf8_map_asciiChar (isGraphic_of_mem_wrap hpiece)]
  rw [Block.write, List.flatMap_append, List.flatMap_append, hwrap]
  simp only [Block.textLines, ofString_opening, ofString_closing, utf8_append, List.map_cons,
    List.map_append, List.map_nil, List.flatMap_cons, List.flatMap_append, List.flatMap_nil,
    List.append_assoc]
  simp

/-- A label that can be told from the rest of its line. -/
def IsLabel (label : String) : Prop := '-' ∉ label.toList ∧ '\n' ∉ label.toList

theorem Block.lineFeed_not_mem_textLines {block : Block} (hlabel : IsLabel block.label)
    (htail : '\n' ∉ tail) (width : Nat) : ∀ line ∈ block.textLines width tail, '\n' ∉ line := by
  have hrest : '\n' ∉ block.label.toList ++ (dashes ++ tail) := by
    intro hmem
    rcases List.mem_append.mp hmem with hmem | hmem
    · exact hlabel.2 hmem
    · rcases List.mem_append.mp hmem with hmem | hmem
      · exact absurd hmem (by decide)
      · exact htail hmem
  have hfirst : '\n' ∉ opening := by decide
  have hlast : '\n' ∉ closing := by decide
  intro line hline hmem
  simp only [Block.textLines, List.mem_cons, List.mem_append, List.mem_map, List.not_mem_nil,
    or_false] at hline
  rcases hline with rfl | ⟨piece, hpiece, rfl⟩ | rfl
  · exact (List.mem_append.mp hmem).elim hfirst hrest
  · rcases List.mem_append.mp hmem with hmem | hmem
    · exact absurd (visible_of_mem_bodyLines width _ piece hpiece _ hmem).1 (by decide)
    · exact htail hmem
  · exact (List.mem_append.mp hmem).elim hlast hrest

private theorem blocksOf_cons {ls body after : List Bytes} {label : String} {text : List Char}
    {contents : Bytes} (hopen : findOpening ls = .ok (some (label, body)))
    (hbody : readBody body = .ok (text, after)) (htext : decodeText text = .ok contents) :
    blocksOf ls = .ok ⟨label, contents⟩ :: blocksOf after := by
  rw [blocksOf]
  split
  · next h => cases hopen.symm.trans h
  · next h => cases hopen.symm.trans h
  · next h =>
    cases hopen.symm.trans h
    split
    · next h => cases hbody.symm.trans h
    · next h =>
      cases hbody.symm.trans h
      simp only [htext]

private theorem lines_write_append {block : Block} (hlabel : IsLabel block.label)
    (htail : '\n' ∉ tail) (width : Nat) (rest : Bytes) :
    lines (block.write width (utf8 tail ++ [10]) ++ rest) =
      (block.textLines width tail).map utf8 ++ lines rest := by
  rw [Block.write_eq]
  apply lines_append
  intro line hline
  obtain ⟨cs, hcs, rfl⟩ := List.mem_map.mp hline
  exact lineFeed_not_mem_utf8 (Block.lineFeed_not_mem_textLines hlabel htail width cs hcs)

private theorem blocksOf_textLines_append {block : Block} (hlabel : IsLabel block.label)
    (htail : Blank tail) (width : Nat) (after : List Bytes) :
    blocksOf ((block.textLines width tail).map utf8 ++ after) = .ok block :: blocksOf after := by
  have hbody := readBody_append (visible_of_mem_bodyLines width block.contents) htail
    (block.label.toList ++ (dashes ++ tail)) after
  have hblock := blocksOf_cons (findOpening_cons hlabel.1 tail _) hbody
    (decodeText_bodyLines width block.contents)
  rw [String.ofList_toList] at hblock
  rw [← hblock, Block.textLines, List.map_cons, List.map_append, List.map_map, List.cons_append,
    List.append_assoc]
  rfl

/-- What is written of a block at the front of a text is read as that block. -/
theorem blocks_write_append {block : Block} {newline : Bytes} (hlabel : IsLabel block.label)
    (hnewline : newline = [10] ∨ newline = [13, 10]) (width : Nat) (rest : Bytes) :
    blocks (block.write width newline ++ rest) = .ok block :: blocks rest := by
  obtain ⟨tail, htail, hfeed, rfl⟩ :
      ∃ tail, Blank tail ∧ '\n' ∉ tail ∧ newline = utf8 tail ++ [10] := by
    rcases hnewline with rfl | rfl
    · exact ⟨[], by simp [Blank], by simp, rfl⟩
    · exact ⟨['\r'], List.forall_mem_singleton.mpr (by decide), by decide, rfl⟩
  rw [blocks, lines_write_append hlabel hfeed, blocksOf_textLines_append hlabel htail, blocks]

end Pem

end TlsSetup
