import TlsSetup.Proofs.ServerNames

/-!
# Patterns and hosts label by label

The labels of a name are what stands between its dots, with the dots at its end left out and without
regard to ASCII case. A pattern covers a host exactly if their labels are the same, or if the first
label of a pattern of several is `*` and the host has some label there and the same ones after it.
-/

namespace TlsSetup

namespace Text

variable {separator : Char} {piece rest cs cs' : List Char}

theorem pieces_of_notMem (h : separator ∉ cs) : pieces separator cs = [cs] := by
  induction cs with
  | nil => rfl
  | cons c cs ih =>
    have hc : c ≠ separator := by
      intro heq
      exact h (by simp [heq])
    have hcs : separator ∉ cs := by
      intro hmem
      exact h (List.mem_cons_of_mem c hmem)
    rw [pieces, if_neg hc, ih hcs]

theorem pieces_append_cons (cs cs' : List Char) :
    pieces separator (cs ++ separator :: cs') = pieces separator cs ++ pieces separator cs' := by
  induction cs with
  | nil => simp [pieces]
  | cons c cs ih =>
    by_cases hc : c = separator
    · simp [pieces, hc, ih]
    · rw [List.cons_append, pieces, if_neg hc, ih, pieces, if_neg hc]
      cases hcs : pieces separator cs with
      | nil => exact absurd hcs (pieces_ne_nil separator cs)
      | cons piece rest => rfl

theorem pieces_append (h : separator ∉ piece) (rest : List Char) :
    pieces separator (piece ++ separator :: rest) = piece :: pieces separator rest := by
  rw [pieces_append_cons, pieces_of_notMem h, List.singleton_append]

private theorem pieces_inj : pieces separator cs = pieces separator cs' ↔ cs = cs' := by
  constructor
  · intro h
    have hjoined := congrArg [separator].intercalate h
    rw [intercalate_pieces, intercalate_pieces] at hjoined
    exact hjoined
  · intro h
    rw [h]

theorem toLower_eq_iff {c d : Char} (hd : d.toNat < 65) : c.toLower = d ↔ c = d := by
  by_cases hc : 65 ≤ c.toNat ∧ c.toNat ≤ 90
  · have hcapital : c.val ≥ 'A'.val ∧ c.val ≤ 'Z'.val :=
      ⟨UInt32.le_iff_toNat_le.mpr hc.1, UInt32.le_iff_toNat_le.mpr hc.2⟩
    have hsmall : c.toLower.toNat = c.toNat + 32 := by
      rw [Char.toLower, dif_pos hcapital]
      change (c.val + 32).toNat = c.val.toNat + 32
      have hbound : c.val.toNat ≤ 90 := hc.2
      have hoffset : (32 : UInt32).toNat = 32 := rfl
      rw [UInt32.toNat_add, hoffset]
      omega
    constructor
    · intro h
      rw [h] at hsmall
      omega
    · intro h
      rw [h] at hc
      omega
  · have hcapital : ¬ (c.val ≥ 'A'.val ∧ c.val ≤ 'Z'.val) := by
      intro h
      exact hc ⟨UInt32.le_iff_toNat_le.mp h.1, UInt32.le_iff_toNat_le.mp h.2⟩
    rw [Char.toLower, dif_neg hcapital]

theorem toList_lowerAscii (s : String) : (lowerAscii s).toList = s.toList.map Char.toLower := by
  rw [lowerAscii, String.toList_map]

end Text

namespace Host

open Text

variable {pattern host : List (List Char)} {cs label rest : List Char}

private theorem cutAtDot_eq_none (h : cutAtDot cs = none) : '.' ∉ cs := by
  induction cs with
  | nil => simp
  | cons c cs ih =>
    by_cases hc : c = '.'
    · simp [cutAtDot, hc] at h
    · have hcs : cutAtDot cs = none := by simpa [cutAtDot, hc] using h
      have hmem := ih hcs
      simp [Ne.symm hc, hmem]

theorem cutAtDot_eq_some (h : cutAtDot cs = some (label, rest)) :
    '.' ∉ label ∧ cs = label ++ '.' :: rest := by
  induction cs generalizing label with
  | nil => simp [cutAtDot] at h
  | cons c cs ih =>
    by_cases hc : c = '.'
    · have hcut : [] = label ∧ cs = rest := by simpa [cutAtDot, hc] using h
      obtain ⟨rfl, rfl⟩ := hcut
      simp [hc]
    · have hcut : ∃ front, cutAtDot cs = some (front, rest) ∧ c :: front = label := by
        simpa [cutAtDot, hc] using h
      obtain ⟨front, hfront, rfl⟩ := hcut
      obtain ⟨hdot, happend⟩ := ih hfront
      have hlabel : '.' ∉ c :: front := by simp [Ne.symm hc, hdot]
      exact ⟨hlabel, by rw [happend, List.cons_append]⟩

def labelsOf (name : String) : List (List Char) :=
  labels ((name.toList.rdropWhile (· == '.')).map Char.toLower)

private theorem labelsOf_eq (name : String) : labelsOf name = labels (canonical name) := by
  have hdot : (fun c : Char => c == '.') ∘ Char.toLower = fun c => c == '.' := by
    funext c
    have hiff : c.toLower = '.' ↔ c = '.' := toLower_eq_iff (by decide)
    simp [hiff]
  rw [labelsOf, canonical_eq_rdropWhile, toList_lowerAscii, List.rdropWhile, List.rdropWhile,
    ← List.map_reverse, List.dropWhile_map, hdot, List.map_reverse]

/-- At least two labels, of which the first one is `*`. -/
def IsWildcard (pattern : List (List Char)) : Prop :=
  2 ≤ pattern.length ∧ pattern.head? = some ['*']

instance (pattern : List (List Char)) : Decidable (IsWildcard pattern) :=
  inferInstanceAs (Decidable (_ ∧ _))

private theorem isWildcard_iff :
    IsWildcard pattern ↔ ∃ first more, pattern = ['*'] :: first :: more := by
  constructor
  · intro h
    obtain ⟨hlength, hhead⟩ := h
    match pattern with
    | [] => simp at hhead
    | [_] => simp at hlength
    | label :: first :: more =>
      have hlabel : label = ['*'] := by simpa using hhead
      exact ⟨first, more, by rw [hlabel]⟩
  · intro h
    obtain ⟨first, more, rfl⟩ := h
    simp [IsWildcard]

theorem labelsCover_iff : labelsCover pattern host = true ↔
    (IsWildcard pattern ∧ (∃ label, host.head? = some label ∧ label ≠ []) ∧
      host.tail = pattern.tail) ∨
    (¬ IsWildcard pattern ∧ host = pattern) := by
  unfold labelsCover
  split
  · next first more =>
    have hwild : IsWildcard (['*'] :: first :: more) := isWildcard_iff.mpr ⟨first, more, rfl⟩
    cases host with
    | nil => simp [hwild]
    | cons label rest => simp [hwild]
  · next hform =>
    have hwild : ¬ IsWildcard pattern := by
      intro h
      obtain ⟨first, more, heq⟩ := isWildcard_iff.mp h
      exact hform first more heq
    simp [hwild]

private theorem labels_wildcard (tail : List Char) :
    labels ('*' :: '.' :: tail) = ['*'] :: labels tail := by
  have hdot : '.' ∉ ['*'] := by decide
  exact pieces_append hdot tail

private theorem exists_tail_of_isWildcard (h : IsWildcard (labels cs)) :
    ∃ tail, cs = '*' :: '.' :: tail := by
  obtain ⟨first, more, hlabels⟩ := isWildcard_iff.mp h
  have hjoined := intercalate_pieces '.' cs
  rw [← labels, hlabels, List.intercalate_cons_cons] at hjoined
  exact ⟨_, hjoined.symm⟩

theorem covers_eq_labelsCover (pattern host : String) :
    covers pattern host = labelsCover (labelsOf pattern) (labelsOf host) := by
  rw [labelsOf_eq, labelsOf_eq, covers]
  split
  · next tail hpattern =>
    obtain ⟨first, more, htail⟩ := List.exists_cons_of_ne_nil (pieces_ne_nil '.' tail)
    rw [hpattern, labels_wildcard, labels, htail]
    cases hcut : cutAtDot (canonical host) with
    | none =>
      have hhost : labels (canonical host) = [canonical host] :=
        pieces_of_notMem (cutAtDot_eq_none hcut)
      rw [hhost]
      simp [labelsCover]
    | some parts =>
      obtain ⟨label, rest⟩ := parts
      obtain ⟨hdot, happend⟩ := cutAtDot_eq_some hcut
      have hhost : labels (canonical host) = label :: labels rest := by
        rw [happend]
        exact pieces_append hdot rest
      have hrest : (rest == tail) = (labels rest == first :: more) := by
        rw [← htail, Bool.eq_iff_iff, beq_iff_eq, beq_iff_eq]
        exact pieces_inj.symm
      rw [hhost]
      simp [labelsCover, hrest]
  · next hform =>
    have hwild : ¬ IsWildcard (labels (canonical pattern)) := by
      intro h
      obtain ⟨tail, htail⟩ := exists_tail_of_isWildcard h
      exact hform tail htail
    rw [Bool.eq_iff_iff, labelsCover_iff, beq_iff_eq]
    simp only [hwild, false_and, not_false_eq_true, true_and, false_or]
    rw [eq_comm]
    exact pieces_inj.symm

/-- A pattern covers a host exactly if the labels of the host are those of the pattern, where the first
of several labels may be `*` for any one label that is not empty. So both have equally many labels, and
neither case nor dots at the end of either one matter. -/
theorem covers_label_by_label (pattern host : String) :
    (covers pattern host = true ↔
      (IsWildcard (labelsOf pattern) ∧
        (∃ label, (labelsOf host).head? = some label ∧ label ≠ []) ∧
        (labelsOf host).tail = (labelsOf pattern).tail) ∨
      (¬ IsWildcard (labelsOf pattern) ∧ labelsOf host = labelsOf pattern)) ∧
    (covers pattern host = true →
      (labelsOf host).length = (labelsOf pattern).length ∧
      (IsWildcard (labelsOf pattern) →
        ∃ label, label ≠ [] ∧ labelsOf host = label :: (labelsOf pattern).tail) ∧
      (¬ IsWildcard (labelsOf pattern) → labelsOf host = labelsOf pattern)) ∧
    ∀ pattern' host', Alike pattern pattern' → Alike host host' →
      covers pattern' host' = covers pattern host := by
  have hiff := @labelsCover_iff (labelsOf pattern) (labelsOf host)
  rw [← covers_eq_labelsCover] at hiff
  refine ⟨hiff, ?_, ?_⟩
  · intro hcovers
    rcases hiff.mp hcovers with ⟨hwild, hlabel, htail⟩ | ⟨hwild, hsame⟩
    · obtain ⟨first, more, hpattern⟩ := isWildcard_iff.mp hwild
      obtain ⟨label, hhead, hne⟩ := hlabel
      have hhost : labelsOf host = label :: (labelsOf pattern).tail := by
        rw [← htail]
        exact (List.cons_head?_tail hhead).symm
      refine ⟨?_, fun _ => ⟨label, hne, hhost⟩, fun h => absurd hwild h⟩
      rw [hhost, hpattern]
      simp
    · exact ⟨by rw [hsame], fun h => absurd h hwild, fun _ => hsame⟩
  · intro pattern' host' hpattern hhost
    rw [← covers_congr hhost, covers, covers, alike_iff.mp hpattern]

theorem covers_label_by_label_wildcard :
    covers "*.Example.com." "www.example.COM" = true ∧
    (labelsOf "www.example.COM").length = (labelsOf "*.Example.com.").length ∧
    (∃ label, label ≠ [] ∧
      labelsOf "www.example.COM" = label :: (labelsOf "*.Example.com.").tail) ∧
    covers "*.example.COM.." "WWW.example.com." = covers "*.Example.com." "www.example.COM" := by
  have hcovers : covers "*.Example.com." "www.example.COM" = true := by decide +kernel
  have hwild : IsWildcard (labelsOf "*.Example.com.") := by decide +kernel
  have hpattern : Alike "*.Example.com." "*.example.COM.." := alike_iff.mpr (by decide +kernel)
  have hhost : Alike "www.example.COM" "WWW.example.com." := alike_iff.mpr (by decide +kernel)
  obtain ⟨-, hlabels, hspelling⟩ := covers_label_by_label "*.Example.com." "www.example.COM"
  obtain ⟨hlength, hcovered, -⟩ := hlabels hcovers
  exact ⟨hcovers, hlength, hcovered hwild, hspelling _ _ hpattern hhost⟩

end Host

end TlsSetup
