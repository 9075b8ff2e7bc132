import Mathlib
import TlsSetup.Codec.Der

/-!
# Elements at the front of a byte string

What is read off the front of a byte string does not depend on the bytes that follow: they are left as
they are, and where lengths are definite they may as well be missing.
-/

namespace TlsSetup.Der

variable {bs rest : Bytes}

theorem split?_append {n : Nat} {taken : Bytes} (h : taken.length = n) (after : Bytes) :
    split? n (taken ++ after) = some (taken, after) := by
  subst h
  simp [split?]

private theorem readBase128?_cut {acc n : Nat} (h : readBase128? acc bs = some (n, rest)) :
    ∃ taken, bs = taken ++ rest ∧
      ∀ after, readBase128? acc (taken ++ after) = some (n, after) := by
  induction bs generalizing acc with
  | nil => simp [readBase128?] at h
  | cons b bs ih =>
    rw [readBase128?] at h
    by_cases hsize : 2147483648 ≤ acc * 128 + b.toNat % 128
    · simp [hsize] at h
    · by_cases hlast : b < 128
      · obtain ⟨rfl, rfl⟩ : acc * 128 + b.toNat % 128 = n ∧ bs = rest := by
          simpa [hsize, hlast] using h
        exact ⟨[b], rfl, fun after => by simp [readBase128?, hsize, hlast]⟩
      · obtain ⟨taken, rfl, hread⟩ := ih (by simpa [hsize, hlast] using h)
        exact ⟨b :: taken, rfl, fun after => by simp [readBase128?, hsize, hlast, hread]⟩

private theorem readTag?_cut {tag : Tag} {constructed : Bool}
    (h : readTag? bs = some (tag, constructed, rest)) :
    ∃ taken, bs = taken ++ rest ∧
      ∀ after, readTag? (taken ++ after) = some (tag, constructed, after) := by
  cases bs with
  | nil => simp [readTag?] at h
  | cons b bs =>
    by_cases hlong : b.toNat % 32 = 31
    · simp only [readTag?, hlong, if_true, Option.map_eq_some_iff] at h
      obtain ⟨⟨n, more⟩, hn, h⟩ := h
      obtain ⟨taken, rfl, hread⟩ := readBase128?_cut hn
      obtain ⟨rfl, rfl, rfl⟩ := by simpa using h
      exact ⟨b :: taken, rfl, fun after => by simp [readTag?, hlong, hread]⟩
    · obtain ⟨rfl, rfl, rfl⟩ := by simpa [readTag?, hlong] using h
      exact ⟨[b], rfl, fun after => by simp [readTag?, hlong]⟩

private theorem readTag?_append {tag : Tag} {constructed : Bool}
    (h : readTag? bs = some (tag, constructed, rest)) (after : Bytes) :
    readTag? (bs ++ after) = some (tag, constructed, rest ++ after) := by
  obtain ⟨taken, rfl, hread⟩ := readTag?_cut h
  rw [List.append_assoc, hread]

theorem number_of_readTag? {b : UInt8} {tag : Tag} {constructed : Bool}
    (h : readTag? (b :: bs) = some (tag, constructed, rest)) :
    b.toNat % 32 = 31 ∨ b.toNat % 32 = tag.number := by
  by_cases hlong : b.toNat % 32 = 31
  · exact .inl hlong
  · obtain ⟨rfl, -, -⟩ := by simpa [readTag?, hlong] using h
    exact .inr rfl

private theorem strictLength?_cut {n : Nat} {extent : Extent}
    (h : strictLength? n bs = some (extent, rest)) :
    ∃ taken, bs = taken ++ rest ∧
      ∀ after, strictLength? n (taken ++ after) = some (extent, after) := by
  by_cases hn : n = 127
  · simp [strictLength?, hn] at h
  · cases hs : split? n bs with
    | none => simp [strictLength?, hn, hs] at h
    | some pair =>
      obtain ⟨digits, more⟩ := pair
      obtain ⟨rfl, hlen⟩ := split?_eq_some hs
      by_cases hsize : 2 ^ 63 ≤ digits.toNat
      · simp [strictLength?, hn, hs, hsize] at h
      · obtain ⟨rfl, rfl⟩ := by simpa [strictLength?, hn, hs, hsize] using h
        refine ⟨digits, rfl, fun after => ?_⟩
        simp [strictLength?, hn, split?_append hlen, hsize]

private theorem readExtent?_cut {extent : Extent}
    (h : readExtent? .strict bs = some (extent, rest)) :
    (∃ n, extent = .definite n) ∧ ∃ taken, bs = taken ++ rest ∧
      ∀ after, readExtent? .strict (taken ++ after) = some (extent, after) := by
  cases bs with
  | nil => simp [readExtent?] at h
  | cons b bs =>
    by_cases hshort : b < 128
    · obtain ⟨rfl, rfl⟩ := by simpa [readExtent?, hshort] using h
      exact ⟨⟨_, rfl⟩, [b], rfl, fun after => by simp [readExtent?, hshort]⟩
    · by_cases hopen : b = 128
      · simp [readExtent?, hopen] at h
      · have hlong : strictLength? (b.toNat - 128) bs = some (extent, rest) := by
          simpa [readExtent?, hshort, hopen] using h
        obtain ⟨taken, rfl, hread⟩ := strictLength?_cut hlong
        refine ⟨?_, b :: taken, rfl, fun after => by simp [readExtent?, hshort, hopen, hread]⟩
        unfold strictLength? at hlong
        split at hlong
        · cases hlong
        · split at hlong
          · cases hlong
          · split at hlong
            · cases hlong
            · simp only [Option.some.injEq, Prod.mk.injEq] at hlong
              exact ⟨_, hlong.1.symm⟩

theorem readTag?_of_read? {rules : Rules} {e : Element} (h : read? rules bs = some (e, rest)) :
    ∃ body, readTag? bs = some (e.tag, e.constructed, body) := by
  unfold read? at h
  split at h
  · cases h
  · next tag constructed body ht =>
    refine ⟨body, ?_⟩
    rw [ht]
    repeat' split at h
    all_goals cases h
    all_goals rfl

/-- With definite lengths, an element is cut off the front together with its encoding, and nothing else
is looked at. -/
theorem read?_strict {e : Element} (h : read? .strict bs = some (e, rest)) :
    bs = e.encoding ++ rest ∧ ∀ after, read? .strict (e.encoding ++ after) = some (e, after) := by
  cases ht : readTag? bs with
  | none => simp [read?, ht] at h
  | some head =>
    obtain ⟨tag, constructed, body⟩ := head
    cases hx : readExtent? .strict body with
    | none => simp [read?, ht, hx] at h
    | some extent =>
      obtain ⟨extent, contents⟩ := extent
      obtain ⟨tagBytes, rfl, htag⟩ := readTag?_cut ht
      obtain ⟨⟨n, rfl⟩, extentBytes, rfl, hextent⟩ := readExtent?_cut hx
      cases hs : split? n contents with
      | none => simp [read?, ht, hx, hs] at h
      | some pair =>
        obtain ⟨content, more⟩ := pair
        obtain ⟨rfl, hlen⟩ := split?_eq_some hs
        have hread : ∀ after, read? .strict (tagBytes ++ (extentBytes ++ (content ++ after))) =
            some (⟨tag, constructed, content, tagBytes ++ (extentBytes ++ content)⟩, after) := by
          intro after
          have htake : (tagBytes ++ (extentBytes ++ (content ++ after))).take
              ((tagBytes ++ (extentBytes ++ (content ++ after))).length - after.length) =
              tagBytes ++ (extentBytes ++ content) := by
            simp [← List.append_assoc]
          simp only [read?, htag, hextent, split?_append hlen, htake]
        obtain ⟨rfl, rfl⟩ : _ = e ∧ more = rest := by simpa [hread] using h
        refine ⟨by simp, fun after => by simpa using hread after⟩

private theorem basicLength?_append {n : Nat} {extent : Extent}
    (h : basicLength? n bs = some (extent, rest)) (after : Bytes) :
    basicLength? n (bs ++ after) = some (extent, rest ++ after) := by
  by_cases hlen : bs.length ≤ n
  · simp [basicLength?, hlen] at h
  · have hmore : ¬ (bs ++ after).length ≤ n := by
      rw [List.length_append]
      omega
    have htake : (bs ++ after).take n = bs.take n := List.take_append_of_le_length (by omega)
    have hdrop : (bs ++ after).drop n = bs.drop n ++ after :=
      List.drop_append_of_le_length (by omega)
    simp only [basicLength?, hlen, hmore, htake, hdrop, if_false] at h ⊢
    split at h
    · cases h
    · next hsize =>
      obtain ⟨rfl, rfl⟩ := by simpa using h
      rw [if_neg hsize]

private theorem readExtent?_append {rules : Rules} {extent : Extent}
    (h : readExtent? rules bs = some (extent, rest)) (after : Bytes) :
    readExtent? rules (bs ++ after) = some (extent, rest ++ after) := by
  cases rules with
  | strict =>
    obtain ⟨-, taken, rfl, hread⟩ := readExtent?_cut h
    rw [List.append_assoc, hread]
  | basic =>
    cases bs with
    | nil => simp [readExtent?] at h
    | cons b bs =>
      by_cases hshort : b < 128
      · obtain ⟨rfl, rfl⟩ := by simpa [readExtent?, hshort] using h
        simp [readExtent?, hshort]
      · by_cases hopen : b = 128
        · obtain ⟨rfl, rfl⟩ := by simpa [readExtent?, hopen] using h
          simp [readExtent?, hopen]
        · have hlong : basicLength? (b.toNat - 128) bs = some (extent, rest) := by
            simpa [readExtent?, hshort, hopen] using h
          simp [readExtent?, hshort, hopen, basicLength?_append hlong]

private theorem opens_with_zeros {tag : Tag} {constructed : Bool} {body contents after tail : Bytes}
    {extent : Extent} (ht : readTag? bs = some (tag, constructed, body))
    (hx : readExtent? .basic body = some (extent, contents)) (h : bs ++ after = 0 :: 0 :: tail) :
    ∃ tail, bs = 0 :: 0 :: tail := by
  match bs, ht, h with
  | [b], ht, h =>
    obtain rfl : b = 0 := (List.cons.inj h).1
    obtain ⟨-, -, rfl⟩ := by simpa [readTag?] using ht
    simp [readExtent?] at hx
  | b :: c :: bs, _, h =>
    simp only [List.cons_append, List.cons.injEq] at h
    obtain ⟨rfl, rfl, -⟩ := h
    exact ⟨bs, rfl⟩

private theorem afterEnd?_append {fuel level : Nat} (h : afterEnd? fuel level bs = some rest)
    (more : Nat) (after : Bytes) :
    afterEnd? (fuel + more) level (bs ++ after) = some (rest ++ after) := by
  induction fuel generalizing level bs with
  | zero => simp [afterEnd?] at h
  | succ fuel ih =>
    rw [Nat.add_right_comm]
    unfold afterEnd? at h
    split at h
    · cases level with
      | zero =>
        obtain rfl := by simpa using h
        simp [afterEnd?]
      | succ level =>
        have hstep := ih h
        simpa [afterEnd?] using hstep
    · next hzeros =>
      split at h
      · cases h
      · next tag constructed body ht =>
        cases hx : readExtent? .basic body with
        | none => simp [hx] at h
        | some extent =>
          obtain ⟨extent, contents⟩ := extent
          -- The element at the front is read in full, so what comes next is no end marker either.
          unfold afterEnd?
          split
          · next tail _ htail =>
            obtain ⟨tail, hbs⟩ := opens_with_zeros ht hx htail
            exact absurd hbs (hzeros tail)
          · simp only [readTag?_append ht, readExtent?_append hx]
            cases extent with
            | untilEnd =>
              cases constructed with
              | false => simp [hx] at h
              | true => exact ih (by simpa [hx] using h)
            | definite n =>
              cases hs : split? n contents with
              | none => simp [hx, hs] at h
              | some pair =>
                obtain ⟨content, others⟩ := pair
                obtain ⟨rfl, hlen⟩ := split?_eq_some hs
                simp only [List.append_assoc, split?_append hlen]
                exact ih (by simpa [hx, hs] using h)

/-- An element that is read is also read if more bytes follow, under either set of rules. -/
theorem read?_append {rules : Rules} {e : Element} (h : read? rules bs = some (e, rest))
    (after : Bytes) : read? rules (bs ++ after) = some (e, rest ++ after) := by
  cases ht : readTag? bs with
  | none => simp [read?, ht] at h
  | some head =>
    obtain ⟨tag, constructed, body⟩ := head
    cases hx : readExtent? rules body with
    | none => simp [read?, ht, hx] at h
    | some extent =>
      obtain ⟨extent, contents⟩ := extent
      have hrest := length_read? h
      have htake : (bs ++ after).take ((bs ++ after).length - (rest ++ after).length) =
          bs.take (bs.length - rest.length) := by
        rw [List.length_append, List.length_append, Nat.add_sub_add_right]
        exact List.take_append_of_le_length (by omega)
      cases extent with
      | definite n =>
        cases hs : split? n contents with
        | none => simp [read?, ht, hx, hs] at h
        | some pair =>
          obtain ⟨content, others⟩ := pair
          obtain ⟨rfl, hlen⟩ := split?_eq_some hs
          obtain ⟨rfl, rfl⟩ : _ = e ∧ others = rest := by simpa [read?, ht, hx, hs] using h
          simp only [read?, readTag?_append ht, readExtent?_append hx, List.append_assoc,
            split?_append hlen, htake]
      | untilEnd =>
        cases constructed with
        | false => simp [read?, ht, hx] at h
        | true =>
          cases hend : afterEnd? contents.length 0 contents with
          | none => simp [read?, ht, hx, hend] at h
          | some others =>
            have hmore := afterEnd?_append hend after.length after
            rw [← List.length_append] at hmore
            have hbody : (contents ++ after).take
                ((contents ++ after).length - (others ++ after).length - 2) =
                contents.take (contents.length - others.length - 2) := by
              rw [List.length_append, List.length_append, Nat.add_sub_add_right]
              exact List.take_append_of_le_length (by omega)
            obtain ⟨rfl, rfl⟩ : _ = e ∧ others = rest := by simpa [read?, ht, hx, hend] using h
            simp only [read?, readTag?_append ht, readExtent?_append hx, hmore, htake, hbody,
              if_true]

end TlsSetup.Der
