import TlsSetup.Proofs.Negotiation
import TlsSetup.Proofs.OfferedNames

/-!
# Whose preference counts

A server goes through its own protocols in their order and takes the first one that the client offers.
It answers with a piece of the client's list, the first entry with that name. How the client orders its
list, or whether it repeats itself, makes no difference.
-/

namespace TlsSetup

namespace Alpn

variable {ours offered more : List Bytes} {name : Bytes} {i : Nat}

/-- At place `i` of `xs` stands `x`, the first element with `p`. -/
structure FirstAt (p : Bytes → Prop) (xs : List Bytes) (i : Nat) (x : Bytes) : Prop where
  here : xs[i]? = some x
  holds : p x
  least : ∀ k < i, ∀ y, xs[k]? = some y → ¬ p y

private theorem firstAt_iff {p : Bytes → Prop} {xs : List Bytes} {x : Bytes} : FirstAt p xs i x ↔
    ∃ before after, xs = before ++ x :: after ∧ before.length = i ∧ p x ∧ ∀ y ∈ before, ¬ p y := by
  constructor
  · intro h
    obtain ⟨hlt, hx⟩ := List.getElem?_eq_some_iff.mp h.here
    refine ⟨xs.take i, xs.drop (i + 1), ?_, ?_, h.holds, ?_⟩
    · rw [← hx, List.getElem_cons_drop, List.take_append_drop]
    · rw [List.length_take]
      omega
    · intro y hy
      obtain ⟨k, hk⟩ := List.mem_iff_getElem?.mp hy
      have hki : k < i := by
        have hbound := (List.getElem?_eq_some_iff.mp hk).1
        rw [List.length_take] at hbound
        omega
      rw [List.getElem?_take_of_lt hki] at hk
      exact h.least k hki y hk
  · intro h
    obtain ⟨before, after, rfl, rfl, hx, hbefore⟩ := h
    refine ⟨by simp, hx, ?_⟩
    intro k hk y hy
    rw [List.getElem?_append_left hk] at hy
    exact hbefore y (List.mem_of_getElem? hy)

private theorem findIdx?_eq_some_iff_firstAt :
    offered.findIdx? (· == name) = some i ↔ FirstAt (· = name) offered i name := by
  rw [List.findIdx?_eq_some_iff_getElem]
  constructor
  · intro h
    obtain ⟨hlt, hname, hleast⟩ := h
    have hname := beq_iff_eq.mp hname
    refine ⟨by rw [List.getElem?_eq_getElem hlt, hname], rfl, ?_⟩
    intro k hk y hy heq
    obtain ⟨hlt', rfl⟩ := List.getElem?_eq_some_iff.mp hy
    simpa [heq] using hleast k hk
  · intro h
    obtain ⟨hlt, hname⟩ := List.getElem?_eq_some_iff.mp h.here
    refine ⟨hlt, by rw [hname, beq_self_eq_true], ?_⟩
    intro k hk
    have hne := h.least k hk offered[k] (List.getElem?_eq_getElem _)
    simpa using hne

/-- The name is the first of ours that is offered, and its place that of the first entry with it. -/
theorem select?_eq_some_iff : select? ours offered = some (name, i) ↔
    (∃ k, FirstAt (· ∈ offered) ours k name) ∧ FirstAt (· = name) offered i name := by
  have hnone : ∀ x, ((offered.findIdx? (· == x)).map fun k => (x, k)) = none ↔ x ∉ offered := by
    intro x
    rw [Option.map_eq_none_iff, ← Option.not_isSome_iff_eq_none, isSome_findIdx?,
      List.contains_iff_mem]
  have hsome : ∀ x, ((offered.findIdx? (· == x)).map fun k => (x, k)) = some (name, i) ↔
      x = name ∧ FirstAt (· = name) offered i name := by
    intro x
    simp only [Option.map_eq_some_iff, Prod.mk.injEq]
    constructor
    · intro h
      obtain ⟨k, hk, rfl, rfl⟩ := h
      exact ⟨rfl, findIdx?_eq_some_iff_firstAt.mp hk⟩
    · intro h
      obtain ⟨rfl, hfirst⟩ := h
      exact ⟨i, findIdx?_eq_some_iff_firstAt.mpr hfirst, rfl, rfl⟩
  simp only [select?, List.findSome?_eq_some_iff, hnone, hsome]
  constructor
  · intro h
    obtain ⟨before, x, after, hours, ⟨rfl, hfirst⟩, hbefore⟩ := h
    have hmem := List.mem_of_getElem? hfirst.here
    exact ⟨⟨_, firstAt_iff.mpr ⟨before, after, hours, rfl, hmem, hbefore⟩⟩, hfirst⟩
  · intro h
    obtain ⟨⟨k, hours⟩, hfirst⟩ := h
    obtain ⟨before, after, hours, -, -, hbefore⟩ := firstAt_iff.mp hours
    exact ⟨before, name, after, hours, ⟨rfl, hfirst⟩, hbefore⟩

private theorem exists_select?_iff :
    (∃ chosen, select? ours offered = some chosen) ↔ ∃ name ∈ ours, name ∈ offered := by
  rw [← Option.isSome_iff_exists, ← not_iff_not, Option.not_isSome_iff_eq_none,
    select?_eq_none_iff]
  simp

private theorem map_fst_select?_congr (h : ∀ name, name ∈ offered ↔ name ∈ more) :
    (select? ours offered).map (·.1) = (select? ours more).map (·.1) := by
  have hcontains : (fun name => offered.contains name) = fun name => more.contains name := by
    funext name
    rw [Bool.eq_iff_iff, List.contains_iff_mem, List.contains_iff_mem, h]
  rw [map_fst_select?, map_fst_select?, hcontains]

private theorem select?_append {chosen : Bytes × Nat} (h : select? ours offered = some chosen)
    (more : List Bytes) : select? (ours ++ more) offered = some chosen := by
  rw [select?] at h ⊢
  rw [List.findSome?_append, h, Option.some_or]

private theorem exists_getElem?_layout {bs : Bytes} (h : (decode bs)[i]? = some name) :
    ∃ e, (layout 0 (decode bs))[i]? = some e ∧ e.name = name ∧
      bs.slice? e.start name.length = some name := by
  rw [← map_name_layout 0 (decode bs), List.getElem?_map, Option.map_eq_some_iff] at h
  obtain ⟨e, he, rfl⟩ := h
  exact ⟨e, he, rfl, slice?_of_mem_entries (entriesFrom?_zero bs) e (List.mem_of_getElem? he)⟩

end Alpn

namespace OpensslContext

open Alpn

/-- With whatever bytes a client sends, a protocol is chosen exactly if one of ours is among the names
in them. It is the first of ours that is, and the answer is the first entry with that name, a piece of
the client's bytes. Clients that offer the same names get the same one, in whatever order and however
often they name them, and a choice stands when less preferred protocols are added to ours. -/
theorem chooseProtocol_follows_our_preference (ours : List Bytes) (bs : Bytes) :
    (chooseProtocol ours bs).value = select? ours (decode bs) ∧
    ((∃ chosen, select? ours (decode bs) = some chosen) ↔ ∃ name ∈ ours, name ∈ decode bs) ∧
    (∀ name j, select? ours (decode bs) = some (name, j) ↔
      (∃ i, FirstAt (· ∈ decode bs) ours i name) ∧ FirstAt (· = name) (decode bs) j name) ∧
    (∀ name j, select? ours (decode bs) = some (name, j) →
      ∃ e, (layout 0 (decode bs))[j]? = some e ∧ e.name = name ∧
        bs.slice? e.start name.length = some name) ∧
    (∀ offered : List Bytes, (∀ name, name ∈ offered ↔ name ∈ decode bs) →
      (select? ours offered).map (·.1) = (select? ours (decode bs)).map (·.1)) ∧
    ∀ chosen more, select? ours (decode bs) = some chosen →
      select? (ours ++ more) (decode bs) = some chosen := by
  refine ⟨?_, exists_select?_iff, fun name j => select?_eq_some_iff, ?_,
    fun offered => map_fst_select?_congr, fun chosen more h => select?_append h more⟩
  · rw [chooseProtocol]
    cases select? ours (decode bs) <;> rfl
  · intro name j h
    exact exists_getElem?_layout (select?_eq_some_iff.mp h).2.here

-- the client prefers the other protocol, and names ours twice
example : (chooseProtocol [Bytes.ofString "h2", Bytes.ofString "http/1.1"]
    (encode [Bytes.ofString "http/1.1", Bytes.ofString "h2", Bytes.ofString "h2"])).value =
      some (Bytes.ofString "h2", 1) := by cbv

end OpensslContext

end TlsSetup
