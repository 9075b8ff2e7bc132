import TlsSetup.Proofs.Records

/-!
# Documents and the order of their fields

Two documents may differ in nothing but the order in which fields stand in their objects, at any depth.
A document that was read before is handed over with the fields of its objects in the order of their
names: if no object has two fields of one name, this is such a difference.
-/

namespace TlsSetup.Json

/-- The same name, and values that are related. -/
inductive SameField (R : Json → Json → Prop) : String × Json → String × Json → Prop
  | mk {name : String} {j j' : Json} (h : R j j') : SameField R (name, j) (name, j')

/-- Documents that differ in the order of the fields of their objects. -/
inductive Reordered : Json → Json → Prop
  | same (j : Json) : Reordered j j
  | array {items items' : List Json} {fault : Option Fault}
      (h : List.Forall₂ Reordered items items') : Reordered (.array items fault) (.array items' fault)
  | object {es es₁ es' : List (String × Json)} {fault : Option Fault}
      (h : List.Forall₂ (SameField Reordered) es es₁) (hperm : es₁.Perm es') :
      Reordered (.object es fault) (.object es' fault)

/-- The same fields in another order, with values that differ in the order of their fields. -/
def Rearranged (es es' : List (String × Json)) : Prop :=
  ∃ es₁, List.Forall₂ (SameField Reordered) es es₁ ∧ es₁.Perm es'

/-- No object inside has two fields of one name. -/
inductive Distinct : Json → Prop
  | null : Distinct .null
  | bool (b : Bool) : Distinct (.bool b)
  | integer (n : Int) : Distinct (.integer n)
  | float (bits : UInt64) : Distinct (.float bits)
  | text (s : String) : Distinct (.text s)
  | broken (opening : Option Char) (fault : Fault) : Distinct (.broken opening fault)
  | array {items : List Json} {fault : Option Fault} (h : ∀ j ∈ items, Distinct j) :
      Distinct (.array items fault)
  | object {es : List (String × Json)} {fault : Option Fault} (hnames : (es.map Prod.fst).Nodup)
      (h : ∀ e ∈ es, Distinct e.2) : Distinct (.object es fault)

theorem Reordered.fault_eq {j j' : Json} (h : Reordered j j') : j.fault? = j'.fault? := by
  cases h <;> rfl

theorem forall_fault_congr {items items' : List Json} (h : List.Forall₂ Reordered items items') :
    (∀ j ∈ items, j.fault? = none) ↔ ∀ j ∈ items', j.fault? = none := by
  induction h with
  | nil => rfl
  | cons hj _ ih => rw [List.forall_mem_cons, List.forall_mem_cons, ih, hj.fault_eq]

theorem Reordered.of_text {s : String} {j : Json} : Reordered (.text s) j ↔ j = .text s := by
  constructor
  · rintro ⟨⟩
    rfl
  · rintro rfl
    exact .same _

namespace Rearranged

variable {es es' : List (String × Json)}

theorem names (h : Rearranged es es') : (es.map Prod.fst).Perm (es'.map Prod.fst) := by
  obtain ⟨es₁, hsame, hperm⟩ := h
  have hnames : es.map Prod.fst = es₁.map Prod.fst := by
    clear hperm
    induction hsame with
    | nil => rfl
    | cons hfield _ ih =>
      obtain ⟨-⟩ := hfield
      rw [List.map_cons, List.map_cons, ih]
  rw [hnames]
  exact hperm.map Prod.fst

theorem lookup (h : Rearranged es es') (hnames : (es.map Prod.fst).Nodup) (name : String) :
    Option.Rel Reordered (es.lookup name) (es'.lookup name) := by
  have hnames' : (es'.map Prod.fst).Nodup := h.names.nodup_iff.mp hnames
  obtain ⟨es₁, hsame, hperm⟩ := h
  have hlookup : es₁.lookup name = es'.lookup name := by
    have hnames₁ : (es₁.map Prod.fst).Nodup := (hperm.map Prod.fst).nodup_iff.mpr hnames'
    ext j
    rw [Settings.lookup_eq_some_iff_mem hnames₁, Settings.lookup_eq_some_iff_mem hnames', hperm.mem_iff]
  rw [← hlookup]
  clear hperm hlookup hnames hnames'
  induction hsame with
  | nil => exact .none
  | @cons e e₁ es es₁ hfield _ ih =>
    obtain ⟨hj⟩ := hfield
    rw [List.lookup_cons, List.lookup_cons]
    split
    · exact .some hj
    · exact ih

theorem mem_text (h : Rearranged es es') {name s : String} :
    (name, .text s) ∈ es ↔ (name, .text s) ∈ es' := by
  obtain ⟨es₁, hsame, hperm⟩ := h
  rw [← hperm.mem_iff]
  clear hperm
  induction hsame with
  | nil => rfl
  | cons hfield _ ih =>
    obtain ⟨hj⟩ := hfield
    rw [List.mem_cons, List.mem_cons, ih, Prod.mk.injEq, Prod.mk.injEq]
    refine or_congr_left (and_congr_right fun _ => ?_)
    constructor
    · rintro rfl
      exact (Reordered.of_text.mp hj).symm
    · rintro rfl
      cases hj
      rfl

theorem forall_fault (h : Rearranged es es') :
    (∀ e ∈ es, e.2.fault? = none) ↔ ∀ e ∈ es', e.2.fault? = none := by
  obtain ⟨es₁, hsame, hperm⟩ := h
  have hes₁ : (∀ e ∈ es, e.2.fault? = none) ↔ ∀ e ∈ es₁, e.2.fault? = none := by
    clear hperm
    induction hsame with
    | nil => rfl
    | cons hfield _ ih =>
      obtain ⟨hj⟩ := hfield
      rw [List.forall_mem_cons, List.forall_mem_cons, ih, hj.fault_eq]
  rw [hes₁]
  exact forall_congr' fun e => by rw [hperm.mem_iff]

theorem filter (h : Rearranged es es') (p : String → Bool) :
    Rearranged (es.filter fun e => p e.1) (es'.filter fun e => p e.1) := by
  obtain ⟨es₁, hsame, hperm⟩ := h
  refine ⟨es₁.filter fun e => p e.1, ?_, hperm.filter _⟩
  refine List.rel_filter (R := SameField Reordered) ?_ hsame
  rintro _ _ ⟨-⟩
  rfl

theorem zip {names : List String} {items items' : List Json}
    (h : List.Forall₂ Reordered items items') :
    Rearranged (names.zip items) (names.zip items') := by
  refine ⟨names.zip items', ?_, .refl _⟩
  induction h generalizing names with
  | nil => simp
  | cons hj _ ih =>
    cases names with
    | nil => simp
    | cons name names => exact .cons ⟨hj⟩ ih

end Rearranged

end TlsSetup.Json

namespace TlsSetup.Settings

open Json

private theorem insertEntry_perm {e : String × Json} {es : List (String × Json)}
    (h : e.1 ∉ es.map Prod.fst) : (insertEntry e es).Perm (e :: es) := by
  induction es with
  | nil => exact .refl _
  | cons x es ih =>
    obtain ⟨hne, hrest⟩ := not_or.mp fun hmem => h (List.mem_cons.mpr hmem)
    rw [insertEntry, if_neg hne]
    split
    · exact .refl _
    · exact ((ih hrest).cons x).trans (.swap e x es)

private theorem foldl_insertEntry_perm {es done : List (String × Json)}
    (h : ((es ++ done).map Prod.fst).Nodup) :
    (es.foldl (fun acc e => insertEntry e acc) done).Perm (es ++ done) := by
  induction es generalizing done with
  | nil => exact .refl _
  | cons e es ih =>
    obtain ⟨hnew, hrest⟩ := List.nodup_cons.mp h
    have hinsert : (insertEntry e done).Perm (e :: done) := by
      refine insertEntry_perm fun hmem => hnew ?_
      exact List.map_append ▸ List.mem_append_right _ hmem
    have hmove : (es ++ insertEntry e done).Perm (e :: es ++ done) :=
      (hinsert.append_left es).trans List.perm_middle
    rw [List.foldl_cons]
    exact (ih ((hmove.map Prod.fst).nodup_iff.mpr h)).trans hmove

/-- Without two fields of one name in an object, nothing but the order of fields changes. -/
theorem reordered_sorted (fuel : Nat) {j : Json} (h : j.Distinct) : j.Reordered (sorted fuel j) := by
  induction fuel generalizing j with
  | zero => exact .same j
  | succ fuel ih =>
    cases h with
    | array h =>
      refine .array (List.forall₂_map_right_iff.mpr (List.forall₂_same.mpr fun j hj => ?_))
      exact ih (h j hj)
    | @object es fault hnames h =>
      let inside : String × Json → String × Json := fun e => (e.1, sorted fuel e.2)
      have hfields : List.Forall₂ (SameField Reordered) es (es.map inside) := by
        refine List.forall₂_map_right_iff.mpr (List.forall₂_same.mpr fun e he => ?_)
        exact ⟨ih (h e he)⟩
      have hnames' : ((es.map inside ++ []).map Prod.fst).Nodup := by
        simpa [Function.comp_def, inside] using hnames
      have hperm := foldl_insertEntry_perm hnames'
      rw [List.append_nil] at hperm
      exact .object hfields hperm.symm
    | _ => exact .same _

end TlsSetup.Settings
