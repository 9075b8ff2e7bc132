import TlsSetup.Proofs.Attempt
import TlsSetup.Settings.Reader

/-!
# Records

A record is read entry by entry, and collects what it reads in slots. What it comes to can be told from
the entries without their order: each is declared and comes once, and a slot holds what the entry of its
name says, or else what it held before.
-/

namespace TlsSetup.Settings

open Reader

variable {α σ : Type}

/-- Every entry is declared and comes once. -/
@[mk_iff]
structure Declared (known : List String) (es : List (String × Json)) : Prop where
  known : ∀ e ∈ es, e.1 ∈ known
  once : (es.map Prod.fst).Nodup

/-- A value that comes from a document if there is one, and is the default otherwise. -/
inductive Given (P : Json → α → Prop) (default : α) : Option Json → α → Prop
  | absent : Given P default none default
  | present {j : Json} {a : α} (h : P j a) : Given P default (some j) a

@[simp] theorem given_none {P : Json → α → Prop} {default a : α} :
    Given P default none a ↔ a = default := by
  constructor
  · rintro ⟨⟩
    rfl
  · rintro rfl
    exact .absent

@[simp] theorem given_some {P : Json → α → Prop} {default a : α} {j : Json} :
    Given P default (some j) a ↔ P j a := by
  constructor
  · rintro (_ | h)
    exact h
  · exact .present

/-- A slot for the value of the field with this name. -/
structure Slot (σ : Type) where
  name : String
  {Value : Type}
  read : Read Value
  get : σ → Value
  set : σ → Value → σ

/-- The slot holds what the entry of its name says, or else what it held before. -/
def Slot.Filled (f : Slot σ) (before : σ) (es : List (String × Json)) (after : σ) : Prop :=
  Given (fun j a => f.read j = .ok a) (f.get before) (es.lookup f.name) (f.get after)

/-- What is taken from an entry goes into its slot and leaves the others alone; there is nothing but
these slots. -/
structure Collects (take : σ → String → Read σ) (slots : List (Slot σ)) : Prop where
  names : (slots.map Slot.name).Nodup
  take_eq : ∀ f ∈ slots, ∀ s j, take s f.name j = f.set s <$> f.read j
  get_set : ∀ f ∈ slots, ∀ s a, f.get (f.set s a) = a
  get_set_of_ne : ∀ f ∈ slots, ∀ g ∈ slots, f.name ≠ g.name → ∀ s a, f.get (g.set s a) = f.get s
  ext : ∀ s s', (∀ f ∈ slots, f.get s = f.get s') → s = s'

theorem except_functor_map_eq_ok {β ε : Type} {x : Except ε α} {f : α → β} {b : β} :
    f <$> x = .ok b ↔ ∃ a, x = .ok a ∧ b = f a := except_map_eq_ok

private theorem declared_cons {known : List String} {name : String} {j : Json}
    {es : List (String × Json)} :
    Declared known ((name, j) :: es) ↔
      name ∈ known ∧ name ∉ es.map Prod.fst ∧ Declared known es := by
  constructor
  · rintro ⟨hknown, honce⟩
    obtain ⟨hname, honce⟩ := List.nodup_cons.mp honce
    exact ⟨hknown _ List.mem_cons_self, hname, fun e he => hknown e (List.mem_cons_of_mem _ he), honce⟩
  · rintro ⟨hname, hnew, hknown, honce⟩
    refine ⟨?_, List.nodup_cons.mpr ⟨hnew, honce⟩⟩
    intro e he
    rcases List.mem_cons.mp he with rfl | he
    · exact hname
    · exact hknown e he

private theorem lookup_eq_none_of_notMem {name : String} {es : List (String × Json)}
    (h : name ∉ es.map Prod.fst) : es.lookup name = none := by
  refine List.lookup_eq_none_iff.mpr fun e he => ?_
  refine bne_iff_ne.mpr ?_
  rintro rfl
  exact h (List.mem_map_of_mem he)

theorem lookup_eq_some_iff_mem {es : List (String × α)} (h : (es.map Prod.fst).Nodup) {name : String}
    {a : α} : es.lookup name = some a ↔ (name, a) ∈ es := by
  induction es with
  | nil => simp
  | cons e es ih =>
    obtain ⟨other, b⟩ := e
    obtain ⟨hother, hrest⟩ := List.nodup_cons.mp h
    rw [List.mem_cons, Prod.mk.injEq]
    by_cases hname : name = other
    · subst hname
      have habsent : (name, a) ∉ es := fun hmem => hother (List.mem_map.mpr ⟨_, hmem, rfl⟩)
      rw [List.lookup_cons_self]
      simp [habsent, eq_comm]
    · rw [List.lookup_cons, beq_false_of_ne hname, ih hrest]
      simp [hname]

theorem entries_eq_foldlM {known : List String} {take : σ → String → Read σ}
    {es : List (String × Json)} {seen : List String} (h : Declared known es)
    (hseen : ∀ e ∈ es, e.1 ∉ seen) (s : σ) :
    entries known take seen s es = es.foldlM (fun s (name, j) => take s name j) s := by
  induction es generalizing seen s with
  | nil => rfl
  | cons e es ih =>
    obtain ⟨name, j⟩ := e
    obtain ⟨hknown, hnew, hrest⟩ := declared_cons.mp h
    obtain ⟨hfresh, hseen⟩ := List.forall_mem_cons.mp hseen
    rw [entries, if_neg (by simpa using hknown), if_neg (by simpa using hfresh), List.foldlM_cons]
    refine bind_congr fun s => ih hrest (fun e he hmem => ?_) s
    rcases List.mem_cons.mp hmem with hname | hmem
    · exact hnew (hname ▸ List.mem_map_of_mem he)
    · exact hseen e he hmem

namespace Collects

variable {take : σ → String → Read σ} {slots : List (Slot σ)}

private theorem eq_of_name (h : Collects take slots) {f g : Slot σ} (hf : f ∈ slots)
    (hg : g ∈ slots)
    (hname : f.name = g.name) : f = g := List.inj_on_of_nodup_map h.names hf hg hname

private theorem filled_cons (h : Collects take slots) {f : Slot σ} (hf : f ∈ slots) {j : Json}
    {es : List (String × Json)} (hnew : f.name ∉ es.map Prod.fst) {before after : σ} :
    (∀ g ∈ slots, g.Filled before ((f.name, j) :: es) after) ↔
      ∃ a, f.read j = .ok a ∧ ∀ g ∈ slots, g.Filled (f.set before a) es after := by
  have hlookup : ((f.name, j) :: es).lookup f.name = some j := List.lookup_cons_self
  have hother : ∀ g ∈ slots, g.name ≠ f.name → ∀ a,
      (g.Filled before ((f.name, j) :: es) after ↔ g.Filled (f.set before a) es after) := by
    intro g hg hne a
    have hskip : ((f.name, j) :: es).lookup g.name = es.lookup g.name := by
      rw [List.lookup_cons, beq_false_of_ne hne]
    rw [Slot.Filled, Slot.Filled, hskip, h.get_set_of_ne g hg f hf hne]
  constructor
  · intro hall
    have hread : f.read j = .ok (f.get after) := by
      have hfilled := hall f hf
      rwa [Slot.Filled, hlookup, given_some] at hfilled
    refine ⟨f.get after, hread, fun g hg => ?_⟩
    by_cases hname : g.name = f.name
    · obtain rfl := h.eq_of_name hg hf hname
      rw [Slot.Filled, lookup_eq_none_of_notMem hnew, given_none, h.get_set g hg]
    · exact (hother g hg hname _).mp (hall g hg)
  · rintro ⟨a, hread, hall⟩ g hg
    by_cases hname : g.name = f.name
    · obtain rfl := h.eq_of_name hg hf hname
      have hafter : g.get after = a := by
        have hfilled := hall g hg
        rwa [Slot.Filled, lookup_eq_none_of_notMem hnew, given_none, h.get_set g hg] at hfilled
      rw [Slot.Filled, hlookup, given_some, hafter]
      exact hread
    · exact (hother g hg hname a).mpr (hall g hg)

private theorem filled_nil (h : Collects take slots) {before after : σ} :
    (∀ f ∈ slots, f.Filled before [] after) ↔ after = before := by
  constructor
  · intro hall
    refine h.ext after before fun f hf => ?_
    have hfilled := hall f hf
    rwa [Slot.Filled, List.lookup_nil, given_none] at hfilled
  · rintro rfl f hf
    rw [Slot.Filled, List.lookup_nil, given_none]

/-- A record can be read exactly if its entries are declared, come once and can be read, and then its
slots hold what the entries of their names say. -/
theorem entries_eq_ok (h : Collects take slots) {seen : List String} {before after : σ}
    {es : List (String × Json)} :
    entries (slots.map Slot.name) take seen before es = .ok after ↔
      (Declared (slots.map Slot.name) es ∧ ∀ e ∈ es, e.1 ∉ seen) ∧
        ∀ f ∈ slots, f.Filled before es after := by
  induction es generalizing seen before with
  | nil =>
    rw [h.filled_nil, entries]
    constructor
    · intro hok
      exact ⟨⟨⟨by simp, List.nodup_nil⟩, by simp⟩, (Except.ok.inj hok).symm⟩
    · rintro ⟨-, rfl⟩
      rfl
  | cons e es ih =>
    obtain ⟨name, j⟩ := e
    rw [entries, declared_cons, List.forall_mem_cons]
    by_cases hknown : name ∈ slots.map Slot.name
    · by_cases hseen : name ∈ seen
      · simp [hknown, hseen]
      · obtain ⟨f, hf, rfl⟩ := List.mem_map.mp hknown
        rw [if_neg (by simpa using ⟨f, hf, rfl⟩), if_neg (by simpa using hseen), h.take_eq f hf,
          except_bind_eq_ok]
        simp only [except_functor_map_eq_ok, ih]
        constructor
        · rintro ⟨s, ⟨a, hread, rfl⟩, ⟨hdeclared, hfresh⟩, hall⟩
          have hnew : f.name ∉ es.map Prod.fst := by
            intro hmem
            obtain ⟨e, he, hname⟩ := List.mem_map.mp hmem
            exact hfresh e he (by simp [hname])
          refine ⟨⟨⟨hknown, hnew, hdeclared⟩, hseen, ?_⟩, (h.filled_cons hf hnew).mpr ⟨a, hread, hall⟩⟩
          exact fun e he hmem => hfresh e he (List.mem_cons_of_mem _ hmem)
        · rintro ⟨⟨⟨-, hnew, hdeclared⟩, -, hfresh⟩, hall⟩
          obtain ⟨a, hread, hrest⟩ := (h.filled_cons hf hnew).mp hall
          refine ⟨f.set before a, ⟨a, hread, rfl⟩, ⟨hdeclared, fun e he hmem => ?_⟩, hrest⟩
          rcases List.mem_cons.mp hmem with hname | hmem
          · exact hnew (hname ▸ List.mem_map_of_mem he)
          · exact hfresh e he hmem
    · have hunknown : (slots.map Slot.name).contains name = false := by simpa using hknown
      rw [if_pos hunknown]
      simp [hknown]

theorem record_eq_ok (h : Collects take slots) {before after : σ} {es : List (String × Json)} :
    entries (slots.map Slot.name) take [] before es = .ok after ↔
      Declared (slots.map Slot.name) es ∧ ∀ f ∈ slots, f.Filled before es after := by
  rw [h.entries_eq_ok]
  simp

end Collects

end TlsSetup.Settings
