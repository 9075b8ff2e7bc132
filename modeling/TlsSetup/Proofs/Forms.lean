import TlsSetup.Proofs.Records

/-!
# Forms of documents

Values, lists, choices, records and records with a tag, each told without a reader: a document has the
form or it has not. A reader accepts the documents of its form and no others.
-/

namespace TlsSetup.Settings

open Reader

variable {α : Type} {j : Json}

def Nullable (P : Json → α → Prop) (j : Json) : Option α → Prop
  | none => j = .null
  | some a => P j a

/-- A list, item by item. -/
def Listed (P : Json → α → Prop) (j : Json) (values : List α) : Prop :=
  ∃ items, j = .array items none ∧ List.Forall₂ P items values

def IsText (j : Json) (s : String) : Prop := j = .text s

/-- One of some names, alone or with nothing beside it. -/
def Chosen (streamed : Bool) (known : List (String × α)) (j : Json) (a : α) : Prop :=
  ∃ name, known.lookup name = some a ∧
    (j = .text name ∨
      ∃ fault, j = .object [(name, .null)] fault ∧ (streamed = true → fault = none))

/-- The fields that a document gives to a record with these names: by name, or one after the other. -/
inductive Gives (names : List String) : Json → List (String × Json) → Prop
  | named {es : List (String × Json)} {fault : Option Json.Fault} : Gives names (.object es fault) es
  | listed {items : List Json} {fault : Option Json.Fault} (h : items.length ≤ names.length) :
      Gives names (.array items fault) (names.zip items)

/-- The contents beside a tag, as a document. -/
def Reader.Contents.document : Contents → Json
  | .fields es => .object es none
  | .items rest => .array rest none

/-- A record that says by a tag what it is, and its other contents, which must be whole. -/
inductive Tagged : Json → String → Contents → Prop
  | named {es : List (String × Json)} {tag : String} (htag : ("type", .text tag) ∈ es)
      (honce : (es.map Prod.fst).count "type" = 1) (hwhole : ∀ e ∈ es, e.2.fault? = none) :
      Tagged (.object es none) tag (.fields (es.filter fun e => e.1 != "type"))
  | listed {items : List Json} {tag : String} (hwhole : ∀ j ∈ items, j.fault? = none) :
      Tagged (.array (.text tag :: items) none) tag (.items items)

/-- A record with this tag, whose other contents give its fields. -/
def TaggedRecord (tag : String) (names : List String) (P : List (String × Json) → Prop)
    (j : Json) : Prop := ∃ c, Tagged j tag c ∧ ∃ es, Gives names c.document es ∧ P es

section Gives

variable {names : List String} {P : List (String × Json) → Prop}

theorem exists_gives_object {es : List (String × Json)} {fault : Option Json.Fault} :
    (∃ es', Gives names (.object es fault) es' ∧ P es') ↔ P es := by
  constructor
  · rintro ⟨_, ⟨⟩, h⟩
    exact h
  · intro h
    exact ⟨es, .named, h⟩

theorem exists_gives_array {items : List Json} {fault : Option Json.Fault} :
    (∃ es, Gives names (.array items fault) es ∧ P es) ↔
      items.length ≤ names.length ∧ P (names.zip items) := by
  constructor
  · rintro ⟨_, hgives, h⟩
    cases hgives with
    | listed hlength => exact ⟨hlength, h⟩
  · rintro ⟨hlength, h⟩
    exact ⟨_, .listed hlength, h⟩

/-- What is read beside a tag is told for the two forms of contents, once for each record. -/
theorem taggedRecord_iff (tag : String) (names : List String) {accepts : Contents → Prop}
    (hfields : ∀ es, accepts (.fields es) ↔ P es)
    (hitems : ∀ items, accepts (.items items) ↔ items.length ≤ names.length ∧ P (names.zip items)) :
    (∃ c, Tagged j tag c ∧ accepts c) ↔ TaggedRecord tag names P j := by
  refine exists_congr fun c => and_congr_right fun _ => ?_
  cases c with
  | fields es => exact (hfields es).trans exists_gives_object.symm
  | items items => exact (hitems items).trans exists_gives_array.symm

end Gives

section Values

theorem truth_eq_ok {b : Bool} : truth j = .ok b ↔ j = .bool b := by
  cases j <;> simp [truth, mismatch]

theorem text_eq_ok {s : String} : text j = .ok s ↔ IsText j s := by
  cases j <;> simp [text, mismatch, IsText]

theorem path_eq_ok {s : String} : path j = .ok s ↔ IsText j s := by
  cases j <;> simp [path, mismatch, IsText]

theorem optional_eq_ok {read : Read α} (hnull : ∀ a, read .null ≠ .ok a) {o : Option α} :
    Reader.optional read j = .ok o ↔ Nullable (fun j a => read j = .ok a) j o := by
  by_cases hj : j = .null
  · subst hj
    cases o with
    | none => simp [Reader.optional, Nullable]
    | some a => simp [Reader.optional, Nullable, hnull]
  · have hread : optional read j = (read j).map some := by
      cases j <;> first | rfl | exact absurd rfl hj
    rw [hread, except_map_eq_ok]
    cases o with
    | none => simp [Nullable, hj]
    | some a => simp [Nullable]

theorem intact_eq_ok {fault : Option Json.Fault} : intact fault = .ok () ↔ fault = none := by
  cases fault <;> simp [intact]

theorem list_eq_ok {read : Read α} {values : List α} :
    list read j = .ok values ↔ Listed (fun j a => read j = .ok a) j values := by
  cases j with
  | array items fault =>
    simp only [list, except_bind_eq_ok, except_pure_eq_ok, except_mapM_eq_ok, Listed]
    constructor
    · rintro ⟨found, hitems, ⟨⟩, hfault, rfl⟩
      exact ⟨items, by rw [intact_eq_ok.mp hfault], hitems⟩
    · rintro ⟨_, hj, hitems⟩
      cases hj
      exact ⟨values, hitems, (), rfl, rfl⟩
  | _ => simp [list, mismatch, Listed]

private theorem variant_eq_ok {known : List (String × α)} {name : String} {a : α} :
    variant known name = .ok a ↔ known.lookup name = some a := by
  rw [variant]
  cases known.lookup name <;> simp

private theorem nothing_eq_ok : nothing j = .ok () ↔ j = .null := by
  cases j <;> simp [nothing, mismatch]

private theorem variant_nothing_eq_ok {known : List (String × α)} {name : String} {value : Json}
    {a : α} :
    (do let a ← variant known name; nothing value; return a) = .ok a ↔
      known.lookup name = some a ∧ value = .null := by
  simp only [except_bind_eq_ok, except_pure_eq_ok, variant_eq_ok]
  constructor
  · rintro ⟨_, hname, ⟨⟩, hvalue, rfl⟩
    exact ⟨hname, nothing_eq_ok.mp hvalue⟩
  · rintro ⟨hname, rfl⟩
    exact ⟨a, hname, (), rfl, rfl⟩

theorem choice_eq_ok {streamed : Bool} {known : List (String × α)} {a : α} :
    choice streamed known j = .ok a ↔ Chosen streamed known j a := by
  cases j with
  | text s => simp [choice, Chosen, variant_eq_ok]
  | object es fault =>
    match es with
    | [] => cases streamed <;> simp [choice, Chosen]
    | [(name, value)] =>
      have hchosen : Chosen streamed known (.object [(name, value)] fault) a ↔
          (known.lookup name = some a ∧ value = .null) ∧ (streamed = true → fault = none) := by
        simp only [Chosen, reduceCtorEq, false_or, Json.object.injEq, List.cons.injEq, Prod.mk.injEq,
          and_true]
        constructor
        · rintro ⟨_, hname, _, ⟨⟨rfl, rfl⟩, rfl⟩, hfault⟩
          exact ⟨⟨hname, rfl⟩, hfault⟩
        · rintro ⟨⟨hname, rfl⟩, hfault⟩
          exact ⟨name, hname, fault, ⟨⟨rfl, rfl⟩, rfl⟩, hfault⟩
      rw [hchosen, ← variant_nothing_eq_ok]
      cases streamed with
      | false => simp [choice]
      | true =>
        cases fault with
        | none => simp [choice]
        | some fault =>
          simp only [choice, if_true, List.isEmpty_nil, Bool.not_true, Bool.false_eq_true, if_false,
            except_bind_eq_ok]
          cases fault <;> simp [throw, throwThe, MonadExceptOf.throw]
    | (name, value) :: second :: more =>
      have hnot : ¬ Chosen streamed known (.object ((name, value) :: second :: more) fault) a := by
        simp [Chosen]
      cases streamed with
      | false => simp [choice, hnot]
      | true =>
        simp only [choice, if_true, List.isEmpty_cons, Bool.not_false, except_bind_eq_ok,
          except_throw_ne_ok, false_and, exists_false, and_false, hnot]
  | broken opening fault =>
    rw [choice]
    split <;> simp [Chosen]
  | _ => cases streamed <;> simp [choice, Chosen]

end Values

section Items

theorem declared_zip {names : List String} (h : names.Nodup) (items : List Json) :
    Declared names (names.zip items) where
  known e he := (List.of_mem_zip he).1
  once := by
    rw [List.zip_eq_zip_take_min, List.map_fst_zip (by simp)]
    exact h.sublist (List.take_sublist ..)

private theorem lookup_zip {names : List String} (h : names.Nodup) {i : Nat} {name : String}
    (hi : names[i]? = some name) (items : List Json) : (names.zip items).lookup name = items[i]? := by
  induction names generalizing i items with
  | nil => cases hi
  | cons first names ih =>
    obtain ⟨hfirst, hrest⟩ := List.nodup_cons.mp h
    cases items with
    | nil => rfl
    | cons j items =>
      cases i with
      | zero =>
        obtain rfl : first = name := by simpa using hi
        exact List.lookup_cons_self
      | succ i =>
        have hne : name ≠ first := by
          rintro rfl
          exact hfirst (List.mem_of_getElem? hi)
        rw [List.zip_cons_cons, List.lookup_cons, beq_false_of_ne hne]
        exact ih hrest hi items

theorem exactly_eq_ok {fields : Nat} {items : List Json} :
    exactly fields items = .ok () ↔ items.length ≤ fields := by
  rw [exactly]
  split <;> simp <;> omega

theorem itemAt_eq_ok {names : List String} (h : names.Nodup) {i : Nat} {name : String}
    (hi : names[i]? = some name) {record : String} {fields : Nat} {read : Read α}
    {items : List Json} {a : α} :
    itemAt record fields read items i = .ok a ↔
      ∃ j, (names.zip items).lookup name = some j ∧ read j = .ok a := by
  rw [itemAt, lookup_zip h hi]
  split
  case h_1 j hj => simp [hj]
  case h_2 hnone => simp [hnone]

theorem itemOr_eq_ok {names : List String} (h : names.Nodup) {i : Nat} {name : String}
    (hi : names[i]? = some name) {default : α} {read : Read α} {items : List Json} {a : α} :
    itemOr default read items i = .ok a ↔
      Given (fun j a => read j = .ok a) default ((names.zip items).lookup name) a := by
  rw [itemOr, lookup_zip h hi]
  cases items[i]? <;> simp [eq_comm]

theorem required_eq_ok {name : String} {o : Option α} {a : α} :
    required name o = .ok a ↔ o = some a := by
  cases o <;> simp [required]

theorem given_map_some {read : Read α} {o : Option Json} {a : α} :
    Given (fun j b => some <$> read j = .ok b) none o (some a) ↔ ∃ j, o = some j ∧ read j = .ok a := by
  cases o <;> simp [except_functor_map_eq_ok]

theorem exists_isText {o : Option Json} {s : String} :
    (∃ j, o = some j ∧ IsText j s) ↔ o = some (.text s) := by
  simp [IsText]

end Items

section Tags

private theorem tag_eq_ok {known : List (String × α)} {a : α} :
    tag known j = .ok a ↔ ∃ name, j = .text name ∧ known.lookup name = some a := by
  cases j <;> simp [tag, mismatch, variant_eq_ok]

private theorem whole_eq_ok {j' : Json} : whole j = .ok j' ↔ j' = j ∧ j.fault? = none := by
  simp only [whole, except_bind_eq_ok, except_pure_eq_ok]
  constructor
  · rintro ⟨⟨⟩, hfault, rfl⟩
    exact ⟨rfl, intact_eq_ok.mp hfault⟩
  · rintro ⟨rfl, hfault⟩
    exact ⟨(), intact_eq_ok.mpr hfault, rfl⟩

private theorem mapM_whole_eq_ok {items items' : List Json} :
    items.mapM whole = .ok items' ↔ items' = items ∧ ∀ j ∈ items, j.fault? = none := by
  rw [except_mapM_eq_ok]
  constructor
  · intro h
    induction h with
    | nil => simp
    | cons hj _ ih =>
      obtain ⟨rfl, hfault⟩ := whole_eq_ok.mp hj
      obtain ⟨rfl, hrest⟩ := ih
      exact ⟨rfl, List.forall_mem_cons.mpr ⟨hfault, hrest⟩⟩
  · rintro ⟨rfl, h⟩
    exact List.forall₂_same.mpr fun j hj => whole_eq_ok.mpr ⟨rfl, h j hj⟩

private theorem taggedEntries_found_eq_ok {known : List (String × α)} {a : α}
    {es others : List (String × Json)} {found : Option α} {rest : List (String × Json)} :
    taggedEntries known (some a) others es = .ok (found, rest) ↔
      found = some a ∧ rest = others.reverse ++ es ∧ "type" ∉ es.map Prod.fst ∧
        ∀ e ∈ es, e.2.fault? = none := by
  induction es generalizing others with
  | nil => simp [taggedEntries, eq_comm]
  | cons e es ih =>
    obtain ⟨name, j⟩ := e
    rw [taggedEntries, List.map_cons, List.forall_mem_cons]
    by_cases hname : name = "type"
    · simp [hname]
    · simp only [hname, if_false, except_bind_eq_ok, whole_eq_ok, ih, List.reverse_cons,
        List.append_assoc, List.singleton_append, List.mem_cons, Ne.symm hname, false_or]
      constructor
      · rintro ⟨_, ⟨rfl, hj⟩, hfound, hrest, htype, hwhole⟩
        exact ⟨hfound, hrest, htype, hj, hwhole⟩
      · rintro ⟨hfound, hrest, htype, hj, hwhole⟩
        exact ⟨j, ⟨rfl, hj⟩, hfound, hrest, htype, hwhole⟩

private theorem taggedEntries_eq_ok {known : List (String × α)} {a : α}
    {es others rest : List (String × Json)} :
    taggedEntries known none others es = .ok (some a, rest) ↔
      (∃ tag, known.lookup tag = some a ∧ ("type", .text tag) ∈ es) ∧
        (es.map Prod.fst).count "type" = 1 ∧ (∀ e ∈ es, e.2.fault? = none) ∧
          rest = others.reverse ++ es.filter fun e => e.1 != "type" := by
  induction es generalizing others with
  | nil => simp [taggedEntries]
  | cons e es ih =>
    obtain ⟨name, j⟩ := e
    rw [taggedEntries, List.map_cons, List.forall_mem_cons]
    by_cases hname : name = "type"
    · subst hname
      have hothers : "type" ∉ es.map Prod.fst → es.filter (fun e => e.1 != "type") = es := by
        intro htype
        refine List.filter_eq_self.mpr fun e he => bne_iff_ne.mpr ?_
        exact fun h => htype (List.mem_map.mpr ⟨e, he, h⟩)
      simp only [if_true, Option.isSome_none, Bool.false_eq_true, if_false, except_bind_eq_ok,
        tag_eq_ok, taggedEntries_found_eq_ok, List.count_cons_self, Nat.add_eq_right,
        List.count_eq_zero, Option.some.injEq]
      constructor
      · rintro ⟨_, ⟨tag, rfl, hknown⟩, rfl, hrest, htype, hwhole⟩
        refine ⟨⟨tag, hknown, List.mem_cons_self⟩, htype, ⟨rfl, hwhole⟩, ?_⟩
        rw [List.filter_cons_of_neg (by simp), hothers htype, hrest]
      · rintro ⟨⟨tag, hknown, hmem⟩, htype, ⟨-, hwhole⟩, hrest⟩
        rw [List.filter_cons_of_neg (by simp), hothers htype] at hrest
        rcases List.mem_cons.mp hmem with heq | hmem
        · obtain rfl : .text tag = j := (Prod.mk.inj heq).2
          exact ⟨a, ⟨tag, rfl, hknown⟩, rfl, hrest, htype, hwhole⟩
        · exact absurd (List.mem_map.mpr ⟨_, hmem, rfl⟩) htype
    · have hfilter : ((name, j) :: es).filter (fun e => e.1 != "type") =
          (name, j) :: es.filter fun e => e.1 != "type" :=
        List.filter_cons_of_pos (bne_iff_ne.mpr hname)
      simp only [hname, if_false, except_bind_eq_ok, whole_eq_ok, ih, List.reverse_cons,
        List.append_assoc, List.singleton_append, hfilter, List.count_cons_of_ne hname]
      constructor
      · rintro ⟨_, ⟨rfl, hj⟩, ⟨tag, hknown, hmem⟩, honce, hwhole, hrest⟩
        exact ⟨⟨tag, hknown, List.mem_cons_of_mem _ hmem⟩, honce, ⟨hj, hwhole⟩, hrest⟩
      · rintro ⟨⟨tag, hknown, hmem⟩, honce, ⟨hj, hwhole⟩, hrest⟩
        refine ⟨j, ⟨rfl, hj⟩, ⟨tag, hknown, ?_⟩, honce, hwhole, hrest⟩
        rcases List.mem_cons.mp hmem with heq | hmem
        · exact absurd (Prod.mk.inj heq).1.symm hname
        · exact hmem

theorem tagged_eq_ok {record : String} {known : List (String × α)} {a : α} {c : Contents} :
    tagged record known j = .ok (a, c) ↔ ∃ tag, known.lookup tag = some a ∧ Tagged j tag c := by
  cases j with
  | object es fault =>
    simp only [tagged, except_bind_eq_ok, except_pure_eq_ok, required_eq_ok, Prod.exists]
    constructor
    · rintro ⟨_, others, hentries, ⟨⟩, hfault, _, rfl, heq⟩
      obtain ⟨rfl, rfl⟩ := Prod.mk.inj heq
      obtain ⟨⟨tag, hknown, htag⟩, honce, hwhole, rfl⟩ := taggedEntries_eq_ok.mp hentries
      obtain rfl := intact_eq_ok.mp hfault
      exact ⟨tag, hknown, .named htag honce hwhole⟩
    · rintro ⟨tag, hknown, htagged⟩
      cases htagged with
      | named htag honce hwhole =>
        refine ⟨_, _, taggedEntries_eq_ok.mpr ⟨⟨tag, hknown, htag⟩, honce, hwhole, rfl⟩,
          (), rfl, a, rfl, ?_⟩
        rw [List.reverse_nil, List.nil_append]
  | array items fault =>
    cases items with
    | nil =>
      simp only [tagged, except_bind_eq_ok, except_throw_ne_ok, and_false, exists_false, false_iff]
      rintro ⟨_, -, ⟨⟩⟩
    | cons first items =>
      simp only [tagged, except_bind_eq_ok, except_pure_eq_ok, tag_eq_ok, mapM_whole_eq_ok]
      constructor
      · rintro ⟨_, ⟨tag, rfl, hknown⟩, _, ⟨rfl, hwhole⟩, ⟨⟩, hfault, heq⟩
        obtain ⟨rfl, rfl⟩ := Prod.mk.inj heq
        obtain rfl := intact_eq_ok.mp hfault
        exact ⟨tag, hknown, .listed hwhole⟩
      · rintro ⟨tag, hknown, htagged⟩
        cases htagged with
        | listed hwhole => exact ⟨a, ⟨tag, rfl, hknown⟩, items, ⟨rfl, hwhole⟩, (), rfl, rfl⟩
  | _ =>
    simp only [tagged, mismatch, reduceCtorEq, false_iff]
    rintro ⟨_, -, ⟨⟩⟩

theorem tagged_bind_eq_ok {record first second : String} (hne : first ≠ second) {β : Type}
    {read : Bool × Contents → Except DecodeFault β} {b : β} :
    (do read (← tagged record [(first, true), (second, false)] j)) = .ok b ↔
      (∃ c, Tagged j first c ∧ read (true, c) = .ok b) ∨
        ∃ c, Tagged j second c ∧ read (false, c) = .ok b := by
  have hnames : ([(first, true), (second, false)].map Prod.fst).Nodup := by simpa using hne
  simp only [except_bind_eq_ok, Prod.exists, Bool.exists_bool, tagged_eq_ok,
    lookup_eq_some_iff_mem hnames, List.mem_pair, Prod.mk.injEq, reduceCtorEq, and_false, and_true,
    or_false, false_or, exists_eq_left]
  exact or_comm

end Tags

end TlsSetup.Settings
