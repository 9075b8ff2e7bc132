import TlsSetup.Proofs.Documents
import TlsSetup.Proofs.SettingsForms

/-!
# The order of fields

Which settings a document stands for is told by names. So it does not depend on the order of fields in
any of its objects.
-/

namespace TlsSetup.Settings

open Json Reader

variable {α : Type} {P : Json → α → Prop} {j j' : Json} {es es' : List (String × Json)}

/-- What a document stands for does not depend on the order of its fields. -/
def OrderFree (P : Json → α → Prop) : Prop := ∀ ⦃j j'⦄, j.Reordered j' → ∀ a, P j a ↔ P j' a

private theorem orderFree_isText : OrderFree IsText := by
  intro j j' h s
  cases h <;> simp [IsText]

private theorem orderFree_isBool : OrderFree fun j (b : Bool) => j = .bool b := by
  intro j j' h b
  cases h <;> simp

theorem OrderFree.nullable (hP : OrderFree P) : OrderFree (Nullable P) := by
  intro j j' h o
  cases o with
  | none => cases h <;> simp [Nullable]
  | some a => exact hP h a

theorem OrderFree.forall₂ (hP : OrderFree P) {items items' : List Json}
    (h : List.Forall₂ Reordered items items') (values : List α) :
    List.Forall₂ P items values ↔ List.Forall₂ P items' values := by
  induction h generalizing values with
  | nil => rfl
  | cons hj _ ih => cases values <;> simp [hP hj, ih]

theorem OrderFree.listed (hP : OrderFree P) : OrderFree (Listed P) := by
  intro j j' h values
  cases h with
  | same => rfl
  | object => simp [Listed]
  | array h => simp [Listed, hP.forall₂ h]

private theorem orderFree_chosen {streamed : Bool} {known : List (String × α)} :
    OrderFree (Chosen streamed known) := by
  intro j j' h a
  cases h with
  | same => rfl
  | array => simp [Chosen]
  | @object es es₁ es' fault h hperm =>
    have halone : ∀ name, es = [(name, .null)] ↔ es' = [(name, .null)] := by
      intro name
      constructor
      · rintro rfl
        obtain _ | ⟨⟨⟨⟩⟩, ⟨⟩⟩ := h
        exact (List.singleton_perm.mp hperm).symm
      · rintro rfl
        obtain rfl := List.perm_singleton.mp hperm
        obtain _ | ⟨⟨⟨⟩⟩, ⟨⟩⟩ := h
        rfl
    simp [Chosen, halone]

theorem OrderFree.given (hP : OrderFree P) {default a : α} {o o' : Option Json}
    (h : Option.Rel Reordered o o') : Given P default o a ↔ Given P default o' a := by
  cases h with
  | none => rfl
  | some hj => rw [given_some, given_some, hP hj]

theorem OrderFree.exists_some (hP : OrderFree P) {a : α} {o o' : Option Json}
    (h : Option.Rel Reordered o o') : (∃ j, o = some j ∧ P j a) ↔ ∃ j, o' = some j ∧ P j a := by
  cases h with
  | none => rfl
  | some hj => simp [hP hj]

private theorem eq_some_text_iff {o o' : Option Json} (h : Option.Rel Reordered o o') {s : String} :
    o = some (.text s) ↔ o' = some (.text s) := by
  rw [← exists_isText, ← exists_isText, orderFree_isText.exists_some h]

private theorem declared_and_congr {known : List String} {Q Q' : Prop} (h : Rearranged es es')
    (hQ : (∀ name, Option.Rel Reordered (es.lookup name) (es'.lookup name)) → (Q ↔ Q')) :
    Declared known es ∧ Q ↔ Declared known es' ∧ Q' := by
  have hdeclared : Declared known es ↔ Declared known es' := by
    have hknown : ∀ es : List (String × Json),
        (∀ e ∈ es, e.1 ∈ known) ↔ ∀ name ∈ es.map Prod.fst, name ∈ known := fun es => by simp
    rw [declared_iff, declared_iff, hknown, hknown, h.names.nodup_iff]
    exact and_congr_left fun _ => forall_congr' fun name => by rw [h.names.mem_iff]
  constructor
  · rintro ⟨hes, hq⟩
    exact ⟨hdeclared.mp hes, (hQ (h.lookup hes.once)).mp hq⟩
  · rintro ⟨hes', hq⟩
    have hes := hdeclared.mpr hes'
    exact ⟨hes, (hQ (h.lookup hes.once)).mpr hq⟩

private theorem exists_gives_congr {names : List String} {Q : List (String × Json) → Prop}
    (hQ : ∀ ⦃es es'⦄, Rearranged es es' → (Q es ↔ Q es')) (h : j.Reordered j') :
    (∃ es, Gives names j es ∧ Q es) ↔ ∃ es, Gives names j' es ∧ Q es := by
  cases h with
  | same => rfl
  | @object es es₁ es' fault h hperm =>
    rw [exists_gives_object, exists_gives_object]
    exact hQ ⟨es₁, h, hperm⟩
  | @array items items' fault h =>
    rw [exists_gives_array, exists_gives_array, h.length_eq, hQ (Rearranged.zip h)]

theorem PairFields.congr (h : Rearranged es es') {p : PairSettings} :
    PairFields es p ↔ PairFields es' p := by
  rw [pairFields_iff, pairFields_iff]
  refine declared_and_congr h fun hlookup => ?_
  rw [eq_some_text_iff (hlookup _), eq_some_text_iff (hlookup _)]

private theorem orderFree_pairShown : OrderFree PairShown := fun _ _ h _ =>
  exists_gives_congr (fun _ _ h => PairFields.congr h) h

theorem PemFields.congr (h : Rearranged es es') {keyPath certPath : String}
    {sni : List PairSettings} :
    PemFields es keyPath certPath sni ↔ PemFields es' keyPath certPath sni := by
  rw [pemFields_iff, pemFields_iff]
  refine declared_and_congr h fun hlookup => ?_
  rw [eq_some_text_iff (hlookup _), eq_some_text_iff (hlookup _),
    orderFree_pairShown.listed.given (hlookup _)]

theorem ArchiveFields.congr (h : Rearranged es es') {path password : String} :
    ArchiveFields es path password ↔ ArchiveFields es' path password := by
  rw [archiveFields_iff, archiveFields_iff]
  refine declared_and_congr h fun hlookup => ?_
  rw [eq_some_text_iff (hlookup _), orderFree_isText.given (hlookup _)]

theorem AnchorFields.congr (h : Rearranged es es') {caPaths : List String} :
    AnchorFields es caPaths ↔ AnchorFields es' caPaths := by
  rw [anchorFields_iff, anchorFields_iff]
  refine declared_and_congr h fun hlookup => ?_
  exact orderFree_isText.listed.exists_some (hlookup _)

private theorem exists_tagged_congr {tag : String} {Q : Contents → Prop}
    (hQ : ∀ ⦃c c'⦄, c.document.Reordered c'.document → (Q c ↔ Q c')) (h : j.Reordered j') :
    (∃ c, Tagged j tag c ∧ Q c) ↔ ∃ c, Tagged j' tag c ∧ Q c := by
  cases h with
  | same => rfl
  | @object es es₁ es' fault h hperm =>
    have hes : Rearranged es es' := ⟨es₁, h, hperm⟩
    obtain ⟨es₂, hothers, hperm₂⟩ := hes.filter (· != "type")
    have hcontents : Q (.fields (es.filter fun e => e.1 != "type")) ↔
        Q (.fields (es'.filter fun e => e.1 != "type")) := hQ (.object hothers hperm₂)
    have hcount : (es.map Prod.fst).count "type" = (es'.map Prod.fst).count "type" :=
      hes.names.count_eq "type"
    constructor
    · rintro ⟨_, htagged, hq⟩
      cases htagged with
      | named htag honce hwhole =>
        exact ⟨_, .named (hes.mem_text.mp htag) (hcount ▸ honce) (hes.forall_fault.mp hwhole),
          hcontents.mp hq⟩
    · rintro ⟨_, htagged, hq⟩
      cases htagged with
      | named htag honce hwhole =>
        exact ⟨_, .named (hes.mem_text.mpr htag) (hcount ▸ honce) (hes.forall_fault.mpr hwhole),
          hcontents.mpr hq⟩
  | @array items items' fault h =>
    cases h with
    | nil =>
      constructor
      · rintro ⟨_, ⟨⟩, -⟩
      · rintro ⟨_, ⟨⟩, -⟩
    | @cons first first' items items' hfirst hitems =>
      have hcontents : Q (.items items) ↔ Q (.items items') := hQ (.array hitems)
      have hwhole := forall_fault_congr hitems
      constructor
      · rintro ⟨_, htagged, hq⟩
        cases htagged with
        | listed h =>
          cases hfirst
          exact ⟨_, .listed (hwhole.mp h), hcontents.mp hq⟩
      · rintro ⟨_, htagged, hq⟩
        cases htagged with
        | listed h =>
          cases hfirst
          exact ⟨_, .listed (hwhole.mpr h), hcontents.mpr hq⟩

private theorem taggedRecord_congr {tag : String} {names : List String}
    {Q : List (String × Json) → Prop}
    (hQ : ∀ ⦃es es'⦄, Rearranged es es' → (Q es ↔ Q es')) (h : j.Reordered j') :
    TaggedRecord tag names Q j ↔ TaggedRecord tag names Q j' :=
  exists_tagged_congr (fun _ _ h => exists_gives_congr hQ h) h

private theorem orderFree_keyShown : OrderFree KeyShown := by
  intro j j' h k
  cases k with
  | pem keyPath certPath sni => exact taggedRecord_congr (fun _ _ h => PemFields.congr h) h
  | pkcs12 path password => exact taggedRecord_congr (fun _ _ h => ArchiveFields.congr h) h

private theorem orderFree_trustShown : OrderFree TrustShown := by
  intro j j' h t
  cases t with
  | pem caPaths => exact taggedRecord_congr (fun _ _ h => AnchorFields.congr h) h
  | system =>
    refine exists_tagged_congr (fun c c' h => ?_) h
    cases c <;> cases c' <;> cases h
    case system.fields.fields.same => simp
    case system.fields.fields.object => simp
    case system.items.items.same => simp
    case system.items.items.array hitems =>
      have hlength := hitems.length_eq
      simp [← List.length_eq_zero_iff, hlength]

theorem Fields.congr (h : Rearranged es es') {streamed : Bool} {s : Settings} :
    Fields streamed es s ↔ Fields streamed es' s := by
  rw [fields_iff, fields_iff]
  refine declared_and_congr h fun hlookup => ?_
  rw [orderFree_chosen.given (hlookup _), orderFree_isBool.given (hlookup _),
    orderFree_isText.nullable.given (hlookup _), orderFree_keyShown.nullable.given (hlookup _),
    orderFree_trustShown.nullable.given (hlookup _), orderFree_isText.listed.given (hlookup _),
    orderFree_isText.listed.given (hlookup _), orderFree_isText.listed.given (hlookup _),
    orderFree_isText.listed.given (hlookup _), orderFree_chosen.given (hlookup _)]

/-- Documents that differ in the order of fields stand for the same settings. -/
theorem orderFree_shown (streamed : Bool) : OrderFree (Shown streamed) := by
  intro j j' h s
  rw [Shown, Shown, h.fault_eq, exists_gives_congr (fun _ _ h => Fields.congr h) h]

end TlsSetup.Settings
