import TlsSetup.Proofs.FieldOrder

/-!
# Fields that are not declared

A document with a field that is not declared is not read as settings, at whatever level the field
stands, and nothing that is declared is lost. There is one exception: beside the tag of the platform's
authorities all fields are passed over.
-/

namespace TlsSetup.Settings

open Json Reader

variable {j : Json}

/-- The ways to read a document, each with what it comes to: as a value, whose objects have no two fields
of one name, or from a text. -/
inductive ReadFrom (j : Json) : Bool → Except DecodeFault Settings → Prop
  | value (h : j.Distinct) : ReadFrom j false (ofJson j)
  | text {t : String} (h : Json.read t = (j, none)) : ReadFrom j true (ofText t)

theorem ReadFrom.eq_ok {streamed : Bool} {result : Except DecodeFault Settings}
    (h : ReadFrom j streamed result) {s : Settings} : result = .ok s ↔ Shown streamed j s := by
  cases h with
  | value hdistinct =>
    rw [ofJson, settings_eq_ok]
    exact (orderFree_shown false (reordered_sorted _ hdistinct) s).symm
  | text hread =>
    rw [ofText, hread, ← settings_eq_ok]
    simp only [except_bind_eq_ok, except_pure_eq_ok]
    constructor
    · rintro ⟨_, hs, -, -, rfl⟩
      exact hs
    · intro hs
      exact ⟨s, hs, (), rfl, rfl⟩

/-- A document gives a record a field that is not declared. -/
def Strays (names : List String) (j : Json) : Prop :=
  ∃ es, Gives names j es ∧ ∃ e ∈ es, e.1 ∉ names

/-- Somewhere in the document there is a field that is not declared: at the top, in the key, in a pair
of the key, or beside the paths of the authorities. -/
inductive Undeclared (j : Json) : Prop
  | settings (h : Strays fieldNames j)
  | pem {es : List (String × Json)} {k : Json} {c : Contents} (hgives : Gives fieldNames j es)
      (hkey : ("key", k) ∈ es) (htag : Tagged k "pem" c) (h : Strays pemNames c.document)
  | pkcs12 {es : List (String × Json)} {k : Json} {c : Contents} (hgives : Gives fieldNames j es)
      (hkey : ("key", k) ∈ es) (htag : Tagged k "pkcs12" c) (h : Strays archiveNames c.document)
  | pair {es ks : List (String × Json)} {k p : Json} {c : Contents} {items : List Json}
      {fault : Option Json.Fault} (hgives : Gives fieldNames j es) (hkey : ("key", k) ∈ es)
      (htag : Tagged k "pem" c) (hpairs : Gives pemNames c.document ks)
      (hsni : ("sni", .array items fault) ∈ ks) (hp : p ∈ items) (h : Strays pairNames p)
  | anchors {es : List (String × Json)} {t : Json} {c : Contents} (hgives : Gives fieldNames j es)
      (htrust : ("trust", t) ∈ es) (htag : Tagged t "pem" c) (h : Strays anchorNames c.document)

theorem Gives.unique {names : List String} {es es' : List (String × Json)} (h : Gives names j es)
    (h' : Gives names j es') : es = es' := by
  cases h <;> cases h' <;> rfl

theorem Tagged.unique {tag tag' : String} {c c' : Contents} (h : Tagged j tag c)
    (h' : Tagged j tag' c') : tag = tag' ∧ c = c' := by
  -- a reader that knows both tags can only come to one of them
  have hread : tagged "" [(tag, tag), (tag', tag')] j = .ok (tag, c) :=
    tagged_eq_ok.mpr ⟨tag, List.lookup_cons_self, h⟩
  have hread' : tagged "" [(tag, tag), (tag', tag')] j = .ok (tag', c') := by
    refine tagged_eq_ok.mpr ⟨tag', ?_, h'⟩
    rw [List.lookup_cons]
    split
    case h_1 heq => rw [beq_iff_eq.mp heq]
    case h_2 => exact List.lookup_cons_self
  exact Prod.mk.inj (Except.ok.inj (hread.symm.trans hread'))

private theorem not_strays_of_declared {names : List String} {es : List (String × Json)}
    (hgives : Gives names j es) (h : Declared names es) : ¬ Strays names j := by
  rintro ⟨_, hgives', e, he, hname⟩
  obtain rfl := hgives.unique hgives'
  exact hname (h.known e he)

theorem TaggedRecord.not_strays {tag : String} {names : List String}
    {P : List (String × Json) → Prop} {c : Contents} (h : TaggedRecord tag names P j)
    (hdeclared : ∀ es, P es → Declared names es) (htag : Tagged j tag c) :
    ¬ Strays names c.document := by
  obtain ⟨c', htag', es, hgives, hes⟩ := h
  obtain ⟨-, rfl⟩ := htag.unique htag'
  exact not_strays_of_declared hgives (hdeclared es hes)

theorem TaggedRecord.tag_eq {tag tag' : String} {names : List String}
    {P : List (String × Json) → Prop} {c : Contents} (h : TaggedRecord tag names P j)
    (htag : Tagged j tag' c) : tag = tag' := by
  obtain ⟨c', htag', -⟩ := h
  exact (htag'.unique htag).1

theorem Tagged.exists_of_given {α : Type} {P : Json → α → Prop} {es : List (String × Json)}
    {name tag : String} {c : Contents} {o : Option α} (htag : Tagged j tag c)
    (hgiven : Given (Nullable P) none (es.lookup name) o) (honce : (es.map Prod.fst).Nodup)
    (hmem : (name, j) ∈ es) : ∃ a, P j a := by
  rw [(lookup_eq_some_iff_mem honce).mpr hmem, given_some] at hgiven
  cases o with
  | none =>
    obtain rfl : j = .null := hgiven
    cases htag
  | some a => exact ⟨a, hgiven⟩

private theorem not_shown_of_undeclared (h : Undeclared j) (streamed : Bool) (s : Settings) :
    ¬ Shown streamed j s := by
  rintro ⟨-, es, hgives, hfields⟩
  cases h with
  | settings h => exact not_strays_of_declared hgives hfields.declared h
  | pem hgives' hkey htag h =>
    obtain rfl := hgives.unique hgives'
    obtain ⟨key, hshown⟩ := htag.exists_of_given hfields.key hfields.declared.once hkey
    cases key with
    | pem keyPath certPath sni => exact hshown.not_strays (fun _ => PemFields.declared) htag h
    | pkcs12 path password => exact absurd (hshown.tag_eq htag) (by decide)
  | pkcs12 hgives' hkey htag h =>
    obtain rfl := hgives.unique hgives'
    obtain ⟨key, hshown⟩ := htag.exists_of_given hfields.key hfields.declared.once hkey
    cases key with
    | pem keyPath certPath sni => exact absurd (hshown.tag_eq htag) (by decide)
    | pkcs12 path password => exact hshown.not_strays (fun _ => ArchiveFields.declared) htag h
  | pair hgives' hkey htag hpairs hsni hp h =>
    obtain rfl := hgives.unique hgives'
    obtain ⟨key, hshown⟩ := htag.exists_of_given hfields.key hfields.declared.once hkey
    cases key with
    | pem keyPath certPath sni =>
      obtain ⟨c', htag', ks, hpairs', hpem⟩ := hshown
      obtain ⟨-, rfl⟩ := htag.unique htag'
      obtain rfl := hpairs.unique hpairs'
      have hgiven := hpem.sni
      rw [(lookup_eq_some_iff_mem hpem.declared.once).mpr hsni, given_some] at hgiven
      obtain ⟨_, heq, hitems⟩ := hgiven
      obtain ⟨rfl, rfl⟩ := Json.array.inj heq
      obtain ⟨i, hi, rfl⟩ := List.getElem_of_mem hp
      obtain ⟨ps, hps, hpair⟩ := hitems.get hi (hitems.length_eq ▸ hi)
      exact not_strays_of_declared hps hpair.declared h
    | pkcs12 path password => exact absurd (hshown.tag_eq htag) (by decide)
  | anchors hgives' htrust htag h =>
    obtain rfl := hgives.unique hgives'
    obtain ⟨trust, hshown⟩ := htag.exists_of_given hfields.trust hfields.declared.once htrust
    cases trust with
    | pem caPaths => exact hshown.not_strays (fun _ => AnchorFields.declared) htag h
    | system =>
      obtain ⟨c', htag', -⟩ := hshown
      exact absurd (htag.unique htag').1 (by decide)

/-- A document is read as settings exactly if it stands for them: every field that is there is taken
over, and every field that is not there has its default. With a field that is not declared it stands for
no settings, and with its fields in another order for the same. -/
theorem fields_decide_settings (streamed : Bool) (result : Except DecodeFault Settings)
    (h : ReadFrom j streamed result) :
    (∀ s, result = .ok s ↔ Shown streamed j s) ∧ (Undeclared j → ∀ s, result ≠ .ok s) ∧
      ∀ j' result', j.Reordered j' → ReadFrom j' streamed result' →
        ∀ s, result = .ok s ↔ result' = .ok s := by
  refine ⟨fun s => h.eq_ok, fun hstray s hs => ?_, fun j' result' horder h' s => ?_⟩
  · exact not_shown_of_undeclared hstray streamed s (h.eq_ok.mp hs)
  · rw [h.eq_ok, h'.eq_ok, orderFree_shown streamed horder]

theorem fields_decide_settings_nested :
    let pair := Json.object [("key_path", .text "b.key"), ("cert_path", .text "b.pem"),
      ("name", .text "b")] none
    let straying := Json.object [("key", .object [("type", .text "pem"), ("key_path", .text "a.key"),
      ("cert_path", .text "a.pem"), ("sni", .array [pair] none)] none)] none
    let archive := Json.object [("type", .text "pkcs12"), ("path", .text "a.p12")] none
    let again := Json.object [("path", .text "a.p12"), ("type", .text "pkcs12")] none
    (∀ s, ofJson straying ≠ .ok s) ∧
      ∀ s, ofJson (.object [("root", .text "/srv"), ("key", archive)] none) = .ok s ↔
        ofJson (.object [("key", again), ("root", .text "/srv")] none) = .ok s := by
  intro pair straying archive again
  have hpair : pair.Distinct := .object (by decide) (by simp [Distinct.text])
  have hstraying : straying.Distinct := by
    refine .object (by decide) (List.forall_mem_singleton.mpr (.object (by decide) ?_))
    simp [Distinct.text, Distinct.array, hpair]
  have harchive : archive.Distinct := .object (by decide) (by simp [Distinct.text])
  have hagain : again.Distinct := .object (by decide) (by simp [Distinct.text])
  have hstray : Undeclared straying := by
    have hsni : ("sni", Json.array [pair] none) ∈ [("key_path", Json.text "a.key"),
        ("cert_path", Json.text "a.pem"), ("sni", Json.array [pair] none)] := by simp
    have hname : Strays pairNames pair := ⟨_, .named, ("name", .text "b"), by simp, by decide⟩
    exact .pair .named List.mem_cons_self (.named List.mem_cons_self rfl (by simp [fault?])) .named
      hsni List.mem_cons_self hname
  have horder : archive.Reordered again := by
    refine .object (List.forall₂_same.mpr fun e _ => ⟨.same e.2⟩) ?_
    exact .swap ..
  refine ⟨(fields_decide_settings false _ (.value hstraying)).2.1 hstray, ?_⟩
  refine (fields_decide_settings false _ (.value ?_)).2.2 _ _ ?_ (.value ?_)
  · exact .object (by decide) (by simp [Distinct.text, harchive])
  · exact .object (.cons ⟨.same _⟩ (.cons ⟨horder⟩ .nil)) (.swap ..)
  · exact .object (by decide) (by simp [Distinct.text, hagain])

/-- Fields beside the tag `system` are passed over, although none is declared there. -/
theorem system_trust_overlooks_fields :
    let contents := Contents.fields [("ca_paths", .array [.text "ca.pem"] none)]
    let trust := Json.object [("type", .text "system"),
      ("ca_paths", .array [.text "ca.pem"] none)] none
    Tagged trust "system" contents ∧ Strays [] contents.document ∧
      ofJson (.object [("trust", trust)] none) = .ok { trust := some .system } := by
  refine ⟨.named (by simp) rfl (by simp [fault?]), ⟨_, .named, _, List.mem_cons_self, nofun⟩, ?_⟩
  rfl

end TlsSetup.Settings
