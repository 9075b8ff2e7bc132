import TlsSetup.Proofs.Forms

/-!
# Documents of settings

The documents that stand for a pair, a key, authorities and whole settings: which names they may give,
and what the value of each must be. Settings can be read from these documents and from no others.
-/

namespace TlsSetup.Settings

open Reader

variable {j : Json}

section Pairs

def pairNames : List String := ["key_path", "cert_path"]

@[mk_iff]
structure PairFields (es : List (String × Json)) (p : PairSettings) : Prop where
  declared : Declared pairNames es
  keyPath : es.lookup "key_path" = some (.text p.keyPath)
  certPath : es.lookup "cert_path" = some (.text p.certPath)

def PairShown (j : Json) (p : PairSettings) : Prop := ∃ es, Gives pairNames j es ∧ PairFields es p

def pairSlots : List (Slot PairState) :=
  [⟨"key_path", fun j => some <$> path j, PairState.keyPath, fun s p => { s with keyPath := p }⟩,
    ⟨"cert_path", fun j => some <$> path j, PairState.certPath, fun s p => { s with certPath := p }⟩]

private theorem collects_pairSlots : Collects
    (fun (s : PairState) name j =>
      if name = "key_path" then do return { s with keyPath := some (← path j) }
      else do return { s with certPath := some (← path j) }) pairSlots := by
  constructor
  case ext =>
    rintro ⟨⟩ ⟨⟩ h
    simpa [pairSlots] using h
  all_goals simp [pairSlots]

private theorem filled_pairSlots {es : List (String × Json)} {keyPath certPath : String} :
    (∀ f ∈ pairSlots, f.Filled {} es ⟨some keyPath, some certPath⟩) ↔
      es.lookup "key_path" = some (.text keyPath) ∧ es.lookup "cert_path" = some (.text certPath) := by
  simp [pairSlots, Slot.Filled, given_map_some, path_eq_ok, exists_isText]

private theorem pairOfFields_eq_ok {es : List (String × Json)} {p : PairSettings} :
    pairOfFields es = .ok p ↔ PairFields es p := by
  simp only [pairOfFields, except_bind_eq_ok, required_eq_ok, except_pure_eq_ok]
  constructor
  · rintro ⟨⟨_, _⟩, hs, keyPath, rfl, certPath, rfl, rfl⟩
    obtain ⟨hdeclared, hfilled⟩ := collects_pairSlots.record_eq_ok.mp hs
    obtain ⟨hkey, hcert⟩ := filled_pairSlots.mp hfilled
    exact ⟨hdeclared, hkey, hcert⟩
  · rintro ⟨hdeclared, hkey, hcert⟩
    refine ⟨⟨some p.keyPath, some p.certPath⟩, ?_, p.keyPath, rfl, p.certPath, rfl, rfl⟩
    exact collects_pairSlots.record_eq_ok.mpr ⟨hdeclared, filled_pairSlots.mpr ⟨hkey, hcert⟩⟩

private theorem pair_eq_ok {p : PairSettings} : pair j = .ok p ↔ PairShown j p := by
  cases j with
  | object es fault =>
    rw [pair, pairOfFields_eq_ok]
    exact (exists_gives_object (P := (PairFields · p))).symm
  | array items fault =>
    have hnames : pairNames.Nodup := by decide
    refine Iff.trans ?_ (exists_gives_array (P := (PairFields · p))).symm
    simp only [pair, except_bind_eq_ok, itemAt_eq_ok hnames (i := 0) rfl,
      itemAt_eq_ok hnames (i := 1) rfl, path_eq_ok, exists_isText, except_pure_eq_ok]
    constructor
    · rintro ⟨keyPath, hkey, certPath, hcert, ⟨⟩, hlength, rfl⟩
      exact ⟨exactly_eq_ok.mp hlength, declared_zip hnames items, hkey, hcert⟩
    · rintro ⟨hlength, h⟩
      exact ⟨p.keyPath, h.keyPath, p.certPath, h.certPath, (), exactly_eq_ok.mpr hlength, rfl⟩
  | _ =>
    simp only [pair, mismatch, reduceCtorEq, false_iff]
    rintro ⟨_, ⟨⟩, -⟩

end Pairs

section Keys

def pemNames : List String := ["key_path", "cert_path", "sni"]

@[mk_iff]
structure PemFields (es : List (String × Json)) (keyPath certPath : String)
    (sni : List PairSettings) : Prop where
  declared : Declared pemNames es
  keyPath : es.lookup "key_path" = some (.text keyPath)
  certPath : es.lookup "cert_path" = some (.text certPath)
  sni : Given (Listed PairShown) [] (es.lookup "sni") sni

def archiveNames : List String := ["path", "password"]

@[mk_iff]
structure ArchiveFields (es : List (String × Json)) (path password : String) : Prop where
  declared : Declared archiveNames es
  path : es.lookup "path" = some (.text path)
  password : Given IsText "" (es.lookup "password") password

def KeyShown (j : Json) : KeySettings → Prop
  | .pem keyPath certPath sni => TaggedRecord "pem" pemNames (PemFields · keyPath certPath sni) j
  | .pkcs12 path password => TaggedRecord "pkcs12" archiveNames (ArchiveFields · path password) j

def pemSlots : List (Slot PemState) :=
  [⟨"key_path", fun j => some <$> path j, fun s => s.keyPath, fun s p => { s with keyPath := p }⟩,
    ⟨"cert_path", fun j => some <$> path j, fun s => s.certPath, fun s p => { s with certPath := p }⟩,
    ⟨"sni", list pair, fun s => s.sni, fun s pairs => { s with sni := pairs }⟩]

private theorem collects_pemSlots : Collects
    (fun (s : PemState) name j =>
      if name = "key_path" then do return { s with keyPath := some (← path j) }
      else if name = "cert_path" then do return { s with certPath := some (← path j) }
      else do return { s with sni := ← list pair j }) pemSlots := by
  constructor
  case ext =>
    rintro ⟨⟨⟩, _⟩ ⟨⟨⟩, _⟩ h
    simpa [pemSlots, and_assoc] using h
  all_goals simp [pemSlots]

private theorem filled_pemSlots {es : List (String × Json)} {keyPath certPath : String}
    {sni : List PairSettings} :
    (∀ f ∈ pemSlots, f.Filled {} es ⟨⟨some keyPath, some certPath⟩, sni⟩) ↔
      es.lookup "key_path" = some (.text keyPath) ∧ es.lookup "cert_path" = some (.text certPath) ∧
        Given (Listed PairShown) [] (es.lookup "sni") sni := by
  simp [pemSlots, Slot.Filled, given_map_some, path_eq_ok, exists_isText, list_eq_ok, pair_eq_ok]

private theorem pemOfFields_eq_ok {es : List (String × Json)} {k : KeySettings} :
    pemOfFields es = .ok k ↔
      ∃ keyPath certPath sni, k = .pem keyPath certPath sni ∧ PemFields es keyPath certPath sni := by
  simp only [pemOfFields, except_bind_eq_ok, required_eq_ok, except_pure_eq_ok]
  constructor
  · rintro ⟨⟨⟨_, _⟩, sni⟩, hs, keyPath, rfl, certPath, rfl, rfl⟩
    obtain ⟨hdeclared, hfilled⟩ := collects_pemSlots.record_eq_ok.mp hs
    obtain ⟨hkey, hcert, hsni⟩ := filled_pemSlots.mp hfilled
    exact ⟨keyPath, certPath, sni, rfl, hdeclared, hkey, hcert, hsni⟩
  · rintro ⟨keyPath, certPath, sni, rfl, hdeclared, hkey, hcert, hsni⟩
    refine ⟨⟨⟨some keyPath, some certPath⟩, sni⟩, ?_, keyPath, rfl, certPath, rfl, rfl⟩
    exact collects_pemSlots.record_eq_ok.mpr ⟨hdeclared, filled_pemSlots.mpr ⟨hkey, hcert, hsni⟩⟩

private theorem pemOfItems_eq_ok {items : List Json} {k : KeySettings} :
    pemOfItems items = .ok k ↔ items.length ≤ pemNames.length ∧
      ∃ keyPath certPath sni, k = .pem keyPath certPath sni ∧
        PemFields (pemNames.zip items) keyPath certPath sni := by
  have hnames : pemNames.Nodup := by decide
  simp only [pemOfItems, except_bind_eq_ok, itemAt_eq_ok hnames (i := 0) rfl,
    itemAt_eq_ok hnames (i := 1) rfl, itemOr_eq_ok hnames (i := 2) rfl, path_eq_ok, exists_isText,
    list_eq_ok, pair_eq_ok, except_pure_eq_ok]
  constructor
  · rintro ⟨keyPath, hkey, certPath, hcert, sni, hsni, ⟨⟩, hlength, rfl⟩
    have hfields : PemFields (pemNames.zip items) keyPath certPath sni :=
      ⟨declared_zip hnames items, hkey, hcert, hsni⟩
    exact ⟨exactly_eq_ok.mp hlength, keyPath, certPath, sni, rfl, hfields⟩
  · rintro ⟨hlength, keyPath, certPath, sni, rfl, h⟩
    exact ⟨keyPath, h.keyPath, certPath, h.certPath, sni, h.sni, (), exactly_eq_ok.mpr hlength, rfl⟩

def archiveSlots : List (Slot ArchiveState) :=
  [⟨"path", fun j => some <$> path j, ArchiveState.path, fun s p => { s with path := p }⟩,
    ⟨"password", text, ArchiveState.password, fun s p => { s with password := p }⟩]

private theorem collects_archiveSlots : Collects
    (fun (s : ArchiveState) name j =>
      if name = "path" then do return { s with path := some (← path j) }
      else do return { s with password := ← text j }) archiveSlots := by
  constructor
  case ext =>
    rintro ⟨⟩ ⟨⟩ h
    simpa [archiveSlots] using h
  all_goals simp [archiveSlots]

private theorem filled_archiveSlots {es : List (String × Json)} {path password : String} :
    (∀ f ∈ archiveSlots, f.Filled {} es ⟨some path, password⟩) ↔
      es.lookup "path" = some (.text path) ∧ Given IsText "" (es.lookup "password") password := by
  simp [archiveSlots, Slot.Filled, given_map_some, path_eq_ok, text_eq_ok, exists_isText]

private theorem archiveOfFields_eq_ok {es : List (String × Json)} {k : KeySettings} :
    archiveOfFields es = .ok k ↔
      ∃ path password, k = .pkcs12 path password ∧ ArchiveFields es path password := by
  simp only [archiveOfFields, except_bind_eq_ok, required_eq_ok, except_pure_eq_ok]
  constructor
  · rintro ⟨⟨_, password⟩, hs, path, rfl, rfl⟩
    obtain ⟨hdeclared, hfilled⟩ := collects_archiveSlots.record_eq_ok.mp hs
    obtain ⟨hpath, hpassword⟩ := filled_archiveSlots.mp hfilled
    exact ⟨path, password, rfl, hdeclared, hpath, hpassword⟩
  · rintro ⟨path, password, rfl, hdeclared, hpath, hpassword⟩
    refine ⟨⟨some path, password⟩, ?_, path, rfl, rfl⟩
    exact collects_archiveSlots.record_eq_ok.mpr
      ⟨hdeclared, filled_archiveSlots.mpr ⟨hpath, hpassword⟩⟩

private theorem archiveOfItems_eq_ok {items : List Json} {k : KeySettings} :
    archiveOfItems items = .ok k ↔ items.length ≤ archiveNames.length ∧
      ∃ path password, k = .pkcs12 path password ∧
        ArchiveFields (archiveNames.zip items) path password := by
  have hnames : archiveNames.Nodup := by decide
  simp only [archiveOfItems, except_bind_eq_ok, itemAt_eq_ok hnames (i := 0) rfl,
    itemOr_eq_ok hnames (i := 1) rfl, path_eq_ok, text_eq_ok, exists_isText, except_pure_eq_ok]
  constructor
  · rintro ⟨path, hpath, password, hpassword, ⟨⟩, hlength, rfl⟩
    have hfields : ArchiveFields (archiveNames.zip items) path password :=
      ⟨declared_zip hnames items, hpath, hpassword⟩
    exact ⟨exactly_eq_ok.mp hlength, path, password, rfl, hfields⟩
  · rintro ⟨hlength, path, password, rfl, h⟩
    exact ⟨path, h.path, password, h.password, (), exactly_eq_ok.mpr hlength, rfl⟩

private theorem key_eq_ok {k : KeySettings} : Reader.key j = .ok k ↔ KeyShown j k := by
  rw [Reader.key, tagged_bind_eq_ok (by decide)]
  refine (or_congr
    (taggedRecord_iff "pem" pemNames (P := fun es => ∃ keyPath certPath sni,
      k = .pem keyPath certPath sni ∧ PemFields es keyPath certPath sni) ?_ ?_)
    (taggedRecord_iff "pkcs12" archiveNames (P := fun es => ∃ path password,
      k = .pkcs12 path password ∧ ArchiveFields es path password) ?_ ?_)).trans ?_
  · exact fun _ => pemOfFields_eq_ok
  · exact fun _ => pemOfItems_eq_ok
  · exact fun _ => archiveOfFields_eq_ok
  · exact fun _ => archiveOfItems_eq_ok
  · cases k <;> simp [KeyShown, TaggedRecord]

end Keys

section Anchors

def anchorNames : List String := ["ca_paths"]

@[mk_iff]
structure AnchorFields (es : List (String × Json)) (caPaths : List String) : Prop where
  declared : Declared anchorNames es
  caPaths : ∃ j, es.lookup "ca_paths" = some j ∧ Listed IsText j caPaths

/-- What is beside the tag `system` does not count, unless it is given one after the other. -/
def TrustShown (j : Json) : TrustSettings → Prop
  | .pem caPaths => TaggedRecord "pem" anchorNames (AnchorFields · caPaths) j
  | .system => ∃ c, Tagged j "system" c ∧ ∀ items, c = .items items → items = []

def anchorSlots : List (Slot (Option (List String))) :=
  [⟨"ca_paths", fun j => some <$> list path j, fun s => s, fun _ paths => paths⟩]

private theorem collects_anchorSlots : Collects
    (fun (_ : Option (List String)) _ j => do return some (← list path j)) anchorSlots := by
  constructor
  case ext =>
    intro _ _ h
    simpa [anchorSlots] using h
  all_goals simp [anchorSlots]

private theorem filled_anchorSlots {es : List (String × Json)} {caPaths : List String} :
    (∀ f ∈ anchorSlots, f.Filled none es (some caPaths)) ↔
      ∃ j, es.lookup "ca_paths" = some j ∧ Listed IsText j caPaths := by
  simp [anchorSlots, Slot.Filled, given_map_some, list_eq_ok, path_eq_ok]

private theorem anchorsOfFields_eq_ok {es : List (String × Json)} {t : TrustSettings} :
    anchorsOfFields es = .ok t ↔ ∃ caPaths, t = .pem caPaths ∧ AnchorFields es caPaths := by
  simp only [anchorsOfFields, except_bind_eq_ok, required_eq_ok, except_pure_eq_ok]
  constructor
  · rintro ⟨_, hs, caPaths, rfl, rfl⟩
    obtain ⟨hdeclared, hfilled⟩ := collects_anchorSlots.record_eq_ok.mp hs
    exact ⟨caPaths, rfl, hdeclared, filled_anchorSlots.mp hfilled⟩
  · rintro ⟨caPaths, rfl, hdeclared, hpaths⟩
    refine ⟨some caPaths, ?_, caPaths, rfl, rfl⟩
    exact collects_anchorSlots.record_eq_ok.mpr ⟨hdeclared, filled_anchorSlots.mpr hpaths⟩

private theorem anchorsOfItems_eq_ok {record : String} {items : List Json} {t : TrustSettings} :
    (do
      let paths ← itemAt record 1 (list path) items 0
      exactly 1 items
      return TrustSettings.pem paths) = .ok t ↔
      items.length ≤ anchorNames.length ∧
        ∃ caPaths, t = .pem caPaths ∧ AnchorFields (anchorNames.zip items) caPaths := by
  have hnames : anchorNames.Nodup := by decide
  simp only [except_bind_eq_ok, itemAt_eq_ok hnames (i := 0) rfl, list_eq_ok, path_eq_ok,
    except_pure_eq_ok]
  constructor
  · rintro ⟨caPaths, hpaths, ⟨⟩, hlength, rfl⟩
    exact ⟨exactly_eq_ok.mp hlength, caPaths, rfl, declared_zip hnames items, hpaths⟩
  · rintro ⟨hlength, caPaths, rfl, h⟩
    exact ⟨caPaths, h.caPaths, (), exactly_eq_ok.mpr hlength, rfl⟩

private theorem systemOfItems_eq_ok {items : List Json} {t : TrustSettings} :
    (do
      exactly 0 items
      return TrustSettings.system) = .ok t ↔ items = [] ∧ t = .system := by
  simp only [except_bind_eq_ok, except_pure_eq_ok]
  constructor
  · rintro ⟨⟨⟩, hlength, rfl⟩
    exact ⟨List.eq_nil_of_length_eq_zero (Nat.le_zero.mp (exactly_eq_ok.mp hlength)), rfl⟩
  · rintro ⟨rfl, rfl⟩
    exact ⟨(), rfl, rfl⟩

private theorem trust_eq_ok {t : TrustSettings} : Reader.trust j = .ok t ↔ TrustShown j t := by
  rw [Reader.trust, tagged_bind_eq_ok (by decide)]
  refine (or_congr
    (taggedRecord_iff "pem" anchorNames (P := fun es => ∃ caPaths,
      t = .pem caPaths ∧ AnchorFields es caPaths) ?_ ?_)
    (d := t = .system ∧ ∃ c, Tagged j "system" c ∧ ∀ items, c = .items items → items = []) ?_).trans ?_
  · exact fun _ => anchorsOfFields_eq_ok
  · exact fun _ => anchorsOfItems_eq_ok
  · rw [← exists_and_left]
    refine exists_congr fun c => ?_
    rw [and_left_comm]
    refine and_congr_right fun _ => ?_
    cases c with
    | fields es => simp [except_pure_eq_ok]
    | items items => simpa [and_comm] using systemOfItems_eq_ok
  · cases t <;> simp [TrustShown, TaggedRecord]

end Anchors

section Whole

/-- The fields of settings: what is there is read, and what is not there has its default. -/
@[mk_iff]
structure Fields (streamed : Bool) (es : List (String × Json)) (s : Settings) : Prop where
  declared : Declared fieldNames es
  engine : Given (Chosen streamed engines) .openssl (es.lookup "engine") s.engine
  sessionCache : Given (fun j b => j = .bool b) true (es.lookup "session_cache_enabled") s.sessionCache
  root : Given (Nullable IsText) none (es.lookup "root") s.root
  key : Given (Nullable KeyShown) none (es.lookup "key") s.key
  trust : Given (Nullable TrustShown) none (es.lookup "trust") s.trust
  crlPaths : Given (Listed IsText) [] (es.lookup "crl_paths") s.crlPaths
  crlValues : Given (Listed IsText) [] (es.lookup "crl_values") s.crlValues
  cipherSuites : Given (Listed IsText) [] (es.lookup "cipher_suites") s.cipherSuites
  protocols : Given (Listed IsText) [] (es.lookup "application_protocols") s.protocols
  clientAuth : Given (Chosen streamed clientAuths) .none (es.lookup "client_auth") s.clientAuth

/-- The document stands for the settings. -/
def Shown (streamed : Bool) (j : Json) (s : Settings) : Prop :=
  j.fault? = none ∧ ∃ es, Gives fieldNames j es ∧ Fields streamed es s

def slots (streamed : Bool) : List (Slot Settings) :=
  [⟨"engine", choice streamed engines, engine, fun s a => { s with engine := a }⟩,
    ⟨"session_cache_enabled", truth, sessionCache, fun s a => { s with sessionCache := a }⟩,
    ⟨"root", Reader.optional path, root, fun s a => { s with root := a }⟩,
    ⟨"key", Reader.optional Reader.key, key, fun s a => { s with key := a }⟩,
    ⟨"trust", Reader.optional Reader.trust, trust, fun s a => { s with trust := a }⟩,
    ⟨"crl_paths", list path, crlPaths, fun s a => { s with crlPaths := a }⟩,
    ⟨"crl_values", list text, crlValues, fun s a => { s with crlValues := a }⟩,
    ⟨"cipher_suites", list text, cipherSuites, fun s a => { s with cipherSuites := a }⟩,
    ⟨"application_protocols", list text, protocols, fun s a => { s with protocols := a }⟩,
    ⟨"client_auth", choice streamed clientAuths, clientAuth, fun s a => { s with clientAuth := a }⟩]

private theorem collects_slots (streamed : Bool) :
    Collects (takeField streamed) (slots streamed) := by
  constructor
  case names => exact show fieldNames.Nodup by decide
  case ext =>
    rintro ⟨⟩ ⟨⟩ h
    simpa [slots] using h
  all_goals simp [slots, takeField]

private theorem optional_path_eq_ok {o : Option String} :
    Reader.optional path j = .ok o ↔ Nullable IsText j o := by
  rw [optional_eq_ok (by simp [path_eq_ok, IsText])]
  simp only [path_eq_ok]

private theorem optional_key_eq_ok {o : Option KeySettings} :
    Reader.optional Reader.key j = .ok o ↔ Nullable KeyShown j o := by
  rw [optional_eq_ok fun k h => by cases h]
  simp only [key_eq_ok]

private theorem optional_trust_eq_ok {o : Option TrustSettings} :
    Reader.optional Reader.trust j = .ok o ↔ Nullable TrustShown j o := by
  rw [optional_eq_ok fun t h => by cases h]
  simp only [trust_eq_ok]

private theorem filled_slots {streamed : Bool} {es : List (String × Json)} {s : Settings} :
    Declared fieldNames es ∧ (∀ f ∈ slots streamed, f.Filled {} es s) ↔ Fields streamed es s := by
  simp [fields_iff, slots, Slot.Filled, choice_eq_ok, truth_eq_ok, optional_path_eq_ok,
    optional_key_eq_ok, optional_trust_eq_ok, list_eq_ok, path_eq_ok, text_eq_ok]

/-- Settings can be read from exactly the documents that stand for settings. -/
theorem settings_eq_ok {streamed : Bool} {s : Settings} :
    Reader.settings streamed j = .ok s ↔ Shown streamed j s := by
  have hentries : ∀ {es s}, entries fieldNames (takeField streamed) [] {} es = .ok s ↔
      Fields streamed es s := fun {es s} => by
    rw [← filled_slots]
    exact (collects_slots streamed).record_eq_ok
  cases j with
  | object es fault =>
    simp only [Reader.settings, except_bind_eq_ok, except_pure_eq_ok, Shown, exists_gives_object,
      hentries]
    constructor
    · rintro ⟨_, hs, ⟨⟩, hfault, rfl⟩
      exact ⟨intact_eq_ok.mp hfault, hs⟩
    · rintro ⟨hfault, hs⟩
      exact ⟨s, hs, (), intact_eq_ok.mpr hfault, rfl⟩
  | array items fault =>
    have hdeclared : Declared fieldNames (fieldNames.zip items) := declared_zip (by decide) items
    rw [Reader.settings, ← entries_eq_foldlM hdeclared (fun _ _ => List.not_mem_nil)]
    simp only [except_bind_eq_ok, hentries, Shown, exists_gives_array]
    by_cases hlength : items.length ≤ fieldNames.length
    · have hend : (if items.length = fieldNames.length then fault.map endFault else fault) = none ↔
          fault = none := by split <;> simp
      simp only [if_neg (Nat.not_lt.mpr hlength), except_bind_eq_ok, except_pure_eq_ok]
      constructor
      · rintro ⟨_, hs, ⟨⟩, hintact, rfl⟩
        exact ⟨hend.mp (intact_eq_ok.mp hintact), hlength, hs⟩
      · rintro ⟨hfault, -, hs⟩
        exact ⟨s, hs, (), intact_eq_ok.mpr (hend.mpr hfault), rfl⟩
    · have hlong : fieldNames.length < items.length := Nat.lt_of_not_le hlength
      constructor
      · rintro ⟨_, -, h⟩
        rw [if_pos hlong] at h
        cases streamed <;> cases h
      · rintro ⟨-, hfits, -⟩
        exact absurd hfits hlength
  | _ =>
    simp only [Reader.settings, mismatch, reduceCtorEq, false_iff]
    rintro ⟨-, _, ⟨⟩, -⟩

end Whole

end TlsSetup.Settings
