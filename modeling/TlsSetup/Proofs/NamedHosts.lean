import TlsSetup.Proofs.HostLabels

/-!
# Hosts that a certificate names

A certificate names hosts by its alternative names, and by the first common name of its holder if there
is no host name among those. What is matched are the names as they are read for display: an alternative
name that is no text is left out, a common name ends at its first NUL, and a holder without one is shown
by a placeholder. So the two agree exactly if the names that count are legible.
-/

namespace TlsSetup

open X509

namespace Host

private theorem covers_self (name : String) : covers name name = true := by
  rw [covers_eq_labelsCover, labelsCover_iff]
  by_cases hwild : IsWildcard (labelsOf name)
  · have hhead : (labelsOf name).head? = some ['*'] := hwild.2
    exact .inl ⟨hwild, ⟨['*'], hhead, by simp⟩, rfl⟩
  · exact .inr ⟨hwild, rfl⟩

private theorem mem_canonical_of_covers {pattern host : String} {c : Char} (hstar : c ≠ '*')
    (hdot : c ≠ '.') (hcovers : covers pattern host = true) (hc : c ∈ canonical pattern) :
    c ∈ canonical host := by
  unfold covers at hcovers
  split at hcovers
  · next tail hpattern =>
    have htail : c ∈ tail := by simpa [hpattern, hstar, hdot] using hc
    split at hcovers
    · next label rest hcut =>
      have hrest : rest = tail := by
        simp only [Bool.and_eq_true, beq_iff_eq] at hcovers
        exact hcovers.2
      rw [(cutAtDot_eq_some hcut).2, hrest]
      simp [htail]
    · simp at hcovers
  · have hsame : canonical pattern = canonical host := by simpa using hcovers
    rw [← hsame]
    exact hc

private theorem nul_mem_canonical (name : String) :
    '\x00' ∈ canonical name ↔ '\x00' ∈ name.toList := by
  have hlower : '\x00' ∈ (Text.lowerAscii name).toList ↔ '\x00' ∈ name.toList := by
    have hnul : ∀ c : Char, c.toLower = '\x00' ↔ c = '\x00' := by
      intro c
      exact Text.toLower_eq_iff (by decide)
    simp [Text.toList_lowerAscii, hnul]
  obtain ⟨i, hi⟩ := exists_dots_of_rdropWhile (Text.lowerAscii name).toList
  rw [← canonical_eq_rdropWhile] at hi
  rw [← hlower, hi]
  simp [List.mem_replicate]

end Host

namespace X509

/-- The bytes of a host name. -/
def GeneralName.dns? : GeneralName → Option Bytes
  | .dns bs => some bs
  | _ => none

namespace Certificate

variable {c : Certificate}

/-- The host names in every extension with alternative names that can be read. -/
def dnsEntries (c : Certificate) : List Bytes :=
  ((c.extensions.filter (·.oid == subjectAltNameOid)).flatMap fun e =>
    (GeneralName.list? e.value).getD []).filterMap GeneralName.dns?

def firstCommonName? (c : Certificate) : Option Attribute :=
  c.subject.groups.flatten.find? (·.kind == Name.commonNameOid)

def wholeText? (a : Attribute) : Option String :=
  (Name.characters? a.valueTag.number a.value).map String.ofList

/-- The certificate names the host. -/
def IsNamedFor (c : Certificate) (host : String) : Prop :=
  (∃ entry ∈ c.dnsEntries, ∃ pattern,
    entry.toString? = some pattern ∧ Host.covers pattern host = true) ∨
  (c.dnsEntries = [] ∧ ∃ a pattern, c.firstCommonName? = some a ∧ wholeText? a = some pattern ∧
    Host.covers pattern host = true)

/-- The hosts that match are those that are named. -/
structure MatchesAsNamed (c : Certificate) : Prop where
  named : ∀ host, (Holder.ofCertificate c).matchesHost host = true ↔ c.IsNamedFor host
  nameless : c.dnsEntries = [] → c.firstCommonName? = none →
    ∀ host, (Holder.ofCertificate c).matchesHost host = false
  settled : c.dnsEntries ≠ [] → ∀ c' : Certificate, c'.extensions = c.extensions →
    ∀ host, (Holder.ofCertificate c').matchesHost host = (Holder.ofCertificate c).matchesHost host

/-- The names that count can be shown in full. -/
inductive Legible (c : Certificate) : Prop
  | entries {value : Bytes} {entry : Bytes} {pattern : String}
    (honce : occurrence subjectAltNameOid c.extensions = .once value)
    (hentry : entry ∈ c.dnsEntries) (htext : entry.toString? = some pattern)
  | commonName {a : Attribute} {pattern : String} (hnone : c.dnsEntries = [])
    (ha : c.firstCommonName? = some a) (htext : wholeText? a = some pattern)
    (hnul : '\x00' ∉ pattern.toList)

private theorem dnsNames_eq_filterMap (c : Certificate) :
    c.dnsNames = (c.altNames.filterMap GeneralName.dns?).filterMap Bytes.toString? := by
  rw [dnsNames, List.filterMap_filterMap]
  apply List.filterMap_congr
  intro name _
  cases name <;> rfl

private theorem dnsEntries_of_once {value : Bytes}
    (honce : occurrence subjectAltNameOid c.extensions = .once value) :
    c.dnsEntries = c.altNames.filterMap GeneralName.dns? := by
  rw [altNames, honce, dnsEntries]
  unfold occurrence at honce
  split at honce
  · simp at honce
  · next e hfilter =>
    have hvalue : e.value = value := by simpa using honce
    simp [hfilter, hvalue]
  · simp at honce

private theorem dnsNames_of_once {value : Bytes}
    (honce : occurrence subjectAltNameOid c.extensions = .once value) :
    c.dnsNames = c.dnsEntries.filterMap Bytes.toString? := by
  rw [dnsNames_eq_filterMap, dnsEntries_of_once honce]

private theorem exists_once_of_dnsNames (h : c.dnsNames ≠ []) :
    ∃ value, occurrence subjectAltNameOid c.extensions = .once value := by
  cases hocc : occurrence subjectAltNameOid c.extensions with
  | absent => simp [dnsNames, altNames, hocc] at h
  | once value => exact ⟨value, rfl⟩
  | repeated => simp [dnsNames, altNames, hocc] at h

private theorem dnsNames_congr {c' : Certificate} (h : c'.extensions = c.extensions) :
    c'.dnsNames = c.dnsNames := by
  rw [dnsNames, dnsNames, altNames, altNames, h]

private theorem legible_of_dnsNames (h : c.dnsNames ≠ []) : c.Legible := by
  obtain ⟨value, honce⟩ := exists_once_of_dnsNames h
  rw [dnsNames_of_once honce] at h
  obtain ⟨pattern, hpattern⟩ := List.exists_mem_of_ne_nil _ h
  obtain ⟨entry, hentry, htext⟩ := List.mem_filterMap.mp hpattern
  exact .entries honce hentry htext

private theorem dnsNames_eq_nil (h : c.dnsEntries = []) : c.dnsNames = [] := by
  by_contra hne
  obtain ⟨value, honce⟩ := exists_once_of_dnsNames hne
  rw [dnsNames_of_once honce, h] at hne
  exact hne rfl

private theorem matchesHost_of_dnsNames_eq_nil (h : c.dnsNames = []) (host : String) :
    (Holder.ofCertificate c).matchesHost host = Host.covers c.subject.display host := by
  simp [Holder.matchesHost, Holder.ofCertificate, h]

private theorem matchesHost_of_dnsNames (h : c.dnsNames ≠ []) (host : String) :
    (Holder.ofCertificate c).matchesHost host =
      c.dnsNames.any fun pattern => Host.covers pattern host := by
  simp [Holder.matchesHost, Holder.ofCertificate, h]

private theorem display_eq (c : Certificate) : c.subject.display =
    match c.firstCommonName?.bind wholeText? with
    | some text => String.ofList (text.toList.takeWhile (· != '\x00'))
    | none => "<undef>" := by
  rw [Name.display, Name.commonName?, ← firstCommonName?]
  cases c.firstCommonName? with
  | none => rfl
  | some a =>
    cases htext : Name.characters? a.valueTag.number a.value with
    | none => simp [Name.text?, wholeText?, htext]
    | some cs => simp [Name.text?, wholeText?, htext]

theorem MatchesAsNamed.of_entries {value entry : Bytes} {pattern : String}
    (honce : occurrence subjectAltNameOid c.extensions = .once value)
    (hentry : entry ∈ c.dnsEntries) (htext : entry.toString? = some pattern) :
    c.MatchesAsNamed := by
  have hnames : c.dnsNames ≠ [] := by
    rw [dnsNames_of_once honce]
    exact List.ne_nil_of_mem (List.mem_filterMap.mpr ⟨entry, hentry, htext⟩)
  have hentries : c.dnsEntries ≠ [] := List.ne_nil_of_mem hentry
  refine ⟨?_, ?_, ?_⟩
  · intro host
    rw [matchesHost_of_dnsNames hnames, dnsNames_of_once honce]
    simp only [List.any_eq_true, List.mem_filterMap, IsNamedFor, hentries, false_and, or_false]
    constructor
    · intro h
      obtain ⟨text, ⟨bs, hbs, hread⟩, hcovers⟩ := h
      exact ⟨bs, hbs, text, hread, hcovers⟩
    · intro h
      obtain ⟨bs, hbs, text, hread, hcovers⟩ := h
      exact ⟨text, ⟨bs, hbs, hread⟩, hcovers⟩
  · intro hnone
    exact absurd hnone hentries
  · intro _ c' hc' host
    have hsame := dnsNames_congr hc'
    rw [matchesHost_of_dnsNames hnames, matchesHost_of_dnsNames (by rwa [hsame]), hsame]

theorem MatchesAsNamed.of_commonName {a : Attribute} {pattern : String}
    (hnone : c.dnsEntries = []) (ha : c.firstCommonName? = some a)
    (htext : wholeText? a = some pattern) (hnul : '\x00' ∉ pattern.toList) :
    c.MatchesAsNamed := by
  have hshown : c.subject.display = pattern := by
    have hall : pattern.toList.takeWhile (· != '\x00') = pattern.toList := by
      apply List.takeWhile_eq_self_iff.mpr
      intro x hx
      have hx0 : x ≠ '\x00' := by
        intro heq
        exact hnul (heq ▸ hx)
      simpa using hx0
    rw [display_eq, ha, Option.bind_some, htext]
    simp only [hall, String.ofList_toList]
  refine ⟨?_, ?_, ?_⟩
  · intro host
    rw [matchesHost_of_dnsNames_eq_nil (dnsNames_eq_nil hnone), hshown]
    simp [IsNamedFor, hnone, ha, htext]
  · intro _ hnameless
    rw [hnameless] at ha
    simp at ha
  · intro hne
    exact absurd hnone hne

def shownAs (text : String) : Name :=
  ⟨[[⟨Name.commonNameOid, .utf8String, Bytes.ofString text⟩]], []⟩

theorem MatchesAsNamed.dnsNames_ne_nil (h : c.MatchesAsNamed) (hentries : c.dnsEntries ≠ []) :
    c.dnsNames ≠ [] := by
  -- without a legible entry the common name is matched, which may be changed to any text
  intro hnames
  have hshown : ∀ text, Host.covers ({ c with subject := shownAs text } : Certificate).subject.display
      "a" = Host.covers c.subject.display "a" := by
    intro text
    have hsettled := h.settled hentries { c with subject := shownAs text } rfl "a"
    have hsame : ({ c with subject := shownAs text } : Certificate).dnsNames = [] :=
      (dnsNames_congr rfl).trans hnames
    rwa [matchesHost_of_dnsNames_eq_nil hnames, matchesHost_of_dnsNames_eq_nil hsame] at hsettled
  have ha : Host.covers (shownAs "a").display "a" = true := by decide +kernel
  have hb : Host.covers (shownAs "b").display "a" = false := by decide +kernel
  have hsame : Host.covers (shownAs "a").display "a" = Host.covers (shownAs "b").display "a" :=
    (hshown "a").trans (hshown "b").symm
  rw [ha, hb] at hsame
  simp at hsame

theorem MatchesAsNamed.legible (h : c.MatchesAsNamed) : c.Legible := by
  by_cases hnone : c.dnsEntries = []
  · -- the text that is shown matches itself, so it must be the common name in full
    have hself : (Holder.ofCertificate c).matchesHost c.subject.display = true := by
      rw [matchesHost_of_dnsNames_eq_nil (dnsNames_eq_nil hnone)]
      exact Host.covers_self _
    rcases (h.named _).mp hself with ⟨entry, hentry, -⟩ | ⟨-, a, pattern, ha, htext, hcovers⟩
    · simp [hnone] at hentry
    · refine .commonName hnone ha htext ?_
      intro hnul
      have hshown : c.subject.display =
          String.ofList (pattern.toList.takeWhile (· != '\x00')) := by
        rw [display_eq, ha, Option.bind_some, htext]
      have hmem := Host.mem_canonical_of_covers (by decide) (by decide) hcovers
        ((Host.nul_mem_canonical pattern).mpr hnul)
      rw [Host.nul_mem_canonical, hshown, String.toList_ofList] at hmem
      simpa using List.mem_takeWhile_imp hmem
  · exact legible_of_dnsNames (h.dnsNames_ne_nil hnone)

/-- The encoding of a certificate for this holder with these extensions. -/
def encodingFor (subject extensions : Bytes) : Bytes :=
  Der.encode 48
    (Der.encode 48
      ([160, 3, 2, 1, 2, 2, 1, 7, 48, 5, 6, 3, 42, 3, 4, 48, 0, 48, 30, 23, 13, 50, 52, 48, 49, 48,
          49, 48, 48, 48, 48, 48, 48, 90, 23, 13, 50, 53, 48, 49, 48, 49, 48, 48, 48, 48, 48, 48,
          90] ++
        Der.encode 48 subject ++ [48, 11, 48, 5, 6, 3, 42, 3, 4, 3, 2, 0, 1] ++ extensions) ++
      [48, 5, 6, 3, 42, 3, 4, 3, 2, 0, 1])

def commonNameBytes (text : Bytes) : Bytes :=
  Der.encode 49 (Der.encode 48 ([6, 3, 85, 4, 3] ++ Der.encode 12 text))

def dnsNameBytes (entry : Bytes) : Bytes :=
  Der.encode 163 (Der.encode 48 (Der.encode 48
    ([6, 3, 85, 29, 17] ++ Der.encode 4 (Der.encode 48 (Der.encode 130 entry)))))

/-- The hosts that match a certificate are those that it names, whatever its common name if it has host
names, exactly if the names that count are legible. Otherwise the text that is shown for its holder is
matched, which may be a placeholder. -/
theorem matches_as_named_iff_legible (c : Certificate) :
    (c.MatchesAsNamed ↔ c.Legible) ∧
    (¬ c.Legible → ∀ host,
      (Holder.ofCertificate c).matchesHost host = Host.covers c.subject.display host) := by
  refine ⟨⟨MatchesAsNamed.legible, ?_⟩, ?_⟩
  · intro h
    cases h with
    | entries honce hentry htext => exact .of_entries honce hentry htext
    | commonName hnone ha htext hnul => exact .of_commonName hnone ha htext hnul
  · intro h
    apply matchesHost_of_dnsNames_eq_nil
    by_contra hne
    exact h (legible_of_dnsNames hne)

theorem matches_as_named_iff_legible_twoNames :
    ∃ c, decode? (encodingFor (commonNameBytes [97]) (dnsNameBytes [98])) = some c ∧ c.Legible ∧
      c.MatchesAsNamed := by
  have hread : (decode? (encodingFor (commonNameBytes [97]) (dnsNameBytes [98]))).map dnsNames =
      some ["b"] := by decide +kernel
  obtain ⟨c, hc, hnames⟩ := Option.map_eq_some_iff.mp hread
  have hlegible : c.Legible := by
    apply legible_of_dnsNames
    simp [hnames]
  exact ⟨c, hc, hlegible, (matches_as_named_iff_legible c).1.mpr hlegible⟩

/-- Without any name, with a host name that is no text, and with a common name that has a NUL inside, a
certificate matches a host that it does not name. -/
theorem illegible_names_match :
    (∃ c, decode? (encodingFor [] []) = some c ∧ c.dnsEntries = [] ∧ c.firstCommonName? = none ∧
      (Holder.ofCertificate c).matchesHost "<undef>" = true ∧ ¬ c.MatchesAsNamed) ∧
    (∃ c, decode? (encodingFor (commonNameBytes [97]) (dnsNameBytes [255])) = some c ∧
      c.dnsEntries = [[255]] ∧ (Holder.ofCertificate c).matchesHost "a" = true ∧
      ¬ c.IsNamedFor "a" ∧ ¬ c.MatchesAsNamed) ∧
    ∃ c, decode? (encodingFor (commonNameBytes [97, 0, 98]) []) = some c ∧ c.dnsEntries = [] ∧
      c.firstCommonName?.bind wholeText? = some "a\x00b" ∧
      (Holder.ofCertificate c).matchesHost "a" = true ∧ ¬ c.IsNamedFor "a" ∧ ¬ c.MatchesAsNamed := by
  refine ⟨?_, ?_, ?_⟩
  · have hread : (decode? (encodingFor [] [])).map (fun c =>
        (c.dnsEntries, c.firstCommonName?, (Holder.ofCertificate c).matchesHost "<undef>")) =
          some ([], none, true) := by decide +kernel
    obtain ⟨c, hc, hnames⟩ := Option.map_eq_some_iff.mp hread
    simp only [Prod.mk.injEq] at hnames
    obtain ⟨hentries, hcommon, hmatches⟩ := hnames
    refine ⟨c, hc, hentries, hcommon, hmatches, ?_⟩
    intro h
    rw [h.nameless hentries hcommon] at hmatches
    simp at hmatches
  · have hread : (decode? (encodingFor (commonNameBytes [97]) (dnsNameBytes [255]))).map (fun c =>
        (c.dnsEntries, (Holder.ofCertificate c).matchesHost "a")) = some ([[255]], true) := by
      decide +kernel
    obtain ⟨c, hc, hnames⟩ := Option.map_eq_some_iff.mp hread
    simp only [Prod.mk.injEq] at hnames
    obtain ⟨hentries, hmatches⟩ := hnames
    have hnamed : ¬ c.IsNamedFor "a" := by
      have htext : Bytes.toString? [255] = none := by decide +kernel
      simp [IsNamedFor, hentries, htext]
    exact ⟨c, hc, hentries, hmatches, hnamed, fun h => hnamed ((h.named "a").mp hmatches)⟩
  · have hread : (decode? (encodingFor (commonNameBytes [97, 0, 98]) [])).map (fun c =>
        (c.dnsEntries, c.firstCommonName?.bind wholeText?,
          (Holder.ofCertificate c).matchesHost "a")) = some ([], some "a\x00b", true) := by
      decide +kernel
    obtain ⟨c, hc, hnames⟩ := Option.map_eq_some_iff.mp hread
    simp only [Prod.mk.injEq] at hnames
    obtain ⟨hentries, hwhole, hmatches⟩ := hnames
    have hnamed : ¬ c.IsNamedFor "a" := by
      intro h
      rcases h with ⟨entry, hentry, -⟩ | ⟨-, a, pattern, ha, htext, hcovers⟩
      · simp [hentries] at hentry
      · rw [ha, Option.bind_some, htext] at hwhole
        rw [Option.some.inj hwhole] at hcovers
        have hnot : Host.covers "a\x00b" "a" = false := by decide +kernel
        simp [hnot] at hcovers
    exact ⟨c, hc, hentries, hwhole, hmatches, hnamed, fun h => hnamed ((h.named "a").mp hmatches)⟩

end Certificate

end X509

end TlsSetup
