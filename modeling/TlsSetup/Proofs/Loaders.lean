import TlsSetup.Proofs.FileReads

/-!
# Whose loader reads a file

The loader of the options reads the files with revocation lists. A source that is stored in files keeps
a loader of its own, which is the default one unless it was given another, and reads its files through
that. All files come through the loader of the options if the sources were given it as well.
-/

namespace TlsSetup

/-- Where an identity is stored: in pairs of a key and a chain, or in an archive. -/
inductive KeyStore where
  | pairs (k : PemKeys)
  | archive (k : ArchiveKey)

namespace KeyStore

def loader : KeyStore → Loader
  | .pairs k => k.loader
  | .archive k => k.loader

def paths : KeyStore → List String
  | .pairs k => k.paths
  | .archive k => k.archive.paths

def source : KeyStore → KeySource
  | .pairs k => k.source
  | .archive k => k.source

theorem reads_source {allowed : Loader → String → Prop} {k : KeyStore}
    (h : ∀ p ∈ k.paths, allowed k.loader p) : k.source.Reads allowed := by
  cases k with
  | pairs k => exact PemKeys.reads_source h
  | archive k => exact ArchiveKey.reads_source h

end KeyStore

namespace Options

variable {o : Options} {serverName : Option String} {useAlpn trustAll : Bool} {role : Role}

def storing (o : Options) (key : Option KeyStore) (trust : Option PemAnchors) : Options :=
  { o with keySource := key.map KeyStore.source, trustSource := trust.map PemAnchors.source }

private theorem readsFiles_storing {key : Option KeyStore} {trust : Option PemAnchors}
    {allowed : Loader → String → Prop} (hkey : ∀ k ∈ key, ∀ p ∈ k.paths, allowed k.loader p)
    (htrust : ∀ a ∈ trust, ∀ p ∈ a.paths, allowed a.loader p)
    (hlists : ∀ p ∈ o.crlPaths, allowed o.resources p) :
    (o.storing key trust).ReadsFiles allowed where
  key s hs := by
    obtain ⟨k, hk, rfl⟩ := Option.map_eq_some_iff.mp hs
    exact KeyStore.reads_source (hkey k hk)
  trust s hs := by
    obtain ⟨a, ha, rfl⟩ := Option.map_eq_some_iff.mp hs
    exact PemAnchors.reads_source (htrust a ha)
  lists := hlists

private theorem revocationLists_withResources (h : o.crlPaths = []) (l : Loader) :
    { o with resources := l }.revocationLists = o.revocationLists := by
  unfold revocationLists hasCrls
  rw [h]
  rfl

/-- Where no file holds revocation lists, the loader of the options plays no part. -/
theorem contextFor_withResources (h : o.crlPaths = []) (l : Loader) :
    { o with resources := l }.contextFor serverName useAlpn role trustAll =
      o.contextFor serverName useAlpn role trustAll := by
  have htrust : { o with resources := l }.trustFor serverName trustAll =
      o.trustFor serverName trustAll := by
    simp only [trustFor, revocationLists_withResources h]
    rfl
  have hcredentials : { o with resources := l }.credentialsFor serverName trustAll =
      o.credentialsFor serverName trustAll := by
    simp only [credentialsFor, htrust]
    rfl
  simp only [contextFor, hcredentials]
  rfl

/-- For a context every file is read through the loader of whoever names it: keys and authorities
through the loaders of their stores, lists through that of the options. So all come through the loader
of the options if every store that names a file has been given it, and otherwise it is not asked for the
files of the stores: without files for lists it can be any loader. -/
theorem files_come_through_loader_of_owner (o : Options) (key : Option KeyStore)
    (trust : Option PemAnchors) (serverName : Option String) (useAlpn : Bool) (role : Role)
    (trustAll : Bool) :
    Reads (fun l p => (∃ k ∈ key, l = k.loader ∧ p ∈ k.paths) ∨
        (∃ a ∈ trust, l = a.loader ∧ p ∈ a.paths) ∨ l = o.resources ∧ p ∈ o.crlPaths)
      ((o.storing key trust).contextFor serverName useAlpn role trustAll) ∧
    ((∀ k ∈ key, k.paths ≠ [] → k.loader = o.resources) →
      (∀ a ∈ trust, a.paths ≠ [] → a.loader = o.resources) →
      Reads (fun l _ => l = o.resources)
        ((o.storing key trust).contextFor serverName useAlpn role trustAll)) ∧
    (o.crlPaths = [] → ∀ l : Loader,
      { o.storing key trust with resources := l }.contextFor serverName useAlpn role trustAll =
        (o.storing key trust).contextFor serverName useAlpn role trustAll) := by
  refine ⟨?_, fun hkey htrust => ?_, fun hnone l => ?_⟩
  · refine (readsFiles_storing (fun k hk p hp => .inl ⟨k, hk, rfl, hp⟩)
      (fun a ha p hp => .inr (.inl ⟨a, ha, rfl, hp⟩)) fun p hp => .inr (.inr ⟨rfl, hp⟩)).contextFor
  · exact (readsFiles_storing (fun k hk p hp => hkey k hk (List.ne_nil_of_mem hp))
      (fun a ha p hp => htrust a ha (List.ne_nil_of_mem hp)) fun _ _ => rfl).contextFor
  · have hnone' : (o.storing key trust).crlPaths = [] := hnone
    exact contextFor_withResources hnone' l

end Options

/-- Holds no files, and records for which one it is asked. -/
def recordingLoader (name : String) : Loader where
  locate := id
  read path := do
    Logged.ask (name ++ " " ++ path)
    return .error .noSuchFile

/-- A program whose files are asked for under `disk`. -/
def diskEnvironment : Environment where
  now := 0
  authorities := []
  directory := "/work"
  files := (recordingLoader "disk").read

def storedPair (l : Loader) : PemKeys := ⟨[⟨.path "server.key", .path "server.pem"⟩], l⟩

theorem files_come_through_loader_of_owner_given :
    let l := recordingLoader "memory"
    let o := { Options.default diskEnvironment with crlPaths := ["revoked.crl"], resources := l }
    let trust : PemAnchors := ⟨[.path "ca.pem"], l, 0⟩
    Reads (fun loader _ => loader = l) ((o.storing (some (.pairs (storedPair l)))
        (some trust)).contextFor none false .server false) ∧
      ((o.storing (some (.pairs (storedPair l))) (some trust)).contextFor none false
        .server false).asked = [.asked "memory ca.pem"] ∧
      ((o.storing (some (.pairs (storedPair l))) (some trust)).contextFor none false
        .server true).asked = [.asked "memory revoked.crl"] := by
  intro l o trust
  have h := Options.files_come_through_loader_of_owner o (some (.pairs (storedPair l))) (some trust)
    none false .server false
  refine ⟨h.2.1 ?_ ?_, rfl, rfl⟩
  · intro k hk _
    obtain rfl := Option.some.inj hk
    rfl
  · intro a ha _
    obtain rfl := Option.some.inj ha
    rfl

/-- The options are given a loader that has every file, before the pair is added or after it. The pair
keeps the default loader all the same, which does not find its files on disk. -/
theorem configured_loader_not_asked_for_pair :
    let memory : Loader := ⟨id, fun _ => pure (.ok [1])⟩
    let pair := ((PemKeys.new diskEnvironment).add (.path "server.key") (.path "server.pem")).source
    (∀ path, (memory.load path).outcome = .ok [1]) ∧
    ∀ settings ∈ [[Setting.resources memory, .keySource pair], [.keySource pair, .resources memory]],
      let o := Options.build diskEnvironment settings
      (o.contextFor none false .server false).asked = [.asked "disk /work/server.key"] ∧
      (o.contextFor none false .server false).outcome =
        .error (.io "/work/server.key" .noSuchFile) ∧
      ¬ Reads (fun loader _ => loader = memory) (o.contextFor none false .server false) := by
  intro memory pair
  have hsilent : ∀ path, FileRead.asked ⟨memory, path⟩ = [] := fun _ => rfl
  refine ⟨fun _ => rfl, ?_⟩
  intro settings hsettings o
  have hbuilt : o = { Options.default diskEnvironment with
      keySource := some pair, resources := memory } := by
    simp only [List.mem_cons, List.not_mem_nil, or_false] at hsettings
    rcases hsettings with rfl | rfl <;> rfl
  have hasked : (o.contextFor none false .server false).asked =
      [.asked "disk /work/server.key"] := by
    rw [hbuilt]
    rfl
  refine ⟨hasked, ?_, ?_⟩
  · rw [hbuilt]
    rfl
  · rintro ⟨reads, hreads, hall⟩
    have hnone : reads.flatMap FileRead.asked = [] := by
      apply List.flatMap_eq_nil_iff.mpr
      rintro ⟨loader, path⟩ hr
      obtain rfl : loader = memory := hreads _ hr
      exact hsilent path
    rw [hasked, hnone] at hall
    cases hall

end TlsSetup
