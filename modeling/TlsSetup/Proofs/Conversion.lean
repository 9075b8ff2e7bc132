import TlsSetup.Proofs.Loaders
import TlsSetup.Settings.Basic

/-!
# Options from settings

Settings stand for the options that one would put together by hand from the same values: nothing is
lost, added or put in another order, apart from suites that are named again. All their files are seen
from one root. What a context reads from disk is therefore known from the settings alone.
-/

namespace TlsSetup

namespace Options

theorem foldl_addSuite (names : List String) : names.foldl addSuite [] = names.eraseDups := by
  induction names using List.reverseRecOn with
  | nil => rfl
  | append_singleton names name ih =>
    rw [List.foldl_append, ih, List.eraseDups_append, List.foldl_cons, List.foldl_nil, addSuite]
    by_cases h : name ∈ names
    · have hmem : names.eraseDups.contains name = true := by simpa using h
      have hrest : [name].removeAll names = [] := by simpa [List.removeAll] using h
      rw [if_pos hmem, hrest, List.eraseDups_nil, List.append_nil]
    · have hmem : ¬ names.eraseDups.contains name = true := by simpa using h
      have hrest : [name].removeAll names = [name] := by simpa [List.removeAll] using h
      rw [if_neg hmem, hrest]
      rfl

private theorem foldl_set_crlPath (o : Options) (paths : List String) :
    (paths.map Setting.crlPath).foldl set o = { o with crlPaths := o.crlPaths ++ paths } := by
  induction paths generalizing o with
  | nil => simp
  | cons path paths ih => simp [ih, set]

private theorem foldl_set_crlValue (o : Options) (values : List Bytes) :
    (values.map Setting.crlValue).foldl set o = { o with crlValues := o.crlValues ++ values } := by
  induction values generalizing o with
  | nil => simp
  | cons value values ih => simp [ih, set]

private theorem foldl_set_keySource (o : Options) (source : Option KeySource) :
    (source.map Setting.keySource).toList.foldl set o =
      { o with keySource := source.or o.keySource } := by
  cases source <;> rfl

private theorem foldl_set_trustSource (o : Options) (source : Option TrustSource) :
    (source.map Setting.trustSource).toList.foldl set o =
      { o with trustSource := source.or o.trustSource } := by
  cases source <;> rfl

end Options

def KeyPair.inFiles (keyPath chainPath : String) : KeyPair := ⟨.path keyPath, .path chainPath⟩

namespace KeySettings

/-- The main pair and then the others, in order. -/
def pairsOf (keyPath certPath : String) (sni : List PairSettings) : List KeyPair :=
  .inFiles keyPath certPath :: sni.map fun pair => .inFiles pair.keyPath pair.certPath

private theorem foldl_add (k : PemKeys) (sni : List PairSettings) :
    sni.foldl (fun k pair => k.add (.path pair.keyPath) (.path pair.certPath)) k =
      { k with pairs := k.pairs ++ sni.map fun pair => .inFiles pair.keyPath pair.certPath } := by
  induction sni generalizing k with
  | nil => simp
  | cons pair sni ih =>
    rw [List.foldl_cons, ih]
    simp [PemKeys.add, KeyPair.inFiles]

private theorem source_pem (env : Environment) (loader : Loader) (keyPath certPath : String)
    (sni : List PairSettings) :
    (pem keyPath certPath sni).source env loader =
      PemKeys.source ⟨pairsOf keyPath certPath sni, loader⟩ := by
  rw [source, foldl_add]
  rfl

private theorem source_pkcs12 (env : Environment) (loader : Loader) (path password : String) :
    (pkcs12 path password).source env loader =
      ArchiveKey.source ⟨.path path, password, loader⟩ := rfl

/-- The files of the identity that is taken where no name has chosen another. -/
def mainFiles : KeySettings → List String
  | pem keyPath certPath _ => [keyPath, certPath]
  | pkcs12 path _ => [path]

/-- The files of all identities, in order. -/
def files : KeySettings → List String
  | pem keyPath certPath sni => keyPath :: certPath :: sni.flatMap fun p => [p.keyPath, p.certPath]
  | pkcs12 path _ => [path]

section

variable (key : KeySettings) (env : Environment) (loader : Loader)

theorem readsInOrder_default :
    ReadsInOrder (key.mainFiles.map (.mk loader)) (key.source env loader).default := by
  cases key with
  | pem keyPath certPath sni =>
    rw [source_pem]
    exact PemKeys.readsInOrder_default (k := ⟨pairsOf keyPath certPath sni, loader⟩) rfl
  | pkcs12 path password =>
    rw [source_pkcs12]
    exact ArchiveKey.readsInOrder_default ⟨.path path, password, loader⟩

theorem readsInOrder_choice :
    ReadsInOrder (key.files.map (.mk loader)) (key.source env loader).choice := by
  cases key with
  | pem keyPath certPath sni =>
    have hpaths : PemKeys.paths ⟨pairsOf keyPath certPath sni, loader⟩ =
        (pem keyPath certPath sni).files := by
      simp [PemKeys.paths, pairsOf, files, KeyPair.inFiles, KeyPair.paths, Material.paths,
        List.flatMap_map]
    rw [source_pem, ← hpaths]
    exact PemKeys.readsInOrder_choice ⟨pairsOf keyPath certPath sni, loader⟩
  | pkcs12 path password =>
    rw [source_pkcs12]
    exact ArchiveKey.readsInOrder_choice ⟨.path path, password, loader⟩

theorem asked_choose {choose : Choice Identity}
    (h : (key.source env loader).choice.outcome = .ok (some choose)) (name : String) :
    (choose name).asked = [] := by
  cases key with
  | pem keyPath certPath sni =>
    rw [source_pem] at h
    exact PemKeys.asked_choose h name
  | pkcs12 path password => exact ArchiveKey.asked_choose h name

end

end KeySettings

namespace TrustSettings

private theorem foldl_add (a : PemAnchors) (caPaths : List String) :
    caPaths.foldl (fun a p => a.add (.path p)) a =
      { a with certificates := a.certificates ++ caPaths.map Material.path } := by
  induction caPaths generalizing a with
  | nil => simp
  | cons path caPaths ih =>
    rw [List.foldl_cons, ih]
    simp [PemAnchors.add]

private theorem source_pem (env : Environment) (loader : Loader) (caPaths : List String) :
    (pem caPaths).source env loader =
      PemAnchors.source ⟨caPaths.map Material.path, loader, env.now⟩ := by
  rw [source, foldl_add]
  rfl

end TrustSettings

namespace Settings

def directory (s : Settings) (env : Environment) : String := s.root.getD env.directory

private theorem loader_eq (s : Settings) (env : Environment) :
    s.loader env = .rooted (s.directory env) env.files := by
  cases h : s.root <;> simp [loader, directory, h, Environment.loader]

/-- The options with the same values, put together by hand. -/
def assembled (s : Settings) (env : Environment) : Options where
  engine := s.engine
  sessionCache := s.sessionCache
  keySource := s.key.map fun
    | .pem keyPath certPath sni => PemKeys.source
        ⟨KeySettings.pairsOf keyPath certPath sni, .rooted (s.directory env) env.files⟩
    | .pkcs12 path password => ArchiveKey.source
        ⟨.path path, password, .rooted (s.directory env) env.files⟩
  trustSource := s.trust.map fun
    | .pem caPaths => PemAnchors.source
        ⟨caPaths.map Material.path, .rooted (s.directory env) env.files, env.now⟩
    | .system => TrustSource.system env
  crlPaths := s.crlPaths
  crlValues := s.crlValues.map Bytes.ofString
  cipherSuites := s.cipherSuites.eraseDups
  protocols := s.protocols
  clientAuth := s.clientAuth
  resources := .rooted (s.directory env) env.files

private theorem keySource_assembled (s : Settings) (env : Environment) :
    (s.assembled env).keySource = s.key.map fun k => k.source env (s.assembled env).resources := by
  refine congrArg (Option.map · s.key) (funext fun k => ?_)
  cases k with
  | pem keyPath certPath sni => exact (KeySettings.source_pem env _ keyPath certPath sni).symm
  | pkcs12 path password => rfl

private theorem trustSource_assembled (s : Settings) (env : Environment) :
    (s.assembled env).trustSource =
      s.trust.map fun t => t.source env (s.assembled env).resources := by
  refine congrArg (Option.map · s.trust) (funext fun t => ?_)
  cases t with
  | pem caPaths => exact (TrustSettings.source_pem env _ caPaths).symm
  | system => rfl

private theorem options_eq_assembled (s : Settings) (env : Environment) :
    s.options env = s.assembled env := by
  have hloader : s.loader env = (s.assembled env).resources := s.loader_eq env
  have hkeys : (s.key.map fun k => Setting.keySource (k.source env (s.loader env))) =
      (s.key.map fun k => k.source env (s.loader env)).map Setting.keySource :=
    (Option.map_map ..).symm
  have htrusts : (s.trust.map fun t => Setting.trustSource (t.source env (s.loader env))) =
      (s.trust.map fun t => t.source env (s.loader env)).map Setting.trustSource :=
    (Option.map_map ..).symm
  have hvalues : (s.crlValues.map fun v => Setting.crlValue (Bytes.ofString v)) =
      (s.crlValues.map Bytes.ofString).map Setting.crlValue := (List.map_map ..).symm
  rw [options, Options.build, hkeys, htrusts, hvalues, hloader, ← keySource_assembled,
    ← trustSource_assembled]
  simp only [List.foldl_append, Options.foldl_set_crlPath, Options.foldl_set_crlValue,
    Options.foldl_set_keySource, Options.foldl_set_trustSource, List.foldl_cons, List.foldl_nil,
    Options.set, Options.default, Options.foldl_addSuite, Option.or_none, List.nil_append]
  rfl

/-- Where a name leads: an absolute one to itself, any other one to a place below the root. -/
def place (s : Settings) (env : Environment) (path : String) : String :=
  if Path.isAbsolute path then path else Path.join (s.directory env) path

private theorem rooted_eq (s : Settings) (env : Environment) :
    Loader.rooted (s.directory env) env.files = ⟨s.place env, env.files⟩ := by
  rw [Loader.rooted, Loader.mk.injEq]
  refine ⟨?_, rfl⟩
  funext path
  rw [place, Path.join]
  split <;> rfl

def mainFiles (s : Settings) : List String := s.key.elim [] KeySettings.mainFiles

/-- The files that an identity is looked for in: a name is held against all of them. -/
def keyFiles (s : Settings) (serverName : Option String) : List String :=
  if serverName.isSome then s.key.elim [] KeySettings.files else s.mainFiles

def trustFiles (s : Settings) : List String :=
  match s.trust with
  | some (.pem caPaths) => caPaths
  | _ => []

/-- Whether the peer is judged by anybody: a list of no files stands for no authorities. -/
def judges (s : Settings) : Bool := s.trust.any (· != .pem [])

/-- The files of a context, in the order in which they are read. -/
def contextFiles (s : Settings) (serverName : Option String) (trustAll : Bool) : List String :=
  (if trustAll then [] else s.trustFiles) ++ (if trustAll || s.judges then s.crlPaths else []) ++
    s.keyFiles serverName

section Files

variable {s : Settings} {env : Environment} {serverName : Option String} {useAlpn trustAll : Bool}
  {role : Role}

private theorem validatorsFor_none (h : s.trust = none) :
    (s.assembled env).validatorsFor serverName = pure none := by
  have hsource : (s.assembled env).trustSource = none := by simp [assembled, h]
  rw [Options.validatorsFor, hsource]

private theorem validatorsFor_pem {caPaths : List String} (h : s.trust = some (.pem caPaths)) :
    (s.assembled env).validatorsFor serverName = (do
      let vs ← (PemAnchors.source ⟨caPaths.map .path, (s.assembled env).resources, env.now⟩).default
      return vs.filter fun vs => !vs.isEmpty) := by
  have hsource : (s.assembled env).trustSource =
      some (PemAnchors.source ⟨caPaths.map .path, (s.assembled env).resources, env.now⟩) := by
    simp [assembled, h]
  rw [Options.validatorsFor, hsource]
  cases serverName <;> rfl

private theorem validatorsFor_system (h : s.trust = some .system) :
    (s.assembled env).validatorsFor serverName =
      pure (some [Validator.platform env.now env.authorities]) := by
  have hsource : (s.assembled env).trustSource = some (TrustSource.system env) := by
    simp [assembled, h]
  rw [Options.validatorsFor, hsource]
  cases serverName <;> rfl

private theorem readsInOrder_validatorsFor :
    ReadsInOrder (s.trustFiles.map (.mk (s.assembled env).resources))
      ((s.assembled env).validatorsFor serverName) := by
  rw [trustFiles]
  cases htrust : s.trust with
  | none =>
    rw [validatorsFor_none htrust]
    exact .of_silent rfl
  | some t =>
    cases t with
    | system =>
      rw [validatorsFor_system htrust]
      exact .of_silent rfl
    | pem caPaths =>
      rw [validatorsFor_pem htrust]
      have hpaths : ∀ now, PemAnchors.paths ⟨caPaths.map .path, (s.assembled env).resources, now⟩ =
          caPaths := by
        intro now
        simp [PemAnchors.paths, List.flatMap_map, Material.paths]
      have hdefault := PemAnchors.readsInOrder_default
        ⟨caPaths.map .path, (s.assembled env).resources, env.now⟩
      rw [hpaths] at hdefault
      exact hdefault.bind_silent fun _ => rfl

private theorem isSome_of_validatorsFor {answer : Option (List Validator)}
    (h : ((s.assembled env).validatorsFor serverName).outcome = .ok answer) :
    answer.isSome = s.judges := by
  rw [judges]
  cases htrust : s.trust with
  | none =>
    rw [validatorsFor_none htrust] at h
    cases h
    rfl
  | some t =>
    cases t with
    | system =>
      rw [validatorsFor_system htrust] at h
      cases h
      rfl
    | pem caPaths =>
      rw [validatorsFor_pem htrust] at h
      obtain ⟨found, hfound, hanswer⟩ := Attempt.outcome_bind_eq_ok.mp h
      obtain rfl := Attempt.outcome_pure_eq_ok.mp hanswer
      cases caPaths with
      | nil =>
        cases hfound
        rfl
      | cons path rest =>
        obtain ⟨certificates, -, hstore⟩ := Attempt.outcome_bind_eq_ok.mp hfound
        obtain rfl := Attempt.outcome_pure_eq_ok.mp hstore
        rfl

private theorem readsInOrder_trustFor : ReadsInOrder
    (((if trustAll then [] else s.trustFiles) ++
      (if trustAll || s.judges then s.crlPaths else [])).map (.mk (s.assembled env).resources))
    ((s.assembled env).trustFor serverName trustAll) := by
  have hlists := (s.assembled env).readsInOrder_revocationLists
  cases trustAll with
  | true =>
    change ReadsInOrder ([] ++ _) _
    refine ReadsInOrder.bind (.of_silent rfl) fun _ _ => ?_
    exact hlists.bind_silent fun _ => rfl
  | false =>
    rw [List.map_append]
    refine readsInOrder_validatorsFor.bind fun answer hanswer => ?_
    rw [← isSome_of_validatorsFor hanswer]
    cases answer with
    | none => exact .of_silent rfl
    | some vs => exact hlists.bind_silent fun _ => rfl

private theorem readsInOrder_identityFor :
    ∃ again, (again = [] ∨ serverName ≠ none ∧ again = s.mainFiles) ∧
    ReadsInOrder ((s.keyFiles serverName ++ again).map (.mk (s.assembled env).resources))
      ((s.assembled env).identityFor serverName) := by
  rw [Options.identityFor, keySource_assembled, keyFiles, mainFiles]
  cases s.key with
  | none => exact ⟨[], .inl rfl, by cases serverName <;> exact .of_silent rfl⟩
  | some key =>
    have hdefault := key.readsInOrder_default env (s.assembled env).resources
    cases serverName with
    | none =>
      refine ⟨[], .inl rfl, ?_⟩
      rw [List.append_nil]
      exact hdefault
    | some name =>
      have hchoice := key.readsInOrder_choice env (s.assembled env).resources
      obtain ⟨again, hagain, hreads⟩ := Source.readsInOrder_ask hchoice hdefault
        (fun _ h => key.asked_choose env (s.assembled env).resources h)
        (fun name identity => Logged.asked_note .debug "using per-name key material"
          [("server_name", name), ("subject", identity.holder.subject)])
        (fun name => Logged.asked_note .debug "no per-name key material, using default"
          [("server_name", name)]) name
      rcases hagain with rfl | rfl
      · refine ⟨[], .inl rfl, ?_⟩
        rw [List.map_append]
        exact hreads
      · refine ⟨key.mainFiles, .inr ⟨Option.some_ne_none name, rfl⟩, ?_⟩
        rw [List.map_append]
        exact hreads

/-- A context reads its files in order. With a name to choose by, those of the main identity come once
more if no identity was chosen. -/
theorem readsInOrder_contextFor : ∃ again, (again = [] ∨ serverName ≠ none ∧ again = s.mainFiles) ∧
    ReadsInOrder ((s.contextFiles serverName trustAll ++ again).map (.mk ⟨s.place env, env.files⟩))
      ((s.assembled env).contextFor serverName useAlpn role trustAll) := by
  obtain ⟨again, hagain, hidentity⟩ : ∃ again, (again = [] ∨ serverName ≠ none ∧ again = s.mainFiles) ∧
      ReadsInOrder ((s.keyFiles serverName ++ again).map (.mk (s.assembled env).resources))
        ((s.assembled env).identityFor serverName) := readsInOrder_identityFor
  refine ⟨again, hagain, ?_⟩
  have hresources : (s.assembled env).resources = ⟨s.place env, env.files⟩ := s.rooted_eq env
  have hcredentials : ReadsInOrder
      ((s.contextFiles serverName trustAll ++ again).map (.mk (s.assembled env).resources))
      ((s.assembled env).credentialsFor serverName trustAll) := by
    rw [contextFiles, List.append_assoc, List.map_append]
    exact readsInOrder_trustFor.bind fun trust _ => hidentity.bind_silent fun _ => rfl
  rw [hresources] at hcredentials
  refine ReadsInOrder.bind (.of_silent rfl) fun _ _ => ?_
  rw [← List.append_nil (List.map _ _)]
  refine (hcredentials.noting fun _ => rfl).bind fun c _ => ?_
  refine ReadsInOrder.noting (.of_silent ?_) fun _ => rfl
  exact Options.asked_assemble c

end Files

/-- Settings stand for the options that are put together from their values by hand, so that contexts
from the two are the same. Suites that are named again are dropped. The main pair comes first, so it is
the identity that is taken without a name. Every file of a context is seen from the root, or from where
the program runs if there is none, unless its name is absolute. -/
theorem options_stand_for_settings (s : Settings) (env : Environment) (serverName : Option String)
    (useAlpn : Bool) (role : Role) (trustAll : Bool) :
    let o := s.options env
    let loader : Loader := ⟨s.place env, env.files⟩
    (o.engine = s.engine ∧ o.sessionCache = s.sessionCache ∧ o.clientAuth = s.clientAuth ∧
      o.protocols = s.protocols) ∧
    (o.cipherSuites = s.cipherSuites.eraseDups ∧ o.crlPaths = s.crlPaths ∧
      o.crlValues = s.crlValues.map Bytes.ofString) ∧
    (o.keySource.isSome = s.key.isSome ∧ o.trustSource.isSome = s.trust.isSome) ∧
    (∀ keyPath certPath sni, s.key = some (.pem keyPath certPath sni) →
      o.keySource = some (PemKeys.source ⟨.inFiles keyPath certPath ::
        sni.map fun pair => .inFiles pair.keyPath pair.certPath, loader⟩) ∧
      o.identityFor none = do return some (← (KeyPair.inFiles keyPath certPath).load loader)) ∧
    (∃ again, (again = [] ∨ serverName ≠ none ∧ again = s.mainFiles) ∧
      ReadsInOrder ((s.contextFiles serverName trustAll ++ again).map (.mk loader))
        (o.contextFor serverName useAlpn role trustAll)) ∧
    o.contextFor serverName useAlpn role trustAll =
      (s.assembled env).contextFor serverName useAlpn role trustAll := by
  intro o loader
  have ho : o = s.assembled env := s.options_eq_assembled env
  have hloader : o.resources = loader := by
    rw [ho]
    exact s.rooted_eq env
  have hkey : o.keySource = s.key.map fun k => k.source env loader := by
    rw [← hloader, ho]
    exact s.keySource_assembled env
  have htrust : o.trustSource = s.trust.map fun t => t.source env loader := by
    rw [← hloader, ho]
    exact s.trustSource_assembled env
  refine ⟨by simp [ho, assembled], by simp [ho, assembled], by simp [hkey, htrust], ?_, ?_, by rw [ho]⟩
  · intro keyPath certPath sni hpem
    have hsource : o.keySource = some (PemKeys.source
        ⟨KeySettings.pairsOf keyPath certPath sni, loader⟩) := by
      rw [hkey, hpem, Option.map_some, KeySettings.source_pem]
    refine ⟨hsource, ?_⟩
    rw [Options.identityFor, hsource]
    rfl
  · rw [ho]
    exact readsInOrder_contextFor

theorem options_stand_for_settings_pairs :
    let sni : List PairSettings := [⟨"other.key", "/etc/other.pem"⟩]
    let s : Settings := { root := some "/srv", key := some (.pem "server.key" "server.pem" sni) }
    let o := s.options diskEnvironment
    o.identityFor none = (do return some (← (KeyPair.inFiles "server.key" "server.pem").load
      ⟨s.place diskEnvironment, diskEnvironment.files⟩)) ∧
    (o.contextFor none false .server false).asked = [.asked "disk /srv/server.key"] ∧
    (s.contextFiles (some "localhost") false).map (s.place diskEnvironment) =
      ["/srv/server.key", "/srv/server.pem", "/srv/other.key", "/etc/other.pem"] := by
  intro sni s o
  have h := options_stand_for_settings s diskEnvironment none false .server false
  exact ⟨(h.2.2.2.1 "server.key" "server.pem" sni rfl).2, rfl, by decide⟩

end Settings

end TlsSetup
