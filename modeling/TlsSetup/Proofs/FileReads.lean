import TlsSetup.Proofs.Stages

/-!
# Which files are read

An attempt that asks nothing but what reading some files asks is told apart by these files: each of
them is a name together with the loader through which it is read. The creation of a context reads the
files of its sources, each through the loader of its source, and the files with revocation lists,
through the loader of the options.
-/

namespace TlsSetup

variable {α β : Type}

structure FileRead where
  loader : Loader
  path : String

/-- What an observer sees of a file that is read. -/
def FileRead.asked (r : FileRead) : List Event := (r.loader.read (r.loader.locate r.path)).asked

/-- These questions are what is asked when some files are read, all of which are allowed. -/
def AskedByReading (allowed : Loader → String → Prop) (asked : List Event) : Prop :=
  ∃ reads : List FileRead, (∀ r ∈ reads, allowed r.loader r.path) ∧
    asked = reads.flatMap FileRead.asked

theorem AskedByReading.append {allowed : Loader → String → Prop} {asked more : List Event}
    (h : AskedByReading allowed asked) (hmore : AskedByReading allowed more) :
    AskedByReading allowed (asked ++ more) := by
  obtain ⟨reads, hreads, rfl⟩ := h
  obtain ⟨others, hothers, rfl⟩ := hmore
  exact ⟨reads ++ others, List.forall_mem_append.mpr ⟨hreads, hothers⟩, List.flatMap_append.symm⟩

/-- The attempt asks nothing but what is asked when files that are allowed are read. -/
def Reads (allowed : Loader → String → Prop) (x : Attempt α) : Prop :=
  AskedByReading allowed x.asked

/-- Files are read in this order, as far as the attempt gets: all of them unless it fails. -/
def ReadsInOrder (files : List FileRead) (x : Attempt α) : Prop :=
  ∃ read, read <+: files ∧ x.asked = read.flatMap FileRead.asked ∧
    (read = files ∨ ∃ e, x.outcome = .error e)

section Reads

variable {allowed : Loader → String → Prop} {files more : List FileRead} {x : Attempt α}

theorem Reads.of_silent (h : x.asked = []) : Reads allowed x := ⟨[], by simp, h⟩

theorem Reads.bind {f : α → Attempt β} (hx : Reads allowed x)
    (hf : ∀ a, x.outcome = .ok a → Reads allowed (f a)) : Reads allowed (x >>= f) := by
  unfold Reads
  cases h : x.outcome with
  | error e =>
    rw [Attempt.asked_bind_error _ h]
    exact hx
  | ok a =>
    rw [Attempt.asked_bind_ok _ h]
    exact hx.append (hf a h)

theorem Reads.bind_silent {f : α → Attempt β} (hx : Reads allowed x)
    (hf : ∀ a, (f a).asked = []) : Reads allowed (x >>= f) :=
  hx.bind fun a _ => .of_silent (hf a)

theorem Reads.noting {record : Error → Logged Unit} (h : Reads allowed x)
    (hrecord : ∀ e, (record e).asked = []) : Reads allowed (x.noting record) := by
  rw [Reads, Attempt.asked_noting x hrecord]
  exact h

theorem ReadsInOrder.reads (h : ReadsInOrder files x)
    (hallowed : ∀ r ∈ files, allowed r.loader r.path) : Reads allowed x := by
  obtain ⟨read, hinit, hasked, -⟩ := h
  exact ⟨read, fun r hr => hallowed r (hinit.subset hr), hasked⟩

theorem ReadsInOrder.of_silent (h : x.asked = []) : ReadsInOrder [] x :=
  ⟨[], List.prefix_rfl, h, .inl rfl⟩

theorem ReadsInOrder.bind_error {f : α → Attempt β} {e : Error} (hx : ReadsInOrder files x)
    (h : x.outcome = .error e) : ReadsInOrder files (x >>= f) := by
  obtain ⟨read, hinit, hasked, -⟩ := hx
  refine ⟨read, hinit, ?_, .inr ⟨e, Attempt.outcome_bind_error _ h⟩⟩
  rw [Attempt.asked_bind_error _ h, hasked]

theorem ReadsInOrder.bind_ok {f : α → Attempt β} {a : α} (hx : ReadsInOrder files x)
    (h : x.outcome = .ok a) (hf : ReadsInOrder more (f a)) :
    ReadsInOrder (files ++ more) (x >>= f) := by
  obtain ⟨read, hinit, hasked, hall⟩ := hx
  obtain rfl : read = files := by simpa [h] using hall
  obtain ⟨others, hothers, hasked', hall'⟩ := hf
  refine ⟨read ++ others, (List.prefix_append_right_inj _).mpr hothers, ?_, ?_⟩
  · rw [Attempt.asked_bind_ok _ h, hasked, hasked', List.flatMap_append]
  · rw [Attempt.outcome_bind_ok _ h]
    exact hall'.imp_left (congrArg (read ++ ·))

theorem ReadsInOrder.bind {f : α → Attempt β} (hx : ReadsInOrder files x)
    (hf : ∀ a, x.outcome = .ok a → ReadsInOrder more (f a)) :
    ReadsInOrder (files ++ more) (x >>= f) := by
  cases h : x.outcome with
  | error e =>
    obtain ⟨read, hinit, hasked, hfailed⟩ := hx.bind_error (f := f) h
    refine ⟨read, hinit.trans (List.prefix_append ..), hasked, .inr ?_⟩
    exact ⟨e, Attempt.outcome_bind_error _ h⟩
  | ok a => exact hx.bind_ok h (hf a h)

theorem ReadsInOrder.bind_silent {f : α → Attempt β} (hx : ReadsInOrder files x)
    (hf : ∀ a, (f a).asked = []) : ReadsInOrder files (x >>= f) := by
  rw [← List.append_nil files]
  exact hx.bind fun a _ => .of_silent (hf a)

theorem ReadsInOrder.mapM {f : β → Attempt α} {filesOf : β → List FileRead}
    (h : ∀ b, ReadsInOrder (filesOf b) (f b)) (bs : List β) :
    ReadsInOrder (bs.flatMap filesOf) (bs.mapM f) := by
  induction bs with
  | nil => exact .of_silent rfl
  | cons b bs ih =>
    rw [List.mapM_cons, List.flatMap_cons]
    exact (h b).bind fun a _ => ih.bind_silent fun _ => rfl

theorem ReadsInOrder.noting {record : Error → Logged Unit} (h : ReadsInOrder files x)
    (hrecord : ∀ e, (record e).asked = []) : ReadsInOrder files (x.noting record) := by
  rw [ReadsInOrder, Attempt.asked_noting x hrecord, Attempt.outcome_noting]
  exact h

end Reads

theorem Loader.readsInOrder_load (l : Loader) (path : String) :
    ReadsInOrder [⟨l, path⟩] (l.load path) := by
  refine ⟨[⟨l, path⟩], List.prefix_rfl, ?_, .inl rfl⟩
  rw [asked_load, List.flatMap_singleton]
  rfl

/-- The file that has to be read for some material, if there is one. -/
def Material.paths : Material → List String
  | .path p => [p]
  | .value _ => []

def KeyPair.paths (pair : KeyPair) : List String := pair.key.paths ++ pair.chain.paths

def PemKeys.paths (k : PemKeys) : List String := k.pairs.flatMap KeyPair.paths

def PemAnchors.paths (a : PemAnchors) : List String := a.certificates.flatMap Material.paths

theorem Material.readsInOrder_load (l : Loader) (m : Material) :
    ReadsInOrder (m.paths.map (.mk l)) (m.load l) := by
  cases m with
  | path p => exact l.readsInOrder_load p
  | value bytes => exact .of_silent rfl

theorem KeyPair.readsInOrder_load (l : Loader) (pair : KeyPair) :
    ReadsInOrder (pair.paths.map (.mk l)) (pair.load l) := by
  rw [paths, List.map_append]
  refine (pair.key.readsInOrder_load l).bind fun key _ => ?_
  exact (pair.chain.readsInOrder_load l).bind_silent fun chain => rfl

namespace PemKeys

variable {k : PemKeys}

theorem readsInOrder_default {pair : KeyPair} {rest : List KeyPair} (h : k.pairs = pair :: rest) :
    ReadsInOrder (pair.paths.map (.mk k.loader)) k.source.default := by
  have hdefault : k.source.default = do return some (← pair.load k.loader) := by simp only [source, h]
  rw [hdefault]
  exact (pair.readsInOrder_load k.loader).bind_silent fun _ => rfl

theorem readsInOrder_choice (k : PemKeys) :
    ReadsInOrder (k.paths.map (.mk k.loader)) k.source.choice := by
  rw [paths, List.map_flatMap]
  exact (ReadsInOrder.mapM (fun pair => pair.readsInOrder_load k.loader) k.pairs).bind_silent
    fun _ => rfl

theorem asked_choose {choose : Choice Identity} (h : k.source.choice.outcome = .ok (some choose))
    (name : String) : (choose name).asked = [] := by
  obtain ⟨identities, -, hchoose⟩ := Attempt.outcome_bind_eq_ok.mp h
  obtain rfl := Option.some.inj (Attempt.outcome_pure_eq_ok.mp hchoose)
  rfl

end PemKeys

namespace ArchiveKey

variable (k : ArchiveKey)

private theorem readsInOrder_load :
    ReadsInOrder (k.archive.paths.map (.mk k.loader)) k.load :=
  (k.archive.readsInOrder_load k.loader).bind_silent fun _ => rfl

theorem readsInOrder_default :
    ReadsInOrder (k.archive.paths.map (.mk k.loader)) k.source.default :=
  k.readsInOrder_load.bind_silent fun _ => rfl

theorem readsInOrder_choice :
    ReadsInOrder (k.archive.paths.map (.mk k.loader)) k.source.choice :=
  k.readsInOrder_load.bind_silent fun _ => rfl

variable {k}

theorem asked_choose {choose : Choice Identity} (h : k.source.choice.outcome = .ok (some choose))
    (name : String) : (choose name).asked = [] := by
  obtain ⟨identity, -, hchoose⟩ := Attempt.outcome_bind_eq_ok.mp h
  obtain rfl := Option.some.inj (Attempt.outcome_pure_eq_ok.mp hchoose)
  rfl

end ArchiveKey

theorem PemAnchors.readsInOrder_default (a : PemAnchors) :
    ReadsInOrder (a.paths.map (.mk a.loader)) a.source.default := by
  change ReadsInOrder _ (if a.certificates.isEmpty then pure none else _)
  split
  case isTrue h =>
    rw [paths, List.isEmpty_iff.mp h]
    exact .of_silent rfl
  case isFalse =>
    have hload : ReadsInOrder (a.paths.map (.mk a.loader)) a.load := by
      rw [paths, List.map_flatMap]
      refine ReadsInOrder.bind_silent (ReadsInOrder.mapM (fun m => ?_) a.certificates) fun _ => rfl
      exact (m.readsInOrder_load a.loader).bind_silent fun _ => rfl
    exact hload.bind_silent fun _ => rfl

/-- A source that is asked for a name makes its choice, and may come to its default after that. -/
theorem Source.readsInOrder_ask {s : Source α} {files main : List FileRead}
    {found : String → α → Logged Unit} {missing : String → Logged Unit}
    (hchoice : ReadsInOrder files s.choice) (hdefault : ReadsInOrder main s.default)
    (hchoose : ∀ choose, s.choice.outcome = .ok (some choose) → ∀ name, (choose name).asked = [])
    (hfound : ∀ name a, (found name a).asked = []) (hmissing : ∀ name, (missing name).asked = [])
    (name : String) :
    ∃ again, (again = [] ∨ again = main) ∧
      ReadsInOrder (files ++ again) (s.ask found missing (some name)) := by
  have hmiss : ReadsInOrder ([] ++ main) (do missing name; s.default : Attempt (Option α)) := by
    refine ReadsInOrder.bind (.of_silent ?_) fun _ _ => hdefault
    rw [Attempt.asked_lift, hmissing]
  have hhit : ∀ a, ReadsInOrder [] (do found name a; return some a : Attempt (Option α)) := by
    intro a
    refine .of_silent ?_
    rw [Attempt.asked_bind_of_silent _ fun _ => rfl, Attempt.asked_lift, hfound]
  cases hs : s.choice.outcome with
  | error e =>
    refine ⟨[], .inl rfl, ?_⟩
    rw [List.append_nil]
    exact hchoice.bind_error hs
  | ok choice =>
    cases choice with
    | none => exact ⟨main, .inr rfl, hchoice.bind_ok hs hdefault⟩
    | some choose =>
      have hname : ReadsInOrder [] (choose name) := .of_silent (hchoose choose hs name)
      cases hanswer : (choose name).outcome with
      | error e => exact ⟨[], .inl rfl, hchoice.bind_ok hs (hname.bind_error hanswer)⟩
      | ok answer =>
        cases answer with
        | none => exact ⟨main, .inr rfl, hchoice.bind_ok hs (hname.bind_ok hanswer hmiss)⟩
        | some a => exact ⟨[], .inl rfl, hchoice.bind_ok hs (hname.bind_ok hanswer (hhit a))⟩

section Sources

variable {allowed : Loader → String → Prop}

/-- Everything that a source is asked is answered by reading files that are allowed. -/
structure Source.Reads (s : Source α) (allowed : Loader → String → Prop) : Prop where
  default : TlsSetup.Reads allowed s.default
  choice : TlsSetup.Reads allowed s.choice
  choose : ∀ choose, s.choice.outcome = .ok (some choose) →
    ∀ name, TlsSetup.Reads allowed (choose name)

theorem ReadsInOrder.reads_map {l : Loader} {paths : List String} {x : Attempt α}
    (h : ReadsInOrder (paths.map (.mk l)) x) (hallowed : ∀ p ∈ paths, allowed l p) :
    Reads allowed x := by
  refine h.reads fun r hr => ?_
  obtain ⟨p, hp, rfl⟩ := List.mem_map.mp hr
  exact hallowed p hp

theorem PemKeys.reads_source {k : PemKeys} (h : ∀ p ∈ k.paths, allowed k.loader p) :
    k.source.Reads allowed where
  default := by
    cases hk : k.pairs with
    | nil =>
      have hnone : k.source.default = pure none := by simp [source, hk]
      exact .of_silent (by rw [hnone]; rfl)
    | cons pair rest =>
      refine (readsInOrder_default hk).reads_map fun p hp => h p ?_
      rw [paths, hk]
      exact List.mem_append_left _ hp
  choice := k.readsInOrder_choice.reads_map h
  choose _ hchoice name := .of_silent (asked_choose hchoice name)

theorem ArchiveKey.reads_source {k : ArchiveKey} (h : ∀ p ∈ k.archive.paths, allowed k.loader p) :
    k.source.Reads allowed where
  default := k.readsInOrder_default.reads_map h
  choice := k.readsInOrder_choice.reads_map h
  choose _ hchoice name := .of_silent (asked_choose hchoice name)

theorem PemAnchors.reads_source {a : PemAnchors} (h : ∀ p ∈ a.paths, allowed a.loader p) :
    a.source.Reads allowed where
  default := a.readsInOrder_default.reads_map h
  choice := .of_silent rfl
  choose := nofun

theorem Source.Chooses.askedByReading {s : Source α} {counts : α → Bool} {name : Option String}
    {chosen : Except Error (Option α)} {asked : List Event} (hs : s.Reads allowed)
    (h : s.Chooses counts name chosen asked) : AskedByReading allowed asked := by
  cases h with
  | unnamed => exact hs.default
  | choice_fails hchoice => exact hs.choice
  | no_choice hchoice => exact hs.choice.append hs.default
  | name_fails hchoice hname => exact hs.choice.append (hs.choose _ hchoice _)
  | hit hchoice hname hcounts => exact hs.choice.append (hs.choose _ hchoice _)
  | miss hchoice hname hcounts =>
    exact (hs.choice.append (hs.choose _ hchoice _)).append hs.default

end Sources

namespace Options

variable {o : Options} {allowed : Loader → String → Prop} {serverName : Option String}
  {useAlpn trustAll : Bool} {role : Role}

theorem readsInOrder_revocationLists (o : Options) :
    ReadsInOrder (o.crlPaths.map (.mk o.resources)) o.revocationLists := by
  unfold revocationLists
  split
  case isTrue =>
    have hfiles : ReadsInOrder (o.crlPaths.flatMap fun path => [⟨o.resources, path⟩])
        (o.crlPaths.mapM o.listsOfFile) := ReadsInOrder.mapM
      (fun path => (o.resources.readsInOrder_load path).bind_silent fun _ => rfl) o.crlPaths
    rw [List.map_eq_flatMap, ← List.append_nil (List.flatMap _ _)]
    refine hfiles.bind fun files _ => ?_
    have hvalues : ReadsInOrder (o.crlValues.flatMap fun _ => [])
        (o.crlValues.mapM fun v => Attempt.ofExcept (X509.RevocationList.parseAll v)) :=
      ReadsInOrder.mapM (fun _ => .of_silent rfl) o.crlValues
    rw [List.flatMap_eq_nil_iff.mpr fun _ _ => rfl] at hvalues
    exact hvalues.bind_silent fun _ => rfl
  case isFalse h =>
    have hnone : o.crlPaths = [] := by simp_all [hasCrls]
    rw [hnone]
    exact .of_silent rfl

/-- Whatever the options have read, for their sources or for the lists, is allowed. -/
structure ReadsFiles (o : Options) (allowed : Loader → String → Prop) : Prop where
  key : ∀ s, o.keySource = some s → s.Reads allowed
  trust : ∀ s, o.trustSource = some s → s.Reads allowed
  lists : ∀ p ∈ o.crlPaths, allowed o.resources p

theorem ReadsFiles.validatorsFor (h : o.ReadsFiles allowed) :
    Reads allowed (o.validatorsFor serverName) := by
  cases hs : o.trustSource with
  | none =>
    rw [Options.validatorsFor, hs]
    exact .of_silent rfl
  | some s =>
    obtain ⟨chosen, hchooses, -⟩ := chooses_validatorsFor hs serverName
    exact hchooses.askedByReading (h.trust s hs)

theorem ReadsFiles.identityFor (h : o.ReadsFiles allowed) :
    Reads allowed (o.identityFor serverName) := by
  cases hs : o.keySource with
  | none =>
    rw [Options.identityFor, hs]
    exact .of_silent rfl
  | some s => exact (chooses_identityFor hs serverName).askedByReading (h.key s hs)

theorem ReadsFiles.credentialsFor (h : o.ReadsFiles allowed) :
    Reads allowed (o.credentialsFor serverName trustAll) := by
  have hlists : Reads allowed o.revocationLists := o.readsInOrder_revocationLists.reads_map h.lists
  have htrust : Reads allowed (o.trustFor serverName trustAll) := by
    cases trustAll with
    | true =>
      refine Reads.bind (.of_silent rfl) fun _ _ => ?_
      exact hlists.bind_silent fun _ => rfl
    | false =>
      refine h.validatorsFor.bind fun answer _ => ?_
      cases answer with
      | none => exact .of_silent rfl
      | some vs => exact hlists.bind_silent fun _ => rfl
  exact htrust.bind fun trust _ => h.identityFor.bind_silent fun _ => rfl

theorem asked_assemble (c : Credentials) : (o.assemble role useAlpn c).asked = [] := by
  have htakes : Takes (o.assemble role useAlpn c) (o.assemblySteps useAlpn role c) :=
    takes_assemble c
  rw [htakes.asked]
  simp [assemblySteps, Steps.asked, Step.check, protocolStep, engineStep]

/-- Nothing is asked for a context but the files of its options. -/
theorem ReadsFiles.contextFor (h : o.ReadsFiles allowed) :
    Reads allowed (o.contextFor serverName useAlpn role trustAll) := by
  refine Reads.bind (.of_silent rfl) fun _ _ => ?_
  refine (h.credentialsFor.noting fun _ => rfl).bind fun c _ => ?_
  have hassemble : Reads allowed (o.assemble role useAlpn c) := .of_silent (asked_assemble c)
  exact hassemble.noting fun _ => rfl

end Options

end TlsSetup
