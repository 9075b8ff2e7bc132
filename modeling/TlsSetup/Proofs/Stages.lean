import TlsSetup.Proofs.Creation
import TlsSetup.Proofs.Precedence
import TlsSetup.Proofs.Protocols

/-!
# The stages of the creation of a context

A context is created in stages: validators are chosen, revocation lists are read, an identity is
chosen, it is checked that a server has one, the protocols are checked, and the engine makes its
object. Every stage is a list of steps, each of which asks a collaborator or checks something. The
first step that fails is the last one that is taken, and its failure is the outcome.
-/

namespace TlsSetup

open X509

inductive Stage where
  | trust
  | lists
  | identity
  | mandatoryIdentity
  | protocols
  | engine
  deriving DecidableEq, Repr

def Stage.rank : Stage → Nat
  | .trust => 0
  | .lists => 1
  | .identity => 2
  | .mandatoryIdentity => 3
  | .protocols => 4
  | .engine => 5

/-- Why a result is none, if it is none. -/
def faultOf {α : Type} : Except Error α → Option Error
  | .ok _ => none
  | .error e => some e

theorem faultOf_eq_some_iff {α : Type} {x : Except Error α} {e : Error} :
    faultOf x = some e ↔ x = .error e := by
  cases x <;> simp [faultOf]

/-- One step of a stage: what is asked, and why the step fails if it does. -/
structure Step where
  stage : Stage
  asked : List Event
  fault : Option Error

/-- Asking a collaborator, as a step of a stage. -/
def Step.of {α : Type} (stage : Stage) (x : Attempt α) : Step := ⟨stage, x.asked, faultOf x.outcome⟩

/-- Checking something without asking anybody, as a step of a stage. -/
def Step.check {α : Type} (stage : Stage) (x : Except Error α) : Step := ⟨stage, [], faultOf x⟩

namespace Steps

/-- The failure of steps in a row: that of the first one that fails. -/
def fault (steps : List Step) : Option Error := steps.findSome? Step.fault

/-- What is asked by steps in a row, of which the first one that fails is the last. -/
def asked : List Step → List Event
  | [] => []
  | s :: rest => s.asked ++ if s.fault.isSome then [] else asked rest

variable {ss ts : List Step}

private theorem fault_append : fault (ss ++ ts) = (fault ss).or (fault ts) := List.findSome?_append

private theorem asked_append :
    asked (ss ++ ts) = asked ss ++ if (fault ss).isSome then [] else asked ts := by
  induction ss with
  | nil => rfl
  | cons s ss ih =>
    rw [List.cons_append, asked, asked, ih]
    cases hs : s.fault <;> simp [fault, hs]

private theorem fault_of_ok {α : Type} {x : Attempt α} {a : α} (h : x.outcome = .ok a)
    (stage : Stage) :
    fault (.of stage x :: ss) = fault ss := by
  rw [fault, List.findSome?_cons, Step.of, h]
  rfl

private theorem asked_of_ok {α : Type} {x : Attempt α} {a : α} (h : x.outcome = .ok a)
    (stage : Stage) :
    asked (.of stage x :: ss) = x.asked ++ asked ss := by
  rw [asked, Step.of, h]
  rfl

private theorem fault_of_error {α : Type} {x : Attempt α} {e : Error} (h : x.outcome = .error e)
    (stage : Stage) : fault (.of stage x :: ss) = some e := by
  rw [fault, List.findSome?_cons, Step.of, h]
  rfl

private theorem asked_of_error {α : Type} {x : Attempt α} {e : Error} (h : x.outcome = .error e)
    (stage : Stage) : asked (.of stage x :: ss) = x.asked := by
  rw [asked, Step.of, h]
  exact List.append_nil _

/-- No step belongs to an earlier stage than one before it. -/
def InOrder (steps : List Step) : Prop := steps.Pairwise fun s t => s.stage.rank ≤ t.stage.rank

private theorem inOrder_of_stage {stage : Stage} (h : ∀ s ∈ ss, s.stage = stage) : InOrder ss := by
  apply List.pairwise_of_forall_mem_list
  intro s hs t ht
  rw [h s hs, h t ht]

/-- The steps are in order, and none belongs to a stage before the given place. -/
def InOrderFrom (rank : Nat) (steps : List Step) : Prop :=
  InOrder steps ∧ ∀ s ∈ steps, rank ≤ s.stage.rank

theorem InOrderFrom.append {rank : Nat} (hts : InOrderFrom rank ts) (stage : Stage)
    (ss : List Step) (hss : ∀ s ∈ ss, s.stage = stage) (hle : stage.rank ≤ rank) :
    InOrderFrom stage.rank (ss ++ ts) := by
  have hlater : ∀ t ∈ ts, stage.rank ≤ t.stage.rank := fun t ht => hle.trans (hts.2 t ht)
  constructor
  · refine List.pairwise_append.mpr ⟨inOrder_of_stage hss, hts.1, fun s hs t ht => ?_⟩
    rw [hss s hs]
    exact hlater t ht
  · intro s hs
    rcases List.mem_append.mp hs with hs | hs
    · rw [hss s hs]
    · exact hlater s hs

end Steps

/-- An attempt takes steps in a row: it fails as they do, and asks what they ask. -/
structure Takes {α : Type} (x : Attempt α) (steps : List Step) : Prop where
  fault : faultOf x.outcome = Steps.fault steps
  asked : x.asked = Steps.asked steps

section Takes

variable {α β : Type} {x : Attempt α} {ss ts : List Step}

private theorem takes_pure (a : α) : Takes (pure a) [] := ⟨rfl, Attempt.asked_pure a⟩

private theorem takes_note (level : Level) (message : String) (fields : List (String × String)) :
    Takes (liftM (Logged.note level message fields) : Attempt Unit) [] := by
  constructor
  · rfl
  · rw [Attempt.asked_lift, Logged.asked_note]
    rfl

private theorem takes_step (s : Step) (hfault : faultOf x.outcome = s.fault)
    (hasked : x.asked = s.asked) :
    Takes x [s] := by
  constructor
  · rw [hfault, Steps.fault, List.findSome?_cons]
    cases s.fault <;> rfl
  · simp [hasked, Steps.asked]

private theorem takes_check (stage : Stage) (x : Except Error α) :
    Takes (Attempt.ofExcept x) [.check stage x] := takes_step _ rfl (Attempt.asked_ofExcept x)

/-- The steps of what follows come after those of what went before, if that succeeds. -/
theorem Takes.bind {f : α → Attempt β} (hx : Takes x ss)
    (hf : ∀ a, x.outcome = .ok a → Takes (f a) ts) : Takes (x >>= f) (ss ++ ts) := by
  cases h : x.outcome with
  | error e =>
    have hfault : Steps.fault ss = some e := by rw [← hx.fault, h, faultOf]
    constructor
    · rw [Attempt.outcome_bind_error _ h, Steps.fault_append, hfault]
      rfl
    · rw [Attempt.asked_bind_error _ h, Steps.asked_append, hfault, hx.asked]
      exact (List.append_nil _).symm
  | ok a =>
    have hfault : Steps.fault ss = none := by rw [← hx.fault, h, faultOf]
    constructor
    · rw [Attempt.outcome_bind_ok _ h, Steps.fault_append, hfault, (hf a h).fault]
      rfl
    · rw [Attempt.asked_bind_ok _ h, Steps.asked_append, hfault, hx.asked, (hf a h).asked]
      rfl

theorem Takes.bind_silent {f : α → Attempt β} (hx : Takes x ss) (hf : ∀ a, Takes (f a) []) :
    Takes (x >>= f) ss := by
  rw [← List.append_nil ss]
  exact hx.bind fun a _ => hf a

theorem Takes.of_passed {stage : Stage} (hx : Takes x ss) :
    Takes x (.check stage (.ok ()) :: ss) := by
  have hpassed : Takes (pure ()) [.check stage (.ok ())] := takes_step _ rfl rfl
  exact hpassed.bind fun _ _ => hx

theorem Takes.mapM {f : β → Attempt α} {steps : β → List Step} (h : ∀ b, Takes (f b) (steps b))
    (bs : List β) : Takes (bs.mapM f) (bs.flatMap steps) := by
  induction bs with
  | nil => exact takes_pure []
  | cons b bs ih =>
    rw [List.mapM_cons, List.flatMap_cons]
    refine (h b).bind fun a _ => ?_
    exact ih.bind_silent fun as => takes_pure (a :: as)

theorem Takes.noting {record : Error → Logged Unit} (h : Takes x ss)
    (hrecord : ∀ e, (record e).asked = []) : Takes (x.noting record) ss :=
  ⟨by rw [Attempt.outcome_noting, h.fault], by rw [Attempt.asked_noting x hrecord, h.asked]⟩

end Takes

namespace Source

variable {α : Type} {s : Source α} {counts : α → Bool} {name : Option String}
  {chosen : Except Error (Option α)} {asked : List Event}

/-- The questions to a source for a server name. What comes after a question that fails is left out. -/
def steps (s : Source α) (stage : Stage) (counts : α → Bool) : Option String → List Step
  | none => [.of stage s.default]
  | some name =>
    .of stage s.choice ::
      match s.choice.outcome with
      | .error _ => []
      | .ok none => [.of stage s.default]
      | .ok (some choose) =>
        .of stage (choose name) ::
          match (choose name).outcome with
          | .error _ => []
          | .ok answer => if (answer.filter counts).isSome then [] else [.of stage s.default]

theorem Chooses.steps (h : s.Chooses counts name chosen asked) (stage : Stage) :
    Steps.fault (s.steps stage counts name) = faultOf chosen ∧
      Steps.asked (s.steps stage counts name) = asked := by
  have hdefault : Takes s.default [.of stage s.default] := takes_step _ rfl rfl
  cases h with
  | unnamed => exact ⟨hdefault.fault.symm, hdefault.asked.symm⟩
  | choice_fails hchoice =>
    rw [Source.steps, Steps.fault_of_error hchoice, Steps.asked_of_error hchoice]
    exact ⟨rfl, rfl⟩
  | no_choice hchoice =>
    rw [Source.steps, Steps.fault_of_ok hchoice, Steps.asked_of_ok hchoice, hchoice,
      hdefault.fault, hdefault.asked]
    exact ⟨rfl, rfl⟩
  | name_fails hchoice hname =>
    rw [Source.steps, Steps.fault_of_ok hchoice, Steps.asked_of_ok hchoice, hchoice]
    exact ⟨Steps.fault_of_error hname stage,
      congrArg (s.choice.asked ++ ·) (Steps.asked_of_error hname stage)⟩
  | hit hchoice hname hcounts =>
    rw [Source.steps, Steps.fault_of_ok hchoice, Steps.asked_of_ok hchoice, hchoice]
    simp only [Steps.fault_of_ok hname, Steps.asked_of_ok hname, hname, Option.filter_some, hcounts]
    exact ⟨rfl, congrArg _ (List.append_nil _)⟩
  | miss hchoice hname hcounts =>
    rw [Source.steps, Steps.fault_of_ok hchoice, Steps.asked_of_ok hchoice, hchoice]
    simp only [Steps.fault_of_ok hname, Steps.asked_of_ok hname, hname, hcounts]
    rw [List.append_assoc, hdefault.asked]
    exact ⟨hdefault.fault.symm, rfl⟩

end Source

namespace Options

variable (o : Options) (serverName : Option String) (useAlpn : Bool) (role : Role) (trustAll : Bool)

/-- The questions by which validators are chosen: none if everybody is trusted or there is no source. -/
def trustSteps : List Step :=
  if trustAll then []
  else
    match o.trustSource with
    | none => []
    | some s => s.steps .trust (fun vs => !vs.isEmpty) serverName

def parseStep (bytes : Bytes) : Step := .check .lists (RevocationList.parseAll bytes)

/-- Reading the file to which a name leads, once; a fault names that place. -/
def readStep (path : String) : Step where
  stage := .lists
  asked := (o.resources.read (o.resources.locate path)).asked
  fault :=
    match (o.resources.read (o.resources.locate path)).value with
    | .ok _ => none
    | .error fault => some (.io (o.resources.locate path) fault)

/-- A file is read, and its lists are taken before anything else is done. -/
def fileSteps (path : String) : List Step :=
  o.readStep path ::
    match (o.resources.read (o.resources.locate path)).value with
    | .ok bytes => [parseStep bytes]
    | .error _ => []

/-- Every configured file in order, and then every configured value in order. -/
def listSteps : List Step := o.crlPaths.flatMap o.fileSteps ++ o.crlValues.map parseStep

/-- Whether there is anybody who could have a use for revocation lists: everybody is trusted, or a set
of validators was found. -/
def wantsLists : Bool :=
  trustAll ||
    match (o.validatorsFor serverName).outcome with
    | .ok (some _) => true
    | _ => false

/-- The questions by which an identity is chosen: none if there is no source. -/
def identitySteps : List Step :=
  match o.keySource with
  | none => []
  | some s => s.steps .identity (fun _ => true) serverName

def mandatoryIdentity (identity : Option Identity) : Except Error Unit :=
  if role.isServer && identity.isNone then .error (.config .keyMandatory) else .ok ()

/-- The protocols that a context negotiates, if that is wanted and there are any. -/
def negotiated? : Option AlpnConfig :=
  if useAlpn = true ∧ o.protocols ≠ [] then
    some ⟨o.protocols, (alpnFailures o.engine).1, (alpnFailures o.engine).2⟩
  else none

/-- Checking the names of the protocols that are to be negotiated: the first one that does not have
from 1 to 255 bytes is the fault. -/
def protocolStep : Step where
  stage := .protocols
  asked := []
  fault :=
    if useAlpn then
      (o.protocols.find? fun p => ¬ Alpn.Fits p).map fun p =>
        .config (.protocolLength p.utf8ByteSize)
    else none

/-- The engine makes its object, and asks nobody. -/
def engineStep (engine : Engine) (r : EngineRequest) : Step where
  stage := .engine
  asked := []
  fault :=
    match engine, r.role with
    | .openssl, _ => faultOf (OpensslContext.build r)
    | .rustls, .server => faultOf (Rustls.buildServer r)
    | .rustls, .client => faultOf (Rustls.buildClient r)

/-- What is done with the credentials: two checks, and then the engine makes its object. -/
def assemblySteps (c : Credentials) : List Step :=
  [.check .mandatoryIdentity (mandatoryIdentity role c.identity), o.protocolStep useAlpn,
    engineStep o.engine (o.engineRequest role (o.negotiated? useAlpn) c)]

/-- All steps by which a context is created. What needs the result of a step that fails is left out,
for it comes later. -/
def steps : List Step :=
  o.trustSteps serverName trustAll ++
    (if o.wantsLists serverName trustAll then o.listSteps else []) ++
      o.identitySteps serverName ++
        match (o.credentialsFor serverName trustAll).outcome with
        | .error _ => []
        | .ok c => o.assemblySteps useAlpn role c

end Options

theorem Loader.outcome_load (l : Loader) (path : String) :
    (l.load path).outcome = (l.read (l.locate path)).value.mapError (.io (l.locate path)) := by
  change (bind (l.read (l.locate path)) _ : Logged _).value = _
  rw [Logged.value_bind]
  cases (l.read (l.locate path)).value <;> rfl

theorem Loader.asked_load (l : Loader) (path : String) :
    (l.load path).asked = (l.read (l.locate path)).asked := by
  change (bind (l.read (l.locate path)) _ : Logged _).asked = _
  rw [Logged.asked_bind]
  cases (l.read (l.locate path)).value <;> exact List.append_nil _

namespace Options

variable {o : Options} {serverName : Option String} {useAlpn : Bool} {role : Role} {trustAll : Bool}

private theorem takes_validatorsFor :
    Takes (o.validatorsFor serverName) (o.trustSteps serverName false) := by
  cases hs : o.trustSource with
  | none =>
    rw [validatorsFor, trustSteps, hs]
    exact takes_pure none
  | some s =>
    obtain ⟨chosen, hchooses, houtcome⟩ := chooses_validatorsFor hs serverName
    obtain ⟨hfault, hasked⟩ := hchooses.steps .trust
    rw [trustSteps, hs]
    refine ⟨?_, hasked.symm⟩
    -- to drop an empty set of validators is no failure
    simp only [Bool.false_eq_true, if_false, hfault, houtcome]
    cases chosen <;> rfl

private theorem takes_load (path : String) : Takes (o.resources.load path) [o.readStep path] := by
  apply takes_step
  · rw [Loader.outcome_load, readStep]
    cases (o.resources.read (o.resources.locate path)).value <;> rfl
  · exact o.resources.asked_load path

private theorem takes_listsOfFile (path : String) :
    Takes (o.listsOfFile path) (o.fileSteps path) := by
  rw [fileSteps, ← List.singleton_append]
  refine (takes_load path).bind fun bytes h => ?_
  rw [Loader.outcome_load] at h
  cases hread : (o.resources.read (o.resources.locate path)).value with
  | error fault =>
    rw [hread] at h
    cases h
  | ok found =>
    rw [hread] at h
    obtain rfl : found = bytes := Except.ok.inj h
    exact takes_check .lists _

private theorem takes_revocationLists : Takes o.revocationLists o.listSteps := by
  unfold revocationLists
  by_cases hc : o.hasCrls = true
  · rw [if_pos hc, listSteps]
    refine (Takes.mapM takes_listsOfFile o.crlPaths).bind fun files _ => ?_
    rw [List.map_eq_flatMap]
    refine (Takes.mapM (fun bytes => takes_check .lists _) o.crlValues).bind_silent fun values => ?_
    exact (takes_note _ _ _).bind_silent fun _ => takes_pure _
  · have hnil : o.crlPaths = [] ∧ o.crlValues = [] := by simpa [hasCrls] using hc
    rw [if_neg hc, listSteps, hnil.1, hnil.2]
    exact takes_pure []

theorem takes_trustFor : Takes (o.trustFor serverName trustAll)
    (o.trustSteps serverName trustAll ++
      if o.wantsLists serverName trustAll then o.listSteps else []) := by
  cases trustAll with
  | true =>
    refine (takes_note _ _ _).bind fun _ _ => ?_
    exact takes_revocationLists.bind_silent fun lists => takes_pure _
  | false =>
    refine takes_validatorsFor.bind fun answer h => ?_
    rw [wantsLists, h]
    cases answer with
    | none => exact (takes_note _ _ _).bind_silent fun _ => takes_pure _
    | some us => exact takes_revocationLists.bind_silent fun lists => takes_pure _

/-- The protocols of a context are those that it negotiates, unless one of their names is at fault. -/
theorem alpnConfig_eq : o.alpnConfig useAlpn =
    match (o.protocolStep useAlpn).fault with
    | some e => .error e
    | none => .ok (o.negotiated? useAlpn) := by
  by_cases h : useAlpn = true ∧ o.protocols ≠ []
  · rw [alpnConfig, if_pos (negotiates_iff.mpr h), AlpnConfig.make_eq, protocolStep, negotiated?,
      if_pos h]
    simp only [h.1, if_true]
    cases o.protocols.find? fun p => ¬ Alpn.Fits p <;> rfl
  · rw [alpnConfig, if_neg (negotiates_iff.not.mpr h), protocolStep, negotiated?, if_neg h]
    cases useAlpn with
    | false => rfl
    | true =>
      have hnil : o.protocols = [] := by simpa using h
      simp [hnil]

private theorem takes_protocols :
    Takes (Attempt.ofExcept (o.alpnConfig useAlpn)) [o.protocolStep useAlpn] := by
  refine takes_step _ ?_ (Attempt.asked_ofExcept _)
  rw [Attempt.outcome_ofExcept, alpnConfig_eq]
  cases (o.protocolStep useAlpn).fault <;> rfl

private theorem negotiated?_of_alpnConfig {alpn : Option AlpnConfig}
    (h : o.alpnConfig useAlpn = .ok alpn) :
    alpn = o.negotiated? useAlpn := by
  rw [alpnConfig_eq] at h
  cases hfault : (o.protocolStep useAlpn).fault with
  | some e => simp [hfault] at h
  | none =>
    rw [hfault] at h
    exact (Except.ok.inj h).symm

private theorem takes_engineContext (engine : Engine) (r : EngineRequest) :
    Takes (engineContext engine r) [engineStep engine r] := by
  cases engine with
  | openssl =>
    have hbuild := takes_check .engine (OpensslContext.build r)
    exact hbuild.bind_silent fun c => takes_pure _
  | rustls =>
    unfold engineContext engineStep
    cases r.role with
    | server =>
      refine (takes_check .engine (Rustls.buildServer r)).bind_silent fun s => ?_
      exact (takes_note _ _ _).bind_silent fun _ => takes_pure _
    | client =>
      refine (takes_check .engine (Rustls.buildClient r)).bind_silent fun s => ?_
      exact (takes_note _ _ _).bind_silent fun _ => takes_pure _

theorem takes_assemble (c : Credentials) :
    Takes (o.assemble role useAlpn c) (o.assemblySteps useAlpn role c) := by
  unfold assemble assemblySteps mandatoryIdentity
  by_cases hmissing : (role.isServer && c.identity.isNone) = true
  · simp only [hmissing, if_true]
    exact ⟨rfl, rfl⟩
  · simp only [hmissing, Bool.false_eq_true, if_false]
    -- without its throw the check leaves nothing behind in the attempt, only a passed step
    apply Takes.of_passed
    refine takes_protocols.bind fun alpn h => ?_
    obtain rfl : alpn = o.negotiated? useAlpn := negotiated?_of_alpnConfig h
    refine (takes_engineContext _ _).bind_silent fun inner => ?_
    exact (takes_note _ _ _).bind_silent fun _ => takes_pure _

end Options

/-- The second file is missing, so it is the last that is read, and nobody is asked for an identity. -/
example (env : Environment) :
    ({ Options.default env with
        crlPaths := ["first", "second", "third"]
        keySource := some ⟨do Logged.ask "key"; return none, return none⟩
        resources := ⟨id, fun path => do
          Logged.ask path
          return if path = "first" then .ok [] else .error .noSuchFile⟩
      }.contextFor none false .client true).asked = [.asked "first", .asked "second"] := rfl

end TlsSetup
