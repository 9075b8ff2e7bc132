import TlsSetup.Error

/-!
# Observable events

Sources, validators and loaders are asked in an order that an observer can see. A computation
therefore yields its value together with the events it caused, and the sequence of two computations
has the events of the first followed by those of the second.
-/

namespace TlsSetup

inductive Level where
  | trace
  | debug
  | warn
  deriving Repr, DecidableEq

def Level.name : Level → String
  | .trace => "TRACE"
  | .debug => "DEBUG"
  | .warn => "WARN"

structure Diagnostic where
  level : Level
  message : String
  fields : List (String × String)
  deriving Repr, DecidableEq

/-- A collaborator was asked, or a diagnostic was written. -/
inductive Event where
  | asked (what : String)
  | diagnostic (record : Diagnostic)
  deriving Repr, DecidableEq

/-- A value and the events that led to it. -/
structure Logged (α : Type) where
  value : α
  events : List Event
  deriving Repr

namespace Logged

instance : Monad Logged where
  pure a := ⟨a, []⟩
  bind x f :=
    let next := f x.value
    ⟨next.value, x.events ++ next.events⟩

@[simp] theorem value_pure {α : Type} (a : α) : (pure a : Logged α).value = a := rfl

@[simp] theorem events_pure {α : Type} (a : α) : (pure a : Logged α).events = [] := rfl

@[simp] theorem value_bind {α β : Type} (x : Logged α) (f : α → Logged β) :
    (x >>= f).value = (f x.value).value := rfl

@[simp] theorem events_bind {α β : Type} (x : Logged α) (f : α → Logged β) :
    (x >>= f).events = x.events ++ (f x.value).events := rfl

@[ext] theorem ext {α : Type} {x y : Logged α} (hv : x.value = y.value)
    (he : x.events = y.events) : x = y := by
  cases x
  cases y
  simp_all

instance : LawfulMonad Logged :=
  LawfulMonad.mk' Logged
    (fun x => by ext1 <;> simp [Functor.map])
    (fun a f => by ext1 <;> simp)
    (fun x f g => by ext1 <;> simp)

def tell (e : Event) : Logged Unit := ⟨(), [e]⟩

def ask (what : String) : Logged Unit := tell (.asked what)

def note (level : Level) (message : String) (fields : List (String × String) := []) :
    Logged Unit :=
  tell (.diagnostic ⟨level, message, fields⟩)

end Logged

/-- A computation that may fail; its events remain after a failure. -/
abbrev Attempt (α : Type) := ExceptT Error Logged α

/-- The answer of a validator to a certificate chain. -/
abbrev Verdict := Except Rejection Unit

namespace Attempt

def outcome {α : Type} (x : Attempt α) : Except Error α := x.run.value

def events {α : Type} (x : Attempt α) : List Event := x.run.events

@[simp] theorem outcome_pure {α : Type} (a : α) : outcome (pure a) = .ok a := rfl

@[simp] theorem events_pure {α : Type} (a : α) : events (pure a) = [] := rfl

@[simp] theorem outcome_throw {α : Type} (e : Error) : outcome (throw e : Attempt α) = .error e := rfl

@[simp] theorem events_throw {α : Type} (e : Error) : events (throw e : Attempt α) = [] := rfl

@[simp] theorem outcome_lift {α : Type} (x : Logged α) :
    outcome (liftM x : Attempt α) = .ok x.value := rfl

@[simp] theorem events_lift {α : Type} (x : Logged α) :
    events (liftM x : Attempt α) = x.events := by
  change x.events ++ [] = x.events
  exact List.append_nil _

theorem outcome_bind {α β : Type} (x : Attempt α) (f : α → Attempt β) :
    outcome (x >>= f) = outcome x >>= fun a => outcome (f a) := by
  change (ExceptT.bindCont f (outcome x)).value = _
  cases outcome x <;> rfl

theorem events_bind_ok {α β : Type} {x : Attempt α} {a : α} (f : α → Attempt β)
    (h : outcome x = .ok a) : events (x >>= f) = events x ++ events (f a) := by
  change events x ++ (ExceptT.bindCont f (outcome x)).events = _
  rw [h]
  rfl

theorem events_bind_error {α β : Type} {x : Attempt α} {e : Error} (f : α → Attempt β)
    (h : outcome x = .error e) : events (x >>= f) = events x := by
  change events x ++ (ExceptT.bindCont f (outcome x)).events = _
  rw [h]
  exact List.append_nil _

/-- A result that is known without asking anyone. -/
def ofExcept {α : Type} (x : Except Error α) : Attempt α := ExceptT.mk (pure x)

@[simp] theorem outcome_ofExcept {α : Type} (x : Except Error α) : outcome (ofExcept x) = x := rfl

@[simp] theorem events_ofExcept {α : Type} (x : Except Error α) : events (ofExcept x) = [] := rfl

/-- Records the failure of `x` and fails in the same way. A stop is not recorded, for there is nobody
left who could. -/
def noting {α : Type} (x : Attempt α) (record : Error → Logged Unit) : Attempt α :=
  ExceptT.mk do
    let result ← x.run
    match result with
    | .ok a => pure (.ok a)
    | .error .nulInText => pure (.error .nulInText)
    | .error e => do record e; pure (.error e)

/-- Runs `x` to its outcome, whatever it is. -/
def settle {α : Type} (x : Attempt α) : Logged (Except Error α) := x.run

end Attempt

end TlsSetup
