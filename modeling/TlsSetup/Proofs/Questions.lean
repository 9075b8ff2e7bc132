import TlsSetup.Proofs.Attempt

/-!
# What is asked

An attempt asks its collaborators one question after the other, and writes records in between. Here
only the questions count: those of two attempts in a row follow one another, and after a failure
nothing more is asked.
-/

namespace TlsSetup

variable {α β : Type}

/-- Whether a collaborator was asked, and not just a record written. -/
def Event.isQuestion : Event → Bool
  | .asked _ => true
  | .diagnostic _ => false

/-- What collaborators are asked, in order. -/
def Logged.asked (x : Logged α) : List Event := x.events.filter Event.isQuestion

theorem Logged.asked_bind (x : Logged α) (f : α → Logged β) :
    (x >>= f).asked = x.asked ++ (f x.value).asked := by
  rw [asked, events_bind, List.filter_append]
  rfl

@[simp] theorem Logged.asked_note (level : Level) (message : String)
    (fields : List (String × String)) : (Logged.note level message fields).asked = [] := rfl

namespace Attempt

/-- What collaborators are asked, in order, up to the end of the attempt or its failure. -/
def asked (x : Attempt α) : List Event := Logged.asked x.run

private theorem asked_eq (x : Attempt α) : x.asked = x.events.filter Event.isQuestion := rfl

@[simp] theorem asked_pure (a : α) : asked (pure a) = [] := rfl

@[simp] theorem asked_ofExcept (x : Except Error α) : asked (ofExcept x) = [] := rfl

@[simp] theorem asked_lift (x : Logged α) : asked (liftM x : Attempt α) = x.asked := by
  rw [asked_eq, events_lift]
  rfl

theorem asked_bind_ok {x : Attempt α} {a : α} (f : α → Attempt β) (h : outcome x = .ok a) :
    asked (x >>= f) = asked x ++ asked (f a) := by
  rw [asked_eq, events_bind_ok f h, List.filter_append]
  rfl

theorem asked_bind_error {x : Attempt α} {e : Error} (f : α → Attempt β)
    (h : outcome x = .error e) : asked (x >>= f) = asked x := by
  rw [asked_eq, events_bind_error f h]
  rfl

theorem asked_bind_of_silent (x : Attempt α) {f : α → Attempt β} (hf : ∀ a, asked (f a) = []) :
    asked (x >>= f) = asked x := by
  cases h : outcome x with
  | ok a => rw [asked_bind_ok f h, hf, List.append_nil]
  | error e => exact asked_bind_error f h

theorem outcome_bind_ok {x : Attempt α} {a : α} (f : α → Attempt β) (h : outcome x = .ok a) :
    outcome (x >>= f) = outcome (f a) := by
  rw [outcome_bind, h]
  rfl

theorem outcome_bind_error {x : Attempt α} {e : Error} (f : α → Attempt β)
    (h : outcome x = .error e) : outcome (x >>= f) = .error e := by
  rw [outcome_bind, h]
  rfl

theorem asked_noting (x : Attempt α) {record : Error → Logged Unit}
    (hrecord : ∀ e, (record e).asked = []) : asked (x.noting record) = asked x := by
  change (bind x.run _ : Logged (Except Error α)).asked = x.run.asked
  rw [Logged.asked_bind]
  cases x.run.value with
  | ok a => exact List.append_nil _
  | error e =>
    have hsilent : (do record e; pure (.error e) : Logged (Except Error α)).asked = [] := by
      rw [Logged.asked_bind, hrecord]
      rfl
    -- a stop goes unrecorded, so the failures are told apart before the record is read
    cases e <;> simp only [hsilent, List.append_nil]
    exact List.append_nil _

end Attempt

end TlsSetup
