import TlsSetup.Event

/-!
# Sources

A source has something to fall back on, and may have a way to choose by the name of the server. What it
chooses for a name comes before what it falls back on, and an error is never a reason to fall back.
-/

namespace TlsSetup

/-- Chooses by the name of the server. -/
abbrev Choice (α : Type) := String → Attempt (Option α)

/-- Gives answers; every answer is asked for anew. -/
structure Source (α : Type) where
  default : Attempt (Option α)
  choice : Attempt (Option (Choice α))

namespace Source

variable {α : Type}

/-- The source in which an answer that does not satisfy `p` counts as none. -/
def filter (p : α → Bool) (s : Source α) : Source α where
  default := do return (← s.default).filter p
  choice := do return (← s.choice).map fun choose name => do return (← choose name).filter p

/-- What a source has for a name, if there is one, or else what it falls back on; `found` and `missing`
record which of the two it was. -/
def ask (s : Source α) (found : String → α → Logged Unit) (missing : String → Logged Unit) :
    Option String → Attempt (Option α)
  | none => s.default
  | some name => do
    match ← s.choice with
    | none => s.default
    | some choose =>
      match ← choose name with
      | some a =>
        found name a
        return some a
      | none =>
        missing name
        s.default

end Source

end TlsSetup
