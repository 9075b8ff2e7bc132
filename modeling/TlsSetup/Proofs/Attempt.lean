import Mathlib
import TlsSetup.Event

/-!
# Attempts that succeed

An attempt in several steps succeeds exactly when every step does.
-/

namespace TlsSetup

variable {α β : Type}

theorem except_bind_eq_ok {ε : Type} {x : Except ε α} {f : α → Except ε β} {b : β} :
    x >>= f = .ok b ↔ ∃ a, x = .ok a ∧ f a = .ok b := by
  cases x with
  | error e => simp [bind, Except.bind]
  | ok a => simp [bind, Except.bind]

theorem except_bind_eq_error {ε : Type} {x : Except ε α} {f : α → Except ε β} {e : ε} :
    x >>= f = .error e ↔ x = .error e ∨ ∃ a, x = .ok a ∧ f a = .error e := by
  cases x with
  | error e' => simp [bind, Except.bind]
  | ok a => simp [bind, Except.bind]

theorem except_map_eq_ok {ε : Type} {x : Except ε α} {f : α → β} {b : β} :
    x.map f = .ok b ↔ ∃ a, x = .ok a ∧ b = f a := by
  cases x with
  | error e => simp [Except.map]
  | ok a => simp [Except.map, eq_comm]

theorem except_pure_eq_ok {ε : Type} {a b : α} : (pure a : Except ε α) = .ok b ↔ b = a := by
  simp [pure, Except.pure, eq_comm]

theorem except_throw_ne_ok {ε : Type} (e : ε) (a : α) : (throw e : Except ε α) ≠ .ok a := nofun

theorem except_mapM_eq_ok {ε : Type} {f : α → Except ε β} {xs : List α} {ys : List β} :
    xs.mapM f = .ok ys ↔ List.Forall₂ (fun x y => f x = .ok y) xs ys := by
  induction xs generalizing ys with
  | nil => simp [List.mapM_nil, except_pure_eq_ok]
  | cons x xs ih =>
    rw [List.mapM_cons]
    simp only [except_bind_eq_ok, except_pure_eq_ok, ih]
    constructor
    · rintro ⟨y, hy, rest, hrest, rfl⟩
      exact .cons hy hrest
    · rintro (_ | ⟨hy, hrest⟩)
      exact ⟨_, hy, _, hrest, rfl⟩

theorem except_mapM_eq_error {ε : Type} {f : α → Except ε β} {xs : List α} {e : ε} :
    xs.mapM f = .error e ↔ ∃ before x after, xs = before ++ x :: after ∧
      (∀ y ∈ before, ∃ b, f y = .ok b) ∧ f x = .error e := by
  induction xs with
  | nil => simp [pure, Except.pure]
  | cons x xs ih =>
    rw [List.mapM_cons, except_bind_eq_error]
    simp only [except_bind_eq_error, ih]
    constructor
    · intro h
      rcases h with hx | ⟨b, hx, ⟨before, y, after, hxs, hbefore, hy⟩ | ⟨_, _, hpure⟩⟩
      · exact ⟨[], x, xs, rfl, by simp, hx⟩
      · refine ⟨x :: before, y, after, by rw [hxs, List.cons_append], ?_, hy⟩
        exact List.forall_mem_cons.mpr ⟨⟨b, hx⟩, hbefore⟩
      · cases hpure
    · intro h
      obtain ⟨before, y, after, hsplit, hbefore, hy⟩ := h
      cases before with
      | nil =>
        have hhead : x = y ∧ xs = after := by simpa using hsplit
        rw [hhead.1]
        exact .inl hy
      | cons z before =>
        have hhead : x = z ∧ xs = before ++ y :: after := by simpa using hsplit
        obtain ⟨⟨b, hz⟩, hrest⟩ := List.forall_mem_cons.mp hbefore
        rw [hhead.1]
        exact .inr ⟨b, hz, .inl ⟨before, y, after, hhead.2, hrest, hy⟩⟩

namespace Attempt

theorem outcome_pure_eq_ok {a b : α} : outcome (pure a) = .ok b ↔ b = a := by
  simp [eq_comm]

theorem outcome_bind_eq_ok {x : Attempt α} {f : α → Attempt β} {b : β} :
    outcome (x >>= f) = .ok b ↔ ∃ a, outcome x = .ok a ∧ outcome (f a) = .ok b := by
  rw [outcome_bind, except_bind_eq_ok]

private theorem outcome_mapM (f : α → Attempt β) (xs : List α) :
    outcome (xs.mapM f) = xs.mapM fun x => outcome (f x) := by
  induction xs with
  | nil => rfl
  | cons x xs ih =>
    rw [List.mapM_cons, List.mapM_cons, outcome_bind]
    simp only [outcome_bind, outcome_pure, ih]
    rfl

theorem outcome_mapM_eq_ok {f : α → Attempt β} {xs : List α} {ys : List β} :
    outcome (xs.mapM f) = .ok ys ↔ List.Forall₂ (fun x y => outcome (f x) = .ok y) xs ys := by
  rw [outcome_mapM, except_mapM_eq_ok]

theorem outcome_mapM_eq_error {f : α → Attempt β} {xs : List α} {e : Error} :
    outcome (xs.mapM f) = .error e ↔ ∃ before x after, xs = before ++ x :: after ∧
      (∀ y ∈ before, ∃ b, outcome (f y) = .ok b) ∧ outcome (f x) = .error e := by
  rw [outcome_mapM, except_mapM_eq_error]

theorem outcome_noting (x : Attempt α) (record : Error → Logged Unit) :
    outcome (x.noting record) = outcome x := by
  change (bind x.run _ : Logged (Except Error α)).value = x.run.value
  rw [Logged.value_bind]
  cases x.run.value with
  | ok a => rfl
  | error e => cases e <;> rfl

end Attempt

end TlsSetup
