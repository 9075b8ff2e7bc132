import Mathlib
import TlsSetup.Codec.Base64

/-!
# Base 64 is read back

Every byte string is decoded from its base 64 form, which is made of visible characters of ASCII other
than the hyphen.
-/

namespace TlsSetup.Base64

private theorem value?_symbol {n : Nat} (h : n < 64) : value? (symbol n) = some n := by
  revert n
  decide

private theorem symbol_ne_pad {n : Nat} (h : n < 64) : symbol n ≠ pad := by
  intro hpad
  have hvalue := value?_symbol h
  rw [hpad] at hvalue
  cases hvalue

private theorem group?_one (a : UInt8) :
    group? true (symbol (a.toNat / 4)) (symbol (a.toNat % 4 * 16)) pad pad = some [a] := by
  have ha := a.toNat_lt
  have hfirst : a.toNat / 4 * 4 + a.toNat % 4 * 16 / 16 = a.toNat := by omega
  simp only [group?, value?_symbol (show a.toNat / 4 < 64 by omega),
    value?_symbol (show a.toNat % 4 * 16 < 64 by omega), Option.bind_eq_bind, Option.bind_some,
    hfirst]
  simp

private theorem group?_two (a b : UInt8) :
    group? true (symbol (a.toNat / 4)) (symbol (a.toNat % 4 * 16 + b.toNat / 16))
      (symbol (b.toNat % 16 * 4)) pad = some [a, b] := by
  have ha := a.toNat_lt
  have hb := b.toNat_lt
  have hz : b.toNat % 16 * 4 < 64 := by omega
  have hfirst : a.toNat / 4 * 4 + (a.toNat % 4 * 16 + b.toNat / 16) / 16 = a.toNat := by omega
  have hsecond : (a.toNat % 4 * 16 + b.toNat / 16) % 16 * 16 + b.toNat % 16 * 4 / 4 = b.toNat := by
    omega
  simp only [group?, value?_symbol (show a.toNat / 4 < 64 by omega),
    value?_symbol (show a.toNat % 4 * 16 + b.toNat / 16 < 64 by omega), value?_symbol hz,
    symbol_ne_pad hz, Option.bind_eq_bind, Option.bind_some, hfirst, hsecond]
  simp

private theorem group?_three (a b c : UInt8) :
    group? true (symbol (a.toNat / 4)) (symbol (a.toNat % 4 * 16 + b.toNat / 16))
      (symbol (b.toNat % 16 * 4 + c.toNat / 64)) (symbol (c.toNat % 64)) = some [a, b, c] := by
  have ha := a.toNat_lt
  have hb := b.toNat_lt
  have hc := c.toNat_lt
  have hz : b.toNat % 16 * 4 + c.toNat / 64 < 64 := by omega
  have hw : c.toNat % 64 < 64 := by omega
  have hfirst : a.toNat / 4 * 4 + (a.toNat % 4 * 16 + b.toNat / 16) / 16 = a.toNat := by omega
  have hsecond : (a.toNat % 4 * 16 + b.toNat / 16) % 16 * 16 +
      (b.toNat % 16 * 4 + c.toNat / 64) / 4 = b.toNat := by
    omega
  have hthird : (b.toNat % 16 * 4 + c.toNat / 64) % 4 * 64 + c.toNat % 64 = c.toNat := by omega
  simp only [group?, value?_symbol (show a.toNat / 4 < 64 by omega),
    value?_symbol (show a.toNat % 4 * 16 + b.toNat / 16 < 64 by omega), value?_symbol hz,
    value?_symbol hw, symbol_ne_pad hz, symbol_ne_pad hw, Option.bind_eq_bind, Option.bind_some,
    hfirst, hsecond, hthird]
  simp

theorem decode?_encode (bs : Bytes) : decode? (encode bs) = some bs := by
  fun_induction encode bs with
  | case1 => rfl
  | case2 a => simp [decode?, group?_one]
  | case3 a b => simp [decode?, group?_two]
  | case4 a b c rest ih => simp [decode?, group?_three, ih]

/-- A visible character of ASCII other than the hyphen. -/
def IsGraphic (b : UInt8) : Prop := 32 < b ∧ b < 127 ∧ b ≠ 45

instance (b : UInt8) : Decidable (IsGraphic b) :=
  inferInstanceAs (Decidable (_ ∧ _ ∧ _))

private theorem isGraphic_symbol {n : Nat} (h : n < 64) : IsGraphic (symbol n) := by
  revert n
  decide

private theorem isGraphic_pad : IsGraphic pad := by decide

theorem isGraphic_of_mem_encode {bs : Bytes} : ∀ b ∈ encode bs, IsGraphic b := by
  have hsymbol {n : Nat} (h : n < 64) := isGraphic_symbol h
  fun_induction encode bs with
  | case1 => simp
  | case2 a =>
    have ha := a.toNat_lt
    simp only [List.forall_mem_cons]
    exact ⟨hsymbol (by omega), hsymbol (by omega), isGraphic_pad, isGraphic_pad, by simp⟩
  | case3 a b =>
    have ha := a.toNat_lt
    have hb := b.toNat_lt
    simp only [List.forall_mem_cons]
    exact ⟨hsymbol (by omega), hsymbol (by omega), hsymbol (by omega), isGraphic_pad, by simp⟩
  | case4 a b c rest ih =>
    have ha := a.toNat_lt
    have hb := b.toNat_lt
    have hc := c.toNat_lt
    simp only [List.forall_mem_cons]
    exact ⟨hsymbol (by omega), hsymbol (by omega), hsymbol (by omega), hsymbol (by omega), ih⟩

end TlsSetup.Base64
