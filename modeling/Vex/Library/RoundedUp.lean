import Mathlib.Algebra.Order.Floor.Div
import Mathlib.Data.Rat.Floor
import Mathlib.Tactic.Positivity

/-!
# Amounts that are rounded up

An obligation is a notional, rounded up to whole units, charged at several
rates, each charge rounded up again. Over the rationals this is a sum of
ceilings, and Mathlib has the facts about `⌈·⌉₊`:

* `exact_le_obligation` — it is at least the exact charge;
* `obligation_lt` — it exceeds the exact charge by less than one unit for each
  rate and one unit charged at all of them, which is what rounding the notional
  can add; a whole notional adds nothing (`obligation_lt_of_whole`);
* `obligation_mono` — it grows with the notional and with each rate.

Integer code rounds up by `(n + d - 1) / d` and changes a decimal scale by
powers of ten; `ceilDiv_eq_ceil` and `rescaled_eq_ceil` say that it computes the
same ceilings.
-/

namespace Vex.Library

/-! ## Integer code -/

theorem ceilDiv_eq_ceil (n : ℕ) {d : ℕ} (positive : 0 < d) : n ⌈/⌉ d = ⌈(n / d : ℚ)⌉₊ := by
  have positiveRat : (0 : ℚ) < d := by exact_mod_cast positive
  refine eq_of_forall_ge_iff fun bound => ?_
  rw [ceilDiv_le_iff_le_mul positive, Nat.ceil_le, div_le_iff₀ positiveRat, mul_comm d]
  exact_mod_cast Iff.rfl

/-- A whole number of units at one decimal scale, at another scale, rounded up. -/
def rescaled (value scale target : ℕ) : ℕ :=
  if scale ≤ target then value * 10 ^ (target - scale) else value ⌈/⌉ 10 ^ (scale - target)

theorem rescaled_eq_ceil (value scale target : ℕ) :
    rescaled value scale target = ⌈(value / 10 ^ scale * 10 ^ target : ℚ)⌉₊ := by
  unfold rescaled
  split
  · rename_i finer
    obtain ⟨more, rfl⟩ := Nat.exists_eq_add_of_le finer
    have whole : (value / 10 ^ scale * 10 ^ (scale + more) : ℚ) = (value * 10 ^ more : ℕ) := by
      push_cast
      rw [pow_add]
      field_simp
    rw [whole, Nat.ceil_natCast, Nat.add_sub_cancel_left]
  · rename_i coarser
    obtain ⟨more, rfl⟩ := Nat.exists_eq_add_of_le (Nat.le_of_not_le coarser)
    have quotient : (value / 10 ^ (target + more) * 10 ^ target : ℚ) = value / (10 ^ more : ℕ) := by
      push_cast
      rw [pow_add]
      field_simp
    rw [quotient, Nat.add_sub_cancel_left, ceilDiv_eq_ceil _ (by positivity)]

/-! ## Charges on a whole notional -/

/-- The charges at the rates, each rounded up. -/
def charges (notional : ℕ) (rates : List ℚ) : ℕ := (rates.map fun rate : ℚ => ⌈(notional : ℚ) * rate⌉₊).sum

theorem exact_le_charges (notional : ℕ) (rates : List ℚ) :
    notional * rates.sum ≤ charges notional rates := by
  induction rates with
  | nil => simp [charges]
  | cons rate rates ih =>
    have here : (notional : ℚ) * rate ≤ ⌈(notional : ℚ) * rate⌉₊ := Nat.le_ceil _
    simp only [charges, List.map_cons, List.sum_cons] at ih ⊢
    push_cast at ih ⊢
    linarith

theorem charges_le (notional : ℕ) {rates : List ℚ} (nonneg : ∀ rate ∈ rates, 0 ≤ rate) :
    (charges notional rates : ℚ) ≤ notional * rates.sum + rates.length := by
  induction rates with
  | nil => simp [charges]
  | cons rate rates ih =>
    have rest := ih fun other member => nonneg other (List.mem_cons_of_mem rate member)
    have here : (⌈(notional : ℚ) * rate⌉₊ : ℚ) < notional * rate + 1 :=
      Nat.ceil_lt_add_one (mul_nonneg (by positivity) (nonneg rate List.mem_cons_self))
    simp only [charges, List.map_cons, List.sum_cons, List.length_cons] at rest ⊢
    push_cast at rest ⊢
    linarith

theorem charges_lt (notional : ℕ) {rates : List ℚ} (nonneg : ∀ rate ∈ rates, 0 ≤ rate)
    (some : rates ≠ []) :
    (charges notional rates : ℚ) < notional * rates.sum + rates.length := by
  cases rates with
  | nil => exact absurd rfl some
  | cons rate rates =>
    have rest := charges_le notional
      fun other member => nonneg other (List.mem_cons_of_mem rate member)
    have here : (⌈(notional : ℚ) * rate⌉₊ : ℚ) < notional * rate + 1 :=
      Nat.ceil_lt_add_one (mul_nonneg (by positivity) (nonneg rate List.mem_cons_self))
    simp only [charges, List.map_cons, List.sum_cons, List.length_cons] at rest ⊢
    push_cast at rest ⊢
    linarith

theorem charges_mono {notional notional' : ℕ} {rates rates' : List ℚ}
    (more : notional ≤ notional') (nonneg : ∀ rate ∈ rates, 0 ≤ rate)
    (dearer : List.Forall₂ (· ≤ ·) rates rates') :
    charges notional rates ≤ charges notional' rates' := by
  induction dearer with
  | nil => exact le_rfl
  | @cons rate rate' rates rates' dearer _ ih =>
    have rest := ih fun other member => nonneg other (List.mem_cons_of_mem rate member)
    have here : ⌈(notional : ℚ) * rate⌉₊ ≤ ⌈(notional' : ℚ) * rate'⌉₊ := by
      refine Nat.ceil_mono (mul_le_mul ?_ dearer (nonneg rate List.mem_cons_self) ?_)
      · exact_mod_cast more
      · positivity
    simp only [charges, List.map_cons, List.sum_cons] at rest ⊢
    exact Nat.add_le_add here rest

/-! ## Obligations -/

/-- The charges on a notional that is itself rounded up to whole units. -/
def obligation (notional : ℚ) (rates : List ℚ) : ℕ := charges ⌈notional⌉₊ rates

section Obligation

variable {notional : ℚ} {rates : List ℚ}

theorem exact_le_obligation (nonneg : ∀ rate ∈ rates, 0 ≤ rate) :
    notional * rates.sum ≤ obligation notional rates :=
  (mul_le_mul_of_nonneg_right (Nat.le_ceil notional) (List.sum_nonneg nonneg)).trans
    (exact_le_charges _ rates)

theorem obligation_lt (positive : 0 ≤ notional) (nonneg : ∀ rate ∈ rates, 0 ≤ rate)
    (some : rates ≠ []) :
    (obligation notional rates : ℚ) < notional * rates.sum + rates.sum + rates.length := by
  have rounded : (⌈notional⌉₊ : ℚ) * rates.sum ≤ (notional + 1) * rates.sum :=
    mul_le_mul_of_nonneg_right (Nat.ceil_lt_add_one positive).le (List.sum_nonneg nonneg)
  have := charges_lt ⌈notional⌉₊ nonneg some
  rw [obligation]
  linarith

theorem obligation_lt_of_whole {units : ℕ} (nonneg : ∀ rate ∈ rates, 0 ≤ rate) (some : rates ≠ []) :
    (obligation units rates : ℚ) < units * rates.sum + rates.length := by
  rw [obligation, Nat.ceil_natCast]
  exact charges_lt units nonneg some

theorem obligation_mono {notional' : ℚ} {rates' : List ℚ} (more : notional ≤ notional')
    (nonneg : ∀ rate ∈ rates, 0 ≤ rate) (dearer : List.Forall₂ (· ≤ ·) rates rates') :
    obligation notional rates ≤ obligation notional' rates' :=
  charges_mono (Nat.ceil_mono more) nonneg dearer

end Obligation

end Vex.Library
