import Mathlib.Tactic.Ring
import Mathlib.Tactic.Linarith

/-!
# What two floored shares leave

Two shares `a` and `b` of `d` parts are taken from an amount, each rounded down. What they leave
grows with the amount, but not at every step: where both roundings lose a unit at once it falls by
one. `scaled_kept` writes what is left as an exact part and the two remainders of the roundings,
and `kept_le_iff_steady` says from which amounts on nothing less is left.
-/

namespace Vex.Library.Shares

variable {d a b n m : ℕ}

/-- What is left of `n` when `a` and `b` parts in `d` are taken from it, each rounded down. -/
def kept (d a b n : ℕ) : ℕ := n - n * a / d - n * b / d

/-- The remainders of the two roundings together. -/
def residue (d a b n : ℕ) : ℕ := n * a % d + n * b % d

/-- Where the remainders make up a unit, they do so at every amount that they could pay for. -/
def Steady (d a b n : ℕ) : Prop :=
  ∀ k, d + k * (d - a - b) ≤ residue d a b n → d ≤ residue d a b (n + k)

theorem scaled_taken (d a b n : ℕ) :
    d * (n * a / d + n * b / d) + residue d a b n = n * (a + b) := by
  have first := Nat.div_add_mod (n * a) d
  have second := Nat.div_add_mod (n * b) d
  unfold residue
  rw [Nat.mul_add, Nat.mul_add]
  omega

theorem kept_add_taken (positive : 0 < d) (fits : a + b ≤ d) (n : ℕ) :
    kept d a b n + n * a / d + n * b / d = n := by
  have taken := scaled_taken d a b n
  have within : d * (n * a / d + n * b / d) ≤ d * n :=
    calc d * (n * a / d + n * b / d) ≤ n * (a + b) := by omega
      _ ≤ n * d := Nat.mul_le_mul_left n fits
      _ = d * n := Nat.mul_comm n d
  have fewer := Nat.le_of_mul_le_mul_left within positive
  unfold kept
  omega

theorem scaled_kept (positive : 0 < d) (fits : a + b ≤ d) (n : ℕ) :
    d * kept d a b n = n * (d - a - b) + residue d a b n := by
  have whole := kept_add_taken positive fits n
  have taken := scaled_taken d a b n
  have scaled : d * kept d a b n + d * (n * a / d + n * b / d) = d * n := by
    rw [← Nat.mul_add, ← Nat.add_assoc, whole]
  have parts : n * (d - a - b) + n * (a + b) = d * n := by
    rw [← Nat.mul_add, Nat.mul_comm]
    congr 1
    omega
  omega

theorem kept_share {b' : ℕ} (smaller : b' ≤ b) : kept d a b n ≤ kept d a b' n :=
  Nat.sub_le_sub_left (Nat.div_le_div_right (Nat.mul_le_mul_left n smaller)) _

theorem residue_lt (positive : 0 < d) : residue d a b n < 2 * d := by
  have first := Nat.mod_lt (n * a) positive
  have second := Nat.mod_lt (n * b) positive
  unfold residue
  omega

theorem kept_le_succ (positive : 0 < d) (fits : a + b ≤ d) (above : n ≤ m) :
    kept d a b n ≤ kept d a b m + 1 := by
  have early := scaled_kept positive fits n
  have late := scaled_kept positive fits m
  have exact := Nat.mul_le_mul_right (d - a - b) above
  have small : residue d a b n < 2 * d := residue_lt positive
  by_contra fell
  have apart : d * (kept d a b m + 2) ≤ d * kept d a b n := Nat.mul_le_mul_left d (by omega)
  rw [Nat.mul_add] at apart
  omega

theorem kept_le_iff_steady (positive : 0 < d) (fits : a + b ≤ d) :
    (∀ m, n ≤ m → kept d a b n ≤ kept d a b m) ↔ Steady d a b n := by
  have early := scaled_kept positive fits n
  constructor
  · intro grows k pays
    have late := scaled_kept positive fits (n + k)
    have more := Nat.mul_le_mul_left d (grows (n + k) (Nat.le_add_right n k))
    rw [Nat.add_mul] at late
    omega
  · intro steady m above
    obtain ⟨k, rfl⟩ := Nat.exists_eq_add_of_le above
    have late := scaled_kept positive fits (n + k)
    rw [Nat.add_mul] at late
    by_contra fell
    -- What is left falls by exactly one, which is `d` of the exact parts.
    have one : kept d a b n = kept d a b (n + k) + 1 := by
      have most := kept_le_succ positive fits above
      omega
    rw [one, Nat.mul_add] at early
    have carries := steady k (by omega)
    have small : residue d a b n < 2 * d := residue_lt positive
    omega

end Vex.Library.Shares
