import Mathlib.Algebra.Order.Floor.Div
import Mathlib.Algebra.Order.Floor.Semiring
import Vex.Library.Runs

/-!
# Waiting for a turn

Whoever waits in a line is served after a bounded number of turns when each
turn that passes them over takes so many from in front of them and nothing is
ever put in front of them.
-/

namespace Vex.Library

variable {σ α : Type*}

/-- How long a line in front of somebody is, which operations are turns, and which of
them serve who is waiting, or end the wait. -/
structure Line (σ α : Type*) where
  step : σ → α → σ
  turn : α → Bool
  ahead : σ → Nat
  waits : σ → Prop
  ends : σ → α → Prop

namespace Line

variable (line : Line σ α)

/-- What one operation may do to somebody who waits and whose wait it does not end. -/
structure Law (taken : Nat) (s : σ) (op : α) : Prop where
  waits : line.waits (line.step s op)
  behind : line.ahead (line.step s op) ≤ line.ahead s
  turn : line.turn op = true → line.ahead (line.step s op) + taken ≤ line.ahead s

variable {line}

theorem ends_within {ok : σ → α → Prop} {taken : Nat}
    (lawful : ∀ s op, ok s op → line.waits s → ¬ line.ends s op → line.Law taken s op)
    {s : σ} {ops : List α} (along : Along line.step ok s ops) (waits : line.waits s)
    {turns : Nat} (few : line.ahead s < turns * taken) (enough : turns ≤ ops.countP line.turn) :
    ∃ before op later, ops = before ++ op :: later ∧ before.countP line.turn < turns ∧
      line.ends (run line.step s before) op := by
  induction ops generalizing s turns with
  | nil =>
    obtain rfl : turns = 0 := Nat.le_zero.1 enough
    omega
  | cons op ops ih =>
    by_cases ended : line.ends s op
    · have some : 0 < turns := by
        rcases Nat.eq_zero_or_pos turns with rfl | some
        · omega
        · exact some
      exact ⟨[], op, ops, rfl, some, ended⟩
    · have law := lawful s op along.1 waits ended
      cases isTurn : line.turn op with
      | true =>
        cases turns with
        | zero => omega
        | succ turns =>
          have fewer : line.ahead (line.step s op) < turns * taken := by
            have := law.turn isTurn
            rw [Nat.succ_mul] at few
            omega
          rw [List.countP_cons_of_pos isTurn] at enough
          obtain ⟨before, op', later, rfl, count, ends⟩ :=
            ih along.2 law.waits fewer (by omega)
          refine ⟨op :: before, op', later, rfl, ?_, ends⟩
          rw [List.countP_cons_of_pos isTurn]
          omega
      | false =>
        have notTurn : ¬ line.turn op = true := by rw [isTurn]; exact Bool.false_ne_true
        rw [List.countP_cons_of_neg notTurn] at enough
        obtain ⟨before, op', later, rfl, count, ends⟩ :=
          ih along.2 law.waits (Nat.lt_of_le_of_lt law.behind few) enough
        refine ⟨op :: before, op', later, rfl, ?_, ends⟩
        rwa [List.countP_cons_of_neg notTurn]

theorem lt_ceilDiv_mul {ahead size taken : Nat} (some : 0 < taken) (fewer : ahead < size) :
    ahead < size ⌈/⌉ taken * taken := by
  have reach : size ≤ taken • (size ⌈/⌉ taken) := le_smul_ceilDiv some
  rw [smul_eq_mul, Nat.mul_comm] at reach
  exact Nat.lt_of_lt_of_le fewer reach

end Line

end Vex.Library
