import Vex.Library.Runs

/-!
# Fencing tokens

A claim on a key is a token that has never been minted before. An operation
keeps the token of a key, takes it away or puts a token in its place that it
minted itself. A token that is once no longer the one of its key is then never
the one of that key again, so whoever still presents it is known to be late.
-/

namespace Vex.Library

variable {σ α κ : Type*}

/-- How the tokens and their number are read off the states of a machine. -/
structure Fencing (σ α κ : Type*) where
  step : σ → α → σ
  token : σ → κ → Option Nat
  minted : σ → Nat

namespace Fencing

variable (m : Fencing σ α κ)

/-- Every token of a state has been minted. -/
def Sound (s : σ) : Prop := ∀ key token, m.token s key = some token → token < m.minted s

/-- What one operation may do to the token of a key. -/
structure Law (s : σ) (op : α) : Prop where
  minted : m.minted s ≤ m.minted (m.step s op)
  token : ∀ key, m.token (m.step s op) key = m.token s key ∨ m.token (m.step s op) key = none ∨
    ∃ token, m.token (m.step s op) key = some token ∧ m.minted s ≤ token ∧
      token < m.minted (m.step s op)

variable {m}

variable {s : σ} {op : α}

theorem sound_step (law : m.Law s op) (sound : m.Sound s) : m.Sound (m.step s op) := by
  intro key token held
  rcases law.token key with same | gone | ⟨fresh, put, -, bound⟩
  · exact Nat.lt_of_lt_of_le (sound key token (same ▸ held)) law.minted
  · rw [gone] at held
    cases held
  · rw [put] at held
    exact (Option.some.inj held) ▸ bound

variable {key : κ} {token : Nat}

theorem lost_step (law : m.Law s op) (past : token < m.minted s) (lost : m.token s key ≠ some token)
    :
    token < m.minted (m.step s op) ∧ m.token (m.step s op) key ≠ some token := by
  refine ⟨Nat.lt_of_lt_of_le past law.minted, ?_⟩
  intro held
  rcases law.token key with same | gone | ⟨fresh, put, above, -⟩
  · exact lost (same ▸ held)
  · rw [gone] at held
    cases held
  · rw [put] at held
    have : fresh = token := Option.some.inj held
    omega

theorem sound_run (lawful : ∀ s op, m.Law s op) (sound : m.Sound s) (ops : List α) :
    m.Sound (run m.step s ops) :=
  run_induction (fun s op => sound_step (lawful s op)) sound ops

theorem never_again (lawful : ∀ s op, m.Law s op) (sound : m.Sound s)
    (held : m.token s key = some token) (lost : m.token (m.step s op) key ≠ some token)
    (ops : List α) : m.token (run m.step s (op :: ops)) key ≠ some token := by
  have past : token < m.minted (m.step s op) :=
    Nat.lt_of_lt_of_le (sound key token held) (lawful s op).minted
  exact (run_induction (fun s op (held : token < m.minted s ∧ m.token s key ≠ some token) =>
    lost_step (lawful s op) held.1 held.2) ⟨past, lost⟩ ops).2

end Fencing

end Vex.Library
