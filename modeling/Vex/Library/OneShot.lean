import Vex.Library.Runs

/-!
# Authorisations that are used once

A row authorises one signature. It waits until it is claimed, the claim is
consumed, and the outcome is recorded. `OneShot` reads these phases, and the
recorded hash of what was broadcast, off the states of any machine.

`Law` is what one operation may do. Where every operation of a run keeps to it,
the run keeps the promise (`Promise`): at most one claim, from waiting, by the
owner, in time and with the bound digest; nothing from anyone else; final
outcomes that stay; and a recorded hash that stays, so that an outcome without
one says that nothing was broadcast.
-/

namespace Vex.Library

variable {σ α η : Type*}

/-- How the phases of an authorisation are read off a state, and what a claim asks of the
operation and of the state before it. -/
structure OneShot (σ α η : Type*) where
  step : σ → α → σ
  Waiting : σ → Prop
  Consuming : σ → Prop
  Unconfirmed : σ → Prop
  Executed : σ → Prop
  Failed : σ → Prop
  hash : σ → Option η
  Owned : σ → α → Prop
  InTime : σ → α → Prop
  Bound : σ → α → Prop

theorem Along.of_forall {step : σ → α → σ} {ok : σ → α → Prop} (every : ∀ s op, ok s op) (s : σ)
    (ops : List α) : Along step ok s ops := by
  induction ops generalizing s with
  | nil => trivial
  | cons op ops ih => exact ⟨every s op, ih _⟩

namespace OneShot

variable (m : OneShot σ α η)

/-- The operation claims the authorisation. -/
def Claims (s : σ) (op : α) : Prop := ¬m.Consuming s ∧ m.Consuming (m.step s op)

/-- What every state satisfies. -/
structure Sound (s : σ) : Prop where
  apart : m.Waiting s → ¬m.Consuming s
  executed : m.Executed s → m.hash s ≠ none
  unconfirmed : m.Unconfirmed s → m.hash s ≠ none

/-- What one operation may do in a state. -/
structure Law (s : σ) (op : α) : Prop where
  sound : m.Sound (m.step s op)
  claim : m.Claims s op → m.Waiting s ∧ m.Owned s op ∧ m.InTime s op ∧ m.Bound s op
  left : m.Waiting (m.step s op) → m.Waiting s
  foreign : ¬m.Owned s op → m.step s op = s
  executed : m.Executed s → m.Executed (m.step s op)
  failed : m.Failed s → m.Failed (m.step s op)
  hash : ∀ h, m.hash s = some h → m.hash (m.step s op) = some h

/-- What a run that starts in a state promises, wherever it is cut. -/
structure Promise (s : σ) (ops : List α) : Prop where
  claim : ∀ before op after, ops = before ++ op :: after → m.Claims (run m.step s before) op →
    m.Waiting (run m.step s before) ∧ m.Owned (run m.step s before) op ∧
      m.InTime (run m.step s before) op ∧ m.Bound (run m.step s before) op
  once : ∀ before op middle op' after, ops = before ++ op :: (middle ++ op' :: after) →
    m.Claims (run m.step s before) op →
    ¬m.Claims (run m.step s (before ++ op :: middle)) op'
  foreign : ∀ before op after, ops = before ++ op :: after → ¬m.Owned (run m.step s before) op →
    m.step (run m.step s before) op = run m.step s before
  executed : ∀ before after, ops = before ++ after → m.Executed (run m.step s before) →
    m.Executed (run m.step s ops)
  failed : ∀ before after, ops = before ++ after → m.Failed (run m.step s before) →
    m.Failed (run m.step s ops)
  executedHash : m.Executed (run m.step s ops) → m.hash (run m.step s ops) ≠ none
  failedHash : m.Failed (run m.step s ops) → m.hash (run m.step s ops) = none →
    ∀ before after, ops = before ++ after →
      m.hash (run m.step s before) = none ∧ ¬m.Unconfirmed (run m.step s before)
  hash : ∀ before after, ops = before ++ after → ∀ h, m.hash (run m.step s before) = some h →
    m.hash (run m.step s ops) = some h

variable {m}

variable {s : σ} {ops : List α}

theorem sound_run (sound : m.Sound s) (lawful : Along m.step m.Law s ops) :
    m.Sound (run m.step s ops) :=
  lawful.induction (fun _ _ law _ => law.sound) sound

theorem not_waiting_run (lawful : Along m.step m.Law s ops) (left : ¬m.Waiting s) :
    ¬m.Waiting (run m.step s ops) :=
  lawful.induction (fun _ _ law => mt law.left) left

theorem hash_run (lawful : Along m.step m.Law s ops) {h : η} (recorded : m.hash s = some h) :
    m.hash (run m.step s ops) = some h :=
  @Along.induction _ _ _ _ (fun t => m.hash t = some h) (fun _ _ law => law.hash h) _ recorded _
    lawful

theorem lawful_of_invariant {Inv : σ → Prop} {ok : σ → α → Prop}
    (lawful : ∀ s op, Inv s → ok s op → m.Law s op ∧ Inv (m.step s op)) (holds : Inv s)
    (along : Along m.step ok s ops) : Along m.step m.Law s ops := by
  induction ops generalizing s with
  | nil => trivial
  | cons op ops ih =>
    obtain ⟨law, kept⟩ := lawful s op holds along.1
    exact ⟨law, ih kept along.2⟩

theorem promise_of_lawful (sound : m.Sound s) (lawful : Along m.step m.Law s ops) :
    m.Promise s ops := by
  have claimed : ∀ before op after, ops = before ++ op :: after →
      m.Law (run m.step s before) op := by
    rintro before op after rfl
    exact (Along.append.1 lawful).2.1
  have cut : ∀ before after, ops = before ++ after →
      Along m.step m.Law s before ∧ Along m.step m.Law (run m.step s before) after ∧
        run m.step s ops = run m.step (run m.step s before) after := by
    rintro before after rfl
    exact ⟨(Along.append.1 lawful).1, (Along.append.1 lawful).2, run_append _ _ _ _⟩
  refine ⟨fun before op after split => (claimed before op after split).claim, ?_,
    fun before op after split => (claimed before op after split).foreign, ?_, ?_,
    (sound_run sound lawful).executed, ?_, ?_⟩
  · intro before op middle op' after split claims
    have split' : ops = (before ++ op :: middle) ++ op' :: after := by simp [split]
    rw [run_append]
    intro again
    -- the first claim leaves the state that only waits once
    have waiting := (claimed _ _ _ split').claim (by rwa [run_append])
    rw [run_append] at waiting
    obtain ⟨-, along, -⟩ := cut before (op :: (middle ++ op' :: after)) split
    have soundAfter := along.1.sound
    have notWaiting : ¬m.Waiting (m.step (run m.step s before) op) := fun waits =>
      soundAfter.apart waits claims.2
    exact not_waiting_run (Along.append.1 along.2).1 notWaiting waiting.1
  · intro before after split executed
    obtain ⟨-, along, same⟩ := cut before after split
    rw [same]
    exact along.induction (fun _ _ law => law.executed) executed
  · intro before after split failed
    obtain ⟨-, along, same⟩ := cut before after split
    rw [same]
    exact along.induction (fun _ _ law => law.failed) failed
  · intro _ nothing before after split
    obtain ⟨front, along, same⟩ := cut before after split
    have unrecorded : m.hash (run m.step s before) = none := by
      cases recorded : m.hash (run m.step s before) with
      | none => rfl
      | some h =>
        have kept := hash_run along recorded
        rw [← same, nothing] at kept
        cases kept
    exact ⟨unrecorded, fun unconfirmed => (sound_run sound front).unconfirmed unconfirmed unrecorded⟩
  · intro before after split h recorded
    obtain ⟨-, along, same⟩ := cut before after split
    rw [same]
    exact hash_run along recorded

end OneShot

end Vex.Library
