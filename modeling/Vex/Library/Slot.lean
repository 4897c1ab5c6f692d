import Mathlib.Logic.Relation
import Mathlib.Tactic.Common

/-!
# A slot that is taken once

Work that must be done at most once is guarded by a slot. The slot is free, then
taken by one of many workers, then settled with a status; or it is refused, which
settles it without having been taken. Only the worker that took it may do the
work, or gives it up.

`Slot.Step` is what may happen in any order to such a slot: who takes it, uses
it, forgoes it, loses it, and who settles it, which need not be the worker that
took it. Whatever happens, the work is done at most once and never after a
refusal (`Sound.once`), one status is recorded (`Sound.settledOnce`), and it
stays (`settled_steps`).
-/

namespace Vex.Library

/-- Whether a slot is free, taken, or settled with a status. -/
inductive SlotPhase (ω : Type*) where
  | free
  | taken
  | settled (status : ω)

/-- A slot with its workers: those that took it and still may use it, how often the work was
done or refused, and how often a status was recorded. -/
structure Slot (ι ω : Type*) where
  phase : SlotPhase ω
  Ready : ι → Prop
  uses : Nat
  refusals : Nat
  records : Nat

namespace Slot

variable {ι ω : Type*}

/-- The worker no longer has the slot. -/
def without (s : Slot ι ω) (a : ι) : Slot ι ω := { s with Ready := fun b => b ≠ a ∧ s.Ready b }

/-- The worker took the slot. -/
def took (s : Slot ι ω) (a : ι) : Slot ι ω :=
  { s with phase := .taken, Ready := fun b => b = a ∨ s.Ready b }

/-- The work was refused with the status, and nobody took the slot. -/
def refusedAs (s : Slot ι ω) (status : ω) : Slot ι ω :=
  { s with phase := .settled status, refusals := s.refusals + 1, records := s.records + 1 }

/-- One thing that happens to a slot. -/
inductive Step (s : Slot ι ω) : Slot ι ω → Prop
  | take (a : ι) (free : s.phase = .free) : Step s (s.took a)
  | refuse (status : ω) (free : s.phase = .free) : Step s (s.refusedAs status)
  | use (a : ι) (ready : s.Ready a) : Step s { s.without a with uses := s.uses + 1 }
  | forgo (a : ι) (ready : s.Ready a) : Step s { s.without a with refusals := s.refusals + 1 }
  | settle (status : ω) (taken : s.phase = .taken) :
      Step s { s with phase := .settled status, records := s.records + 1 }
  | lose (a : ι) : Step s (s.without a)
  | loseAll : Step s { s with Ready := fun _ => False }

/-- Any number of things, one after the other. -/
abbrev Steps : Slot ι ω → Slot ι ω → Prop := Relation.ReflTransGen Step

/-- What holds of a slot that was free and unused at first. -/
structure Sound (s : Slot ι ω) : Prop where
  unused : s.phase = .free → s.uses = 0 ∧ s.refusals = 0 ∧ ∀ a, ¬ s.Ready a
  unique : ∀ a b, s.Ready a → s.Ready b → a = b
  ready : ∀ a, s.Ready a → s.uses = 0 ∧ s.refusals = 0
  once : s.uses + s.refusals ≤ 1
  unrecorded : (∀ status, s.phase ≠ .settled status) → s.records = 0
  settledOnce : s.records ≤ 1

variable {s : Slot ι ω}

theorem Sound.fresh (nobody : ∀ a, ¬ s.Ready a) (uses : s.uses = 0) (refusals : s.refusals = 0)
    (records : s.records = 0) : s.Sound where
  unused _ := ⟨uses, refusals, nobody⟩
  unique a _ ready := absurd ready (nobody a)
  ready a ready := absurd ready (nobody a)
  once := by omega
  unrecorded _ := records
  settledOnce := by omega

theorem Sound.without (sound : s.Sound) (a : ι) : (s.without a).Sound where
  unused free := ⟨(sound.unused free).1, (sound.unused free).2.1,
    fun b ready => (sound.unused free).2.2 b ready.2⟩
  unique b c left right := sound.unique b c left.2 right.2
  ready b ready := sound.ready b ready.2
  once := sound.once
  unrecorded := sound.unrecorded
  settledOnce := sound.settledOnce

variable {a : ι}

theorem Sound.nobody (sound : s.Sound) (ready : s.Ready a) (b : ι) : ¬ (s.without a).Ready b := by
  rintro ⟨other, readyB⟩
  exact other (sound.unique b a readyB ready)

theorem Sound.spend (sound : s.Sound) (ready : s.Ready a) {uses refusals : Nat}
    (one : uses + refusals = 1) :
    { s.without a with uses := uses, refusals := refusals }.Sound where
  unused free := absurd ready ((sound.unused free).2.2 a)
  unique b _ readyB := absurd readyB (sound.nobody ready b)
  ready b readyB := absurd readyB (sound.nobody ready b)
  once := by
    show uses + refusals ≤ 1
    omega
  unrecorded := sound.unrecorded
  settledOnce := sound.settledOnce

theorem Sound.step {t : Slot ι ω} (sound : s.Sound) (step : Step s t) : t.Sound := by
  cases step with
  | take a free =>
    obtain ⟨uses, refusals, nobody⟩ := sound.unused free
    have only : ∀ b, b = a ∨ s.Ready b → b = a := fun b ready => ready.resolve_right (nobody b)
    exact {
      unused := nofun
      unique := fun b c readyB readyC => (only b readyB).trans (only c readyC).symm
      ready := fun _ _ => ⟨uses, refusals⟩
      once := sound.once
      unrecorded := fun _ => sound.unrecorded (by rw [free]; nofun)
      settledOnce := sound.settledOnce }
  | refuse status free =>
    obtain ⟨uses, refusals, nobody⟩ := sound.unused free
    have records := sound.unrecorded (by rw [free]; nofun)
    exact {
      unused := nofun
      unique := sound.unique
      ready := fun a ready => absurd ready (nobody a)
      once := by
        show s.uses + (s.refusals + 1) ≤ 1
        omega
      unrecorded := fun unsettled => absurd rfl (unsettled status)
      settledOnce := by
        show s.records + 1 ≤ 1
        omega }
  | use a ready =>
    obtain ⟨uses, refusals⟩ := sound.ready a ready
    have one : s.uses + 1 + s.refusals = 1 := by omega
    exact sound.spend ready one
  | forgo a ready =>
    obtain ⟨uses, refusals⟩ := sound.ready a ready
    have one : s.uses + (s.refusals + 1) = 1 := by omega
    exact sound.spend ready one
  | settle status taken =>
    have records := sound.unrecorded (by rw [taken]; nofun)
    exact {
      unused := nofun
      unique := sound.unique
      ready := sound.ready
      once := sound.once
      unrecorded := fun unsettled => absurd rfl (unsettled status)
      settledOnce := by
        show s.records + 1 ≤ 1
        omega }
  | lose a => exact sound.without a
  | loseAll =>
    exact {
      unused := fun free => ⟨(sound.unused free).1, (sound.unused free).2.1, fun _ => id⟩
      unique := fun _ _ ready => ready.elim
      ready := fun _ ready => ready.elim
      once := sound.once
      unrecorded := sound.unrecorded
      settledOnce := sound.settledOnce }

theorem Sound.steps {t : Slot ι ω} (sound : s.Sound) (steps : Steps s t) : t.Sound := by
  induction steps with
  | refl => exact sound
  | tail _ step ih => exact ih.step step

variable {status : ω}

theorem settled_step {t : Slot ι ω} (settled : s.phase = .settled status) (step : Step s t) :
    t.phase = .settled status := by
  cases step with
  | take _ free | refuse _ free => rw [free] at settled; cases settled
  | settle _ taken => rw [taken] at settled; cases settled
  | use => exact settled
  | forgo => exact settled
  | lose => exact settled
  | loseAll => exact settled

theorem settled_steps {t : Slot ι ω} (settled : s.phase = .settled status) (steps : Steps s t) :
    t.phase = .settled status := by
  induction steps with
  | refl => exact settled
  | tail _ step ih => exact settled_step ih step

end Slot

end Vex.Library
