import Vex.Studio.FrontChildren

/-!
# The budget of restarts

What a failure does to the supervisor is one of three things: nothing, the record that the child
has failed, or a restart or the end. Each child but the first of a start is paid for by a unit of
the budget, so a start spawns at most seven in every run.
-/

namespace Vex.Studio

open Vex.Library
open Vex.Bridge

namespace FrontChildren

variable {s : FrontChildren} {token : Nat}

/-! ## What a failure does -/

theorem fail_cases (s : FrontChildren) (token : Nat) (failure : FrontFailureName)
    (alreadyDead : Bool) :
    s.fail token failure alreadyDead = (s, false) ∨
    (s.live = some token ∨ s.live = none ∧ token = s.spawnToken) ∧
      (∀ child, s.liveChild = some child → child.settled = false) ∧
      ((s.state = .stopped ∨ s.quitRequested = true) ∧ s.fail token failure alreadyDead =
            (s.updateLive fun child => { child with settled := true }, false) ∨
        s.state ≠ .stopped ∧ s.quitRequested = false ∧ s.fail token failure alreadyDead =
            (s.updateLive fun child => { child with settled := true }).account token failure
              alreadyDead) := by
  unfold fail
  split
  · exact .inl rfl
  rename_i current
  split
  · exact .inl rfl
  rename_i last
  split
  · exact .inl rfl
  rename_i unsettled
  refine .inr ⟨?_, fun child found => ?_, ?_⟩
  · cases live : s.live with
    | none => exact .inr ⟨rfl, by simpa [live] using last⟩
    | some other => exact .inl (by simpa [live] using current)
  · simpa [found] using unsettled
  · dsimp only
    split
    · rename_i over'
      exact .inl ⟨over', rfl⟩
    · rename_i running
      have running : ¬(s.state = .stopped ∨ s.quitRequested = true) := running
      rw [not_or] at running
      exact .inr ⟨running.1, by simpa using running.2, rfl⟩

/-! ## Seven children -/

/-- The children spawned since the last start, and the restarts that wait, have been paid for. -/
structure Paid (s : FrontChildren) : Prop where
  budget : s.restartCount ≤ frontMaxRestarts + 1
  waits : s.waits.length ≤ s.restartCount
  children : s.spawned + s.waits.length ≤ s.restartCount + 1

theorem Paid.of_same {s' : FrontChildren} (paid : Paid s) (count : s'.restartCount = s.restartCount)
    (waits : s'.waits.length = s.waits.length) (spawned : s'.spawned = s.spawned) : Paid s' :=
  ⟨count ▸ paid.budget, waits ▸ count ▸ paid.waits, by rw [spawned, waits, count]; exact paid.children⟩

theorem fail_paid (paid : Paid s) (token : Nat) (failure : FrontFailureName) (alreadyDead : Bool) :
    Paid (s.fail token failure alreadyDead).1 ∧ ((s.fail token failure alreadyDead).2 = true →
        (s.fail token failure alreadyDead).1.spawned + (s.fail token failure alreadyDead).1.waits.length
          < (s.fail token failure alreadyDead).1.restartCount + 1) := by
  rcases fail_cases s token failure alreadyDead with
    ignored | ⟨_, _, ⟨_, recorded⟩ | ⟨_, _, accounted⟩⟩
  · rw [ignored]
    exact ⟨paid, by simp⟩
  · rw [recorded]
    exact ⟨paid.of_same rfl rfl rfl, by simp⟩
  · rw [accounted]
    unfold account
    dsimp only
    split
    · exact ⟨paid.of_same rfl rfl rfl, by simp⟩
    split
    · rename_i left
      have left : s.restartCount ≤ frontMaxRestarts := left
      have waits := paid.waits
      have children := paid.children
      unfold scheduleRestart
      dsimp only
      split
      · refine ⟨⟨?_, ?_, ?_⟩, fun _ => ?_⟩ <;>
          simp only [spend, giveUp, updateLive] <;> omega
      · refine ⟨⟨?_, ?_, ?_⟩, by simp⟩ <;>
          simp only [spend, giveUp, updateLive, List.length_append, List.length_singleton] <;> omega
    · exact ⟨paid.of_same rfl rfl rfl, by simp⟩

theorem spawnOnce_paid (helloRefused : Bool) (throws : Nat) (paid : Paid s)
    (room : s.spawned + s.waits.length < s.restartCount + 1) :
    Paid (spawnOnce helloRefused throws s) := by
  induction throws generalizing s with
  | zero =>
    have adopted : Paid s.beginSpawn.adopt := by
      refine ⟨paid.budget, paid.waits, ?_⟩
      change s.spawned + 1 + s.waits.length ≤ s.restartCount + 1
      omega
    unfold spawnOnce
    dsimp only
    split
    · exact (fail_paid adopted _ _ _).1
    · exact adopted
  | succ throws ih =>
    have begun : Paid s.beginSpawn := paid.of_same rfl rfl rfl
    unfold spawnOnce
    dsimp only
    split
    · rename_i again
      exact ih (fail_paid begun _ _ _).1 ((fail_paid begun _ _ _).2 again)
    · exact (fail_paid begun _ _ _).1

theorem failThen_paid (paid : Paid s) (answers : SpawnAnswers) (token : Nat)
    (failure : FrontFailureName) (alreadyDead : Bool) :
    Paid (s.failThen answers token failure alreadyDead) := by
  unfold failThen
  dsimp only
  split
  · rename_i again
    exact spawnOnce_paid _ _ (fail_paid paid _ _ _).1 ((fail_paid paid _ _ _).2 again)
  · exact (fail_paid paid _ _ _).1

theorem failCurrent_paid (paid : Paid s) (failure : FrontFailureName) :
    Paid (s.failCurrent failure) := by
  unfold failCurrent
  split
  · exact paid
  · exact (fail_paid paid _ _ _).1

theorem relayReports_paid (paid : Paid s) (fatal : Option FatalName) :
    Paid (s.relayReports fatal) := by
  cases fatal with
  | none => exact paid
  | some failure => exact failCurrent_paid paid _

theorem handleControlFrame_paid (paid : Paid s) (event : ControlUpEvent) :
    Paid (s.handleControlFrame event).1 := by
  unfold handleControlFrame
  split
  · exact paid
  cases event with
  | malformed => exact failCurrent_paid paid _
  | helloAck wrong | bound wrong =>
    dsimp only
    split
    · exact failCurrent_paid paid _
    · cases wrong with
      | none => exact paid.of_same rfl rfl rfl
      | some failure => exact failCurrent_paid paid _
  | lockAck =>
    dsimp only
    split <;> exact paid.of_same rfl rfl rfl
  | quitAck => exact paid
  | pong => exact paid
  | error name =>
    unfold handleErrorFrame
    dsimp only
    split
    · exact failCurrent_paid paid _
    · exact failCurrent_paid paid _
    · exact failCurrent_paid paid _
    · exact paid
  | relayed fatal =>
    dsimp only
    split
    · exact failCurrent_paid paid _
    · exact relayReports_paid paid fatal
  | other => exact failCurrent_paid paid _

theorem handleControlBatch_paid (batch : List ControlUpEvent) (paid : Paid s) :
    Paid (s.handleControlBatch batch) := by
  induction batch generalizing s with
  | nil => exact paid
  | cons event batch ih =>
    unfold handleControlBatch
    dsimp only
    split
    · exact ih (handleControlFrame_paid paid event)
    · exact handleControlFrame_paid paid event

theorem handleDataBatch_paid (relay : Bool) (afterBatch : Option FatalName)
    (batch : List DataUpEvent) (paid : Paid s) : Paid (s.handleDataBatch relay afterBatch batch) := by
  induction batch generalizing s with
  | nil =>
    unfold handleDataBatch
    split
    · exact relayReports_paid paid _
    · exact paid
  | cons event batch ih =>
    cases event with
    | malformed => exact failCurrent_paid paid _
    | relayed fatal =>
      unfold handleDataBatch
      split
      · exact failCurrent_paid paid _
      · exact ih (relayReports_paid paid fatal)

theorem step_paid (paid : Paid s) (event : ChildrenEvent) : Paid (s.step event) := by
  cases event with
  | start answers =>
    simp only [step, start]
    split
    · exact paid
    · have waits := paid.waits
      refine spawnOnce_paid _ _ ⟨paid.budget, waits, ?_⟩ ?_
      · change 0 + s.waits.length ≤ s.restartCount + 1
        omega
      · change 0 + s.waits.length < s.restartCount + 1
        omega
  | lock =>
    simp only [step, lock]
    split
    · exact paid
    split
    · exact paid
    split
    · refine failCurrent_paid ?_ _
      exact paid.of_same rfl rfl rfl
    · exact paid.of_same rfl rfl rfl
  | quit =>
    simp only [step, quit]
    split
    · exact paid.of_same rfl rfl rfl
    split <;> exact paid.of_same rfl rfl rfl
  | quitResumes =>
    simp only [step]
    split
    · exact paid
    · exact paid.of_same rfl rfl rfl
  | dispose => exact paid.of_same rfl rfl rfl
  | controlUp token batch =>
    simp only [step]
    split
    · exact handleControlBatch_paid batch paid
    · exact paid
  | dataUp token batch afterBatch =>
    simp only [step]
    split
    · exact handleDataBatch_paid _ _ batch paid
    · exact paid
  | relayFatal failure => exact failCurrent_paid paid _
  | planeEof token answers | planeError token answers =>
    simp only [step, planeFails]
    split
    · exact paid
    · exact failThen_paid paid _ _ _ _
  | processError token answers =>
    simp only [step, processErrors]
    split
    · exact paid
    · refine failThen_paid ?_ _ _ _ _
      exact paid.of_same rfl rfl rfl
  | exits token code answers =>
    simp only [step, childExits]
    split
    · exact paid
    · have woken : Paid { s.updateChild token fun child => { child with exited := true } with
          waits := s.waits.map fun wait =>
            if wait.token = token ∧ wait.observed = none then { wait with observed := some true }
            else wait } :=
        paid.of_same rfl (List.length_map ..) rfl
      split
      · exact woken
      · unfold handleExit
        split
        · exact woken
        split
        · exact woken
        split
        · exact woken.of_same rfl rfl rfl
        · exact failThen_paid woken _ _ _ _
  | bringupExpires answers =>
    simp only [step]
    split
    · exact paid
    · refine failThen_paid ?_ _ _ _ _
      exact paid.of_same rfl rfl rfl
  | lockExpires =>
    simp only [step]
    split
    · refine failCurrent_paid ?_ _
      exact paid.of_same rfl rfl rfl
    · exact paid
  | exitWaitExpires index => exact paid.of_same rfl (List.length_modify ..) rfl
  | restartResumes index answers =>
    simp only [step, restartResumes]
    split
    · rename_i found
      have short := (List.getElem?_eq_some_iff.mp found).1
      have fewer := List.length_eraseIdx_of_lt short
      have waits := paid.waits
      have children := paid.children
      have resumed : Paid { s with waits := s.waits.eraseIdx index } := by
        refine ⟨paid.budget, ?_, ?_⟩
        · change (s.waits.eraseIdx index).length ≤ s.restartCount
          omega
        · change s.spawned + (s.waits.eraseIdx index).length ≤ s.restartCount + 1
          omega
      split
      · refine spawnOnce_paid _ _ resumed ?_
        change s.spawned + (s.waits.eraseIdx index).length < s.restartCount + 1
        omega
      · exact resumed
    · exact paid

theorem seven_children (events : List ChildrenEvent) :
    (run step initial events).spawned ≤ frontMaxRestarts + 2 := by
  have paid : Paid (run step initial events) :=
    run_induction (motive := Paid) (fun _ event paid => step_paid paid event)
      ⟨Nat.zero_le _, Nat.zero_le _, Nat.zero_le _⟩ events
  have budget := paid.budget
  have children := paid.children
  omega

end FrontChildren

end Vex.Studio
