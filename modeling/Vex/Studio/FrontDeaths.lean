import Vex.Studio.FrontBudget

/-!
# One death, one restart

That each child spends at most one unit of the budget, that no two children run at once, and that
no caller waits while the supervisor serves, has stopped or has failed holds in every run in which

* no process error of a child that has failed comes while its replacement is awaited;
* no second `start` comes while a caller waits or a child runs;
* no `dispose`, no end of a quit and no exit for the parent's death comes while a caller waits, and
  no `LOCK_ACK` before `BOUND`.

The invariant is that of the last spawn: its child is the live one, or its failure is accounted, or
the supervisor has stopped. So a failure that is accounted without a live child is that of a spawn
that threw.
-/

namespace Vex.Studio

open Vex.Library
open Vex.Bridge

namespace FrontChildren

variable {s : FrontChildren} {token : Nat}

/-! ## The condition -/

/-- In a batch `LOCK_ACK` comes before `BOUND`. -/
def acksLockEarly : List ControlUpEvent → Bool
  | [] => false
  | .lockAck :: _ => true
  | .bound _ :: _ => false
  | .malformed :: _ => false
  | .other :: _ => false
  | _ :: batch => acksLockEarly batch

/-- No caller is waiting for a lock to be acknowledged before `BOUND`. -/
def LockHeld (s : FrontChildren) (batch : List ControlUpEvent) : Prop :=
  s.state = .locking → s.startSettle = none ∨ acksLockEarly batch = false

def takesExit (s : FrontChildren) (token : Nat) : Prop :=
  (s.children token).any (!·.settled) = true ∧ s.quitRequested = false ∧ s.state ≠ .stopped ∧
    s.live.all (· = token) = true

/-- The dead stay dead, a start is alone, and callers are not left behind. -/
def Orderly (s : FrontChildren) : ChildrenEvent → Prop
  | .start _ => s.state = .serving ∨ s.startSettle = none ∧ s.liveChild.all (!·.running) = true
  | .quit => s.startSettle = none ∨ s.liveChild.any FrontChild.acked = true
  | .quitResumes => s.startSettle = none ∨ s.quits = 0
  | .dispose => s.startSettle = none
  | .controlUp token batch => s.hears token = true → s.LockHeld batch
  | .processError token _ =>
    s.live = none → token = s.spawnToken → (s.children token).any FrontChild.settled = true →
      s.state = .stopped ∨ s.quitRequested = true
  | .exits token code _ => code = some 9 → s.takesExit token → s.startSettle = none
  | _ => True

/-! ## The invariant -/

/-- Deaths are accounted once, and callers are answered. -/
structure Accounted (s : FrontChildren) : Prop where
  known : ∀ {token}, s.live = some token → ∃ child, s.children token = some child
  minted : ∀ {token child}, s.children token = some child → token ≤ s.spawnToken
  unspent : ∀ {token}, s.spawnToken < token → s.spent token = 0
  once : ∀ token, s.spent token ≤ 1
  settled : ∀ {token child}, s.children token = some child → child.settled = false →
    s.spent token = 0
  /-- The planes of the last child, when it is accounted, are listened to while it is live. -/
  listened : ∀ {child}, s.children s.spawnToken = some child → child.planesDisposed = false →
    child.settled = true → s.live = some s.spawnToken
  /-- The last child, when it is not accounted, is live, or the supervisor has stopped. -/
  last : ∀ {child}, s.children s.spawnToken = some child → child.settled = false →
    s.live = some s.spawnToken ∨ s.live = none ∧ s.state = .stopped
  idle : s.state = .failed → s.live = none
  running : ∀ {token child}, s.children token = some child → child.running = true →
    s.live = some token
  armed : ∀ {token}, s.bringupTimer = some token → s.live = some token
  waiting : s.waiting = s.startSettle.toList
  answered : s.state = .serving ∨ s.state = .stopped ∨ s.state = .failed → s.startSettle = none

theorem initial_accounted : Accounted initial where
  known := by simp [initial]
  minted := by simp [initial]
  unspent := fun _ => rfl
  once := fun _ => Nat.zero_le 1
  settled := by simp [initial]
  listened := by simp [initial]
  last := by simp [initial]
  idle := by simp [initial]
  running := by simp [initial]
  armed := by simp [initial]
  waiting := rfl
  answered := by simp [initial]

theorem Accounted.restate (accounted : Accounted s) (state : FrontSupervisorState)
    (stopped : s.live = none → s.state = .stopped → state = .stopped)
    (failed : state = .failed → s.live = none)
    (answered : state = .serving ∨ state = .stopped ∨ state = .failed → s.startSettle = none) :
    Accounted { s with state := state } :=
  { accounted with
    last := fun found unsettled => (accounted.last found unsettled).imp id
      fun gone => ⟨gone.1, stopped gone.1 gone.2⟩
    idle := failed
    answered := answered }

theorem Accounted.move (accounted : Accounted s) (live : s.live ≠ none)
    (state : FrontSupervisorState)
    (waits : state ≠ .serving ∧ state ≠ .stopped ∧ state ≠ .failed) :
    Accounted { s with state := state } := by
  refine accounted.restate state (fun gone => absurd gone live) (fun failed => ?_) fun ends => ?_
  · exact absurd failed waits.2.2
  · rcases ends with ends | ends | ends
    · exact absurd ends waits.1
    · exact absurd ends waits.2.1
    · exact absurd ends waits.2.2

/-! ## Changes of children -/

/-- What a change of a record may do: nothing to the planes, and no child is made running or
unsettled. -/
structure Harmless (change : FrontChild → FrontChild) : Prop where
  planes : ∀ child, (change child).planesDisposed = child.planesDisposed
  settled : ∀ child, child.settled = true → (change child).settled = true
  running : ∀ child, (change child).running = true → child.running = true

variable {change : FrontChild → FrontChild}

theorem Harmless.unsettled (harmless : Harmless change) {child : FrontChild}
    (unsettled : (change child).settled = false) : child.settled = false := by
  cases before : child.settled with
  | false => rfl
  | true => rw [harmless.settled child before] at unsettled; cases unsettled

theorem updateChild_accounted (accounted : Accounted s) (token : Nat)
    (change : FrontChild → FrontChild) (harmless : Harmless change)
    (same : ∀ child, (change child).settled = child.settled) :
    Accounted (s.updateChild token change) := by
  have found : ∀ {other child}, (s.updateChild token change).children other = some child →
      ∃ before, s.children other = some before ∧ child.settled = before.settled ∧
        child.planesDisposed = before.planesDisposed ∧
        (child.running = true → before.running = true) := by
    intro other child after
    simp only [updateChild] at after
    split at after
    · obtain ⟨before, found, rfl⟩ := Option.map_eq_some_iff.mp after
      exact ⟨before, found, same before, harmless.planes before, harmless.running before⟩
    · exact ⟨child, after, rfl, rfl, id⟩
  refine { accounted with
    known := fun live => ?_
    minted := fun after => ?_
    settled := fun after unsettled => ?_
    listened := fun after planes settled => ?_
    last := fun after unsettled => ?_
    running := fun after running => ?_ }
  · obtain ⟨child, known⟩ := accounted.known live
    simp only [updateChild, known]
    split <;> exact ⟨_, rfl⟩
  · obtain ⟨before, known, _⟩ := found after
    exact accounted.minted known
  · obtain ⟨before, known, settled, _⟩ := found after
    exact accounted.settled known (settled ▸ unsettled)
  · obtain ⟨before, known, settled', planes', _⟩ := found after
    exact accounted.listened known (planes' ▸ planes) (settled' ▸ settled)
  · obtain ⟨before, known, settled, _⟩ := found after
    exact accounted.last known (settled ▸ unsettled)
  · obtain ⟨before, known, _, _, ran⟩ := found after
    exact accounted.running known (ran running)

theorem updateLive_accounted (accounted : Accounted s) (harmless : Harmless change) :
    Accounted (s.updateLive change) := by
  have found : ∀ {other child}, (s.updateLive change).children other = some child →
      s.live = some other ∧ (∃ before, s.children other = some before ∧ child = change before) ∨
        s.live ≠ some other ∧ s.children other = some child := by
    intro other child after
    simp only [updateLive] at after
    split at after
    · rename_i live
      obtain ⟨before, known, changed⟩ := Option.map_eq_some_iff.mp after
      exact .inl ⟨live, before, known, changed.symm⟩
    · rename_i other'
      exact .inr ⟨other', after⟩
  refine { accounted with
    known := fun live => ?_
    minted := fun after => ?_
    settled := fun after unsettled => ?_
    listened := fun after planes settled => ?_
    last := fun after unsettled => ?_
    running := fun after running => ?_ }
  · obtain ⟨child, known⟩ := accounted.known live
    simp only [updateLive, known]
    split <;> exact ⟨_, rfl⟩
  · rcases found after with ⟨_, before, known, _⟩ | ⟨_, known⟩
    · exact accounted.minted known
    · exact accounted.minted known
  · rcases found after with ⟨_, before, known, rfl⟩ | ⟨_, known⟩
    · exact accounted.settled known (harmless.unsettled unsettled)
    · exact accounted.settled known unsettled
  · rcases found after with ⟨live, _⟩ | ⟨_, known⟩
    · exact live
    · exact accounted.listened known planes settled
  · rcases found after with ⟨live, _⟩ | ⟨_, known⟩
    · exact .inl live
    · exact accounted.last known unsettled
  · rcases found after with ⟨live, _⟩ | ⟨_, known⟩
    · exact live
    · exact accounted.running known running

theorem settle_harmless : Harmless fun child => { child with settled := true } :=
  ⟨fun _ => rfl, fun _ _ => rfl, fun _ => id⟩

/-! ## Failures -/

section
variable (accounted : Accounted s)
include accounted

theorem giveUp_accounted (alreadyDead : Bool)
    (dead : alreadyDead = true → ∀ child, s.liveChild = some child → child.running = false)
    (settled : ∀ child, s.liveChild = some child → child.settled = true ∨ s.state = .stopped) :
    Accounted (s.giveUp alreadyDead) := by
  have found : ∀ {other child}, (s.giveUp alreadyDead).children other = some child →
      s.live = some other ∧ (∃ before, s.liveChild = some before ∧ s.children other = some before ∧
        child = { before with
          planesDisposed := true
          killed := before.killed || !alreadyDead }) ∨
        s.live ≠ some other ∧ s.children other = some child := by
    intro other child after
    simp only [giveUp, updateLive] at after
    split at after
    · rename_i live
      obtain ⟨before, known, changed⟩ := Option.map_eq_some_iff.mp after
      exact .inl ⟨live, before, by simp [liveChild, live, known], known, changed.symm⟩
    · rename_i other'
      exact .inr ⟨other', after⟩
  refine { accounted with
    known := fun live => by cases live
    minted := fun after => ?_
    settled := fun after unsettled => ?_
    listened := fun after planes settled' => ?_
    last := fun after unsettled => ?_
    idle := fun _ => rfl
    running := fun after running => ?_
    armed := fun armed => by cases armed }
  · rcases found after with ⟨_, before, _, known, _⟩ | ⟨_, known⟩
    · exact accounted.minted known
    · exact accounted.minted known
  · rcases found after with ⟨_, before, _, known, rfl⟩ | ⟨_, known⟩
    · exact accounted.settled known unsettled
    · exact accounted.settled known unsettled
  · rcases found after with ⟨_, before, _, _, rfl⟩ | ⟨other, known⟩
    · cases planes
    · exact absurd (accounted.listened known planes settled') other
  · rcases found after with ⟨_, before, live, _, rfl⟩ | ⟨other, known⟩
    · rcases settled before live with already | stopped
      · rw [show before.settled = false from unsettled] at already
        cases already
      · exact .inr ⟨rfl, stopped⟩
    · exact .inr ⟨rfl, ((accounted.last known unsettled).resolve_left other).2⟩
  · rcases found after with ⟨_, before, live, _, rfl⟩ | ⟨other, known⟩
    · cases alreadyDead with
      | false => simp [FrontChild.running] at running
      | true =>
        have gone := dead rfl before live
        simp only [FrontChild.running] at gone running
        simp only [Bool.not_true, Bool.or_false] at running
        rw [running] at gone
        cases gone
    · exact absurd (accounted.running known running) other

theorem finishFailed_accounted (failure : FrontFailureName) (live : s.live = none)
    (unstopped : s.state ≠ .stopped) : Accounted (s.finishFailed failure) :=
  { accounted with
    last := fun found unsettled => (accounted.last found unsettled).imp id
      fun gone => absurd gone.2 unstopped
    idle := fun _ => live
    waiting := by
      have waiting := accounted.waiting
      simp only [finishFailed, settleStart]
      rw [waiting]
      cases s.startSettle <;> simp
    answered := fun _ => rfl }

theorem spend_accounted (token : Nat) (minted : token ≤ s.spawnToken) (unspent : s.spent token = 0)
    (settled : ∀ child, s.children token = some child → child.settled = true) :
    Accounted (s.spend token) :=
  { accounted with
    unspent := fun {other} later => by
      have different : other ≠ token := fun same => by subst same; exact absurd minted (by
        simpa [spend] using later)
      simpa [spend, different] using accounted.unspent later
    once := fun other => by
      by_cases same : other = token
      · subst same
        simp [spend, unspent]
      · simpa [spend, same] using accounted.once other
    settled := fun {other child} found unsettled => by
      have different : other ≠ token := fun same => by
        subst same
        rw [settled child found] at unsettled
        cases unsettled
      simpa [spend, different] using accounted.settled found unsettled }

theorem scheduleRestart_accounted (unstopped : s.state ≠ .stopped) (gone : s.live = none)
    (live : Option Nat) :
    Accounted (s.scheduleRestart live).1 ∧ (s.scheduleRestart live).1.live = none := by
  have starting : Accounted { s with state := .starting } := by
    refine accounted.restate .starting (fun _ stopped => absurd stopped unstopped) ?_ ?_ <;> simp
  unfold scheduleRestart
  cases live with
  | none => exact ⟨starting, gone⟩
  | some token => exact ⟨{ starting with }, gone⟩

theorem account_accounted (failure : FrontFailureName) (alreadyDead : Bool)
    (unstopped : s.state ≠ .stopped)
    (dead : alreadyDead = true → ∀ child, s.liveChild = some child → child.running = false)
    (settled : ∀ child, s.children token = some child → child.settled = true)
    (own : ∀ live, s.live = some live → live = token) (minted : token ≤ s.spawnToken)
    (unspent : s.spent token = 0) :
    Accounted (s.account token failure alreadyDead).1 ∧
      (s.account token failure alreadyDead).1.live = none := by
  have givenUp : Accounted (s.giveUp alreadyDead) := by
    refine giveUp_accounted accounted alreadyDead dead fun child found => .inl ?_
    cases live : s.live with
    | none => simp [liveChild, live] at found
    | some current =>
      obtain rfl := own current live
      exact settled child (by simpa [liveChild, live] using found)
  unfold account
  dsimp only
  split
  · exact ⟨finishFailed_accounted givenUp failure rfl unstopped, rfl⟩
  split
  · have settled' : ∀ child, (s.giveUp alreadyDead).children token = some child →
        child.settled = true := by
      intro child after
      simp only [giveUp, updateLive] at after
      split at after
      · obtain ⟨before, known, rfl⟩ := Option.map_eq_some_iff.mp after
        exact settled before known
      · exact settled child after
    have spent := spend_accounted givenUp token minted unspent settled'
    exact scheduleRestart_accounted spent unstopped rfl s.live
  · exact ⟨finishFailed_accounted givenUp _ rfl unstopped, rfl⟩

/-- A failure is accounted once. One that comes without a live child is of a spawn that threw, or
comes after the stop. -/
theorem fail_accounted (token : Nat) (failure : FrontFailureName) (alreadyDead : Bool)
    (dead : alreadyDead = true → ∀ child, s.children token = some child → child.running = false)
    (threw : s.live = none → token = s.spawnToken → (s.state = .stopped ∨ s.quitRequested = true) ∨
        s.children token = none ∧ s.spent token = 0) :
    Accounted (s.fail token failure alreadyDead).1 ∧ ((s.fail token failure alreadyDead).2 = true →
        (s.fail token failure alreadyDead).1.live = none) := by
  rcases fail_cases s token failure alreadyDead with
    ignored | ⟨current, unsettled, ⟨_, recorded⟩ | ⟨unstopped, stays, counted⟩⟩
  · rw [ignored]
    exact ⟨accounted, by simp⟩
  · rw [recorded]
    exact ⟨updateLive_accounted accounted settle_harmless, by simp⟩
  · rw [counted]
    have settled := updateLive_accounted accounted settle_harmless
    have facts : (∀ child, (s.updateLive fun child => { child with settled := true }).children
          token = some child → child.settled = true) ∧
        (∀ live, s.live = some live → live = token) ∧ token ≤ s.spawnToken ∧
        s.spent token = 0 := by
      rcases current with live | ⟨none', last⟩
      · obtain ⟨before, known⟩ := accounted.known live
        refine ⟨fun child after => ?_, fun other found => ?_, accounted.minted known, ?_⟩
        · simp only [updateLive, if_pos live] at after
          obtain ⟨_, _, rfl⟩ := Option.map_eq_some_iff.mp after
          rfl
        · rw [live] at found
          exact (Option.some.inj found).symm
        · exact accounted.settled known (unsettled before (by simp [liveChild, live, known]))
      · rcases threw none' last with (stopped | quits) | ⟨absent, unspent⟩
        · exact absurd stopped unstopped
        · rw [stays] at quits
          cases quits
        · refine ⟨fun child after => ?_, fun live found => ?_, last.le, unspent⟩
          · simp [updateLive, none', absent] at after
          · rw [none'] at found
            cases found
    have deadLive : alreadyDead = true →
        ∀ child, (s.updateLive fun child => { child with settled := true }).liveChild = some child →
          child.running = false := by
      intro already child found
      cases live : s.live with
      | none =>
        change (s.live.bind _) = some child at found
        simp [live] at found
      | some other =>
        obtain rfl := facts.2.1 other live
        change (s.live.bind _) = some child at found
        simp only [live, Option.bind_some, updateLive, if_true] at found
        obtain ⟨before, known, rfl⟩ := Option.map_eq_some_iff.mp found
        exact dead already before known
    have result := account_accounted settled failure alreadyDead unstopped deadLive facts.1
      facts.2.1 facts.2.2.1 facts.2.2.2
    exact ⟨result.1, fun _ => result.2⟩

theorem failCurrent_accounted (failure : FrontFailureName) : Accounted (s.failCurrent failure) := by
  unfold failCurrent
  split
  · exact accounted
  · rename_i token live
    refine (fail_accounted accounted token failure false (by simp) fun none' => ?_).1
    rw [live] at none'
    cases none'

/-! ## Spawns -/

theorem beginSpawn_accounted : Accounted s.beginSpawn := by
  have fresh : s.children (s.spawnToken + 1) = none := by
    cases found : s.children (s.spawnToken + 1) with
    | none => rfl
    | some child => exact absurd (accounted.minted found) (Nat.not_succ_le_self _)
  exact { accounted with
    minted := fun found => (accounted.minted found).trans (Nat.le_succ _)
    unspent := fun later => accounted.unspent (Nat.lt_of_succ_lt later)
    listened := fun found => by
      rw [show s.beginSpawn.children s.beginSpawn.spawnToken = none from fresh] at found
      cases found
    last := fun found => by
      rw [show s.beginSpawn.children s.beginSpawn.spawnToken = none from fresh] at found
      cases found
    idle := fun failed => by cases failed
    answered := fun ends => by rcases ends with ends | ends | ends <;> cases ends }

theorem beginSpawn_fresh : s.beginSpawn.children s.beginSpawn.spawnToken = none ∧
      s.beginSpawn.spent s.beginSpawn.spawnToken = 0 := by
  refine ⟨?_, accounted.unspent (Nat.lt_succ_self _)⟩
  cases found : s.beginSpawn.children s.beginSpawn.spawnToken with
  | none => rfl
  | some child => exact absurd (accounted.minted found) (Nat.not_succ_le_self _)

theorem adopt_accounted (starting : s.state = .starting) (unspent : s.spent s.spawnToken = 0)
    (stopped : ∀ child, s.liveChild = some child → child.running = false) : Accounted s.adopt := by
  have found : ∀ {other child}, s.adopt.children other = some child →
      other = s.spawnToken ∧ child = .fresh ∨
        other ≠ s.spawnToken ∧ s.children other = some child := by
    intro other child after
    simp only [adopt] at after
    split at after
    · rename_i same
      exact .inl ⟨same, (Option.some.inj after).symm⟩
    · rename_i different
      exact .inr ⟨different, after⟩
  refine { accounted with
    known := fun live => ?_
    minted := fun after => ?_
    settled := fun after unsettled => ?_
    listened := fun _ _ _ => rfl
    last := fun _ _ => .inl rfl
    idle := fun failed => ?_
    running := fun after running => ?_
    armed := fun armed => armed }
  · obtain rfl := Option.some.inj live
    exact ⟨.fresh, if_pos rfl⟩
  · rcases found after with ⟨rfl, _⟩ | ⟨_, known⟩
    · exact le_rfl
    · exact accounted.minted known
  · rcases found after with ⟨rfl, _⟩ | ⟨_, known⟩
    · exact unspent
    · exact accounted.settled known unsettled
  · rw [show s.adopt.state = .starting from starting] at failed
    cases failed
  · rcases found after with ⟨rfl, _⟩ | ⟨_, known⟩
    · rfl
    · have live := accounted.running known running
      rw [stopped _ (by simp [liveChild, live, known])] at running
      cases running

end

theorem spawnOnce_accounted (helloRefused : Bool) (throws : Nat) (begun : Accounted s.beginSpawn)
    (fresh : s.beginSpawn.children s.beginSpawn.spawnToken = none ∧
      s.beginSpawn.spent s.beginSpawn.spawnToken = 0)
    (stopped : ∀ child, s.liveChild = some child → child.running = false) :
    Accounted (spawnOnce helloRefused throws s) := by
  induction throws generalizing s with
  | zero =>
    have adopted := adopt_accounted begun rfl fresh.2 stopped
    unfold spawnOnce
    dsimp only
    split
    · exact (fail_accounted adopted _ _ _ (by simp) fun none' => by cases none').1
    · exact adopted
  | succ throws ih =>
    have failed := fail_accounted begun s.beginSpawn.spawnToken .spawnFailed true (fun _ child found => by rw [fresh.1] at found; cases found)
      fun _ _ => .inr fresh
    unfold spawnOnce
    dsimp only
    split
    · rename_i again
      refine ih (beginSpawn_accounted failed.1) (beginSpawn_fresh failed.1) fun child found => ?_
      simp [liveChild, failed.2 again] at found
    · exact failed.1

theorem failThen_accounted (accounted : Accounted s) (answers : SpawnAnswers) (token : Nat)
    (failure : FrontFailureName) (alreadyDead : Bool)
    (dead : alreadyDead = true → ∀ child, s.children token = some child → child.running = false)
    (threw : s.live = none → token = s.spawnToken → (s.state = .stopped ∨ s.quitRequested = true) ∨
        s.children token = none ∧ s.spent token = 0) :
    Accounted (s.failThen answers token failure alreadyDead) := by
  have failed := fail_accounted accounted token failure alreadyDead dead threw
  unfold failThen
  dsimp only
  split
  · rename_i again
    refine spawnOnce_accounted _ _ (beginSpawn_accounted failed.1) (beginSpawn_fresh failed.1)
      fun child found => ?_
    simp [liveChild, failed.2 again] at found
  · exact failed.1

/-! ## Calls and frames -/

theorem dispose_accounted (accounted : Accounted s) (alone : s.startSettle = none) :
    Accounted s.dispose := by
  refine @giveUp_accounted { s with state := if s.state = .failed then .failed else .stopped }
    ?_ false (by simp) fun child found => ?_
  · refine accounted.restate _ (fun _ stopped => by simp [stopped]) (fun failed => ?_)
      fun _ => alone
    split at failed
    · exact accounted.idle ‹_›
    · cases failed
  · refine .inr ?_
    by_cases failed : s.state = .failed
    · change s.live.bind s.children = some child at found
      simp [accounted.idle failed] at found
    · exact if_neg failed

theorem serve_accounted (accounted : Accounted s) (live : s.live ≠ none) : Accounted s.serve := by
  have bound : Accounted (s.updateLive fun child => { child with bound := true }) :=
    updateLive_accounted accounted ⟨fun _ => rfl, fun _ => id, fun _ => id⟩
  exact { bound with
    last := fun found unsettled => (bound.last found unsettled).imp id
      fun gone => absurd gone.1 live
    idle := fun failed => by cases failed
    armed := fun armed => by cases armed
    waiting := by
      have waiting := accounted.waiting
      simp only [serve, settleStart, updateLive]
      rw [waiting]
      cases s.startSettle <;> simp
    answered := fun _ => rfl }

theorem failCurrent_locking (failure : FrontFailureName)
    (locking : (s.failCurrent failure).state = .locking) :
    s.state = .locking ∧ (s.failCurrent failure).startSettle = s.startSettle := by
  unfold failCurrent at locking ⊢
  split at locking
  · exact ⟨locking, rfl⟩
  rename_i token live
  rcases fail_cases s token failure false with
    ignored | ⟨_, _, ⟨_, recorded⟩ | ⟨_, _, counted⟩⟩
  · rw [ignored] at locking ⊢
    exact ⟨locking, rfl⟩
  · rw [recorded] at locking ⊢
    exact ⟨locking, rfl⟩
  · rw [counted] at locking
    unfold account scheduleRestart at locking
    dsimp only at locking
    split at locking
    · cases locking
    split at locking
    · split at locking <;> cases locking
    · cases locking

theorem handleControlFrame_accounted (accounted : Accounted s) (event : ControlUpEvent)
    (batch : List ControlUpEvent) (held : s.LockHeld (event :: batch)) :
    Accounted (s.handleControlFrame event).1 ∧
      ((s.handleControlFrame event).2 = true → (s.handleControlFrame event).1.LockHeld batch) := by
  unfold handleControlFrame
  split
  · exact ⟨accounted, by simp⟩
  rename_i child found
  have live : s.live ≠ none := fun none' => by simp [liveChild, none'] at found
  have fails : ∀ failure, Accounted (s.failCurrent failure) := failCurrent_accounted accounted
  cases event with
  | malformed => exact ⟨fails _, by simp⟩
  | helloAck wrong =>
    dsimp only
    split
    · exact ⟨fails _, by simp⟩
    cases wrong with
    | some failure => exact ⟨fails _, by simp⟩
    | none =>
      refine ⟨updateLive_accounted accounted ⟨fun _ => rfl, fun _ => id, fun _ => id⟩, ?_⟩
      exact fun _ locking => held locking
  | bound wrong =>
    dsimp only
    split
    · exact ⟨fails _, by simp⟩
    cases wrong with
    | some failure => exact ⟨fails _, by simp⟩
    | none => exact ⟨serve_accounted accounted live, fun _ _ => .inl rfl⟩
  | lockAck =>
    dsimp only
    split
    · rename_i locking
      have alone : s.startSettle = none := (held locking).resolve_right (by simp [acksLockEarly])
      have unlocked : Accounted { s with lockTimer := false } := { accounted with }
      refine ⟨unlocked.restate .serving (fun none' => absurd none' live) (by simp) fun _ => alone,
        fun _ locking => by cases locking⟩
    · rename_i elsewhere
      exact ⟨{ accounted with }, fun _ locking => absurd locking elsewhere⟩
  | quitAck => exact ⟨accounted, fun _ => held⟩
  | pong => exact ⟨accounted, fun _ => held⟩
  | error name =>
    unfold handleErrorFrame
    dsimp only
    split
    · exact ⟨fails _, by simp⟩
    · exact ⟨fails _, by simp⟩
    · exact ⟨fails _, by simp⟩
    · exact ⟨accounted, fun _ => held⟩
  | relayed fatal =>
    dsimp only
    split
    · exact ⟨fails _, by simp⟩
    cases fatal with
    | none => exact ⟨accounted, fun _ => held⟩
    | some failure =>
      refine ⟨fails _, fun _ locking => ?_⟩
      obtain ⟨before, same⟩ := failCurrent_locking _ locking
      change (s.failCurrent failure.failure).startSettle = none ∨ _
      rw [same]
      exact held before
  | other => exact ⟨fails _, by simp⟩

theorem handleControlBatch_accounted (batch : List ControlUpEvent) (accounted : Accounted s)
    (held : s.LockHeld batch) : Accounted (s.handleControlBatch batch) := by
  induction batch generalizing s with
  | nil => exact accounted
  | cons event batch ih =>
    obtain ⟨handled, rest⟩ := handleControlFrame_accounted accounted event batch held
    unfold handleControlBatch
    dsimp only
    split
    · rename_i more
      exact ih handled (rest more)
    · exact handled

theorem relayReports_accounted (accounted : Accounted s) (fatal : Option FatalName) :
    Accounted (s.relayReports fatal) := by
  cases fatal with
  | none => exact accounted
  | some failure => exact failCurrent_accounted accounted _

theorem handleDataBatch_accounted (relay : Bool) (afterBatch : Option FatalName)
    (batch : List DataUpEvent) (accounted : Accounted s) :
    Accounted (s.handleDataBatch relay afterBatch batch) := by
  induction batch generalizing s with
  | nil =>
    unfold handleDataBatch
    split
    · exact relayReports_accounted accounted _
    · exact accounted
  | cons event batch ih =>
    cases event with
    | malformed => exact failCurrent_accounted accounted _
    | relayed fatal =>
      unfold handleDataBatch
      split
      · exact failCurrent_accounted accounted _
      · exact ih (relayReports_accounted accounted fatal)

/-! ## The process -/

theorem planeFails_accounted (accounted : Accounted s) (answers : SpawnAnswers) (token : Nat)
    (failure : FrontFailureName) : Accounted (s.planeFails answers token failure) := by
  unfold planeFails
  split
  · exact accounted
  rename_i listened
  refine failThen_accounted accounted answers token failure false (by simp) fun none' last => .inl ?_
  cases found : s.children token with
  | none => simp [found] at listened
  | some child =>
    have planes : child.planesDisposed = false := by simpa [found] using listened
    subst last
    cases settled : child.settled with
    | true =>
      have live := accounted.listened found planes settled
      rw [none'] at live
      cases live
    | false =>
      rcases accounted.last found settled with live | ⟨_, stopped⟩
      · rw [none'] at live
        cases live
      · exact .inl stopped

theorem processErrors_accounted (accounted : Accounted s) (answers : SpawnAnswers)
    (orderly : s.Orderly (.processError token answers)) :
    Accounted (s.processErrors answers token) := by
  unfold processErrors
  split
  · exact accounted
  rename_i known
  have errored := updateChild_accounted accounted token (fun child => { child with errored := true })
    ⟨fun _ => rfl, fun _ => id, fun _ running => by simp [FrontChild.running] at running⟩
    fun _ => rfl
  refine failThen_accounted errored answers token .spawnFailed true (fun _ child after => ?_)
    fun none' last => .inl ?_
  · simp only [updateChild, if_true] at after
    obtain ⟨_, _, rfl⟩ := Option.map_eq_some_iff.mp after
    simp [FrontChild.running]
  · have gone : s.live = none := none'
    have last : token = s.spawnToken := last
    obtain ⟨child, found⟩ := Option.ne_none_iff_exists'.mp known
    cases settled : child.settled with
    | true => exact orderly gone last (by simp [found, settled])
    | false =>
      subst last
      rcases accounted.last found settled with live | ⟨_, stopped⟩
      · rw [gone] at live
        cases live
      · exact .inl stopped

theorem childExits_accounted (accounted : Accounted s) (answers : SpawnAnswers)
    {code : Option Int} (orderly : s.Orderly (.exits token code answers)) :
    Accounted (s.childExits answers token code) := by
  unfold childExits
  split
  · exact accounted
  rename_i child found
  have exited := updateChild_accounted accounted token (fun child => { child with exited := true })
    ⟨fun _ => rfl, fun _ => id, fun _ running => by simp [FrontChild.running] at running⟩
    fun _ => rfl
  have woken : Accounted { s.updateChild token fun child => { child with exited := true } with
      waits := s.waits.map fun wait =>
        if wait.token = token ∧ wait.observed = none then { wait with observed := some true }
        else wait } := { exited with }
  dsimp only
  split
  · exact woken
  rename_i unsettled
  unfold handleExit
  split
  · exact woken
  rename_i runs
  split
  · exact woken
  rename_i current
  have runs : ¬(s.quitRequested = true ∨ s.state = .stopped) := runs
  rw [not_or] at runs
  have current : ¬s.live.any (· ≠ token) = true := current
  split
  · rename_i parentDeath
    have alone : s.startSettle = none := by
      refine orderly parentDeath ⟨by simpa [found] using unsettled, by simpa using runs.1, runs.2, ?_⟩
      cases live : s.live with
      | none => rfl
      | some other => simpa [live] using current
    exact woken.restate .stopped (fun _ _ => rfl) (by simp) fun _ => alone
  · refine failThen_accounted woken answers token _ true (fun _ other after => ?_)
      fun none' last => .inl ?_
    · simp only [updateChild, if_true] at after
      obtain ⟨_, _, rfl⟩ := Option.map_eq_some_iff.mp after
      simp [FrontChild.running]
    · have gone : s.live = none := none'
      have last : token = s.spawnToken := last
      subst last
      rcases accounted.last found (by simpa using unsettled) with live | ⟨_, stopped⟩
      · rw [gone] at live
        cases live
      · exact .inl stopped

/-! ## Steps and runs -/

theorem step_accounted (accounted : Accounted s) (event : ChildrenEvent)
    (orderly : s.Orderly event) : Accounted (s.step event) := by
  cases event with
  | start answers =>
    simp only [step, start]
    split
    · exact accounted
    rename_i elsewhere
    obtain ⟨alone, stopped⟩ := orderly.resolve_left elsewhere
    have waiting : s.waiting = [] := by rw [accounted.waiting, alone]; rfl
    -- The caller waits from the spawn on, whatever state the supervisor was in.
    have fresh := beginSpawn_fresh accounted
    refine spawnOnce_accounted _ _ ?_ fresh fun child found => ?_
    · exact { beginSpawn_accounted accounted with
        waiting := by simp [beginSpawn, waiting]
        answered := fun ends => by rcases ends with ends | ends | ends <;> cases ends }
    · have found : s.liveChild = some child := found
      simpa [found] using stopped
  | lock =>
    simp only [step, lock]
    split
    · exact accounted
    rename_i child found
    have live : s.live ≠ none := fun none' => by simp [liveChild, none'] at found
    split
    · exact accounted
    have locking := accounted.move live .locking (by simp)
    split
    · exact failCurrent_accounted locking _
    · exact { locking with }
  | quit =>
    simp only [step, quit]
    split
    · rename_i gone
      have none' : s.live = none := by
        cases live : s.live with
        | none => rfl
        | some token =>
          obtain ⟨child, found⟩ := accounted.known live
          change s.live.bind s.children = none at gone
          simp [live, found] at gone
      have alone : s.startSettle = none := by
        refine orderly.resolve_right fun acked => ?_
        simp [liveChild, none'] at acked
      have requested : Accounted { s with quitRequested := true } := { accounted with }
      exact requested.restate .stopped (fun _ _ => rfl) (by simp) fun _ => alone
    · rename_i child found
      have found : s.liveChild = some child := found
      have live : s.live ≠ none := fun none' => by simp [liveChild, none'] at found
      have requested : Accounted { s with quitRequested := true } := { accounted with }
      have quitting := requested.move live .quitting (by simp)
      split
      · exact { quitting with }
      · rename_i unacked
        refine dispose_accounted quitting (orderly.resolve_right fun acked => ?_)
        rw [found] at acked
        exact unacked acked
  | quitResumes =>
    simp only [step]
    split
    · exact accounted
    · rename_i waits
      have left : Accounted { s with quits := s.quits - 1 } := { accounted with }
      exact dispose_accounted left (orderly.resolve_right waits)
  | dispose => exact dispose_accounted accounted orderly
  | controlUp token batch =>
    simp only [step]
    split
    · rename_i heard
      exact handleControlBatch_accounted batch accounted (orderly heard)
    · exact accounted
  | dataUp token batch afterBatch =>
    simp only [step]
    split
    · exact handleDataBatch_accounted _ _ batch accounted
    · exact accounted
  | relayFatal failure => exact failCurrent_accounted accounted _
  | planeEof token answers | planeError token answers =>
    exact planeFails_accounted accounted answers token _
  | processError token answers => exact processErrors_accounted accounted answers orderly
  | exits token code answers => exact childExits_accounted accounted answers orderly
  | bringupExpires answers =>
    simp only [step]
    split
    · exact accounted
    rename_i token armed
    have unarmed : Accounted { s with bringupTimer := none } :=
      { accounted with armed := fun armed => by cases armed }
    refine failThen_accounted unarmed answers token _ false (by simp) fun none' => ?_
    have live := accounted.armed armed
    have gone : s.live = none := none'
    rw [gone] at live
    cases live
  | lockExpires =>
    simp only [step]
    split
    · refine failCurrent_accounted ?_ _
      exact { accounted with }
    · exact accounted
  | exitWaitExpires index => exact { accounted with }
  | restartResumes index answers =>
    simp only [step, restartResumes]
    split
    · have resumed : Accounted { s with waits := s.waits.eraseIdx index } := { accounted with }
      split
      · rename_i may
        refine spawnOnce_accounted _ _ (beginSpawn_accounted resumed) (beginSpawn_fresh resumed)
          fun child found => ?_
        have gone : s.live = none := by
          simp only [mayRestart, Bool.and_eq_true, Option.isNone_iff_eq_none] at may
          exact may.2
        change s.live.bind s.children = some child at found
        simp [gone] at found
      · exact resumed
    · exact accounted

def OneRunning (s : FrontChildren) : Prop :=
  ∀ first second one other, s.children first = some one → s.children second = some other →
    one.running = true → other.running = true → first = second

/-- No caller waits while the supervisor serves, has stopped or has failed. -/
def Answered (s : FrontChildren) : Prop :=
  s.state = .serving ∨ s.state = .stopped ∨ s.state = .failed → s.waiting = []

/-- In a run of orderly steps each child spends at most one unit, no two children run, callers are
answered, and at most seven children are spawned per start. -/
theorem one_death_one_restart (events : List ChildrenEvent)
    (along : Along step Orderly initial events) :
    (∀ token, (run step initial events).spent token ≤ 1) ∧ OneRunning (run step initial events) ∧
      Answered (run step initial events) ∧ (run step initial events).spawned ≤ 7 := by
  have accounted : Accounted (run step initial events) :=
    along.induction (motive := Accounted) (fun _ event orderly accounted =>
      step_accounted accounted event orderly) initial_accounted
  refine ⟨accounted.once, fun first second one other found found' runs runs' => ?_, fun ends => ?_,
    seven_children events⟩
  · have live := accounted.running found runs
    rw [accounted.running found' runs'] at live
    exact (Option.some.inj live).symm
  · rw [accounted.waiting, accounted.answered ends]
    rfl

def spawns : SpawnAnswers := ⟨0, false⟩

/-- A front that serves and ends a plane, its exit, and the front that replaces it. -/
theorem one_death_one_restart_example :
    (run step initial [.start spawns, .controlUp 1 [.helloAck none, .bound none],
      .planeEof 1 spawns, .exits 1 none spawns, .restartResumes 0 spawns]).spent 1 ≤ 1 := by
  refine (one_death_one_restart [.start spawns, .controlUp 1 [.helloAck none, .bound none],
    .planeEof 1 spawns, .exits 1 none spawns, .restartResumes 0 spawns] ?_).1 1
  refine ⟨.inr ⟨rfl, rfl⟩, ⟨?_, trivial, ?_, trivial, trivial⟩⟩
  · intro _ locking
    cases locking
  · intro code
    cases code

/-- A plane ends, and then the process of the child, which main has killed, reports an error: the
child spends two units. A dispose, the parent's death, and a lock that is acknowledged before
`BOUND` leave the caller of `start` waiting. -/
theorem two_units_and_forgotten_callers :
    (run step initial [.start spawns, .planeEof 1 spawns, .processError 1 spawns]).spent 1 = 2 ∧
    ¬Answered (run step initial [.start spawns, .dispose]) ∧
    ¬Answered (run step initial [.start spawns, .exits 1 (some 9) spawns]) ∧
    ¬Answered (run step initial
      [.start spawns, .controlUp 1 [.helloAck none], .lock, .controlUp 1 [.lockAck]]) := by
  refine ⟨rfl, fun answered => ?_, fun answered => ?_, fun answered => ?_⟩
  · cases answered (.inr (.inl rfl))
  · cases answered (.inr (.inl rfl))
  · cases answered (.inl rfl)

end FrontChildren

end Vex.Studio
