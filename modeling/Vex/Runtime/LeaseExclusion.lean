import Vex.Runtime.LeaseClaims

/-!
# One runner at a time

A claim excludes the others as long as three things hold of the run: a lease is
claimed only under an owner string that no live handle has, no two claims that
found no lease overlap, and a claim that finds a lease expired began after it
expired. Then whoever claimed the lease and did not lapse is the one the row was
written by (`Sound.standing`), a release removes the lease of its own claim, and
no claim that passed the check throws. `lease_excludes` says it of every run.
-/

namespace Vex.Runtime

open Vex.Library

namespace Session

variable (s : Session)

def phase (a : Nat) : Phase := (s.attempts a).phase

def owner (a : Nat) : JsString := (s.attempts a).input.ownerId

/-- The attempt was told it claimed the lease and has not released it. -/
def Running (a number : Nat) : Prop := ∃ live, s.phase a = .claimed number live

/-- The attempt holds a handle that still renews and releases. -/
def LiveHandle (a : Nat) : Prop := ∃ number, s.phase a = .claimed number true

/-- The attempt found no lease and is about to insert one. -/
def Inserting (a : Nat) : Prop := ∃ start previousStatus, s.phase a = .validated start previousStatus false

/-- The lease excludes a second runner in the state: of two attempts that run, the lease of the
one that claimed first has run out or was deleted by a stop; a release removes only the lease its
own attempt claimed; and no claim was turned into an exception. -/
structure Excludes : Prop where
  exclusion : ∀ a b earlier later, s.Running a earlier → s.Running b later → earlier < later →
    s.lapsed a = true
  ownRelease : ∀ a t held, s.release a = some t → s.lease = some held → t.lease = none →
    held.claim = a
  neverThrows : ∀ a, s.phase a ≠ .threw

/-- When the steps of a run meet the condition. -/
def Admits (s : Session) : Event → Prop
  | .readLease a newDate =>
    (s.lease = none → ∀ b, ¬ s.Inserting b) ∧ ∀ held start previousStatus, s.lease = some held →
        s.beforeLease a = some (start, previousStatus) → held.row.ownerId ≠ s.owner a →
        held.row.expiresAt < newDate → held.row.expiresAt < start
  | .write a => ∀ b, b ≠ a → s.LiveHandle b → s.owner b ≠ s.owner a
  | _ => True

/-! ## What the small steps change -/

@[simp, grind =] theorem phase_enter (a b : Nat) (phase : Phase) :
    (s.enter a phase).phase b = if b = a then phase else s.phase b := by
  unfold Session.phase enter
  by_cases same : b = a
  · simp [same]
  · simp [same]

@[simp, grind =] theorem owner_enter (a b : Nat) (phase : Phase) :
    (s.enter a phase).owner b = s.owner b := by
  unfold owner enter
  by_cases same : b = a
  · simp [same]
  · simp [same]

@[simp, grind =] theorem phase_finish (a b : Nat) (phase : Phase) :
    (s.finish a phase).phase b = if b = a then phase else s.phase b := phase_enter (s.unlock a) a b phase

@[simp, grind =] theorem owner_finish (a b : Nat) (phase : Phase) :
    (s.finish a phase).owner b = s.owner b := owner_enter (s.unlock a) a b phase

@[simp, grind =] theorem leaseLock_finish (a : Nat) (phase : Phase) :
    (s.finish a phase).leaseLock = if s.leaseLock = some a then none else s.leaseLock := rfl

structure SameRows (s t : Session) : Prop where
  clock : t.clock = s.clock
  lease : t.lease = s.lease
  claims : t.claims = s.claims
  lapsed : t.lapsed = s.lapsed

theorem enter_same (a : Nat) (phase : Phase) : SameRows s (s.enter a phase) := ⟨rfl, rfl, rfl, rfl⟩

theorem finish_same (a : Nat) (phase : Phase) : SameRows s (s.finish a phase) :=
  ⟨rfl, rfl, rfl, rfl⟩

/-! ## The invariant -/

/-- What holds of a session between two steps, apart from the lapse of a lease that ran out. -/
structure Kept (s : Session) : Prop where
  /-- A transaction under way began in the past. -/
  begun : ∀ a start, (s.phase a = .opened start ∨ (∃ status, s.phase a = .runLocked start status)
    ∨ ∃ status found, s.phase a = .validated start status found) → start ≤ s.clock
  made : ∀ held, s.lease = some held → s.phase held.claim ≠ .notMade
  owned : ∀ held, s.lease = some held → held.row.ownerId = s.owner held.claim
  /-- Who holds the lock on the lease is the one that checked it. -/
  locker : ∀ a, s.leaseLock = some a → ∃ start status, s.phase a = .validated start status true
  lock : ∀ a start status, s.phase a = .validated start status true → s.leaseLock = some a ∧
    ∃ held, s.lease = some held ∧ (held.row.expiresAt < start ∨ held.row.ownerId = s.owner a)
  absent : ∀ a, s.Inserting a → s.lease = none
  first : ∀ a b, s.Inserting a → s.Inserting b → a = b
  own : ∀ a, s.LiveHandle a → ∀ held, s.lease = some held → held.row.ownerId = s.owner a →
    held.claim = a
  /-- Who runs and has not lapsed is the one that wrote the lease. -/
  standing : ∀ a number live, s.phase a = .claimed number live → s.lapsed a = false →
    live = true ∧ ∃ held, s.lease = some held ∧ held.claim = a
  numbered : ∀ a number, s.Running a number → number < s.claims
  newest : ∀ held number a earlier, s.lease = some held → s.Running held.claim number →
    s.Running a earlier → earlier ≤ number
  quiet : ∀ a, s.phase a ≠ .threw

/-- The invariant between two steps. -/
structure Sound (s : Session) : Prop extends Kept s where
  noted : ∀ held, s.lease = some held → held.row.expiresAt < s.clock → s.lapsed held.claim = true

theorem noteExpiry_sound {s : Session} (kept : Kept s) : Sound s.noteExpiry := by
  unfold noteExpiry
  split
  case h_1 gone => exact { kept with noted := by simp [gone] }
  case h_2 held there =>
    split_ifs with expired
    case pos =>
      refine { kept with standing := ?_, noted := ?_ }
      · intro a number live running standing
        refine kept.standing a number live running ?_
        by_cases same : a = held.claim
        · simp [same] at standing
        · simpa [same] using standing
      · intro other found _
        have same : other = held := Option.some.inj (found.symm.trans there)
        simp [same]
    case neg =>
      refine { kept with noted := ?_ }
      intro other found late
      rw [Option.some.inj (found.symm.trans there)] at late
      exact absurd late expired

/-- A transaction under way is taken to a phase in which it has not claimed the lease; the rows
stay. -/
structure Moves (s t : Session) (a : Nat) (phase : Phase) : Prop extends SameRows s t where
  phaseAt : ∀ b, t.phase b = if b = a then phase else s.phase b
  ownerAt : ∀ b, s.phase b ≠ .notMade → t.owner b = s.owner b

/-- A phase in which the attempt has not claimed the lease, and has not thrown. -/
structure Phase.Before (phase : Phase) : Prop where
  unclaimed : ∀ number live, phase ≠ .claimed number live
  made : phase ≠ .notMade
  quiet : phase ≠ .threw

namespace Moves

variable {s t : Session} {a : Nat} {phase : Phase} (moves : Moves s t a phase)

include moves

variable {b : Nat}

theorem at_other (other : b ≠ a) : t.phase b = s.phase b := by
  rw [moves.phaseAt b, if_neg other]

theorem at_self : t.phase a = phase := by
  rw [moves.phaseAt a, if_pos rfl]

theorem claimed (before : Phase.Before phase) {number : Nat} {live : Bool}
    (running : t.phase b = .claimed number live) : s.phase b = .claimed number live := by
  by_cases same : b = a
  · subst same
    exact absurd (moves.at_self.symm.trans running) (before.unclaimed number live)
  · exact (moves.at_other same).symm.trans running

theorem inserting (awaits : t.Inserting b) :
    (b = a ∧ ∃ start status, phase = .validated start status false) ∨ s.Inserting b := by
  obtain ⟨start, status, at_⟩ := awaits
  by_cases same : b = a
  · subst same
    exact Or.inl ⟨rfl, start, status, moves.at_self.symm.trans at_⟩
  · exact Or.inr ⟨start, status, (moves.at_other same).symm.trans at_⟩

theorem was_made (before : Phase.Before phase) (made : s.phase b ≠ .notMade) :
    t.phase b ≠ .notMade := by
  by_cases same : b = a
  · subst same
    rw [moves.at_self]
    exact before.made
  · rwa [moves.at_other same]

end Moves

variable {a : Nat}

variable {t : Session}

theorem kept_of_moves {s : Session} {phase : Phase} (sound : Sound s) (moves : Moves s t a phase)
    (before : Phase.Before phase)
    (begun : ∀ start, (phase = .opened start ∨ (∃ status, phase = .runLocked start status)
      ∨ ∃ status found, phase = .validated start status found) → start ≤ s.clock)
    (locker : ∀ b, t.leaseLock = some b → ∃ start status, t.phase b = .validated start status true)
    (lock : ∀ b start status, t.phase b = .validated start status true → t.leaseLock = some b ∧
      ∃ held, s.lease = some held ∧ (held.row.expiresAt < start ∨ held.row.ownerId = t.owner b))
    (absent : (∃ start status, phase = .validated start status false) →
      s.lease = none ∧ ∀ b, ¬ s.Inserting b) : Kept t where
  begun := by
    intro b start under
    rw [moves.clock]
    by_cases same : b = a
    · subst same
      rw [moves.at_self] at under
      exact begun start under
    · rw [moves.at_other same] at under
      exact sound.begun b start under
  made := by
    intro held there
    rw [moves.lease] at there
    exact moves.was_made before (sound.made held there)
  owned := by
    intro held there
    rw [moves.lease] at there
    rw [moves.ownerAt _ (sound.made held there)]
    exact sound.owned held there
  locker := locker
  lock := by rw [moves.lease]; exact lock
  absent := by
    intro b awaits
    rw [moves.lease]
    rcases moves.inserting awaits with ⟨-, here⟩ | there
    · exact (absent here).1
    · exact sound.absent b there
  first := by
    intro b c awaits awaits'
    rcases moves.inserting awaits with ⟨here, now⟩ | there <;>
      rcases moves.inserting awaits' with ⟨here', now'⟩ | there'
    · rw [here, here']
    · exact absurd there' ((absent now).2 c)
    · exact absurd there ((absent now').2 b)
    · exact sound.first b c there there'
  own := by
    rintro b ⟨number, live⟩ held there same
    rw [moves.lease] at there
    have lived := moves.claimed before live
    rw [moves.ownerAt b (by rw [lived]; nofun)] at same
    exact sound.own b ⟨number, lived⟩ held there same
  standing := by
    intro b number live running standing
    rw [moves.lapsed] at standing
    rw [moves.lease]
    exact sound.standing b number live (moves.claimed before running) standing
  numbered := by
    rintro b number ⟨live, running⟩
    rw [moves.claims]
    exact sound.numbered b number ⟨live, moves.claimed before running⟩
  newest := by
    rintro held number b earlier there ⟨live, running⟩ ⟨live', running'⟩
    rw [moves.lease] at there
    exact sound.newest held number b earlier there ⟨live, moves.claimed before running⟩
      ⟨live', moves.claimed before running'⟩
  quiet := by
    intro b
    by_cases same : b = a
    · subst same
      rw [moves.at_self]
      exact before.quiet
    · rw [moves.at_other same]
      exact sound.quiet b

/-! ## The steps of a claim -/

theorem kept_of_aside {s : Session} {p : Phase} (sound : Sound s) (moves : Moves s t a p)
    (before : Phase.Before p) (sameLock : t.leaseLock = s.leaseLock)
    (begun : ∀ start, (p = .opened start ∨ (∃ status, p = .runLocked start status)
      ∨ ∃ status found, p = .validated start status found) → start ≤ s.clock)
    (unlocked : ∀ start status, s.phase a ≠ .validated start status true)
    (unlocking : ∀ start status, p ≠ .validated start status true)
    (absent : (∃ start status, p = .validated start status false) →
      s.lease = none ∧ ∀ b, ¬ s.Inserting b) : Kept t := by
  refine kept_of_moves sound moves before begun ?_ ?_ absent
  · intro b locked
    obtain ⟨start, status, at_⟩ := sound.locker b (sameLock ▸ locked)
    have other : b ≠ a := by
      rintro rfl
      exact unlocked start status at_
    exact ⟨start, status, (moves.at_other other).trans at_⟩
  · intro b start status at_
    have other : b ≠ a := by
      rintro rfl
      exact unlocking start status (moves.at_self.symm.trans at_)
    have at_' := (moves.at_other other).symm.trans at_
    rw [sameLock, moves.ownerAt b (by rw [at_']; nofun)]
    exact sound.lock b start status at_'

theorem kept_of_finish {s : Session} {phase : Phase} (sound : Sound s) (before : Phase.Before phase)
    (over' : (∃ answer, phase = .refused answer) ∨ phase = .rolledBack) :
    Kept (s.finish a phase) := by
  have moves : Moves s (s.finish a phase) a phase :=
    { finish_same s a phase with
      phaseAt := fun b => phase_finish s a b phase
      ownerAt := fun b _ => owner_finish s a b phase }
  refine kept_of_moves sound moves before ?_ ?_ ?_ ?_
  · rcases over' with ⟨answer, rfl⟩ | rfl <;> simp
  · intro b locked
    rw [leaseLock_finish] at locked
    split_ifs at locked with mine
    obtain ⟨start, status, at_⟩ := sound.locker b locked
    have other : b ≠ a := by
      rintro rfl
      exact mine locked
    exact ⟨start, status, (moves.at_other other).trans at_⟩
  · intro b start status at_
    have other : b ≠ a := by
      rintro rfl
      rw [moves.at_self] at at_
      rcases over' with ⟨answer, rfl⟩ | rfl <;> cases at_
    have at_' := (moves.at_other other).symm.trans at_
    obtain ⟨locked, held⟩ := sound.lock b start status at_'
    rw [leaseLock_finish, locked, if_neg (by simpa using other), owner_finish]
    exact ⟨rfl, held⟩
  · rcases over' with ⟨answer, rfl⟩ | rfl <;> simp

theorem begin_kept {s : Session} {input : ClaimInput} (sound : Sound s)
    (did : s.begin a input = some t) : Kept t := by
  unfold begin at did
  split_ifs at did with fresh
  cases did
  refine kept_of_aside (a := a) (p := .opened s.clock) sound ?_ ?_ rfl ?_ ?_ ?_ ?_
  · refine { clock := rfl, lease := rfl, claims := rfl, lapsed := rfl, phaseAt := ?_, ownerAt := ?_ }
    · intro b
      by_cases same : b = a <;> simp [Session.phase, same]
    · intro b made
      have other : b ≠ a := by
        rintro rfl
        exact made fresh
      simp [owner, other]
  · exact ⟨nofun, nofun, nofun⟩
  · intro start under
    rcases under with here | ⟨_, here⟩ | ⟨_, _, here⟩ <;> cases here
    exact le_refl _
  · intro start status at_
    rw [Session.phase, fresh] at at_
    cases at_
  · nofun
  · rintro ⟨_, _, here⟩
    cases here

theorem readRun_kept {s : Session} (sound : Sound s) (did : s.readRun a = some t) : Kept t := by
  have answered : ∀ start id answer, s.phase a = .opened start → Kept (readRun.answer s a start id answer) := by
    intro start id answer opened
    have before : start ≤ s.clock := sound.begun a start (Or.inl opened)
    unfold readRun.answer
    split
    case h_1 refusal => exact kept_of_finish sound ⟨nofun, nofun, nofun⟩ (Or.inl ⟨_, rfl⟩)
    case h_2 =>
      split
      case h_1 => exact sound.toKept
      case h_2 run found =>
        refine kept_of_aside (a := a) (p := .runLocked start run.status) sound ?_ ?_ rfl
          ?_ ?_ ?_ ?_
        · exact { enter_same s a (.runLocked start run.status) with
            phaseAt := fun b => phase_enter s a b _
            ownerAt := fun b _ => owner_enter s a b _ }
        · exact ⟨nofun, nofun, nofun⟩
        · rintro other (here | ⟨_, here⟩ | ⟨_, _, here⟩) <;> cases here
          exact before
        · rw [opened]
          nofun
        · nofun
        · rintro ⟨_, _, here⟩
          cases here
  unfold readRun at did
  split at did
  case h_1 start id fromStatuses opened _ =>
    split_ifs at did
    exact Option.some.inj did ▸ answered start id _ opened
  case h_2 start id expectedAttempt opened _ =>
    split_ifs at did
    exact Option.some.inj did ▸ answered start id _ opened
  case h_3 => cases did

variable {start : Instant} {previousStatus : Option MissionRunStatus}

theorem beforeLease_eq_some {s : Session} (came : s.beforeLease a = some (start, previousStatus)) :
    s.phase a = .opened start ∨ ∃ status, s.phase a = .runLocked start status := by
  unfold beforeLease at came
  split at came
  case h_1 at_ _ => cases came; exact Or.inl at_
  case h_2 at_ _ => cases came; exact Or.inr ⟨_, at_⟩
  case h_3 at_ _ => cases came; exact Or.inr ⟨_, at_⟩
  case h_4 => cases came

theorem readLease_kept {s : Session} {newDate : Instant} (sound : Sound s)
    (admits : s.Admits (.readLease a newDate)) (did : s.readLease a newDate = some t) : Kept t := by
  unfold readLease at did
  split at did
  case h_1 => cases did
  case h_2 start previousStatus came =>
    have before : start ≤ s.clock := by
      rcases beforeLease_eq_some came with at_ | ⟨status, at_⟩
      · exact sound.begun a start (Or.inl at_)
      · exact sound.begun a start (Or.inr (Or.inl ⟨status, at_⟩))
    have unlocked : ∀ start status, s.phase a ≠ .validated start status true := by
      intro _ _ checked
      rcases beforeLease_eq_some came with at_ | ⟨status, at_⟩ <;>
        · rw [at_] at checked
          cases checked
    split_ifs at did with free
    split at did
    case h_1 gone =>
      cases did
      refine kept_of_aside (a := a) (p := .validated start previousStatus false) sound ?_ ?_
        rfl ?_ unlocked ?_ ?_
      · exact { enter_same s a (.validated start previousStatus false) with
          phaseAt := fun b => phase_enter s a b _
          ownerAt := fun b _ => owner_enter s a b _ }
      · exact ⟨nofun, nofun, nofun⟩
      · rintro other (here | ⟨_, here⟩ | ⟨_, _, here⟩) <;> cases here
        exact before
      · rintro _ _ ⟨⟩
      · exact fun _ => ⟨gone, admits.1 gone⟩
    case h_2 held there =>
      split_ifs at did with busy
      case pos =>
        exact Option.some.inj did ▸
          kept_of_finish sound ⟨nofun, nofun, nofun⟩ (Or.inl ⟨_, rfl⟩)
      case neg =>
        cases did
        have passed : held.row.expiresAt < start ∨ held.row.ownerId = s.owner a := by
          by_cases own : held.row.ownerId = s.owner a
          · exact Or.inr own
          · refine Or.inl (admits.2 held start previousStatus there came own ?_)
            by_contra late
            exact busy (decide_eq_true ⟨not_lt.mp late, own⟩)
        have alone : s.leaseLock = none := by
          rcases free with free | mine
          · exact free
          · obtain ⟨_, _, at_⟩ := sound.locker a mine
            exact absurd at_ (unlocked _ _)
        have moves : Moves s { s.enter a (.validated start previousStatus true) with
            leaseLock := some a } a (.validated start previousStatus true) :=
          { enter_same s a (.validated start previousStatus true) with
            phaseAt := fun b => phase_enter s a b _
            ownerAt := fun b _ => owner_enter s a b _ }
        refine kept_of_moves sound moves ⟨nofun, nofun, nofun⟩ ?_ ?_ ?_ ?_
        · rintro other (here | ⟨_, here⟩ | ⟨_, _, here⟩) <;> cases here
          exact before
        · intro b locked
          have same : a = b := Option.some.inj locked
          subst same
          exact ⟨start, previousStatus, moves.at_self⟩
        · intro b start' status at_
          by_cases same : b = a
          · subst same
            rw [moves.at_self] at at_
            cases at_
            exact ⟨rfl, held, there,
              passed.imp_right fun own => own.trans (moves.ownerAt b (by
                rcases beforeLease_eq_some came with at_ | ⟨status, at_⟩ <;> rw [at_] <;>
                  nofun)).symm⟩
          · rw [moves.at_other same] at at_
            have locked := (sound.lock b start' status at_).1
            rw [alone] at locked
            cases locked
        · rintro ⟨_, _, here⟩
          cases here

theorem rollback_kept {s : Session} (sound : Sound s) (did : s.rollback a = some t) : Kept t := by
  unfold rollback at did
  split at did
  case h_4 => cases did
  all_goals
    exact Option.some.inj did ▸ kept_of_finish sound ⟨nofun, nofun, nofun⟩ (Or.inr rfl)

/-! ## The claim itself -/

variable {found : Bool}

theorem acquire_of_validated {s : Session} (sound : Sound s)
    (checked : s.phase a = .validated start previousStatus found) :
    acquireLease start (s.attempts a).input.acquire (s.lease.map Held.row) =
      some ((s.attempts a).input.acquire.lease start) := by
  cases found with
  | false =>
    rw [sound.absent a ⟨start, previousStatus, checked⟩]
    rfl
  | true =>
    obtain ⟨-, held, there, passed⟩ := sound.lock a start previousStatus checked
    rw [there]
    exact if_pos passed

variable {number : Nat} {live : Bool}

theorem lapsed_of_overwritten {s : Session} (sound : Sound s) (admits : s.Admits (.write a))
    (checked : s.phase a = .validated start previousStatus found) {held : Held}
    (there : s.lease = some held) (running : s.phase held.claim = .claimed number live) :
    s.lapsed held.claim = true := by
  cases found with
  | false =>
    rw [sound.absent a ⟨start, previousStatus, checked⟩] at there
    cases there
  | true =>
    obtain ⟨-, held', there', passed⟩ := sound.lock a start previousStatus checked
    have same : held' = held := Option.some.inj (there'.symm.trans there)
    subst same
    rcases passed with expired | mine
    · have began : start ≤ s.clock :=
        sound.begun a start (Or.inr (Or.inr ⟨previousStatus, true, checked⟩))
      exact sound.noted held' there (lt_of_lt_of_le expired began)
    · by_contra standing
      have alive := (sound.standing held'.claim number live running (by simpa using standing)).1
      subst alive
      have other : held'.claim ≠ a := by
        intro same
        rw [same, checked] at running
        cases running
      exact admits held'.claim other ⟨number, running⟩ ((sound.owned held' there).symm.trans mine)

@[simp, grind =] theorem phase_flip (kind : ClaimKind) (status : Option MissionRunStatus) (b : Nat) :
    (s.flip kind status).phase b = s.phase b := by
  cases kind <;> rfl

@[simp, grind =] theorem owner_flip (kind : ClaimKind) (status : Option MissionRunStatus) (b : Nat) :
    (s.flip kind status).owner b = s.owner b := by
  cases kind <;> rfl

theorem flip_same (kind : ClaimKind) (status : Option MissionRunStatus) :
    SameRows s (s.flip kind status) ∧ (s.flip kind status).leaseLock = s.leaseLock := by
  cases kind <;> exact ⟨⟨rfl, rfl, rfl, rfl⟩, rfl⟩

structure Claims (s t : Session) (a : Nat) (row : RunnerLease) : Prop where
  clock : t.clock = s.clock
  lease : t.lease = some ⟨row, a⟩
  leaseLock : t.leaseLock = if s.leaseLock = some a then none else s.leaseLock
  claims : t.claims = s.claims + 1
  lapsed : t.lapsed = s.lapsed
  phaseAt : ∀ b, t.phase b = if b = a then .claimed s.claims true else s.phase b
  ownerAt : ∀ b, t.owner b = s.owner b

theorem write_claims {s : Session} (sound : Sound s) (did : s.write a = some t) :
    ∃ start previousStatus found, s.phase a = .validated start previousStatus found ∧
      s.LeaseFree (some a) ∧ Claims s t a ((s.attempts a).input.acquire.lease start) := by
  unfold write at did
  split at did
  case h_1 start previousStatus found checked =>
    split_ifs at did with free
    rw [acquire_of_validated sound checked] at did
    cases did
    refine ⟨start, previousStatus, found, checked, free, ?_⟩
    obtain ⟨same, lock⟩ := flip_same s (s.attempts a).input.kind previousStatus
    refine ⟨same.clock, rfl, ?_, rfl, same.lapsed, ?_, ?_⟩
    · exact (leaseLock_finish _ a (.claimed s.claims true)).trans (by rw [lock])
    · intro b
      exact (phase_finish _ a b _).trans (by rw [phase_flip])
    · intro b
      exact (owner_finish _ a b _).trans (owner_flip s _ _ b)
  case h_2 => cases did

theorem write_kept {s : Session} (sound : Sound s) (admits : s.Admits (.write a))
    (did : s.write a = some t) : Kept t := by
  obtain ⟨start, previousStatus, found, checked, free, claims⟩ := write_claims sound did
  have at_self : t.phase a = .claimed s.claims true := by rw [claims.phaseAt, if_pos rfl]
  have at_other : ∀ b, b ≠ a → t.phase b = s.phase b := by
    intro b other
    rw [claims.phaseAt, if_neg other]
  -- nobody else is between the check and the write
  have alone : ∀ b start status checked', b ≠ a →
      t.phase b = .validated start status checked' → False := by
    intro b start' status found' other at_
    rw [at_other b other] at at_
    cases found' with
    | true =>
      obtain ⟨locked, -, there, -⟩ := sound.lock b start' status at_
      rcases free with none_ | mine
      · rw [none_] at locked
        cases locked
      · exact other (Option.some.inj (locked.symm.trans mine))
    | false =>
      cases found with
      | false => exact other (sound.first b a ⟨start', status, at_⟩ ⟨start, previousStatus, checked⟩)
      | true =>
        obtain ⟨-, held, there, -⟩ := sound.lock a start previousStatus checked
        rw [sound.absent b ⟨start', status, at_⟩] at there
        cases there
  have claimed_before : ∀ b number live, b ≠ a → t.phase b = .claimed number live →
      number < s.claims ∧ s.phase b = .claimed number live := by
    intro b number live other running
    rw [at_other b other] at running
    exact ⟨sound.numbered b number ⟨live, running⟩, running⟩
  refine { begun := ?_, made := ?_, owned := ?_, locker := ?_, lock := ?_, absent := ?_, first := ?_,
           own := ?_, standing := ?_, numbered := ?_, newest := ?_, quiet := ?_ }
  · intro b start' under
    rw [claims.clock]
    by_cases same : b = a
    · rw [same, at_self] at under
      rcases under with here | ⟨_, here⟩ | ⟨_, _, here⟩ <;> cases here
    · rw [at_other b same] at under
      exact sound.begun b start' under
  · intro held there
    rw [claims.lease] at there
    cases there
    rw [at_self]
    nofun
  · intro held there
    rw [claims.lease] at there
    cases there
    exact (claims.ownerAt a).symm
  · intro b locked
    rw [claims.leaseLock] at locked
    split_ifs at locked with mine
    rcases free with none_ | mine'
    · rw [none_] at locked
      cases locked
    · exact absurd mine' mine
  · intro b start' status at_
    by_cases same : b = a
    · rw [same, at_self] at at_
      cases at_
    · exact (alone b start' status true same at_).elim
  · rintro b ⟨start', status, at_⟩
    by_cases same : b = a
    · rw [same, at_self] at at_
      cases at_
    · exact (alone b start' status false same at_).elim
  · rintro b c ⟨start', status, at_⟩ -
    by_cases same : b = a
    · rw [same, at_self] at at_
      cases at_
    · exact (alone b start' status false same at_).elim
  · rintro b ⟨number, live⟩ held there mine
    rw [claims.lease] at there
    cases there
    by_contra other
    have live' := (claimed_before b number true (Ne.symm other) live).2
    refine admits b (Ne.symm other) ⟨number, live'⟩ ?_
    rw [claims.ownerAt] at mine
    exact mine.symm
  · intro b number live running standing
    rw [claims.lapsed] at standing
    rw [claims.lease]
    by_cases same : b = a
    · rw [same, at_self] at running
      cases running
      exact ⟨rfl, _, rfl, same.symm⟩
    · have running' := (claimed_before b number live same running).2
      obtain ⟨-, held, there, mine⟩ := sound.standing b number live running' standing
      subst mine
      have lapsed := lapsed_of_overwritten sound admits checked there running'
      rw [standing] at lapsed
      cases lapsed
  · rintro b number ⟨live, running⟩
    rw [claims.claims]
    by_cases same : b = a
    · rw [same, at_self] at running
      cases running
      exact Nat.lt_succ_self _
    · exact Nat.lt_succ_of_lt (claimed_before b number live same running).1
  · rintro held number b earlier there ⟨live, running⟩ ⟨live', running'⟩
    rw [claims.lease] at there
    cases there
    rw [at_self] at running
    cases running
    by_cases same : b = a
    · rw [same, at_self] at running'
      cases running'
      exact le_refl _
    · exact (claimed_before b earlier live' same running').1.le
  · intro b
    by_cases same : b = a
    · rw [same, at_self]
      nofun
    · rw [at_other b same]
      exact sound.quiet b

/-! ## The handle, the stop and the others -/

/-- The parts of a session that no statement about the lease changes but a claim's. -/
structure SameClaims (s t : Session) : Prop where
  clock : t.clock = s.clock
  claims : t.claims = s.claims
  leaseLock : t.leaseLock = s.leaseLock
  ownerAt : ∀ b, t.owner b = s.owner b

theorem unchecked {s : Session} (sound : Sound s) (free : s.LeaseFree none) (b : Nat) (start : Instant)
    (status : Option MissionRunStatus) : s.phase b ≠ .validated start status true := by
  intro checked
  have locked := (sound.lock b start status checked).1
  rcases free with none_ | none_ <;>
    · rw [none_] at locked
      cases locked

/-- The handle of an attempt ends; the lease stays, or it was the attempt's own and is deleted. -/
structure Ends (s t : Session) (a : Nat) (phase : Phase) : Prop extends SameClaims s t where
  lapsed : t.lapsed = s.lapsed
  phaseAt : ∀ b, t.phase b = if b = a then phase else s.phase b
  lease : t.lease = s.lease ∨
    (t.lease = none ∧ s.LeaseFree none ∧ ∀ held, s.lease = some held → held.claim = a)

namespace Ends

variable {s t : Session} {a : Nat} {phase : Phase} (ends : Ends s t a phase)

include ends

theorem at_other {b : Nat} (other : b ≠ a) : t.phase b = s.phase b := by
  rw [ends.phaseAt b, if_neg other]

theorem at_self : t.phase a = phase := by
  rw [ends.phaseAt a, if_pos rfl]

theorem there {held : Held} (there : t.lease = some held) : s.lease = some held := by
  rcases ends.lease with same | ⟨gone, -, -⟩
  · exact same ▸ there
  · rw [gone] at there
    cases there

end Ends

theorem kept_of_ends {s : Session} {phase : Phase} (sound : Sound s) (ends : Ends s t a phase)
    (running : s.phase a = .claimed number live)
    (over' : phase = .released ∨ (phase = .claimed number false ∧ s.lapsed a = true)) : Kept t := by
  have unheld : ∀ start status found, phase ≠ .validated start status found := by
    rcases over' with rfl | ⟨rfl, -⟩ <;> nofun
  have was : ∀ b start status found, t.phase b = .validated start status found →
      b ≠ a ∧ s.phase b = .validated start status found := by
    intro b start status found checked
    have other : b ≠ a := by
      rintro rfl
      exact unheld start status found (ends.at_self.symm.trans checked)
    exact ⟨other, (ends.at_other other).symm.trans checked⟩
  have ran : ∀ b number', t.Running b number' → s.Running b number' := by
    rintro b number' ⟨live', at_⟩
    by_cases same : b = a
    · subst same
      rw [ends.at_self] at at_
      rcases over' with rfl | ⟨rfl, -⟩ <;> cases at_
      exact ⟨live, running⟩
    · exact ⟨live', (ends.at_other same).symm.trans at_⟩
  refine { begun := ?_, made := ?_, owned := ?_, locker := ?_, lock := ?_, absent := ?_, first := ?_,
           own := ?_, standing := ?_, numbered := ?_, newest := ?_, quiet := ?_ }
  · intro b start under
    rw [ends.clock]
    by_cases same : b = a
    · subst same
      rw [ends.at_self] at under
      rcases over' with rfl | ⟨rfl, -⟩ <;>
        rcases under with here | ⟨_, here⟩ | ⟨_, _, here⟩ <;> cases here
    · rw [ends.at_other same] at under
      exact sound.begun b start under
  · intro held there
    by_cases same : held.claim = a
    · rw [same, ends.at_self]
      rcases over' with rfl | ⟨rfl, -⟩ <;> nofun
    · rw [ends.at_other same]
      exact sound.made held (ends.there there)
  · intro held there
    rw [ends.ownerAt]
    exact sound.owned held (ends.there there)
  · intro b locked
    rw [ends.leaseLock] at locked
    obtain ⟨start, status, checked⟩ := sound.locker b locked
    have other : b ≠ a := by
      rintro rfl
      rw [running] at checked
      cases checked
    exact ⟨start, status, (ends.at_other other).trans checked⟩
  · intro b start status checked
    obtain ⟨-, checked'⟩ := was b start status true checked
    rw [ends.leaseLock, ends.ownerAt]
    rcases ends.lease with same | ⟨-, free, -⟩
    · rw [same]
      exact sound.lock b start status checked'
    · exact absurd checked' (unchecked sound free b start status)
  · rintro b ⟨start, status, checked⟩
    have gone := sound.absent b ⟨start, status, (was b start status false checked).2⟩
    rcases ends.lease with same | ⟨gone', -, -⟩
    · exact same.trans gone
    · exact gone'
  · rintro b c ⟨start, status, checked⟩ ⟨start', status', checked'⟩
    exact sound.first b c ⟨start, status, (was b start status false checked).2⟩
      ⟨start', status', (was c start' status' false checked').2⟩
  · rintro b ⟨number', live'⟩ held there same
    by_cases mine : b = a
    · subst mine
      rw [ends.at_self] at live'
      rcases over' with rfl | ⟨rfl, -⟩ <;> cases live'
    · rw [ends.ownerAt] at same
      exact sound.own b ⟨number', (ends.at_other mine).symm.trans live'⟩ held (ends.there there) same
  · intro b number' live' running' standing
    rw [ends.lapsed] at standing
    by_cases same : b = a
    · subst same
      rw [ends.at_self] at running'
      rcases over' with rfl | ⟨rfl, lapsed⟩
      · cases running'
      · rw [standing] at lapsed
        cases lapsed
    · obtain ⟨alive, held, there, mine⟩ :=
        sound.standing b number' live' ((ends.at_other same).symm.trans running') standing
      rcases ends.lease with kept | ⟨-, -, own⟩
      · exact ⟨alive, held, kept.trans there, mine⟩
      · exact absurd (mine.symm.trans (own held there)) same
  · intro b number' running'
    rw [ends.claims]
    exact sound.numbered b number' (ran b number' running')
  · intro held number' b earlier there running' running''
    exact sound.newest held number' b earlier (ends.there there) (ran _ _ running') (ran _ _ running'')
  · intro b
    by_cases same : b = a
    · subst same
      rw [ends.at_self]
      rcases over' with rfl | ⟨rfl, -⟩ <;> nofun
    · rw [ends.at_other same]
      exact sound.quiet b

theorem enter_ends (s : Session) (a : Nat) (phase : Phase) : Ends s (s.enter a phase) a phase where
  clock := rfl
  claims := rfl
  leaseLock := rfl
  ownerAt := fun b => owner_enter s a b phase
  lapsed := rfl
  phaseAt := fun b => phase_enter s a b phase
  lease := Or.inl rfl

variable {since : Instant}

theorem lapsed_of_missed {s : Session} (sound : Sound s) (live : s.phase a = .claimed number true)
    (missed : ∀ held row, s.lease = some held → renewLease since (s.attempts a).input.ownerId
      (s.attempts a).input.ttlMs (s.lease.map Held.row) ≠ some row) : s.lapsed a = true := by
  by_contra standing
  obtain ⟨-, held, there, claim⟩ := sound.standing a number true live (by simpa using standing)
  cases renewed : renewLease since (s.attempts a).input.ownerId (s.attempts a).input.ttlMs
    (s.lease.map Held.row) with
  | some row => exact missed held row there renewed
  | none =>
    rw [there] at renewed
    refine renewLease_eq_none renewed ?_
    rw [sound.owned held there, claim]
    rfl

theorem heartbeat_kept {s : Session} (sound : Sound s) (did : s.heartbeat a since = some t) :
    Kept t := by
  unfold heartbeat at did
  split at did
  case h_2 => cases did
  case h_1 number live =>
    change s.phase a = .claimed number true at live
    split_ifs at did with may
    have free := may.2
    split at did
    case h_1 held row there renewed =>
      cases did
      rw [there] at renewed
      obtain ⟨old, here, mine, own⟩ := renewLease_eq_some renewed
      cases here
      refine { begun := sound.begun, made := ?_, owned := ?_, locker := sound.locker, lock := ?_,
               absent := ?_, first := sound.first, own := ?_, standing := ?_,
               numbered := sound.numbered, newest := ?_, quiet := sound.quiet }
      · rintro _ ⟨⟩
        exact sound.made held there
      · rintro _ ⟨⟩
        exact (own.trans mine.symm).trans (sound.owned held there)
      · exact fun b start status checked => absurd checked (unchecked sound free b start status)
      · intro b awaits
        have gone := sound.absent b awaits
        rw [there] at gone
        cases gone
      · rintro b handle _ ⟨⟩ same
        exact sound.own b handle held there (mine.trans (own.symm.trans same))
      · intro b number' live' running standing
        obtain ⟨alive, held', there', claim⟩ := sound.standing b number' live' running standing
        cases there'.symm.trans there
        exact ⟨alive, _, rfl, claim⟩
      · rintro _ number' b earlier ⟨⟩
        exact sound.newest held number' b earlier there
    case h_2 missed =>
      cases did
      exact kept_of_ends sound (enter_ends s a _) live
        (Or.inr ⟨rfl, lapsed_of_missed sound live missed⟩)

theorem release_ends {s : Session} (sound : Sound s) (did : s.release a = some t) :
    Ends s t a .released ∧ ∃ number live, s.phase a = .claimed number live := by
  unfold release at did
  split at did
  case h_1 number live =>
    split_ifs at did with free
    cases did
    refine ⟨{ enter_ends s a .released with lease := ?_ }, number, true, live⟩
    cases there : s.lease with
    | none => exact Or.inl rfl
    | some held =>
      by_cases mine : held.row.ownerId = s.owner a
      · refine Or.inr ⟨?_, free, ?_⟩
        · simpa [releaseLease, owner] using mine
        · rintro _ ⟨⟩
          exact sound.own a ⟨number, live⟩ held there mine
      · refine Or.inl ?_
        simpa [releaseLease, owner] using mine
  case h_2 number live =>
    cases did
    exact ⟨enter_ends s a .released, number, false, live⟩
  case h_3 => cases did

theorem abandon_kept {s : Session} (sound : Sound s) (did : s.abandon a = some t) : Kept t := by
  unfold abandon at did
  split at did
  case h_1 number live running =>
    cases did
    exact kept_of_ends sound (enter_ends s a .released) running (Or.inl rfl)
  case h_2 => cases did

theorem userStop_kept {s : Session} {id : JsString} (sound : Sound s) (did : s.userStop id = some t)
    :
    Kept t := by
  have noted : s.noteStopped.phase = s.phase ∧ s.noteStopped.clock = s.clock
      ∧ s.noteStopped.leaseLock = s.leaseLock ∧ s.noteStopped.claims = s.claims := by
    unfold noteStopped
    split <;> exact ⟨rfl, rfl, rfl, rfl⟩
  have stopped : ∀ b, s.noteStopped.lapsed b = false →
      s.lapsed b = false ∧ ∀ held, s.lease = some held → held.claim ≠ b := by
    intro b standing
    unfold noteStopped at standing
    split at standing
    case h_1 gone => exact ⟨standing, by simp [gone]⟩
    case h_2 held there =>
      by_cases same : b = held.claim
      · simp [same] at standing
      · refine ⟨by simpa [same] using standing, ?_⟩
        intro other found
        rw [Option.some.inj (found.symm.trans there)]
        exact Ne.symm same
  unfold userStop at did
  split_ifs at did with may
  split at did
  case h_1 => cases did
  case h_2 run found =>
    split_ifs at did with terminal
    obtain ⟨samePhase, sameClock, sameLock, sameClaims⟩ := noted
    cases did
    have at_ : ∀ b, s.noteStopped.phase b = s.phase b := congrFun samePhase
    exact {
      begun := fun b start under => by
        have := sound.begun b start (by rw [← at_ b]; exact under)
        exact sameClock ▸ this
      made := nofun
      owned := nofun
      locker := fun b locked => by
        obtain ⟨start, status, checked⟩ := sound.locker b (sameLock ▸ locked)
        exact ⟨start, status, (at_ b).trans checked⟩
      lock := fun b start status checked =>
        absurd ((at_ b).symm.trans checked) (unchecked sound may.1 b start status)
      absent := fun _ _ => rfl
      first := fun b c ⟨start, status, checked⟩ ⟨start', status', checked'⟩ =>
        sound.first b c ⟨start, status, (at_ b).symm.trans checked⟩
          ⟨start', status', (at_ c).symm.trans checked'⟩
      own := nofun
      standing := fun b number live running standing => by
        obtain ⟨stood, unheld⟩ := stopped b standing
        obtain ⟨-, held, there, mine⟩ :=
          sound.standing b number live ((at_ b).symm.trans running) stood
        exact absurd mine (unheld held there)
      numbered := fun b number ⟨live, running⟩ =>
        sameClaims ▸ sound.numbered b number ⟨live, (at_ b).symm.trans running⟩
      newest := nofun
      quiet := fun b thrown => sound.quiet b ((at_ b).symm.trans thrown) }

/-! ## Runs -/

variable {event : Event}

theorem apply_kept {s : Session} (sound : Sound s) (admits : s.Admits event)
    (did : s.apply event = some t) : Kept t := by
  cases event with
  | begin a input => exact begin_kept sound did
  | readRun a => exact readRun_kept sound did
  | readLease a newDate => exact readLease_kept sound admits did
  | write a => exact write_kept sound admits did
  | rollback a => exact rollback_kept sound did
  | heartbeat a since => exact heartbeat_kept sound did
  | release a =>
    obtain ⟨ends, number, live, running⟩ := release_ends sound did
    exact kept_of_ends sound ends running (Or.inl rfl)
  | abandon a => exact abandon_kept sound did
  | userStop id => exact userStop_kept sound did
  | otherWrite id run pendingWakes permission =>
    change (if _ then _ else _) = some t at did
    split_ifs at did
    cases did
    exact { sound.toKept with }
  | tick clock =>
    change (if _ then _ else _) = some t at did
    split_ifs at did with later
    cases did
    exact { sound.toKept with
      begun := fun b start under => le_trans (sound.begun b start under) later }

theorem step_sound {s : Session} (sound : Sound s) (admits : s.Admits event) :
    Sound (s.step event) := by
  unfold step
  rcases orStay_cases (fun s event => (apply s event).map noteExpiry) s event with same | did
  · rwa [same]
  · obtain ⟨t, did', noted⟩ := Option.map_eq_some_iff.mp did
    rw [← noted]
    exact noteExpiry_sound (apply_kept sound admits did')

theorem initial_sound (sessionId : JsString) (permission : Permission) (clock : Instant)
    (runs : JsString → Option MissionRun) (pendingWakes : Nat) (input : ClaimInput) :
    Sound (initial sessionId permission clock runs pendingWakes input) where
  begun := by
    rintro a start (here | ⟨_, here⟩ | ⟨_, _, here⟩) <;> cases here
  made := nofun
  owned := nofun
  locker := nofun
  lock := by
    intro a start status checked
    cases checked
  absent := fun _ _ => rfl
  first := by
    rintro a b ⟨_, _, checked⟩
    cases checked
  own := nofun
  standing := by
    intro a number live running
    cases running
  numbered := by
    rintro a number ⟨_, running⟩
    cases running
  newest := nofun
  quiet := nofun
  noted := nofun

theorem Sound.excludes {s : Session} (sound : Sound s) : Excludes s where
  exclusion := by
    rintro a b earlier later ⟨live, running⟩ ⟨live', running'⟩ before
    by_contra standing
    obtain ⟨-, held, there, mine⟩ :=
      sound.standing a earlier live running (by simpa using standing)
    subst mine
    have := sound.newest held earlier b later there ⟨live, running⟩ ⟨live', running'⟩
    omega
  ownRelease := by
    intro a t held did there gone
    obtain ⟨ends, -⟩ := release_ends sound did
    rcases ends.lease with same | ⟨-, -, own⟩
    · rw [← same, gone] at there
      cases there
    · exact own held there
  neverThrows := sound.quiet

/-- **The runner lease excludes a second runner** in every run in which a lease is claimed under no
owner string that a live handle has, claims that find no lease do not overlap, and a claim that
finds another's lease expired began after it expired. -/
theorem lease_excludes (sessionId : JsString) (permission : Permission) (clock : Instant)
    (runs : JsString → Option MissionRun) (pendingWakes : Nat) (input : ClaimInput)
    {events : List Event}
    (admits : Along step Admits (initial sessionId permission clock runs pendingWakes input) events) :
    Excludes (run step (initial sessionId permission clock runs pendingWakes input) events) :=
  (Along.induction (motive := Sound) (fun _ _ admits sound => step_sound sound admits)
    (initial_sound sessionId permission clock runs pendingWakes input) admits).excludes

/-- A chat session in which no claim was made. -/
def quiet : Session :=
  initial (JsString.ofString "session") .restricted 0 (fun _ => none) 0
    (claimResumeContinuation [] [] none)

/-- Two passes that resume the same approval, one inside the other. -/
def samePasses : List Event :=
  let resume := claimResumeContinuation (JsString.ofString "approve") (JsString.ofString "approval") none
  [.begin 0 resume, .readLease 0 0, .write 0, .begin 1 resume, .readLease 1 0, .write 1]

/-- Two rapid first claims of a session under different owner strings. -/
def rapidClaims : List Event :=
  let turn (ownerId : String) : ClaimInput := ⟨.session, JsString.ofString ownerId, .electronMain, leaseTtlMs⟩
  [.begin 0 (turn "agent-turn-a"), .begin 1 (turn "agent-turn-b"), .readLease 0 0, .readLease 1 0,
    .write 0, .write 1]

/-- A run all of whose steps meet the condition: a claim, and a takeover after it ran out. -/
theorem lease_excludes_takeover :
    Excludes (run step quiet [.begin 0 (claimResumeContinuation [1] [] none), .readLease 0 0, .write 0,
      .tick 400000, .begin 1 (claimResumeContinuation [2] [] none), .readLease 1 400000, .write 1]) := by
  refine lease_excludes (JsString.ofString "session") .restricted 0 (fun _ => none) 0
    (claimResumeContinuation [] [] none) ?_
  refine ⟨trivial, ⟨?_, ?_⟩, ?_, trivial, trivial, ⟨?_, ?_⟩, ?_, trivial⟩
  · rintro - (_ | b) ⟨start, status, ⟨⟩⟩
  · rintro held start status ⟨⟩
  · rintro (_ | b) other ⟨number, ⟨⟩⟩
  · rintro ⟨⟩
  · rintro held start status ⟨⟩ ⟨⟩ - -
    decide
  · rintro (_ | _ | b) other ⟨number, ⟨⟩⟩
    decide

/-- Two passes for one approval both run, the first would delete the lease of the second, and of two
rapid first claims the second throws. -/
theorem overlapping_claims_collide :
    ¬ (run step quiet samePasses).Excludes
      ∧ (∃ t held, (run step quiet samePasses).release 0 = some t
        ∧ (run step quiet samePasses).lease = some held ∧ t.lease = none ∧ held.claim = 1)
      ∧ (run step quiet rapidClaims).phase 1 = .threw := by
  refine ⟨?_, ?_, by decide⟩
  · intro excludes
    have lapsed := excludes.exclusion 0 1 0 1 ⟨true, by decide⟩ ⟨true, by decide⟩ (by decide)
    exact absurd lapsed (by decide)
  · exact ⟨_, _, rfl, rfl, by decide, by decide⟩

end Session

end Vex.Runtime
