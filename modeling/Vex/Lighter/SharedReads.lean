import Vex.Library.Runs

/-!
# Shared reads

Calls of `LighterThrottle.run` for one key share a request. A caller that aborts leaves, the last one
that leaves cancels the request, and a call after that starts its own. The table of the requests in
flight is modelled: a call that the cache answers, or that was aborted before, does not reach it. The
promise of an entry settles, its reactions run one by one after that, and a caller may abort at any
point.
-/

namespace Vex.Lighter.SharedReads

open Vex.Library

variable {κ ρ : Type}

/-- `InFlightEntry`, with its key, whether its controller was aborted, and what its promise settled
with. -/
structure InFlightEntry (κ ρ : Type) where
  key : κ
  waiters : Int
  aborted : Bool
  settled : Option ρ

/-- What `joinInFlight` came to: the outcome of the promise, or the caller's own abort. -/
inductive CallState (ρ : Type) where
  | waiting
  | settled (outcome : ρ)
  | abandoned

def CallState.left : CallState ρ → Bool
  | .abandoned => true
  | _ => false

structure Call (ρ : Type) where
  entry : Nat
  state : CallState ρ

structure Throttle (κ ρ : Type) where
  entries : Nat → Option (InFlightEntry κ ρ)
  next : Nat
  inFlight : κ → Option Nat
  calls : List (Call ρ)

def Throttle.new : Throttle κ ρ := ⟨fun _ => none, 0, fun _ => none, []⟩

inductive Event (κ ρ : Type) where
  | run (key : κ)
  | abort (call : Nat)
  | settle (entry : Nat) (outcome : ρ)
  | react (call : Nat)
  | retire (entry : Nat)

namespace Throttle

variable (t : Throttle κ ρ)

/-- The entry is stored again. -/
def put (id : Nat) (entry : InFlightEntry κ ρ) : Throttle κ ρ :=
  { t with entries := fun other => if other = id then some entry else t.entries other }

/-- The entry that a call for the key joins: one whose last waiter has left is not joined. -/
def joined (key : κ) : Option (Nat × InFlightEntry κ ρ) := do
  let id ← t.inFlight key
  let entry ← t.entries id
  if entry.aborted then none else some (id, entry)

def step [DecidableEq κ] (t : Throttle κ ρ) : Event κ ρ → Throttle κ ρ
  | .run key =>
    match t.joined key with
    | some (id, existing) =>
      { t.put id { existing with waiters := existing.waiters + 1 } with
        calls := t.calls ++ [⟨id, .waiting⟩] }
    | none =>
      { t.put t.next ⟨key, 1, false, none⟩ with
        next := t.next + 1
        inFlight := fun other => if other = key then some t.next else t.inFlight other
        calls := t.calls ++ [⟨t.next, .waiting⟩] }
  | .abort index =>
    match t.calls[index]? with
    | some ⟨id, .waiting⟩ =>
      match t.entries id with
      | some entry =>
        -- `abandonInFlight`
        { t.put id { entry with
            waiters := entry.waiters - 1
            aborted := entry.aborted || decide (entry.waiters - 1 ≤ 0) } with
          calls := t.calls.set index ⟨id, .abandoned⟩ }
      | none => t
    | _ => t
  | .settle id outcome =>
    match t.entries id with
    | some entry =>
      if entry.settled.isNone then t.put id { entry with settled := some outcome } else t
    | none => t
  | .react index =>
    match t.calls[index]? with
    | some ⟨id, .waiting⟩ =>
      match (t.entries id).bind InFlightEntry.settled with
      | some outcome => { t with calls := t.calls.set index ⟨id, .settled outcome⟩ }
      | none => t
    | _ => t
  | .retire id =>
    match t.entries id with
    | some entry =>
      if entry.settled.isSome ∧ t.inFlight entry.key = some id then
        { t with inFlight := fun key => if key = entry.key then none else t.inFlight key }
      else t
    | none => t

/-- The call joined the entry, and its caller has not aborted. -/
def stayed (id : Nat) (call : Call ρ) : Bool := call.entry = id ∧ call.state.left = false

structure Sound : Prop where
  waiters : ∀ id entry, t.entries id = some entry → entry.waiters = t.calls.countP (stayed id)
  aborted : ∀ id entry, t.entries id = some entry → (entry.aborted = true ↔ entry.waiters = 0)
  live : ∀ id entry, t.entries id = some entry → entry.aborted = false → entry.settled = none →
    t.inFlight entry.key = some id
  made : ∀ id, (t.entries id).isSome ↔ id < t.next
  named : ∀ call ∈ t.calls, (t.entries call.entry).isSome
  answered : ∀ call ∈ t.calls, ∀ outcome, call.state = .settled outcome →
    (t.entries call.entry).bind InFlightEntry.settled = some outcome

variable {t : Throttle κ ρ} {id : Nat} {entry : InFlightEntry κ ρ}

theorem Sound.new : Sound (.new : Throttle κ ρ) := by
  constructor <;> simp [Throttle.new]

theorem joined_eq_some {key : κ} : t.joined key = some (id, entry) ↔
    t.inFlight key = some id ∧ t.entries id = some entry ∧ entry.aborted = false := by
  simp only [joined, bind, Option.bind_eq_some_iff]
  grind

variable [DecidableEq κ]

theorem Sound.run (sound : Sound t) (key : κ) : Sound (t.step (.run key)) := by
  obtain ⟨waiters, aborted, live, made, named, answered⟩ := sound
  unfold step put
  dsimp only
  split
  · rename_i id existing joins
    obtain ⟨inTable, found, running⟩ := joined_eq_some.1 joins
    constructor <;> grind [stayed, CallState.left]
  · rename_i fresh
    have unmade : t.entries t.next = none := by simpa using made t.next
    have nobody : t.calls.countP (stayed t.next) = 0 := by
      rw [List.countP_eq_zero]
      intro call member
      have := Nat.ne_of_lt ((made call.entry).1 (named call member))
      simp [stayed, this]
    -- a live entry for the key would have been joined
    have dead : ∀ id entry, t.entries id = some entry → entry.aborted = false →
        entry.settled = none → entry.key ≠ key := by
      rintro id entry found running unsettled rfl
      have := joined_eq_some.2 ⟨live id entry found running unsettled, found, running⟩
      simp [this] at fresh
    constructor <;> grind [stayed, CallState.left]

theorem Sound.abort (sound : Sound t) (index : Nat) : Sound (t.step (.abort index)) := by
  unfold step put
  dsimp only
  split
  · rename_i id waiting
    obtain ⟨within, here⟩ := List.getElem?_eq_some_iff.1 waiting
    split
    · cases sound
      constructor <;> grind [stayed, CallState.left]
    · exact sound
  · exact sound

theorem Sound.settle (sound : Sound t) (id : Nat) (outcome : ρ) :
    Sound (t.step (.settle id outcome)) := by
  unfold step put
  dsimp only
  split
  · rename_i entry found
    split
    · cases sound
      constructor <;> grind
    · exact sound
  · exact sound

theorem Sound.react (sound : Sound t) (index : Nat) : Sound (t.step (.react index)) := by
  unfold step put
  dsimp only
  split
  · rename_i id waiting
    obtain ⟨within, here⟩ := List.getElem?_eq_some_iff.1 waiting
    have mine := sound.named ⟨id, .waiting⟩ (here ▸ List.getElem_mem within)
    split
    · cases sound
      constructor <;> grind [stayed, CallState.left]
    · exact sound
  · exact sound

theorem Sound.retire (sound : Sound t) (id : Nat) : Sound (t.step (.retire id)) := by
  unfold step put
  dsimp only
  split
  · rename_i entry found
    split
    · cases sound
      constructor <;> grind
    · exact sound
  · exact sound

theorem Sound.step (sound : Sound t) (event : Event κ ρ) : Sound (t.step event) := by
  cases event with
  | run key => exact sound.run key
  | abort call => exact sound.abort call
  | settle entry outcome => exact sound.settle entry outcome
  | react call => exact sound.react call
  | retire entry => exact sound.retire entry

end Throttle

/-- **Shared reads survive the aborts of others.** After any events in any order, a request is
cancelled exactly when every caller that joined it has aborted; a call that ended without an abort
has what its request settled with; and no two requests for one key are live. -/
theorem reads_survive [DecidableEq κ] (events : List (Event κ ρ)) :
    let t := run Throttle.step Throttle.new events
    (∀ id entry, t.entries id = some entry →
      (entry.aborted = true ↔ ∀ call ∈ t.calls, call.entry = id → call.state.left = true)) ∧
    (∀ call ∈ t.calls, ∀ outcome, call.state = .settled outcome →
      ∃ entry, t.entries call.entry = some entry ∧ entry.settled = some outcome) ∧
    ∀ id other entry entry', t.entries id = some entry → t.entries other = some entry' →
      entry.key = entry'.key → entry.aborted = false → entry'.aborted = false →
      entry.settled = none → entry'.settled = none → id = other := by
  intro t
  have sound : t.Sound := run_induction (fun _ event sound => sound.step event) .new events
  refine ⟨fun id entry found => ?_, fun call member outcome ended => ?_, ?_⟩
  · rw [sound.aborted id entry found, sound.waiters id entry found, Int.natCast_eq_zero,
      List.countP_eq_zero]
    simp [Throttle.stayed]
  · exact Option.bind_eq_some_iff.1 (sound.answered call member outcome ended)
  · intro id other entry entry' found found' same running running' unsettled unsettled'
    have first := sound.live id entry found running unsettled
    have second := sound.live other entry' found' running' unsettled'
    rw [same, second] at first
    exact (Option.some.inj first).symm

end Vex.Lighter.SharedReads
