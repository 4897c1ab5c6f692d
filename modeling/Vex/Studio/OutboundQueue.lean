import Vex.Library.Runs
import Mathlib.Data.List.Nodup
import Mathlib.Data.List.Perm.Basic
import Mathlib.Data.List.Range

/-!
# The outbound queue of a connection

The queue has one asynchronous writer. The writer takes an entry, hands its line to the wire, and
waits until the promise of `writeLine` is resolved: by the callback of the write, by `close` or
`error` of the wire, or by `drain` once the wire refused the write. Progress frames replace the
line of the entry that waits under their key.

The queue is driven by events that come in any order and any number of times. An entry is an object
that two places of the queue refer to, so it is named by the call of `enqueue` that made it, and its
line is looked up under that name.
-/

namespace Vex.Studio

open Vex.Library

inductive StudioWriteOutcome where
  | accepted
  | coalesced
  | dropped
  | closed
  deriving DecidableEq

/-- One call of `writeLine`: what it was called with, and the variables its callbacks share.
`settled` is what its promise was resolved with, and `parked` that it listens to `drain`. -/
structure WriteLine (Line : Type) where
  entry : Nat
  line : Line
  settled : Option StudioWriteOutcome
  callbackFired : Bool
  writeFailed : Bool
  returned : Bool
  parked : Bool

namespace WriteLine

variable {Line : Type}

def begin (entry : Nat) (line : Line) : WriteLine Line :=
  ⟨entry, line, none, false, false, false, false⟩

/-- `done`: the promise is resolved once. -/
def done (w : WriteLine Line) (outcome : StudioWriteOutcome) : WriteLine Line :=
  if w.settled.isSome then w else { w with settled := some outcome }

def completed (w : WriteLine Line) : WriteLine Line :=
  w.done (if w.writeFailed then .closed else .accepted)

/-- `gone`, on `close` and on `error`. -/
def gone (w : WriteLine Line) : WriteLine Line := w.done .closed

def drained (w : WriteLine Line) : WriteLine Line :=
  if w.parked then { w.done .accepted with parked := false } else w

/-- The callback of `wire.write`. -/
def callback (w : WriteLine Line) (failed : Bool) : WriteLine Line :=
  let w := { w with callbackFired := true, writeFailed := w.writeFailed || failed }
  if w.returned then w.completed else w

/-- What `writeLine` does once `wire.write` has returned, on a wire that is gone or not. -/
def afterWrite (w : WriteLine Line) (accepted gone : Bool) : WriteLine Line :=
  if w.returned then w
  else
    let w := { w with returned := true }
    if w.callbackFired then w.completed
    else if accepted then w
    else if gone then w.done .closed
    else { w with parked := true }

end WriteLine

/-- An entry of the queue: the call of `enqueue` that made it, and its key. An entry without a key
is a response. -/
structure OutboundEntry (Key : Type) where
  call : Nat
  key : Option Key
  deriving DecidableEq

/-- `StudioOutboundQueue`, with the two properties of its wire. `asked` are the calls of `enqueue`,
`line` is the line of the entry a call made, and `writer` is the entry the suspended `pump` waits
for. `writes`, `outcomes` and `reports` are what was done, oldest first: the calls of `writeLine`,
the promises that were resolved, and the calls of `onOverflow`. -/
structure StudioOutboundQueue (Key Line : Type) where
  maxPending : Nat
  destroyed : Bool
  writableEnded : Bool
  queue : List (OutboundEntry Key)
  line : Nat → Option Line
  queuedProgress : Key → Option Nat
  writing : Bool
  closed : Bool
  overflowed : Bool
  writer : Option Nat
  asked : List (Line × Option Key)
  writes : List (WriteLine Line)
  outcomes : List (Nat × StudioWriteOutcome)
  reports : List Nat

/-- What can happen to a queue. The wire may call back for any write, at any time. -/
inductive OutboundEvent (Key Line : Type) where
  /-- The owner calls `enqueue`. -/
  | enqueue (line : Line) (progressKey : Option Key)
  /-- The owner calls `close`. -/
  | close
  /-- `wire.write` returns. -/
  | wrote (accepted : Bool)
  /-- The wire runs the callback of the write of an entry. -/
  | callback (entry : Nat) (failed : Bool)
  /-- The wire raises `drain`. -/
  | drain
  /-- The wire raises `error`. -/
  | error
  /-- The wire raises `close`. -/
  | wireClose
  /-- The wire is destroyed. -/
  | destroy
  /-- The writable side of the wire is ended. -/
  | wireEnd
  /-- The suspended writer resumes. -/
  | resume

namespace StudioOutboundQueue

variable {Key Line : Type}

/-- `constructor`. -/
def start (maxPending : Nat) : StudioOutboundQueue Key Line where
  maxPending := maxPending
  destroyed := false
  writableEnded := false
  queue := []
  line := fun _ => none
  queuedProgress := fun _ => none
  writing := false
  closed := false
  overflowed := false
  writer := none
  asked := []
  writes := []
  outcomes := []
  reports := []

/-- The promise of a call of `enqueue` is resolved. -/
def settle (q : StudioOutboundQueue Key Line) (call : Nat) (outcome : StudioWriteOutcome) :
    StudioOutboundQueue Key Line :=
  { q with outcomes := q.outcomes ++ [(call, outcome)] }

/-- A listener or a callback runs in the calls of `writeLine`. -/
def onWrites (q : StudioOutboundQueue Key Line) (f : WriteLine Line → WriteLine Line) :
    StudioOutboundQueue Key Line :=
  { q with writes := q.writes.map f }

/-- The writer hands the line of an entry to the wire, and is suspended. -/
def hand (q : StudioOutboundQueue Key Line) (call : Nat) : StudioOutboundQueue Key Line :=
  match q.line call with
  | some line => { q with writer := some call, writes := q.writes ++ [WriteLine.begin call line] }
  | none => q

variable [DecidableEq Key]

/-- An entry leaves the queue: the entries behind it remain, and nothing waits under its key. -/
def take (q : StudioOutboundQueue Key Line) (entry : OutboundEntry Key)
    (rest : List (OutboundEntry Key)) : StudioOutboundQueue Key Line :=
  { q with
    queue := rest
    queuedProgress := match entry.key with
      | some key => Function.update q.queuedProgress key none
      | none => q.queuedProgress }

/-- The loop of `pump` over what is queued. It ends with the latch released when nothing is queued,
and then there is nothing to arm it again for. -/
def pumpLoop (q : StudioOutboundQueue Key Line) :
    List (OutboundEntry Key) → StudioOutboundQueue Key Line
  | [] => { q with queue := [], writing := false }
  | entry :: rest =>
    let q := q.take entry rest
    if q.closed || q.destroyed || q.writableEnded then
      (q.settle entry.call .closed).pumpLoop rest
    else q.hand entry.call

def pump (q : StudioOutboundQueue Key Line) : StudioOutboundQueue Key Line :=
  if q.writing then q else { q with writing := true }.pumpLoop q.queue

/-- The promise of the suspended writer is resolved: `pump` resolves the promise of the entry with
the same outcome and goes on. -/
def resume (q : StudioOutboundQueue Key Line) : StudioOutboundQueue Key Line :=
  match q.writer with
  | none => q
  | some call =>
    match q.writes.find? (fun w => w.entry = call) with
    | none => q
    | some w =>
      match w.returned, w.settled with
      | true, some outcome => ({ q with writer := none }.settle call outcome).pumpLoop q.queue
      | _, _ => q

/-- The entry of a call joins the queue. -/
def push (q : StudioOutboundQueue Key Line) (call : Nat) (line : Line) (key : Option Key) :
    StudioOutboundQueue Key Line :=
  { q with
    queue := q.queue ++ [⟨call, key⟩]
    line := Function.update q.line call (some line)
    queuedProgress := match key with
      | some key => Function.update q.queuedProgress key (some call)
      | none => q.queuedProgress }

/-- The bound is exceeded: by a progress frame, which is dropped, or by a response, which is dropped
once the owner was told. -/
def refuse (q : StudioOutboundQueue Key Line) (call : Nat) (key : Option Key) :
    StudioOutboundQueue Key Line :=
  if key.isSome then q.settle call .dropped
  else if q.overflowed then q.settle call .dropped
  else { q with overflowed := true, reports := q.reports ++ [q.queue.length] }.settle call .dropped

def enqueue (q : StudioOutboundQueue Key Line) (line : Line) (key : Option Key) :
    StudioOutboundQueue Key Line :=
  let call := q.asked.length
  let q := { q with asked := q.asked ++ [(line, key)] }
  if q.closed then q.settle call .closed
  else
    match key.bind q.queuedProgress with
    | some queued =>
      { q with line := Function.update q.line queued (some line) }.settle call .coalesced
    | none =>
      if q.maxPending ≤ q.queue.length then q.refuse call key
      else (q.push call line key).pump

def close (q : StudioOutboundQueue Key Line) : StudioOutboundQueue Key Line :=
  if q.closed then q
  else
    { q with
      closed := true
      queue := []
      queuedProgress := fun _ => none
      outcomes := q.outcomes ++ q.queue.map fun entry => (entry.call, .closed) }

/-- The wire is gone, as `writeLine` and `pump` ask. -/
def wireGone (q : StudioOutboundQueue Key Line) : Bool := q.destroyed || q.writableEnded

def step (q : StudioOutboundQueue Key Line) : OutboundEvent Key Line → StudioOutboundQueue Key Line
  | .enqueue line key => q.enqueue line key
  | .close => q.close
  | .wrote accepted => q.onWrites fun w => w.afterWrite accepted q.wireGone
  | .callback entry failed => q.onWrites fun w => if w.entry = entry then w.callback failed else w
  | .drain => q.onWrites WriteLine.drained
  | .error => q.onWrites WriteLine.gone
  | .wireClose => q.onWrites WriteLine.gone
  | .destroy => { q with destroyed := true }
  | .wireEnd => { q with writableEnded := true }
  | .resume => q.resume

end StudioOutboundQueue

/-! ## What the listeners of a write keep -/

namespace WriteLine

variable {Line : Type}

/-- A listener keeps what was handed to the wire, an outcome, and that the wire has returned. -/
structure Keeps (w w' : WriteLine Line) : Prop where
  entry : w'.entry = w.entry
  line : w'.line = w.line
  settled : ∀ outcome, w.settled = some outcome → w'.settled = some outcome
  returned : w.returned = true → w'.returned = true
  ofWire : ∀ outcome, w'.settled = some outcome →
    w.settled = some outcome ∨ outcome = .accepted ∨ outcome = .closed

variable (w : WriteLine Line)

theorem Keeps.refl : Keeps w w :=
  ⟨rfl, rfl, fun _ same => same, id, fun _ same => .inl same⟩

theorem Keeps.trans {w w' w'' : WriteLine Line} (first : Keeps w w') (second : Keeps w' w'') :
    Keeps w w'' where
  entry := second.entry.trans first.entry
  line := second.line.trans first.line
  settled outcome same := second.settled outcome (first.settled outcome same)
  returned same := second.returned (first.returned same)
  ofWire outcome same := (second.ofWire outcome same).elim (first.ofWire outcome) .inr

theorem done_settled (outcome : StudioWriteOutcome) :
    (w.done outcome).settled = some (w.settled.getD outcome) := by
  unfold done
  cases settled : w.settled with
  | none => rfl
  | some earlier => simpa using settled

theorem done_keeps {outcome : StudioWriteOutcome} (ofWire : outcome = .accepted ∨ outcome = .closed)
    :
    Keeps w (w.done outcome) := by
  refine ⟨?_, ?_, fun earlier same => ?_, fun same => ?_, fun later same => ?_⟩
  · unfold done; split <;> rfl
  · unfold done; split <;> rfl
  · rw [done_settled, same, Option.getD_some]
  · unfold done; split <;> exact same
  · rw [done_settled, Option.some.injEq] at same
    subst same
    cases settled : w.settled with
    | none => exact .inr ofWire
    | some earlier => exact .inl rfl

theorem completed_keeps : Keeps w w.completed := by
  unfold completed
  split
  · exact done_keeps w (.inr rfl)
  · exact done_keeps w (.inl rfl)

theorem gone_keeps : Keeps w w.gone := done_keeps w (.inr rfl)

theorem drained_keeps : Keeps w w.drained := by
  unfold drained
  split
  · have done := done_keeps w (.inl (Eq.refl StudioWriteOutcome.accepted))
    exact ⟨done.entry, done.line, done.settled, done.returned, done.ofWire⟩
  · exact .refl w

theorem callback_keeps (failed : Bool) : Keeps w (w.callback failed) := by
  have fired : Keeps w { w with callbackFired := true, writeFailed := w.writeFailed || failed } :=
    ⟨rfl, rfl, fun _ same => same, id, fun _ same => .inl same⟩
  unfold callback
  dsimp only
  split
  · exact fired.trans (completed_keeps _)
  · exact fired

theorem afterWrite_keeps (accepted gone : Bool) : Keeps w (w.afterWrite accepted gone) := by
  have returns : Keeps w { w with returned := true } :=
    ⟨rfl, rfl, fun _ same => same, fun _ => rfl, fun _ same => .inl same⟩
  unfold afterWrite
  split
  · exact .refl w
  · dsimp only
    split
    · exact returns.trans (completed_keeps _)
    · split
      · exact returns
      · split
        · exact returns.trans (done_keeps _ (.inr rfl))
        · exact ⟨rfl, rfl, fun _ same => same, fun _ => rfl, fun _ same => .inl same⟩

theorem afterWrite_returned (accepted gone : Bool) :
    (w.afterWrite accepted gone).returned = true := by
  unfold afterWrite
  split
  · assumption
  · dsimp only
    split
    · exact (completed_keeps { w with returned := true }).returned rfl
    · split
      · rfl
      · split
        · exact (done_keeps { w with returned := true } (.inr rfl)).returned rfl
        · rfl

theorem callback_settled {w : WriteLine Line} (returned : w.returned = true)
    (failed : Bool) : (w.callback failed).settled.isSome := by
  unfold callback
  dsimp only
  rw [if_pos returned, completed, done_settled]
  rfl

end WriteLine

/-! ## What holds of a queue -/

namespace StudioOutboundQueue

variable {Key Line : Type}

/-- The key a call of `enqueue` was made with. -/
def keyOf (q : StudioOutboundQueue Key Line) (call : Nat) : Option (Option Key) :=
  (q.asked[call]?).map Prod.snd

/-- The line of an entry is the one of the call that made it, or of a later call that was answered
with `coalesced`. -/
def Carries (q : StudioOutboundQueue Key Line) (call : Nat) (line : Line) : Prop :=
  q.asked[call]?.map Prod.fst = some line ∨
    ∃ later key, call < later ∧ q.keyOf call = some (some key) ∧
      q.asked[later]? = some (line, some key) ∧ (later, .coalesced) ∈ q.outcomes

/-- What holds of a queue, also while its writer is between two entries. -/
structure Kept (q : StudioOutboundQueue Key Line) : Prop where
  accounted : ∀ call, q.outcomes.countP (fun settled => settled.1 = call) +
    (if q.writer = some call then 1 else 0) + q.queue.countP (fun entry => entry.call = call) =
      if call < q.asked.length then 1 else 0
  ordered : (q.writes.map WriteLine.entry ++ q.queue.map OutboundEntry.call).Pairwise (· < ·)
  named : ∀ call ∈ q.writes.map WriteLine.entry ++ q.queue.map OutboundEntry.call,
    call < q.asked.length
  asked : ∀ entry ∈ q.queue, q.keyOf entry.call = some entry.key
  current : ∀ call, q.writer = some call → ∃ before w, q.writes = before ++ [w] ∧ w.entry = call
  past : ∀ w ∈ q.writes, q.writer ≠ some w.entry → w.returned = true ∧
    ∃ outcome, w.settled = some outcome ∧ (w.entry, outcome) ∈ q.outcomes
  ofWire : ∀ w ∈ q.writes, ∀ outcome, w.settled = some outcome →
    outcome = .accepted ∨ outcome = .closed
  keyed : ∀ key call, q.queuedProgress key = some call ↔ ⟨call, some key⟩ ∈ q.queue
  lined : ∀ entry ∈ q.queue, (q.line entry.call).isSome
  handed : ∀ w ∈ q.writes, q.line w.entry = some w.line
  carried : ∀ call line, q.line call = some line → q.Carries call line
  bounded : q.queue.length ≤ q.maxPending
  shut : q.closed = true → q.queue = []
  accepted : ∀ call, (call, .accepted) ∈ q.outcomes →
    ∃ w ∈ q.writes, w.entry = call ∧ w.settled = some .accepted
  lost : ∀ call, (call, .closed) ∈ q.outcomes → q.closed = true ∨ q.wireGone = true ∨
    ∃ w ∈ q.writes, w.entry = call ∧ w.settled = some .closed
  dropped : ∀ call, (call, .dropped) ∈ q.outcomes →
    q.reports ≠ [] ∨ ∃ key, q.keyOf call = some (some key)
  coalesced : ∀ call, (call, .coalesced) ∈ q.outcomes → ∃ key, q.keyOf call = some (some key)
  reported : q.overflowed = false → q.reports = []
  overflown : q.overflowed = true → q.reports ≠ []
  reportedOnce : q.reports.length ≤ 1

/-- What holds of a queue after every event: the latch is held exactly while an entry is with the
wire, and then only does an entry wait. -/
structure Sound (q : StudioOutboundQueue Key Line) : Prop extends Kept q where
  latched : q.writing = q.writer.isSome
  waits : q.queue ≠ [] → q.writer.isSome

section Later

variable {q q' : StudioOutboundQueue Key Line}

variable {call : Nat}

theorem asked_later (asked : q.asked <+: q'.asked) {found : Line × Option Key}
    (same : q.asked[call]? = some found) : q'.asked[call]? = some found := by
  obtain ⟨more, asked⟩ := asked
  rw [← asked, List.getElem?_append_left (List.getElem?_eq_some_iff.mp same).1, same]

theorem keyOf_later (asked : q.asked <+: q'.asked) {key : Option Key}
    (same : q.keyOf call = some key) : q'.keyOf call = some key := by
  obtain ⟨found, here, rfl⟩ := Option.map_eq_some_iff.mp same
  exact congrArg (Option.map Prod.snd) (asked_later asked here)

theorem Carries.later (asked : q.asked <+: q'.asked)
    (outcomes : ∀ told ∈ q.outcomes, told ∈ q'.outcomes) {line : Line}
    (carries : q.Carries call line) : q'.Carries call line := by
  rcases carries with own | ⟨later, key, after, keyed, found, told⟩
  · obtain ⟨found, here, rfl⟩ := Option.map_eq_some_iff.mp own
    exact .inl (congrArg (Option.map Prod.fst) (asked_later asked here))
  · exact .inr ⟨later, key, after, keyOf_later asked keyed, asked_later asked found,
      outcomes _ told⟩

end Later

theorem start_sound (maxPending : Nat) : (start maxPending : StudioOutboundQueue Key Line).Sound := by
  constructor
  · constructor <;> simp [start]
  · rfl
  · simp [start]

/-! ## The wire -/

variable {q : StudioOutboundQueue Key Line}

variable {f : WriteLine Line → WriteLine Line}

theorem onWrites_kept (kept : q.Kept) (keeps : ∀ w, WriteLine.Keeps w (f w)) :
    (q.onWrites f).Kept := by
  have entries : (q.writes.map f).map WriteLine.entry = q.writes.map WriteLine.entry := by
    rw [List.map_map]
    exact List.map_congr_left fun w _ => (keeps w).entry
  refine { kept with
      ordered := ?ordered, named := ?named, current := ?current, past := ?past
      ofWire := ?ofWire, handed := ?handed, accepted := ?accepted, lost := ?lost }
  case ordered => simpa only [onWrites, entries] using kept.ordered
  case named => simpa only [onWrites, entries] using kept.named
  case current =>
    intro call held
    obtain ⟨before, w, writes, same⟩ := kept.current call held
    refine ⟨before.map f, f w, ?_, (keeps w).entry.trans same⟩
    simp only [onWrites, writes, List.map_append, List.map_cons, List.map_nil]
  case past =>
    intro w' mapped other
    obtain ⟨w, member, rfl⟩ := List.mem_map.mp mapped
    rw [(keeps w).entry] at other ⊢
    obtain ⟨returned, outcome, settled, told⟩ := kept.past w member other
    exact ⟨(keeps w).returned returned, outcome, (keeps w).settled outcome settled, told⟩
  case ofWire =>
    intro w' mapped outcome settled
    obtain ⟨w, member, rfl⟩ := List.mem_map.mp mapped
    exact ((keeps w).ofWire outcome settled).elim (kept.ofWire w member outcome) id
  case handed =>
    intro w' mapped
    obtain ⟨w, member, rfl⟩ := List.mem_map.mp mapped
    rw [(keeps w).entry, (keeps w).line]
    exact kept.handed w member
  case accepted =>
    intro call told
    obtain ⟨w, member, same, settled⟩ := kept.accepted call told
    exact ⟨f w, List.mem_map_of_mem member, (keeps w).entry.trans same, (keeps w).settled _ settled⟩
  case lost =>
    intro call told
    refine (kept.lost call told).imp_right fun gone => gone.imp_right ?_
    rintro ⟨w, member, same, settled⟩
    exact ⟨f w, List.mem_map_of_mem member, (keeps w).entry.trans same, (keeps w).settled _ settled⟩

theorem onWrites_sound (sound : q.Sound) (keeps : ∀ w, WriteLine.Keeps w (f w)) :
    (q.onWrites f).Sound :=
  ⟨onWrites_kept sound.toKept keeps, sound.latched, sound.waits⟩

/-! ## The writer takes an entry -/

section Writer

variable {entry : OutboundEntry Key} {rest : List (OutboundEntry Key)}

theorem Kept.head_lt (kept : q.Kept) (queued : q.queue = entry :: rest) :
    ∀ other ∈ rest, entry.call < other.call := by
  have ordered := (List.pairwise_append.mp kept.ordered).2.1
  rw [queued, List.map_cons, List.pairwise_cons] at ordered
  intro other member
  exact ordered.1 other.call (List.mem_map_of_mem member)

variable [DecidableEq Key]

theorem Kept.take_keyed (kept : q.Kept) (queued : q.queue = entry :: rest) (key : Key)
    (call : Nat) :
    (q.take entry rest).queuedProgress key = some call ↔ ⟨call, some key⟩ ∈ rest := by
  have names := kept.keyed key call
  rw [queued, List.mem_cons] at names
  obtain ⟨taken, takenKey⟩ := entry
  cases takenKey with
  | none =>
    simp only [take]
    rw [names]
    simp
  | some other =>
    simp only [take]
    by_cases same : key = other
    · subst same
      rw [Function.update_self]
      constructor
      · intro named
        cases named
      · intro member
        have later : taken < call := kept.head_lt queued _ member
        have first := (kept.keyed key taken).mpr (by rw [queued]; exact List.mem_cons_self)
        rw [names.mpr (.inr member)] at first
        cases first
        exact absurd later (Nat.lt_irrefl _)
    · rw [Function.update_of_ne same, names]
      simp [same]

theorem take_settle_kept (kept : q.Kept) (queued : q.queue = entry :: rest)
    (over' : (q.closed || q.destroyed || q.writableEnded) = true) :
    ((q.take entry rest).settle entry.call .closed).Kept := by
  have gone : q.closed = true ∨ q.wireGone = true := by
    simpa [wireGone, or_assoc] using over'
  refine { kept with
      accounted := ?accounted, ordered := ?ordered, named := ?named, asked := ?asked
      past := ?past, keyed := ?keyed, lined := ?lined, carried := ?carried
      bounded := ?bounded, shut := ?shut, accepted := ?accepted, lost := ?lost
      dropped := ?dropped, coalesced := ?coalesced }
  case accounted =>
    intro call
    have count := kept.accounted call
    rw [queued, List.countP_cons] at count
    change (q.outcomes ++ [(entry.call, StudioWriteOutcome.closed)]).countP _ +
      (if q.writer = some call then 1 else 0) + rest.countP _ =
        if call < q.asked.length then 1 else 0
    rw [List.countP_append, List.countP_singleton]
    simp only [decide_eq_true_eq] at count ⊢
    omega
  case ordered =>
    have ordered := kept.ordered
    rw [queued, List.map_cons] at ordered
    exact ordered.sublist (List.Sublist.append_left (List.sublist_cons_self _ _) _)
  case named =>
    intro call member
    refine kept.named call ?_
    rw [queued, List.map_cons]
    rcases List.mem_append.mp member with written | waits
    · exact List.mem_append_left _ written
    · exact List.mem_append_right _ (List.mem_cons_of_mem _ waits)
  case asked => exact fun other member => kept.asked other (by rw [queued]; exact .tail _ member)
  case past =>
    intro w member other
    obtain ⟨returned, outcome, settled, told⟩ := kept.past w member other
    exact ⟨returned, outcome, settled, List.mem_append_left _ told⟩
  case keyed => exact kept.take_keyed queued
  case lined => exact fun other member => kept.lined other (by rw [queued]; exact .tail _ member)
  case carried =>
    intro call line same
    refine Carries.later ?_ ?_ (kept.carried call line same)
    · exact List.prefix_rfl
    · exact fun _ told => List.mem_append_left _ told
  case bounded =>
    have bounded := kept.bounded
    rw [queued, List.length_cons] at bounded
    exact Nat.le_of_succ_le bounded
  case shut =>
    intro closed
    have empty := kept.shut closed
    rw [queued] at empty
    cases empty
  case accepted =>
    intro call told
    refine kept.accepted call ?_
    simpa [settle, take] using told
  case lost =>
    intro call _
    exact gone.imp_right .inl
  case dropped =>
    intro call told
    refine kept.dropped call ?_
    simpa [settle, take] using told
  case coalesced =>
    intro call told
    refine kept.coalesced call ?_
    simpa [settle, take] using told

theorem hand_eq (kept : q.Kept) (queued : q.queue = entry :: rest) :
    ∃ line, q.line entry.call = some line ∧ (q.take entry rest).hand entry.call =
      { q.take entry rest with
        writer := some entry.call
        writes := q.writes ++ [WriteLine.begin entry.call line] } := by
  obtain ⟨line, same⟩ := Option.isSome_iff_exists.mp
    (kept.lined entry (by rw [queued]; exact List.mem_cons_self))
  refine ⟨line, same, ?_⟩
  have taken : (q.take entry rest).line entry.call = some line := same
  simp only [hand, taken]
  rfl

theorem take_hand_kept (kept : q.Kept) (idle : q.writer = none)
    (queued : q.queue = entry :: rest) : ((q.take entry rest).hand entry.call).Kept := by
  obtain ⟨line, same, handed⟩ := hand_eq kept queued
  rw [handed]
  refine { kept with
      accounted := ?accounted, ordered := ?ordered, named := ?named, asked := ?asked
      current := ?current, past := ?past, ofWire := ?ofWire, keyed := ?keyed, lined := ?lined
      handed := ?handed, bounded := ?bounded, shut := ?shut, accepted := ?accepted
      lost := ?lost }
  case accounted =>
    intro call
    have count := kept.accounted call
    rw [queued, List.countP_cons, idle, if_neg (by simp)] at count
    change q.outcomes.countP _ + (if some entry.call = some call then 1 else 0) + rest.countP _ =
      if call < q.asked.length then 1 else 0
    simp only [decide_eq_true_eq] at count
    simp only [Option.some.injEq]
    omega
  case ordered =>
    have ordered := kept.ordered
    rw [queued, List.map_cons] at ordered
    simpa [take, WriteLine.begin] using ordered
  case named =>
    intro call member
    refine kept.named call ?_
    rw [queued, List.map_cons]
    simpa [take, WriteLine.begin] using member
  case asked => exact fun other member => kept.asked other (by rw [queued]; exact .tail _ member)
  case current =>
    intro call held
    cases held
    exact ⟨q.writes, WriteLine.begin entry.call line, rfl, rfl⟩
  case past =>
    intro w member other
    rcases List.mem_append.mp member with earlier | new
    · exact kept.past w earlier (by rw [idle]; exact Option.some_ne_none _ |>.symm)
    · rw [List.mem_singleton.mp new] at other
      exact absurd rfl other
  case ofWire =>
    intro w member outcome settled
    rcases List.mem_append.mp member with earlier | new
    · exact kept.ofWire w earlier outcome settled
    · rw [List.mem_singleton.mp new] at settled
      cases settled
  case keyed => exact kept.take_keyed queued
  case lined => exact fun other member => kept.lined other (by rw [queued]; exact .tail _ member)
  case handed =>
    intro w member
    rcases List.mem_append.mp member with earlier | new
    · exact kept.handed w earlier
    · rw [List.mem_singleton.mp new]
      exact same
  case bounded =>
    have bounded := kept.bounded
    rw [queued, List.length_cons] at bounded
    exact Nat.le_of_succ_le bounded
  case shut =>
    intro closed
    have empty := kept.shut closed
    rw [queued] at empty
    cases empty
  case accepted =>
    intro call told
    obtain ⟨w, member, names, settled⟩ := kept.accepted call told
    exact ⟨w, List.mem_append_left _ member, names, settled⟩
  case lost =>
    intro call told
    refine (kept.lost call told).imp_right fun gone => gone.imp_right ?_
    rintro ⟨w, member, names, settled⟩
    exact ⟨w, List.mem_append_left _ member, names, settled⟩

theorem pumpLoop_sound (kept : q.Kept) (idle : q.writer = none) (latched : q.writing = true)
    (entries : List (OutboundEntry Key)) (queued : q.queue = entries) :
    (q.pumpLoop entries).Sound := by
  induction entries generalizing q with
  | nil =>
    have same : q.pumpLoop [] = { q with writing := false } := by
      simp only [pumpLoop, ← queued]
    rw [same]
    refine ⟨{ kept with }, ?_, ?_⟩
    · rw [idle]; rfl
    · intro waits; exact absurd queued waits
  | cons entry rest ih =>
    rw [pumpLoop]
    split
    · rename_i over'
      exact ih (take_settle_kept kept queued over') idle latched rfl
    · obtain ⟨line, _, handed⟩ := hand_eq kept queued
      have sound := take_hand_kept kept idle queued
      rw [handed] at sound ⊢
      exact ⟨sound, latched, fun _ => rfl⟩

end Writer

/-! ## The calls of the owner -/

theorem answer_kept (kept : q.Kept) (line : Line) (key : Option Key) (outcome : StudioWriteOutcome)
    (notAccepted : outcome ≠ .accepted)
    (closed : outcome = .closed → q.closed = true)
    (dropped : outcome = .dropped → q.reports ≠ [] ∨ key.isSome)
    (coalesced : outcome = .coalesced → key.isSome) :
    ({ q with asked := q.asked ++ [(line, key)] }.settle q.asked.length outcome).Kept := by
  have newest : (q.asked ++ [(line, key)])[q.asked.length]? = some (line, key) := by simp
  refine { kept with
      accounted := ?accounted, named := ?named, asked := ?asked, past := ?past
      carried := ?carried, accepted := ?accepted, lost := ?lost, dropped := ?dropped
      coalesced := ?coalesced }
  case accounted =>
    intro call
    have count := kept.accounted call
    change (q.outcomes ++ [(q.asked.length, outcome)]).countP _ +
      (if q.writer = some call then 1 else 0) + q.queue.countP _ =
        if call < (q.asked ++ [(line, key)]).length then 1 else 0
    rw [List.countP_append, List.countP_singleton, List.length_append, List.length_singleton]
    simp only [decide_eq_true_eq]
    split_ifs at count ⊢ <;> omega
  case named =>
    intro call member
    have := kept.named call member
    change call < (q.asked ++ [(line, key)]).length
    rw [List.length_append]
    omega
  case asked => exact fun entry member => keyOf_later (List.prefix_append _ _) (kept.asked entry member)
  case past =>
    intro w member other
    obtain ⟨returned, earlier, settled, told⟩ := kept.past w member other
    exact ⟨returned, earlier, settled, List.mem_append_left _ told⟩
  case carried =>
    intro call carried same
    refine Carries.later ?_ ?_ (kept.carried call carried same)
    · exact List.prefix_append _ _
    · exact fun _ told => List.mem_append_left _ told
  case accepted =>
    intro call told
    rcases List.mem_append.mp told with earlier | new
    · exact kept.accepted call earlier
    · cases List.mem_singleton.mp new
      exact absurd rfl notAccepted
  case lost =>
    intro call told
    rcases List.mem_append.mp told with earlier | new
    · exact kept.lost call earlier
    · cases List.mem_singleton.mp new
      exact .inl (closed rfl)
  case dropped =>
    intro call told
    rcases List.mem_append.mp told with earlier | new
    · exact (kept.dropped call earlier).imp_right fun ⟨under, same⟩ => ⟨under, keyOf_later (List.prefix_append _ _) same⟩
    · cases List.mem_singleton.mp new
      refine (dropped rfl).imp_right fun progress => ?_
      obtain ⟨under, rfl⟩ := Option.isSome_iff_exists.mp progress
      exact ⟨under, congrArg (Option.map Prod.snd) newest⟩
  case coalesced =>
    intro call told
    rcases List.mem_append.mp told with earlier | new
    · obtain ⟨under, same⟩ := kept.coalesced call earlier
      exact ⟨under, keyOf_later (List.prefix_append _ _) same⟩
    · cases List.mem_singleton.mp new
      obtain ⟨under, rfl⟩ := Option.isSome_iff_exists.mp (coalesced rfl)
      exact ⟨under, congrArg (Option.map Prod.snd) newest⟩

theorem reline_kept (kept : q.Kept) {entry : OutboundEntry Key} (waits : entry ∈ q.queue)
    {line : Line} (carries : q.Carries entry.call line) :
    { q with line := Function.update q.line entry.call (some line) }.Kept := by
  have unwritten : ∀ w ∈ q.writes, w.entry ≠ entry.call := by
    intro w member
    exact Nat.ne_of_lt ((List.pairwise_append.mp kept.ordered).2.2 w.entry
      (List.mem_map_of_mem member) entry.call (List.mem_map_of_mem waits))
  refine { kept with
      lined := ?lined, handed := ?handed, carried := ?carried }
  case lined =>
    intro other member
    by_cases same : other.call = entry.call
    · simp [same]
    · simpa [Function.update_of_ne same] using kept.lined other member
  case handed =>
    intro w member
    change Function.update q.line entry.call (some line) w.entry = some w.line
    rw [Function.update_of_ne (unwritten w member)]
    exact kept.handed w member
  case carried =>
    intro call carried same
    change Function.update q.line entry.call (some line) call = some carried at same
    by_cases here : call = entry.call
    · subst here
      rw [Function.update_self] at same
      cases same
      exact carries
    · rw [Function.update_of_ne here] at same
      exact kept.carried call carried same

theorem push_kept [DecidableEq Key] (kept : q.Kept) (line : Line) (key : Option Key) (opened : q.closed = false)
    (fresh : key.bind q.queuedProgress = none) (room : q.queue.length < q.maxPending) :
    ({ q with asked := q.asked ++ [(line, key)] }.push q.asked.length line key).Kept := by
  have newest : (q.asked ++ [(line, key)])[q.asked.length]? = some (line, key) := by simp
  have queuedLt : ∀ entry ∈ q.queue, entry.call < q.asked.length := fun entry member =>
    kept.named entry.call (List.mem_append_right _ (List.mem_map_of_mem member))
  have writtenLt : ∀ w ∈ q.writes, w.entry < q.asked.length := fun w member =>
    kept.named w.entry (List.mem_append_left _ (List.mem_map_of_mem member))
  refine { kept with
      accounted := ?accounted, ordered := ?ordered, named := ?named, asked := ?asked
      keyed := ?keyed, lined := ?lined, handed := ?handed, carried := ?carried
      bounded := ?bounded, shut := ?shut, dropped := ?dropped, coalesced := ?coalesced }
  case accounted =>
    intro call
    have count := kept.accounted call
    change q.outcomes.countP _ + (if q.writer = some call then 1 else 0) +
      (q.queue ++ [OutboundEntry.mk q.asked.length key]).countP _ =
        if call < (q.asked ++ [(line, key)]).length then 1 else 0
    rw [List.countP_append, List.countP_singleton, List.length_append, List.length_singleton]
    simp only [decide_eq_true_eq]
    split_ifs at count ⊢ <;> omega
  case ordered =>
    change (q.writes.map WriteLine.entry ++
      (q.queue ++ [OutboundEntry.mk q.asked.length key]).map OutboundEntry.call).Pairwise (· < ·)
    rw [List.map_append, ← List.append_assoc]
    refine List.pairwise_append.mpr ⟨kept.ordered, List.pairwise_singleton _ _, ?_⟩
    intro call member new last
    rw [List.mem_singleton.mp last]
    exact kept.named call member
  case named =>
    intro call member
    change call < (q.asked ++ [(line, key)]).length
    change call ∈ q.writes.map WriteLine.entry ++
      (q.queue ++ [OutboundEntry.mk q.asked.length key]).map OutboundEntry.call at member
    rw [List.map_append, ← List.append_assoc] at member
    rw [List.length_append, List.length_singleton]
    rcases List.mem_append.mp member with earlier | new
    · have := kept.named call earlier
      omega
    · rw [List.mem_singleton.mp new]
      exact Nat.lt_succ_self _
  case asked =>
    intro entry member
    rcases List.mem_append.mp member with earlier | new
    · exact keyOf_later (List.prefix_append _ _) (kept.asked entry earlier)
    · rw [List.mem_singleton.mp new]
      exact congrArg (Option.map Prod.snd) newest
  case keyed =>
    intro other call
    unfold push
    rw [List.mem_append, List.mem_singleton, ← kept.keyed other call]
    cases key with
    | none => simp
    | some key =>
      dsimp only
      by_cases same : other = key
      · subst same
        have unnamed : q.queuedProgress other = none := fresh
        rw [Function.update_self, unnamed]
        simp [eq_comm]
      · rw [Function.update_of_ne same]
        simp [same]
  case lined =>
    intro entry member
    change (Function.update q.line q.asked.length (some line) entry.call).isSome
    rcases List.mem_append.mp member with earlier | new
    · rw [Function.update_of_ne (Nat.ne_of_lt (queuedLt entry earlier))]
      exact kept.lined entry earlier
    · rw [List.mem_singleton.mp new, Function.update_self]
      rfl
  case handed =>
    intro w member
    change Function.update q.line q.asked.length (some line) w.entry = some w.line
    rw [Function.update_of_ne (Nat.ne_of_lt (writtenLt w member))]
    exact kept.handed w member
  case carried =>
    intro call carried same
    change Function.update q.line q.asked.length (some line) call = some carried at same
    by_cases here : call = q.asked.length
    · subst here
      rw [Function.update_self] at same
      cases same
      exact .inl (congrArg (Option.map Prod.fst) newest)
    · rw [Function.update_of_ne here] at same
      refine Carries.later ?_ ?_ (kept.carried call carried same)
      · exact List.prefix_append _ _
      · exact fun _ told => told
  case bounded =>
    change (q.queue ++ [OutboundEntry.mk q.asked.length key]).length ≤ q.maxPending
    rw [List.length_append]
    exact room
  case shut =>
    intro closed
    rw [show q.closed = true from closed] at opened
    cases opened
  case dropped =>
    intro call told
    exact (kept.dropped call told).imp_right fun ⟨under, same⟩ => ⟨under, keyOf_later (List.prefix_append _ _) same⟩
  case coalesced =>
    intro call told
    obtain ⟨under, same⟩ := kept.coalesced call told
    exact ⟨under, keyOf_later (List.prefix_append _ _) same⟩

theorem close_kept (kept : q.Kept) : q.close.Kept := by
  unfold close
  split
  · exact kept
  · refine { kept with
        accounted := ?accounted, ordered := ?ordered, named := ?named, asked := ?asked
        past := ?past, keyed := ?keyed, lined := ?lined, carried := ?carried
        bounded := ?bounded, shut := ?shut, accepted := ?accepted, lost := ?lost
        dropped := ?dropped, coalesced := ?coalesced }
    case accounted =>
      intro call
      have count := kept.accounted call
      change (q.outcomes ++ q.queue.map fun entry => (entry.call, StudioWriteOutcome.closed)).countP
        _ + (if q.writer = some call then 1 else 0) + ([] : List (OutboundEntry Key)).countP _ =
          if call < q.asked.length then 1 else 0
      rw [List.countP_append, List.countP_map, List.countP_nil]
      simp only [Function.comp_def]
      omega
    case ordered =>
      change (q.writes.map WriteLine.entry ++ []).Pairwise (· < ·)
      rw [List.append_nil]
      exact (List.pairwise_append.mp kept.ordered).1
    case named =>
      intro call member
      refine kept.named call (List.mem_append_left _ ?_)
      simpa using member
    case asked => exact fun entry member => absurd member List.not_mem_nil
    case past =>
      intro w member other
      obtain ⟨returned, outcome, settled, told⟩ := kept.past w member other
      exact ⟨returned, outcome, settled, List.mem_append_left _ told⟩
    case keyed => simp
    case lined => exact fun entry member => absurd member List.not_mem_nil
    case carried =>
      intro call line same
      refine Carries.later ?_ ?_ (kept.carried call line same)
      · exact List.prefix_rfl
      · exact fun _ told => List.mem_append_left _ told
    case bounded => exact Nat.zero_le _
    case shut => exact fun _ => rfl
    case accepted =>
      intro call told
      refine kept.accepted call ?_
      simpa using told
    case lost => exact fun _ _ => .inl rfl
    case dropped =>
      intro call told
      refine kept.dropped call ?_
      simpa using told
    case coalesced =>
      intro call told
      refine kept.coalesced call ?_
      simpa using told

theorem close_sound (sound : q.Sound) : q.close.Sound := by
  refine ⟨close_kept sound.toKept, ?_, fun waits => ?_⟩
  · unfold close; split <;> exact sound.latched
  · unfold close at waits ⊢
    split at waits
    · split <;> exact sound.waits waits
    · exact absurd rfl waits

theorem release_kept (kept : q.Kept) {call : Nat} {w : WriteLine Line} {outcome : StudioWriteOutcome}
    (held : q.writer = some call) (member : w ∈ q.writes) (same : w.entry = call)
    (returned : w.returned = true) (settled : w.settled = some outcome) :
    ({ q with writer := none }.settle call outcome).Kept := by
  have ofWire := kept.ofWire w member outcome settled
  have only : ∀ other ∈ q.writes, other.entry = call → other = w := by
    have distinct : (q.writes.map WriteLine.entry).Nodup :=
      (List.pairwise_append.mp kept.ordered).1.imp Nat.ne_of_lt
    intro other memberOther sameOther
    exact List.inj_on_of_nodup_map distinct memberOther member (sameOther.trans same.symm)
  refine { kept with
      accounted := ?accounted, current := ?current, past := ?past, carried := ?carried
      accepted := ?accepted, lost := ?lost, dropped := ?dropped, coalesced := ?coalesced }
  case accounted =>
    intro other
    have count := kept.accounted other
    change (q.outcomes ++ [(call, outcome)]).countP _ + (if (none : Option Nat) = some other then 1 else 0) +
      q.queue.countP _ = if other < q.asked.length then 1 else 0
    rw [List.countP_append, List.countP_singleton, if_neg (Option.some_ne_none other).symm]
    simp only [held, Option.some.injEq] at count
    simp only [decide_eq_true_eq] at count ⊢
    omega
  case current =>
    intro other taken
    cases taken
  case past =>
    intro other memberOther _
    by_cases here : other.entry = call
    · rw [only other memberOther here]
      exact ⟨returned, outcome, settled,
        List.mem_append_right _ (by rw [same]; exact List.mem_singleton_self _)⟩
    · have unheld : q.writer ≠ some other.entry := by
        rw [held]
        exact fun equal => here (Option.some.inj equal).symm
      obtain ⟨returned, earlier, settled, told⟩ := kept.past other memberOther unheld
      exact ⟨returned, earlier, settled, List.mem_append_left _ told⟩
  case carried =>
    intro other line same
    refine Carries.later ?_ ?_ (kept.carried other line same)
    · exact List.prefix_rfl
    · exact fun _ told => List.mem_append_left _ told
  case accepted =>
    intro other told
    rcases List.mem_append.mp told with earlier | new
    · exact kept.accepted other earlier
    · cases List.mem_singleton.mp new
      exact ⟨w, member, same, settled⟩
  case lost =>
    intro other told
    rcases List.mem_append.mp told with earlier | new
    · exact kept.lost other earlier
    · cases List.mem_singleton.mp new
      exact .inr (.inr ⟨w, member, same, settled⟩)
  case dropped =>
    intro other told
    rcases List.mem_append.mp told with earlier | new
    · exact kept.dropped other earlier
    · cases List.mem_singleton.mp new
      simp at ofWire
  case coalesced =>
    intro other told
    rcases List.mem_append.mp told with earlier | new
    · exact kept.coalesced other earlier
    · cases List.mem_singleton.mp new
      simp at ofWire

theorem refuse_kept (kept : q.Kept) (line : Line) (key : Option Key) :
    ({ q with asked := q.asked ++ [(line, key)] }.refuse q.asked.length key).Kept := by
  unfold refuse
  split
  · rename_i progress
    exact answer_kept kept line key .dropped (by simp) (by simp) (fun _ => .inr progress) (by simp)
  · split
    · rename_i overflowed
      have told : q.reports ≠ [] := kept.overflown overflowed
      exact answer_kept kept line key .dropped (by simp) (by simp) (fun _ => .inl told) (by simp)
    · rename_i first
      have none' : q.reports = [] := kept.reported (by simpa using first)
      have reporting : { q with
          overflowed := true, reports := q.reports ++ [q.queue.length] }.Kept := by
        refine { kept with
          dropped := fun _ _ => .inl (by simp)
          reported := fun unset => by cases unset
          overflown := fun _ => by simp
          reportedOnce := by simp [none'] }
      exact answer_kept reporting line key .dropped (by simp) (by simp) (fun _ => .inl (by simp))
        (by simp)

/-! ## Every event -/

section Events

variable [DecidableEq Key]

theorem resume_sound (sound : q.Sound) : q.resume.Sound := by
  unfold resume
  split
  · exact sound
  · rename_i call held
    split
    · exact sound
    · rename_i w found
      split
      · rename_i outcome returned settled
        have latched : q.writing = true := by rw [sound.latched, held]; rfl
        exact pumpLoop_sound (release_kept sound.toKept held (List.mem_of_find?_eq_some found)
            (by simpa using List.find?_some found) returned settled)
          rfl latched q.queue rfl
      · exact sound

theorem pump_sound (kept : q.Kept) (latched : q.writing = q.writer.isSome) : q.pump.Sound := by
  unfold pump
  split
  · rename_i writing
    exact ⟨kept, latched, fun _ => by rw [← latched]; exact writing⟩
  · rename_i idle
    have unheld : q.writer = none := by
      rw [Bool.not_eq_true, latched, Option.isSome_eq_false_iff, Option.isNone_iff_eq_none] at idle
      exact idle
    have latching : ({ q with writing := true } : StudioOutboundQueue Key Line).Kept :=
      { kept with }
    exact pumpLoop_sound latching unheld rfl q.queue rfl

theorem enqueue_sound (sound : q.Sound) (line : Line) (key : Option Key) :
    (q.enqueue line key).Sound := by
  have kept := sound.toKept
  unfold enqueue
  dsimp only
  split
  · rename_i closed
    exact ⟨answer_kept kept line key .closed (by simp) (fun _ => closed) (by simp) (by simp),
      sound.latched, sound.waits⟩
  · rename_i opened
    split
    · rename_i queued named
      obtain ⟨under, rfl, named⟩ := Option.bind_eq_some_iff.mp named
      have waits := (kept.keyed under queued).mp named
      have answered := answer_kept kept line (some under) .coalesced (by simp) (by simp) (by simp)
        fun _ => rfl
      refine ⟨reline_kept answered waits ?_, sound.latched, sound.waits⟩
      refine .inr ⟨q.asked.length, under, ?_, ?_, ?_, ?_⟩
      · exact kept.named queued (List.mem_append_right _ (List.mem_map_of_mem waits))
      · exact keyOf_later (List.prefix_append _ _) (kept.asked _ waits)
      · change (q.asked ++ [(line, some under)])[q.asked.length]? = some (line, some under)
        simp
      · exact List.mem_append_right _ (List.mem_singleton_self _)
    · rename_i fresh
      split
      · refine ⟨refuse_kept kept line key, ?_, ?_⟩
        · unfold refuse; split_ifs <;> exact sound.latched
        · unfold refuse; split_ifs <;> exact sound.waits
      · rename_i room
        exact pump_sound (push_kept kept line key (by simpa using opened) fresh (by omega))
          sound.latched

theorem step_sound (sound : q.Sound) (event : OutboundEvent Key Line) : (q.step event).Sound := by
  have gone : ∀ {d e : Bool}, (q.wireGone = true → d = true ∨ e = true) →
      ({ q with destroyed := d, writableEnded := e } : StudioOutboundQueue Key Line).Sound := by
    intro d e later
    refine ⟨?_, sound.latched, sound.waits⟩
    have kept := sound.toKept
    refine { kept with lost := fun call told => ?_ }
    refine (kept.lost call told).imp_right fun lost => lost.imp_left fun already => ?_
    simpa [wireGone] using later already
  cases event with
  | enqueue line key => exact enqueue_sound sound line key
  | close => exact close_sound sound
  | wrote accepted => exact onWrites_sound sound fun w => w.afterWrite_keeps accepted _
  | callback entry failed =>
    refine onWrites_sound sound fun w => ?_
    split
    · exact w.callback_keeps failed
    · exact .refl w
  | drain => exact onWrites_sound sound WriteLine.drained_keeps
  | error | wireClose => exact onWrites_sound sound WriteLine.gone_keeps
  | destroy => exact gone fun _ => .inl rfl
  | wireEnd => exact gone fun _ => .inr rfl
  | resume => exact resume_sound sound

def after (maxPending : Nat) (events : List (OutboundEvent Key Line)) :
    StudioOutboundQueue Key Line :=
  run step (start maxPending) events

theorem after_sound (maxPending : Nat) (events : List (OutboundEvent Key Line)) :
    (after maxPending events).Sound :=
  run_induction (motive := Sound) (fun _ event sound => step_sound sound event) (start_sound maxPending) events

end Events

end StudioOutboundQueue

end Vex.Studio
