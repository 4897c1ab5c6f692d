import Vex.Bridge.FrontClosing

/-!
# What a call takes of the queue of plane 4

A call of `queueUp` takes a place in the queue unless its frame is coalesced, a close takes one,
and what takes places one after another takes their sum (`Takes.bind`). A call that the queue has
room for leaves the front serving. One that it has no room for makes the front fail: where an
`ERROR` of that failure is queued already the failure needs no place and the call returns, and
where none is the failure calls itself, whatever the fuel.
-/

namespace Vex.Bridge

open Vex.Library
open Vex.Mcp.PipeFront (PeerClosedReason)

namespace Front

variable {s t u : Front} {β γ : Type}

/-- The number of connections that have a handle. -/
def lives (s : Front) : Nat := s.sup.order.countP s.alive

def place (s : Front) (connection : Nat) (payload : ControlUp) : Nat :=
  if (Supervisor.coalesce connection payload s.sup.upPending).isSome then 0 else 1

/-- A full queue without an `ERROR` of the failure makes the failure call itself. -/
def Stuck (overflow : Front → Option Front) : Prop :=
  ∀ s, s.sup.terminal = false → ¬s.Reports .internalInvariant → controlQueueBound ≤ s.queued →
    overflow s = none

/-- The failure that a full queue calls returns from where an `ERROR` of it is queued and fewer
connections have a handle. -/
def Returns (overflow : Front → Option Front) (bound : Nat) : Prop :=
  ∀ s, Tidy s → s.Reports .internalInvariant → s.lives < bound → (overflow s).isSome

/-- A call takes `n` places of the queue. -/
structure Takes (state : β → Front) (call : (Front → Option Front) → Option β) (s : Front)
    (n : Nat) : Prop where
  winds : ∀ {overflow r}, Sinks overflow → call overflow = some r → Winds s (state r)
  fits : ∀ {overflow}, Sinks overflow → s.queued + n ≤ controlQueueBound →
    ∃ r, call overflow = some r ∧ Calm s (state r) ∧ (state r).queued = s.queued + n ∧
      ((state r).Reports .internalInvariant → s.Reports .internalInvariant)
  falls : ∀ {overflow r}, Sinks overflow → s.sup.terminal = false →
    controlQueueBound < s.queued + n → call overflow = some r → ¬Calm s (state r)
  stuck : ∀ {overflow}, Sinks overflow → Stuck overflow → s.sup.terminal = false →
    ¬s.Reports .internalInvariant → controlQueueBound < s.queued + n → call overflow = none
  returns : ∀ {overflow}, Sinks overflow → Returns overflow (s.lives + 1) →
    s.Reports .internalInvariant → (call overflow).isSome

theorem Fell.not_calm {code : ExitCode} (fell : Fell code s t) : ¬Calm s t := by
  intro calm
  obtain ⟨more, longer⟩ := fell.failed
  rw [calm.failed] at longer
  simp at longer

theorem Winds.not_calm (first : Winds s t) (second : Winds t u) (failed : ¬Calm s t) :
    ¬Calm s u := by
  obtain ⟨more, longer⟩ := (first.ended.resolve_left failed).failed
  obtain ⟨later, longest⟩ := second.failed
  intro calm
  rw [calm.failed, longer, List.append_assoc] at longest
  simp at longest

theorem Winds.lives (winds : Winds s t) : t.lives ≤ s.lives := by
  unfold Front.lives
  refine (winds.order.countP_le).trans (List.countP_mono_left fun id _ living => ?_)
  exact winds.fewer id living

namespace Takes

variable {state : β → Front} {call : (Front → Option Front) → Option β} {n m : Nat}

theorem bind (first : Takes state call s n) {state' : γ → Front}
    {k : (Front → Option Front) → β → Option γ} {p : β → Nat}
    (second : ∀ r, Winds s (state r) → Takes state' (fun overflow => k overflow r) (state r) (p r))
    (same : ∀ {overflow r}, Sinks overflow → call overflow = some r → Calm s (state r) → p r = m) :
    Takes state' (fun overflow => (call overflow).bind (k overflow)) s (n + m) := by
  have split : ∀ {overflow r r'}, Sinks overflow → call overflow = some r → k overflow r = some r' →
      Winds s (state r) ∧ Winds (state r) (state' r') := by
    intro overflow r r' sinks one two
    have winds := first.winds sinks one
    exact ⟨winds, (second r winds).winds sinks two⟩
  constructor
  · intro overflow r' sinks both
    obtain ⟨r, one, two⟩ := Option.bind_eq_some_iff.mp both
    obtain ⟨winds, winds'⟩ := split sinks one two
    exact winds.trans winds'
  · intro overflow sinks room
    obtain ⟨r, one, calm, queued, reports⟩ := first.fits sinks (by omega)
    have exact_ := same sinks one calm
    obtain ⟨r', two, calm', queued', reports'⟩ :=
      (second r (first.winds sinks one)).fits sinks (by omega)
    exact ⟨r', Option.bind_eq_some_iff.mpr ⟨r, one, two⟩, calm.trans calm', by omega,
      fun reported => reports (reports' reported)⟩
  · intro overflow r' sinks running full both
    obtain ⟨r, one, two⟩ := Option.bind_eq_some_iff.mp both
    obtain ⟨winds, winds'⟩ := split sinks one two
    by_cases room : s.queued + n ≤ controlQueueBound
    · obtain ⟨r₀, one', calm, queued, -⟩ := first.fits sinks room
      obtain rfl := Option.some.inj (one'.symm.trans one)
      have exact_ := same sinks one calm
      intro calm'
      refine (second r₀ winds).falls sinks (calm.terminal.trans running) (by omega) two ?_
      exact ⟨calm'.failed.trans calm.failed.symm, calm'.terminal.trans calm.terminal.symm,
        calm'.exit.trans calm.exit.symm⟩
    · exact winds.not_calm winds' (first.falls sinks running (by omega) one)
  · intro overflow sinks stuck running unreported full
    by_cases room : s.queued + n ≤ controlQueueBound
    · obtain ⟨r, one, calm, queued, reports⟩ := first.fits sinks room
      have exact_ := same sinks one calm
      rw [one]
      exact (second r (first.winds sinks one)).stuck sinks stuck
        (calm.terminal.trans running) (fun reported => unreported (reports reported)) (by omega)
    · rw [first.stuck sinks stuck running unreported (by omega)]
      rfl
  · intro overflow sinks returns reported
    obtain ⟨r, one⟩ := Option.isSome_iff_exists.mp (first.returns sinks returns reported)
    have winds := first.winds sinks one
    have fewer : Returns overflow ((state r).lives + 1) := fun v tidy' reported' few =>
      returns v tidy' reported' (few.trans_le (Nat.succ_le_succ winds.lives))
    rw [one]
    exact (second r winds).returns sinks fewer (winds.reports _ reported)

theorem map (takes : Takes state call s n) {state' : γ → Front} (change : β → γ)
    (winds : ∀ r, Winds s (state r) → Winds s (state' (change r)))
    (calm : ∀ r, Calm s (state' (change r)) ↔ Calm s (state r))
    (queued : ∀ r, (state' (change r)).queued = (state r).queued)
    (reports : ∀ r, (state' (change r)).Reports .internalInvariant ↔
      (state r).Reports .internalInvariant) :
    Takes state' (fun overflow => (call overflow).map change) s n := by
  constructor
  · intro overflow r' sinks both
    obtain ⟨r, one, rfl⟩ := Option.map_eq_some_iff.mp both
    exact winds r (takes.winds sinks one)
  · intro overflow sinks room
    obtain ⟨r, one, calm', queued', reports'⟩ := takes.fits sinks room
    exact ⟨change r, by rw [one]; rfl, (calm r).mpr calm', (queued r).trans queued',
      fun reported => reports' ((reports r).mp reported)⟩
  · intro overflow r' sinks running full both
    obtain ⟨r, one, rfl⟩ := Option.map_eq_some_iff.mp both
    exact fun calm' => takes.falls sinks running full one ((calm r).mp calm')
  · intro overflow sinks stuck running unreported full
    rw [takes.stuck sinks stuck running unreported full]
    rfl
  · intro overflow sinks returns reported
    rw [Option.isSome_map]
    exact takes.returns sinks returns reported

theorem done {r : β} (winds : Winds s (state r)) (calm : Calm s (state r))
    (queued : (state r).queued = s.queued)
    (reports : (state r).Reports .internalInvariant → s.Reports .internalInvariant)
    (bounded : s.queued ≤ controlQueueBound) : Takes state (fun _ => some r) s 0 where
  winds _ one := Option.some.inj one ▸ winds
  fits _ _ := ⟨r, rfl, calm, queued, reports⟩
  falls _ _ full _ := absurd full (by omega)
  stuck _ _ _ _ full := absurd full (by omega)
  returns _ _ _ := rfl

end Takes

/-! ## The calls -/

theorem sinks_none : Sinks fun _ => none := fun _ _ _ never => by cases never

variable {connection : Nat} {payload : ControlUp}

theorem coalesce_unreported {frames frames' : List ControlUpFrame} {code : ErrorCode}
    (other : ∀ count, payload ≠ .error code count)
    (coalesced : Supervisor.coalesce connection payload frames = some frames')
    (reported : ∃ connection' count, (connection', ControlUp.error code count) ∈ frames') :
    ∃ connection' count, (connection', ControlUp.error code count) ∈ frames := by
  obtain ⟨before, old, new, after, rfl, rfl, joined⟩ := Supervisor.coalesce_spec coalesced
  obtain ⟨connection', count, member⟩ := reported
  simp only [List.mem_append, List.mem_cons] at member ⊢
  rcases member with member | rfl | member
  · exact ⟨connection', count, .inl member⟩
  · obtain ⟨tag, old⟩ := old
    cases payload with
    | error code' count' =>
      cases old with
      | error code'' count'' =>
        simp only [Supervisor.merged] at joined
        split at joined
        · rename_i same
          obtain ⟨-, same', -⟩ : tag = connection' ∧ code' = code ∧ count'' + count' = count := by
            simpa [same] using joined
          exact absurd (by rw [same']) (other count')
        · cases joined
      | _ => cases joined
    | writeDone ack =>
      cases old with
      | writeDone ack' =>
        simp only [Supervisor.merged] at joined
        split at joined
        · simp at joined
        · cases joined
      | _ => cases joined
    | _ => cases joined
  · exact ⟨connection', count, .inr (.inr member)⟩

theorem append_unreported {code : ErrorCode} (other : ∀ count, payload ≠ .error code count)
    (reported : (s.setPending (s.sup.upPending ++ [(connection, payload)])).Reports code) :
    s.Reports code := by
  obtain ⟨connection', count, member⟩ := reported
  rcases List.mem_append.mp member with member | last
  · exact ⟨connection', count, member⟩
  · exact absurd (Prod.mk.inj (List.mem_singleton.mp last)).2.symm (other count)

theorem queueUpWith_coalesced {frames : List ControlUpFrame}
    (coalesced : Supervisor.coalesce connection payload s.sup.upPending = some frames)
    (overflow : Front → Option Front) :
    queueUpWith overflow s connection payload = some (s.setPending frames) := by
  unfold queueUpWith
  rw [coalesced]

theorem queueUpWith_new (fresh : Supervisor.coalesce connection payload s.sup.upPending = none)
    (overflow : Front → Option Front) :
    queueUpWith overflow s connection payload =
      if s.queued ≥ controlQueueBound then overflow s
      else some (s.setPending (s.sup.upPending ++ [(connection, payload)])) := by
  unfold queueUpWith
  rw [fresh]

theorem queueUpWith_takes (tidy : Tidy s) (bounded : s.queued ≤ controlQueueBound)
    (connection : Nat) (payload : ControlUp)
    (other : ∀ count, payload ≠ .error .internalInvariant count) :
    Takes id (fun overflow => queueUpWith overflow s connection payload) s
      (s.place connection payload) := by
  cases coalesced : Supervisor.coalesce connection payload s.sup.upPending with
  | some frames =>
    have free : s.place connection payload = 0 := by
      unfold place
      rw [coalesced]
      rfl
    simp only [queueUpWith_coalesced coalesced, free]
    exact .done (queueUpWith_winds sinks_none tidy (queueUpWith_coalesced coalesced _))
      ⟨rfl, rfl, rfl⟩ (congrArg (s.bootstrapFrames + ·) (coalesce_length coalesced))
      (coalesce_unreported other coalesced) bounded
  | none =>
    have one : s.place connection payload = 1 := by
      unfold place
      rw [coalesced]
      rfl
    rw [one]
    constructor
    · intro overflow r sinks queued
      exact queueUpWith_winds sinks tidy queued
    · intro overflow sinks room
      refine ⟨s.setPending (s.sup.upPending ++ [(connection, payload)]), ?_, ⟨rfl, rfl, rfl⟩,
        queued_append s _, append_unreported other⟩
      rw [queueUpWith_new coalesced, if_neg (by omega)]
    · intro overflow r sinks running full queued
      rw [queueUpWith_new coalesced, if_pos (by omega)] at queued
      exact ((sinks s r tidy queued).2.1 running).not_calm
    · intro overflow sinks stuck running unreported full
      rw [queueUpWith_new coalesced, if_pos (by omega)]
      exact stuck s running unreported (by omega)
    · intro overflow sinks returns reported
      rw [queueUpWith_new coalesced]
      split
      · exact returns s tidy reported (Nat.lt_succ_self _)
      · rfl

variable {conn : Conn}

theorem closeConnWith_eq (living : s.sup.live conn.id = some conn) (reason : PeerClosedReason)
    (overflow : Front → Option Front) :
    closeConnWith overflow s conn reason =
      if s.queued ≥ controlQueueBound then (overflow (s.shut conn)).map fun t => t.forget conn.id
      else some (((s.shut conn).setPending (s.sup.upPending ++
        [(conn.id, .peerClosed reason conn.throughDataSeq)])).forget conn.id) := by
  have unclosed : conn.state ≠ .closed := by
    have kept := Option.filter_eq_some_iff.mp living
    simpa using kept.2
  unfold closeConnWith
  rw [if_neg unclosed, queueUpWith_new (Supervisor.coalesce_none conn.id
    (.peerClosed reason conn.throughDataSeq) (fun _ => rfl) _)]
  change (if s.queued ≥ controlQueueBound then _ else _ : Option Front).map _ = _
  split <;> rfl

theorem lives_shut (tidy : Tidy s) (living : s.sup.live conn.id = some conn) :
    (s.shut conn).lives < s.lives := by
  have known := (Option.filter_eq_some_iff.mp living).1
  have listed : conn.id ∈ s.sup.order := (tidy.listed conn.id).mpr (by rw [known]; rfl)
  have alive_ : s.alive conn.id = true := alive_iff.mpr ⟨conn, living⟩
  have dead : (s.shut conn).alive conn.id = false := by rw [alive_shut, if_pos rfl]
  obtain ⟨front, behind, split⟩ := List.append_of_mem listed
  have fewer : ∀ ids : List Nat, ids.countP (s.shut conn).alive ≤ ids.countP s.alive := by
    refine fun ids => List.countP_mono_left fun id _ still => ?_
    rw [alive_shut] at still
    split at still
    · cases still
    · exact still
  have first := fewer front
  have second := fewer behind
  change s.sup.order.countP (s.shut conn).alive < s.sup.order.countP s.alive
  rw [split, List.countP_append, List.countP_append, List.countP_cons, List.countP_cons, dead, alive_]
  simp only [Bool.false_eq_true, if_false, if_true]
  omega

theorem closeConnWith_takes (tidy : Tidy s) (living : s.sup.live conn.id = some conn)
    (reason : PeerClosedReason) :
    Takes id (fun overflow => closeConnWith overflow s conn reason) s 1 := by
  have tidy' := tidy_shut tidy living
  constructor
  · intro overflow r sinks closed
    exact (closeConnWith_winds sinks tidy living closed).1
  · intro overflow sinks room
    have returned := closeConnWith_eq living reason overflow
    rw [if_neg (by omega)] at returned
    refine ⟨_, returned, ⟨rfl, rfl, rfl⟩,
      queued_append s (conn.id, .peerClosed reason conn.throughDataSeq), fun reported => ?_⟩
    exact append_unreported (fun count => by simp) reported
  · intro overflow r sinks running full closed
    rw [closeConnWith_eq living, if_pos (by omega)] at closed
    obtain ⟨u, failed, rfl⟩ := Option.map_eq_some_iff.mp closed
    have fell := (sinks (s.shut conn) u tidy' failed).2.1 running
    exact fun calm => fell.not_calm ⟨calm.failed, calm.terminal, calm.exit⟩
  · intro overflow sinks stuck running unreported full
    rw [closeConnWith_eq living, if_pos (by omega), stuck (s.shut conn) running unreported]
    · rfl
    · change controlQueueBound ≤ s.queued
      omega
  · intro overflow sinks returns reported
    rw [closeConnWith_eq living]
    split
    · rw [Option.isSome_map]
      exact returns (s.shut conn) tidy' reported ((lives_shut tidy living).trans (Nat.lt_succ_self _))
    · rfl

theorem closeConnWith_alive {overflow : Front → Option Front} (sinks : Sinks overflow)
    (tidy : Tidy s) (living : s.sup.live conn.id = some conn) {reason : PeerClosedReason}
    (closed : closeConnWith overflow s conn reason = some t) (calm : Calm s t) {id : Nat}
    (other : id ≠ conn.id) : t.alive id = s.alive id := by
  rw [closeConnWith_eq living] at closed
  split at closed
  · obtain ⟨u, failed, rfl⟩ := Option.map_eq_some_iff.mp closed
    obtain ⟨winds, falls, rests⟩ := sinks (s.shut conn) u (tidy_shut tidy living) failed
    cases done_ : s.sup.terminal with
    | false =>
      exact absurd ⟨calm.failed, calm.terminal, calm.exit⟩ (falls done_).not_calm
    | true =>
      rw [rests done_, alive_forget, if_neg other, alive_shut, if_neg other]
  · obtain rfl := Option.some.inj closed
    rw [alive_forget, if_neg other]
    exact (alive_shut s conn id).trans (if_neg other)

theorem closeEachWith_takes (reason : PeerClosedReason) {ids : List Nat} (nodup : ids.Nodup)
    (tidy : Tidy s) (bounded : s.queued ≤ controlQueueBound) :
    Takes Prod.fst (fun overflow => closeEachWith overflow reason ids s) s (ids.countP s.alive) := by
  induction ids generalizing s with
  | nil => exact .done (.refl s) (.refl s) rfl id bounded
  | cons id rest ih =>
    obtain ⟨absent, nodup'⟩ := List.nodup_cons.mp nodup
    cases living : s.sup.live id with
    | none =>
      have dead : s.alive id = false := by
        unfold alive
        rw [living]
        rfl
      simp only [closeEachWith, living, List.countP_cons, dead]
      exact ih nodup' tidy bounded
    | some conn =>
      obtain rfl := tidy.named id conn (Option.filter_eq_some_iff.mp living).1
      have alive_ : s.alive conn.id = true := alive_iff.mpr ⟨conn, living⟩
      simp only [closeEachWith, living, List.countP_cons, alive_]
      rw [if_pos trivial, Nat.add_comm]
      refine (closeConnWith_takes tidy living reason).bind (p := fun r => rest.countP r.alive)
        (fun r winds => ?_) ?_
      · exact (ih nodup' (winds.tidy tidy) (winds.bounded bounded)).map
          (fun r => (r.1, r.2 + 1)) (fun _ winds => winds) (fun _ => Iff.rfl) (fun _ => rfl)
          fun _ => Iff.rfl
      · intro overflow r sinks closed calm
        refine List.countP_congr fun other member => ?_
        rw [closeConnWith_alive sinks tidy living closed calm]
        rintro rfl
        exact absent member

theorem closeAllWith_takes (reason : PeerClosedReason) (tidy : Tidy s)
    (bounded : s.queued ≤ controlQueueBound) :
    Takes Prod.fst (fun overflow => closeAllWith overflow s reason) s s.lives :=
  closeEachWith_takes reason tidy.nodup tidy bounded

/-- The places of the `ERROR` that reports a spent epoch. -/
def epochPlaces (s : Front) : Nat :=
  if s.sup.epoch = maxUint32 ∧ ¬s.sup.epochExhaustionLogged then
    s.place 0 (.error .admissionEpochExhausted 1)
  else 0

theorem noteEpochWith_takes (tidy : Tidy s) (bounded : s.queued ≤ controlQueueBound) :
    Takes id (fun overflow => noteEpochWith overflow s) s s.epochPlaces := by
  unfold noteEpochWith epochPlaces
  split
  · have marked : Takes id (fun _ => some s.flagged) s 0 :=
      .done (.of_queue rfl rfl rfl rfl rfl rfl rfl ⟨rfl, rfl, rfl⟩ (fun _ reported => reported)
        le_rfl id) ⟨rfl, rfl, rfl⟩ rfl id bounded
    rw [← Nat.zero_add (s.place 0 (.error .admissionEpochExhausted 1))]
    refine marked.bind (p := fun r => r.place 0 (.error .admissionEpochExhausted 1))
      (k := fun overflow r => reportErrorWith overflow r .admissionEpochExhausted)
      (fun r winds => ?_) ?_
    · exact queueUpWith_takes (winds.tidy tidy) (winds.bounded bounded) 0
        (.error .admissionEpochExhausted 1) fun count => by simp
    · intro overflow r sinks same calm
      obtain rfl := Option.some.inj same
      rfl
  · exact .done (.refl s) (.refl s) rfl id bounded

theorem closeAllThen_takes (tidy : Tidy s) (bounded : s.queued ≤ controlQueueBound)
    (payload : Front × Nat → ControlUp)
    (other : ∀ r count, payload r ≠ .error .internalInvariant count)
    (fresh : ∀ r frames, Supervisor.coalesce 0 (payload r) frames = none) :
    Takes id (fun overflow => (closeAllWith overflow s .commandedClose).bind fun r =>
      queueUpWith overflow r.1 0 (payload r)) s (s.lives + 1) := by
  refine (closeAllWith_takes .commandedClose tidy bounded).bind
    (p := fun r => r.1.place 0 (payload r)) (fun r winds => ?_) ?_
  · exact queueUpWith_takes (winds.tidy tidy) (winds.bounded bounded) 0 (payload r) (other r)
  · intro overflow r sinks closed calm
    unfold place
    rw [fresh]
    rfl

theorem queueUpWith_lives {overflow : Front → Option Front} (sinks : Sinks overflow) (tidy : Tidy s)
    (queued : queueUpWith overflow s connection payload = some t) (calm : Calm s t) :
    t.lives = s.lives := by
  cases coalesced : Supervisor.coalesce connection payload s.sup.upPending with
  | some frames =>
    rw [queueUpWith_coalesced coalesced] at queued
    obtain rfl := Option.some.inj queued
    rfl
  | none =>
    rw [queueUpWith_new coalesced] at queued
    split at queued
    · obtain ⟨-, falls, rests⟩ := sinks s t tidy queued
      cases done_ : s.sup.terminal with
      | false => exact absurd calm (falls done_).not_calm
      | true => rw [rests done_]
    · obtain rfl := Option.some.inj queued
      rfl

theorem lockWith_takes (tidy : Tidy s) (bounded : s.queued ≤ controlQueueBound) :
    Takes id (fun overflow => lockWith overflow s) s (s.epochPlaces + (s.lives + 1)) := by
  refine (noteEpochWith_takes tidy bounded).bind (p := fun r => r.lives + 1) (fun r winds => ?_) ?_
  · exact closeAllThen_takes (winds.tidy tidy) (winds.bounded bounded)
      (fun p => .lockAck p.1.sup.epoch p.2) (fun _ _ => by simp)
      fun _ _ => Supervisor.coalesce_none _ _ (fun _ => rfl) _
  · intro overflow r sinks noted calm
    unfold noteEpochWith at noted
    split at noted
    · have marked : Tidy s.flagged := ⟨tidy.named, tidy.listed, tidy.nodup⟩
      exact congrArg (· + 1)
        (queueUpWith_lives (s := s.flagged) sinks marked noted ⟨calm.failed, calm.terminal, calm.exit⟩)
    · obtain rfl := Option.some.inj noted
      rfl

/-- What a failure does before the front is terminal. -/
def failing (overflow : Front → Option Front) (s : Front) (code : ErrorCode) (failure : Failure) :
    Option (Front × Nat) :=
  (reportErrorWith overflow s code).bind fun s =>
    closeAllWith overflow (s.logged failure) .commandedClose

theorem failWith_eq (running : s.sup.terminal = false) (overflow : Front → Option Front)
    (code : ErrorCode) (exit : ExitCode) (failure : Failure) :
    failWith overflow s code exit failure =
      (failing overflow (s.called exit) code failure).map fun r => r.1.terminate exit := by
  unfold failWith failing
  rw [if_neg (by simp [running])]
  cases reportErrorWith overflow (s.called exit) code <;> rfl

theorem closeAllWith_logged_takes (failure : Failure) (tidy : Tidy s)
    (bounded : s.queued ≤ controlQueueBound) :
    Takes Prod.fst (fun overflow => closeAllWith overflow (s.logged failure) .commandedClose) s
      s.lives := by
  have noted : Takes id (fun _ => some (s.logged failure)) s 0 :=
    .done (winds_logged s failure) ⟨rfl, rfl, rfl⟩ rfl id bounded
  rw [← Nat.zero_add s.lives]
  refine noted.bind (p := Front.lives)
    (k := fun overflow r => closeAllWith overflow r .commandedClose) (fun r winds => ?_) ?_
  · exact closeAllWith_takes .commandedClose (winds.tidy tidy) (winds.bounded bounded)
  · intro overflow r sinks same calm
    obtain rfl := Option.some.inj same
    rfl

theorem failing_takes (tidy : Tidy s) (bounded : s.queued ≤ controlQueueBound) (code : ErrorCode)
    (failure : Failure) (other : code ≠ .internalInvariant) :
    Takes Prod.fst (fun overflow => failing overflow s code failure) s
      (s.place 0 (.error code 1) + s.lives) := by
  refine (queueUpWith_takes tidy bounded 0 (.error code 1) fun count same => ?_).bind
    (p := Front.lives) (fun r winds => ?_) fun sinks queued calm => ?_
  · exact other (ControlUp.error.inj same).1
  · exact closeAllWith_logged_takes failure (winds.tidy tidy) (winds.bounded bounded)
  · exact queueUpWith_lives sinks tidy queued calm

/-! ## The failure that a full queue calls -/

theorem Returns.mono {overflow : Front → Option Front} {n m : Nat} (returns : Returns overflow m)
    (less : n ≤ m) : Returns overflow n :=
  fun s tidy reported few => returns s tidy reported (few.trans_le less)

theorem closeEachWith_returns {overflow : Front → Option Front} (sinks : Sinks overflow)
    (reason : PeerClosedReason) (ids : List Nat) (tidy : Tidy s)
    (reported : s.Reports .internalInvariant) (returns : Returns overflow s.lives) :
    (closeEachWith overflow reason ids s).isSome := by
  induction ids generalizing s with
  | nil => rfl
  | cons id rest ih =>
    rw [closeEachWith]
    cases living : s.sup.live id with
    | none => exact ih tidy reported returns
    | some conn =>
      obtain ⟨known, -⟩ := Option.filter_eq_some_iff.mp living
      obtain rfl := tidy.named id conn known
      have one : (closeConnWith overflow s conn reason).isSome := by
        rw [closeConnWith_eq living]
        split
        · rw [Option.isSome_map]
          exact returns (s.shut conn) (tidy_shut tidy living) reported (lives_shut tidy living)
        · rfl
      obtain ⟨t, closed⟩ := Option.isSome_iff_exists.mp one
      obtain ⟨winds, -⟩ := closeConnWith_winds sinks tidy living closed
      dsimp only
      rw [closed, Option.bind_some, Option.isSome_map]
      exact ih (winds.tidy tidy) (winds.reports _ reported) (returns.mono winds.lives)

theorem overflow_returns (fuel : Nat) : Returns (overflow fuel) fuel := by
  induction fuel with
  | zero => exact fun s tidy reported few => absurd few (Nat.not_lt_zero _)
  | succ fuel ih =>
    intro s tidy reported few
    change (failWith (overflow fuel) s .internalInvariant .internalInvariant
      .controlQueueOverflow).isSome
    cases running : s.sup.terminal with
    | true =>
      unfold failWith
      rw [if_pos running]
      rfl
    | false =>
      obtain ⟨frames, joined⟩ := Option.ne_none_iff_exists'.mp
        ((coalesce_error (n := 1) s.sup.upPending).mpr reported)
      rw [failWith_eq running, Option.isSome_map]
      unfold failing reportErrorWith
      rw [queueUpWith_coalesced (s := s.called .internalInvariant) joined, Option.bind_some]
      refine closeEachWith_returns (overflow_sinks fuel) .commandedClose _
        ⟨tidy.named, tidy.listed, tidy.nodup⟩ (coalesce_reports joined reported) ?_
      exact ih.mono (Nat.le_of_lt_succ few)

theorem overflow_stuck (fuel : Nat) : Stuck (overflow fuel) := by
  induction fuel with
  | zero => exact fun _ _ _ _ => rfl
  | succ fuel ih =>
    intro s running unreported full
    change failWith (overflow fuel) s .internalInvariant .internalInvariant
      .controlQueueOverflow = none
    have fresh : Supervisor.coalesce 0 (.error .internalInvariant 1) s.sup.upPending = none := by
      by_contra joined
      exact unreported ((coalesce_error s.sup.upPending).mp joined)
    rw [failWith_eq running]
    unfold failing reportErrorWith
    have full' : (s.called .internalInvariant).queued ≥ controlQueueBound := full
    rw [queueUpWith_new (s := s.called .internalInvariant) fresh, if_pos full',
      ih (s.called .internalInvariant) running unreported full]
    rfl

end Front

end Vex.Bridge
