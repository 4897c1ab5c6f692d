import Vex.Studio.ConnectionHost

/-!
# The life of a connection

A connection is acked once: while its listener or its timer is armed, or its project is checked, no
ack has been enqueued, and a refusal and an acceptance end all three. It serves only after an ack
that accepts, and not after it was refused, closed, or its admission was closed. It claims one slot
at most, and has given it back when it is refused or closed.
-/

namespace Vex.Studio

open Vex.Library

/-! ## What has happened to a connection -/

namespace ConnectionAct

def isAck : ConnectionAct → Bool
  | .ack _ => true
  | _ => false

end ConnectionAct

def acks (history : List ConnectionAct) : Nat := history.countP ConnectionAct.isAck

def claims (history : List ConnectionAct) : Nat := history.count .claimed

/-- The slots that were given back. -/
def releases (history : List ConnectionAct) : Nat := history.count .released

/-- The reports of `onClosed`. -/
def reports (history : List ConnectionAct) : Nat := history.count .reported

/-- Whenever the connection starts serving, an ack has accepted, and it has not been refused or
closed, and its admission has not been closed. -/
def ServesWell (history : List ConnectionAct) : Prop :=
  ∀ before after, history = before ++ .serving :: after →
    .ack none ∈ before ∧ .refused ∉ before ∧ .latched ∉ before ∧ .stale ∉ before

section
variable (first second : List ConnectionAct)
include first second

@[simp] theorem acks_append :
    acks (first ++ second) = acks first + acks second := List.countP_append

@[simp] theorem claims_append :
    claims (first ++ second) = claims first + claims second := List.count_append

@[simp] theorem releases_append :
    releases (first ++ second) = releases first + releases second := List.count_append

@[simp] theorem reports_append :
    reports (first ++ second) = reports first + reports second := List.count_append

end

theorem ServesWell.append {history more : List ConnectionAct} (well : ServesWell history)
    (silent : .serving ∉ more) : ServesWell (history ++ more) := by
  intro before after split
  rcases List.append_eq_append_iff.mp split with
    ⟨rest, rfl, tail⟩ | ⟨rest, rfl, tail⟩
  · exact absurd (by rw [tail]; simp) silent
  · cases rest with
    | nil => exact absurd (by rw [← List.nil_append more, ← tail]; simp) silent
    | cons act rest =>
      obtain ⟨rfl, rfl⟩ := List.cons.inj tail
      exact well before rest rfl

theorem ServesWell.serve {history : List ConnectionAct} (well : ServesWell history)
    (acked : .ack none ∈ history) (unrefused : .refused ∉ history) (unlatched : .latched ∉ history)
    (fresh : .stale ∉ history) : ServesWell (history ++ [.serving]) := by
  intro before after split
  rcases List.append_eq_append_iff.mp split with
    ⟨rest, rfl, tail⟩ | ⟨rest, rfl, tail⟩
  · cases rest with
    | nil =>
      rw [List.append_nil]
      exact ⟨acked, unrefused, unlatched, fresh⟩
    | cons act rest => simp at tail
  · cases rest with
    | nil =>
      rw [List.append_nil] at acked unrefused unlatched fresh
      exact ⟨acked, unrefused, unlatched, fresh⟩
    | cons act rest =>
      obtain ⟨rfl, rfl⟩ := List.cons.inj tail
      exact well before rest rfl

/-- A history goes on, with nothing that a peer is told, no claim, no refusal and no start of
serving. -/
structure Grows (before after : List ConnectionAct) (released reported : Nat) : Prop where
  acks : acks after = acks before
  claims : claims after = claims before
  releases : releases after = releases before + released
  reports : reports after = reports before + reported
  kept : ∀ act ∈ before, act ∈ after
  refused : .refused ∈ after → .refused ∈ before
  stale : .stale ∈ after → .stale ∈ before
  serves : ServesWell before → ServesWell after

variable (history : List ConnectionAct)

theorem Grows.refl : Grows history history 0 0 :=
  ⟨rfl, rfl, rfl, rfl, fun _ => id, id, id, id⟩

theorem Grows.trans {first second third : List ConnectionAct} {released reported more later : Nat}
    (before : Grows first second released reported) (after : Grows second third more later) :
    Grows first third (released + more) (reported + later) where
  acks := after.acks.trans before.acks
  claims := after.claims.trans before.claims
  releases := by rw [after.releases, before.releases, Nat.add_assoc]
  reports := by rw [after.reports, before.reports, Nat.add_assoc]
  kept := fun act member => after.kept act (before.kept act member)
  refused := before.refused ∘ after.refused
  stale := before.stale ∘ after.stale
  serves := after.serves ∘ before.serves

theorem Grows.act {act : ConnectionAct}
    (silent : act.isAck = false ∧ act ≠ .claimed ∧ act ≠ .refused ∧ act ≠ .serving ∧ act ≠ .stale) :
    Grows history (history ++ [act]) (Vex.Studio.releases [act]) (Vex.Studio.reports [act]) where
  acks := by
    rw [acks_append]
    simp [Vex.Studio.acks, silent.1]
  claims := by
    rw [claims_append]
    simp [Vex.Studio.claims, silent.2.1]
  releases := releases_append _ _
  reports := reports_append _ _
  kept := fun _ => List.mem_append_left _
  refused := fun member => by simpa [silent.2.2.1.symm] using member
  stale := fun member => by simpa [silent.2.2.2.2.symm] using member
  serves := fun well => well.append (by simp [silent.2.2.2.1.symm])

theorem Grows.latch : Grows history (history ++ [.latched]) 0 0 :=
  .act history ⟨rfl, by decide⟩

theorem Grows.report : Grows history (history ++ [.reported]) 0 1 :=
  .act history ⟨rfl, by decide⟩

namespace StudioConnection

variable {c : StudioConnection}

def held (c : StudioConnection) : Nat := if c.slotRelease then 1 else 0

theorem length_releaseActs (c : StudioConnection) : c.releaseActs.length = c.held := by
  unfold releaseActs held
  split <;> rfl

theorem mem_releaseActs {act : ConnectionAct} (member : act ∈ c.releaseActs) : act = .released := by
  unfold releaseActs at member
  split at member
  · simpa using member
  · cases member

theorem grows_releaseActs (history : List ConnectionAct) (c : StudioConnection) :
    Grows history (history ++ c.releaseActs) c.held 0 := by
  unfold releaseActs held
  split
  · exact .act history ⟨rfl, by decide⟩
  · rw [List.append_nil]
    exact .refl history

theorem mem_ackActs {refusal : Option HandshakeRefusalCode} {act : ConnectionAct}
    (member : act ∈ c.ackActs refusal) : act = .ack refusal := by
  unfold ackActs at member
  split at member
  · cases member
  · simpa using member

def checking (c : StudioConnection) : Bool :=
  match c.establishing with
  | some (.checking _ _ _) => true
  | _ => false

def sendingAck (c : StudioConnection) : Bool :=
  match c.establishing with
  | some (.sendingAck _ _) => true
  | _ => false

/-! ## The invariant -/

structure Sound (c : StudioConnection) : Prop where
  ackOnce : acks c.history ≤ 1
  unanswered : c.listening = true ∨ c.handshakeTimer = true ∨ c.checking = true →
    acks c.history = 0
  accepted : c.sendingAck = true ∨ c.phase = .serving → .ack none ∈ c.history
  started : c.phase = .serving → .serving ∈ c.history
  claimOnce : claims c.history ≤ 1
  unclaimed : c.listening = true → claims c.history = 0
  balanced : claims c.history = releases c.history + c.held
  shut : c.phase = .refusing ∨ c.phase = .closed → c.slotRelease = false
  closed : c.phase = .closed ↔ c.disposed = true
  quiet : c.phase ≠ .handshaking → c.listening = false ∧ c.handshakeTimer = false
  disposedLatched : c.disposed = true → c.closedLatch = true
  outbound : c.outboundClosed = c.closedLatch
  latched : .latched ∈ c.history → c.closedLatch = true
  refused : .refused ∈ c.history → c.phase = .refusing ∨ c.phase = .closed
  establishes : c.establishing.isSome = true → c.listening = false ∧ c.handshakeTimer = false ∧
    (c.phase = .handshaking ∨ c.phase = .closed)
  entry : c.served.isSome = true → c.phase = .serving
  closing : c.closingEntry = true → c.disposed = true
  reported : reports c.history = if c.disposed && !c.closingEntry then 1 else 0
  wire : c.wireClosed = true → c.disposed = true
  serves : ServesWell c.history

theorem construct_sound (epoch : Nat) : Sound (construct epoch) where
  ackOnce := Nat.zero_le 1
  unanswered := fun _ => rfl
  accepted := by simp [construct, sendingAck]
  started := by simp [construct]
  claimOnce := Nat.zero_le 1
  unclaimed := fun _ => rfl
  balanced := rfl
  shut := fun _ => rfl
  closed := by simp [construct]
  quiet := fun other => absurd rfl other
  disposedLatched := by simp [construct]
  outbound := rfl
  latched := by simp [construct]
  refused := by simp [construct]
  establishes := by simp [construct]
  entry := by simp [construct]
  closing := by simp [construct]
  reported := rfl
  wire := by simp [construct]
  serves := by
    intro before after split
    simp [construct] at split

theorem outdated_sound (sound : Sound c) : Sound c.outdated :=
  { sound with
    ackOnce := by simpa [outdated, acks, ConnectionAct.isAck] using sound.ackOnce
    unanswered := fun armed => by
      simpa [outdated, acks, ConnectionAct.isAck] using sound.unanswered armed
    accepted := fun accepts => List.mem_append_left _ (sound.accepted accepts)
    started := fun serves => List.mem_append_left _ (sound.started serves)
    claimOnce := by simpa [outdated, claims] using sound.claimOnce
    unclaimed := fun listens => by simpa [outdated, claims] using sound.unclaimed listens
    balanced := by
      change claims (c.history ++ [.stale]) = releases (c.history ++ [.stale]) + c.held
      rw [claims_append, releases_append]
      exact sound.balanced
    latched := fun member => sound.latched (by simpa [outdated] using member)
    refused := fun member => sound.refused (by simpa [outdated] using member)
    reported := by simpa [outdated, reports] using sound.reported
    serves := sound.serves.append (by simp) }

theorem Sound.torn (sound : Sound c) (running : c.disposed = false) {history : List ConnectionAct}
    {reported : Nat} (grows : Grows c.history history c.held reported)
    {served : Option (String × List UInt8)} (unserved : served = none) {closing : Bool}
    (report : reported = if closing then 0 else 1) (cause : StudioCancelCause)
    (wireDestroyed registered : Bool) :
    Sound { c with
      disposed := true
      closedLatch := true
      cause := cause
      phase := .closed
      slotRelease := false
      handshakeTimer := false
      listening := false
      outboundClosed := true
      served := served
      closingEntry := closing
      wireDestroyed := wireDestroyed
      registered := registered
      history := history } where
  ackOnce := grows.acks ▸ sound.ackOnce
  unanswered := fun armed => by
    have checks : c.checking = true := by
      rcases armed with listens | waits | checks
      · cases listens
      · cases waits
      · exact checks
    exact grows.acks.trans (sound.unanswered (.inr (.inr checks)))
  accepted := fun accepts => by
    rcases accepts with sends | serves
    · exact grows.kept _ (sound.accepted (.inl sends))
    · cases serves
  started := fun serves => by cases serves
  claimOnce := grows.claims ▸ sound.claimOnce
  unclaimed := by simp
  balanced := by
    rw [grows.claims, grows.releases]
    exact sound.balanced
  shut := fun _ => rfl
  closed := by simp
  quiet := fun _ => ⟨rfl, rfl⟩
  disposedLatched := fun _ => rfl
  outbound := rfl
  latched := fun _ => rfl
  refused := fun _ => .inr rfl
  establishes := fun _ => ⟨rfl, rfl, .inr rfl⟩
  entry := by simp [unserved]
  closing := fun _ => rfl
  reported := by
    have none' : reports c.history = 0 := by simp [sound.reported, running]
    rw [grows.reports, none', report]
    cases closing <;> rfl
  wire := fun _ => rfl
  serves := grows.serves sound.serves

end StudioConnection

/-! ## Views -/

namespace ConnectionView

open StudioConnection

variable {v v' : ConnectionView}

/-- What a change of a connection does to the reservations of the host, and does not do to its
epoch. -/
structure Fair (v v' : ConnectionView) : Prop where
  slots : v.connection.held ≤ v.reservedConnections →
    v'.reservedConnections + v.connection.held = v.reservedConnections + v'.connection.held
  bound : v.reservedConnections ≤ studioMaxConnections →
    v'.reservedConnections ≤ studioMaxConnections
  epoch : v'.connection.epoch = v.connection.epoch
  stale : .stale ∈ v'.connection.history → .stale ∈ v.connection.history

theorem Fair.refl (v : ConnectionView) : Fair v v := ⟨fun _ => rfl, id, rfl, id⟩

theorem Fair.trans {v'' : ConnectionView} (first : Fair v v') (second : Fair v' v'') :
    Fair v v'' where
  slots := fun held => by
    have before := first.slots held
    have after := second.slots (by omega)
    omega
  bound := second.bound ∘ first.bound
  epoch := second.epoch.trans first.epoch
  stale := first.stale ∘ second.stale

theorem Fair.of_same (reserved : v'.reservedConnections = v.reservedConnections)
    (slot : v'.connection.slotRelease = v.connection.slotRelease)
    (epoch : v'.connection.epoch = v.connection.epoch)
    (stale : .stale ∈ v'.connection.history → .stale ∈ v.connection.history) : Fair v v' where
  slots := fun _ => by rw [reserved, held, held, slot]
  bound := fun bound => reserved ▸ bound
  epoch := epoch
  stale := stale

theorem Fair.after {v'' : ConnectionView} (fair : Fair v' v'')
    (reserved : v'.reservedConnections = v.reservedConnections)
    (slot : v'.connection.slotRelease = v.connection.slotRelease)
    (epoch : v'.connection.epoch = v.connection.epoch)
    (stale : .stale ∈ v'.connection.history → .stale ∈ v.connection.history) : Fair v v'' :=
  (Fair.of_same reserved slot epoch stale).trans fair

theorem releaseConnectionSlot_fair (v : ConnectionView) : Fair v v.releaseConnectionSlot where
  slots := fun held => by
    change v.reservedConnections - v.connection.releaseActs.length + v.connection.held =
      v.reservedConnections + 0
    rw [length_releaseActs]
    omega
  bound := fun bound => Nat.le_trans (Nat.sub_le _ _) bound
  epoch := rfl
  stale := fun member => by
    rcases List.mem_append.mp member with before | released
    · exact before
    · cases mem_releaseActs released

theorem reserveConnectionSlot_fair (free : v.connection.slotRelease = false)
    (reserved : v.reserveConnectionSlot = some v') : Fair v v' := by
  unfold reserveConnectionSlot at reserved
  split at reserved
  · cases reserved
  · rename_i room
    obtain rfl := Option.some.inj reserved
    refine ⟨fun _ => ?_, fun _ => ?_, rfl, fun member => ?_⟩
    · change v.reservedConnections + 1 + v.connection.held = v.reservedConnections + 1
      simp [held, free]
    · change v.reservedConnections + 1 ≤ studioMaxConnections
      omega
    · simpa [log, change] using member

/-! ## Teardown -/

theorem runDispose_sound (sound : Sound v.connection) (running : v.connection.disposed = false)
    (cause : StudioCancelCause) :
    Sound (v.runDispose cause).connection ∧ Fair v (v.runDispose cause) := by
  have ended := (Grows.latch v.connection.history).trans (grows_releaseActs _ v.connection)
  rw [Nat.zero_add] at ended
  have reported := ended.trans (Grows.report _)
  unfold runDispose
  dsimp only
  split
  · rename_i entry served
    refine ⟨sound.torn running ended rfl rfl cause _ _, ?_⟩
    refine ⟨(releaseConnectionSlot_fair v).slots, (releaseConnectionSlot_fair v).bound, rfl, ended.stale⟩
  · rename_i served
    have unclosing : v.connection.closingEntry = false := by
      cases closing : v.connection.closingEntry with
      | false => rfl
      | true => rw [sound.closing closing] at running; cases running
    have report : 0 + 0 + 1 = if v.connection.closingEntry then 0 else 1 := by rw [unclosing]; rfl
    refine ⟨sound.torn running reported served report cause _ _, ?_⟩
    refine ⟨(releaseConnectionSlot_fair v).slots, (releaseConnectionSlot_fair v).bound, rfl,
      reported.stale⟩

theorem dispose_sound (sound : Sound v.connection) (cause : StudioCancelCause) :
    Sound (v.dispose cause).connection ∧ Fair v (v.dispose cause) := by
  unfold dispose
  split
  · exact ⟨sound, .refl v⟩
  · rename_i running
    exact runDispose_sound sound (by simpa using running) cause

theorem entryCloses_sound (sound : Sound v.connection) :
    Sound v.entryCloses.connection ∧ Fair v v.entryCloses := by
  unfold entryCloses
  split
  · rename_i closing
    have grows := Grows.report v.connection.history
    have disposed := sound.closing closing
    have none' : reports v.connection.history = 0 := by simp [sound.reported, closing]
    refine ⟨{ sound with
      ackOnce := grows.acks ▸ sound.ackOnce
      unanswered := fun armed => grows.acks.trans (sound.unanswered armed)
      accepted := fun accepts => grows.kept _ (sound.accepted accepts)
      started := fun serves => grows.kept _ (sound.started serves)
      claimOnce := grows.claims ▸ sound.claimOnce
      unclaimed := fun listens => grows.claims.trans (sound.unclaimed listens)
      balanced := (grows.claims.trans sound.balanced).trans
        (congrArg (· + v.connection.held) grows.releases.symm)
      latched := fun _ => sound.disposedLatched disposed
      refused := fun member => sound.refused (grows.refused member)
      closing := fun closing => by cases closing
      reported := ?_
      serves := grows.serves sound.serves }, .of_same rfl rfl rfl grows.stale⟩
    change reports (v.connection.history ++ [.reported]) = _
    rw [grows.reports, none']
    change 0 + 1 = if v.connection.disposed && true then 1 else 0
    rw [disposed]
    rfl
  · exact ⟨sound, .refl v⟩

theorem destroyNow_sound (sound : Sound v.connection) (cause : StudioCancelCause) :
    Sound (v.destroyNow cause).connection ∧ Fair v (v.destroyNow cause) := by
  have grows := (Grows.latch v.connection.history).trans (grows_releaseActs _ v.connection)
  rw [Nat.zero_add] at grows
  refine ⟨{ sound with
    ackOnce := grows.acks ▸ sound.ackOnce
    unanswered := fun armed => grows.acks.trans (sound.unanswered ?_)
    accepted := fun accepts => grows.kept _ (sound.accepted accepts)
    started := fun serves => grows.kept _ (sound.started serves)
    claimOnce := grows.claims ▸ sound.claimOnce
    unclaimed := fun listens => grows.claims.trans (sound.unclaimed listens)
    balanced := (grows.claims.trans sound.balanced).trans grows.releases.symm
    shut := fun _ => rfl
    quiet := fun other => ⟨(sound.quiet other).1, rfl⟩
    disposedLatched := fun _ => rfl
    outbound := rfl
    latched := fun _ => rfl
    refused := fun member => sound.refused (grows.refused member)
    establishes := fun runs => ⟨(sound.establishes runs).1, rfl, (sound.establishes runs).2.2⟩
    reported := grows.reports.trans sound.reported
    serves := grows.serves sound.serves }, (releaseConnectionSlot_fair v).slots,
      (releaseConnectionSlot_fair v).bound, rfl, grows.stale⟩
  rcases armed with listens | waits | checks
  · exact .inl listens
  · cases waits
  · exact .inr (.inr checks)

theorem disposed_dispose (v : ConnectionView) (cause : StudioCancelCause) :
    (v.dispose cause).connection.disposed = true := by
  unfold dispose
  split
  · assumption
  · unfold runDispose
    dsimp only
    split <;> rfl

theorem handleSocketClose_sound (sound : Sound v.connection) :
    Sound v.handleSocketClose.connection ∧ Fair v v.handleSocketClose := by
  obtain ⟨disposed, fair⟩ := dispose_sound sound v.connection.cause
  exact ⟨{ disposed with wire := fun _ => disposed_dispose v _ },
    fair.trans (.of_same rfl rfl rfl id)⟩

/-! ## Refusal -/

/-- A connection in its handshake, which has not been answered and is not being established. -/
structure Unanswered (c : StudioConnection) : Prop where
  handshaking : c.phase = .handshaking
  acks : acks c.history = 0
  idle : c.establishing = none

section
variable (sound : Sound v.connection)
include sound

theorem refuse_sound (unanswered : Unanswered v.connection) (code : HandshakeRefusalCode) :
    Sound (v.refuse code).connection ∧ Fair v (v.refuse code) := by
  have phase := unanswered.handshaking
  have undisposed : v.connection.disposed = false := by
    cases disposed : v.connection.disposed with
    | false => rfl
    | true =>
      have closed := sound.closed.mpr disposed
      rw [phase] at closed
      cases closed
  have released := grows_releaseActs (v.connection.history ++ [.refused]) v.connection
  have answer : acks (v.connection.ackActs (some code)) ≤ 1 ∧
      claims (v.connection.ackActs (some code)) = 0 ∧
      releases (v.connection.ackActs (some code)) = 0 ∧
      reports (v.connection.ackActs (some code)) = 0 := by
    unfold ackActs
    split
    · decide
    · exact ⟨Nat.le_refl 1, rfl, rfl, rfl⟩
  have others : ∀ {act}, act ≠ .refused → (∀ code, act ≠ .ack code) → act ≠ .released →
      act ∈ v.connection.history ++ [.refused] ++ v.connection.releaseActs ++
        v.connection.ackActs (some code) → act ∈ v.connection.history := by
    intro act unrefused unacked unreleased member
    rcases List.mem_append.mp member with member | acked
    · rcases List.mem_append.mp member with member | gone
      · simpa [unrefused] using member
      · exact absurd (mem_releaseActs gone) unreleased
    · exact absurd (mem_ackActs acked) (unacked _)
  unfold refuse
  rw [if_neg (by simp [phase])]
  refine ⟨{ sound with
    ackOnce := ?_
    unanswered := fun armed => ?_
    accepted := fun accepts => ?_
    started := fun serves => by cases serves
    claimOnce := ?_
    unclaimed := fun listens => by cases listens
    balanced := ?_
    shut := fun _ => rfl
    closed := ?_
    quiet := fun _ => ⟨rfl, rfl⟩
    latched := fun member => sound.latched (others (by decide) (by simp) (by decide) member)
    refused := fun _ => .inl rfl
    establishes := fun runs => ?_
    entry := fun serves => ?_
    reported := ?_
    serves := ?_ },
    (releaseConnectionSlot_fair v).slots, (releaseConnectionSlot_fair v).bound, rfl,
      others (by decide) (by simp) (by decide)⟩
  · change acks (v.connection.history ++ [.refused] ++ v.connection.releaseActs ++
      v.connection.ackActs (some code)) ≤ 1
    rw [acks_append, released.acks, acks_append, unanswered.acks]
    simpa [acks, ConnectionAct.isAck] using answer.1
  · rcases armed with listens | waits | checks
    · cases listens
    · cases waits
    · have checks : v.connection.checking = true := checks
      simp [checking, unanswered.idle] at checks
  · rcases accepts with sends | serves
    · have sends : v.connection.sendingAck = true := sends
      simp [sendingAck, unanswered.idle] at sends
    · cases serves
  · change claims (v.connection.history ++ [.refused] ++ v.connection.releaseActs ++
      v.connection.ackActs (some code)) ≤ 1
    rw [claims_append, released.claims, claims_append, answer.2.1]
    exact sound.claimOnce
  · change claims (v.connection.history ++ [.refused] ++ v.connection.releaseActs ++
      v.connection.ackActs (some code)) = releases (v.connection.history ++ [.refused] ++
        v.connection.releaseActs ++ v.connection.ackActs (some code)) + 0
    rw [claims_append, released.claims, claims_append, answer.2.1, releases_append,
      released.releases, releases_append, answer.2.2.1]
    exact sound.balanced
  · change ConnectionPhase.refusing = .closed ↔ v.connection.disposed = true
    simp [undisposed]
  · have runs : v.connection.establishing.isSome = true := runs
    simp [unanswered.idle] at runs
  · have serving := sound.entry serves
    rw [phase] at serving
    cases serving
  · change reports (v.connection.history ++ [.refused] ++ v.connection.releaseActs ++
      v.connection.ackActs (some code)) = _
    rw [reports_append, released.reports, reports_append, answer.2.2.2]
    exact sound.reported
  · change ServesWell (v.connection.history ++ [.refused] ++ v.connection.releaseActs ++
      v.connection.ackActs (some code))
    refine ((sound.serves.append (by simp)).append fun member => ?_).append fun member => ?_
    · cases mem_releaseActs member
    · cases mem_ackActs member

theorem refusalSettles_sound : Sound v.refusalSettles.connection ∧ Fair v v.refusalSettles := by
  unfold refusalSettles
  split
  · have settled : Sound (v.change fun c => { c with refusalSending := false }).connection :=
      { sound with }
    obtain ⟨disposed, fair⟩ := dispose_sound settled .disconnect
    exact ⟨disposed, fair.after rfl rfl rfl id⟩
  · exact ⟨sound, .refl v⟩

theorem disarm_sound : Sound (v.change fun c => { c with handshakeTimer := false }).connection :=
  { sound with
    unanswered := fun armed => sound.unanswered <| armed.imp id fun armed =>
      armed.imp (fun waits => by cases waits) id
    quiet := fun other => ⟨(sound.quiet other).1, rfl⟩
    establishes := fun runs => ⟨(sound.establishes runs).1, rfl, (sound.establishes runs).2.2⟩ }

theorem unanswered_of_armed (phase : v.connection.phase = .handshaking)
    (armed : v.connection.listening = true ∨ v.connection.handshakeTimer = true) :
    Unanswered v.connection := by
  refine ⟨phase, sound.unanswered (armed.imp id .inl), ?_⟩
  cases runs : v.connection.establishing with
  | none => rfl
  | some establishing =>
    obtain ⟨deaf, disarmed, _⟩ := sound.establishes (by simp [runs])
    rw [deaf, disarmed] at armed
    rcases armed with armed | armed <;> cases armed

theorem timerFires_sound : Sound v.timerFires.connection ∧ Fair v v.timerFires := by
  unfold timerFires
  split
  · rename_i armed
    dsimp only
    split
    · rename_i phase
      have waiting := unanswered_of_armed sound phase (.inr armed)
      obtain ⟨refused, fair⟩ := refuse_sound (disarm_sound sound)
        ⟨phase, waiting.acks, waiting.idle⟩ .malformed
      exact ⟨refused, fair.after rfl rfl rfl id⟩
    · exact ⟨disarm_sound sound, .of_same rfl rfl rfl id⟩
  · exact ⟨sound, .refl v⟩

end

/-! ## Establishment -/

theorem isOver_eq_false {stale : Bool} (runs : v.isOver stale = false) :
    v.connection.closedLatch = false ∧ v.connection.disposed = false ∧ stale = false := by
  simpa [isOver, and_assoc] using runs

section
variable (sound : Sound v.connection)
include sound

theorem establish_sound (unanswered : Unanswered v.connection)
    (deaf : v.connection.listening = false) (stale ready : Bool) (projectId : String)
    (remainder : List UInt8) :
    Sound (v.establish stale ready projectId remainder).connection ∧
      Fair v (v.establish stale ready projectId remainder) := by
  have disarmed := disarm_sound sound
  unfold establish
  dsimp only
  split
  · obtain ⟨disposed, fair⟩ := dispose_sound disarmed v.connection.cause
    exact ⟨disposed, fair.after rfl rfl rfl id⟩
  · refine ⟨{ disarmed with
      unanswered := fun _ => unanswered.acks
      accepted := fun accepts => ?_
      establishes := fun _ => ⟨deaf, rfl, .inl unanswered.handshaking⟩ }, .of_same rfl rfl rfl id⟩
    rcases accepts with sends | serves
    · cases sends
    · have serves : v.connection.phase = .serving := serves
      rw [unanswered.handshaking] at serves
      cases serves

theorem settle_sound : Sound (v.change fun c => { c with establishing := none }).connection :=
  { sound with
    unanswered := fun armed => sound.unanswered <| armed.imp id fun armed =>
      armed.imp id fun checks => by cases checks
    accepted := fun accepts => sound.accepted <| accepts.imp (fun sends => by cases sends) id
    establishes := fun runs => by cases runs }

theorem projectAnswers_sound (stale : Bool) (answer : ProjectAnswer) :
    Sound (v.projectAnswers stale answer).connection ∧ Fair v (v.projectAnswers stale answer) := by
  unfold projectAnswers
  split
  case h_2 => exact ⟨sound, .refl v⟩
  case h_1 projectId remainder locked checks =>
    have settled := settle_sound sound
    obtain ⟨deaf, disarmed, phase⟩ := sound.establishes (by simp [checks])
    have unacked := sound.unanswered (.inr (.inr (by simp [checking, checks])))
    dsimp only
    split
    · exact ⟨settled, .of_same rfl rfl rfl id⟩
    rename_i runs
    have runs : v.isOver stale = false := eq_false_of_ne_true runs
    obtain ⟨unlatched, undisposed, _⟩ := isOver_eq_false runs
    have phase : v.connection.phase = .handshaking := phase.resolve_right fun closed => by
      rw [sound.closed.mp closed] at undisposed
      cases undisposed
    split
    · obtain ⟨refused, fair⟩ := refuse_sound settled ⟨phase, unacked, rfl⟩ _
      exact ⟨refused, fair.after rfl rfl rfl id⟩
    -- The queue takes the ack, as the connection is not closed.
    have acts : v.connection.ackActs none = [.ack none] := by
      simp [ackActs, sound.outbound, unlatched]
    have others : ∀ {act}, act ≠ .ack none →
        act ∈ v.connection.history ++ v.connection.ackActs none → act ∈ v.connection.history := by
      intro act other member
      rcases List.mem_append.mp member with before | acked
      · exact before
      · exact absurd (mem_ackActs acked) other
    refine ⟨{ settled with
      ackOnce := ?_
      unanswered := fun armed => ?_
      accepted := fun _ => List.mem_append_right _ (by
        change _ ∈ v.connection.ackActs none
        simp [acts])
      started := fun serves => List.mem_append_left _ (sound.started serves)
      claimOnce := ?_
      unclaimed := fun listens => absurd (deaf.symm.trans listens) (by simp)
      balanced := ?_
      latched := fun member => sound.latched (others (by decide) member)
      refused := fun member => sound.refused (others (by decide) member)
      establishes := fun _ => ⟨deaf, disarmed, .inl phase⟩
      reported := ?_
      serves := ?_ }, .of_same rfl rfl rfl (others (by decide))⟩
    · change acks (v.connection.history ++ v.connection.ackActs none) ≤ 1
      rw [acts, acks_append, unacked]
      decide
    · rcases armed with listens | waits | checks
      · exact absurd (deaf.symm.trans listens) (by simp)
      · exact absurd (disarmed.symm.trans waits) (by simp)
      · cases checks
    · change claims (v.connection.history ++ v.connection.ackActs none) ≤ 1
      rw [acts, claims_append]
      exact sound.claimOnce
    · change claims (v.connection.history ++ v.connection.ackActs none) =
        releases (v.connection.history ++ v.connection.ackActs none) + v.connection.held
      rw [acts, claims_append, releases_append]
      exact sound.balanced
    · change reports (v.connection.history ++ v.connection.ackActs none) = _
      rw [acts, reports_append]
      exact sound.reported
    · change ServesWell (v.connection.history ++ v.connection.ackActs none)
      rw [acts]
      exact sound.serves.append (by simp)

theorem ackSettles_sound (stale : Bool) (fresh : stale = false → .stale ∉ v.connection.history) :
    Sound (v.ackSettles stale).connection ∧ Fair v (v.ackSettles stale) := by
  unfold ackSettles
  split
  case h_2 => exact ⟨sound, .refl v⟩
  case h_1 projectId remainder sends =>
    have settled := settle_sound sound
    obtain ⟨deaf, disarmed, phase⟩ := sound.establishes (by simp [sends])
    have acked := sound.accepted (.inl (by simp [sendingAck, sends]))
    dsimp only
    split
    · obtain ⟨disposed, fair⟩ := dispose_sound settled v.connection.cause
      exact ⟨disposed, fair.after rfl rfl rfl id⟩
    rename_i runs
    have runs : v.isOver stale = false := eq_false_of_ne_true runs
    obtain ⟨unlatched, undisposed, current⟩ := isOver_eq_false runs
    have phase : v.connection.phase = .handshaking := phase.resolve_right fun closed => by
      rw [sound.closed.mp closed] at undisposed
      cases undisposed
    have unrefused : .refused ∉ v.connection.history := fun member => by
      rcases sound.refused member with refusing | closed
      · rw [phase] at refusing
        cases refusing
      · rw [phase] at closed
        cases closed
    have unclosed : .latched ∉ v.connection.history := fun member => by
      rw [sound.latched member] at unlatched
      cases unlatched
    have serving : Sound (((v.change fun c => { c with establishing := none }).change fun c =>
      { c with phase := .serving, served := some (projectId, remainder) }).log
        .serving).connection :=
    { settled with
      ackOnce := by
        change acks (v.connection.history ++ [.serving]) ≤ 1
        rw [acks_append]
        exact sound.ackOnce
      unanswered := fun armed => by
        rcases armed with listens | waits | checks
        · exact absurd (deaf.symm.trans listens) (by simp)
        · exact absurd (disarmed.symm.trans waits) (by simp)
        · cases checks
      accepted := fun _ => List.mem_append_left _ acked
      started := fun _ => List.mem_append_right _ (List.mem_singleton_self _)
      claimOnce := by
        change claims (v.connection.history ++ [.serving]) ≤ 1
        rw [claims_append]
        exact sound.claimOnce
      unclaimed := fun listens => absurd (deaf.symm.trans listens) (by simp)
      balanced := by
        change claims (v.connection.history ++ [.serving]) =
          releases (v.connection.history ++ [.serving]) + v.connection.held
        rw [claims_append, releases_append]
        exact sound.balanced
      shut := fun over' => by rcases over' with over' | over' <;> cases over'
      closed := by
        change ConnectionPhase.serving = .closed ↔ v.connection.disposed = true
        simp [undisposed]
      quiet := fun _ => ⟨deaf, disarmed⟩
      latched := fun member => sound.latched (by simpa [log, change] using member)
      refused := fun member => absurd (by simpa [log, change] using member) unrefused
      establishes := fun runs => by cases runs
      entry := fun _ => rfl
      reported := by
        change reports (v.connection.history ++ [.serving]) = _
        rw [reports_append]
        exact sound.reported
      serves := sound.serves.serve acked unrefused unclosed (fresh current) }
    have kept : .stale ∈ v.connection.history ++ [.serving] → .stale ∈ v.connection.history := by
      intro member
      simpa using member
    split
    · obtain ⟨disposed, fair⟩ := dispose_sound serving v.connection.cause
      exact ⟨disposed, fair.after rfl rfl rfl kept⟩
    · exact ⟨serving, .of_same rfl rfl rfl kept⟩

/-! ## The handshake -/

theorem reserve_sound (phase : v.connection.phase = .handshaking)
    (unclaimed : claims v.connection.history = 0) (deaf : v.connection.listening = false)
    (reserved : v.reserveConnectionSlot = some v') : Sound v'.connection := by
  unfold reserveConnectionSlot at reserved
  split at reserved
  · cases reserved
  obtain rfl := Option.some.inj reserved
  have balanced := sound.balanced
  rw [unclaimed] at balanced
  exact { sound with
    ackOnce := by
      change acks (v.connection.history ++ [.claimed]) ≤ 1
      rw [acks_append]
      exact sound.ackOnce
    unanswered := fun armed => by
      change acks (v.connection.history ++ [.claimed]) = 0
      rw [acks_append]
      exact sound.unanswered armed
    accepted := fun accepts => List.mem_append_left _ (sound.accepted accepts)
    started := fun serves => List.mem_append_left _ (sound.started serves)
    claimOnce := by
      change claims (v.connection.history ++ [.claimed]) ≤ 1
      rw [claims_append, unclaimed]
      decide
    unclaimed := fun listens => absurd (deaf.symm.trans listens) (by simp)
    balanced := by
      change claims (v.connection.history ++ [.claimed]) =
        releases (v.connection.history ++ [.claimed]) + 1
      have none' : releases v.connection.history = 0 := by omega
      rw [claims_append, releases_append, unclaimed, none']
      decide
    shut := fun over' => by
      have over' : v.connection.phase = .refusing ∨ v.connection.phase = .closed := over'
      rw [phase] at over'
      rcases over' with over' | over' <;> cases over'
    latched := fun member => sound.latched (by simpa [log, change] using member)
    refused := fun member => sound.refused (by simpa [log, change] using member)
    reported := by
      change reports (v.connection.history ++ [.claimed]) = _
      rw [reports_append]
      exact sound.reported
    serves := sound.serves.append (by simp) }

end

theorem handleHandshakeData_sound (parse : List UInt8 → StudioHandshakeParse)
    (sound : Sound v.connection) (stale ready : Bool) (chunk : List UInt8) :
    Sound (v.handleHandshakeData parse stale ready chunk).connection ∧
      Fair v (v.handleHandshakeData parse stale ready chunk) := by
  unfold handleHandshakeData
  split
  · exact ⟨sound, .refl v⟩
  rename_i listens
  split
  · exact ⟨sound, .refl v⟩
  rename_i phase
  have listens : v.connection.listening = true := by simpa using listens
  have phase : v.connection.phase = .handshaking := by simpa using phase
  have waiting := unanswered_of_armed sound phase (.inl listens)
  have buffered : Sound (v.change fun c => { c with buffered := c.buffered ++ chunk }).connection :=
    { sound with }
  dsimp only
  split
  · exact ⟨buffered, .of_same rfl rfl rfl id⟩
  · obtain ⟨refused, fair⟩ := refuse_sound buffered ⟨phase, waiting.acks, waiting.idle⟩ _
    exact ⟨refused, fair.after rfl rfl rfl id⟩
  · rename_i projectId remainder _
    have deaf : Sound ((v.change fun c => { c with buffered := c.buffered ++ chunk }).change
        fun c => { c with listening := false, buffered := [] }).connection :=
      { sound with
        unanswered := fun _ => waiting.acks
        unclaimed := fun listens => by cases listens
        quiet := fun other => absurd phase other
        establishes := fun runs => by
          have runs : v.connection.establishing.isSome = true := runs
          simp [waiting.idle] at runs }
    split
    · obtain ⟨refused, fair⟩ := refuse_sound deaf ⟨phase, waiting.acks, waiting.idle⟩ .atCapacity
      exact ⟨refused, fair.after rfl rfl rfl id⟩
    · rename_i v' reserved
      have unclaimed := sound.unclaimed listens
      have free : v.connection.slotRelease = false := by
        have balanced := sound.balanced
        cases slot : v.connection.slotRelease with
        | false => rfl
        | true => simp [held, slot, unclaimed] at balanced
      have claimed := reserve_sound deaf phase unclaimed rfl reserved
      have fair := reserveConnectionSlot_fair (v := (v.change fun c =>
        { c with buffered := c.buffered ++ chunk }).change fun c =>
          { c with listening := false, buffered := [] }) free reserved
      have waits : Unanswered v'.connection ∧ v'.connection.listening = false := by
        unfold reserveConnectionSlot at reserved
        split at reserved
        · cases reserved
        obtain rfl := Option.some.inj reserved
        refine ⟨⟨phase, ?_, waiting.idle⟩, rfl⟩
        change acks (v.connection.history ++ [.claimed]) = 0
        rw [acks_append, waiting.acks]
        rfl
      obtain ⟨established, onward⟩ := establish_sound claimed waits.1 waits.2 stale ready projectId
        remainder
      exact ⟨established, (fair.trans onward).after rfl rfl rfl id⟩

end ConnectionView

end Vex.Studio
