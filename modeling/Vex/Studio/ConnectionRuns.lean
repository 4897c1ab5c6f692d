import Vex.Studio.ConnectionLife

/-!
# Runs of the host

The host counts the slots that its connections hold, and a connection whose admission was closed is
stale from then on. So in every run each connection is told one thing and gives back what it took.
-/

namespace Vex.Studio

open Vex.Library

namespace StudioHost

variable {h : StudioHost} {parse : List UInt8 → StudioHandshakeParse}

/-! ## The invariant -/

structure Seated (h : StudioHost) (c : StudioConnection) : Prop where
  sound : c.Sound
  epoch : c.epoch ≤ h.epoch
  stale : .stale ∈ c.history → c.epoch < h.epoch ∨ h.permanentlyClosed = true

def heldSlots (connections : List StudioConnection) : Nat :=
  connections.countP StudioConnection.slotRelease

structure Kept (h : StudioHost) : Prop where
  seated : ∀ c ∈ h.connections, Seated h c
  counted : h.reservedConnections = heldSlots h.connections
  bound : h.reservedConnections ≤ studioMaxConnections
  shut : h.permanentlyClosed = true → h.locked = true

theorem initial_kept : Kept initial where
  seated := by simp [initial]
  counted := rfl
  bound := Nat.zero_le _
  shut := by simp [initial]

variable {c : StudioConnection}

theorem Seated.of_same {h' : StudioHost} (seated : Seated h c) (epoch : h'.epoch = h.epoch)
    (shut : h'.permanentlyClosed = h.permanentlyClosed) : Seated h' c :=
  ⟨seated.sound, epoch ▸ seated.epoch, fun stale => by
    rw [epoch, shut]
    exact seated.stale stale⟩

theorem Seated.fresh (kept : Kept h) (seated : Seated h c) (current : h.isStale c = false) :
    .stale ∉ c.history := by
  intro member
  simp only [isStale, Bool.or_eq_false_iff, bne_eq_false_iff_eq] at current
  rcases seated.stale member with older | shut
  · exact absurd current.1 (Nat.ne_of_lt older)
  · rw [kept.shut shut] at current
    cases current.2

variable {connections : List StudioConnection}

theorem held_le_heldSlots (member : c ∈ connections) : c.held ≤ heldSlots connections := by
  unfold StudioConnection.held heldSlots
  split
  · rename_i slot
    exact List.countP_pos_iff.mpr ⟨c, member, slot⟩
  · exact Nat.zero_le _

theorem heldSlots_set {index : Nat} (found : connections[index]? = some c) (c' : StudioConnection) :
    heldSlots (connections.set index c') + c.held = heldSlots connections + c'.held := by
  obtain ⟨short, rfl⟩ := List.getElem?_eq_some_iff.mp found
  have held := held_le_heldSlots (List.getElem_mem short)
  unfold heldSlots StudioConnection.held at *
  rw [List.countP_set short]
  omega

theorem update_kept (kept : Kept h) (index : Nat)
    {f : StudioConnection → ConnectionView → ConnectionView}
    (fair : ∀ c, h.connections[index]? = some c → Seated h c →
      (f c ⟨c, h.reservedConnections⟩).connection.Sound ∧
        ConnectionView.Fair ⟨c, h.reservedConnections⟩ (f c ⟨c, h.reservedConnections⟩)) :
    Kept (h.update index f) := by
  unfold update
  split
  · exact kept
  · rename_i c found
    have member := List.mem_of_getElem? found
    have seated := kept.seated c member
    obtain ⟨sound, fair⟩ := fair c found seated
    have held : c.held ≤ h.reservedConnections := by
      rw [kept.counted]
      exact held_le_heldSlots member
    refine ⟨fun other member => ?_, ?_, fair.bound kept.bound, kept.shut⟩
    · rcases List.mem_or_eq_of_mem_set member with same | rfl
      · exact (kept.seated other same).of_same rfl rfl
      · exact ⟨sound, fair.epoch.symm ▸ seated.epoch, fun stale => by
          rw [fair.epoch]
          exact seated.stale (fair.stale stale)⟩
    · have slots := fair.slots held
      have after := heldSlots_set found (f c ⟨c, h.reservedConnections⟩).connection
      have counted := kept.counted
      dsimp only at slots ⊢
      omega

/-! ## Steps -/

theorem closeStudioAdmission_kept (kept : Kept h) : Kept h.closeStudioAdmission := by
  have seated : ∀ c ∈ h.connections.map StudioConnection.outdated, ∃ before ∈ h.connections,
      c = before.outdated := by
    intro c member
    obtain ⟨before, listed, rfl⟩ := List.mem_map.mp member
    exact ⟨before, listed, rfl⟩
  have counted : heldSlots (h.connections.map StudioConnection.outdated) =
      heldSlots h.connections := by
    unfold heldSlots
    rw [List.countP_map]
    rfl
  unfold closeStudioAdmission
  dsimp only
  split
  · refine ⟨fun c member => ?_, kept.counted.trans counted.symm, kept.bound, fun _ => rfl⟩
    obtain ⟨before, listed, rfl⟩ := seated c member
    have old := kept.seated before listed
    exact ⟨StudioConnection.outdated_sound old.sound, old.epoch, fun _ => .inr rfl⟩
  · refine ⟨fun c member => ?_, kept.counted.trans counted.symm, kept.bound, fun _ => rfl⟩
    obtain ⟨before, listed, rfl⟩ := seated c member
    have old := kept.seated before listed
    exact ⟨StudioConnection.outdated_sound old.sound, Nat.le_succ_of_le old.epoch,
      fun _ => .inl (Nat.lt_succ_of_le old.epoch)⟩

theorem openStudioAdmission_kept (kept : Kept h) : Kept h.openStudioAdmission := by
  unfold openStudioAdmission
  split
  · exact kept
  · rename_i opens
    exact ⟨fun c member => (kept.seated c member).of_same rfl rfl, kept.counted, kept.bound, fun shut => absurd shut opens⟩

theorem destroyEach_kept (cause : StudioCancelCause) (indices : List Nat) (kept : Kept h) :
    Kept (h.destroyEach cause indices) := by
  refine run_induction (motive := Kept) (fun h index kept => ?_) kept indices
  refine update_kept kept index fun c _ seated => ?_
  split
  · exact ConnectionView.destroyNow_sound seated.sound cause
  · exact ⟨seated.sound, .refl _⟩

theorem handleConnection_kept (kept : Kept h) : Kept h.handleConnection := by
  have accepted : Kept { h with connections := h.connections ++ [.construct h.epoch] } := by
    refine ⟨fun c member => ?_, ?_, kept.bound, kept.shut⟩
    · rcases List.mem_append.mp member with before | new
      · exact (kept.seated c before).of_same rfl rfl
      · obtain rfl := List.mem_singleton.mp new
        exact ⟨StudioConnection.construct_sound _, Nat.le_refl _, fun stale => by cases stale⟩
    · rw [kept.counted]
      unfold heldSlots
      rw [List.countP_append]
      rfl
  have refuses : ∀ code, Kept (update { h with
      connections := h.connections ++ [.construct h.epoch] } h.connections.length
        fun _ v => v.refuse code) := by
    intro code
    refine update_kept accepted _ fun c found seated => ?_
    have new : StudioConnection.construct h.epoch = c := by
      simpa [List.getElem?_concat_length] using found
    subst new
    exact ConnectionView.refuse_sound seated.sound ⟨rfl, rfl, rfl⟩ code
  unfold handleConnection
  dsimp only
  split
  · exact refuses _
  split
  · exact refuses _
  · exact accepted

theorem step_kept (kept : Kept h) (event : HostEvent) : Kept (h.step parse event) := by
  cases event with
  | accepts => exact handleConnection_kept kept
  | chunk index bytes =>
    simp only [step]
    refine update_kept kept index fun c _ seated => ?_
    exact ConnectionView.handleHandshakeData_sound parse seated.sound _ _ bytes
  | timerFires index =>
    simp only [step]
    refine update_kept kept index fun c _ seated => ?_
    exact ConnectionView.timerFires_sound seated.sound
  | projectAnswers index answer =>
    simp only [step]
    refine update_kept kept index fun c _ seated => ?_
    exact ConnectionView.projectAnswers_sound seated.sound _ answer
  | ackSettles index =>
    simp only [step]
    refine update_kept kept index fun c _ seated => ?_
    exact ConnectionView.ackSettles_sound seated.sound _ (seated.fresh kept)
  | refusalSettles index =>
    simp only [step]
    refine update_kept kept index fun c _ seated => ?_
    exact ConnectionView.refusalSettles_sound seated.sound
  | entryCloses index =>
    simp only [step]
    refine update_kept kept index fun c _ seated => ?_
    exact ConnectionView.entryCloses_sound seated.sound
  | disposes index cause =>
    simp only [step]
    refine update_kept kept index fun c _ seated => ?_
    exact ConnectionView.dispose_sound seated.sound cause
  | wireCloses index =>
    simp only [step]
    refine update_kept kept index fun c _ seated => ?_
    exact ConnectionView.handleSocketClose_sound seated.sound
  | wireErrors index => exact kept
  | lock cause => exact destroyEach_kept cause _ (closeStudioAdmission_kept kept)
  | quitBegins => exact closeStudioAdmission_kept kept
  | quitDestroys => exact destroyEach_kept _ _ kept
  | unlock => exact openStudioAdmission_kept kept
  | readiness ready =>
    exact ⟨fun c member => (kept.seated c member).of_same rfl rfl, kept.counted, kept.bound, kept.shut⟩

/-! ## Runs -/

/-- In every run each connection is sent at most one ack, serves only after an ack that accepts and
before it is refused, closed or its admission is closed, claims at most one slot and has given it
back when it is closed, and is reported closed once, when its wire has closed and its entry is not
being closed; and at most sixteen slots are claimed, those that the connections hold. -/
theorem told_one_thing (parse : List UInt8 → StudioHandshakeParse) (events : List HostEvent) :
    (∀ c ∈ (run (step parse) initial events).connections,
      acks c.history ≤ 1 ∧ ServesWell c.history ∧
      (c.phase = .serving → .serving ∈ c.history) ∧
      claims c.history ≤ 1 ∧ releases c.history ≤ claims c.history ∧
      (c.phase = .closed → releases c.history = claims c.history) ∧
      reports c.history ≤ 1 ∧
      (c.wireClosed = true → c.closingEntry = false → c.phase = .closed ∧ reports c.history = 1)) ∧
    heldSlots (run (step parse) initial events).connections ≤ studioMaxConnections := by
  have kept : Kept (run (step parse) initial events) :=
    run_induction (motive := Kept) (fun _ event kept => step_kept kept event) initial_kept events
  refine ⟨fun c member => ?_, kept.counted ▸ kept.bound⟩
  have sound := (kept.seated c member).sound
  have balanced := sound.balanced
  have reported := sound.reported
  refine ⟨sound.ackOnce, sound.serves, ?_, sound.claimOnce, by omega, fun closed => ?_, ?_,
    fun closed settled => ?_⟩
  · exact sound.started
  · have slot := sound.shut (.inr closed)
    simp only [StudioConnection.held, slot] at balanced
    exact balanced.symm
  · rw [reported]
    split <;> simp
  · have disposed := sound.wire closed
    refine ⟨sound.closed.mpr disposed, ?_⟩
    rw [reported, disposed, settled]
    rfl

end StudioHost

end Vex.Studio
