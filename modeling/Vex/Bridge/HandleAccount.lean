import Mathlib.Data.List.Nodup
import Vex.Bridge.RawHandles
import Vex.Bridge.ReachedFronts

/-!
# Every raw handle is in one place

Every accepted handle is held by the accept loop, in the channel, registered, closed by the
supervisor, closed by the accept loop, or lost in the flush, and in one of these only; the log and
the count follow from the places (`Custody`). `slots_accounted` draws from it what the count is to
mean, in every run in which no accepted handle waits in the channel when the front ends. Below it
is a run in which one does: the handle is never closed.
-/

namespace Vex.Bridge

open Vex.Library

/-- What is done to handles that are closed one after another. -/
def pairs (handles : List Nat) : List RawOp := handles.flatMap fun h => [.closed h, .released h]

def isReleased : RawOp → Bool
  | .closed _ => false
  | .released _ => true

@[simp] theorem pairs_nil : pairs [] = [] := rfl

@[simp] theorem pairs_cons (h : Nat) (handles : List Nat) :
    pairs (h :: handles) = .closed h :: .released h :: pairs handles := rfl

theorem pairs_append (handles handles' : List Nat) :
    pairs (handles ++ handles') = pairs handles ++ pairs handles' := List.flatMap_append

variable (handles : List Nat)

theorem count_closed_pairs (h : Nat) : (pairs handles).count (.closed h) = handles.count h := by
  induction handles with
  | nil => rfl
  | cons other rest ih =>
    rw [pairs_cons, List.count_cons, List.count_cons, List.count_cons, ih]
    simp

theorem count_released_pairs (h : Nat) : (pairs handles).count (.released h) = handles.count h := by
  induction handles with
  | nil => rfl
  | cons other rest ih =>
    rw [pairs_cons, List.count_cons, List.count_cons, List.count_cons, ih]
    simp

theorem countP_pairs : (pairs handles).countP isReleased = handles.length := by
  induction handles with
  | nil => rfl
  | cons h rest ih =>
    rw [pairs_cons, List.countP_cons, List.countP_cons, ih]
    rfl

theorem closed_before {k h : Nat} (next : (pairs handles)[k]? = some (.released h)) :
    .closed h ∈ (pairs handles).take k := by
  induction handles generalizing k with
  | nil => simp at next
  | cons other rest ih =>
    rw [pairs_cons] at next ⊢
    match k, next with
    | 0, next => simp at next
    | 1, next => simp_all
    | k + 2, next =>
      refine List.mem_cons_of_mem _ (List.mem_cons_of_mem _ (ih ?_))
      simpa using next

namespace Front

variable {s t u : Front} {given shut shut' : List Nat}

/-- The handles of a front, and those given to it, are those that it has later and those it has
closed by then. -/
structure Hands (s : Front) (given : List Nat) (t : Front) (shut : List Nat) : Prop where
  ops : t.ops = s.ops ++ pairs shut
  perm : (given ++ s.registered).Perm (t.registered ++ shut)

theorem Hands.trans (first : Hands s given t shut) (second : Hands t [] u shut') :
    Hands s given u (shut ++ shut') where
  ops := by rw [second.ops, first.ops, pairs_append, List.append_assoc]
  perm := by
    refine first.perm.trans ((second.perm.append_right shut).trans ?_)
    rw [List.append_assoc]
    exact List.perm_append_comm.append_left _

theorem Sheds.hands (tabled : s.sup.Tabled) (sheds : Sheds s t) : ∃ shut, Hands s [] t shut := by
  obtain ⟨ids, nodup, each, ops⟩ := sheds.closes
  refine ⟨ids.map s.wires, ?_, ?_⟩
  · rw [ops]
    unfold shuts pairs
    rw [List.flatMap_map]
  · have split : s.sup.order.Perm (t.sup.order ++ ids) := by
      refine (List.perm_ext_iff_of_nodup tabled.nodup ?_).mpr fun id => ?_
      · refine List.nodup_append.mpr ⟨sheds.tabled.nodup, nodup, ?_⟩
        rintro id listed other member rfl
        have dead := ((each id).mp member).2
        rw [(alive_iff_listed sheds.tabled id).mpr listed] at dead
        cases dead
      · rw [List.mem_append, each, ← alive_iff_listed tabled, ← alive_iff_listed sheds.tabled]
        have fewer := sheds.fewer id
        cases later : t.alive id <;> simp_all
    unfold registered
    rw [List.nil_append, sheds.wires, ← List.map_append]
    exact split.map s.wires

theorem hands_closeRaw (s : Front) (wire : Nat) : Hands s [wire] (s.closeRaw wire) [wire] :=
  ⟨rfl, List.perm_append_comm⟩

theorem hands_register (tabled : s.sup.Tabled) (wire : Nat) :
    Hands s [wire] (s.register wire) [] := by
  refine ⟨by simp [register], ?_⟩
  have new : s.sup.nextConnID ∉ s.sup.order := fun listed =>
    Nat.lt_irrefl _ (tabled.handedOut _ listed)
  have same : (s.register wire).registered = s.registered ++ [wire] := by
    change (s.sup.order ++ [s.sup.nextConnID]).map (Function.update s.wires _ wire) = _
    rw [List.map_append, List.map_singleton, Function.update_self]
    refine congrArg (· ++ [wire]) (List.map_congr_left fun id listed => ?_)
    refine Function.update_of_ne ?_ _ _
    rintro rfl
    exact new listed
  rw [same, List.append_nil]
  exact List.perm_append_comm

theorem handle_hands (standing : Standing s) {fuel wire : Nat} {event : FrontEvent}
    (received : s.Receives event) (returned : s.handle fuel wire event = some t) :
    ∃ shut, Hands s (if FrontProcess.isOther event then [] else [wire]) t shut := by
  obtain ⟨u, receipt, standing', sheds⟩ := handle_sheds standing received returned
  obtain ⟨shut, second⟩ := sheds.hands standing'.tabled
  have first : ∃ shut, Hands s (if FrontProcess.isOther event then [] else [wire]) u shut := by
    cases event with
    | accepted halfCloses =>
      rcases receipt with rfl | rfl
      · exact ⟨_, hands_closeRaw s wire⟩
      · exact ⟨_, hands_register standing.tabled wire⟩
    | _ => exact Sheds.hands standing.tabled (Prepared.sheds standing.tabled receipt)
  obtain ⟨shut', first⟩ := first
  exact ⟨_, first.trans second⟩

theorem stopEverything_eq (nobody : s.sup.order = []) : s.stopEverything = { s with timers := [] } := by
  unfold stopEverything
  rw [nobody]
  rfl

end Front

namespace FrontProcess

variable {p : FrontProcess} {shut turned : List Nat}

/-- A handle that the accept loop has closed and whose slot it has not released. -/
def begun (p : FrontProcess) : List RawOp :=
  match p.loop with
  | .releasing handle _ => [.closed handle]
  | _ => []

/-- A handle of the accept loop that was counted within the bound. -/
def within (p : FrontProcess) : Nat :=
  match p.loop with
  | .admitted _ _ => 1
  | .closing _ last | .releasing _ last => if last then 1 else 0
  | _ => 0

/-- The slots that handles within the bound take. -/
def load (p : FrontProcess) : Nat :=
  p.within + p.ctrl.length + p.front.sup.order.length
    + (p.front.ops.drop p.performed).countP isReleased + p.swallowed.length

/-- Where the handles are: `shut` are those that the supervisor has closed or is to close, `turned`
those that the accept loop has closed. -/
structure Custody (p : FrontProcess) (shut turned : List Nat) : Prop where
  standing : p.front.Standing
  performed : p.performed ≤ p.front.ops.length
  ops : p.front.ops = pairs shut
  places : ∀ h, p.held.count h + (p.ctrl.map Prod.fst).count h + p.front.registered.count h
    + shut.count h + p.swallowed.count h + turned.count h = if h < p.handles then 1 else 0
  log : ∀ op, p.log.count op =
    (p.front.ops.take p.performed).count op + (pairs turned).count op + p.begun.count op
  closeFirst : ∀ before h rest, p.log = before ++ .released h :: rest → .closed h ∈ before
  raw : p.raw + p.log.countP isReleased + p.uncounted = p.handles
  bounded : p.load ≤ maxRawHandles
  stopped : p.stopped = true → p.front.sup.terminal = true

/-! ## What follows from the places -/

namespace Custody

section
variable (custody : Custody p shut turned)
include custody

theorem size :
    p.held.length + p.ctrl.length + p.front.sup.order.length + shut.length + p.swallowed.length
      + turned.length = p.handles := by
  have perm : (p.held ++ p.ctrl.map Prod.fst ++ p.front.registered ++ shut ++ p.swallowed
      ++ turned).Perm (List.range p.handles) := by
    refine List.perm_iff_count.mpr fun h => ?_
    rw [List.nodup_range.count]
    simp only [List.count_append, List.mem_range]
    exact custody.places h
  have sizes := perm.length_eq
  simp only [List.length_append, List.length_map, List.length_range, Front.registered] at sizes
  exact sizes

theorem releases :
    p.log.countP isReleased = (p.front.ops.take p.performed).countP isReleased + turned.length := by
  have perm : p.log.Perm (p.front.ops.take p.performed ++ pairs turned ++ p.begun) := by
    refine List.perm_iff_count.mpr fun op => ?_
    rw [custody.log, List.count_append, List.count_append]
  have none_ : p.begun.countP isReleased = 0 := by
    unfold begun
    split <;> rfl
  rw [perm.countP_eq, List.countP_append, List.countP_append, countP_pairs, none_, Nat.add_zero]

theorem sheds : (p.front.ops.take p.performed).countP isReleased
      + (p.front.ops.drop p.performed).countP isReleased = shut.length := by
  rw [← List.countP_append, List.take_append_drop, custody.ops, countP_pairs]

theorem count_take (op : RawOp) :
    (p.front.ops.take p.performed).count op ≤ (pairs shut).count op := by
  rw [← custody.ops]
  exact (List.take_sublist _ _).count_le op

theorem raw_eq :
    p.raw + p.uncounted + turned.length + (p.front.ops.take p.performed).countP isReleased =
      p.handles := by
  have counted := custody.raw
  rw [custody.releases] at counted
  omega

end

end Custody

/-! ## The accept loop -/

section Loop

section
variable (custody : Custody p shut turned)
include custody

theorem accept_custody (accepting : p.loop = .accepting) (halfCloses : Bool) :
    Custody { p with loop := .accepted p.handles halfCloses, handles := p.handles + 1 } shut
      turned where
  standing := custody.standing
  performed := custody.performed
  ops := custody.ops
  places h := by
    have before := custody.places h
    simp only [held, accepting, List.count_nil] at before
    simp only [held, List.count_singleton, beq_iff_eq]
    split_ifs at before ⊢ <;> omega
  log op := by
    have before := custody.log op
    simp only [begun, accepting] at before
    exact before
  closeFirst := custody.closeFirst
  raw := by
    have before := custody.raw
    simp only [uncounted, accepting] at before
    simp only [uncounted]
    omega
  bounded := by
    have before := custody.bounded
    simp only [load, within, accepting] at before
    exact before
  stopped := custody.stopped

theorem acquire_custody {handle : Nat} {halfCloses : Bool}
    (accepted : p.loop = .accepted handle halfCloses) :
    Custody { p with
      raw := p.raw + 1
      loop := if p.raw + 1 ≤ maxRawHandles then .admitted handle halfCloses
        else .closing handle false } shut turned := by
  have size := custody.size
  have raw := custody.raw_eq
  have sheds := custody.sheds
  have bounded := custody.bounded
  simp only [held, accepted, List.length_singleton] at size
  simp only [uncounted, accepted] at raw
  simp only [load, within, accepted] at bounded
  refine ⟨custody.standing, custody.performed, custody.ops, fun h => ?_, fun op => ?_,
    custody.closeFirst, ?_, ?_, custody.stopped⟩
  · have before := custody.places h
    simp only [held, accepted] at before
    split <;> exact before
  · have before := custody.log op
    simp only [begun, accepted] at before
    split <;> exact before
  · have before := custody.raw
    simp only [uncounted, accepted] at before
    split <;> simp only [uncounted] <;> omega
  · by_cases room : p.raw + 1 ≤ maxRawHandles
    · simp only [load, within, if_pos room]
      omega
    · simp only [load, within, if_neg room, Bool.false_eq_true, if_false]
      exact bounded

theorem deliver_custody {handle : Nat} {halfCloses : Bool}
    (admitted : p.loop = .admitted handle halfCloses) :
    Custody { p with ctrl := p.ctrl ++ [(handle, halfCloses)], loop := .accepting } shut
      turned where
  standing := custody.standing
  performed := custody.performed
  ops := custody.ops
  places h := by
    have before := custody.places h
    simp only [held, admitted] at before
    simp only [held, List.map_append, List.map_singleton, List.count_append, List.count_nil]
    omega
  log op := by
    have before := custody.log op
    simp only [begun, admitted] at before
    exact before
  closeFirst := custody.closeFirst
  raw := by
    have before := custody.raw
    simp only [uncounted, admitted] at before
    exact before
  bounded := by
    have before := custody.bounded
    simp only [load, within, admitted] at before
    simp only [load, within, List.length_append, List.length_singleton]
    omega
  stopped := custody.stopped

theorem relocate_custody {loop : AcceptLoop} (held_ : { p with loop := loop }.held = p.held)
    (begun_ : { p with loop := loop }.begun = p.begun)
    (uncounted_ : { p with loop := loop }.uncounted = p.uncounted)
    (within_ : { p with loop := loop }.within = p.within) :
    Custody { p with loop := loop } shut turned where
  standing := custody.standing
  performed := custody.performed
  ops := custody.ops
  places h := by
    rw [held_]
    exact custody.places h
  log op := by
    rw [begun_]
    exact custody.log op
  closeFirst := custody.closeFirst
  raw := by
    rw [uncounted_]
    exact custody.raw
  bounded := by
    unfold load
    rw [within_]
    exact custody.bounded
  stopped := custody.stopped

theorem reject_custody {handle : Nat} {halfCloses : Bool}
    (admitted : p.loop = .admitted handle halfCloses) :
    Custody { p with loop := .closing handle true } shut turned := by
  refine relocate_custody custody ?_ ?_ ?_ ?_
  · simp only [held, admitted]
  · simp only [begun, admitted]
  · simp only [uncounted, admitted]
  · simp only [within, admitted, if_true]

theorem leave_custody (accepting : p.loop = .accepting) :
    Custody { p with loop := .ended } shut turned := by
  refine relocate_custody custody ?_ ?_ ?_ ?_
  · simp only [held, accepting]
  · simp only [begun, accepting]
  · simp only [uncounted, accepting]
  · simp only [within, accepting]

end

theorem closeFirst_closed {log : List RawOp} (handle : Nat)
    (closeFirst : ∀ before h rest, log = before ++ .released h :: rest → .closed h ∈ before)
    (before : List RawOp) (h : Nat) (rest : List RawOp)
    (split : log ++ [.closed handle] = before ++ .released h :: rest) : .closed h ∈ before := by
  rcases List.eq_nil_or_concat' rest with rfl | ⟨rest, last, rfl⟩
  · have ends := (List.append_inj' split rfl).2
    cases ends
  · rw [← List.cons_append, ← List.append_assoc] at split
    exact closeFirst before h rest (List.append_inj' split rfl).1

theorem closeFirst_released {log : List RawOp} {handle : Nat}
    (closeFirst : ∀ before h rest, log = before ++ .released h :: rest → .closed h ∈ before)
    (closed : .closed handle ∈ log) (before : List RawOp) (h : Nat) (rest : List RawOp)
    (split : log ++ [.released handle] = before ++ .released h :: rest) : .closed h ∈ before := by
  rcases List.eq_nil_or_concat' rest with rfl | ⟨rest, last, rfl⟩
  · obtain ⟨rfl, ends⟩ := List.append_inj' split rfl
    cases ends
    exact closed
  · rw [← List.cons_append, ← List.append_assoc] at split
    exact closeFirst before h rest (List.append_inj' split rfl).1

theorem close_custody (custody : Custody p shut turned) {handle : Nat} {last : Bool}
    (closing : p.loop = .closing handle last) :
    Custody { p with log := p.log ++ [.closed handle], loop := .releasing handle last } shut
      turned where
  standing := custody.standing
  performed := custody.performed
  ops := custody.ops
  places h := by
    have before := custody.places h
    simp only [held, closing] at before
    exact before
  log op := by
    have before := custody.log op
    simp only [begun, closing, List.count_nil] at before
    simp only [begun, List.count_append]
    omega
  closeFirst := closeFirst_closed handle custody.closeFirst
  raw := by
    have before := custody.raw
    simp only [uncounted, closing] at before
    simp only [uncounted, List.countP_append, List.countP_singleton, isReleased]
    exact before
  bounded := by
    have before := custody.bounded
    simp only [load, within, closing] at before
    exact before
  stopped := custody.stopped

theorem release_custody (custody : Custody p shut turned) {handle : Nat} {last : Bool}
    (releasing : p.loop = .releasing handle last) :
    Custody { p.released handle with loop := if last then .ended else .accepting } shut
      (turned ++ [handle]) := by
  have size := custody.size
  have sheds := custody.sheds
  have releases := custody.releases
  have raw := custody.raw
  simp only [held, releasing, List.length_singleton] at size
  simp only [uncounted, releasing] at raw
  have nobody : ∀ q : FrontProcess, q.loop = (if last then .ended else .accepting) →
      q.held = [] ∧ q.begun = [] ∧ q.uncounted = 0 ∧ q.within = 0 := by
    intro q same
    cases last <;> simp only [held, begun, uncounted, within, same] <;> simp
  obtain ⟨held_, begun_, uncounted_, within_⟩ := nobody
    { p.released handle with loop := if last then .ended else .accepting } rfl
  have begins : p.begun = [.closed handle] := by simp only [begun, releasing]
  have closed : .closed handle ∈ p.log := by
    have logged := custody.log (.closed handle)
    rw [begins, List.count_singleton_self] at logged
    exact List.count_pos_iff.mp (by omega)
  refine ⟨custody.standing, custody.performed, custody.ops, fun h => ?_, fun op => ?_,
    closeFirst_released custody.closeFirst closed, ?_, ?_, custody.stopped⟩
  · have before := custody.places h
    simp only [held, releasing] at before
    rw [held_, List.count_append]
    change _ + (p.ctrl.map Prod.fst).count h + p.front.registered.count h + shut.count h
      + p.swallowed.count h + _ = if h < p.handles then 1 else 0
    rw [List.count_nil]
    omega
  · have before := custody.log op
    rw [begun_, pairs_append]
    change (p.log ++ [RawOp.released handle]).count op = (p.front.ops.take p.performed).count op + _ + _
    rw [begins] at before
    simp only [pairs_cons, pairs_nil, List.count_append, List.count_cons, List.count_nil] at before ⊢
    omega
  · rw [uncounted_]
    change p.raw - 1 + (p.log ++ [RawOp.released handle]).countP isReleased + 0 = p.handles
    rw [List.countP_append]
    change p.raw - 1 + (p.log.countP isReleased + 1) + 0 = p.handles
    omega
  · have before := custody.bounded
    unfold load at before ⊢
    rw [within_]
    change 0 + p.ctrl.length + p.front.sup.order.length
      + (p.front.ops.drop p.performed).countP isReleased + p.swallowed.length ≤ _
    omega

end Loop

/-! ## The supervisor -/

theorem perform_custody (custody : Custody p shut turned) {op : RawOp}
    (next : p.front.ops[p.performed]? = some op) :
    Custody { p.performs op with performed := p.performed + 1 } shut turned := by
  obtain ⟨within_, at_⟩ := List.getElem?_eq_some_iff.mp next
  have taken : p.front.ops.take (p.performed + 1) = p.front.ops.take p.performed ++ [op] := by
    rw [List.take_add_one, next]
    rfl
  have dropped : (p.front.ops.drop p.performed).countP isReleased = (if isReleased op then 1 else 0)
        + (p.front.ops.drop (p.performed + 1)).countP isReleased := by
    rw [List.drop_eq_getElem_cons within_, at_, List.countP_cons, Nat.add_comm]
  have size := custody.size
  have sheds := custody.sheds
  have raw := custody.raw_eq
  have bounded := custody.bounded
  have logged : ∀ other, (p.log ++ [op]).count other =
      (p.front.ops.take (p.performed + 1)).count other + (pairs turned).count other
        + p.begun.count other := by
    intro other
    rw [taken, List.count_append, List.count_append, custody.log]
    omega
  cases op with
  | closed handle =>
    refine ⟨custody.standing, within_, custody.ops, custody.places, logged,
      closeFirst_closed handle custody.closeFirst, ?_, ?_, custody.stopped⟩
    · change p.raw + (p.log ++ [RawOp.closed handle]).countP isReleased + p.uncounted = p.handles
      rw [List.countP_append]
      exact custody.raw
    · simp only [isReleased, Bool.false_eq_true, if_false] at dropped
      change p.within + p.ctrl.length + p.front.sup.order.length
        + (p.front.ops.drop (p.performed + 1)).countP isReleased + p.swallowed.length ≤ _
      unfold load at bounded
      omega
  | released handle =>
    have closed : .closed handle ∈ p.log := by
      have before := custody.ops ▸ next
      have earlier := closed_before shut before
      rw [← custody.ops] at earlier
      have counted := List.count_pos_iff.mpr earlier
      refine List.count_pos_iff.mp ?_
      rw [custody.log]
      omega
    simp only [isReleased, if_true] at dropped
    refine ⟨custody.standing, within_, custody.ops, custody.places, logged,
      closeFirst_released custody.closeFirst closed, ?_, ?_, custody.stopped⟩
    · change p.raw - 1 + (p.log ++ [RawOp.released handle]).countP isReleased + p.uncounted =
        p.handles
      have counted := custody.raw
      rw [List.countP_append]
      change p.raw - 1 + (p.log.countP isReleased + 1) + p.uncounted = p.handles
      have hold : p.uncounted ≤ p.held.length := by
        unfold uncounted held
        cases p.loop <;> simp
      omega
    · change p.within + p.ctrl.length + p.front.sup.order.length
        + (p.front.ops.drop (p.performed + 1)).countP isReleased + p.swallowed.length ≤ _
      unfold load at bounded
      omega

theorem moved_custody (custody : Custody p shut turned) (idle : p.Idle) {t : Front}
    {given shut' : List Nat} {ctrl : List (Nat × Bool)} (hands : Front.Hands p.front given t shut')
    (standing : t.Standing) (taken : p.ctrl.map Prod.fst = given ++ ctrl.map Prod.fst)
    (stopped : p.stopped = true → t.sup.terminal = true) :
    Custody { p with front := t, ctrl := ctrl } (shut ++ shut') turned := by
  have same : t.ops.take p.performed = p.front.ops.take p.performed := by
    rw [hands.ops]
    exact List.take_append_of_le_length custody.performed
  have sizes := hands.perm.length_eq
  have fewer := congrArg List.length taken
  simp only [List.length_append, List.length_map, Front.registered] at sizes fewer
  refine ⟨standing, ?_, ?_, fun h => ?_, fun op => ?_, custody.closeFirst, custody.raw, ?_, stopped⟩
  · change p.performed ≤ t.ops.length
    rw [hands.ops, List.length_append]
    exact custody.performed.trans (Nat.le_add_right _ _)
  · change t.ops = _
    rw [hands.ops, custody.ops, pairs_append]
  · have before := custody.places h
    have moves := hands.perm.count_eq h
    rw [taken] at before
    simp only [List.count_append] at before moves ⊢
    change p.held.count h + (ctrl.map Prod.fst).count h + t.registered.count h + _
      + p.swallowed.count h + turned.count h = if h < p.handles then 1 else 0
    omega
  · change p.log.count op = (t.ops.take p.performed).count op + _ + p.begun.count op
    rw [same]
    exact custody.log op
  · have before := custody.bounded
    unfold load at before
    change p.within + ctrl.length + t.sup.order.length
      + (t.ops.drop p.performed).countP isReleased + p.swallowed.length ≤ _
    have later : (t.ops.drop p.performed).countP isReleased = shut'.length := by
      rw [hands.ops, show p.performed = p.front.ops.length from idle, List.drop_left, countP_pairs]
    have nothing : (p.front.ops.drop p.performed).countP isReleased = 0 := by
      rw [show p.performed = p.front.ops.length from idle, List.drop_length]
      rfl
    omega

theorem swallow_custody (custody : Custody p shut turned) {handle : Nat} {halfCloses : Bool}
    {rest : List (Nat × Bool)} (waits : p.ctrl = (handle, halfCloses) :: rest) :
    Custody { p with ctrl := rest, swallowed := p.swallowed ++ [handle] } shut turned where
  standing := custody.standing
  performed := custody.performed
  ops := custody.ops
  places h := by
    have before := custody.places h
    rw [waits, List.map_cons] at before
    change p.held.count h + (rest.map Prod.fst).count h + p.front.registered.count h
      + shut.count h + (p.swallowed ++ [handle]).count h + turned.count h = _
    simp only [List.count_append, List.count_cons, List.count_nil] at before ⊢
    omega
  log := custody.log
  closeFirst := custody.closeFirst
  raw := custody.raw
  bounded := by
    have before := custody.bounded
    unfold load at before
    rw [waits, List.length_cons] at before
    change p.within + rest.length + p.front.sup.order.length
      + (p.front.ops.drop p.performed).countP isReleased + (p.swallowed ++ [handle]).length ≤ _
    rw [List.length_append, List.length_singleton]
    omega
  stopped := custody.stopped

theorem flush_prepared {s : Front} (tabled : s.sup.Tabled) (written : Bool) :
    s.Prepared (s.flush written) := by
  have first : s.Prepared { s with sup := { s.sup with controlUp := { s.sup.controlUp with
      busy := s.sup.controlUp.busy && !written } } } :=
    Front.prepared_sup tabled _ rfl rfl rfl rfl le_rfl fun _ => rfl
  exact first.trans (Front.pumpControlUp_prepared first.tabled)

theorem returned_custody (custody : Custody p shut turned) (idle : p.Idle)
    (serving : p.stopped = false) {t : Front} {given shut' : List Nat} {ctrl : List (Nat × Bool)}
    (hands : Front.Hands p.front given t shut') (standing : t.Standing)
    (taken : p.ctrl.map Prod.fst = given ++ ctrl.map Prod.fst) :
    ∃ shut turned, Custody { p with front := t, ctrl := ctrl } shut turned := by
  refine ⟨_, _, moved_custody custody idle hands standing taken fun stopped => ?_⟩
  rw [serving] at stopped
  cases stopped

theorem serving_of_running (custody : Custody p shut turned)
    (running : p.front.sup.terminal = false) : p.stopped = false := by
  cases stopped : p.stopped with
  | false => rfl
  | true =>
    rw [custody.stopped stopped] at running
    cases running

theorem step_custody (custody : Custody p shut turned) (act : Act) :
    ∃ shut turned, Custody (p.step act) shut turned := by
  have same : ∃ shut turned, Custody p shut turned := ⟨shut, turned, custody⟩
  cases act with
  | accept halfCloses =>
    dsimp only [step]
    split
    · rename_i accepting
      exact ⟨_, _, accept_custody custody accepting halfCloses⟩
    · exact same
  | acquire =>
    dsimp only [step]
    split
    · rename_i accepted
      exact ⟨_, _, acquire_custody custody accepted⟩
    · exact same
  | deliver =>
    dsimp only [step]
    split
    · rename_i admitted
      exact ⟨_, _, deliver_custody custody admitted⟩
    · exact same
  | reject =>
    dsimp only [step]
    split
    · rename_i admitted
      split
      · exact ⟨_, _, reject_custody custody admitted⟩
      · exact same
    · exact same
  | close =>
    dsimp only [step]
    split
    · rename_i closing
      exact ⟨_, _, close_custody custody closing⟩
    · exact same
  | release =>
    dsimp only [step]
    split
    · rename_i releasing
      exact ⟨_, _, release_custody custody releasing⟩
    · exact same
  | leave =>
    dsimp only [step]
    split
    · rename_i leaving
      exact ⟨_, _, leave_custody custody leaving.1⟩
    · exact same
  | perform =>
    dsimp only [step]
    split
    · exact same
    · rename_i next
      exact ⟨_, _, perform_custody custody next⟩
  | handle fuel event =>
    dsimp only [step]
    split
    · rename_i may
      obtain ⟨idle, serving, other, received⟩ := may
      unfold moved
      split
      · exact same
      · rename_i front returned
        obtain ⟨shut', hands⟩ := Front.handle_hands custody.standing received returned
        rw [if_pos other] at hands
        exact returned_custody custody idle serving hands
          (Front.handle_standing custody.standing received returned) rfl
    · exact same
  | take fuel =>
    dsimp only [step]
    split
    · exact same
    · rename_i handle halfCloses rest waits
      split
      · rename_i may
        obtain ⟨idle, running⟩ := may
        unfold moved
        split
        · exact same
        · rename_i front returned
          obtain ⟨shut', hands⟩ := Front.handle_hands custody.standing (.inl running) returned
          rw [if_neg (by simp [isOther])] at hands
          refine returned_custody custody idle (serving_of_running custody running) hands
            (Front.handle_standing custody.standing (.inl running) returned) ?_
          rw [waits]
          rfl
      · exact same
  | pump fuel =>
    dsimp only [step]
    split
    · rename_i may
      obtain ⟨idle, running⟩ := may
      unfold moved
      split
      · exact same
      · rename_i front returned
        have sheds := Front.pump_sheds custody.standing returned
        obtain ⟨shut', hands⟩ := sheds.hands custody.standing.tabled
        exact returned_custody custody idle (serving_of_running custody running) hands
          (sheds.standing custody.standing) rfl
    · exact same
  | flush written =>
    dsimp only [step]
    split
    · rename_i flushing
      obtain ⟨idle, ended, serving⟩ := flushing
      have sheds := (flush_prepared custody.standing.tabled written).sheds custody.standing.tabled
      obtain ⟨shut', hands⟩ := sheds.hands custody.standing.tabled
      exact returned_custody custody idle serving hands (sheds.standing custody.standing) rfl
    · exact same
  | swallow =>
    dsimp only [step]
    split
    · exact same
    · rename_i handle halfCloses rest waits
      split
      · exact ⟨_, _, swallow_custody custody waits⟩
      · exact same
  | stop =>
    dsimp only [step]
    split
    · rename_i flushing
      obtain ⟨idle, ended, serving⟩ := flushing
      have nobody := custody.standing.tabled.ended ended
      rw [Front.stopEverything_eq nobody]
      have standing : Front.Standing { p.front with timers := [] } :=
        ⟨custody.standing.tabled, custody.standing.bounded, fun id member => by cases member⟩
      have hands : Front.Hands p.front [] { p.front with timers := [] } [] :=
        ⟨by simp, by rw [List.append_nil]; rfl⟩
      have later := @moved_custody p shut turned custody idle _ [] [] p.ctrl hands standing
        rfl fun _ => ended
      exact ⟨_, _, later.standing, later.performed, later.ops, later.places, later.log,
        later.closeFirst, later.raw, later.bounded, fun _ => ended⟩
    · exact same

theorem start_custody (initialAdmissionEpoch : Nat) (timeoutRefusalBytes : List UInt8) :
    Custody (start initialAdmissionEpoch timeoutRefusalBytes) [] [] where
  standing := Front.start_standing initialAdmissionEpoch timeoutRefusalBytes
  performed := le_rfl
  ops := rfl
  places h := by
    change 0 = if h < 0 then 1 else 0
    rw [if_neg (Nat.not_lt_zero h)]
  log op := rfl
  closeFirst before h rest split := by simp [start] at split
  raw := rfl
  bounded := Nat.zero_le _
  stopped stopped := by cases stopped

/-! ## What the count is to mean -/

theorem countP_range (log : List RawOp) (n : Nat) (entry : Nat → RawOp) (kind : RawOp → Bool)
    (named : ∀ op, kind op = true ↔ ∃ h, op = entry h) (injective : Function.Injective entry)
    (once : ∀ h, log.count (entry h) ≤ 1) (below : ∀ h, entry h ∈ log → h < n) :
    (List.range n).countP (fun h => entry h ∈ log) = log.countP kind := by
  have perm : (((List.range n).map entry).filter fun op => op ∈ log).Perm (log.filter kind) := by
    refine (List.perm_ext_iff_of_nodup ?_ ?_).mpr fun op => ?_
    · exact (List.Nodup.map injective List.nodup_range).filter _
    · refine List.nodup_iff_count.mpr fun op => ?_
      by_cases kept : kind op = true
      · obtain ⟨h, rfl⟩ := (named op).mp kept
        exact (List.filter_sublist.count_le _).trans (once h)
      · have absent : op ∉ log.filter kind := fun member => kept (List.mem_filter.mp member).2
        rw [List.count_eq_zero_of_not_mem absent]
        exact Nat.zero_le 1
    · simp only [List.mem_filter, List.mem_map, List.mem_range, decide_eq_true_eq, named]
      constructor
      · rintro ⟨⟨h, -, rfl⟩, member⟩
        exact ⟨member, h, rfl⟩
      · rintro ⟨member, h, rfl⟩
        exact ⟨⟨h, below h member, rfl⟩, member⟩
  have sizes := perm.length_eq
  rw [← List.countP_eq_length_filter, ← List.countP_eq_length_filter, List.countP_map] at sizes
  exact sizes

theorem countP_split {l : List Nat} {a b : Nat → Prop} [DecidablePred a] [DecidablePred b]
    (with_ : ∀ h, b h → a h) :
    l.countP (fun h => a h) = l.countP (fun h => a h ∧ ¬b h) + l.countP (fun h => b h) := by
  induction l with
  | nil => rfl
  | cons h rest ih =>
    rw [List.countP_cons, List.countP_cons, List.countP_cons, ih]
    by_cases second : b h
    · have first := with_ h second
      simp only [first, second, not_true_eq_false, and_false, decide_true, decide_false, if_true,
        Bool.false_eq_true, if_false]
      omega
    · simp only [second, not_false_eq_true, and_true, decide_false, Bool.false_eq_true, if_false]
      omega

namespace Custody

section
variable (custody : Custody p shut turned)
include custody

theorem closed_count (h : Nat) :
    p.log.count (.closed h) ≤ shut.count h + turned.count h + p.held.count h := by
  have taken := custody.count_take (.closed h)
  have begins : p.begun.count (.closed h) ≤ p.held.count h := by
    unfold begun held
    cases p.loop <;> simp [List.count_singleton]
  rw [count_closed_pairs] at taken
  rw [custody.log, count_closed_pairs]
  omega

theorem released_count (h : Nat) : p.log.count (.released h) ≤ shut.count h + turned.count h := by
  have taken := custody.count_take (.released h)
  have begins : p.begun.count (.released h) = 0 := by
    unfold begun
    cases p.loop <;> simp
  rw [count_released_pairs] at taken
  rw [custody.log, count_released_pairs, begins]
  omega

theorem once (h : Nat) : p.log.count (.closed h) ≤ 1 ∧ p.log.count (.released h) ≤ 1 := by
  have places := custody.places h
  have closed := custody.closed_count h
  have released := custody.released_count h
  split_ifs at places <;> omega

theorem below {h : Nat} (closed : .closed h ∈ p.log) : h < p.handles := by
  by_contra beyond
  have places := custody.places h
  have counted := custody.closed_count h
  have positive := List.count_pos_iff.mpr closed
  rw [if_neg beyond] at places
  omega

theorem closed_of_released {h : Nat} (released : .released h ∈ p.log) : .closed h ∈ p.log := by
  obtain ⟨before, rest, split⟩ := List.append_of_mem released
  rw [split]
  exact List.mem_append_left _ (custody.closeFirst before h rest split)

theorem count : p.raw + p.uncounted = p.unclosed + p.unreleased := by
  have raw := custody.raw
  have released := countP_range p.log p.handles .released isReleased
    (fun op => by cases op <;> simp [isReleased]) (fun _ _ same => RawOp.released.inj same)
    (fun h => (custody.once h).2) fun h released => custody.below (custody.closed_of_released released)
  have whole := List.length_eq_countP_add_countP (fun h => decide (RawOp.closed h ∈ p.log))
    (l := List.range p.handles)
  rw [List.length_range] at whole
  have split := countP_split (l := List.range p.handles) (a := fun h => RawOp.closed h ∈ p.log)
    (b := fun h => RawOp.released h ∈ p.log) fun h => custody.closed_of_released
  have open_ : p.unclosed = (List.range p.handles).countP
      fun h => decide ¬decide (RawOp.closed h ∈ p.log) = true := by
    unfold unclosed
    simp only [decide_eq_true_eq]
  have gone : p.unreleased = (List.range p.handles).countP
      fun h => decide (RawOp.closed h ∈ p.log ∧ ¬RawOp.released h ∈ p.log) := rfl
  omega

theorem rests (rests : p.Rests) : p.raw = p.unclosed := by
  obtain ⟨idle, counted, released⟩ := rests
  have all : p.front.ops.take p.performed = pairs shut := by
    rw [show p.performed = p.front.ops.length from idle, List.take_length, custody.ops]
  have none_ : p.begun = [] := by
    unfold begun
    split
    · rename_i handle last releasing
      exact absurd releasing (released handle last)
    · rfl
  have zero : p.uncounted = 0 := by
    unfold uncounted
    split
    · rename_i handle halfCloses accepted
      exact absurd accepted (counted handle halfCloses)
    · rfl
  have nobody : p.unreleased = 0 := by
    refine List.countP_eq_zero.mpr fun h _ => ?_
    simp only [decide_eq_true_eq, not_and, not_not]
    intro closed
    have positive := List.count_pos_iff.mpr closed
    refine List.count_pos_iff.mp ?_
    rw [custody.log, all, none_, count_closed_pairs, count_closed_pairs] at positive
    rw [custody.log, all, none_, count_released_pairs, count_released_pairs]
    exact positive
  have counts := custody.count
  omega

theorem listed {id : Nat}
    (known : (p.front.sup.conns id).isSome ∨ id ∈ p.front.sup.order ∨ id ∈ p.front.timers) :
    p.front.wires id < p.handles ∧ .closed (p.front.wires id) ∉ p.log := by
  have tabled := custody.standing.tabled
  have order : id ∈ p.front.sup.order := by
    rcases known with known | listed | timed
    · exact (tabled.listed id).mpr known
    · exact listed
    · exact (Front.alive_iff_listed tabled id).mp (custody.standing.timers id timed)
  have registered : 0 < p.front.registered.count (p.front.wires id) :=
    List.count_pos_iff.mpr (List.mem_map_of_mem order)
  have places := custody.places (p.front.wires id)
  have closed := custody.closed_count (p.front.wires id)
  have within_ : p.front.wires id < p.handles := by
    by_contra beyond
    rw [if_neg beyond] at places
    omega
  rw [if_pos within_] at places
  refine ⟨within_, fun member => ?_⟩
  have positive := List.count_pos_iff.mpr member
  omega

end

end Custody

/-- No accepted handle is lost, and none waits for a front that has ended. -/
structure Kept (p : FrontProcess) : Prop where
  swallowed : p.swallowed = []
  waiting : p.front.sup.terminal = true → p.ctrl = []

theorem accounted (custody : Custody p shut turned) (kept : Kept p) : Accounted p where
  count := custody.count
  rests := custody.rests
  once := custody.once
  closeFirst := custody.closeFirst
  bounded := by
    have bounded := custody.bounded
    unfold load at bounded
    omega
  listed _ := custody.listed
  kept h accepted := by
    have places := custody.places h
    rw [if_pos accepted, kept.swallowed] at places
    by_cases closed : .closed h ∈ p.log
    · exact .inl closed
    refine .inr ?_
    have logged := custody.log (.closed h)
    rw [List.count_eq_zero_of_not_mem closed, count_closed_pairs] at logged
    rw [← List.count_pos_iff, ← List.count_pos_iff, ← List.count_pos_iff, ← List.count_pos_iff]
    have ops : (p.front.ops.take p.performed).count (.closed h)
        + (p.front.ops.drop p.performed).count (.closed h) = shut.count h := by
      rw [← List.count_append, List.take_append_drop, custody.ops, count_closed_pairs]
    cases ended : p.front.sup.terminal with
    | true =>
      rw [kept.waiting ended] at places ⊢
      simp only [List.map_nil, List.count_nil] at places
      omega
    | false =>
      simp only [List.count_nil] at places
      simp only [true_and]
      omega
  ended over' h accepted := by
    obtain ⟨idle, stopped, left⟩ := over'
    have ended := custody.stopped stopped
    have places := custody.places h
    have nobody : p.front.registered = [] := by
      unfold Front.registered
      rw [custody.standing.tabled.ended ended]
      rfl
    have held_ : p.held = [] := by simp only [held, left]
    have begun_ : p.begun = [] := by simp only [begun, left]
    have all : p.front.ops.take p.performed = pairs shut := by
      rw [show p.performed = p.front.ops.length from idle, List.take_length, custody.ops]
    rw [if_pos accepted, kept.swallowed, kept.waiting ended, nobody, held_] at places
    simp only [List.map_nil, List.count_nil] at places
    rw [custody.log, custody.log, all, begun_, count_closed_pairs, count_closed_pairs,
      count_released_pairs, count_released_pairs]
    simp only [List.count_nil]
    omega

/-! ## Every run -/

theorem moved_ctrl (p : FrontProcess) (front : Option Front) :
    (p.moved front p.ctrl).ctrl = p.ctrl ∧ (p.moved front p.ctrl).swallowed = p.swallowed := by
  cases front <;> exact ⟨rfl, rfl⟩

theorem step_kept (kept : Kept p) {act : Act} (quiet : p.Quiet act) : Kept (p.step act) := by
  have flushes : p.Flushing → p.ctrl = [] := fun flushing => kept.waiting flushing.2.1
  cases act with
  | accept halfCloses | acquire | close | release | leave =>
    dsimp only [step]
    split
    · exact ⟨kept.swallowed, kept.waiting⟩
    · exact kept
  | deliver =>
    have running : p.front.sup.terminal = false := quiet
    dsimp only [step]
    split
    · refine ⟨kept.swallowed, fun ended => ?_⟩
      change p.front.sup.terminal = true at ended
      rw [running] at ended
      cases ended
    · exact kept
  | reject =>
    dsimp only [step]
    split
    · split
      · exact ⟨kept.swallowed, kept.waiting⟩
      · exact kept
    · exact kept
  | perform =>
    dsimp only [step]
    split
    · exact kept
    · rename_i op next
      cases op <;> exact ⟨kept.swallowed, kept.waiting⟩
  | handle fuel event =>
    have quiet' : (p.step (.handle fuel event)).front.sup.terminal = true → p.ctrl = [] := quiet
    dsimp only [step] at quiet' ⊢
    split
    · rename_i may
      rw [if_pos may] at quiet'
      obtain ⟨ctrl, swallowed⟩ := moved_ctrl p (p.front.handle fuel 0 event)
      exact ⟨swallowed.trans kept.swallowed, fun ended => ctrl.trans (quiet' ended)⟩
    · exact kept
  | take fuel =>
    have quiet' : (p.step (.take fuel)).front.sup.terminal = true → p.ctrl.tail = [] := quiet
    dsimp only [step] at quiet' ⊢
    split
    · exact kept
    · rename_i handle halfCloses rest waits
      rw [waits] at quiet'
      dsimp only at quiet'
      split
      · rename_i may
        rw [if_pos may] at quiet'
        unfold moved at quiet' ⊢
        split
        · exact kept
        · rename_i front returned
          rw [returned] at quiet'
          exact ⟨kept.swallowed, quiet'⟩
      · exact kept
  | pump fuel =>
    have quiet' : (p.step (.pump fuel)).front.sup.terminal = true → p.ctrl = [] := quiet
    dsimp only [step] at quiet' ⊢
    split
    · rename_i may
      rw [if_pos may] at quiet'
      obtain ⟨ctrl, swallowed⟩ := moved_ctrl p (p.front.pump fuel)
      exact ⟨swallowed.trans kept.swallowed, fun ended => ctrl.trans (quiet' ended)⟩
    · exact kept
  | flush written | stop =>
    dsimp only [step]
    split
    · rename_i flushing
      exact ⟨kept.swallowed, fun _ => flushes flushing⟩
    · exact kept
  | swallow =>
    dsimp only [step]
    split
    · exact kept
    · rename_i handle halfCloses rest waits
      split
      · rename_i flushing
        rw [flushes flushing] at waits
        cases waits
      · exact kept

/-- Raw handle slots are neither leaked nor released early in a run in which no accepted handle is
in the channel when the front ends. -/
theorem slots_accounted {initialAdmissionEpoch : Nat} {timeoutRefusalBytes : List UInt8}
    {acts : List Act}
    (quiet : Along step Quiet (start initialAdmissionEpoch timeoutRefusalBytes) acts) :
    Accounted (run step (start initialAdmissionEpoch timeoutRefusalBytes) acts) := by
  have both : (∃ shut turned,
      Custody (run step (start initialAdmissionEpoch timeoutRefusalBytes) acts) shut turned) ∧
      Kept (run step (start initialAdmissionEpoch timeoutRefusalBytes) acts) := by
    refine Along.induction (motive := fun p => (∃ shut turned, Custody p shut turned) ∧ Kept p)
      (fun p act quiet holds => ?_) ?_ quiet
    · obtain ⟨⟨shut, turned, custody⟩, kept⟩ := holds
      exact ⟨step_custody custody act, step_kept kept quiet⟩
    · exact ⟨⟨[], [], start_custody _ _⟩, rfl, fun ended => by cases ended⟩
  obtain ⟨⟨shut, turned, custody⟩, kept⟩ := both
  exact accounted custody kept

/-- One handle is served and another turned away for having no half-close. -/
theorem slots_accounted_twice : Accounted (run step (start 0 [])
    [.accept true, .acquire, .deliver, .take 0, .accept false, .acquire, .deliver, .pump 0, .take 0,
      .perform, .perform, .perform, .perform, .flush true, .stop, .leave]) :=
  slots_accounted (by decide)

/-- A handle is in the channel when main closes its plane: nobody closes it. -/
theorem queued_handle_is_lost :
    let p := run step (start 0 [])
      [.accept true, .acquire, .deliver, .handle 0 .planeEOF, .swallow, .stop, .leave]
    (p.Over ∧ p.handles = 1 ∧ p.raw = 1 ∧ p.log = []) ∧ ¬Accounted p := by
  intro p
  have over' : p.Over := ⟨rfl, rfl, rfl⟩
  refine ⟨⟨over', rfl, rfl, rfl⟩, fun accounted => ?_⟩
  have closed := (accounted.ended over' 0 (Nat.lt_succ_self 0)).1
  cases closed

end FrontProcess

end Vex.Bridge
