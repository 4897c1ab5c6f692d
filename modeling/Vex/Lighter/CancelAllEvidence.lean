import Vex.Lighter.StreamEvidence

/-!
# When a cancel-all is complete

A target is confirmed by a frame whose first row of it is terminal. The ids stored
with the intent are those of the targets some frame has confirmed, whatever the
order and the repetition of the frames (`Tracks`), and none is ever lost
(`confirmedIds_subset_run`).

The ids alone are counted. So the intent is completed with the last of its targets
where no two of them share an id (`Tracks.completed_iff`), and two targets of one
id in two markets are never both counted (`one_id_never_completes`).
-/

namespace Vex.Lighter.StreamEvidence

open Vex.Library Vex.Library.JsString

variable {reader : Reader} {intent : Intent}

/-! ## Observations -/

def ordersOf : Message → List AccountOrder
  | .orders orders => flattenOrders orders
  | _ => []

/-- The first row a frame has of a target is terminal. -/
def Confirms (reader : Reader) (intent : Intent) (message : Message) (target : Target) : Prop :=
  ∃ order, (ordersOf message).find? (names intent target) = some order
    ∧ isTerminalStatus reader order.status = true

/-- A frame has a terminal row of a target. -/
def Shows (reader : Reader) (intent : Intent) (message : Message) (target : Target) : Prop :=
  ∃ order ∈ ordersOf message, names intent target order = true
    ∧ isTerminalStatus reader order.status = true

instance (message : Message) (target : Target) : Decidable (Shows reader intent message target) := by
  unfold Shows
  exact inferInstance

/-- Some frame has shown a target terminal. -/
def Observed (reader : Reader) (intent : Intent) (frames : List Message) (target : Target) : Prop :=
  ∃ message ∈ frames, Shows reader intent message target

theorem Confirms.shows {message : Message} {target : Target}
    (confirms : Confirms reader intent message target) : Shows reader intent message target := by
  obtain ⟨order, found, terminal⟩ := confirms
  exact ⟨order, List.mem_of_find?_eq_some found, List.find?_some found, terminal⟩

theorem orderId_of_names {target : Target} {order : AccountOrder}
    (named : names intent target order = true) : order.orderId.1 = target.orderId := by
  simp only [names, Bool.and_eq_true, decide_eq_true_eq] at named
  exact named.2

def confirmedIds (watched : Watched) : List IntegerString :=
  (previousLifecycleEvidence watched.outcome).terminalOrderIds.getD []

def terminalRows (watched : Watched) : List OrderEvidence :=
  (previousLifecycleEvidence watched.outcome).terminalOrders.getD []

/-! ## Sets of ids -/

theorem mem_addId {ids : List IntegerString} {id other : IntegerString} :
    other ∈ addId ids id ↔ other ∈ ids ∨ other = id := by
  unfold addId
  split_ifs with present
  · exact ⟨Or.inl, fun either => either.elim (fun inside => inside) fun same => same ▸ present⟩
  · simp

theorem nodup_addId {ids : List IntegerString} (nodup : ids.Nodup) (id : IntegerString) :
    (addId ids id).Nodup := by
  unfold addId
  split_ifs with present
  · exact nodup
  · exact List.nodup_append.2 ⟨nodup, List.nodup_singleton id, by
      rintro other inside _ same rfl
      exact present (List.mem_singleton.1 same ▸ inside)⟩

theorem mem_foldl_addId {new ids : List IntegerString} {other : IntegerString} :
    other ∈ new.foldl addId ids ↔ other ∈ ids ∨ other ∈ new := by
  induction new generalizing ids with
  | nil => simp
  | cons id new ih => rw [List.foldl_cons, ih, mem_addId, List.mem_cons, or_assoc]

theorem nodup_foldl_addId {new ids : List IntegerString} (nodup : ids.Nodup) :
    (new.foldl addId ids).Nodup := by
  induction new generalizing ids with
  | nil => exact nodup
  | cons id new ih => exact ih (nodup_addId nodup id)

theorem mem_keys_setEntry {entries : List OrderEvidence} {entry : OrderEvidence}
    {id : IntegerString} :
    id ∈ (setEntry entries entry).map (·.orderId)
      ↔ id ∈ entries.map (·.orderId) ∨ id = entry.orderId := by
  unfold setEntry
  split_ifs with present
  · have keys : (entries.map fun other => if other.orderId = entry.orderId then entry else other).map
        (·.orderId) = entries.map (·.orderId) := by
      rw [List.map_map]
      refine List.map_congr_left fun other _ => ?_
      show (if other.orderId = entry.orderId then entry else other).orderId = other.orderId
      split_ifs with same
      · exact same.symm
      · rfl
    rw [keys]
    obtain ⟨other, inside, same⟩ := List.any_eq_true.1 present
    refine ⟨Or.inl, fun either => either.elim (fun inside => inside) ?_⟩
    rintro rfl
    exact List.mem_map.2 ⟨other, inside, of_decide_eq_true same⟩
  · simp

theorem mem_keys_foldl_setEntry {new entries : List OrderEvidence} {id : IntegerString} :
    id ∈ (new.foldl setEntry entries).map (·.orderId)
      ↔ id ∈ entries.map (·.orderId) ∨ id ∈ new.map (·.orderId) := by
  induction new generalizing entries with
  | nil => simp
  | cons entry new ih => rw [List.foldl_cons, ih, mem_keys_setEntry, List.map_cons, List.mem_cons,
      or_assoc]

/-! ## One frame -/

structure Confirming.Extends (c before : Confirming) (confirmed : IntegerString → Prop) : Prop where
  ids : ∀ id, id ∈ c.confirmedIds ↔ id ∈ before.confirmedIds ∨ confirmed id
  keys : ∀ id, id ∈ c.terminal.map (·.orderId) ↔ id ∈ before.terminal.map (·.orderId) ∨ confirmed id
  matched : c.matched = true ↔ before.matched = true ∨ ∃ id, confirmed id
  nodup : before.confirmedIds.Nodup → c.confirmedIds.Nodup

/-- The targets a frame confirms, by their ids. -/
def confirmedBy (reader : Reader) (intent : Intent) (message : Message) (targets : List Target)
    (id : IntegerString) : Prop :=
  ∃ target ∈ targets, id.1 = target.orderId ∧ Confirms reader intent message target

theorem confirmTarget_extends (message : Message) (c : Confirming) (target : Target) :
    (confirmTarget reader intent (ordersOf message) c target).Extends c
      (confirmedBy reader intent message [target]) := by
  have none' : ¬Confirms reader intent message target →
      c.Extends c (confirmedBy reader intent message [target]) := by
    intro unconfirmed
    have nobody : ∀ id, ¬confirmedBy reader intent message [target] id := by
      rintro id ⟨other, member, -, confirms⟩
      obtain rfl := List.mem_singleton.1 member
      exact unconfirmed confirms
    exact ⟨fun id => by simp [nobody], fun id => by simp [nobody], by simp [nobody], id⟩
  unfold confirmTarget
  split
  · rename_i missing
    refine none' ?_
    rintro ⟨order, found, -⟩
    rw [missing] at found
    cases found
  · rename_i order found
    by_cases terminal : isTerminalStatus reader order.status = true
    · rw [if_pos terminal]
      have named := orderId_of_names (List.find?_some found)
      have one : ∀ id, confirmedBy reader intent message [target] id ↔ id = order.orderId := by
        intro id
        constructor
        · rintro ⟨other, member, same, -⟩
          obtain rfl := List.mem_singleton.1 member
          exact Subtype.ext (same.trans named.symm)
        · rintro rfl
          exact ⟨target, List.mem_singleton.2 rfl, named, order, found, terminal⟩
      refine ⟨fun id => ?_, fun id => ?_, ?_, fun nodup => nodup_addId nodup _⟩
      · rw [one, mem_addId]
      · rw [one, mem_keys_setEntry]
        rfl
      · exact ⟨fun _ => Or.inr ⟨_, (one _).2 rfl⟩, fun _ => rfl⟩
    · rw [if_neg terminal]
      refine none' ?_
      rintro ⟨other, found', terminal'⟩
      rw [found] at found'
      obtain rfl := Option.some.inj found'
      exact terminal terminal'

theorem foldl_confirmTarget_extends (message : Message) (targets : List Target) (c : Confirming) :
    (targets.foldl (confirmTarget reader intent (ordersOf message)) c).Extends c
      (confirmedBy reader intent message targets) := by
  induction targets generalizing c with
  | nil =>
    have nobody : ∀ id, ¬confirmedBy reader intent message [] id := by
      rintro id ⟨target, member, -⟩
      cases member
    exact ⟨fun id => by simp [nobody], fun id => by simp [nobody], by simp [nobody], id⟩
  | cons target targets ih =>
    have first := @confirmTarget_extends reader intent message c target
    have rest := ih (confirmTarget reader intent (ordersOf message) c target)
    have split : ∀ id, confirmedBy reader intent message (target :: targets) id
        ↔ confirmedBy reader intent message [target] id
          ∨ confirmedBy reader intent message targets id := by
      intro id
      unfold confirmedBy
      rw [List.exists_mem_cons_iff]
      simp
    refine ⟨fun id => ?_, fun id => ?_, ?_, fun nodup => rest.nodup (first.nodup nodup)⟩
    · rw [List.foldl_cons, rest.ids, first.ids, split, or_assoc]
    · rw [List.foldl_cons, rest.keys, first.keys, split, or_assoc]
    · rw [List.foldl_cons, rest.matched, first.matched, or_assoc]
      refine or_congr_right ?_
      rw [← exists_or]
      exact exists_congr fun id => (split id).symm

theorem confirmingOf_spec (previous : Evidence) (rows : ∀ row ∈ previous.terminalOrders.getD [],
      row.orderId ∈ previous.terminalOrderIds.getD []) :
    (∀ id, id ∈ (confirmingOf previous).confirmedIds ↔ id ∈ previous.terminalOrderIds.getD [])
      ∧ (∀ id ∈ (confirmingOf previous).terminal.map (·.orderId),
          id ∈ previous.terminalOrderIds.getD [])
      ∧ (confirmingOf previous).confirmedIds.Nodup ∧ (confirmingOf previous).matched = false := by
  have keys : ∀ id ∈ (confirmingOf previous).terminal.map (·.orderId),
      id ∈ previous.terminalOrderIds.getD [] := by
    intro id member
    rcases mem_keys_foldl_setEntry.1 member with nothing | kept
    · cases nothing
    · obtain ⟨row, inside, rfl⟩ := List.mem_map.1 kept
      exact rows row (List.mem_of_mem_take inside)
  refine ⟨fun id => ?_, keys, nodup_foldl_addId (nodup_foldl_addId List.nodup_nil), rfl⟩
  show id ∈ List.foldl addId (List.foldl addId [] (previous.terminalOrderIds.getD []))
    ((confirmingOf previous).terminal.map (·.orderId)) ↔ _
  rw [mem_foldl_addId, mem_foldl_addId]
  constructor
  · rintro ((nothing | stored) | key)
    · cases nothing
    · exact stored
    · exact keys id key
  · exact fun stored => Or.inl (Or.inr stored)

theorem cancelAllOutcome_spec {message : Message} {previous : Evidence}
    (rows : ∀ row ∈ previous.terminalOrders.getD [],
      row.orderId ∈ previous.terminalOrderIds.getD []) :
    match cancelAllOutcome reader intent message (ordersOf message) previous with
    | none => ∀ target ∈ intent.approvedCancelAllTargets, ¬Confirms reader intent message target
    | some (state, evidence) =>
      (∀ id, id ∈ evidence.terminalOrderIds.getD [] ↔ id ∈ previous.terminalOrderIds.getD []
        ∨ confirmedBy reader intent message intent.approvedCancelAllTargets id)
      ∧ (evidence.terminalOrderIds.getD []).Nodup
      ∧ (∀ row ∈ evidence.terminalOrders.getD [], row.orderId ∈ evidence.terminalOrderIds.getD [])
      ∧ state = if intent.approvedCancelAllTargets.length
          ≤ (evidence.terminalOrderIds.getD []).length then .completed else .sequencerPending := by
  obtain ⟨ids, keys, nodup, unmatched⟩ := confirmingOf_spec previous rows
  have extended := @foldl_confirmTarget_extends reader intent message
    intent.approvedCancelAllTargets (confirmingOf previous)
  unfold cancelAllOutcome
  dsimp only
  generalize intent.approvedCancelAllTargets.foldl
    (confirmTarget reader intent (ordersOf message)) (confirmingOf previous) = c at extended
  cases matched : c.matched with
  | false =>
    rw [if_pos rfl]
    intro target member confirms
    obtain ⟨order, found, -⟩ := id confirms
    have some' := extended.matched.2 (Or.inr ⟨order.orderId, target, member,
      orderId_of_names (List.find?_some found), confirms⟩)
    rw [matched] at some'
    cases some'
  | true =>
    rw [if_neg Bool.noConfusion]
    have sorted : (sortBy compareUnits c.confirmedIds).Perm c.confirmedIds :=
      List.perm_insertionSort _ _
    refine ⟨fun id => ?_, ?_, ?_, ?_⟩
    · rw [Option.getD_some, sorted.mem_iff, extended.ids, ids]
    · rw [Option.getD_some]
      exact sorted.nodup_iff.2 (extended.nodup nodup)
    · intro row member
      have kept := mem_sortBy.1 (List.mem_of_mem_drop member)
      rw [Option.getD_some, sorted.mem_iff, extended.ids, ids]
      exact ((extended.keys row.orderId).1 (List.mem_map_of_mem kept)).imp_left (keys _)
    · rw [Option.getD_some, sorted.length_eq]

/-! ## All frames -/

/-- Before the first frame the intent is open and the stream has stored nothing. -/
structure Watched.Fresh (watched : Watched) : Prop where
  open' : isWatchable watched.state = true
  unseen : previousLifecycleEvidence watched.outcome = {}

/-- What holds of a cancel-all after the frames it has taken in. -/
structure Tracks (reader : Reader) (intent : Intent) (followed : Followed) : Prop where
  ids : ∀ id, id ∈ confirmedIds followed.watched ↔ ∃ target ∈ intent.approvedCancelAllTargets,
    id.1 = target.orderId ∧ ∃ message ∈ followed.taken, Confirms reader intent message target
  nodup : (confirmedIds followed.watched).Nodup
  rows : ∀ row ∈ terminalRows followed.watched, row.orderId ∈ confirmedIds followed.watched
  completed : followed.watched.state = .completed
    ↔ intent.approvedCancelAllTargets.length ≤ (confirmedIds followed.watched).length
  open' : followed.watched.state ≠ .completed → isWatchable followed.watched.state = true

theorem Tracks.fresh {watched : Watched} (fresh : watched.Fresh)
    (some' : intent.approvedCancelAllTargets ≠ []) : Tracks reader intent ⟨watched, []⟩ := by
  have none' : confirmedIds watched = [] := by rw [confirmedIds, fresh.unseen]; rfl
  have notCompleted : watched.state ≠ .completed := by
    intro completed
    have open' := fresh.open'
    rw [completed] at open'
    cases open'
  refine ⟨fun id => ?_, ?_, ?_, ?_, fun _ => fresh.open'⟩
  · simp [none']
  · rw [none']
    exact List.nodup_nil
  · rw [terminalRows, fresh.unseen]
    simp
  · rw [none']
    exact iff_of_false notCompleted (by simpa using some')

theorem Tracks.counted {followed : Followed} (tracks : Tracks reader intent followed)
    (apart : (intent.approvedCancelAllTargets.map (·.orderId)).Nodup) :
    intent.approvedCancelAllTargets.length ≤ (confirmedIds followed.watched).length
      ↔ ∀ target ∈ intent.approvedCancelAllTargets,
          ∃ message ∈ followed.taken, Confirms reader intent message target := by
  classical
  have perm : ((confirmedIds followed.watched).map (·.1)).Perm
      ((intent.approvedCancelAllTargets.filter fun target =>
        ∃ message ∈ followed.taken, Confirms reader intent message target).map (·.orderId)) := by
    refine (List.perm_ext_iff_of_nodup ?_ ?_).2 fun text => ?_
    · exact tracks.nodup.map Subtype.val_injective
    · exact (List.filter_sublist.map _).nodup apart
    · rw [List.mem_map, List.mem_map]
      constructor
      · rintro ⟨id, member, rfl⟩
        obtain ⟨target, among, same, confirmed⟩ := (tracks.ids id).1 member
        exact ⟨target, List.mem_filter.2 ⟨among, by simpa using confirmed⟩, same.symm⟩
      · rintro ⟨target, member, rfl⟩
        obtain ⟨among, confirmed⟩ := List.mem_filter.1 member
        have confirmed : ∃ message ∈ followed.taken, Confirms reader intent message target := by
          simpa using confirmed
        obtain ⟨message, taken, order, found, terminal⟩ := confirmed
        have named := orderId_of_names (List.find?_some found)
        exact ⟨order.orderId, (tracks.ids _).2
          ⟨target, among, named, message, taken, order, found, terminal⟩, named⟩
  have length := perm.length_eq
  rw [List.length_map, List.length_map] at length
  rw [length]
  have within := List.length_filter_le (fun target : Target =>
    decide (∃ message ∈ followed.taken, Confirms reader intent message target))
    intent.approvedCancelAllTargets
  constructor
  · intro all target member
    have whole := List.length_filter_eq_length_iff.1 (le_antisymm within all) target member
    exact of_decide_eq_true whole
  · intro every
    exact (List.length_filter_eq_length_iff.2 fun target member =>
      decide_eq_true (every target member)).ge

section Steps

variable (isCancelAll : intent.actionType = .cancelAll)

include isCancelAll

theorem lifecycleOutcome_cancelAll (previous : Evidence) (message : Message) :
    lifecycleOutcome reader intent previous message = match message with
        | .orders _ => cancelAllOutcome reader intent message (ordersOf message) previous
        | _ => none := by
  cases message with
  | orders orders => rw [lifecycleOutcome, lifecycleOrderOutcome, if_pos isCancelAll]; rfl
  | trades subscribed trades | positions subscribed positions =>
    rw [lifecycleOutcome, if_pos (by rw [isCancelAll]; exact fun same => nomatch same)]

/-- A frame that reaches an open cancel-all leaves it as it is, confirming no target, or stores
the ids stored before and those of the targets it confirms. -/
theorem receive_cases {watched next : Watched} {message : Message}
    (rows : ∀ row ∈ terminalRows watched, row.orderId ∈ confirmedIds watched)
    (received : watched.receive reader intent message = some next)
    (open' : isWatchable watched.state = true) :
    (next = watched
      ∧ ∀ target ∈ intent.approvedCancelAllTargets, ¬Confirms reader intent message target)
    ∨ ((∀ id, id ∈ confirmedIds next ↔ id ∈ confirmedIds watched
          ∨ confirmedBy reader intent message intent.approvedCancelAllTargets id)
        ∧ (confirmedIds next).Nodup
        ∧ (∀ row ∈ terminalRows next, row.orderId ∈ confirmedIds next)
        ∧ next.state = if intent.approvedCancelAllTargets.length ≤ (confirmedIds next).length
            then .completed else .sequencerPending) := by
  unfold Watched.receive at received
  rw [if_neg (by simp [open']), lifecycleOutcome_cancelAll isCancelAll] at received
  cases message with
  | orders orders =>
    have spec := @cancelAllOutcome_spec reader intent (.orders orders)
      (previousLifecycleEvidence watched.outcome) rows
    dsimp only at received
    cases outcome : cancelAllOutcome reader intent (.orders orders) (ordersOf (.orders orders))
      (previousLifecycleEvidence watched.outcome) with
    | none =>
      rw [outcome] at received spec
      exact Or.inl ⟨(Option.some.inj received).symm, spec⟩
    | some result =>
      obtain ⟨state, evidence⟩ := result
      rw [outcome] at received spec
      have stored : next = ⟨state.executionState, some (.stream evidence)⟩ := by
        dsimp only at received
        split_ifs at received with same
        · rw [← Option.some.inj received]
          obtain ⟨sameEvidence, sameState⟩ := same
          cases watched
          exact congrArg₂ Watched.mk sameState sameEvidence
        · exact (Option.some.inj received).symm
      obtain ⟨ids, nodup, kept, decided⟩ := spec
      subst stored
      refine Or.inr ⟨ids, nodup, kept, ?_⟩
      show state.executionState = _
      rw [decided, apply_ite LifecycleIntents.OutcomeState.executionState]
      rfl
  | trades subscribed trades | positions subscribed positions =>
    refine Or.inl ⟨(Option.some.inj received).symm, ?_⟩
    rintro target - ⟨order, found, -⟩
    cases found

variable (apart : (intent.approvedCancelAllTargets.map (·.orderId)).Nodup)

include apart

theorem Tracks.step {followed : Followed} (tracks : Tracks reader intent followed)
    (message : Message) : Tracks reader intent (followed.step reader intent message) := by
  unfold Followed.step
  cases received : followed.watched.receive reader intent message with
  | none => exact tracks
  | some next =>
    dsimp only
    -- the frame adds nothing to what is confirmed already
    have same (every : ∀ target ∈ intent.approvedCancelAllTargets,
          Confirms reader intent message target →
            ∃ earlier ∈ followed.taken, Confirms reader intent earlier target) :
        Tracks reader intent ⟨followed.watched, followed.taken ++ [message]⟩ := by
      refine ⟨fun id => ?_, tracks.nodup, tracks.rows, tracks.completed, tracks.open'⟩
      rw [tracks.ids]
      refine exists_congr fun target => and_congr_right fun member => and_congr_right fun _ => ?_
      constructor
      · rintro ⟨earlier, taken, confirms⟩
        exact ⟨earlier, List.mem_append_left _ taken, confirms⟩
      · rintro ⟨earlier, taken, confirms⟩
        rcases List.mem_append.1 taken with before | now
        · exact ⟨earlier, before, confirms⟩
        · obtain rfl := List.mem_singleton.1 now
          exact every target member confirms
    by_cases done : followed.watched.state = .completed
    · have kept : next = followed.watched := by
        rw [Watched.receive, if_pos (by rw [done]; rfl)] at received
        exact (Option.some.inj received).symm
      rw [kept]
      exact same fun target member _ =>
        (tracks.counted apart).1 (tracks.completed.1 done) target member
    · rcases receive_cases isCancelAll tracks.rows received (tracks.open' done) with
        ⟨kept, nobody⟩ | ⟨ids, nodup, rows, state⟩
      · rw [kept]
        exact same fun target member confirms => absurd confirms (nobody target member)
      · refine ⟨fun id => ?_, nodup, rows, ?_, ?_⟩
        · show id ∈ confirmedIds next ↔ _
          rw [ids, tracks.ids]
          constructor
          · rintro (⟨target, member, named, earlier, taken, confirms⟩ | ⟨target, member, named,
              confirms⟩)
            · exact ⟨target, member, named, earlier, List.mem_append_left _ taken, confirms⟩
            · exact ⟨target, member, named, message, List.mem_append_right _ (by simp), confirms⟩
          · rintro ⟨target, member, named, earlier, taken, confirms⟩
            rcases List.mem_append.1 taken with before | now
            · exact Or.inl ⟨target, member, named, earlier, before, confirms⟩
            · obtain rfl := List.mem_singleton.1 now
              exact Or.inr ⟨target, member, named, confirms⟩
        · show next.state = _ ↔ _
          rw [state]
          split_ifs with all
          · exact iff_of_true rfl all
          · exact iff_of_false (fun completed => nomatch completed) all
        · intro notCompleted
          have state' : next.state = .sequencerPending := by
            rw [state] at notCompleted ⊢
            split_ifs at notCompleted ⊢ with all
            · exact absurd rfl notCompleted
            · rfl
          show isWatchable next.state = true
          rw [state']
          rfl

end Steps

/-! ## Runs -/

/-- The frames that reach an intent, one after another. -/
def follow (reader : Reader) (intent : Intent) (start : Watched) (messages : List Message) :
    Followed :=
  run (Followed.step reader intent) ⟨start, []⟩ messages

theorem taken_step (followed : Followed) (message : Message) :
    (followed.step reader intent message).taken = followed.taken
      ∨ (followed.step reader intent message).taken = followed.taken ++ [message] := by
  unfold Followed.step
  cases followed.watched.receive reader intent message with
  | none => exact Or.inl rfl
  | some next => exact Or.inr rfl

theorem taken_subset_run (followed : Followed) (messages : List Message) :
    followed.taken ⊆ (run (Followed.step reader intent) followed messages).taken := by
  refine @run_relates _ _ (Followed.step reader intent)
    (fun before after => before.taken ⊆ after.taken) (fun _ => List.Subset.refl _)
    (fun _ _ _ first second => List.Subset.trans first second) ?_ followed messages
  intro before message
  rcases @taken_step reader intent before message with same | more
  · show before.taken ⊆ _
    rw [same]
    exact List.Subset.refl _
  · show before.taken ⊆ _
    rw [more]
    exact List.subset_append_left _ _

theorem mem_of_mem_taken {followed : Followed} {messages : List Message} {message : Message}
    (taken : message ∈ (run (Followed.step reader intent) followed messages).taken) :
    message ∈ followed.taken ∨ message ∈ messages := by
  induction messages generalizing followed with
  | nil => exact Or.inl taken
  | cons first messages ih =>
    rcases ih taken with before | later
    · rcases @taken_step reader intent followed first with same | more
      · rw [same] at before
        exact Or.inl before
      · rw [more] at before
        rcases List.mem_append.1 before with before | now
        · exact Or.inl before
        · exact Or.inr (List.mem_singleton.1 now ▸ List.mem_cons_self)
    · exact Or.inr (List.mem_cons_of_mem _ later)

/-- No row of a target that is open stands in a frame before one that is terminal. -/
def TerminalFirst (reader : Reader) (intent : Intent) (message : Message) : Prop :=
  ∀ target ∈ intent.approvedCancelAllTargets, Shows reader intent message target →
    Confirms reader intent message target

/-- A cancel-all of at least one target and of no two with one id, where no frame has an open row
of a target before a terminal one: after any frames it is completed exactly when every target has
been observed terminal, the stored ids are those of the targets so observed, each in its own
market, and later frames lose none of them. -/
theorem cancelAll_completed_iff (isCancelAll : intent.actionType = .cancelAll)
    (some' : intent.approvedCancelAllTargets ≠ [])
    (apart : (intent.approvedCancelAllTargets.map (·.orderId)).Nodup)
    {start : Watched} (fresh : start.Fresh) (messages : List Message)
    (terminalFirst : ∀ message ∈ messages, TerminalFirst reader intent message) :
    ((follow reader intent start messages).watched.state = .completed
      ↔ ∀ target ∈ intent.approvedCancelAllTargets,
          Observed reader intent (follow reader intent start messages).taken target)
    ∧ (∀ id, id ∈ confirmedIds (follow reader intent start messages).watched
      ↔ ∃ target ∈ intent.approvedCancelAllTargets, id.1 = target.orderId
          ∧ Observed reader intent (follow reader intent start messages).taken target)
    ∧ (∀ target ∈ intent.approvedCancelAllTargets,
        (∃ id ∈ confirmedIds (follow reader intent start messages).watched, id.1 = target.orderId)
          ↔ Observed reader intent (follow reader intent start messages).taken target)
    ∧ ∀ more, confirmedIds (follow reader intent start messages).watched
        ⊆ confirmedIds (follow reader intent start (messages ++ more)).watched := by
  have along (frames : List Message) : Tracks reader intent (follow reader intent start frames) :=
    run_induction (fun _ message tracks => tracks.step isCancelAll apart message)
      (Tracks.fresh fresh some') frames
  have tracks := along messages
  have observed : ∀ target ∈ intent.approvedCancelAllTargets,
      (∃ message ∈ (follow reader intent start messages).taken, Confirms reader intent message target)
        ↔ Observed reader intent (follow reader intent start messages).taken target := by
    intro target member
    refine exists_congr fun message => and_congr_right fun taken => ⟨Confirms.shows, ?_⟩
    rcases mem_of_mem_taken taken with nothing | came
    · cases nothing
    · exact terminalFirst message came target member
  have ids : ∀ id, id ∈ confirmedIds (follow reader intent start messages).watched
      ↔ ∃ target ∈ intent.approvedCancelAllTargets, id.1 = target.orderId
        ∧ Observed reader intent (follow reader intent start messages).taken target := by
    intro id
    rw [tracks.ids]
    exact exists_congr fun target => and_congr_right fun member =>
      and_congr_right fun _ => observed target member
  refine ⟨?_, ids, ?_, ?_⟩
  · rw [tracks.completed, tracks.counted apart]
    exact forall_congr' fun target => forall_congr' fun member => observed target member
  · intro target member
    constructor
    · rintro ⟨id, confirmed, named⟩
      obtain ⟨other, among, named', seen⟩ := (ids id).1 confirmed
      have same : other = target :=
        List.inj_on_of_nodup_map apart among member (named'.symm.trans named)
      exact same ▸ seen
    · intro seen
      obtain ⟨message, taken, order, found, terminal⟩ := (observed target member).2 seen
      have named := orderId_of_names (List.find?_some found)
      exact ⟨order.orderId, (ids _).2 ⟨target, member, named, seen⟩, named⟩
  · intro more id confirmed
    obtain ⟨target, member, named, message, taken, confirms⟩ := (tracks.ids id).1 confirmed
    have later : message ∈ (follow reader intent start (messages ++ more)).taken := by
      rw [follow, run_append]
      exact taken_subset_run _ more taken
    exact ((along (messages ++ more)).ids id).2 ⟨target, member, named, message, later, confirms⟩

/-! ## Two orders -/

/-- A reader that lowers ASCII letters and stores any evidence. -/
def plainReader : Reader := ⟨LowerCase.ascii, id, fun _ => true⟩

def canceledOrder (orderId : IntegerString) (marketIndex : Int) : AccountOrder where
  orderId
  clientOrderId := ⟨"9", by decide⟩
  marketIndex
  ownerAccountIndex := 42
  status := some "canceled"
  initialBaseAmount := "1"
  remainingBaseAmount := none
  filledBaseAmount := none
  filledQuoteAmount := none
  price := "50"

def cancelAllOf (targets : List Target) : Intent where
  actionType := .cancelAll
  accountIndex := 42
  marketIndex := none
  providerOrderId := none
  matchHash := "b"
  requestedSide := none
  requestedBaseAmountInteger := none
  requestedPriceInteger := none
  approvedCancelAllTargets := targets
  initialPosition := none
  initialSign := none
  marketSizeDecimals := none
  marketPriceDecimals := none

/-- Order 5 of market 0 and order 6 of market 1, each cancelled in a frame of its own. -/
def twoFrames : List Message :=
  [.orders [("0", [canceledOrder ⟨"5", by decide⟩ 0])],
    .orders [("1", [canceledOrder ⟨"6", by decide⟩ 1])]]

instance (message : Message) (target : Target) : Decidable (Confirms reader intent message target) :=
  decidable_of_iff (((ordersOf message).find? (names intent target)).any
      fun order => isTerminalStatus reader order.status) (by
    unfold Confirms
    rw [Option.any_eq_true_iff_get]
    constructor
    · rintro ⟨present, terminal⟩
      exact ⟨_, (Option.some_get present).symm, terminal⟩
    · rintro ⟨order, found, terminal⟩
      refine ⟨by rw [found]; rfl, ?_⟩
      simpa only [found, Option.get_some] using terminal)

theorem cancelAll_completed_iff_two :
    (follow plainReader (cancelAllOf [⟨"5", 0⟩, ⟨"6", 1⟩]) ⟨.apiAccepted, none⟩
      twoFrames).watched.state = .completed
    ↔ ∀ target ∈ (cancelAllOf [⟨"5", 0⟩, ⟨"6", 1⟩]).approvedCancelAllTargets,
      Observed plainReader (cancelAllOf [⟨"5", 0⟩, ⟨"6", 1⟩])
        (follow plainReader (cancelAllOf [⟨"5", 0⟩, ⟨"6", 1⟩]) ⟨.apiAccepted, none⟩
          twoFrames).taken target :=
  (cancelAll_completed_iff rfl (by decide) (by decide) ⟨rfl, rfl⟩ twoFrames
    (by unfold TerminalFirst; decide)).1

/-- Order 5 of market 0 and order 5 of market 1 are both observed cancelled, and the intent stays
open; with the first alone, the id of the second is confirmed already. -/
theorem one_id_never_completes :
    (∀ target ∈ (cancelAllOf [⟨"5", 0⟩, ⟨"5", 1⟩]).approvedCancelAllTargets,
        Shows plainReader (cancelAllOf [⟨"5", 0⟩, ⟨"5", 1⟩])
          (.orders [("0", [canceledOrder ⟨"5", by decide⟩ 0]),
            ("1", [canceledOrder ⟨"5", by decide⟩ 1])]) target)
      ∧ (follow plainReader (cancelAllOf [⟨"5", 0⟩, ⟨"5", 1⟩]) ⟨.apiAccepted, none⟩
          [.orders [("0", [canceledOrder ⟨"5", by decide⟩ 0]),
            ("1", [canceledOrder ⟨"5", by decide⟩ 1])]]).watched.state = .sequencerPending
      ∧ confirmedIds (follow plainReader (cancelAllOf [⟨"5", 0⟩, ⟨"5", 1⟩]) ⟨.apiAccepted, none⟩
          [.orders [("0", [canceledOrder ⟨"5", by decide⟩ 0])]]).watched = [⟨"5", by decide⟩] := by
  decide

end Vex.Lighter.StreamEvidence
