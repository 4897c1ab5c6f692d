import Vex.Lighter.CapitalCommitments

/-!
# What healing does to a row

Healing is two statements for each of three kinds, but a row has one kind, so it
is touched by one pass. `healRow` is what that pass makes of it, and
`healCommitments_find?` says that the healed ledger holds exactly the rows so
changed. `Healed` is the inversion: the four things healing can have done to a
row, each with the evidence it was done on. The theorems about admission, about
settlement and about healing itself all read it.
-/

namespace Vex.Lighter.Capital

open Vex.Library

/-! ## The columns a change keeps -/

/-- Two versions of one commitment: what no transaction changes. -/
structure SameCommitment (row row' : Commitment) : Prop where
  commitmentId : row'.commitmentId = row.commitmentId
  environment : row'.environment = row.environment
  accountIndex : row'.accountIndex = row.accountIndex
  intentId : row'.intentId = row.intentId
  kind : row'.kind = row.kind
  admittedAt : row'.admittedAt = row.admittedAt

namespace SameCommitment

variable {row row' row'' : Commitment}

theorem refl (row : Commitment) : SameCommitment row row := ⟨rfl, rfl, rfl, rfl, rfl, rfl⟩

theorem trans (same : SameCommitment row row') (same' : SameCommitment row' row'') :
    SameCommitment row row'' :=
  ⟨same'.1.trans same.1, same'.2.trans same.2, same'.3.trans same.3, same'.4.trans same.4,
    same'.5.trans same.5, same'.6.trans same.6⟩

end SameCommitment

variable (row : Commitment)

theorem Commitment.same_stamp (now : Instant) : SameCommitment row (row.stamp now) := by
  unfold Commitment.stamp
  split
  · exact ⟨rfl, rfl, rfl, rfl, rfl, rfl⟩
  · exact .refl row

theorem Commitment.same_retire (now : Instant) (reason : JsString) :
    SameCommitment row (row.retire now reason) := ⟨rfl, rfl, rfl, rfl, rfl, rfl⟩

theorem Commitment.same_readmit (required : Nat) :
    SameCommitment row (row.readmit required) := ⟨rfl, rfl, rfl, rfl, rfl, rfl⟩

@[simp] theorem Commitment.state_stamp (now : Instant) : (row.stamp now).state = row.state := by
  unfold Commitment.stamp
  split <;> rfl

@[simp] theorem Commitment.requiredUnits_stamp (now : Instant) :
    (row.stamp now).requiredUnits = row.requiredUnits := by
  unfold Commitment.stamp
  split <;> rfl

@[simp] theorem Commitment.state_retire (now : Instant) (reason : JsString) :
    (row.retire now reason).state = .retired now reason := rfl

@[simp] theorem Commitment.liveOn_eq_true {row : Commitment} {environment : Environment}
    {accountIndex : Nat} : row.liveOn environment accountIndex = true ↔
      row.environment = environment ∧ row.accountIndex = accountIndex ∧ row.state = .live := by
  simp [Commitment.liveOn, and_assoc]

/-! ## The two statements -/

theorem stampWhere_ok {ledger ledger' : Ledger} {now : Instant} {stamps : Commitment → Bool}
    (stamped : stampWhere ledger now stamps = .ok ledger') :
    (∀ row ∈ ledger.rows, stamps row → row.admittedAt ≤ now) ∧ ∀ id, ledger'.find? id =
        (ledger.find? id).map fun row => if stamps row then row.stamp now else row := by
  unfold stampWhere at stamped
  split at stamped
  · rename_i allowed
    cases stamped
    refine ⟨?_, fun id => Table.find?_rewrite _ _ _ _⟩
    intro row member meets
    have := List.all_eq_true.mp allowed row member
    simpa [meets] using this
  · cases stamped

@[simp] theorem find?_retireWhere (ledger : Ledger) (now : Instant)
    (reason : Commitment → Option JsString) (id : IntentId) :
    (retireWhere ledger now reason).find? id =
      (ledger.find? id).map fun row => (reason row).elim row (row.retire now) :=
  Table.find?_rewrite _ _ _ _

/-! ## A pass on one row -/

namespace HealPass

variable {Intent : Type}

def stampRow (pass : HealPass Intent) (tables : IntentTables) (environment : Environment)
    (accountIndex : Nat) (now : Instant) (row : Commitment) : Commitment :=
  if pass.stamps tables environment accountIndex row then row.stamp now else row

def healRow (pass : HealPass Intent) (reads : HealReads) (environment : Environment)
    (accountIndex : Nat) (now : Instant) (row : Commitment) : Commitment :=
  let stamped := pass.stampRow reads.stamping environment accountIndex now row
  (pass.retireReason reads.retiring environment accountIndex now stamped).elim stamped
    (stamped.retire now)

variable {pass : HealPass Intent} {reads : HealReads} {environment : Environment}
  {accountIndex : Nat} {now : Instant}

theorem heal_ok {ledger ledger' : Ledger} {healed : List (IntentId × JsString)}
    (ran : pass.heal reads environment accountIndex now ledger = .ok (healed, ledger')) :
    (∀ row ∈ ledger.rows, pass.stamps reads.stamping environment accountIndex row →
      row.admittedAt ≤ now) ∧
    ∀ id, ledger'.find? id =
      (ledger.find? id).map (pass.healRow reads environment accountIndex now) := by
  obtain ⟨stamped, stamps, result⟩ := bind_eq_ok.mp ran
  cases result
  obtain ⟨allowed, found⟩ := stampWhere_ok stamps
  refine ⟨allowed, fun id => ?_⟩
  rw [find?_retireWhere, found, Option.map_map]
  rfl

@[simp] theorem kind_healRow (row : Commitment) :
    (pass.healRow reads environment accountIndex now row).kind = row.kind := by
  have kept : (pass.stampRow reads.stamping environment accountIndex now row).kind = row.kind := by
    unfold stampRow
    split
    · exact (row.same_stamp now).kind
    · rfl
  dsimp only [healRow]
  cases pass.retireReason reads.retiring environment accountIndex now _ with
  | none => exact kept
  | some reason => exact kept

theorem healRow_of_ne {row : Commitment} (other : row.kind ≠ pass.kind) :
    pass.healRow reads environment accountIndex now row = row := by
  have unstamped : pass.stampRow reads.stamping environment accountIndex now row = row := by
    simp [stampRow, stamps, other]
  simp [healRow, unstamped, retireReason, other]

end HealPass

/-! ## What healing can have done -/

def Kind.withPass (about : {Intent : Type} → HealPass Intent → Prop) : Kind → Prop
  | .create => about createPass
  | .modify => about modifyPass
  | .leverage => about leveragePass

/-- The intent of a row is recorded as settled at the provider. -/
def Commitment.settledIn (row : Commitment) (tables : IntentTables) : Prop :=
  row.kind.withPass fun pass =>
    ((pass.table tables row.intentId.val).bind pass.observed).isSome

/-- Phase two has a ground to retire a row. -/
def Commitment.retirable (row : Commitment) (tables : IntentTables) (now : Instant) : Prop :=
  row.kind.withPass fun pass => pass.retires now row (pass.table tables row.intentId.val)

/-- What healing makes of a row, with the evidence it acts on. -/
inductive Healed (reads : HealReads) (now : Instant) (row : Commitment) : Commitment → Prop where
  | kept : Healed reads now row row
  | stamped (live : row.state = .live) (unstamped : row.settledAt = none)
      (settled : row.settledIn reads.stamping) (after : row.admittedAt ≤ now) :
      Healed reads now row (row.stamp now)
  | retired (reason : JsString) (live : row.state = .live)
      (ground : row.retirable reads.retiring now) : Healed reads now row (row.retire now reason)
  | stampedAndRetired (reason : JsString) (live : row.state = .live)
      (unstamped : row.settledAt = none) (settled : row.settledIn reads.stamping)
      (after : row.admittedAt ≤ now) (ground : (row.stamp now).retirable reads.retiring now) :
      Healed reads now row ((row.stamp now).retire now reason)

theorem Healed.same {reads : HealReads} {now : Instant} {row row' : Commitment}
    (healed : Healed reads now row row') : SameCommitment row row' := by
  cases healed with
  | kept => exact .refl row
  | stamped => exact row.same_stamp now
  | retired reason => exact row.same_retire now reason
  | stampedAndRetired reason =>
    exact (row.same_stamp now).trans ((row.stamp now).same_retire now reason)

section Passes

variable {reads : HealReads} {environment : Environment} {accountIndex : Nat} {now : Instant}

theorem HealPass.retireReason_eq_some {Intent : Type} {pass : HealPass Intent}
    {tables : IntentTables} {row : Commitment} {reason : JsString} :
    pass.retireReason tables environment accountIndex now row = some reason ↔
      (row.liveOn environment accountIndex ∧ row.kind = pass.kind ∧
        pass.retires now row (pass.table tables row.intentId.val)) ∧
      pass.reason (pass.table tables row.intentId.val) = reason := by
  simp [HealPass.retireReason, and_assoc]

theorem HealPass.healed {Intent : Type} {pass : HealPass Intent} {row : Commitment}
    (own : ∀ about : {Intent : Type} → HealPass Intent → Prop, row.kind.withPass about ↔ about pass)
    (allowed : pass.stamps reads.stamping environment accountIndex row → row.admittedAt ≤ now) :
    Healed reads now row (pass.healRow reads environment accountIndex now row) := by
  have own_stamp : ∀ about : {Intent : Type} → HealPass Intent → Prop,
      (row.stamp now).kind.withPass about ↔ about pass := by
    rwa [(row.same_stamp now).kind]
  dsimp only [healRow, stampRow]
  by_cases stamps : pass.stamps reads.stamping environment accountIndex row
  · have after := allowed stamps
    rw [if_pos stamps]
    simp only [HealPass.stamps, Bool.and_eq_true, Commitment.liveOn_eq_true,
      decide_eq_true_eq] at stamps
    obtain ⟨⟨⟨⟨-, -, live⟩, -⟩, unstamped⟩, observed⟩ := stamps
    have settled : row.settledIn reads.stamping := (own _).mpr observed
    cases retires : pass.retireReason reads.retiring _ _ now (row.stamp now) with
    | none => exact .stamped live unstamped settled after
    | some reason =>
      obtain ⟨⟨-, -, ground⟩, -⟩ := retireReason_eq_some.mp retires
      exact .stampedAndRetired reason live unstamped settled after ((own_stamp _).mpr ground)
  · rw [if_neg stamps]
    cases retires : pass.retireReason reads.retiring environment accountIndex now row with
    | none => exact .kept
    | some reason =>
      obtain ⟨⟨live, -, ground⟩, -⟩ := retireReason_eq_some.mp retires
      exact .retired reason (Commitment.liveOn_eq_true.mp live).2.2 ((own _).mpr ground)

end Passes

/-- What the three passes make of a row: only the one of its kind touches it. -/
def healRow (reads : HealReads) (environment : Environment) (accountIndex : Nat) (now : Instant)
    (row : Commitment) : Commitment :=
  match row.kind with
  | .create => createPass.healRow reads environment accountIndex now row
  | .modify => modifyPass.healRow reads environment accountIndex now row
  | .leverage => leveragePass.healRow reads environment accountIndex now row

section Commitments

variable {reads : HealReads} {environment : Environment} {accountIndex : Nat} {now : Instant}
  {ledger ledger' : Ledger} {healed : List (IntentId × JsString)}

theorem HealPass.heal_other {Intent : Type} {pass : HealPass Intent} {row : Commitment}
    (ran : pass.heal reads environment accountIndex now ledger = .ok (healed, ledger'))
    (member : row ∈ ledger.rows) (other : row.kind ≠ pass.kind) : row ∈ ledger'.rows := by
  have found : ledger'.find? row.intentId = some row := by
    rw [(heal_ok ran).2, Table.find?_eq_some.mpr ⟨member, rfl⟩, Option.map_some,
      healRow_of_ne other]
  exact (Table.find?_eq_some.mp found).1

theorem healCommitments_ok
    (ran : healCommitments reads environment accountIndex now ledger = .ok (healed, ledger')) :
    (∀ id, ledger'.find? id = (ledger.find? id).map (healRow reads environment accountIndex now)) ∧
    ∀ row ∈ ledger.rows, Healed reads now row (healRow reads environment accountIndex now row) := by
  unfold healCommitments at ran
  obtain ⟨⟨_, created⟩, create, ran⟩ := bind_eq_ok.mp ran
  obtain ⟨⟨_, modified⟩, modify, ran⟩ := bind_eq_ok.mp ran
  obtain ⟨⟨_, leveraged⟩, leverage, ran⟩ := bind_eq_ok.mp ran
  cases ran
  constructor
  · intro id
    rw [(HealPass.heal_ok leverage).2, (HealPass.heal_ok modify).2, (HealPass.heal_ok create).2,
      Option.map_map, Option.map_map]
    refine congrArg (Option.map · _) (funext fun row => ?_)
    simp only [Function.comp_apply, healRow]
    cases kind : row.kind with
    | create =>
      rw [modifyPass.healRow_of_ne (by simp [kind, modifyPass]),
        leveragePass.healRow_of_ne (by simp [kind, leveragePass])]
    | modify =>
      rw [createPass.healRow_of_ne (by simp [kind, createPass]),
        leveragePass.healRow_of_ne (by simp [kind, leveragePass])]
    | leverage =>
      rw [createPass.healRow_of_ne (by simp [kind, createPass]),
        modifyPass.healRow_of_ne (by simp [kind, modifyPass])]
  · intro row member
    unfold healRow
    cases kind : row.kind with
    | create =>
      exact HealPass.healed (fun about => by simp [kind, Kind.withPass])
        ((HealPass.heal_ok create).1 row member)
    | modify =>
      have member' := HealPass.heal_other create member (by simp [kind, createPass])
      exact HealPass.healed (fun about => by simp [kind, Kind.withPass])
        ((HealPass.heal_ok modify).1 row member')
    | leverage =>
      have member' := HealPass.heal_other create member (by simp [kind, createPass])
      have member'' := HealPass.heal_other modify member' (by simp [kind, modifyPass])
      exact HealPass.healed (fun about => by simp [kind, Kind.withPass])
        ((HealPass.heal_ok leverage).1 row member'')

end Commitments

/-! ## What healing leaves to be summed -/

section Sums

variable {Intent : Type} {pass : HealPass Intent} {reads : HealReads} {environment : Environment}
  {accountIndex : Nat} {now : Instant} {ledger ledger' : Ledger}
  {healed : List (IntentId × JsString)}

theorem rows_stampWhere {stamps : Commitment → Bool}
    (stamped : stampWhere ledger now stamps = .ok ledger') :
    ledger'.rows = ledger.rows.map fun row => if stamps row then row.stamp now else row := by
  unfold stampWhere at stamped
  split at stamped
  · cases stamped
    rfl
  · cases stamped

namespace HealPass

theorem healRow_spec (row : Commitment) :
    SameCommitment row (pass.healRow reads environment accountIndex now row) ∧
      (pass.healRow reads environment accountIndex now row).requiredUnits = row.requiredUnits ∧
      ((pass.healRow reads environment accountIndex now row).state = .live →
        row.state = .live) := by
  have stamped : SameCommitment row (pass.stampRow reads.stamping environment accountIndex now row) ∧
      (pass.stampRow reads.stamping environment accountIndex now row).requiredUnits =
        row.requiredUnits ∧
      (pass.stampRow reads.stamping environment accountIndex now row).state = row.state := by
    unfold stampRow
    split
    · exact ⟨row.same_stamp now, row.requiredUnits_stamp now, row.state_stamp now⟩
    · exact ⟨.refl row, rfl, rfl⟩
  obtain ⟨same, units, state⟩ := stamped
  dsimp only [healRow]
  cases pass.retireReason reads.retiring environment accountIndex now _ with
  | none => exact ⟨same, units, fun live => state.symm.trans live⟩
  | some reason => exact ⟨same.trans (Commitment.same_retire _ now reason), units, by simp⟩

theorem heal_rows
    (ran : pass.heal reads environment accountIndex now ledger = .ok (healed, ledger')) :
    ledger'.rows = ledger.rows.map (pass.healRow reads environment accountIndex now) ∧
      (healed = [] → ∀ row ∈ ledger.rows,
        (pass.healRow reads environment accountIndex now row).state = row.state) := by
  obtain ⟨stamped, stamps, result⟩ := bind_eq_ok.mp ran
  have rows := rows_stampWhere stamps
  cases result
  constructor
  · change stamped.rows.map _ = _
    rw [rows, List.map_map]
    rfl
  · intro none_ row member
    have member' : pass.stampRow reads.stamping environment accountIndex now row ∈
        stamped.rows := by
      rw [rows]
      exact List.mem_map_of_mem member
    have kept := List.filterMap_eq_nil_iff.mp none_ _ member'
    rw [Option.map_eq_none_iff] at kept
    rw [healRow, kept, Option.elim_none, stampRow]
    split
    · exact row.state_stamp now
    · rfl

theorem heal_of_past (past : ∀ row ∈ ledger.rows, row.admittedAt ≤ now) :
    ∃ healed ledger', pass.heal reads environment accountIndex now ledger = .ok (healed, ledger') ∧
      ∀ row ∈ ledger'.rows, row.admittedAt ≤ now := by
  have stamps : ∃ stamped, stampWhere ledger now
      (pass.stamps reads.stamping environment accountIndex) = .ok stamped := by
    unfold stampWhere
    rw [if_pos (List.all_eq_true.mpr fun row member => by simp [past row member])]
    exact ⟨_, rfl⟩
  obtain ⟨stamped, stamps⟩ := stamps
  have ran : pass.heal reads environment accountIndex now ledger = .ok _ :=
    bind_eq_ok.mpr ⟨stamped, stamps, rfl⟩
  refine ⟨_, _, ran, ?_⟩
  rw [(heal_rows ran).1]
  intro row' member
  obtain ⟨row, memberOf, rfl⟩ := List.mem_map.mp member
  rw [(healRow_spec row).1.admittedAt]
  exact past row memberOf

end HealPass

theorem healCommitments_of_past (past : ∀ row ∈ ledger.rows, row.admittedAt ≤ now) :
    ∃ healed ledger', healCommitments reads environment accountIndex now ledger =
      .ok (healed, ledger') := by
  obtain ⟨_, created, create, past⟩ := createPass.heal_of_past past
  obtain ⟨_, modified, modify, past⟩ := modifyPass.heal_of_past past
  obtain ⟨_, leveraged, leverage, -⟩ := leveragePass.heal_of_past past
  exact ⟨_, _, bind_eq_ok.mpr ⟨_, create, bind_eq_ok.mpr ⟨_, modify,
    bind_eq_ok.mpr ⟨_, leverage, rfl⟩⟩⟩⟩

theorem counted_eq {intentId : IntentId} {exclude : Option JsString} {row row' : Commitment}
    (same : SameCommitment row row') :
    counted environment accountIndex intentId exclude row' =
      (decide (row'.state = .live) && (row.environment = environment &&
        row.accountIndex = accountIndex && row.intentId ≠ intentId &&
        exclude.all fun excluded => row.intentId.val ≠ excluded)) := by
  rw [counted, Commitment.liveOn, same.environment, same.accountIndex, same.intentId]
  cases decide (row'.state = .live) <;> simp

theorem total_heal {Intent : Type} {pass : HealPass Intent} (environment' : Environment)
    (accountIndex' : Nat) (intentId : IntentId) (exclude : Option JsString)
    (ran : pass.heal reads environment accountIndex now ledger = .ok (healed, ledger')) :
    let sum (ledger : Ledger) := ledger.total (counted environment' accountIndex' intentId exclude)
      Commitment.requiredUnits
    sum ledger' ≤ sum ledger ∧ (healed = [] → sum ledger' = sum ledger) := by
  obtain ⟨rows, retired⟩ := HealPass.heal_rows ran
  dsimp only [Table.total]
  rw [rows]
  constructor
  · refine Table.total_map_le (fun row _ counts => ?_) fun row _ => (HealPass.healRow_spec row).2.1
    rw [counted_eq (HealPass.healRow_spec row).1, Bool.and_eq_true, decide_eq_true_eq] at counts
    rw [counted_eq (.refl row), Bool.and_eq_true, decide_eq_true_eq]
    exact ⟨(HealPass.healRow_spec row).2.2 counts.1, counts.2⟩
  · intro none_
    refine Table.total_map_eq (fun row member => ?_) fun row _ => (HealPass.healRow_spec row).2.1
    rw [counted_eq (HealPass.healRow_spec row).1, counted_eq (.refl row), retired none_ row member]

theorem total_healCommitments (environment' : Environment) (accountIndex' : Nat)
    (intentId : IntentId) (exclude : Option JsString)
    (ran : healCommitments reads environment accountIndex now ledger = .ok (healed, ledger')) :
    let sum (ledger : Ledger) := ledger.total (counted environment' accountIndex' intentId exclude)
      Commitment.requiredUnits
    sum ledger' ≤ sum ledger ∧ (healed = [] → sum ledger' = sum ledger) := by
  obtain ⟨⟨created, _⟩, create, ran⟩ := bind_eq_ok.mp ran
  obtain ⟨⟨modified, _⟩, modify, ran⟩ := bind_eq_ok.mp ran
  obtain ⟨⟨leveraged, _⟩, leverage, ran⟩ := bind_eq_ok.mp ran
  cases ran
  obtain ⟨created_le, created_eq⟩ := total_heal environment' accountIndex' intentId exclude create
  obtain ⟨modified_le, modified_eq⟩ :=
    total_heal environment' accountIndex' intentId exclude modify
  obtain ⟨leveraged_le, leveraged_eq⟩ :=
    total_heal environment' accountIndex' intentId exclude leverage
  refine ⟨leveraged_le.trans (modified_le.trans created_le), fun none_ => ?_⟩
  rw [List.append_eq_nil_iff, List.append_eq_nil_iff] at none_
  obtain ⟨⟨noneCreated, noneModified⟩, noneLeveraged⟩ := none_
  exact (leveraged_eq noneLeveraged).trans
    ((modified_eq noneModified).trans (created_eq noneCreated))

end Sums

end Vex.Lighter.Capital
