import Vex.Evm.NonceReservations
import Vex.Library.Turns
import Mathlib.GroupTheory.GroupAction.Ring

/-!
# Repair workers are disjoint, fenced and served in order

In every run from the empty table a reservation is in the hands of one worker
at a time, a worker whose token is not the row's writes nothing, then or later,
and a terminal row stays as it is.

A due row is claimed in its turn: each claim that passes it over takes a full
page of rows from in front of it, and no row gets in front of it. A row would,
if a claim on it ran out before its worker wrote: a row that was checked before
keeps its place in the queue while it is claimed.
-/

namespace Vex.Evm.NonceReservations

open Vex.Library
open Vex.Wallet (Instant)

/-! ## What an act does to the rows -/

variable {now : Instant} {intervalMs : Nat} {row : Reservation}

variable {limit : Nat} {locked : List Nat} {table : Table Reservation.id}

theorem mem_candidates (chosen : row ∈ candidates now limit intervalMs locked table) :
    row ∈ table.rows ∧ due now row intervalMs = true ∧ row.id ∉ locked := by
  have sorted := List.mem_of_mem_take chosen
  rw [List.mem_insertionSort, List.mem_filter] at sorted
  exact ⟨sorted.1, of_decide_eq_true sorted.2⟩

theorem candidates_nodup (now : Instant) (limit intervalMs : Nat) (locked : List Nat)
    (table : Table Reservation.id) :
    ((candidates now limit intervalMs locked table).map Reservation.id).Nodup := by
  have all := (table.unique.sublist (List.filter_sublist.map Reservation.id) :
    ((table.rows.filter fun row => due now row intervalMs ∧ row.id ∉ locked).map
      Reservation.id).Nodup)
  have sorted := ((List.perm_insertionSort (servedBefore · ·) (table.rows.filter fun row =>
    due now row intervalMs ∧ row.id ∉ locked)).map Reservation.id).nodup_iff.2 all
  exact sorted.sublist ((List.take_sublist _ _).map Reservation.id)

variable {s : State}

theorem mem_takes {act : Act} (taken : row ∈ act.takes s) :
    row ∈ s.table.rows ∧ ∃ intervalMs, due s.now row intervalMs = true := by
  cases act with
  | claimDueEvmNonceReservations limit leaseMs intervalMs locked =>
    simp only [Act.takes] at taken
    split at taken
    · exact ⟨(mem_candidates taken).1, intervalMs, (mem_candidates taken).2.1⟩
    · cases taken
  | tick | reserveLegacyEvmNonce | abandon | stageLegacyEvmNonce | markLegacyEvmNonceAccepted
  | terminalizeLegacyEvmNonce | terminalizeClaimedEvmNonceReservation
  | rotateInconclusiveEvmNonceReservation => cases taken

theorem takes_nodup (s : State) (act : Act) : ((act.takes s).map Reservation.id).Nodup := by
  cases act with
  | claimDueEvmNonceReservations limit leaseMs intervalMs locked =>
    simp only [Act.takes]
    split
    · exact candidates_nodup _ _ _ _ _
    · exact List.nodup_nil
  | tick | reserveLegacyEvmNonce | abandon | stageLegacyEvmNonce | markLegacyEvmNonceAccepted
  | terminalizeLegacyEvmNonce | terminalizeClaimedEvmNonceReservation
  | rotateInconclusiveEvmNonceReservation => exact List.nodup_nil

theorem watched_of_due (isDue : due now row intervalMs = true) :
    watched row = true := (of_decide_eq_true isDue).1

theorem watched_status (isWatched : watched row = true) :
    row.status = .staged ∨ row.status = .accepted := (of_decide_eq_true isWatched).1

variable {a : Act}

theorem claimRow_cases (member : row ∈ s.table.rows) :
    (claimRow s.now a.leaseMs s.minted (a.takes s) row = row ∧ row ∉ a.takes s) ∨
      ∃ position, (a.takes s)[position]? = some row ∧
        claimRow s.now a.leaseMs s.minted (a.takes s) row =
          claimedWith s.now a.leaseMs (s.minted + position) row := by
  unfold claimRow
  split
  case h_1 position found =>
    obtain ⟨bound, same, -⟩ := List.findIdx?_eq_some_iff_getElem.1 found
    -- the candidate at the position is a row of the table with this id, so it is this row
    have taken := (mem_takes (List.getElem_mem bound)).1
    have itself := Table.eq_of_key taken member (of_decide_eq_true same)
    exact .inr ⟨position, by rw [List.getElem?_eq_getElem bound, itself], rfl⟩
  case h_2 missing =>
    refine .inl ⟨rfl, fun taken => ?_⟩
    simpa using List.findIdx?_eq_none_iff.1 missing row taken

variable {row' : Reservation}

theorem takes_of_onRow (s : State) {act : Act} (matched : act.onRow now row = some row') :
    act.takes s = [] := by
  cases act with
  | claimDueEvmNonceReservations => cases matched
  | tick | reserveLegacyEvmNonce | abandon | stageLegacyEvmNonce | markLegacyEvmNonceAccepted
  | terminalizeLegacyEvmNonce | terminalizeClaimedEvmNonceReservation
  | rotateInconclusiveEvmNonceReservation => rfl

theorem position_unique {act : Act} {position position' : Nat}
    (taken : (act.takes s)[position]? = some row) (taken' : (act.takes s)[position']? = some row')
    (same : row.id = row'.id) : position = position' := by
  refine (List.getElem?_inj ?_ (takes_nodup s act)).1 ?_
  · rw [List.length_map]
    exact (List.getElem?_eq_some_iff.1 taken).1
  · rw [List.getElem?_map, List.getElem?_map, taken, taken', Option.map_some, Option.map_some, same]

theorem rowStep_cases (member : row ∈ s.table.rows) : (a.rowStep s row = row ∧ row ∉ a.takes s) ∨
      (a.takes s = [] ∧ RowMove s.now a row (a.rowStep s row)) ∨
      ∃ position, (a.takes s)[position]? = some row ∧
        a.rowStep s row = claimedWith s.now a.leaseMs (s.minted + position) row := by
  rw [Act.rowStep]
  cases matched : a.onRow s.now row with
  | some row' => exact .inr (.inl ⟨takes_of_onRow s matched, onRow_moves matched⟩)
  | none =>
    rcases claimRow_cases (a := a) member with same | taken
    · exact .inl same
    · exact .inr (.inr taken)

theorem step_cases (s : State) (act : Act) :
    (∃ ms : Nat, act = .tick ms ∧ step s act = { s with now := s.now + ms }) ∨
    (∃ chainId nonce fromAddress, act = .reserveLegacyEvmNonce chainId nonce fromAddress ∧
      step s act = { s with
        table := s.table.put (reservedRow s.now s.nextId chainId nonce fromAddress)
        nextId := s.nextId + 1 }) ∨
    step s act = { s with
        table := s.table.rewrite (act.rowStep s) (act.rowStep_id s)
        minted := s.minted + (act.takes s).length
        held := (s.held.filter fun grant =>
          act.presents ≠ some (grant.id, grant.claim.token)) ++ act.grants s } := by
  cases act with
  | tick ms => exact .inl ⟨ms, rfl, rfl⟩
  | reserveLegacyEvmNonce chainId nonce fromAddress =>
    exact .inr (.inl ⟨chainId, nonce, fromAddress, rfl, rfl⟩)
  | abandon | stageLegacyEvmNonce | markLegacyEvmNonceAccepted | terminalizeLegacyEvmNonce
  | claimDueEvmNonceReservations | terminalizeClaimedEvmNonceReservation
  | rotateInconclusiveEvmNonceReservation => exact .inr (.inr rfl)

/-! ## What holds in every run -/

/-- What holds of the rows: their ids were given out, and a row that is only reserved was
never checked nor claimed. -/
structure Kept (s : State) : Prop where
  ids : ∀ row ∈ s.table.rows, row.id < s.nextId
  reserved : ∀ row ∈ s.table.rows, row.status = .reserved →
    row.lastCheckedAt = none ∧ row.repairClaim = none

variable (start : Instant)

theorem kept_initial : Kept (initial start) :=
  ⟨fun _ member => (nomatch member), fun _ member => (nomatch member)⟩

theorem kept_step (s : State) (act : Act) (kept : Kept s) : Kept (step s act) := by
  rcases step_cases s act with ⟨ms, -, stepped⟩ | ⟨chainId, nonce, fromAddress, -, stepped⟩ | stepped
  · rw [stepped]
    exact ⟨kept.ids, kept.reserved⟩
  · rw [stepped]
    refine ⟨fun row member => ?_, fun row member isReserved => ?_⟩
    · rcases Table.mem_put.1 member with rfl | ⟨own, -⟩
      · exact Nat.lt_succ_self _
      · exact Nat.lt_succ_of_lt (kept.ids row own)
    · rcases Table.mem_put.1 member with rfl | ⟨own, -⟩
      · exact ⟨rfl, rfl⟩
      · exact kept.reserved row own isReserved
  · rw [stepped]
    refine ⟨fun row member => ?_, fun row member isReserved => ?_⟩
    · obtain ⟨own, inRows, rfl⟩ := List.mem_map.1 member
      rw [act.rowStep_id]
      exact kept.ids own inRows
    · obtain ⟨own, inRows, rfl⟩ := List.mem_map.1 member
      rcases rowStep_cases (a := act) inRows with ⟨same, -⟩ | ⟨-, moves⟩ | ⟨position, taken, claimed⟩
      · rw [same] at isReserved ⊢
        exact kept.reserved own inRows isReserved
      · cases moves with
        | unsigned _ status =>
          rcases status with status | status
          · rw [status] at isReserved; cases isReserved
          · rw [status] at isReserved; cases isReserved
        | accepted _ _ written => rw [written] at isReserved; cases isReserved
        | ended _ status => rw [status] at isReserved; cases isReserved
        | rotated isWatched status =>
          rw [status] at isReserved
          rcases watched_status isWatched with staged | accepted
          · rw [staged] at isReserved; cases isReserved
          · rw [accepted] at isReserved; cases isReserved
      · obtain ⟨-, _, isDue⟩ := mem_takes (List.mem_of_getElem? taken)
        rw [claimed] at isReserved
        rcases watched_status (watched_of_due isDue) with staged | accepted
        · cases staged.symm.trans isReserved
        · cases accepted.symm.trans isReserved

theorem kept_run (acts : List Act) : Kept (run step (initial start) acts) :=
  run_induction kept_step (kept_initial start) acts

theorem rowStep_of_none {act : Act} (row : Reservation) (unmatched : act.onRow s.now row = none)
    (nothing : act.takes s = []) : act.rowStep s row = row := by
  rw [Act.rowStep, unmatched, nothing]
  rfl

theorem rowStep_mem (kept : Kept s) (act : Act) (member : row ∈ s.table.rows) :
    act.rowStep s row ∈ (step s act).table.rows := by
  cases act with
  | tick ms =>
    rw [rowStep_of_none row rfl rfl]
    exact member
  | reserveLegacyEvmNonce chainId nonce fromAddress =>
    rw [rowStep_of_none row rfl rfl]
    exact Table.mem_put.2 (.inr ⟨member, Nat.ne_of_lt (kept.ids row member)⟩)
  | abandon | stageLegacyEvmNonce | markLegacyEvmNonceAccepted | terminalizeLegacyEvmNonce
  | claimDueEvmNonceReservations | terminalizeClaimedEvmNonceReservation
  | rotateInconclusiveEvmNonceReservation => exact List.mem_map_of_mem member

/-! ## A terminal row stays as it is -/

theorem rowStep_of_terminal (act : Act) (member : row ∈ s.table.rows)
    (terminal : row.status = .terminal) : act.rowStep s row = row := by
  have notWatched (isWatched : watched row = true) : False := by
    rcases watched_status isWatched with status | status <;> cases terminal.symm.trans status
  rcases rowStep_cases (a := act) member with ⟨same, -⟩ | ⟨-, moves⟩ | ⟨position, taken, -⟩
  · exact same
  · cases moves with
    | unsigned reserved => cases terminal.symm.trans reserved
    | ended isWatched | rotated isWatched => exact (notWatched isWatched).elim
    | accepted staged => cases terminal.symm.trans staged
  · obtain ⟨-, _, isDue⟩ := mem_takes (List.mem_of_getElem? taken)
    exact (notWatched (watched_of_due isDue)).elim

theorem terminal_stays (kept : Kept s) (member : row ∈ s.table.rows)
    (terminal : row.status = .terminal) (acts : List Act) : row ∈ (run step s acts).table.rows := by
  induction acts generalizing s with
  | nil => exact member
  | cons act acts ih =>
    refine ih (kept_step s act kept) ?_
    have stays := rowStep_mem kept act member
    rwa [rowStep_of_terminal act member terminal] at stays

/-! ## A late worker writes nothing -/

def tokenOf (s : State) (id : Nat) : Option ClaimToken :=
  ((s.table.find? id).bind Reservation.repairClaim).map RepairClaim.token

def fencing : Fencing State Act Nat := ⟨step, tokenOf, State.minted⟩

theorem rewrite_eq_self {key : Reservation → Nat} {table : Table key}
    {change : Reservation → Reservation} {keeps : ∀ row, key (change row) = key row}
    (same : ∀ row ∈ table.rows, change row = row) : table.rewrite change keeps = table := by
  cases table with
  | mk rows unique =>
    have rowsSame : rows.map change = rows := by
      rw [List.map_congr_left same, List.map_id']
    simp only [Table.rewrite, rowsSame]

variable {id : Nat} {claimToken : ClaimToken}

theorem stale_writes_nothing {act : Act} (presents : act.presents = some (id, claimToken))
    (stale : tokenOf s id ≠ some claimToken) : (step s act).table = s.table := by
  have rows : (step s act).table = s.table.rewrite (act.rowStep s) (act.rowStep_id s) := by
    cases act with
    | terminalizeClaimedEvmNonceReservation | rotateInconclusiveEvmNonceReservation => rfl
    | tick | reserveLegacyEvmNonce | abandon | stageLegacyEvmNonce | markLegacyEvmNonceAccepted
    | terminalizeLegacyEvmNonce | claimDueEvmNonceReservations => cases presents
  have nothing : act.takes s = [] := by
    cases act with
    | claimDueEvmNonceReservations => cases presents
    | tick | reserveLegacyEvmNonce | abandon | stageLegacyEvmNonce | markLegacyEvmNonceAccepted
    | terminalizeLegacyEvmNonce | terminalizeClaimedEvmNonceReservation
    | rotateInconclusiveEvmNonceReservation => rfl
  rw [rows]
  refine rewrite_eq_self fun row member => ?_
  have mine (same : row.id = id) : row.repairClaim.map RepairClaim.token = tokenOf s id := by
    rw [tokenOf, Table.find?_eq_some.2 ⟨member, same⟩]
    rfl
  cases matched : act.onRow s.now row with
  | none => exact rowStep_of_none row matched nothing
  | some row' =>
    cases onRow_moves matched with
    | unsigned _ _ _ _ _ _ presented => rw [presents] at presented; cases presented
    | accepted staged act_eq => rw [act_eq] at presents; cases presents
    | ended _ _ _ _ under =>
      rcases under with rfl | ⟨token, presented, current⟩
      · cases presents
      · rw [presents] at presented
        cases presented
        exact absurd ((mine rfl).symm.trans current) stale
    | rotated _ _ _ _ _ token presented current =>
      rw [presents] at presented
      cases presented
      exact absurd ((mine rfl).symm.trans current) stale

theorem fencing_lawful (s : State) (act : Act) : fencing.Law s act := by
  have tokenOf_some {s : State} {id : Nat} {row : Reservation}
      (found : s.table.find? id = some row) :
      tokenOf s id = row.repairClaim.map RepairClaim.token := by
    rw [tokenOf, found]
    rfl
  rcases step_cases s act with ⟨ms, -, stepped⟩ | ⟨chainId, nonce, fromAddress, -, stepped⟩ | stepped
  · refine ⟨Nat.le_of_eq ?_, fun id => .inl ?_⟩
    · show s.minted = (step s act).minted
      rw [stepped]
    · show tokenOf (step s act) id = tokenOf s id
      rw [stepped]
      rfl
  · refine ⟨Nat.le_of_eq ?_, fun id => ?_⟩
    · show s.minted = (step s act).minted
      rw [stepped]
    · show tokenOf (step s act) id = tokenOf s id ∨ tokenOf (step s act) id = none ∨ _
      by_cases inserted : id = s.nextId
      · have after : (step s act).table.find? id =
            some (reservedRow s.now s.nextId chainId nonce fromAddress) := by
          rw [stepped, inserted]
          exact Table.find?_put_self s.table (reservedRow s.now s.nextId chainId nonce fromAddress)
        exact .inr (.inl (tokenOf_some after))
      · have after : (step s act).table.find? id = s.table.find? id := by
          rw [stepped]
          exact Table.find?_put_of_ne inserted
        exact .inl (by rw [tokenOf, tokenOf, after])
  · refine ⟨?_, fun id => ?_⟩
    · show s.minted ≤ (step s act).minted
      rw [stepped]
      exact Nat.le_add_right _ _
    · show tokenOf (step s act) id = tokenOf s id ∨ tokenOf (step s act) id = none ∨
        ∃ token, tokenOf (step s act) id = some token ∧ s.minted ≤ token ∧
          token < (step s act).minted
      have after : (step s act).table.find? id = (s.table.find? id).map (act.rowStep s) := by
        rw [stepped]
        exact Table.find?_rewrite _ _ (act.rowStep_id s) id
      cases found : s.table.find? id with
      | none =>
        rw [found] at after
        exact .inl (by rw [tokenOf, tokenOf, found, after]; rfl)
      | some row =>
        rw [found] at after
        have member := (Table.find?_eq_some.1 found).1
        rw [tokenOf_some after, tokenOf_some found]
        rcases rowStep_cases (a := act) member with ⟨same, -⟩ | ⟨-, moves⟩ | ⟨position, taken, claimed⟩
        · exact .inl (by rw [same])
        · cases moves with
          | unsigned _ _ _ claim => exact .inl (by rw [claim])
          | accepted _ _ written => exact .inl (by rw [written])
          | ended _ _ _ claim | rotated _ _ _ claim => exact .inr (.inl (by rw [claim]; rfl))
        · refine .inr (.inr ⟨s.minted + position, ?_, Nat.le_add_right _ _, ?_⟩)
          · rw [claimed]
            rfl
          · rw [stepped]
            have bound := (List.getElem?_eq_some_iff.1 taken).1
            show s.minted + position < s.minted + (act.takes s).length
            omega

theorem late_writes_nothing (minted : claimToken < s.minted) (lost : tokenOf s id ≠ some claimToken)
    (later : List Act) {act : Act} (presents : act.presents = some (id, claimToken)) :
    (step (run step s later) act).table = (run step s later).table := by
  refine stale_writes_nothing presents ?_
  have never := run_induction (motive := fun s => claimToken < s.minted ∧
    tokenOf s id ≠ some claimToken) (fun s act lost =>
      Fencing.lost_step (m := fencing) (fencing_lawful s act) lost.1 lost.2) ⟨minted, lost⟩ later
  exact never.2

/-! ## One worker holds a row -/

def Grant.unexpired (s : State) (grant : Grant) : Prop := s.now ≤ grant.claim.expiresAt

instance (s : State) (grant : Grant) : Decidable (grant.unexpired s) :=
  inferInstanceAs (Decidable (s.now ≤ grant.claim.expiresAt))

/-- A claim that a worker holds and that is not over is the row's, or the row is terminal; and
no other such claim is on that row. -/
structure Disjoint (s : State) : Prop where
  row : ∀ grant ∈ s.held, grant.unexpired s → ∃ row ∈ s.table.rows, row.id = grant.id ∧
    (row.repairClaim = some grant.claim ∨ row.status = .terminal)
  one : ∀ grant ∈ s.held, ∀ other ∈ s.held, grant.id = other.id → grant.unexpired s →
    other.unexpired s → grant = other

theorem disjoint_initial : Disjoint (initial start) :=
  ⟨fun _ member => (nomatch member), fun _ member => (nomatch member)⟩

variable {grant : Grant}

theorem mem_grants {act : Act} (granted : grant ∈ act.grants s) :
    ∃ position, ∃ row, (act.takes s)[position]? = some row ∧
      grant = ⟨row.id, s.now + act.leaseMs, s.minted + position⟩ := by
  obtain ⟨position, bound, rfl⟩ := List.mem_mapIdx.1 granted
  exact ⟨position, _, List.getElem?_eq_getElem bound, rfl⟩

theorem not_due_of_unexpired (disjoint : Disjoint s) (held : grant ∈ s.held)
    (unexpired : grant.unexpired s) (member : row ∈ s.table.rows) (same : row.id = grant.id) :
    ¬ due s.now row intervalMs = true := by
  intro isDue
  obtain ⟨own, inRows, ofGrant, claim⟩ := disjoint.row grant held unexpired
  obtain rfl := Table.eq_of_key inRows member (ofGrant.trans same.symm)
  rcases claim with current | terminal
  · have over' := (of_decide_eq_true isDue).2.1 grant.claim current
    exact absurd unexpired (not_le.2 over')
  · rcases watched_status (watched_of_due isDue) with status | status
    · cases terminal.symm.trans status
    · cases terminal.symm.trans status

theorem held_step {act : Act} (held : grant ∈ (step s act).held) :
    (grant ∈ s.held ∧ act.presents ≠ some (grant.id, grant.claim.token)) ∨
      grant ∈ act.grants s := by
  rcases step_cases s act with ⟨ms, rfl, stepped⟩ | ⟨chainId, nonce, fromAddress, rfl, stepped⟩ |
    stepped
  · exact .inl ⟨held, nofun⟩
  · exact .inl ⟨held, nofun⟩
  · rw [stepped] at held
    rcases List.mem_append.1 held with kept | granted
    · obtain ⟨inHeld, notGiven⟩ := List.mem_filter.1 kept
      exact .inl ⟨inHeld, of_decide_eq_true notGiven⟩
    · exact .inr granted

theorem now_le_step (s : State) (act : Act) : s.now ≤ (step s act).now := by
  rcases step_cases s act with ⟨ms, -, stepped⟩ | ⟨chainId, nonce, fromAddress, -, stepped⟩ | stepped
  · rw [stepped]
    exact le_add_of_nonneg_right (Int.natCast_nonneg ms)
  · rw [stepped]
  · rw [stepped]

theorem disjoint_step (s : State) (act : Act) (kept : Kept s) (disjoint : Disjoint s) :
    Disjoint (step s act) := by
  have before {grant : Grant} (unexpired : grant.unexpired (step s act)) : grant.unexpired s :=
    le_trans (now_le_step s act) unexpired
  -- no claim that was held before is on a row that is taken
  have apart {grant : Grant} (held : grant ∈ s.held) (unexpired : grant.unexpired (step s act))
      {position : Nat} {row : Reservation} (taken : (act.takes s)[position]? = some row) :
      grant.id ≠ row.id := by
    intro same
    obtain ⟨member, _, isDue⟩ := mem_takes (List.mem_of_getElem? taken)
    exact not_due_of_unexpired disjoint held (before unexpired) member same.symm isDue
  refine ⟨fun grant held unexpired => ?_, fun grant held other heldToo same unexpired unexpired' => ?_⟩
  · rcases held_step held with ⟨inHeld, notGiven⟩ | granted
    · obtain ⟨row, member, ofGrant, claim⟩ := disjoint.row grant inHeld (before unexpired)
      refine ⟨_, rowStep_mem kept act member, (act.rowStep_id s row).trans ofGrant, ?_⟩
      rcases rowStep_cases (a := act) member with ⟨unchanged, -⟩ | ⟨-, moves⟩ | ⟨position, taken, -⟩
      · rwa [unchanged]
      · cases moves with
        | unsigned reserved _ _ sameClaim =>
          rcases claim with current | terminal
          · exact .inl (sameClaim.trans current)
          · cases terminal.symm.trans reserved
        | accepted staged _ written =>
          rcases claim with current | terminal
          · exact .inl (by rw [written]; exact current)
          · cases terminal.symm.trans staged
        | ended _ status => exact .inr status
        | rotated isWatched _ _ _ _ claimToken presents current =>
          rcases claim with own | terminal
          · -- the worker that rotates the row is the one that holds this claim
            rw [own] at current
            rw [ofGrant, ← Option.some.inj current] at presents
            exact absurd presents notGiven
          · rcases watched_status isWatched with status | status
            · cases terminal.symm.trans status
            · cases terminal.symm.trans status
      · exact absurd ofGrant.symm (apart inHeld unexpired taken)
    · obtain ⟨position, row, taken, rfl⟩ := mem_grants granted
      obtain ⟨member, _, isDue⟩ := mem_takes (List.mem_of_getElem? taken)
      refine ⟨_, rowStep_mem kept act member, act.rowStep_id s row, .inl ?_⟩
      rcases rowStep_cases (a := act) member with ⟨-, missed⟩ | ⟨nothing, -⟩ |
        ⟨position', taken', claimed⟩
      · exact absurd (List.mem_of_getElem? taken) missed
      · rw [nothing] at taken
        cases taken
      · rw [claimed, position_unique taken' taken rfl]
        rfl
  · rcases held_step held with ⟨inHeld, -⟩ | granted
    · rcases held_step heldToo with ⟨inHeldToo, -⟩ | granted'
      · exact disjoint.one grant inHeld other inHeldToo same (before unexpired) (before unexpired')
      · obtain ⟨position, row, taken, rfl⟩ := mem_grants granted'
        exact absurd same (apart inHeld unexpired taken)
    · obtain ⟨position, row, taken, rfl⟩ := mem_grants granted
      rcases held_step heldToo with ⟨inHeldToo, -⟩ | granted'
      · exact absurd same.symm (apart inHeldToo unexpired' taken)
      · obtain ⟨position', row', taken', rfl⟩ := mem_grants granted'
        have ids : row.id = row'.id := same
        rw [position_unique taken taken' ids, ids]

theorem disjoint_run (acts : List Act) : Disjoint (run step (initial start) acts) :=
  (run_induction (motive := fun s => Kept s ∧ Disjoint s)
    (fun s act holds => ⟨kept_step s act holds.1, disjoint_step s act holds.1 holds.2⟩)
    ⟨kept_initial start, disjoint_initial start⟩ acts).2

/-! ## A due row is claimed in its turn -/

def Act.isClaim : Act → Bool
  | .claimDueEvmNonceReservations _ _ _ _ => true
  | _ => false

def dueRows (s : State) (intervalMs : Nat) : List Reservation :=
  s.table.rows.filter fun row => due s.now row intervalMs

/-- What holds at an act while a row waits: no claim has run out, and a claim has its page and
its interval and does not find the row locked. -/
def Timely (limit intervalMs id : Nat) (s : State) (act : Act) : Prop :=
  (∀ row ∈ s.table.rows, ∀ claim ∈ row.repairClaim, s.now ≤ claim.expiresAt) ∧
    match act with
    | .claimDueEvmNonceReservations limit' leaseMs intervalMs' locked =>
      assertClaimBounds limit' leaseMs intervalMs' = true ∧ limit' = limit ∧
        intervalMs' = intervalMs ∧ id ∉ locked
    | _ => True

/-- The row is claimed, or its owner writes on it. -/
def Leaves (row : Reservation) (s : State) (act : Act) : Prop :=
  row ∈ act.takes s ∨ act = .markLegacyEvmNonceAccepted row.id ∨
    act = .terminalizeLegacyEvmNonce row.id

/-- Another row stands in front of the row in the queue. -/
def inFront (row other : Reservation) : Bool :=
  watched other ∧ other.repairClaim = none ∧ other.id ≠ row.id ∧ servedBefore other row

def queue (intervalMs : Nat) (row : Reservation) : Line State Act where
  step := step
  turn := Act.isClaim
  ahead s := s.table.rows.countP (inFront row)
  waits s := Kept s ∧ row ∈ s.table.rows ∧ due s.now row intervalMs = true ∧
    waitingSince row < s.now
  ends := Leaves row

variable {other : Reservation}

theorem not_inFront_of_now (waited : waitingSince row < now) (since : waitingSince other = now) :
    ¬ inFront row other = true := by
  intro front
  have before := (of_decide_eq_true front).2.2.2
  rw [servedBefore, decide_eq_true_eq, since] at before
  rcases before with earlier | ⟨same, -⟩
  · exact absurd (lt_trans waited earlier) (lt_irrefl _)
  · exact absurd (same ▸ waited) (lt_irrefl _)

theorem unclaimed_of_due (inTime : ∀ claim ∈ row.repairClaim, s.now ≤ claim.expiresAt)
    (isDue : due s.now row intervalMs = true) : row.repairClaim = none := by
  cases claimed : row.repairClaim with
  | none => rfl
  | some claim =>
    have ranOut := (of_decide_eq_true isDue).2.1 claim claimed
    exact absurd (inTime claim claimed) (not_le.2 ranOut)

theorem inFront_rowStep {act : Act} (kept : Kept s) (waited : waitingSince row < s.now)
    (member : other ∈ s.table.rows) (front : inFront row (act.rowStep s other) = true) :
    inFront row other = true ∧ other ∉ act.takes s := by
  obtain ⟨isWatched, unclaimed, different, before⟩ := of_decide_eq_true front
  have unlike {status : Status} (has : (act.rowStep s other).status = status)
      (notStaged : status ≠ .staged) (notAccepted : status ≠ .accepted) : False := by
    rcases watched_status isWatched with staged | accepted
    · exact notStaged (has.symm.trans staged)
    · exact notAccepted (has.symm.trans accepted)
  rcases rowStep_cases (a := act) member with ⟨same, missed⟩ | ⟨nothing, moves⟩ |
    ⟨position, taken, claimed⟩
  · exact ⟨same ▸ front, missed⟩
  · have missed : other ∉ act.takes s := by rw [nothing]; exact List.not_mem_nil
    cases moves with
    | unsigned reserved status _ _ checked updated =>
      rcases status with abandoned | -
      · exact (unlike abandoned nofun nofun).elim
      · have since : waitingSince (act.rowStep s other) = s.now := by
          rw [waitingSince, checked, (kept.reserved other member reserved).1, updated]
          rfl
        exact absurd front (not_inFront_of_now waited since)
    | accepted staged _ written =>
      refine ⟨?_, missed⟩
      cases checked : other.lastCheckedAt with
      | none =>
        have since : waitingSince (act.rowStep s other) = s.now := by
          rw [written, waitingSince, checked]
          rfl
        exact absurd front (not_inFront_of_now waited since)
      | some instant =>
        have hash : other.txHash ≠ none := by
          have hash := (of_decide_eq_true isWatched).2
          rwa [written] at hash
        have since : waitingSince (act.rowStep s other) = waitingSince other := by
          rw [written, waitingSince, waitingSince, checked]
          rfl
        have own : watched other = true := decide_eq_true ⟨.inl staged, hash⟩
        have none : other.repairClaim = none := by rwa [written] at unclaimed
        rw [act.rowStep_id] at different
        rw [servedBefore, since, act.rowStep_id] at before
        exact decide_eq_true ⟨own, none, different, before⟩
    | ended _ status => exact (unlike status nofun nofun).elim
    | rotated _ _ _ _ checked =>
      have since : waitingSince (act.rowStep s other) = s.now := by
        rw [waitingSince, checked]
        rfl
      exact absurd front (not_inFront_of_now waited since)
  · rw [claimed] at unclaimed
    cases unclaimed

theorem ahead_step {act : Act} (kept : Kept s) (waited : waitingSince row < s.now)
    (taken : ∀ other ∈ act.takes s, inFront row other = true) :
    (step s act).table.rows.countP (inFront row) + (act.takes s).length ≤
      s.table.rows.countP (inFront row) := by
  have kept_le : (step s act).table.rows.countP (inFront row) ≤
      s.table.rows.countP fun other => inFront row other && other ∉ act.takes s := by
    rcases step_cases s act with ⟨ms, rfl, stepped⟩ | ⟨chainId, nonce, fromAddress, rfl, stepped⟩ |
      stepped
    · rw [stepped]
      refine List.countP_mono_left fun other member front => ?_
      simpa [Act.takes] using front
    · rw [stepped]
      show (List.filter _ _ ++ [reservedRow s.now s.nextId chainId nonce fromAddress]).countP _ ≤ _
      have notWatched : inFront row (reservedRow s.now s.nextId chainId nonce fromAddress) = false :=
        decide_eq_false fun front => absurd front.1 (by simp [watched, reservedRow])
      rw [List.countP_append, List.countP_singleton, notWatched, if_neg Bool.false_ne_true,
        Nat.add_zero, List.countP_filter]
      refine List.countP_mono_left fun other member front => ?_
      rw [Bool.and_eq_true] at front
      simpa [Act.takes] using front.1
    · rw [stepped]
      show (s.table.rows.map (act.rowStep s)).countP _ ≤ _
      rw [List.countP_map]
      refine List.countP_mono_left fun other member front => ?_
      obtain ⟨before, missed⟩ := inFront_rowStep kept waited member front
      rw [Bool.and_eq_true, decide_eq_true_eq]
      exact ⟨before, missed⟩
  have rowsOnce : s.table.rows.Nodup := List.Nodup.of_map _ s.table.unique
  have takenOnce : (act.takes s).Nodup := List.Nodup.of_map _ (takes_nodup s act)
  have apart : ((s.table.rows.filter fun other => inFront row other && other ∉ act.takes s) ++
      act.takes s).Nodup := by
    refine List.nodup_append.2 ⟨rowsOnce.filter _, takenOnce, fun one left two right same => ?_⟩
    have missed := (Bool.and_eq_true_iff.1 (List.mem_filter.1 left).2).2
    exact of_decide_eq_true missed (same ▸ right)
  have inside : ((s.table.rows.filter fun other => inFront row other && other ∉ act.takes s) ++
      act.takes s) ⊆ s.table.rows.filter (inFront row) := by
    intro other member
    rcases List.mem_append.1 member with left | right
    · obtain ⟨inRows, front⟩ := List.mem_filter.1 left
      exact List.mem_filter.2 ⟨inRows, (Bool.and_eq_true_iff.1 front).1⟩
    · exact List.mem_filter.2 ⟨(mem_takes right).1, taken other right⟩
  have lengths := (List.subperm_of_subset apart inside).length_le
  rw [List.length_append, ← List.countP_eq_length_filter, ← List.countP_eq_length_filter] at lengths
  omega

instance : IsTrans Reservation (servedBefore · ·) where
  trans a b c first second := by
    simp only [servedBefore, decide_eq_true_eq] at *
    rcases first with less | ⟨same, ids⟩
    · rcases second with less' | ⟨same', -⟩
      · exact .inl (lt_trans less less')
      · exact .inl (same' ▸ less)
    · rcases second with less' | ⟨same', ids'⟩
      · exact .inl (same ▸ less')
      · exact .inr ⟨same.trans same', le_trans ids ids'⟩

instance : Std.Total (α := Reservation) (servedBefore · ·) where
  total a b := by
    simp only [servedBefore, decide_eq_true_eq]
    rcases lt_trichotomy (waitingSince a) (waitingSince b) with less | same | more
    · exact .inl (.inl less)
    · rcases Nat.le_total a.id b.id with ids | ids
      · exact .inl (.inr ⟨same, ids⟩)
      · exact .inr (.inr ⟨same.symm, ids⟩)
    · exact .inr (.inl more)

theorem candidates_before (member : row ∈ table.rows) (isDue : due now row intervalMs = true)
    (free : row.id ∉ locked) (passed : row ∉ candidates now limit intervalMs locked table) :
    (candidates now limit intervalMs locked table).length = limit ∧
      ∀ other ∈ candidates now limit intervalMs locked table, servedBefore other row = true := by
  have found : row ∈ (table.rows.filter fun row => due now row intervalMs ∧ row.id ∉ locked) :=
    List.mem_filter.2 ⟨member, decide_eq_true ⟨isDue, free⟩⟩
  have sorted := List.pairwise_insertionSort (servedBefore · ·)
    (table.rows.filter fun row => due now row intervalMs ∧ row.id ∉ locked)
  rw [← List.mem_insertionSort (servedBefore · ·), ← List.take_append_drop limit
    ((table.rows.filter fun row => due now row intervalMs ∧ row.id ∉ locked).insertionSort
      (servedBefore · ·))] at found
  rw [← List.take_append_drop limit
    ((table.rows.filter fun row => due now row intervalMs ∧ row.id ∉ locked).insertionSort
      (servedBefore · ·))] at sorted
  have behind := (List.mem_append.1 found).resolve_left passed
  refine ⟨?_, fun other inPage => (List.pairwise_append.1 sorted).2.2 other inPage row behind⟩
  have rest := List.length_pos_of_mem behind
  rw [List.length_drop] at rest
  rw [candidates, List.length_take]
  omega

theorem rowStep_of_waiting {act : Act} (member : row ∈ s.table.rows)
    (isWatched : watched row = true) (unclaimed : row.repairClaim = none)
    (stays : ¬ Leaves row s act) : act.rowStep s row = row := by
  have noToken {claimToken : ClaimToken}
      (current : row.repairClaim.map RepairClaim.token = some claimToken) : False := by
    rw [unclaimed] at current
    cases current
  rcases rowStep_cases (a := act) member with ⟨same, -⟩ | ⟨-, moves⟩ | ⟨position, taken, -⟩
  · exact same
  · cases moves with
    | unsigned reserved =>
      rcases watched_status isWatched with status | status
      · cases reserved.symm.trans status
      · cases reserved.symm.trans status
    | accepted _ act_eq => exact absurd (.inr (.inl act_eq)) stays
    | ended _ _ _ _ under =>
      rcases under with legacy | ⟨_, -, current⟩
      · exact absurd (.inr (.inr legacy)) stays
      · exact (noToken current).elim
    | rotated _ _ _ _ _ _ _ current => exact (noToken current).elim
  · exact absurd (.inl (List.mem_of_getElem? taken)) stays

theorem takes_of_not_claim {act : Act} (notClaim : act.isClaim ≠ true) : act.takes s = [] := by
  cases act with
  | claimDueEvmNonceReservations => exact absurd rfl notClaim
  | tick | reserveLegacyEvmNonce | abandon | stageLegacyEvmNonce | markLegacyEvmNonceAccepted
  | terminalizeLegacyEvmNonce | terminalizeClaimedEvmNonceReservation
  | rotateInconclusiveEvmNonceReservation => rfl

theorem queue_lawful (s : State) (act : Act) (timely : Timely limit intervalMs row.id s act)
    (waits : (queue intervalMs row).waits s) (stays : ¬ (queue intervalMs row).ends s act) :
    (queue intervalMs row).Law limit s act := by
  obtain ⟨kept, member, isDue, waited⟩ := waits
  have isWatched := watched_of_due isDue
  have unclaimed := unclaimed_of_due (timely.1 row member) isDue
  have passed : row ∉ act.takes s := fun taken => stays (.inl taken)
  have page : (∀ other ∈ act.takes s, inFront row other = true) ∧
      (act.isClaim = true → (act.takes s).length = limit) := by
    by_cases isClaim : act.isClaim = true
    · cases act with
      | claimDueEvmNonceReservations limit' leaseMs intervalMs' locked =>
        obtain ⟨inTime, bounds, rfl, rfl, free⟩ := timely
        have chosen : (Act.claimDueEvmNonceReservations limit' leaseMs intervalMs' locked).takes s =
            candidates s.now limit' intervalMs' locked s.table := if_pos bounds
        rw [chosen] at passed ⊢
        obtain ⟨full, before⟩ := candidates_before member isDue free passed
        refine ⟨fun other inPage => ?_, fun _ => full⟩
        obtain ⟨inRows, otherDue, -⟩ := mem_candidates inPage
        refine decide_eq_true ⟨watched_of_due otherDue,
          unclaimed_of_due (inTime other inRows) otherDue, fun same => ?_, before other inPage⟩
        exact passed (Table.eq_of_key inRows member same ▸ inPage)
      | tick | reserveLegacyEvmNonce | abandon | stageLegacyEvmNonce | markLegacyEvmNonceAccepted
      | terminalizeLegacyEvmNonce | terminalizeClaimedEvmNonceReservation
      | rotateInconclusiveEvmNonceReservation => cases isClaim
    · rw [takes_of_not_claim isClaim]
      exact ⟨fun _ none => (nomatch none), fun claim => absurd claim isClaim⟩
  have ahead := ahead_step kept waited page.1
  refine ⟨⟨kept_step s act kept, ?_, ?_, ?_⟩, ?_, fun turn => ?_⟩
  · have there := rowStep_mem kept act member
    rwa [rowStep_of_waiting member isWatched unclaimed stays] at there
  · have since := (of_decide_eq_true isDue).2.2
    have clock := now_le_step s act
    refine decide_eq_true ⟨isWatched, fun claim claimed => ?_,
      le_trans since (Int.sub_le_sub_right clock _)⟩
    rw [unclaimed] at claimed
    cases claimed
  · exact lt_of_lt_of_le waited (now_le_step s act)
  · exact le_trans (Nat.le_add_right _ _) ahead
  · have full := page.2 turn
    rw [full] at ahead
    exact ahead

theorem ahead_lt_due (member : row ∈ s.table.rows) (isDue : due s.now row intervalMs = true) :
    s.table.rows.countP (inFront row) < (dueRows s intervalMs).length := by
  have rowsOnce : s.table.rows.Nodup := List.Nodup.of_map _ s.table.unique
  have apart : (row :: s.table.rows.filter (inFront row)).Nodup := by
    refine List.nodup_cons.2 ⟨fun inside => ?_, rowsOnce.filter _⟩
    exact (of_decide_eq_true (List.mem_filter.1 inside).2).2.2.1 rfl
  have inside : row :: s.table.rows.filter (inFront row) ⊆ dueRows s intervalMs := by
    intro other listed
    rcases List.mem_cons.1 listed with rfl | listed
    · exact List.mem_filter.2 ⟨member, isDue⟩
    · obtain ⟨inRows, front⟩ := List.mem_filter.1 listed
      obtain ⟨isWatched, unclaimed, -, before⟩ := of_decide_eq_true front
      have since := (of_decide_eq_true isDue).2.2
      have earlier : waitingSince other ≤ waitingSince row := by
        rcases of_decide_eq_true before with less | ⟨same, -⟩
        · exact le_of_lt less
        · exact le_of_eq same
      refine List.mem_filter.2 ⟨inRows, decide_eq_true ⟨isWatched, fun claim claimed => ?_,
        le_trans earlier since⟩⟩
      rw [unclaimed] at claimed
      cases claimed
  have lengths := (List.subperm_of_subset apart inside).length_le
  rw [List.length_cons, ← List.countP_eq_length_filter] at lengths
  exact lengths

/-- Repair is disjoint, fenced, final and fair, in every run: no two claims that are held and not
over are on one row; a worker whose token its row has lost changes nothing, then or later; a
terminal row stays as it is; and a row that is due is claimed, unless its owner writes on it
before, within as many claims as pages hold the rows that are due with it, as long as no claim
runs out and no claim finds the row locked. -/
theorem repair_claims (start : Instant) (acts : List Act) :
    let s := run step (initial start) acts
    (∀ grant ∈ s.held, ∀ other ∈ s.held, grant.id = other.id → grant.unexpired s →
      other.unexpired s → grant = other) ∧
    (∀ id claimToken, claimToken < s.minted → tokenOf s id ≠ some claimToken →
      ∀ later act, act.presents = some (id, claimToken) →
        (step (run step s later) act).table = (run step s later).table) ∧
    (∀ row ∈ s.table.rows, row.status = .terminal → ∀ later, row ∈ (run step s later).table.rows) ∧
    ∀ limit intervalMs size, 0 < limit → (dueRows s intervalMs).length ≤ size →
      ∀ row ∈ s.table.rows, due s.now row intervalMs = true → waitingSince row < s.now →
      ∀ later, Along step (Timely limit intervalMs row.id) s later →
        size ⌈/⌉ limit ≤ later.countP Act.isClaim →
        ∃ before act rest, later = before ++ act :: rest ∧
          before.countP Act.isClaim < size ⌈/⌉ limit ∧ Leaves row (run step s before) act := by
  have kept := kept_run start acts
  refine ⟨(disjoint_run start acts).one, fun id claimToken minted lost later act presents =>
    late_writes_nothing minted lost later presents, fun row member terminal later =>
    terminal_stays kept member terminal later, ?_⟩
  intro limit intervalMs size some few row member isDue waited later along enough
  have fewer := lt_of_lt_of_le (ahead_lt_due member isDue) few
  exact (queue intervalMs row).ends_within queue_lawful along ⟨kept, member, isDue, waited⟩
    (Line.lt_ceilDiv_mul some fewer) enough

/-- One row that its owner finished under a claim, and one that is due. -/
def finishedAndDue : List Act :=
  [.reserveLegacyEvmNonce 1 0 [], .stageLegacyEvmNonce 0 [] [] 0, .tick 20,
    .claimDueEvmNonceReservations 1 100 10 [], .terminalizeLegacyEvmNonce 0,
    .reserveLegacyEvmNonce 1 1 [], .stageLegacyEvmNonce 1 [] [] 1, .tick 15]

theorem repair_claims_finishedAndDue :
    let s := run step (initial 0) finishedAndDue
    (∀ grant ∈ s.held, grant = ⟨0, 120, 0⟩) ∧
    (step s (.rotateInconclusiveEvmNonceReservation 0 0 .inMempool)).table = s.table ∧
    (∀ row ∈ s.table.rows, row.id = 0 → ∀ later, row ∈ (run step s later).table.rows) ∧
    ∀ row ∈ s.table.rows, row.id = 1 →
      ∃ before act rest, [Act.claimDueEvmNonceReservations 1 5 10 []] = before ++ act :: rest ∧
        before.countP Act.isClaim < 1 ⌈/⌉ 1 ∧ Leaves row (run step s before) act := by
  obtain ⟨one, fenced, final, fair⟩ := repair_claims 0 finishedAndDue
  refine ⟨fun grant held => ?_, ?_, fun row member zero => ?_, fun row member first => ?_⟩
  · exact one grant held ⟨0, 120, 0⟩ (by decide) (by decide +revert)
      (by decide +revert) (by show (35 : Int) ≤ 120; decide)
  · exact fenced 0 0 (by decide) (by decide) [] _ rfl
  · exact final row member (by decide +revert)
  · refine fair 1 10 1 (by decide) (by decide) row member (by decide +revert)
      (by decide +revert) _ ⟨⟨?_, ?_⟩, trivial⟩ (by decide)
    · decide
    · exact ⟨by decide, rfl, rfl, List.not_mem_nil⟩

/-! ## Runs in which a due row is passed over -/

def claimedIds (s : State) : List Act → List Nat
  | [] => []
  | act :: acts => (act.takes s).map Reservation.id ++ claimedIds (step s act) acts

/-- One row that was checked at 20, and one that was staged at 25; at 40 both are due. -/
def checkedAndStaged : State :=
  run step (initial 0) [.reserveLegacyEvmNonce 1 0 [], .stageLegacyEvmNonce 0 [] [] 0, .tick 20,
    .claimDueEvmNonceReservations 1 5 10 [], .rotateInconclusiveEvmNonceReservation 0 0 .inMempool,
    .tick 5, .reserveLegacyEvmNonce 1 1 [], .stageLegacyEvmNonce 1 [] [] 1, .tick 15]

/-- The claim on the checked row runs out, and the row is claimed again before it is rotated. -/
def expiringClaims : List Act :=
  [.claimDueEvmNonceReservations 1 5 10 [], .tick 10, .claimDueEvmNonceReservations 1 5 10 [],
    .rotateInconclusiveEvmNonceReservation 0 2 .inMempool]

/-- One row that was staged at 0; at 20 it is due. -/
def staged : State :=
  run step (initial 0) [.reserveLegacyEvmNonce 1 0 [], .stageLegacyEvmNonce 0 [] [] 0, .tick 20]

/-- Two rows that were staged at 0 and are due at once where there is no interval. -/
def bothStaged : State :=
  run step (initial 0) [.reserveLegacyEvmNonce 1 0 [], .stageLegacyEvmNonce 0 [] [] 0,
    .reserveLegacyEvmNonce 1 1 [], .stageLegacyEvmNonce 1 [] [] 1]

def instantClaims : List Act :=
  [.claimDueEvmNonceReservations 1 5 0 [], .rotateInconclusiveEvmNonceReservation 0 0 .inMempool,
    .claimDueEvmNonceReservations 1 5 0 [], .rotateInconclusiveEvmNonceReservation 0 1 .inMempool]

/-- A due row is passed over by as many claims as pages hold the due rows, though all that is
claimed is rotated: where a claim runs out and its row is claimed again, where the row is locked
as the claim runs, and where the rows are rotated in the instant the row became due. -/
theorem due_row_passed_over : ((dueRows checkedAndStaged 10).map Reservation.id = [0, 1] ∧
      expiringClaims.countP Act.isClaim = 2 ⌈/⌉ 1 ∧
      claimedIds checkedAndStaged expiringClaims = [0, 0] ∧
      ∀ row ∈ (run step checkedAndStaged expiringClaims).table.rows, row.repairClaim = none) ∧
    ((dueRows staged 10).map Reservation.id = [0] ∧
      claimedIds staged [.claimDueEvmNonceReservations 1 5 10 [0]] = []) ∧
    ((dueRows bothStaged 0).map Reservation.id = [0, 1] ∧
      instantClaims.countP Act.isClaim = 2 ⌈/⌉ 1 ∧
      claimedIds bothStaged instantClaims = [0, 0] ∧
      ∀ row ∈ (run step bothStaged instantClaims).table.rows, row.repairClaim = none) := by
  refine ⟨⟨?_, ?_, ?_, ?_⟩, ⟨?_, ?_⟩, ?_, ?_, ?_, ?_⟩
  all_goals decide

end Vex.Evm.NonceReservations
