import Vex.Approvals.Reconcilers
import Vex.Library.KeysetPages

/-!
# Whether each abandoned row is visited once

A row whose write succeeds leaves the selection; one whose write fails stays in it. So a page may
bring back a row whose write failed, where the cursor it starts behind lost the microseconds that
put the row before it. `reconciled_once_iff` says that both reconcilers visit each row once exactly
where no page ends so, and that they return what they flipped.
-/

namespace Vex.Approvals

open Vex.Library

variable {ι : Type}

/-! ## The order of the rows -/

variable {row : IntentRow ι}

theorem created_injective {other : IntentRow ι} (same : row.created = other.created) :
    row.approvalId = other.approvalId :=
  congrArg (fun key => (ofLex key).2) same

variable [LinearOrder ι]

theorem inOrder_sorted (selects : ApprovalIntent → Bool) (table : IntentTable ι) :
    (inOrder selects table.rows).Pairwise fun row later => row.created < later.created := by
  have sorted := List.pairwise_insertionSort (Order.Preimage IntentRow.created (· ≤ ·))
    (table.rows.filter fun row => selects row.intent)
  have distinct : (inOrder selects table.rows).Pairwise fun row later =>
      row.approvalId ≠ later.approvalId := by
    refine ((List.perm_insertionSort _ _).pairwise_iff fun apart same => apart same.symm).mpr ?_
    exact (List.pairwise_map.mp table.unique).filter _
  exact sorted.imp₂ (fun row later before apart =>
    lt_of_le_of_ne before fun same => apart (created_injective same)) distinct

theorem mem_inOrder {selects : ApprovalIntent → Bool} {rows : List (IntentRow ι)} :
    row ∈ inOrder selects rows ↔ row ∈ rows ∧ selects row.intent := by
  rw [inOrder, List.mem_insertionSort, List.mem_filter]

theorem insertionSort_filter (table : IntentTable ι) (selects : ApprovalIntent → Bool)
    (passes : IntentRow ι → Bool) :
    ((table.rows.filter fun row => selects row.intent).filter passes).insertionSort
        (Order.Preimage IntentRow.created (· ≤ ·))
      = (inOrder selects table.rows).filter passes := by
  refine List.Perm.eq_of_pairwise (fun row other member memberOther before behind => ?_)
    (List.pairwise_insertionSort _ _) ((List.pairwise_insertionSort _ _).filter _)
    ((List.perm_insertionSort _ _).trans ((List.perm_insertionSort _ _).filter passes).symm)
  have inTable := (List.mem_filter.mp (List.mem_filter.mp ((List.mem_insertionSort _).mp member)).1).1
  have inTable' := (mem_inOrder.mp (List.mem_filter.mp memberOther).1).1
  exact Table.eq_of_key inTable inTable' (created_injective (le_antisymm before behind))

/-! ## One row -/

/-- The statement of a reconciler takes the rows it selects, and they are then not selected. -/
structure Reconciler.Fits (reconciler : Reconciler) : Prop where
  takes : ∀ intent, reconciler.selects intent = true → ∃ settled, reconciler.settles intent = some settled
  leaves : ∀ intent settled, reconciler.settles intent = some settled →
    reconciler.selects settled = false

theorem abandonedDispatches_fits (codec : SettlementCodec) : (abandonedDispatches codec).Fits := by
  constructor
  · intro intent selected
    have guard : intent.origin = .studioMcp ∧ intent.executionStatus = .dispatching :=
      of_decide_eq_true selected
    exact ⟨_, casIntent_eq_some.mpr ⟨guard, rfl⟩⟩
  · intro intent settled wrote
    obtain ⟨-, rfl⟩ := casIntent_eq_some.mp wrote
    simp [abandonedDispatches, dispatchingStudio]

theorem unstartedApprovals_fits (codec : SettlementCodec) : (unstartedApprovals codec).Fits := by
  constructor
  · intro intent selected
    have guard : intent.origin = .studioMcp ∧ intent.decision = some .approved
        ∧ intent.executionStatus = .notStarted := of_decide_eq_true selected
    exact ⟨_, casIntent_eq_some.mpr ⟨guard, rfl⟩⟩
  · intro intent settled wrote
    obtain ⟨-, rfl⟩ := casIntent_eq_some.mp wrote
    simp [unstartedApprovals, unstartedStudio]

variable {reconciler : Reconciler} {fails : ι → Bool} {table : IntentTable ι}

/-- The row after the reconciler settled it, where the statement takes it. -/
def Reconciler.settle (reconciler : Reconciler) (row : IntentRow ι) : IntentRow ι :=
  { row with intent := (reconciler.settles row.intent).getD row.intent }

def scan (fails : ι → Bool) : Keyset.Scan (IntentRow ι) (Int ×ₗ ι) where
  key := IntentRow.created
  blur key := toLex ((ofLex key).1 / 1000 * 1000, (ofLex key).2)
  stays row := fails row.approvalId
  size := reconcilePageSize

theorem blur_le (key : Int ×ₗ ι) : (scan fails).blur key ≤ key := by
  refine Prod.Lex.toLex_le_toLex.mpr ?_
  have floor : (ofLex key).1 / 1000 * 1000 ≤ (ofLex key).1 := Int.ediv_mul_le _ (by decide)
  rcases lt_or_eq_of_le floor with below | same
  · exact .inl below
  · exact .inr ⟨same, le_rfl⟩

theorem scan_sorted (fails : ι → Bool) (selects : ApprovalIntent → Bool) (table : IntentTable ι) :
    (inOrder selects table.rows).Pairwise fun row later =>
      (scan fails).key row < (scan fails).key later :=
  inOrder_sorted selects table

/-- The row was visited and its write succeeded. -/
def Flipped (fails : ι → Bool) (log : List (IntentRow ι)) (row : IntentRow ι) : Prop :=
  row ∈ log ∧ fails row.approvalId = false

instance (log : List (IntentRow ι)) (row : IntentRow ι) : Decidable (Flipped fails log row) :=
  inferInstanceAs (Decidable (_ ∧ _))

/-- Where a reconciler is after it visited the rows of the log. -/
structure After (reconciler : Reconciler) (fails : ι → Bool) (table : IntentTable ι)
    (log : List (IntentRow ι)) (progress : Progress ι) : Prop where
  rows : progress.table.rows =
    table.rows.map fun row => if Flipped fails log row then reconciler.settle row else row
  attempts : progress.attempts = log.map (·.approvalId)
  reconciled : progress.reconciled = (log.filter fun row => !fails row.approvalId).map fun row =>
    ⟨row.approvalId, row.intent.projectId⟩

variable {progress : Progress ι}

variable {candidate : DispatchingStudioApproval ι}

theorem attempt_of_fails (failed : fails candidate.approvalId = true) :
    attempt reconciler fails progress candidate = { progress with
      after := some candidate.cursor
      attempts := progress.attempts ++ [candidate.approvalId] } := by
  unfold attempt
  dsimp only
  rw [if_pos failed]

theorem attempt_of_settles {settled : ApprovalIntent} (wrote : fails candidate.approvalId = false)
    (found : progress.table.find? candidate.approvalId = some row)
    (settles : reconciler.settles row.intent = some settled) :
    attempt reconciler fails progress candidate =
      { table := setIntent progress.table candidate.approvalId settled
        attempts := progress.attempts ++ [candidate.approvalId]
        reconciled := progress.reconciled ++ [⟨candidate.approvalId, candidate.projectId⟩]
        after := some candidate.cursor } := by
  unfold attempt
  dsimp only
  rw [if_neg (by simp [wrote]), found, Option.bind_some, settles]

variable {log : List (IntentRow ι)}

theorem attempt_after (fits : reconciler.Fits) (after : After reconciler fails table log progress)
    (member : row ∈ inOrder reconciler.selects table.rows)
    (open_ : row ∉ log ∨ fails row.approvalId = true) :
    After reconciler fails table (log ++ [row])
        (attempt reconciler fails progress row.candidate)
      ∧ (attempt reconciler fails progress row.candidate).after = some row.candidate.cursor := by
  obtain ⟨inTable, selected⟩ := mem_inOrder.mp member
  by_cases failed : fails row.approvalId = true
  · rw [attempt_of_fails failed]
    refine ⟨⟨?_, ?_, ?_⟩, rfl⟩
    · rw [after.rows]
      refine List.map_congr_left fun other _ => if_congr ?_ rfl rfl
      unfold Flipped
      rw [List.mem_append, List.mem_singleton]
      constructor
      · exact fun flipped => ⟨.inl flipped.1, flipped.2⟩
      · rintro ⟨logged | rfl, wrote⟩
        · exact ⟨logged, wrote⟩
        · rw [failed] at wrote
          cases wrote
    · simp [after.attempts, IntentRow.candidate]
    · simp [after.reconciled, failed]
  · have wrote : fails row.approvalId = false := by simpa using failed
    have fresh : row ∉ log := open_.resolve_right failed
    obtain ⟨settled, settles⟩ := fits.takes _ selected
    -- The row is in the table as it was, since it was not visited.
    have found : progress.table.find? row.candidate.approvalId = some row := by
      refine Table.find?_eq_some.mpr ⟨?_, rfl⟩
      rw [after.rows]
      exact List.mem_map.mpr ⟨row, inTable, if_neg fun flipped => fresh flipped.1⟩
    rw [attempt_of_settles wrote found settles]
    refine ⟨⟨?_, ?_, ?_⟩, rfl⟩
    · change progress.table.rows.map _ = _
      rw [after.rows, List.map_map]
      refine List.map_congr_left fun other there => ?_
      dsimp only [Function.comp]
      by_cases same : other = row
      · subst same
        have unflipped : ¬ Flipped fails log other := fun flipped => fresh flipped.1
        have flipped : Flipped fails (log ++ [other]) other :=
          ⟨List.mem_append_right _ (List.mem_singleton_self _), wrote⟩
        simp [if_neg unflipped, if_pos flipped, Reconciler.settle, settles, IntentRow.candidate]
      · have apart : other.approvalId ≠ row.approvalId := fun equal =>
          same (Table.eq_of_key there inTable equal)
        have kept : Flipped fails (log ++ [row]) other ↔ Flipped fails log other := by
          simp [Flipped, same]
        rw [if_neg (by split <;> exact apart)]
        exact if_congr kept.symm rfl rfl
    · simp [after.attempts, IntentRow.candidate]
    · simp [after.reconciled, wrote, IntentRow.candidate]

theorem attempts_after (fits : reconciler.Fits) {page : List (IntentRow ι)}
    (after : After reconciler fails table log progress) (nodup : page.Nodup)
    (members : ∀ row ∈ page, row ∈ inOrder reconciler.selects table.rows)
    (open_ : ∀ row ∈ page, row ∉ log ∨ fails row.approvalId = true) :
    After reconciler fails table (log ++ page)
        ((page.map IntentRow.candidate).foldl (attempt reconciler fails) progress)
      ∧ ((page.map IntentRow.candidate).foldl (attempt reconciler fails) progress).after
        = (page.getLast?.map fun row => row.candidate.cursor).or progress.after := by
  induction page generalizing log progress with
  | nil => exact ⟨by simpa using after, rfl⟩
  | cons row page ih =>
    obtain ⟨first, cut⟩ := attempt_after fits after (members row List.mem_cons_self)
      (open_ row List.mem_cons_self)
    obtain ⟨new, nodup⟩ := List.nodup_cons.mp nodup
    obtain ⟨rest, cut'⟩ := ih first nodup
      (fun other member => members other (List.mem_cons_of_mem _ member))
      fun other member => by
        refine (open_ other (List.mem_cons_of_mem _ member)).imp_left fun fresh => ?_
        rw [List.mem_append, List.mem_singleton]
        rintro (logged | rfl)
        · exact fresh logged
        · exact new member
    rw [List.append_assoc] at rest
    refine ⟨rest, ?_⟩
    rw [List.map_cons, List.foldl_cons, cut', cut]
    cases page with
    | nil => rfl
    | cons next more => rw [List.getLast?_cons_cons]; simp [List.getLast?_cons]

/-! ## The pages -/

variable {cursor : Option (Int ×ₗ ι)}

theorem listStudioApprovals_after (fits : reconciler.Fits)
    (after : After reconciler fails table log progress)
    (cut : progress.after.map DispatchingStudioCursor.created = cursor) :
    listStudioApprovals reconciler.selects progress.table reconcilePageSize progress.after
      = (((scan fails).selected (inOrder reconciler.selects table.rows) log cursor).take
          reconcilePageSize).map IntentRow.candidate := by
  have selection : (progress.table.rows.filter fun row => reconciler.selects row.intent)
      = (table.rows.filter fun row => reconciler.selects row.intent).filter
        fun row => !decide (Flipped fails log row) := by
    rw [after.rows, List.filter_map, List.filter_filter]
    have congr_ : table.rows.filter ((fun row => reconciler.selects row.intent) ∘ fun row =>
          if Flipped fails log row then reconciler.settle row else row)
        = table.rows.filter fun row =>
          !decide (Flipped fails log row) && reconciler.selects row.intent := by
      refine List.filter_congr fun row _ => ?_
      dsimp only [Function.comp]
      by_cases flipped : Flipped fails log row
      · rw [if_pos flipped, decide_eq_true flipped]
        cases wrote : reconciler.settles row.intent with
        | none =>
          have unselected : reconciler.selects row.intent ≠ true := fun selected => by
            obtain ⟨settled, some_⟩ := fits.takes _ selected
            rw [wrote] at some_
            cases some_
          simpa [Reconciler.settle, wrote] using unselected
        | some settled => simpa [Reconciler.settle, wrote] using fits.leaves _ _ wrote
      · rw [if_neg flipped, decide_eq_false flipped]
        rfl
    rw [congr_]
    refine (List.map_congr_left fun row member => ?_).trans (List.map_id _)
    have unflipped := (Bool.and_eq_true_iff.mp (List.mem_filter.mp member).2).1
    exact if_neg (by simpa using unflipped)
  unfold listStudioApprovals
  congr 2
  rw [inOrder, selection, insertionSort_filter, List.filter_filter]
  refine List.filter_congr fun row _ => ?_
  rw [Bool.eq_iff_iff, ← cut]
  simp only [Bool.and_eq_true, decide_eq_true_iff, Bool.not_eq_true', decide_eq_false_iff_not]
  have unflipped : ¬ Flipped fails log row ↔ row ∉ log ∨ fails row.approvalId = true := by
    unfold Flipped
    rw [not_and_or, Bool.not_eq_false]
  rw [unflipped, and_comm]
  refine and_congr_right fun _ => ?_
  simp [scan]

theorem reconcilePages_after (fits : reconciler.Fits) (pages : ℕ)
    (after : After reconciler fails table log progress)
    (cut : progress.after.map DispatchingStudioCursor.created = cursor) :
    After reconciler fails table
      ((scan fails).run (inOrder reconciler.selects table.rows) pages cursor log)
      (reconcilePages reconciler fails pages progress) := by
  induction pages generalizing log progress cursor with
  | zero => exact after
  | succ pages ih =>
    have listed := listStudioApprovals_after fits after cut
    set page := ((scan fails).selected (inOrder reconciler.selects table.rows) log cursor).take
      reconcilePageSize with pageEq
    have within : ∀ row ∈ page, row ∈ inOrder reconciler.selects table.rows
        ∧ (row ∉ log ∨ fails row.approvalId = true) := fun row member => by
      obtain ⟨inRows, passes⟩ := List.mem_filter.mp (List.mem_of_mem_take member)
      exact ⟨inRows, (of_decide_eq_true passes).1⟩
    have nodup : page.Nodup :=
      (Keyset.Scan.nodup_rows (scan_sorted fails _ table)).sublist
        ((List.take_sublist _ _).trans List.filter_sublist)
    obtain ⟨visited, moved⟩ := attempts_after fits after nodup (fun row member =>
      (within row member).1) fun row member => (within row member).2
    unfold reconcilePages Keyset.Scan.run
    dsimp only
    rw [listed, List.length_map]
    change After reconciler fails table (if page.length < reconcilePageSize then log ++ page else _) _
    by_cases none_ : page.length = 0
    · rw [if_pos none_, if_pos (by rw [none_]; decide), List.length_eq_zero_iff.mp none_,
        List.append_nil]
      exact after
    · rw [if_neg none_]
      split
      · exact visited
      · refine ih visited ?_
        rw [moved]
        cases ends : page.getLast? with
        | none => exact absurd (List.getLast?_eq_none_iff.mp ends) fun empty => none_ (by simp [empty])
        | some last =>
          change some last.candidate.cursor.created = (scan fails).cursor page
          rw [Keyset.Scan.cursor, ends]
          rfl

/-! ## Both reconcilers -/

/-- Every abandoned row is attempted once, and what is returned are the rows that were flipped. -/
structure ReconciledOnce (reconciler : Reconciler) (table : IntentTable ι) (done : Progress ι) :
    Prop where
  attempted : ∀ row ∈ table.rows, reconciler.selects row.intent = true →
    done.attempts.count row.approvalId = 1
  others : ∀ approvalId ∈ done.attempts, ∃ row ∈ table.rows, row.approvalId = approvalId
    ∧ reconciler.selects row.intent = true
  returned : ∀ approvalId projectId, ⟨approvalId, projectId⟩ ∈ done.reconciled ↔
    ∃ row ∈ table.rows, row.approvalId = approvalId ∧ row.intent.projectId = projectId
      ∧ row ∉ done.table.rows
  distinct : (done.reconciled.map (·.approvalId)).Nodup

/-- No write that failed left a row behind the cursor of a full page of the abandoned rows. -/
def PagesClear (selects : ApprovalIntent → Bool) (fails : ι → Bool) (table : IntentTable ι) : Prop :=
  (scan fails).Clear (inOrder selects table.rows) maxReconcilePages

theorem abandoned_length (selects : ApprovalIntent → Bool) (table : IntentTable ι) :
    (inOrder selects table.rows).length = table.rows.countP fun row => selects row.intent := by
  rw [inOrder, List.length_insertionSort, List.countP_eq_length_filter]

theorem count_attempts (within : ∀ row ∈ log, row ∈ table.rows) (member : row ∈ table.rows) :
    (log.map (·.approvalId)).count row.approvalId = log.count row := by
  rw [List.count, List.countP_map, List.count]
  refine List.countP_congr fun other logged => ?_
  simp only [Function.comp, beq_iff_eq]
  exact ⟨fun same => Table.eq_of_key (within other logged) member same, fun same => by rw [same]⟩

omit [LinearOrder ι] in
theorem settle_ne (fits : reconciler.Fits) (selected : reconciler.selects row.intent = true) :
    reconciler.settle row ≠ row := fun same => by
  obtain ⟨settled, settles⟩ := fits.takes _ selected
  have left_ := fits.leaves _ _ settles
  have intent : settled = row.intent := by
    rw [← congrArg IntentRow.intent same]
    simp [Reconciler.settle, settles]
  rw [intent, selected] at left_
  cases left_

theorem flipped_iff (fits : reconciler.Fits) (after : After reconciler fails table log progress)
    (within : ∀ row ∈ log, row ∈ inOrder reconciler.selects table.rows) (inTable : row ∈ table.rows)
    :
    row ∉ progress.table.rows ↔ Flipped fails log row := by
  rw [after.rows]
  constructor
  · intro changed
    by_contra unflipped
    exact changed (List.mem_map.mpr ⟨row, inTable, if_neg unflipped⟩)
  · intro flipped kept
    obtain ⟨other, there, same⟩ := List.mem_map.mp kept
    have ids : other.approvalId = row.approvalId := by
      rw [← same]
      split <;> rfl
    obtain rfl := Table.eq_of_key there inTable ids
    rw [if_pos flipped] at same
    exact settle_ne fits (mem_inOrder.mp (within other flipped.1)).2 same

theorem reconcile_once_iff (fits : reconciler.Fits) (fails : ι → Bool) (table : IntentTable ι)
    (room : table.rows.countP (fun row => reconciler.selects row.intent)
      ≤ maxReconcilePages * reconcilePageSize) :
    ReconciledOnce reconciler table (reconcile reconciler fails table)
      ↔ PagesClear reconciler.selects fails table := by
  have begins : After reconciler fails table [] ⟨table, [], [], none⟩ :=
    ⟨by simp [Flipped], rfl, rfl⟩
  have sorted := inOrder_sorted reconciler.selects table
  obtain ⟨once, whole⟩ := Keyset.Scan.run_visits_once_iff (scan_sorted fails _ table) blur_le
    (by decide : 0 < reconcilePageSize) (abandoned_length reconciler.selects table ▸ room)
  have visits : After reconciler fails table
      ((scan fails).run (inOrder reconciler.selects table.rows) maxReconcilePages none [])
      (reconcile reconciler fails table) :=
    reconcilePages_after fits maxReconcilePages begins rfl
  have within : (scan fails).run (inOrder reconciler.selects table.rows) maxReconcilePages none []
      ⊆ inOrder reconciler.selects table.rows :=
    Keyset.Scan.run_subset maxReconcilePages (List.nil_subset _)
  have counts : ∀ row ∈ inOrder reconciler.selects table.rows,
      (reconcile reconciler fails table).attempts.count row.approvalId
        = ((scan fails).run (inOrder reconciler.selects table.rows) maxReconcilePages none []).count
          row := fun row member => by
    rw [visits.attempts]
    exact count_attempts (fun other logged => (mem_inOrder.mp (within logged)).1)
      (mem_inOrder.mp member).1
  constructor
  · intro reconciled
    refine once.mp fun row member => ?_
    obtain ⟨inTable, selected⟩ := mem_inOrder.mp member
    rw [← counts row member]
    exact reconciled.attempted row inTable selected
  · intro clear
    refine ⟨fun row inTable selected => ?_, fun approvalId attempted => ?_,
      fun approvalId projectId => ?_, ?_⟩
    · have member := mem_inOrder.mpr ⟨inTable, selected⟩
      rw [counts row member]
      exact once.mpr clear row member
    · rw [visits.attempts] at attempted
      obtain ⟨row, logged, rfl⟩ := List.mem_map.mp attempted
      obtain ⟨inTable, selected⟩ := mem_inOrder.mp (within logged)
      exact ⟨row, inTable, rfl, selected⟩
    · rw [visits.reconciled]
      constructor
      · intro returned
        obtain ⟨row, member, same⟩ := List.mem_map.mp returned
        obtain ⟨logged, wrote⟩ := List.mem_filter.mp member
        have inTable := (mem_inOrder.mp (within logged)).1
        cases same
        exact ⟨row, inTable, rfl, rfl,
          (flipped_iff fits visits within inTable).mpr ⟨logged, by simpa using wrote⟩⟩
      · rintro ⟨row, inTable, rfl, rfl, changed⟩
        obtain ⟨logged, wrote⟩ := (flipped_iff fits visits within inTable).mp changed
        exact List.mem_map.mpr ⟨row, List.mem_filter.mpr ⟨logged, by simp [wrote]⟩, rfl⟩
    · rw [visits.reconciled, whole clear, List.map_map]
      have ids : ((inOrder reconciler.selects table.rows).map (·.approvalId)).Nodup :=
        List.pairwise_map.mpr (sorted.imp_of_mem fun {row later} member memberLater before same =>
          absurd (congrArg IntentRow.created (Table.eq_of_key (mem_inOrder.mp member).1
            (mem_inOrder.mp memberLater).1 same)) before.ne)
      exact ids.sublist (List.filter_sublist.map _)

/-- Each start-up reconciler attempts every abandoned row once, and returns those it flipped,
exactly where no failed write left a row behind the cursor of a full page. -/
theorem reconciled_once_iff (codec : SettlementCodec) (fails : ι → Bool) (table : IntentTable ι) :
    (table.rows.countP (fun row => dispatchingStudio row.intent)
        ≤ maxReconcilePages * reconcilePageSize →
      (ReconciledOnce (abandonedDispatches codec) table
          (reconcileAbandonedStudioDispatches codec fails table)
        ↔ PagesClear dispatchingStudio fails table)) ∧
    (table.rows.countP (fun row => unstartedStudio row.intent)
        ≤ maxReconcilePages * reconcilePageSize →
      (ReconciledOnce (unstartedApprovals codec) table
          (reconcileUnstartedStudioApprovals codec fails table)
        ↔ PagesClear unstartedStudio fails table)) :=
  ⟨reconcile_once_iff (abandonedDispatches_fits codec) fails table,
    reconcile_once_iff (unstartedApprovals_fits codec) fails table⟩

/-! ## Rows of one millisecond -/

def dispatchedIntent : ApprovalIntent where
  sessionId := []
  missionRunId := none
  origin := .studioMcp
  projectId := none
  scopeVersionAtEnqueue := none
  dispatchGenerationAtEnqueue := none
  expiresAt := none
  idempotencyKey := none
  decidedAt := none
  decision := some .approved
  decisionReason := none
  refusalReason := none
  executionStatus := .dispatching
  executionResultHash := none
  dispatchStartedAt := none
  resultMessageId := none
  resumeConsumedAt := none
  resumeCueMessageId := none
  settlement := none

/-- So many calls, created at successive microseconds. -/
def dispatchedRows (count : ℕ) : IntentTable ℕ where
  rows := (List.range count).map fun n => ⟨n, n + 1, dispatchedIntent⟩
  unique := by
    rw [List.map_map]
    exact (List.map_id _).symm ▸ List.nodup_range

theorem inOrder_dispatchedRows (count : ℕ) :
    inOrder dispatchingStudio (dispatchedRows count).rows = (dispatchedRows count).rows := by
  have all : (dispatchedRows count).rows.filter (fun row => dispatchingStudio row.intent)
      = (dispatchedRows count).rows := by
    refine List.filter_eq_self.mpr fun row member => ?_
    obtain ⟨n, -, rfl⟩ := List.mem_map.mp member
    rfl
  rw [inOrder, all]
  refine List.Pairwise.insertionSort_eq (List.pairwise_map.mpr ?_)
  refine (List.pairwise_lt_range).imp fun {n m} before => Prod.Lex.toLex_le_toLex.mpr (.inl ?_)
  change (n : Int) + 1 < (m : Int) + 1
  omega

def echoCodec : SettlementCodec := ⟨fun _ output => output, id⟩

theorem reconciled_once_iff_three :
    ReconciledOnce (abandonedDispatches echoCodec) (dispatchedRows 3)
        (reconcileAbandonedStudioDispatches echoCodec (fun _ => true) (dispatchedRows 3))
      ↔ PagesClear dispatchingStudio (fun _ => true) (dispatchedRows 3) :=
  (reconciled_once_iff echoCodec (fun _ => true) (dispatchedRows 3)).1 (by decide)

/-- Two hundred rows of one millisecond: the one whose write fails is attempted again. -/
theorem failed_write_is_repeated :
    ¬ ReconciledOnce (abandonedDispatches echoCodec) (dispatchedRows 200)
      (reconcileAbandonedStudioDispatches echoCodec (fun approvalId => approvalId = 0)
        (dispatchedRows 200)) := by
  have room : (dispatchedRows 200).rows.countP (fun row => dispatchingStudio row.intent)
      ≤ maxReconcilePages * reconcilePageSize := by
    refine List.countP_le_length.trans ?_
    simp [dispatchedRows, maxReconcilePages, reconcilePageSize]
  refine (reconcile_once_iff (abandonedDispatches_fits echoCodec) _ _ room).not.mpr fun clear => ?_
  have size : (dispatchedRows 200).rows.length = 200 := by simp [dispatchedRows]
  have first := clear 1 Nat.one_pos (by decide)
  rw [show (abandonedDispatches echoCodec).selects = dispatchingStudio from rfl,
    inOrder_dispatchedRows] at first
  have clearAt : (scan fun approvalId => approvalId = 0).ClearAt (dispatchedRows 200).rows 200 :=
    first size.ge
  unfold Keyset.Scan.ClearAt at clearAt
  rw [List.take_of_length_le size.le] at clearAt
  have member : (⟨0, 1, dispatchedIntent⟩ : IntentRow ℕ) ∈ (dispatchedRows 200).rows :=
    List.mem_map.mpr ⟨0, List.mem_range.mpr (by decide), rfl⟩
  have last : (dispatchedRows 200).rows.getLast? = some ⟨199, 200, dispatchedIntent⟩ := by
    simp [dispatchedRows, List.getLast?_map, List.getLast?_range]
  have behind := clearAt _ member rfl (toLex (0, 199)) (by
    rw [Keyset.Scan.cursor, last]
    rfl)
  revert behind
  decide

end Vex.Approvals
