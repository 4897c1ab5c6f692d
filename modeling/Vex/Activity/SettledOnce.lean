import Vex.Activity.EvmClaims
import Vex.Library.Fencing

/-!
# A pending row is settled once, by its claimant

The statements of the lane interleave in any order with one another and with the
handler that finalises the row. A terminal row is never changed and nobody holds
it, a claim that its row lost writes nothing more, and the amounts the handler
proved stay.

A row superseded because no node knows its transaction has a recorded run of
observations without inclusion behind it: the clock on the row is the moment of
the first of them (`clock_eq_currentRun`). A row superseded because its nonce is
taken needs no such run (`superseded_without_run`).
-/

namespace Vex.Activity

open Vex.Library
open Vex.Wallet (Instant)

/-! ## Terminal rows -/

/-- Nobody holds a terminal row. -/
def Released (store : Activities) : Prop :=
  ∀ row ∈ store.table.rows, row.status ≠ .pending → row.Unclaimed

variable {row : AgentActivityEvent}

theorem rowStep_of_terminal {store : Activities} (member : row ∈ store.table.rows)
    (terminal : row.status ≠ .pending) (unclaimed : row.Unclaimed) (write : Write) :
    write.rowStep store row = row := by
  unfold Write.rowStep
  split
  case h_1 now limit leaseMs locked =>
    rcases claimRow_cases member now limit leaseMs locked with same | ⟨due, -⟩
    · exact same
    · unfold duePredicate at due
      split at due
      · cases due
      · exact absurd (of_decide_eq_true due).1 terminal
  case h_2 =>
    split_ifs
    · exact Write.onRow_of_terminal terminal unclaimed
    · rfl

variable {write : Write}

theorem onRow_released (released : row.status ≠ .pending → row.Unclaimed)
    (terminal : (write.onRow row).status ≠ .pending) : (write.onRow row).Unclaimed := by
  by_cases pending : row.status = .pending
  case neg =>
    rw [Write.onRow_of_terminal pending (released pending)]
    exact released pending
  case pos =>
    cases write with
    | claimDuePendingEvm now limit leaseMs locked => exact absurd pending terminal
    | releaseEvmClaim now id token =>
      simp only [Write.onRow, releaseEvmClaim] at terminal
      split_ifs at terminal
      · exact absurd pending terminal
      · exact absurd pending terminal
    | noteNonInclusionObserved now id token =>
      simp only [Write.onRow, noteNonInclusionObserved] at terminal
      split_ifs at terminal
      · exact absurd pending terminal
      · exact absurd pending terminal
    | clearNonInclusionClock now id token =>
      simp only [Write.onRow, clearNonInclusionClock] at terminal
      split_ifs at terminal
      · exact absurd pending terminal
      · exact absurd pending terminal
    | terminal now id write committed =>
      simp only [Write.onRow] at terminal ⊢
      rcases terminalRow_cases now write committed row with same | ⟨-, -, -, written⟩
      · rw [same] at terminal
        exact absurd pending terminal
      · rw [written]
        exact (write.written_terminal now row).2

theorem released_step {store : Activities} (released : Released store) (write : Write) :
    Released (step store write) := by
  intro row member terminal
  obtain ⟨before, memberBefore, rfl⟩ := List.mem_map.1 member
  by_cases ended : before.status = .pending
  case neg =>
    rw [rowStep_of_terminal memberBefore ended (released before memberBefore ended)]
    exact released before memberBefore ended
  case pos =>
    revert terminal
    unfold Write.rowStep
    split
    case h_1 now limit leaseMs locked =>
      rcases claimRow_cases memberBefore now limit leaseMs locked with same | ⟨-, _, -, claimed⟩
      · rw [same]
        exact released before memberBefore
      · rw [claimed]
        exact fun terminal => absurd ended terminal
    case h_2 =>
      split_ifs
      · exact onRow_released (released before memberBefore)
      · exact released before memberBefore

theorem terminal_run {store : Activities} (released : Released store) {id : Nat}
    (found : store.table.find? id = some row) (terminal : row.status ≠ .pending)
    (writes : List Write) : (run step store writes).table.find? id = some row := by
  refine (run_induction
    (motive := fun s => Released s ∧ s.table.find? id = some row) ?_ ⟨released, found⟩ writes).2
  rintro s write ⟨released, found⟩
  have member := (Table.find?_eq_some.1 found).1
  refine ⟨released_step released write, ?_⟩
  rw [find?_step, found, Option.map_some,
    rowStep_of_terminal member terminal (released row member terminal)]

/-! ## Claims -/

def tokenOf (store : Activities) (id : Nat) : Option ClaimToken :=
  (store.table.find? id).bind AgentActivityEvent.evmClaimToken

theorem onRow_token (write : Write) (row : AgentActivityEvent) :
    (write.onRow row).evmClaimToken = row.evmClaimToken ∨ (write.onRow row).evmClaimToken = none := by
  cases write with
  | claimDuePendingEvm now limit leaseMs locked => exact .inl rfl
  | releaseEvmClaim now id token =>
    simp only [Write.onRow, releaseEvmClaim]
    split_ifs
    · exact .inr rfl
    · exact .inl rfl
  | noteNonInclusionObserved now id token =>
    simp only [Write.onRow, noteNonInclusionObserved]
    split_ifs <;> exact .inl rfl
  | clearNonInclusionClock now id token =>
    simp only [Write.onRow, clearNonInclusionClock]
    split_ifs <;> exact .inl rfl
  | terminal now id write committed =>
    simp only [Write.onRow]
    rcases terminalRow_cases now write committed row with same | ⟨-, -, -, written⟩
    · exact .inl (congrArg _ same)
    · rw [written]
      exact .inr (write.written_terminal now row).2.1

def claims : Fencing Activities Write Nat where
  step := step
  token := tokenOf
  minted := Activities.minted

theorem claims_lawful (store : Activities) (write : Write) : claims.Law store write := by
  refine ⟨Nat.le_add_right _ _, fun id => ?_⟩
  change tokenOf (step store write) id = tokenOf store id ∨ tokenOf (step store write) id = none ∨
    ∃ token, tokenOf (step store write) id = some token ∧ store.minted ≤ token ∧
      token < store.minted + write.mints store
  simp only [tokenOf, find?_step]
  cases found : store.table.find? id with
  | none => exact .inl rfl
  | some row =>
    simp only [Option.map_some, Option.bind_some]
    unfold Write.rowStep
    split
    case h_1 now limit leaseMs locked =>
      rcases claimRow_cases (Table.find?_eq_some.1 found).1 now limit leaseMs locked with
        same | ⟨-, position, bound, claimed⟩
      · exact .inl (congrArg _ same)
      · rw [claimed]
        exact .inr (.inr ⟨_, rfl, Nat.le_add_right _ _, Nat.add_lt_add_left bound _⟩)
    case h_2 =>
      split_ifs
      · rcases onRow_token write row with same | gone
        · exact .inl same
        · exact .inr (.inl gone)
      · exact .inl rfl

theorem step_of_stale {store : Activities} {id : Nat} {token : ClaimToken}
    (target : write.target = some id) (presented : write.presents = some token)
    (stale : tokenOf store id ≠ some token) : step store write = store := by
  have unchanged : ∀ row ∈ store.table.rows, write.rowStep store row = row := by
    intro row member
    unfold Write.rowStep
    split
    case h_1 => cases target
    case h_2 =>
      split_ifs with about
      · refine Write.onRow_of_stale presented ?_
        rw [target] at about
        obtain rfl := Option.some.inj about
        rwa [tokenOf, Table.find?_eq_some.2 ⟨member, rfl⟩] at stale
      · rfl
  have minted : write.mints store = 0 := by
    cases write with
    | claimDuePendingEvm now limit leaseMs locked => cases target
    | releaseEvmClaim now id token => rfl
    | noteNonInclusionObserved now id token => rfl
    | clearNonInclusionClock now id token => rfl
    | terminal now id write committed => rfl
  obtain ⟨⟨rows, unique⟩, count⟩ := store
  have rowsSame : rows.map (write.rowStep ⟨⟨rows, unique⟩, count⟩) = rows := by
    conv_rhs => rw [← List.map_id rows]
    exact List.map_congr_left unchanged
  simp only [step, Table.rewrite, rowsSame, minted, Nat.add_zero]

/-! ## The recorded run of observations -/

inductive Observation where
  | notIncluded (seenAt : Instant)
  | contrary
  deriving DecidableEq

/-- The observation a statement records on a row: one under the claim of a pending row. -/
def observed (row : AgentActivityEvent) : Write → Option Observation
  | .noteNonInclusionObserved now id claimToken =>
    if id = row.id ∧ row.status = .pending ∧ row.evmClaimToken = some claimToken then
      some (.notIncluded now)
    else none
  | .clearNonInclusionClock _ id claimToken =>
    if id = row.id ∧ row.status = .pending ∧ row.evmClaimToken = some claimToken then
      some .contrary
    else none
  | _ => none

/-- What was observed about a row along a run, in the order it was recorded. -/
def observations (id : Nat) : Activities → List Write → List Observation
  | _, [] => []
  | store, write :: writes =>
    ((store.table.find? id).bind fun row => observed row write).toList
      ++ observations id (step store write) writes

/-- The moments of the observations without inclusion that no contrary one has followed. -/
def currentRun (seen : List Observation) : List Instant :=
  seen.foldl (fun moments observation =>
    match observation with
    | .notIncluded seenAt => moments ++ [seenAt]
    | .contrary => []) []

theorem currentRun_notIncluded (seen : List Observation) (seenAt : Instant) :
    currentRun (seen ++ [.notIncluded seenAt]) = currentRun seen ++ [seenAt] := by
  simp [currentRun]

theorem currentRun_contrary (seen : List Observation) : currentRun (seen ++ [.contrary]) = [] := by
  simp [currentRun]

theorem observations_concat (id : Nat) (store : Activities) (writes : List Write) (write : Write) :
    observations id store (writes ++ [write]) = observations id store writes
        ++ (((run step store writes).table.find? id).bind fun row => observed row write).toList := by
  induction writes generalizing store with
  | nil => simp [observations]
  | cons first writes ih =>
    simp only [List.cons_append, observations, run_cons, ih, List.append_assoc]

/-- What a statement makes of the clock of a row: an observation without inclusion starts it
where it does not run, a contrary one stops it, and nothing else touches it. -/
theorem rowStep_clock (store : Activities) (write : Write) (row : AgentActivityEvent) :
    (write.rowStep store row).firstNoninclusionObservedAt = match observed row write with
        | some (.notIncluded now) => some (row.firstNoninclusionObservedAt.getD now)
        | some .contrary => none
        | none => row.firstNoninclusionObservedAt := by
  cases write with
  | claimDuePendingEvm now limit leaseMs locked =>
    simp only [Write.rowStep, observed, claimRow]
    split <;> rfl
  | releaseEvmClaim now id token =>
    simp only [Write.rowStep, observed, Write.onRow, releaseEvmClaim]
    split_ifs <;> rfl
  | noteNonInclusionObserved now id token =>
    simp only [Write.rowStep, Write.target, observed, Write.onRow, noteNonInclusionObserved,
      Option.some.injEq]
    by_cases about : id = row.id
    · by_cases fence : row.status = .pending ∧ row.evmClaimToken = some token
      · rw [if_pos about, if_pos fence, if_pos ⟨about, fence⟩]
      · rw [if_pos about, if_neg fence, if_neg fun both => fence both.2]
    · rw [if_neg about, if_neg fun both => about both.1]
  | clearNonInclusionClock now id token =>
    simp only [Write.rowStep, Write.target, observed, Write.onRow, clearNonInclusionClock,
      Option.some.injEq]
    by_cases about : id = row.id
    · by_cases fence : row.status = .pending ∧ row.evmClaimToken = some token
      · rw [if_pos about, if_pos fence, if_pos ⟨about, fence⟩]
      · rw [if_pos about, if_neg fence, if_neg fun both => fence both.2]
    · rw [if_neg about, if_neg fun both => about both.1]
  | terminal now id write committed =>
    simp only [Write.rowStep, observed, Write.onRow]
    split_ifs
    · rcases terminalRow_cases now write committed row with same | ⟨-, -, -, written⟩
      · rw [same]
      · rw [written]
        cases write <;> rfl
    · rfl

/-- The lane has not touched the rows: it holds none, and no clock runs. -/
def Untouched (store : Activities) : Prop :=
  ∀ row ∈ store.table.rows, row.Unclaimed ∧ row.firstNoninclusionObservedAt = none

theorem clock_eq_currentRun {start : Activities} (untouched : Untouched start) (id : Nat)
    (writes : List Write) (found : (run step start writes).table.find? id = some row) :
    row.firstNoninclusionObservedAt = (currentRun (observations id start writes)).head? := by
  induction writes using List.reverseRecOn generalizing row with
  | nil => exact (untouched row (Table.find?_eq_some.1 found).1).2
  | append_singleton writes write ih =>
    rw [run_concat, find?_step] at found
    obtain ⟨before, foundBefore, rfl⟩ := Option.map_eq_some_iff.1 found
    rw [rowStep_clock, observations_concat, foundBefore, Option.bind_some, ih foundBefore]
    cases recorded : observed before write with
    | none => simp
    | some observation =>
      cases observation with
      | notIncluded now =>
        simp only [Option.toList_some, currentRun_notIncluded]
        cases currentRun (observations id start writes) <;> rfl
      | contrary => simp [currentRun_contrary]

/-! ## Rows that are declared superseded -/

/-- What a row has to be for a writer to declare it superseded. -/
structure Supersedable (now : Instant) (row : AgentActivityEvent) (claimToken : ClaimToken)
    (reason : SupersededReason) (handlerWindowMs nonInclusionWindowMs : Int) : Prop where
  pending : row.status = .pending
  current : row.evmClaimToken = some claimToken
  hash : row.txHash ≠ none
  submit : ∃ submittedAt, row.submitAttemptedAt = some submittedAt
    ∧ submittedAt + handlerWindowMs ≤ now
  clock : reason = .txUnknownToNode → ∃ firstObservedAt,
    row.firstNoninclusionObservedAt = some firstObservedAt
      ∧ firstObservedAt + nonInclusionWindowMs ≤ now

theorem supersedable_of_run {now : Instant} {claimToken : ClaimToken} {reason : SupersededReason}
    {handlerWindowMs nonInclusionWindowMs : Int} {result : CasResult}
    (ran : runMarkSupersededUnproven now claimToken row reason handlerWindowMs nonInclusionWindowMs
      = .ok result) (changed : result.row ≠ row) :
    Supersedable now row claimToken reason handlerWindowMs nonInclusionWindowMs := by
  rcases runTerminalCas_cases ran with rfl | ⟨fence, pending, -, -⟩
  · exact absurd (supersededMiss_row claimToken row) changed
  · obtain ⟨current, hash, elapsed⟩ := of_decide_eq_true fence
    cases submitted : row.submitAttemptedAt with
    | none => simp [windowsElapsed, submitted] at elapsed
    | some submittedAt =>
      cases reason with
      | nonceSuperseded =>
        simp only [windowsElapsed, submitted, decide_eq_true_eq] at elapsed
        exact ⟨pending, current, hash, ⟨submittedAt, submitted, elapsed⟩,
          fun unknown => by cases unknown⟩
      | txUnknownToNode =>
        cases clock : row.firstNoninclusionObservedAt with
        | none => simp [windowsElapsed, submitted, clock] at elapsed
        | some firstObservedAt =>
          simp only [windowsElapsed, submitted, clock, decide_eq_true_eq] at elapsed
          exact ⟨pending, current, hash,
            ⟨submittedAt, submitted, le_trans (le_max_left _ _) elapsed⟩,
            fun _ => ⟨firstObservedAt, clock, le_trans (le_max_right _ _) elapsed⟩⟩

theorem rowStep_superseded {store : Activities} (member : row ∈ store.table.rows)
    (released : Released store) (before : row.status ≠ .supersededUnproven)
    (superseded : (write.rowStep store row).status = .supersededUnproven) :
    ∃ now claimToken reason handlerWindowMs nonInclusionWindowMs, write = .terminal now row.id
          (.markSupersededUnproven claimToken reason handlerWindowMs nonInclusionWindowMs) true
        ∧ Supersedable now row claimToken reason handlerWindowMs nonInclusionWindowMs := by
  have changed : write.rowStep store row ≠ row := by
    intro same
    rw [same] at superseded
    exact before superseded
  have pending : row.status = .pending := by
    by_contra terminal
    exact changed (rowStep_of_terminal member terminal (released row member terminal) write)
  cases write with
  | claimDuePendingEvm now limit leaseMs locked =>
    rcases claimRow_cases member now limit leaseMs locked with same | ⟨-, _, -, claimed⟩
    · exact absurd same changed
    · simp only [Write.rowStep, claimed] at superseded
      exact absurd superseded before
  | releaseEvmClaim now id token =>
    simp only [Write.rowStep, Write.onRow, releaseEvmClaim] at superseded
    split_ifs at superseded <;> exact absurd superseded before
  | noteNonInclusionObserved now id token =>
    simp only [Write.rowStep, Write.onRow, noteNonInclusionObserved] at superseded
    split_ifs at superseded <;> exact absurd superseded before
  | clearNonInclusionClock now id token =>
    simp only [Write.rowStep, Write.onRow, clearNonInclusionClock] at superseded
    split_ifs at superseded <;> exact absurd superseded before
  | terminal now id write committed =>
    by_cases about : id = row.id
    case neg =>
      refine absurd ?_ changed
      simp [Write.rowStep, Write.target, about]
    case pos =>
      subst about
      simp only [Write.rowStep, Write.target, if_true, Write.onRow] at superseded changed
      rcases terminalRow_cases now write committed row with same | ⟨-, -, rfl, written⟩
      · exact absurd same changed
      · rw [written] at superseded
        cases write with
        | markSupersededUnproven token reason handlerWindowMs nonInclusionWindowMs =>
          refine ⟨now, token, reason, handlerWindowMs, nonInclusionWindowMs, rfl, ?_⟩
          unfold terminalRow at changed
          split at changed
          case h_1 result ran => exact supersedable_of_run ran changed
          case h_2 => exact absurd rfl changed
        | confirmActivityEvent input context => cases superseded
        | confirmActivityEventStatusOnly source context => cases superseded
        | failActivityEvent input context => cases superseded
        | failHashlessActivityEvent input requireInactiveNonceLease => cases superseded

/-! ## Every interleaving -/

/-- What a run that starts in a store promises about every row, wherever it is cut. -/
structure SettlesOnce (start : Activities) (writes : List Write) : Prop where
  /-- A terminal row is never changed again. -/
  once : ∀ before after, writes = before ++ after → ∀ id row,
    (run step start before).table.find? id = some row → row.status ≠ .pending →
      (run step start writes).table.find? id = some row
  /-- Nobody holds a terminal row. -/
  unclaimed : Released (run step start writes)
  /-- Whoever presents a claim that is not the row's changes nothing. -/
  fenced : ∀ before write after, writes = before ++ write :: after → ∀ id token,
    write.target = some id → write.presents = some token →
      tokenOf (run step start before) id ≠ some token →
        step (run step start before) write = run step start before
  /-- A claim that its row lost, to another claim or to a release, never writes again. -/
  reissued : ∀ before taken middle write after,
    writes = before ++ taken :: (middle ++ write :: after) → ∀ id token,
      tokenOf (run step start before) id = some token →
      tokenOf (step (run step start before) taken) id ≠ some token →
      write.target = some id → write.presents = some token →
        step (run step start (before ++ taken :: middle)) write
          = run step start (before ++ taken :: middle)
  /-- The amounts of a confirmation by the handler stay. -/
  amounts : ∀ before now id input committed after, writes = before
      ++ .terminal now id (.confirmActivityEvent input .handlerReturn) committed :: after →
    ∀ row confirmed, (run step start before).table.find? id = some row → row.status = .pending →
      (run step start (before
        ++ [.terminal now id (.confirmActivityEvent input .handlerReturn) committed])).table.find? id
          = some confirmed → confirmed.status = .confirmed →
        (run step start writes).table.find? id = some confirmed ∧ confirmed.executed = input
  /-- A row is declared superseded under its current claim, with a hash, and on a recorded run
  of observations that spans the window where the evidence is that no node knows it. -/
  superseded : ∀ before write after, writes = before ++ write :: after → ∀ id row changed,
    (run step start before).table.find? id = some row → row.status ≠ .supersededUnproven →
    (run step start (before ++ [write])).table.find? id = some changed →
    changed.status = .supersededUnproven →
      ∃ now claimToken reason handlerWindowMs nonInclusionWindowMs, write = .terminal now id
            (.markSupersededUnproven claimToken reason handlerWindowMs nonInclusionWindowMs) true
          ∧ Supersedable now row claimToken reason handlerWindowMs nonInclusionWindowMs
          ∧ (reason = .txUnknownToNode → ∃ first later,
            currentRun (observations id start before) = first :: later
              ∧ first + nonInclusionWindowMs ≤ now)

/-- Along every run from rows that the lane has not touched, each row is settled once and only by
its claimant or by the handler. -/
theorem pending_rows_settle_once (start : Activities) (untouched : Untouched start)
    (writes : List Write) : SettlesOnce start writes := by
  have releasedStart : Released start := fun row member _ => (untouched row member).1
  have released : ∀ ops, Released (run step start ops) := fun ops =>
    run_induction (motive := Released) (fun _ op holds => released_step holds op) releasedStart ops
  have sound : claims.Sound start := by
    intro id token held
    obtain ⟨row, found, heldRow⟩ := Option.bind_eq_some_iff.1 held
    rw [(untouched row (Table.find?_eq_some.1 found).1).1.1] at heldRow
    cases heldRow
  refine ⟨?_, released writes, ?_, ?_, ?_, ?_⟩
  · rintro before after rfl id row found terminal
    rw [run_append]
    exact terminal_run (released before) found terminal after
  · rintro before write after - id token target presented stale
    exact step_of_stale target presented stale
  · rintro before taken middle write after - id token held lost target presented
    refine step_of_stale target presented ?_
    rw [run_append]
    exact Fencing.never_again (m := claims) claims_lawful
      (Fencing.sound_run (m := claims) claims_lawful sound before) held lost middle
  · rintro before now id input committed after rfl row confirmed found pending foundAfter ended
    have foundEnd : (run step start (before ++ .terminal now id
        (.confirmActivityEvent input .handlerReturn) committed :: after)).table.find? id
          = some confirmed := by
      rw [List.append_cons, run_append]
      refine terminal_run (released _) foundAfter ?_ after
      rw [ended]
      decide
    refine ⟨foundEnd, ?_⟩
    rw [run_concat, find?_step, found, Option.map_some, Option.some.injEq] at foundAfter
    have rowId : row.id = id := (Table.find?_eq_some.1 found).2
    subst rowId
    simp only [Write.rowStep, Write.target, if_true, Write.onRow] at foundAfter
    rcases terminalRow_cases now (.confirmActivityEvent input .handlerReturn) committed row with
      same | ⟨-, -, -, written⟩
    · rw [same] at foundAfter
      subst foundAfter
      rw [pending] at ended
      cases ended
    · rw [written] at foundAfter
      subst foundAfter
      rfl
  · rintro before write after - id row changed found notYet foundAfter ended
    rw [run_concat, find?_step, found, Option.map_some, Option.some.injEq] at foundAfter
    subst foundAfter
    obtain ⟨member, rfl⟩ := Table.find?_eq_some.1 found
    obtain ⟨now, claimToken, reason, handlerWindowMs, nonInclusionWindowMs, rfl, able⟩ :=
      rowStep_superseded member (released before) notYet ended
    refine ⟨now, claimToken, reason, handlerWindowMs, nonInclusionWindowMs, rfl, able, ?_⟩
    intro unknown
    obtain ⟨first, clock, spans⟩ := able.clock unknown
    rw [clock_eq_currentRun untouched row.id before found] at clock
    obtain ⟨later, current⟩ := List.head?_eq_some_iff.1 clock
    exact ⟨first, later, current, spans⟩

/-! ## A pending row of a swap -/

def submittedSwap : AgentActivityEvent where
  id := 7
  protocolExecutionId := 3
  eventRole := .swap
  kind := .swap
  chainFamily := .eip155
  chainId := 1
  sessionId := none
  status := .pending
  failureCode := none
  failureReason := none
  tokenIn2Address := none
  tokenOut2Address := none
  executed := ⟨none, none, none, none, none, none, none, none⟩
  txHash := some (JsString.ofString "0x07")
  nonceReservationUntil := none
  submitAttemptedAt := some 0
  lastCheckedAt := none
  confirmedAt := none
  updatedAt := 0
  confirmationSource := none
  settlementSource := none
  pendingReason := none
  evmClaimLeaseUntil := none
  evmClaimToken := none
  firstNoninclusionObservedAt := none

def oneSwap : Activities where
  table := ⟨[submittedSwap], by decide⟩
  minted := 0

theorem oneSwap_untouched : Untouched oneSwap := by
  intro row member
  obtain rfl := List.mem_singleton.1 member
  exact ⟨⟨rfl, rfl⟩, rfl⟩

/-- Two sweepers, of which the first is late, and the handler in between. -/
def lateSweeper : List Write :=
  [.claimDuePendingEvm 100000 evmClaimLimit evmClaimLeaseMs [],
   .noteNonInclusionObserved 100001 7 0,
   .claimDuePendingEvm 140000 evmClaimLimit evmClaimLeaseMs [],
   .terminal 140001 7 (.confirmActivityEventStatusOnly .receiptStatusOnlyEvm (.claim 0)) true,
   .terminal 140002 7 (.confirmActivityEvent
      ⟨none, some [49], none, some [50], none, none, none, none⟩ .handlerReturn) true,
   .releaseEvmClaim 140003 7 1]

theorem pending_rows_settle_once_late : SettlesOnce oneSwap lateSweeper
      ∧ ((run step oneSwap lateSweeper).table.find? 7).map (fun row => (row.status, row.executed.inRaw))
        = some (.confirmed, some [49]) :=
  ⟨pending_rows_settle_once oneSwap oneSwap_untouched lateSweeper, by decide +kernel⟩

/-- A row whose nonce is taken is superseded without any observation on record. -/
theorem superseded_without_run :
    let writes : List Write :=
      [.claimDuePendingEvm 100000 evmClaimLimit evmClaimLeaseMs [],
       .terminal 100001 7 (.markSupersededUnproven 0 .nonceSuperseded 90000
          noninclusionTerminalizeAfterMs) true]
    ((run step oneSwap writes).table.find? 7).map AgentActivityEvent.status
        = some .supersededUnproven
      ∧ observations 7 oneSwap writes = []
      ∧ currentRun (observations 7 oneSwap writes) = [] := by
  decide +kernel

end Vex.Activity
