import Vex.Library.OneShot
import Vex.Wallet.TransactionIntents
import Vex.Wallet.TransferIntents

/-!
# One signature for an intent

Both stores of wallet intents make the same promise: a prepared intent is claimed
at most once, while it waits, before it expires, by the session that prepared it
and with its digest, and what is recorded of its transaction stays.

Transaction intents keep it in every run (`TransactionIntents.promise`). Transfer
intents keep it as long as a linked settlement of an unconfirmed transfer is
given the hash that was recorded (`TransferIntents.promise`): the statement asks
for the linked activity and for a status it may start from, but not for the hash,
and writes the one it was given over it, or none.
-/

namespace Vex.Wallet

open Vex.Library

/-! ## Transfers -/

namespace TransferIntents

/-- The phases of a transfer intent. No digest is bound to it. -/
def oneShot : OneShot WalletIntent Call JsString where
  step := step
  Waiting row := row.status = .pending
  Consuming row := row.status = .consuming
  Unconfirmed row := row.status = .broadcastUnconfirmed
  Executed row := row.status = .executed
  Failed row := row.status = .failed
  hash row := row.txHash
  Owned row call := row.sessionId = call.sessionId
  InTime row call := call.now < row.expiresAt
  Bound _ _ := True

/-- The hash a linked settlement is given, with the activity it names. -/
def Statement.settlement : Statement → Option (Nat × Option JsString)
  | .settleLinkedAsExecuted activityId txHash => some (activityId, some txHash)
  | .settleLinkedAsFailed activityId txHash => some (activityId, some txHash)
  | .settleLinkedAsSuperseded activityId txHash => some (activityId, some txHash)
  | .settleLinkedAsCrashedBeforeBroadcast activityId => some (activityId, none)
  | .settleLinkedAsSignedNotSubmitted activityId => some (activityId, none)
  | _ => none

/-- A linked settlement of an unconfirmed transfer is given the recorded hash. -/
def NamesRecordedHash (row : WalletIntent) (call : Call) : Prop :=
  ∀ activityId txHash, call.statement.settlement = some (activityId, txHash) →
    row.intentId = call.intentId → row.sessionId = call.sessionId →
    row.activityId = some activityId → row.status = .broadcastUnconfirmed → txHash = row.txHash

/-- A transfer as it was prepared, or as the migration left it for review. -/
inductive Prepared : WalletIntent → Prop where
  | created (intentId sessionId : JsString) (network : WalletIntentNetwork) (expiresAt : Instant) :
      Prepared (createWith intentId sessionId network expiresAt)
  | review (row : WalletIntent) (status : row.status = .reviewRequired)
      (hash : row.txHash ≠ none) : Prepared row

/-- What a statement that wrote a row has done to it. -/
structure Moves (row : WalletIntent) (call : Call) (row' : WalletIntent) : Prop where
  owned : row.sessionId = call.sessionId
  kept : row'.sessionId = row.sessionId ∧ row'.expiresAt = row.expiresAt
  source : row.status ∈ [.pending, .consuming, .broadcastUnconfirmed, .reviewRequired]
  left : row'.status ≠ .pending
  claim : row'.status = .consuming → row'.txHash = row.txHash ∧
    (row.status = .consuming ∨ row.status = .pending ∧ call.now < row.expiresAt)
  hash : row'.txHash = row.txHash ∨ row.status = .consuming ∨
    ∃ activityId txHash, call.statement.settlement = some (activityId, txHash) ∧
      row.intentId = call.intentId ∧ row.activityId = some activityId ∧
      row.status = .broadcastUnconfirmed ∧ row'.txHash = txHash
  outcome : row'.status = .executed ∨ row'.status = .broadcastUnconfirmed → row'.txHash ≠ none

variable {row : WalletIntent} {call : Call}

variable {row' : WalletIntent}

theorem settleLinkedWith_moves {activityId : Nat} {status : WalletIntentStatus}
    {txHash failureReason : Option JsString}
    (settlement : call.statement.settlement = some (activityId, txHash))
    (final : status = .executed ∧ txHash ≠ none ∨ status = .failed ∨ status = .supersededUnproven)
    (wrote : settleLinkedWith call.intentId call.sessionId row activityId status txHash failureReason
      = .ok (some row')) : Moves row call row' := by
  rw [settleLinkedWith, casRow_eq_some] at wrote
  obtain ⟨⟨intent, owned, activity, source⟩, -, rfl⟩ := wrote
  refine ⟨owned, ⟨rfl, rfl⟩, ?_, ?_, ?_, ?_, ?_⟩
  · rcases source with source | source <;> simp [source]
  · rcases final with ⟨final, -⟩ | final | final <;> simp [final]
  · intro consuming
    rcases final with ⟨final, -⟩ | final | final <;> simp [final] at consuming
  · rcases source with source | source
    · exact Or.inr (Or.inl source)
    · exact Or.inr (Or.inr ⟨activityId, txHash, settlement, intent, activity, source, rfl⟩)
  · intro outcome
    rcases final with ⟨-, present⟩ | final | final
    · exact present
    · simp [final] at outcome
    · simp [final] at outcome

theorem cas_moves (wrote : call.cas row = .ok (some row')) : Moves row call row' := by
  obtain ⟨now, intentId, sessionId, statement⟩ := call
  cases statement with
  | settleLinkedAsExecuted activityId txHash =>
    exact settleLinkedWith_moves rfl (Or.inl ⟨rfl, by simp⟩) wrote
  | settleLinkedAsFailed activityId txHash | settleLinkedAsCrashedBeforeBroadcast activityId
  | settleLinkedAsSignedNotSubmitted activityId =>
    exact settleLinkedWith_moves rfl (Or.inr (Or.inl rfl)) wrote
  | settleLinkedAsSuperseded activityId txHash =>
    exact settleLinkedWith_moves rfl (Or.inr (Or.inr rfl)) wrote
  | settleLegacyReview txHash confirmed =>
    simp only [Call.cas, settleLegacyReviewWith, casRow_eq_some] at wrote
    obtain ⟨⟨-, owned, source, recorded⟩, -, rfl⟩ := wrote
    refine ⟨owned, ⟨rfl, rfl⟩, by simp [source], ?_, ?_, Or.inl rfl, fun _ => by simp [recorded]⟩
    · cases confirmed <;> simp
    · cases confirmed <;> simp
  | _ =>
    simp only [Call.cas, consumeIfPendingWith, linkActivityWith, markBroadcastUnconfirmedWith,
      markExecutedWith, markFailedWith, markAuditFailedWith, cancelIfPendingWith,
      touchLegacyReviewWith, casRow_eq_some] at wrote
    obtain ⟨guard, -, rfl⟩ := wrote
    constructor <;> simp_all

/-- What every row a prepared transfer becomes satisfies. -/
structure Kept (row : WalletIntent) : Prop where
  unrecorded : row.status = .pending ∨ row.status = .consuming → row.txHash = none
  recorded : row.status = .executed ∨ row.status = .broadcastUnconfirmed → row.txHash ≠ none

theorem Prepared.kept (prepared : Prepared row) : Kept row := by
  cases prepared with
  | created => exact ⟨fun _ => rfl, by rintro (same | same) <;> cases same⟩
  | review _ status hash =>
    constructor
    · rintro (same | same) <;> rw [status] at same <;> cases same
    · exact fun _ => hash

theorem Kept.sound (kept : Kept row) : oneShot.Sound row where
  apart pending := by
    show row.status ≠ .consuming
    rw [show row.status = .pending from pending]
    exact WalletIntentStatus.noConfusion
  executed executed := kept.recorded (Or.inl executed)
  unconfirmed unconfirmed := kept.recorded (Or.inr unconfirmed)

theorem lawful_of_same (kept : Kept row) (same : step row call = row) : oneShot.Law row call := by
  have stays : oneShot.step row call = row := same
  refine ⟨by rw [stays]; exact kept.sound, ?_, ?_, fun _ => stays, ?_, ?_, ?_⟩
  · rintro ⟨apart, consuming⟩
    rw [stays] at consuming
    exact absurd consuming apart
  all_goals simp [stays]

theorem lawful (kept : Kept row) (names : NamesRecordedHash row call) :
    oneShot.Law row call ∧ Kept (oneShot.step row call) := by
  rcases after_cases row (call.cas row) with same | wrote
  · exact ⟨lawful_of_same kept same, by rw [show oneShot.step row call = row from same]; exact kept⟩
  · have moves := cas_moves wrote
    have hash : ∀ h, row.txHash = some h → (step row call).txHash = some h := by
      intro h recorded
      rcases moves.hash with same | consuming | ⟨activityId, txHash, settlement, intent, activity, unconfirmed, written⟩
      · exact same.trans recorded
      · rw [kept.unrecorded (Or.inr consuming)] at recorded
        cases recorded
      · rw [show (step row call).txHash = txHash from written,
          names activityId txHash settlement intent moves.owned activity unconfirmed, recorded]
    have keptAfter : Kept (step row call) := by
      refine ⟨?_, moves.outcome⟩
      rintro (pending | consuming)
      · exact absurd pending moves.left
      · obtain ⟨same, source | source⟩ := moves.claim consuming
        · exact same.trans (kept.unrecorded (Or.inr source))
        · exact same.trans (kept.unrecorded (Or.inl source.1))
    refine ⟨⟨keptAfter.sound, ?_, ?_, fun foreign => absurd moves.owned foreign, ?_, ?_, hash⟩,
      keptAfter⟩
    · rintro ⟨apart, consuming⟩
      rcases (moves.claim consuming).2 with source | ⟨pending, inTime⟩
      · exact absurd source apart
      · exact ⟨pending, moves.owned, inTime, trivial⟩
    · exact fun pending => absurd pending moves.left
    · intro executed
      have source := moves.source
      rw [show row.status = .executed from executed] at source
      simp at source
    · intro failed
      have source := moves.source
      rw [show row.status = .failed from failed] at source
      simp at source

end TransferIntents

/-! ## Transactions -/

namespace TransactionIntents

/-- The phases of a transaction intent. A claim has to name its digest. -/
def oneShot : OneShot WalletTransactionIntent Call JsString where
  step := step
  Waiting row := row.status = .pending
  Consuming row := row.status = .consuming
  Unconfirmed row := row.status = .broadcastUnconfirmed
  Executed row := row.status = .executed
  Failed row := row.status = .failed
  hash row := row.txHash
  Owned row call := row.sessionId = call.sessionId
  InTime row call := call.now < row.expiresAt
  Bound row call := call.statement = .claimIfPending row.proposalDigest

/-- What a statement that wrote a row has done to it. -/
structure Moves (row : WalletTransactionIntent) (call : Call) (row' : WalletTransactionIntent) :
    Prop where
  owned : row.sessionId = call.sessionId
  source : row.status ∈ [.pending, .consuming, .broadcastUnconfirmed]
  left : row'.status ≠ .pending
  claim : row'.status = .consuming → row.status = .consuming ∨
    row.status = .pending ∧ call.now < row.expiresAt ∧
      call.statement = .claimIfPending row.proposalDigest
  hash : row'.txHash = row.txHash ∨ row.status = .consuming
  admitted : checks row' = true

variable {row : WalletTransactionIntent}

variable {call : Call}

theorem cas_moves {row' : WalletTransactionIntent} (wrote : call.cas row = .ok (some row')) :
    Moves row call row' := by
  obtain ⟨now, intentId, sessionId, statement⟩ := call
  cases statement
  all_goals
    simp only [Call.cas, claimIfPendingWith, stampActivityWith, markExecutedWith,
      markChainFailedWith, markPreBroadcastFailedWith, markBroadcastUnconfirmedWith,
      markCrashedBeforeBroadcastWith, markAuditFailedWith, settleUnconfirmedAsExecutedWith,
      settleUnconfirmedAsChainFailedWith, markSupersededUnprovenWith, expireStalePendingWith,
      cancelIfPendingWith, casRow_eq_some, Bool.and_eq_true] at wrote
    obtain ⟨guard, admitted, rfl⟩ := wrote
    refine ⟨?_, ?_, ?_, ?_, ?_, ?_⟩ <;> simp_all

theorem hash_of_checks (admitted : checks row = true) :
    (row.status = .pending ∨ row.status = .consuming → row.txHash = none) ∧
      (row.status = .executed ∨ row.status = .broadcastUnconfirmed → row.txHash ≠ none) := by
  simp only [checks, evidence, Bool.decide_and, Bool.and_eq_true, decide_eq_true_eq] at admitted
  obtain ⟨-, shown, -⟩ := admitted
  constructor
  · rintro (status | status) <;> simp [status] at shown <;> exact shown.1
  · rintro (status | status) <;> simp [status] at shown <;> exact shown.1

theorem sound_of_checks (admitted : checks row = true) : oneShot.Sound row where
  apart pending := by
    show row.status ≠ .consuming
    rw [show row.status = .pending from pending]
    exact WalletTransactionIntentStatus.noConfusion
  executed executed := (hash_of_checks admitted).2 (Or.inl executed)
  unconfirmed unconfirmed := (hash_of_checks admitted).2 (Or.inr unconfirmed)

theorem lawful_of_same (admitted : checks row = true) (same : step row call = row) :
    oneShot.Law row call := by
  have stays : oneShot.step row call = row := same
  refine ⟨by rw [stays]; exact sound_of_checks admitted, ?_, ?_, fun _ => stays, ?_, ?_, ?_⟩
  · rintro ⟨apart, consuming⟩
    rw [stays] at consuming
    exact absurd consuming apart
  all_goals simp [stays]

theorem lawful (admitted : checks row = true) :
    oneShot.Law row call ∧ checks (oneShot.step row call) = true := by
  rcases after_cases row (call.cas row) with same | wrote
  · exact ⟨lawful_of_same admitted same, by
      rw [show oneShot.step row call = row from same]; exact admitted⟩
  · have moves := cas_moves wrote
    refine ⟨⟨sound_of_checks moves.admitted, ?_, ?_, fun foreign => absurd moves.owned foreign, ?_,
      ?_, ?_⟩, moves.admitted⟩
    · rintro ⟨apart, consuming⟩
      rcases moves.claim consuming with source | ⟨pending, inTime, bound⟩
      · exact absurd source apart
      · exact ⟨pending, moves.owned, inTime, bound⟩
    · exact fun pending => absurd pending moves.left
    · intro executed
      have source := moves.source
      rw [show row.status = .executed from executed] at source
      simp at source
    · intro failed
      have source := moves.source
      rw [show row.status = .failed from failed] at source
      simp at source
    · intro h recorded
      rcases moves.hash with same | consuming
      · exact same.trans recorded
      · rw [show oneShot.hash row = none from (hash_of_checks admitted).1 (Or.inr consuming)] at recorded
        cases recorded

end TransactionIntents

/-! ## Both stores -/

/-- A prepared intent authorises one signature: a transaction intent in every run, and a transfer
in every run in which a linked settlement of an unconfirmed transfer is given the recorded hash. -/
theorem intents_authorise_one_signature (row : TransferIntents.WalletIntent)
    (transferCalls : List TransferIntents.Call) (intentId sessionId digest : JsString)
    (expiresAt : Instant) (transactionCalls : List TransactionIntents.Call)
    (prepared : TransferIntents.Prepared row)
    (names : Along TransferIntents.step TransferIntents.NamesRecordedHash row transferCalls) :
    TransferIntents.oneShot.Promise row transferCalls ∧ TransactionIntents.oneShot.Promise
        (TransactionIntents.createWith intentId sessionId digest expiresAt) transactionCalls := by
  constructor
  · exact OneShot.promise_of_lawful prepared.kept.sound (OneShot.lawful_of_invariant
      (fun _ _ kept named => TransferIntents.lawful kept named) prepared.kept names)
  · have admitted : TransactionIntents.checks
        (TransactionIntents.createWith intentId sessionId digest expiresAt) = true := by
      simp [TransactionIntents.checks, TransactionIntents.createWith, TransactionIntents.evidence,
        TransactionIntents.failedEvidence]
    exact OneShot.promise_of_lawful (TransactionIntents.sound_of_checks admitted)
      (OneShot.lawful_of_invariant (fun _ _ kept (_ : True) => TransactionIntents.lawful kept) admitted
        (Along.of_forall (fun _ _ => trivial) _ transactionCalls))

/-- A transfer of session `s` that is claimed, linked and unconfirmed with the hash `a`. -/
def unconfirmedTransfer : List TransferIntents.Call :=
  [⟨1, JsString.ofString "i", JsString.ofString "s", .consumeIfPending⟩,
    ⟨2, JsString.ofString "i", JsString.ofString "s", .linkActivity 7 true true⟩,
    ⟨3, JsString.ofString "i", JsString.ofString "s",
      .markBroadcastUnconfirmed (JsString.ofString "a") (JsString.ofString "r") true⟩]

def preparedTransfer : TransferIntents.WalletIntent :=
  TransferIntents.createWith (JsString.ofString "i") (JsString.ofString "s") .eip155 10

/-- Settled as executed with the recorded hash, it is executed with that hash. -/
theorem intents_authorise_one_signature_settled :
    TransferIntents.oneShot.Promise preparedTransfer (unconfirmedTransfer
      ++ [⟨4, JsString.ofString "i", JsString.ofString "s",
        .settleLinkedAsExecuted 7 (JsString.ofString "a")⟩]) :=
  (intents_authorise_one_signature _ _ (JsString.ofString "t") (JsString.ofString "s")
    (JsString.ofString "d") 10 [] (.created _ _ _ _) (by
    refine ⟨?_, ?_, ?_, ?_, trivial⟩
    · rintro _ _ settlement
      cases settlement
    · rintro _ _ settlement
      cases settlement
    · rintro _ _ settlement
      cases settlement
    · rintro _ _ settlement - - - -
      cases settlement
      rfl)).1

/-- Settled with another hash, the recorded one is lost. -/
theorem recorded_hash_lost : ¬∀ (row : TransferIntents.WalletIntent)
    (calls : List TransferIntents.Call), TransferIntents.Prepared row →
    TransferIntents.oneShot.Promise row calls := by
  intro promised
  have kept := (promised preparedTransfer (unconfirmedTransfer
      ++ [⟨4, JsString.ofString "i", JsString.ofString "s",
        .settleLinkedAsExecuted 7 (JsString.ofString "b")⟩]) (.created _ _ _ _)).hash
    unconfirmedTransfer _ rfl (JsString.ofString "a") (by decide)
  revert kept
  decide

end Vex.Wallet
