import Vex.Evm.BroadcastDiscipline

/-!
# What the runs of a staged broadcast show

An accepted list of events is read event by event: each event either leaves what is behind
the stage as it is, adds the next of the conditions that stand before a submission, or ends
the sequence (`Advances`). By induction over the list a stage knows what stands behind it
(`Behind`). The outcome is read off the parts of a run that returned.
-/

namespace Vex.Evm.StagedBroadcast

open Vex.Library Vex.Library.JsString

variable {keccak256 : JsString → JsString} {describeFailureForLog : Failure → JsString}
  {signer : StagedSigner} {tx : StagedTxParams} {policy : Option StagedFeePolicy}

/-! ## Conditions on events -/

/-- The raw transaction is handed to the node. -/
def isSend : BroadcastEvent → Bool
  | ⟨.sendRawTransaction _, _⟩ => true
  | _ => false

/-- The owner of the nonce is given back. -/
def releases : BroadcastEvent → Bool
  | ⟨.releaseNonceOwner, _⟩ => true
  | _ => false

def isGate : BroadcastEvent → Bool
  | ⟨.onBeforeSign _, _⟩ => true
  | _ => false

def acquires : BroadcastEvent → Bool
  | ⟨.acquireEvmNonceOwner _ _, .ok _⟩ => true
  | _ => false

def prepares (tx : StagedTxParams) (draft : Draft) : BroadcastEvent → Bool
  | ⟨.prepareTransactionRequest args, .ok (request : Request)⟩ =>
    args.tx = tx && (⟨args.gas, request⟩ : Draft) = draft
  | _ => false

def reserves (signer : StagedSigner) (draft : Draft) (nonce : Nat) : BroadcastEvent → Bool
  | ⟨.onNonceReserved address chainId nodePendingNonce, .ok (answer : Int)⟩ =>
    address = signer.address && chainId = signer.chainId
      && draft.request.nonce = some nodePendingNonce && answer = nonce
  | _ => false

def pendingIs (signer : StagedSigner) (nonce : Nat) : BroadcastEvent → Bool
  | ⟨.getTransactionCount address, .ok (pending : Int)⟩ =>
    address = signer.address && pending = nonce
  | _ => false

def asksSignature (request : Request) : BroadcastEvent → Bool
  | ⟨.signTransaction signed, _⟩ => signed = request
  | ⟨.signOffline signed, _⟩ => signed = request
  | _ => false

def signs (signer : StagedSigner) (draft : Draft) (nonce : Nat) (serialized : JsString) :
    BroadcastEvent → Bool
  | ⟨.signTransaction request, .ok (bytes : JsString)⟩ =>
    Call.signTransaction request = signing signer draft nonce && bytes = serialized
  | ⟨.signOffline request, .ok (bytes : JsString)⟩ =>
    Call.signOffline request = signing signer draft nonce && bytes = serialized
  | _ => false

/-- The hook that stages these handles completed. -/
def stages (handles : StagedSendHandles) : BroadcastEvent → Bool
  | ⟨.onHashStaged staged, .ok _⟩ => staged = handles
  | _ => false

/-- What stands before the submission of these bytes. -/
def beforeSend (keccak256 : JsString → JsString) (signer : StagedSigner) (tx : StagedTxParams)
    (draft : Draft) (nonce : Nat) (serialized : JsString) : List (BroadcastEvent → Bool) :=
  [acquires, prepares tx draft, reserves signer draft nonce, pendingIs signer nonce,
    signs signer draft nonce serialized, stages ⟨keccak256 serialized, signer.address, nonce⟩]

/-! ## One event -/

section Behind

variable (keccak256 signer tx)

def Stage.done : Stage → List (BroadcastEvent → Bool)
  | .owned => [acquires]
  | .prepared draft => [acquires, prepares tx draft]
  | .reserved draft nonce => [acquires, prepares tx draft, reserves signer draft nonce]
  | .checked draft nonce =>
    [acquires, prepares tx draft, reserves signer draft nonce, pendingIs signer nonce]
  | .signed draft nonce serialized =>
    [acquires, prepares tx draft, reserves signer draft nonce, pendingIs signer nonce,
      signs signer draft nonce serialized]
  | .staged draft nonce serialized => beforeSend keccak256 signer tx draft nonce serialized
  | .sent draft nonce serialized => beforeSend keccak256 signer tx draft nonce serialized
  | .settled draft nonce serialized => beforeSend keccak256 signer tx draft nonce serialized
  | _ => []

def Stage.unsent : Stage → Bool
  | .sent _ _ _ => false
  | .settled _ _ _ => false
  | .concluded => false
  | .finished => false
  | _ => true

/-- The stages at which the owner has not been given back. -/
def Stage.held : Stage → Bool
  | .settled _ _ _ => false
  | .concluded => false
  | .finished => false
  | _ => true

def Stage.returned : Stage → Bool
  | .settled _ _ _ => true
  | .finished => true
  | _ => false

structure Advances (stage : Stage) (event : BroadcastEvent) (stage' : Stage) : Prop where
  done : stage'.done keccak256 signer tx = stage.done keccak256 signer tx ∨
    stage'.done keccak256 signer tx = [] ∨
    ∃ condition, condition event = true ∧
      stage'.done keccak256 signer tx = stage.done keccak256 signer tx ++ [condition]
  sends : isSend event = true → stage.unsent = true ∧ stage'.unsent = false
  unsent : stage'.unsent = true → stage.unsent = true
  held : stage'.held = true → stage.held = true ∧ releases event = false
  returned : stage'.returned = true → stage.returned = true ∨ releases event = true
  checked : ∀ draft nonce, stage' = .checked draft nonce →
    stage = .checked draft nonce ∧ isGate event = true ∨ pendingIs signer nonce event = true

variable {keccak256 signer tx} {stage stage' : Stage} {event : BroadcastEvent}

theorem Advances.idle (plain : isSend event = false) (kept : releases event = false)
    (gate : ∀ draft nonce, stage = .checked draft nonce → isGate event = true) :
    Advances keccak256 signer tx stage event stage where
  done := .inl rfl
  sends sent := by
    rw [plain] at sent
    cases sent
  unsent := id
  held held := ⟨held, kept⟩
  returned := .inl
  checked draft nonce same := .inl ⟨same, gate draft nonce same⟩

theorem Advances.forward (condition : BroadcastEvent → Bool) (plain : isSend event = false)
    (kept : releases event = false) (early : stage.unsent = true) (held : stage.held = true)
    (owed : stage'.returned = false) (met : condition event = true)
    (done : stage'.done keccak256 signer tx = stage.done keccak256 signer tx ++ [condition])
    (checked : ∀ draft nonce, stage' = .checked draft nonce → pendingIs signer nonce event = true) :
    Advances keccak256 signer tx stage event stage' where
  done := .inr (.inr ⟨condition, met, done⟩)
  sends sent := by
    rw [plain] at sent
    cases sent
  unsent _ := early
  held _ := ⟨held, kept⟩
  returned returned := by
    rw [owed] at returned
    cases returned
  checked draft nonce same := .inr (checked draft nonce same)

theorem Advances.ended (plain : isSend event = false) :
    Advances keccak256 signer tx stage event .concluded where
  done := .inr (.inl rfl)
  sends sent := by
    rw [plain] at sent
    cases sent
  unsent unsent := nomatch unsent
  held held := nomatch held
  returned returned := nomatch returned
  checked _ _ same := nomatch same

theorem resolving_advances {request : Option FinalSignedRequest}
    (seen : observeResolving stage request = some stage') (plain : isSend event = false)
    (kept : releases event = false) : Advances keccak256 signer tx stage event stage' := by
  cases stage with
  | reserved draft nonce =>
    obtain ⟨_, same⟩ := Option.ite_none_right_eq_some.1 seen
    obtain rfl := Option.some.inj same
    exact .idle plain kept fun _ _ same => nomatch same
  | _ => cases seen

theorem wait_advances {hash : Option JsString}
    (seen : observeWait keccak256 stage hash = some stage') (plain : isSend event = false)
    (kept : releases event = false) : Advances keccak256 signer tx stage event stage' := by
  cases stage with
  | settled draft nonce serialized =>
    obtain ⟨_, same⟩ := Option.ite_none_right_eq_some.1 seen
    obtain rfl := Option.some.inj same
    exact .idle plain kept fun _ _ same => nomatch same
  | _ => cases seen

theorem signing_advances {call : Call} {answer : Except Failure JsString}
    (seen : observeSigning signer policy stage call answer = some stage')
    (plain : isSend event = false) (kept : releases event = false)
    (met : ∀ draft nonce serialized, call = signing signer draft nonce →
      answer = .ok serialized → signs signer draft nonce serialized event = true) :
    Advances keccak256 signer tx stage event stage' := by
  cases stage with
  | checked draft nonce =>
    obtain ⟨⟨same, _⟩, next⟩ := Option.ite_none_right_eq_some.1 seen
    obtain rfl := Option.some.inj next
    cases answer with
    | error failure => exact .ended plain
    | ok serialized =>
      exact .forward (signs signer draft nonce serialized) plain kept rfl rfl rfl
        (met draft nonce serialized same rfl) rfl fun _ _ same => nomatch same
  | _ => cases seen

theorem observe_advances (seen : observe keccak256 signer tx policy stage event = some stage') :
    Advances keccak256 signer tx stage event stage' := by
  obtain ⟨call, answer⟩ := event
  cases call with
  | acquireEvmNonceOwner address chainId =>
    obtain ⟨⟨rfl, _, _⟩, next⟩ := Option.ite_none_right_eq_some.1 seen
    obtain rfl := Option.some.inj next
    cases answer with
    | error failure => exact .idle rfl rfl fun _ _ same => nomatch same
    | ok _ => exact .forward acquires rfl rfl rfl rfl rfl rfl rfl fun _ _ same => nomatch same
  | estimateGasForPlanLeg account leg | estimateFeesPerGas =>
    obtain ⟨rfl, next⟩ := Option.ite_none_right_eq_some.1 seen
    obtain rfl := Option.some.inj next
    exact .idle rfl rfl fun _ _ same => nomatch same
  | prepareTransactionRequest args =>
    obtain ⟨⟨rfl, _, _, same⟩, next⟩ := Option.ite_none_right_eq_some.1 seen
    obtain rfl := Option.some.inj next
    cases answer with
    | error failure => exact .idle rfl rfl fun _ _ same => nomatch same
    | ok request =>
      refine .forward (prepares tx ⟨args.gas, request⟩) rfl rfl rfl rfl rfl ?_ rfl
        fun _ _ same => nomatch same
      simp [prepares, same]
  | onNonceReserved address chainId pending =>
    cases stage with
    | prepared draft =>
      obtain ⟨⟨sameAddress, sameChain, isPending⟩, next⟩ := Option.ite_none_right_eq_some.1 seen
      obtain rfl := Option.some.inj next
      cases answer with
      | error failure => exact .idle rfl rfl fun _ _ same => nomatch same
      | ok answer =>
        by_cases unsafe_ : answer < 0 ∨ 9007199254740991 < answer
        · have same : Stage.reservedBy draft (.ok answer) = .prepared draft := if_pos unsafe_
          rw [same]
          exact .idle rfl rfl fun _ _ same => nomatch same
        · have same : Stage.reservedBy draft (.ok answer) = .reserved draft answer.toNat :=
            if_neg unsafe_
          rw [same]
          have whole : (answer.toNat : Int) = answer :=
            Int.toNat_of_nonneg (Int.not_lt.1 fun below => unsafe_ (.inl below))
          refine .forward (reserves signer draft answer.toNat) rfl rfl rfl rfl rfl ?_ rfl
            fun _ _ same => nomatch same
          simp [reserves, sameAddress, sameChain, isPending, whole]
    | _ => cases seen
  | deferredBeforeSign request | createSigner | validateNonceReservationScope =>
    exact resolving_advances seen rfl rfl
  | getTransactionCount address =>
    cases stage with
    | reserved draft nonce =>
      obtain ⟨sameAddress, next⟩ := Option.ite_none_right_eq_some.1 seen
      obtain rfl := Option.some.inj next
      cases answer with
      | error failure => exact .idle rfl rfl fun _ _ same => nomatch same
      | ok pending =>
        by_cases equal : pending = nonce
        · have same : Stage.checkedBy draft nonce (.ok pending) = .checked draft nonce :=
            if_pos equal
          rw [same]
          have met : pendingIs signer nonce ⟨.getTransactionCount address, .ok pending⟩ = true := by
            simp [pendingIs, sameAddress, equal]
          refine .forward (pendingIs signer nonce) rfl rfl rfl rfl rfl met rfl ?_
          intro draft' nonce' equal
          obtain ⟨rfl, rfl⟩ := Stage.checked.inj equal
          exact met
        · have same : Stage.checkedBy draft nonce (.ok pending) = .reserved draft nonce :=
            if_neg equal
          rw [same]
          exact .idle rfl rfl fun _ _ same => nomatch same
    | _ => cases seen
  | onBeforeSign request =>
    cases stage with
    | checked draft nonce =>
      obtain ⟨_, next⟩ := Option.ite_none_right_eq_some.1 seen
      obtain rfl := Option.some.inj next
      exact .idle rfl rfl fun _ _ _ => rfl
    | _ => cases seen
  | signTransaction request | signOffline request =>
    refine signing_advances seen rfl rfl fun draft nonce serialized same answered => ?_
    subst answered
    simp [signs, same]
  | onHashStaged handles =>
    cases stage with
    | signed draft nonce serialized =>
      obtain ⟨rfl, next⟩ := Option.ite_none_right_eq_some.1 seen
      obtain rfl := Option.some.inj next
      cases answer with
      | error failure => exact .idle rfl rfl fun _ _ same => nomatch same
      | ok _ =>
        refine .forward (stages ⟨keccak256 serialized, signer.address, nonce⟩) rfl rfl rfl
          rfl rfl ?_ rfl fun _ _ same => nomatch same
        simp [stages]
    | _ => cases seen
  | sendRawTransaction bytes =>
    cases stage with
    | staged draft nonce serialized =>
      obtain ⟨rfl, next⟩ := Option.ite_none_right_eq_some.1 seen
      obtain rfl := Option.some.inj next
      exact ⟨.inl rfl, fun _ => ⟨rfl, rfl⟩, (fun early => nomatch early), fun _ => ⟨rfl, rfl⟩,
        (fun returned => nomatch returned), fun _ _ same => nomatch same⟩
    | _ => cases seen
  | onAccepted | performanceNow | waitForTransactionReceipt hash timeout | delay ms =>
    exact wait_advances seen rfl rfl
  | releaseReservations =>
    obtain ⟨_, next⟩ := Option.ite_none_right_eq_some.1 seen
    obtain rfl := Option.some.inj next
    exact .ended rfl
  | releaseNonceOwner =>
    cases stage with
    | sent draft nonce serialized | concluded =>
      obtain rfl := Option.some.inj seen
      exact ⟨.inl rfl, (fun sent => nomatch sent), (fun early => nomatch early),
        (fun held => nomatch held), fun _ => .inr rfl, fun _ _ same => nomatch same⟩
    | _ => cases seen

/-! ## A whole list -/

/-- The last check of the nonce answered that it is pending, and after it there was only the
hook before the signature. -/
def LastCheck (signer : StagedSigner) (nonce : Nat) (past : List BroadcastEvent) : Prop :=
  ∃ before check gates, past = before ++ check :: gates ∧ pendingIs signer nonce check = true ∧
    ∀ gate ∈ gates, isGate gate = true

variable (keccak256 signer tx) in
structure Behind (stage : Stage) (past : List BroadcastEvent) : Prop where
  inTurn : Program.InTurn (stage.done keccak256 signer tx) past
  once : (past.filter isSend).length ≤ 1
  unsent : stage.unsent = true → past.filter isSend = []
  held : stage.held = true → ∀ event ∈ past, releases event = false
  returned : stage.returned = true → ∃ event ∈ past, releases event = true
  checked : ∀ draft nonce, stage = .checked draft nonce → LastCheck signer nonce past

theorem behind_idle : Behind keccak256 signer tx .idle [] where
  inTurn := .nil _
  once := Nat.zero_le _
  unsent _ := rfl
  held _ := List.forall_mem_nil _
  returned returned := nomatch returned
  checked _ _ same := nomatch same

variable {past : List BroadcastEvent}

theorem Advances.inTurn (advances : Advances keccak256 signer tx stage event stage')
    (behind : Program.InTurn (stage.done keccak256 signer tx) past) :
    Program.InTurn (stage'.done keccak256 signer tx) (past ++ [event]) := by
  obtain same | none | ⟨condition, met, more⟩ := advances.done
  · rw [same]
    exact behind.later event
  · rw [none]
    exact .nil _
  · rw [more]
    exact behind.next met

theorem Advances.behind (advances : Advances keccak256 signer tx stage event stage')
    (behind : Behind keccak256 signer tx stage past) :
    Behind keccak256 signer tx stage' (past ++ [event]) where
  inTurn := advances.inTurn behind.inTurn
  once := by
    rw [List.filter_append, List.length_append]
    cases sent : isSend event with
    | false => simpa [sent] using behind.once
    | true => simp [behind.unsent (advances.sends sent).1, sent]
  unsent unsent := by
    have early := advances.unsent unsent
    have plain : isSend event = false := by
      cases sent : isSend event with
      | false => rfl
      | true =>
        have late := (advances.sends sent).2
        rw [unsent] at late
        cases late
    simp [List.filter_append, behind.unsent early, plain]
  held held := by
    obtain ⟨before, kept⟩ := advances.held held
    intro other among
    obtain earlier | last := List.mem_append.1 among
    · exact behind.held before other earlier
    · rw [List.mem_singleton.1 last]
      exact kept
  returned returned := by
    obtain before | now := advances.returned returned
    · obtain ⟨other, among, given⟩ := behind.returned before
      exact ⟨other, List.mem_append_left _ among, given⟩
    · exact ⟨event, by simp, now⟩
  checked draft nonce same := by
    obtain ⟨before, gate⟩ | now := advances.checked draft nonce same
    · obtain ⟨earlier, check, gates, split, met, only⟩ := behind.checked draft nonce before
      refine ⟨earlier, check, gates ++ [event], by simp [split], met, ?_⟩
      intro other among
      obtain among | last := List.mem_append.1 among
      · exact only other among
      · rw [List.mem_singleton.1 last]
        exact gate
    · exact ⟨past, event, [], rfl, now, List.forall_mem_nil _⟩

theorem behind_of_accepted {events : List BroadcastEvent}
    (accepted : Program.accept (observe keccak256 signer tx policy) .idle events = some stage) :
    Behind keccak256 signer tx stage events :=
  Program.accept_induction (observe keccak256 signer tx policy)
    (motive := Behind keccak256 signer tx)
    (fun _ _ _ _ behind seen => (observe_advances seen).behind behind) behind_idle accepted

theorem behind_event {later : List BroadcastEvent}
    (accepted : Program.accept (observe keccak256 signer tx policy) .idle
      (past ++ event :: later) = some stage') :
    ∃ stage next, Behind keccak256 signer tx stage past ∧
      observe keccak256 signer tx policy stage event = some next := by
  obtain ⟨stage, before, after⟩ := (Program.accept_append _).1 accepted
  obtain ⟨next, seen, _⟩ := Option.bind_eq_some_iff.1 after
  exact ⟨stage, next, behind_of_accepted before, seen⟩

end Behind

/-! ## The outcome -/

def Found (hash : JsString) (found : ReceiptWithReplacement) (events : List BroadcastEvent) :
    Prop :=
  ∃ timeout, (⟨.waitForTransactionReceipt hash timeout, .ok found⟩ : BroadcastEvent) ∈ events

variable {hash : JsString} {found : ReceiptWithReplacement} {events : List BroadcastEvent}

variable {more : List BroadcastEvent}

theorem Found.mono (holds : Found hash found events) (among : events ⊆ more) :
    Found hash found more := by
  obtain ⟨timeout, found⟩ := holds
  exact ⟨timeout, among found⟩

variable (before : List BroadcastEvent)

theorem Found.append (holds : Found hash found events) : Found hash found (before ++ events) :=
  holds.mono (List.subset_append_right before events)

variable {retry : ReceiptWaitRetryOptions} {s : Unit}

theorem waitAttempts_ok (left attempt : Nat) (lastError : Failure)
    (ends : Program.Ends (waitAttempts retry hash left attempt lastError) s events (.ok found)) :
    Found hash found events := by
  induction left generalizing attempt lastError events with
  | zero => cases ends
  | succ left ih =>
    obtain ⟨budget, _, looked, rest, rfl, _, ends⟩ := Program.ends_bind_ok ends
    refine .append looked ?_
    split at ends
    · cases ends
    · obtain ⟨waited, _, asked, rest, rfl, tried, ends⟩ := Program.ends_bind_ok ends
      have tried := Program.ends_attempt tried
      cases waited with
      | ok answer =>
        cases ends
        rw [Program.ends_perform_ok tried]
        exact ⟨budget, by simp⟩
      | error failure =>
        refine .append asked ?_
        dsimp only at ends
        split at ends
        · cases ends
        · obtain ⟨over_, _, looked, rest, rfl, _, ends⟩ := Program.ends_bind_ok ends
          refine .append looked ?_
          split at ends
          · cases ends
          · obtain ⟨_, _, paused, rest, rfl, _, ends⟩ := Program.ends_bind_ok ends
            exact .append paused (ih _ _ ends)

theorem waitForReceiptWithReplacementEvidence_ok
    (ends : Program.Ends (waitForReceiptWithReplacementEvidence retry hash) s events (.ok found)) :
    Found hash found events := by
  unfold waitForReceiptWithReplacementEvidence at ends
  split at ends
  · cases ends
  · split at ends
    · cases ends
    · exact waitAttempts_ok _ _ _ ends

/-- A replacement has the sender, the nonce, the recipient, the data and the value of what was
staged. -/
structure SameTransaction (handles : StagedSendHandles) (tx : StagedTxParams)
    (replacement : ReceiptReplacementEvidence) : Prop where
  replaced : sameText replacement.replacedTxHash handles.txHash = true
  sender : sameText replacement.fromAddress handles.fromAddress = true
  nonce : replacement.nonce = handles.nonce
  recipient : ∃ recipient, replacement.to_ = some recipient ∧ sameText recipient tx.to_ = true
  data : sameText replacement.data tx.data = true
  value : replacement.value = tx.value

variable {handles : StagedSendHandles}

theorem sameTransaction_of_proves {tx : StagedTxParams}
    {gasLimit maxFeePerGas maxPriorityFeePerGas maxNetworkFeeWei : Nat}
    {replacement : ReceiptReplacementEvidence}
    (proves : provesReplacement handles tx gasLimit maxFeePerGas maxPriorityFeePerGas
      maxNetworkFeeWei replacement = true) : SameTransaction handles tx replacement := by
  simp only [provesReplacement, Bool.and_eq_true, decide_eq_true_eq] at proves
  obtain ⟨⟨⟨⟨⟨⟨⟨⟨⟨⟨_, replaced⟩, sender⟩, nonce⟩, recipient⟩, data⟩, value⟩, _⟩, _⟩, _⟩, _⟩ := proves
  refine ⟨replaced, sender, nonce, ?_, data, value⟩
  cases named : replacement.to_ with
  | none =>
    rw [named] at recipient
    cases recipient
  | some recipient' =>
    rw [named] at recipient
    exact ⟨recipient', rfl, recipient⟩

/-- An outcome that is a receipt: it was found for the staged hash, and a replacement is the
same transaction. -/
structure Proven (handles : StagedSendHandles) (tx : StagedTxParams)
    (events : List BroadcastEvent) (receipt : TransactionReceipt)
    (replacement : Option ReceiptReplacementEvidence) : Prop where
  found : Found handles.txHash ⟨receipt, replacement⟩ events
  same : ∀ other ∈ replacement, SameTransaction handles tx other

def Outcome.ProvenBy (handles : StagedSendHandles) (tx : StagedTxParams)
    (events : List BroadcastEvent) : Outcome → Prop
  | .confirmed txHash receipt replacement =>
    txHash = handles.txHash ∧ receipt.success = true ∧ Proven handles tx events receipt replacement
  | .reverted txHash receipt replacement =>
    txHash = handles.txHash ∧ receipt.success = false ∧ Proven handles tx events receipt replacement
  | .ambiguousSend txHash _ => txHash = handles.txHash
  | .ambiguousConfirm txHash _ => txHash = handles.txHash

theorem settledOutcome_proven {receipt : TransactionReceipt}
    {replacement : Option ReceiptReplacementEvidence}
    (proven : Proven handles tx events receipt replacement) :
    (settledOutcome handles.txHash receipt replacement).ProvenBy handles tx events := by
  unfold settledOutcome
  split
  · exact ⟨rfl, ‹_›, proven⟩
  · exact ⟨rfl, Bool.eq_false_iff.2 ‹_›, proven⟩

variable {outcome : Outcome}

theorem Outcome.ProvenBy.mono (proven : outcome.ProvenBy handles tx events) (among : events ⊆ more)
    :
    outcome.ProvenBy handles tx more := by
  cases outcome with
  | confirmed txHash receipt replacement | reverted txHash receipt replacement =>
    obtain ⟨same, success, found, others⟩ := proven
    exact ⟨same, success, found.mono among, others⟩
  | ambiguousSend txHash reason => exact proven
  | ambiguousConfirm txHash reason => exact proven

theorem Outcome.ProvenBy.append (proven : outcome.ProvenBy handles tx events) :
    outcome.ProvenBy handles tx (before ++ events) :=
  proven.mono (List.subset_append_right before events)

theorem awaitReceipt_ok
    (ends : Program.Ends (awaitReceipt policy retry handles tx) s events (.ok outcome)) :
    outcome.ProvenBy handles tx events := by
  unfold awaitReceipt at ends
  split at ends
  · rename_i gasLimit maxFee maxPriority maxNetworkFee
    obtain ⟨waited, _, asked, rest, rfl, before, ends⟩ := Program.ends_bind_ok ends
    have found := waitForReceiptWithReplacementEvidence_ok before
    split at ends
    · rename_i proves
      cases ends
      rw [List.append_nil]
      refine settledOutcome_proven ⟨found, fun other among => ?_⟩
      exact sameTransaction_of_proves (Option.all_eq_true _ _ |>.1 proves other among)
    · cases ends
      rfl
  · obtain ⟨receipt, _, asked, rest, rfl, before, ends⟩ := Program.ends_bind_ok ends
    cases ends
    rw [List.append_nil]
    obtain ⟨waited, _, asked, rest, rfl, before, ends⟩ := Program.ends_bind_ok before
    have found := waitForReceiptWithReplacementEvidence_ok before
    split at ends
    · rename_i attributed
      cases ends
      rw [List.append_nil]
      refine settledOutcome_proven ⟨?_, nofun⟩
      rw [← attributed]
      exact found
    · cases ends

theorem submit_ok {serialized : JsString}
    (ends : Program.Ends (submit describeFailureForLog policy retry serialized handles tx) s events
      (.ok outcome)) : outcome.ProvenBy handles tx events := by
  obtain ⟨sent, _, submitted, rest, rfl, _, ends⟩ := Program.ends_bind_ok ends
  obtain ⟨_, _, released, rest, rfl, _, ends⟩ := Program.ends_bind_ok ends
  refine .append submitted (.append released ?_)
  cases sent with
  | error failure =>
    cases ends
    rfl
  | ok _ =>
    obtain ⟨_, _, accepted, rest, rfl, _, ends⟩ := Program.ends_bind_ok ends
    obtain ⟨waited, _, awaited, rest, rfl, before, ends⟩ := Program.ends_bind_ok ends
    refine .append accepted ?_
    cases waited with
    | error failure =>
      cases ends
      rfl
    | ok outcome' =>
      cases ends
      rw [List.append_nil]
      exact awaitReceipt_ok (Program.ends_attempt before)

/-- The handles were staged for the reserved nonce, and the outcome is proven of them. -/
def StagedOutcome (signer : StagedSigner) (tx : StagedTxParams) (events : List BroadcastEvent)
    (outcome : Outcome) : Prop :=
  ∃ handles, (∃ event ∈ events, stages handles event = true) ∧
    handles.fromAddress = signer.address ∧ outcome.ProvenBy handles tx events

theorem StagedOutcome.mono (staged : StagedOutcome signer tx events outcome) (among : events ⊆ more)
    :
    StagedOutcome signer tx more outcome := by
  obtain ⟨handles, ⟨event, member, stages⟩, sender, proven⟩ := staged
  exact ⟨handles, ⟨event, among member, stages⟩, sender, proven.mono among⟩

theorem StagedOutcome.append (staged : StagedOutcome signer tx events outcome) :
    StagedOutcome signer tx (before ++ events) outcome :=
  staged.mono (List.subset_append_right before events)

theorem stagedOutcome_of_signed {wallet : Option ResolvedSigner} {request : Request} {nonce : Nat}
    (ends : Program.Ends (do
      let serialized ← sign signer wallet request
      ask (Call.onHashStaged ⟨keccak256 serialized, signer.address, nonce⟩)
      submit describeFailureForLog policy retry serialized
        ⟨keccak256 serialized, signer.address, nonce⟩ tx) s events (.ok outcome)) :
    StagedOutcome signer tx events outcome := by
  obtain ⟨serialized, _, signed, rest, rfl, _, ends⟩ := Program.ends_bind_ok ends
  obtain ⟨_, _, staged, rest, rfl, before, ends⟩ := Program.ends_bind_ok ends
  refine .append signed ⟨⟨keccak256 serialized, signer.address, nonce⟩, ?_, rfl, ?_⟩
  · rw [Program.ends_perform_ok before]
    exact ⟨_, List.mem_append_left _ (List.mem_singleton.2 rfl), by simp [stages]⟩
  · exact (submit_ok ends).append staged

variable {gated : Bool}

theorem runStagedBroadcast_ok
    (ends : Program.Ends (runStagedBroadcast keccak256 describeFailureForLog signer tx gated retry
      policy) s events (.ok outcome)) : StagedOutcome signer tx events outcome := by
  obtain ⟨gasEstimate, _, estimated, rest, rfl, _, ends⟩ := Program.ends_bind_ok ends
  obtain ⟨fees, _, priced, rest, rfl, _, ends⟩ := Program.ends_bind_ok ends
  obtain ⟨request, _, prepared, rest, rfl, _, ends⟩ := Program.ends_bind_ok ends
  obtain ⟨nonce, _, reserved, rest, rfl, _, ends⟩ := Program.ends_bind_ok ends
  obtain ⟨_, _, assessed, rest, rfl, _, ends⟩ := Program.ends_bind_ok ends
  obtain ⟨wallet, _, resolved, rest, rfl, _, ends⟩ := Program.ends_bind_ok ends
  obtain ⟨_, _, checked, rest, rfl, _, ends⟩ := Program.ends_bind_ok ends
  refine .append estimated (.append priced (.append prepared (.append reserved (.append assessed
    (.append resolved (.append checked ?_))))))
  cases gated with
  | false => exact stagedOutcome_of_signed ends
  | true =>
    obtain ⟨_, _, gate, rest, rfl, _, ends⟩ := Program.ends_bind_ok ends
    exact .append gate (stagedOutcome_of_signed ends)

theorem signStageBroadcast_ok
    (ends : Program.Ends (signStageBroadcast keccak256 describeFailureForLog signer tx gated retry
      policy) s events (.ok outcome)) : StagedOutcome signer tx events outcome := by
  obtain ⟨_, _, acquired, rest, rfl, _, ends⟩ := Program.ends_bind_ok ends
  unfold holdingNonceOwner at ends
  obtain ⟨result, _, ran, rest, rfl, before, ends⟩ := Program.ends_bind_ok ends
  obtain ⟨_, _, cleaned, rest, rfl, _, ends⟩ := Program.ends_bind_ok ends
  obtain ⟨_, _, released, rest, rfl, _, ends⟩ := Program.ends_bind_ok ends
  have same : result = .ok outcome := by
    cases result with
    | error failure => cases ends
    | ok outcome' =>
      cases ends
      rfl
  subst same
  have staged : StagedOutcome signer tx ran outcome :=
    runStagedBroadcast_ok (Program.ends_attempt before)
  exact .append acquired (staged.mono (List.subset_append_left ran _))

/-! ## The discipline -/

/-- Preparation fills in what is missing of a transaction and keeps what was given. -/
def PreparationKeeps (events : List BroadcastEvent) : Prop :=
  ∀ (args : PrepareArgs) (request : Request),
    (⟨.prepareTransactionRequest args, .ok request⟩ : BroadcastEvent) ∈ events →
      request.to_ = some args.tx.to_ ∧ request.data = some args.tx.data ∧
        request.value = some args.tx.value

/-- What is signed: the draft that was prepared of the transaction, with the nonce that was
reserved for it and that the last check before found pending, within what was approved; by
the action of a given signer, and offline by a deferred one. -/
structure SignedAsApproved (signer : StagedSigner) (tx : StagedTxParams)
    (policy : Option StagedFeePolicy) (past : List BroadcastEvent) (call : Call)
    (request : Request) (draft : Draft) (nonce : Nat) : Prop where
  reserved : Program.InTurn [acquires, prepares tx draft, reserves signer draft nonce] past
  checked : LastCheck signer nonce past
  call : call = signing signer draft nonce
  within : withinPolicy policy request = true
  nonce : request.nonce = some nonce
  gas : request.gas = some draft.gas
  recipient : request.to_ = some tx.to_
  data : request.data = some tx.data
  value : request.value = some tx.value

structure Disciplined (keccak256 : JsString → JsString) (signer : StagedSigner)
    (tx : StagedTxParams) (policy : Option StagedFeePolicy) (events : List BroadcastEvent)
    (result : Except Failure Outcome) : Prop where
  /-- The raw transaction is sent at most once. -/
  once : (events.filter isSend).length ≤ 1
  /-- It was signed, and its hash was staged, before. -/
  sent : ∀ past bytes answer later, events = past ++ ⟨.sendRawTransaction bytes, answer⟩ :: later →
    ∃ draft nonce, Program.InTurn (beforeSend keccak256 signer tx draft nonce bytes) past
  /-- Where nothing was staged nothing is sent. -/
  unstaged : (∀ event ∈ events, ∀ handles, stages handles event = false) → events.filter isSend = []
  /-- Every signature is of what was approved. -/
  signed : ∀ past event later request, events = past ++ event :: later →
    asksSignature request event = true →
      ∃ draft nonce, SignedAsApproved signer tx policy past event.1 request draft nonce
  /-- The owner is given back on every path. -/
  released : (∃ event ∈ events, acquires event = true) → ∃ event ∈ events, releases event = true
  /-- It is not given back before the submission has settled. -/
  held : ∀ past event later, events = past ++ event :: later → isSend event = true →
    ∀ earlier ∈ past, releases earlier = false
  /-- It is given back before the wait for the receipt. -/
  returned : ∀ past hash timeout answer later,
    events = past ++ ⟨.waitForTransactionReceipt hash timeout, answer⟩ :: later →
      ∃ earlier ∈ past, releases earlier = true
  /-- An outcome is of the hash that was staged. -/
  outcome : ∀ outcome, result = .ok outcome → StagedOutcome signer tx events outcome

/-! ### Its parts -/

section Parts

variable {events past later : List BroadcastEvent} {final : Stage}

theorem sent_of_accepted {bytes : JsString} {answer : Except Failure Unit}
    (accepted : Program.accept (observe keccak256 signer tx policy) .idle
      (past ++ ⟨.sendRawTransaction bytes, answer⟩ :: later) = some final) :
    ∃ draft nonce, Behind keccak256 signer tx (.staged draft nonce bytes) past := by
  obtain ⟨stage, next, behind, seen⟩ := behind_event accepted
  cases stage with
  | staged draft nonce serialized =>
    obtain ⟨rfl, _⟩ := Option.ite_none_right_eq_some.1 seen
    exact ⟨draft, nonce, behind⟩
  | _ => cases seen

variable {draft : Draft}

theorem kept_of_inTurn {conditions : List (BroadcastEvent → Bool)} (keeps : PreparationKeeps past)
    (inTurn : Program.InTurn conditions past) (member : prepares tx draft ∈ conditions) :
    draft.request.to_ = some tx.to_ ∧ draft.request.data = some tx.data ∧
      draft.request.value = some tx.value := by
  obtain ⟨⟨call, answer⟩, among, met⟩ := inTurn.exists_of_mem member
  cases call with
  | prepareTransactionRequest args =>
    cases answer with
    | error failure => cases met
    | ok request =>
      simp only [prepares, Bool.and_eq_true, decide_eq_true_eq] at met
      obtain ⟨rfl, rfl⟩ := met
      exact keeps args request among
  | _ => cases answer <;> cases met

variable {request : Request} {event : BroadcastEvent}

theorem signing_request {nonce : Nat} (call : event.1 = signing signer draft nonce)
    (asks : asksSignature request event = true) :
    ∃ chainId, request = { draft.signed nonce with chainId := chainId } := by
  obtain ⟨call', answer⟩ := event
  dsimp only at call
  subst call
  cases signer with
  | eager address chainId =>
    have same : draft.signed nonce = request := by simpa [asksSignature, signing] using asks
    exact ⟨(draft.signed nonce).chainId, same.symm⟩
  | deferred address chainId =>
    have same : { draft.signed nonce with chainId := some chainId } = request := by
      simpa [asksSignature, signing] using asks
    exact ⟨some chainId, same.symm⟩

theorem withinPolicy_chain (chainId : Option Nat) :
    withinPolicy policy { request with chainId := chainId } = withinPolicy policy request := by
  cases policy with
  | none => rfl
  | some policy => cases policy <;> rfl

theorem signedAsApproved_of_checked {nonce : Nat}
    (behind : Behind keccak256 signer tx (.checked draft nonce) past)
    (keeps : PreparationKeeps past) (call : event.1 = signing signer draft nonce)
    (within : withinPolicy policy (draft.signed nonce) = true)
    (asks : asksSignature request event = true) :
    SignedAsApproved signer tx policy past event.1 request draft nonce := by
  have inTurn : Program.InTurn ([acquires, prepares tx draft, reserves signer draft nonce] ++
      [pendingIs signer nonce]) past := behind.inTurn
  have reserved := inTurn.front
  obtain ⟨recipient, data, value⟩ := kept_of_inTurn keeps reserved (.tail _ (.head _))
  obtain ⟨chainId, rfl⟩ := signing_request call asks
  exact ⟨reserved, behind.checked draft nonce rfl, call,
    (withinPolicy_chain chainId).trans within, rfl, rfl, recipient, data, value⟩

theorem signed_of_accepted (accepted : Program.accept (observe keccak256 signer tx policy) .idle
      (past ++ event :: later) = some final) (keeps : PreparationKeeps past)
    (asks : asksSignature request event = true) :
    ∃ draft nonce, SignedAsApproved signer tx policy past event.1 request draft nonce := by
  obtain ⟨stage, next, behind, seen⟩ := behind_event accepted
  have observed : ∃ answer, observeSigning signer policy stage event.1 answer = some next := by
    obtain ⟨call, answer⟩ := event
    cases call with
    | signTransaction request => exact ⟨answer, seen⟩
    | signOffline request => exact ⟨answer, seen⟩
    | _ => cases answer <;> cases asks
  obtain ⟨answer, seen⟩ := observed
  cases stage with
  | checked draft nonce =>
    obtain ⟨⟨call, within⟩, _⟩ := Option.ite_none_right_eq_some.1 seen
    exact ⟨draft, nonce, signedAsApproved_of_checked behind keeps call within asks⟩
  | _ => cases seen

theorem returned_of_accepted {hash : JsString} {timeout : Nat}
    {answer : Except Failure ReceiptWithReplacement}
    (accepted : Program.accept (observe keccak256 signer tx policy) .idle
      (past ++ ⟨.waitForTransactionReceipt hash timeout, answer⟩ :: later) = some final) :
    ∃ earlier ∈ past, releases earlier = true := by
  obtain ⟨stage, next, behind, seen⟩ := behind_event accepted
  cases stage with
  | settled draft nonce serialized => exact behind.returned rfl
  | _ => cases seen

theorem unstaged_of_accepted
    (accepted : Program.accept (observe keccak256 signer tx policy) .idle events = some final)
    (unstaged : ∀ event ∈ events, ∀ handles, stages handles event = false) :
    events.filter isSend = [] := by
  refine List.filter_eq_nil_iff.2 fun event among sends => ?_
  obtain ⟨past, later, rfl⟩ := List.append_of_mem among
  obtain ⟨call, answer⟩ := event
  cases call with
  | sendRawTransaction bytes =>
    obtain ⟨draft, nonce, behind⟩ := sent_of_accepted accepted
    have staged : stages ⟨keccak256 bytes, signer.address, nonce⟩ ∈
        Stage.done keccak256 signer tx (.staged draft nonce bytes) := by
      simp only [Stage.done, beforeSend, List.mem_cons, true_or, or_true]
    obtain ⟨event, among, met⟩ := behind.inTurn.exists_of_mem staged
    have never := unstaged event (List.mem_append_left _ among)
      ⟨keccak256 bytes, signer.address, nonce⟩
    rw [met] at never
    cases never
  | _ => cases answer <;> cases sends

end Parts

theorem released_of_ends {result : Except Failure Outcome}
    (ends : Program.Ends (signStageBroadcast keccak256 describeFailureForLog signer tx gated retry
      policy) () events result) (acquired : ∃ event ∈ events, acquires event = true) :
    ∃ event ∈ events, releases event = true := by
  cases ends with
  | @call _ _ _ rest _ answer ends =>
    cases answer with
    | error failure =>
      cases ends
      obtain ⟨event, among, acquires⟩ := acquired
      rw [List.mem_singleton.1 among] at acquires
      cases acquires
    | ok _ =>
      obtain ⟨_, _, accepted, rfl⟩ := Program.ends_of_wp _
        (holdingNonceOwner_wp keccak256 describeFailureForLog signer tx policy gated retry) ends
      have first : observe keccak256 signer tx policy .idle
          ⟨.acquireEvmNonceOwner signer.address signer.chainId, .ok ()⟩ = some .owned :=
        if_pos ⟨rfl, rfl, rfl⟩
      have all : Program.accept (observe keccak256 signer tx policy) .idle
          (⟨.acquireEvmNonceOwner signer.address signer.chainId, .ok ()⟩ :: rest) =
            some .finished := by
        rw [Program.accept, first]
        exact accepted
      exact (behind_of_accepted all).returned rfl

/-- Every run of the sequence to its end is disciplined, whatever its calls answer. -/
theorem run_disciplined (keccak256 : JsString → JsString)
    (describeFailureForLog : Failure → JsString) (signer : StagedSigner) (tx : StagedTxParams)
    (gated : Bool) (retry : ReceiptWaitRetryOptions) (policy : Option StagedFeePolicy)
    {events : List BroadcastEvent} {result : Except Failure Outcome}
    (ends : Program.Ends (signStageBroadcast keccak256 describeFailureForLog signer tx gated retry
      policy) () events result) (keeps : PreparationKeeps events) :
    Disciplined keccak256 signer tx policy events result := by
  obtain ⟨final, accepted⟩ := Program.accepted_of_wp _
    (signStageBroadcast_wp keccak256 describeFailureForLog signer tx policy gated retry) ends.emits
  have behind := behind_of_accepted accepted
  refine ⟨behind.once, ?_, unstaged_of_accepted accepted, ?_, released_of_ends ends, ?_, ?_, ?_⟩
  · rintro past bytes answer later rfl
    obtain ⟨draft, nonce, behind⟩ := sent_of_accepted accepted
    exact ⟨draft, nonce, behind.inTurn⟩
  · rintro past event later request rfl asks
    exact signed_of_accepted accepted
      (fun args request among => keeps args request (List.mem_append_left _ among)) asks
  · rintro past ⟨call, answer⟩ later rfl sends
    cases call with
    | sendRawTransaction bytes =>
      obtain ⟨draft, nonce, behind⟩ := sent_of_accepted accepted
      exact behind.held rfl
    | _ => cases answer <;> cases sends
  · rintro past hash timeout answer later rfl
    exact returned_of_accepted accepted
  · rintro outcome rfl
    exact signStageBroadcast_ok ends

/-! ## A run in which everything succeeds -/

section Smooth

def recipient : JsString := "0xdeaddeaddeaddeaddeaddeaddeaddeaddeaddead"

def sender : JsString := "0x1111111111111111111111111111111111111111"

def signedBytes : JsString :=
  "0x02e20107021e82a41094deaddeaddeaddeaddeaddeaddeaddeaddeaddead0580c080090b"

def signedHash : JsString :=
  "0x4003baf2263e6bb8c5e98afb37cdae956d6f89684a382bf108900d27df49f249"

def smallPayment : StagedTxParams := ⟨recipient, ("0x" : JsString), 5⟩

/-- The node estimates 21000 units of gas and has nonce 7 pending, and the receipt is found. -/
def smooth : (call : Call) → Except Failure call.Answer
  | .acquireEvmNonceOwner _ _ => .ok ()
  | .releaseNonceOwner => .ok ()
  | .releaseReservations => .ok ()
  | .estimateGasForPlanLeg _ _ => .ok (21000 : Nat)
  | .estimateFeesPerGas => .ok ((30, 2) : Nat × Nat)
  | .prepareTransactionRequest args =>
    .ok (⟨some args.tx.to_, some args.tx.data, some args.tx.value, some args.gas, some 7,
      some args.chainId, ⟨none, some 30, some 2⟩⟩ : Request)
  | .onNonceReserved _ _ nodePendingNonce => .ok (nodePendingNonce : Int)
  | .deferredBeforeSign _ => .ok ()
  | .createSigner => .ok (⟨sender, 1, true⟩ : ResolvedSigner)
  | .validateNonceReservationScope => .ok ()
  | .getTransactionCount _ => .ok (7 : Int)
  | .onBeforeSign _ => .ok ()
  | .signTransaction _ => .ok signedBytes
  | .signOffline _ => .ok signedBytes
  | .onHashStaged _ => .ok ()
  | .sendRawTransaction _ => .ok ()
  | .onAccepted => .ok ()
  | .performanceNow => .ok (0 : Nat)
  | .waitForTransactionReceipt _ _ => .ok (⟨⟨true, 100⟩, none⟩ : ReceiptWithReplacement)
  | .delay _ => .ok ()

/-- The payment with a deferred signer, priced at most at 40 and 3 wei. -/
def paymentRun : Broadcast Outcome :=
  signStageBroadcast (fun _ => signedHash) (fun _ => ("failed" : JsString)) (.deferred sender 1)
    smallPayment true ⟨2000, 3, 120000⟩ (some (.eip1559 (some 42000) 40 3))

theorem run_disciplined_payment :
    paymentRun.outcome smooth () = .ok (.confirmed signedHash ⟨true, 100⟩ none) ∧
      Disciplined (fun _ => signedHash) (.deferred sender 1) smallPayment
        (some (.eip1559 (some 42000) 40 3)) (paymentRun.trace smooth ())
        (paymentRun.outcome smooth ()) := by
  refine ⟨by decide, run_disciplined _ _ _ _ _ _ _ (Program.ends_trace smooth _ ()) ?_⟩
  intro args request among
  obtain rfl := Except.ok.inj (Program.answer_of_mem_trace among)
  exact ⟨rfl, rfl, rfl⟩

def asksDeferredGate : BroadcastEvent → Bool
  | ⟨.deferredBeforeSign _, _⟩ => true
  | _ => false

def signsOffline : BroadcastEvent → Bool
  | ⟨.signOffline _, _⟩ => true
  | _ => false

/-- The owner of the nonce is given back on a path that staged; and with a deferred signer the
node is asked between the hook of the deferred signer and the signature. -/
theorem owner_released_when_staged :
    (paymentRun.trace smooth ()).any (stages ⟨signedHash, sender, 7⟩) = true ∧
      (paymentRun.trace smooth ()).any releases = true ∧
      (((paymentRun.trace smooth ()).dropWhile (!asksDeferredGate ·)).takeWhile
        (!signsOffline ·)).any (fun event => event.1.asksNode) = true := by
  decide

end Smooth

end Vex.Evm.StagedBroadcast
