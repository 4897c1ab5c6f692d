import Vex.Library.LetterCase
import Vex.Lighter.OrderIntents

/-!
# What a provider order is read as

Four modules read the free text of an order's status: the evidence of the inline and the
repair path, whose classifiers are chosen by the list that the order was found in, the
classifier of the order stream, which has no list and goes by the status alone, and the
two predicates by which the streams and the lifecycle executors take an order for
terminal.

They do not always agree. `evidence_paths_agree` says on exactly which orders they do:
where the status says what the list says.
-/

namespace Vex.Lighter.OrderEvidence

open Vex.Library OrderIntents

/-- What the classifiers read of a `LighterAccountOrder`. -/
structure AccountOrder where
  status : Option JsString
  filledBaseAmount : Option JsString
  deriving DecidableEq

inductive Listing where
  | active
  | inactive
  deriving DecidableEq

/-- `/^\d+(?:\.\d+)?$/`. -/
def isPlainDecimal (value : JsString) : Bool :=
  value.head?.any JsString.isDigit &&
    match value.dropWhile JsString.isDigit with
    | [] => true
    | unit :: fraction => unit == 46 && fraction ≠ [] && fraction.all JsString.isDigit

def lighterDecimalGreaterThanZero : Option JsString → Bool
  | none => false
  | some value => isPlainDecimal value && value.any fun unit => 49 ≤ unit && unit ≤ 57

def AccountOrder.filled (order : AccountOrder) : Bool :=
  lighterDecimalGreaterThanZero order.filledBaseAmount

/-! ## The inline and the repair path -/

def stateFromActiveLighterOrder (order : AccountOrder) : ProviderOutcomeState :=
  if order.filled then .partiallyFilled else .open_

section

variable (cases : LowerCase)

def stateFromInactiveLighterOrder (order : AccountOrder) : ProviderOutcomeState :=
  let status := cases.normalize (order.status.getD "")
  if status.includes "partial" && status.includes "fill" then .partiallyFilled
  else if status == "filled" then .filled
  else if status.includes "cancel" || status.includes "expire" then
    if order.filled then .partiallyFilled else .canceled
  else if status.includes "reject" || status.includes "fail" then .rejected
  else if order.filled then .partiallyFilled
  else .sequencerPending

def stateFromListing : Listing → AccountOrder → ProviderOutcomeState
  | .active, order => stateFromActiveLighterOrder order
  | .inactive, order => stateFromInactiveLighterOrder cases order

/-- The evidence source that the inline and the repair path record. -/
def sourceFromListing : Listing → ProviderOutcomeSource
  | .active => .activeOrder
  | .inactive => .inactiveOrder

/-! ## The order stream -/

def isCanceledOrExpiredStatus (status : Option JsString) : Bool :=
  status.any fun text => text.startsWith "canceled" || text.includes "expire"

def classifyLighterStreamOrderState (order : AccountOrder) : Option ProviderOutcomeState :=
  let status := order.status.map cases.normalize
  if status = some ("pending" : JsString) ∨ status = some ("in-progress" : JsString) then
    some .sequencerPending
  else if status = some ("open" : JsString) then
    some (if order.filled then .partiallyFilled else .open_)
  else if status = some ("filled" : JsString) then some .filled
  else if isCanceledOrExpiredStatus status then
    some (if order.filled then .partiallyFilled else .canceled)
  else none

def isTerminalOrder (state : ProviderOutcomeState) (providerStatus : JsString) : Bool :=
  state == .filled || state == .canceled || state == .rejected ||
    isCanceledOrExpiredStatus (some providerStatus)

/-- The evidence source that the stream records for an order in this state. It looks at the
status as the provider wrote it. -/
def sourceFromStream (state : ProviderOutcomeState) (order : AccountOrder) :
    ProviderOutcomeSource :=
  if isTerminalOrder state (order.status.getD "") then .inactiveOrder else .activeOrder

/-! ## Terminal orders of lifecycle actions -/

namespace AccountStream

def isCanceledStatus (status : Option JsString) : Bool :=
  (status.map cases.normalize).any fun text =>
    text.startsWith "canceled" || text.includes "expire"

def isTerminalStatus (status : Option JsString) : Bool :=
  let normalized := status.map cases.normalize
  normalized == some ("filled" : JsString) || isCanceledStatus cases normalized

end AccountStream

namespace OrderLifecycle

def normalizeStatus (value : Option JsString) : JsString :=
  (value.map cases.normalize).getD ""

def isCanceledStatus (value : Option JsString) : Bool :=
  let status := normalizeStatus cases value
  status.startsWith "canceled" || status.includes "cancelled"

def isTerminalOrderStatus (value : Option JsString) : Bool :=
  let status := normalizeStatus cases value
  isCanceledStatus cases (some status) || status.startsWith "filled" ||
    status.startsWith "expired" || status.startsWith "rejected"

end OrderLifecycle

/-! ## Where they agree -/

/-- The same class on every path, as far as both paths name one. -/
def EvidencePathsAgree (listing : Listing) (order : AccountOrder) : Prop :=
  (∀ state, classifyLighterStreamOrderState cases order = some state →
    stateFromListing cases listing order = state ∧ (sourceFromStream state order = .inactiveOrder →
      sourceFromListing listing = .inactiveOrder)) ∧
  (AccountStream.isTerminalStatus cases order.status = true →
    OrderLifecycle.isTerminalOrderStatus cases order.status = true)

/-- The status of an order says what the list says that it was found in: open, or ended
after a fill, where it is active; filled, ended, or still on its way with nothing filled,
where it is inactive. -/
def SaysAsListed (listing : Listing) (order : AccountOrder) : Prop :=
  let status := cases.normalize (order.status.getD "")
  match listing with
  | .active => status = "open" ∨ isCanceledOrExpiredStatus (some status) ∧ order.filled
  | .inactive =>
    status = "filled" ∨
    (status = "pending" ∨ status = "in-progress") ∧ ¬ order.filled ∨
    status = "open" ∧ order.filled ∨
    isCanceledOrExpiredStatus (some status) ∧
      (order.filled ∨ ¬ (status.includes "partial" ∧ status.includes "fill"))

/-- The word `expire` somewhere in a status that begins like no status of an ended order. -/
def ExpiresWithin (status : JsString) : Prop :=
  status.includes "expire" ∧ ¬ status.startsWith "canceled" ∧ ¬ status.includes "cancelled" ∧
    ¬ status.startsWith "filled" ∧ ¬ status.startsWith "expired" ∧ ¬ status.startsWith "rejected"

inductive Classified (order : AccountOrder) : JsString → ProviderOutcomeState → Prop where
  | pending : Classified order "pending" .sequencerPending
  | inProgress : Classified order "in-progress" .sequencerPending
  | open_ : Classified order "open" (if order.filled then .partiallyFilled else .open_)
  | filled : Classified order "filled" .filled
  | ended {status : JsString} (ended : isCanceledOrExpiredStatus (some status) = true)
      (unlike : status ≠ "open" ∧ status ≠ "filled" ∧ status ≠ "pending" ∧ status ≠ "in-progress") :
      Classified order status (if order.filled then .partiallyFilled else .canceled)

variable {order : AccountOrder} {state : ProviderOutcomeState}

theorem classified (classifies : classifyLighterStreamOrderState cases order = some state) :
    Classified order (cases.normalize (order.status.getD "")) state := by
  cases written : order.status with
  | none =>
    simp [classifyLighterStreamOrderState, written, isCanceledOrExpiredStatus] at classifies
  | some text =>
    rw [Option.getD_some]
    simp only [classifyLighterStreamOrderState, written, Option.map_some, Option.some.injEq]
      at classifies
    split at classifies
    · rename_i early
      obtain rfl := Option.some.inj classifies
      rcases early with early | early
      · exact early ▸ .pending
      · exact early ▸ .inProgress
    · rename_i early
      split at classifies
      · rename_i isOpen
        obtain rfl := Option.some.inj classifies
        exact isOpen ▸ .open_
      · rename_i isOpen
        split at classifies
        · rename_i isFilled
          obtain rfl := Option.some.inj classifies
          exact isFilled ▸ .filled
        · rename_i isFilled
          obtain ⟨ended, same⟩ := Option.ite_none_right_eq_some.1 classifies
          obtain rfl := Option.some.inj same
          exact .ended ended ⟨isOpen, isFilled, fun h => early (.inl h), fun h => early (.inr h)⟩

/-! ### The states -/

theorem includes_of_ended {status : JsString}
    (ended : isCanceledOrExpiredStatus (some status) = true) :
    (status.includes "cancel" || status.includes "expire") = true := by
  rcases Bool.or_eq_true_iff.1 ended with canceled | expired
  · rw [JsString.includes_of_startsWith canceled (by decide), Bool.true_or]
  · rw [expired, Bool.or_true]

theorem active_agrees (classifies : classifyLighterStreamOrderState cases order = some state) :
    stateFromActiveLighterOrder order = state ↔ SaysAsListed cases .active order := by
  have classified := classified cases classifies
  simp only [SaysAsListed, stateFromActiveLighterOrder]
  generalize cases.normalize (order.status.getD "") = status at classified
  cases classified with
  | pending =>
    have unlike : ¬ (("pending" : JsString) = "open") := by decide
    have running : isCanceledOrExpiredStatus (some ("pending" : JsString)) = false := by
      decide
    cases order.filled <;> simp [unlike, running]
  | inProgress =>
    have unlike : ¬ (("in-progress" : JsString) = "open") := by decide
    have running : isCanceledOrExpiredStatus (some ("in-progress" : JsString)) = false := by
      decide
    cases order.filled <;> simp [unlike, running]
  | open_ => simp
  | filled =>
    have unlike : ¬ (("filled" : JsString) = "open") := by decide
    have running : isCanceledOrExpiredStatus (some ("filled" : JsString)) = false := by
      decide
    cases order.filled <;> simp [unlike, running]
  | ended ended unlike => cases order.filled <;> simp [unlike.1, ended]

theorem inactive_agrees (classifies : classifyLighterStreamOrderState cases order = some state) :
    stateFromInactiveLighterOrder cases order = state ↔ SaysAsListed cases .inactive order := by
  have classified := classified cases classifies
  simp only [SaysAsListed, stateFromInactiveLighterOrder]
  generalize cases.normalize (order.status.getD "") = status at classified
  have texts : ("pending" : JsString) ≠ "filled" ∧ ("pending" : JsString) ≠ "open" ∧
      ("in-progress" : JsString) ≠ "filled" ∧ ("in-progress" : JsString) ≠ "open" ∧
      ("in-progress" : JsString) ≠ "pending" ∧ ("open" : JsString) ≠ "filled" ∧
      ("open" : JsString) ≠ "pending" ∧ ("open" : JsString) ≠ "in-progress" := by
    decide
  have bare : ∀ text ∈ (["pending", "in-progress", "open", "filled"] : List JsString),
      text.includes "partial" = false ∧ text.includes "cancel" = false ∧
      text.includes "expire" = false ∧ text.includes "reject" = false ∧
      text.includes "fail" = false ∧ isCanceledOrExpiredStatus (some text) = false := by
    decide
  cases classified with
  | pending =>
    obtain ⟨noPartial, noCancel, noExpire, noReject, noFail, running⟩ := bare "pending" (by simp)
    cases order.filled <;>
      simp [noPartial, noCancel, noExpire, noReject, noFail, running, texts]
  | inProgress =>
    obtain ⟨noPartial, noCancel, noExpire, noReject, noFail, running⟩ :=
      bare "in-progress" (by simp)
    cases order.filled <;>
      simp [noPartial, noCancel, noExpire, noReject, noFail, running, texts]
  | open_ =>
    obtain ⟨noPartial, noCancel, noExpire, noReject, noFail, running⟩ := bare "open" (by simp)
    cases order.filled <;>
      simp [noPartial, noCancel, noExpire, noReject, noFail, running, texts]
  | filled =>
    obtain ⟨noPartial, -⟩ := bare "filled" (by simp)
    simp [noPartial]
  | ended ended unlike =>
    have other : (status == ("filled" : JsString)) = false := beq_eq_false_iff_ne.2 unlike.2.1
    rw [other, includes_of_ended ended]
    cases order.filled <;> cases status.includes "partial" <;> cases status.includes "fill" <;>
      simp [ended, unlike]

/-! ### Terminal orders -/

theorem isTerminalOrderStatus_iff (value : Option JsString) :
    OrderLifecycle.isTerminalOrderStatus cases value = true ↔
      (OrderLifecycle.normalizeStatus cases value).startsWith "canceled" ∨
      (OrderLifecycle.normalizeStatus cases value).includes "cancelled" ∨
      (OrderLifecycle.normalizeStatus cases value).startsWith "filled" ∨
      (OrderLifecycle.normalizeStatus cases value).startsWith "expired" ∨
      (OrderLifecycle.normalizeStatus cases value).startsWith "rejected" := by
  have again : OrderLifecycle.normalizeStatus cases
      (some (OrderLifecycle.normalizeStatus cases value)) =
        OrderLifecycle.normalizeStatus cases value := by
    cases value with
    | none =>
      simp only [OrderLifecycle.normalizeStatus, Option.map_none, Option.getD_none,
        Option.map_some, Option.getD_some, LowerCase.normalize]
      exact cases.ofAscii [] (fun _ member => by cases member)
    | some text => exact cases.normalize_normalize text
  simp only [OrderLifecycle.isTerminalOrderStatus, OrderLifecycle.isCanceledStatus, again,
    Bool.or_eq_true, or_assoc]

theorem isTerminalStatus_iff (value : Option JsString) :
    AccountStream.isTerminalStatus cases value = true ↔
      OrderLifecycle.normalizeStatus cases value = "filled" ∨
      (OrderLifecycle.normalizeStatus cases value).startsWith "canceled" ∨
      (OrderLifecycle.normalizeStatus cases value).includes "expire" := by
  cases value with
  | none =>
    simp only [AccountStream.isTerminalStatus, AccountStream.isCanceledStatus,
      OrderLifecycle.normalizeStatus, Option.map_none, Option.getD_none]
    decide
  | some text =>
    simp only [AccountStream.isTerminalStatus, AccountStream.isCanceledStatus,
      OrderLifecycle.normalizeStatus, Option.map_some, Option.getD_some, Option.any_some,
      LowerCase.normalize_normalize, Bool.or_eq_true, beq_iff_eq, Option.some.injEq]

theorem terminal_agrees {value : Option JsString}
    (terminal : AccountStream.isTerminalStatus cases value = true) :
    OrderLifecycle.isTerminalOrderStatus cases value = true ↔
      ¬ ExpiresWithin (OrderLifecycle.normalizeStatus cases value) := by
  rw [isTerminalOrderStatus_iff]
  rw [isTerminalStatus_iff] at terminal
  generalize OrderLifecycle.normalizeStatus cases value = status at terminal
  unfold ExpiresWithin
  rcases terminal with rfl | canceled | expires
  · decide
  · simp [canceled]
  · simp only [expires, true_and, not_and_or, not_not]

/-! ### All paths -/

theorem letter_case_ignored {other : AccountOrder}
    (same : other.status.map cases.normalize = order.status.map cases.normalize)
    (fill : other.filledBaseAmount = order.filledBaseAmount) (listing : Listing) :
    classifyLighterStreamOrderState cases other = classifyLighterStreamOrderState cases order ∧
    stateFromListing cases listing other = stateFromListing cases listing order ∧
    AccountStream.isTerminalStatus cases other.status =
      AccountStream.isTerminalStatus cases order.status ∧
    OrderLifecycle.isTerminalOrderStatus cases other.status =
      OrderLifecycle.isTerminalOrderStatus cases order.status := by
  have filled : other.filled = order.filled := congrArg lighterDecimalGreaterThanZero fill
  have status : cases.normalize (other.status.getD "") = cases.normalize (order.status.getD "") := by
    have text := congrArg (Option.getD · (cases.normalize "")) same
    simpa only [Option.getD_map] using text
  refine ⟨?_, ?_, ?_, ?_⟩
  · simp only [classifyLighterStreamOrderState, same, filled]
  · cases listing with
    | active => simp only [stateFromListing, stateFromActiveLighterOrder, filled]
    | inactive => simp only [stateFromListing, stateFromInactiveLighterOrder, filled, status]
  · simp only [AccountStream.isTerminalStatus, same]
  · simp only [OrderLifecycle.isTerminalOrderStatus, OrderLifecycle.normalizeStatus, same]

/-- **Every evidence path reads an order alike** exactly where its status says what its list
says: the states agree there and only there; the stream files an order as inactive that
the list has as inactive; the terminal predicates differ only by the word `expire` inside
a status; and the letter case of the status changes none of it. -/
theorem evidence_paths_agree (listing : Listing) (order : AccountOrder) :
    (∀ state, classifyLighterStreamOrderState cases order = some state →
      (stateFromListing cases listing order = state ↔ SaysAsListed cases listing order)) ∧
    (∀ state, sourceFromStream state order = .inactiveOrder →
      (sourceFromListing listing = .inactiveOrder ↔ listing = .inactive)) ∧
    (AccountStream.isTerminalStatus cases order.status = true →
      (OrderLifecycle.isTerminalOrderStatus cases order.status = true ↔
        ¬ ExpiresWithin (OrderLifecycle.normalizeStatus cases order.status))) ∧
    (∀ other : AccountOrder, other.status.map cases.normalize = order.status.map cases.normalize →
      other.filledBaseAmount = order.filledBaseAmount →
      classifyLighterStreamOrderState cases other = classifyLighterStreamOrderState cases order ∧
      stateFromListing cases listing other = stateFromListing cases listing order ∧
      AccountStream.isTerminalStatus cases other.status =
        AccountStream.isTerminalStatus cases order.status ∧
      OrderLifecycle.isTerminalOrderStatus cases other.status =
        OrderLifecycle.isTerminalOrderStatus cases order.status) := by
  refine ⟨fun state classifies => ?_, fun state _ => ?_, fun terminal => ?_, fun other same fill => ?_⟩
  · cases listing with
    | active => exact active_agrees cases classifies
    | inactive => exact inactive_agrees cases classifies
  · cases listing <;> simp [sourceFromListing]
  · exact terminal_agrees cases terminal
  · exact letter_case_ignored cases same fill listing

end

/-! ### A trigger order that waits -/

/-- The provider lists a trigger order that waits as active, with the status `pending`. -/
def waitingOrder : AccountOrder := ⟨some "pending", some "0.0"⟩

/-- It is open where the list says so, and pending where the status says so. -/
theorem waiting_order_read_twice :
    ¬ ∀ (cases : LowerCase) (listing : Listing) (order : AccountOrder),
      EvidencePathsAgree cases listing order := by
  intro agree
  have same := ((agree .ascii .active waitingOrder).1 .sequencerPending (by decide)).1
  revert same
  decide

/-- A canceled order in capital letters, with a fill, is partially filled on every path. -/
theorem canceled_order_read_alike :
    stateFromListing .ascii .inactive ⟨some " CANCELED ", some "0.5"⟩ = .partiallyFilled ∧
      OrderLifecycle.isTerminalOrderStatus .ascii (some " CANCELED ") = true := by
  obtain ⟨states, -, terminal, -⟩ :=
    evidence_paths_agree .ascii .inactive ⟨some " CANCELED ", some "0.5"⟩
  refine ⟨(states .partiallyFilled (by decide)).2 ?_, (terminal (by decide)).2 ?_⟩
  · exact .inr (.inr (.inr (by decide)))
  · unfold ExpiresWithin
    decide

end Vex.Lighter.OrderEvidence
