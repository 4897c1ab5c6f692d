import Vex.Library.Runs
import Vex.Lighter.NonceState

/-!
# Nonces that are used again

The executors, the repair sweep and the streams drive the nonce state through its five
statements, in any order and with whatever next nonce the provider reported at any
earlier time. A run of the statements is followed here together with the reservations
they granted and the send attempts that were made under them.

An observed row takes any reported nonce, so a report that was read before a send and is
recorded after a later one sets the row back, and the next reservation hands the sent
nonce out again (`nonce_is_reused`). Along a run in which nothing sets a row back to a
nonce that was sent, no nonce is handed out twice (`nonce_never_reused`).
-/

namespace Vex.Lighter.NonceState

open Vex.Library

/-! ## Runs -/

structure Grant where
  key : Key
  holder : Holder
  nonce : Nat
  deriving DecidableEq

/-- The rows, the nonces that were handed out, and those for which a send was attempted. -/
structure Ledger where
  rows : Key → Option Row
  granted : List Grant
  attempted : List Grant

def Ledger.initial : Ledger := ⟨fun _ => none, [], []⟩

/-- A statement, or a send attempt by an intent for the nonce it was handed. -/
inductive Operation where
  | recordObserved (input : ObservedInput)
  | recordExecutionObserved (input : ObservedInput)
  | reserveObserved (key : Key) (holder : Holder)
  | releaseReservation (input : ReleaseInput)
  | releaseUnsubmittedReservation (input : ReleaseUnsubmittedInput)
  | sendAttempt (grant : Grant)

abbrev Op := StatementTime × Operation

def Operation.key : Operation → Key
  | .recordObserved input => input.key
  | .recordExecutionObserved input => input.key
  | .reserveObserved key _ => key
  | .releaseReservation input => input.key
  | .releaseUnsubmittedReservation input => input.key
  | .sendAttempt grant => grant.key

/-- The row a statement writes over the row of its key. -/
def Operation.update (time : StatementTime) (found : Option Row) :
    Operation → Except String (Option Row)
  | .recordObserved input => NonceState.recordObserved time input found
  | .recordExecutionObserved input => NonceState.recordExecutionObserved time input found
  | .reserveObserved _ holder => NonceState.reserveObserved time holder.reservationId found
  | .releaseReservation input => NonceState.releaseReservation time input found
  | .releaseUnsubmittedReservation input =>
    NonceState.releaseUnsubmittedReservation time input found
  | .sendAttempt _ => .ok none

def written (ledger : Ledger) (op : Op) : Option Row :=
  (op.2.update op.1 (ledger.rows op.2.key)).toOption.join

def Operation.grants (row : Row) : Operation → List Grant
  | .reserveObserved key holder => [⟨key, holder, row.providerNonce⟩]
  | _ => []

def Operation.attempts (ledger : Ledger) : Operation → List Grant
  | .sendAttempt grant => if grant ∈ ledger.granted then [grant] else []
  | _ => []

def step (ledger : Ledger) (op : Op) : Ledger :=
  match written ledger op with
  | none => { ledger with attempted := op.2.attempts ledger ++ ledger.attempted }
  | some row =>
    { rows := Function.update ledger.rows op.2.key (some row)
      granted := op.2.grants row ++ ledger.granted
      attempted := op.2.attempts ledger ++ ledger.attempted }

/-- No reservation hands out a nonce for which another intent has attempted a send. -/
def NeverReused (ops : List Op) : Prop :=
  ∀ before time key holder after row, ops = before ++ (time, .reserveObserved key holder) :: after →
    written (run step .initial before) (time, .reserveObserved key holder) = some row →
    ∀ grant ∈ (run step .initial before).attempted, grant.key = key →
      row.hold.map Hold.reservedNonce = some grant.nonce → grant.holder = holder

/-! ## Where nothing sets a row back -/

/-- The row of an attempt still holds the nonce for it, or has gone beyond it. -/
def Covers (row : Row) (grant : Grant) : Prop :=
  grant.nonce < row.providerNonce ∨
    row.hold = some ⟨.reserved, grant.nonce, grant.holder.reservationId⟩

/-- The step does not set a row back to a nonce that was sent: what is recorded over an
observed row, and what a release leaves behind, is beyond every nonce of the key for which
a send was attempted; a reservation that is released unsubmitted was not attempted; and a
send is attempted only while its row covers the nonce. -/
def Onward (ledger : Ledger) (op : Op) : Prop :=
  match op.2 with
  | .recordObserved input =>
    ∀ row, ledger.rows input.key = some row → row.hold = none →
      ∀ grant ∈ ledger.attempted, grant.key = input.key → grant.nonce < input.nonce
  | .recordExecutionObserved input =>
    ∀ row, ledger.rows input.key = some row → row.hold = none →
      ∀ grant ∈ ledger.attempted, grant.key = input.key → grant.nonce < input.nonce
  | .reserveObserved _ _ => True
  | .releaseReservation input =>
    ∀ grant ∈ ledger.attempted, grant.key = input.key → grant.nonce < input.providerNonce
  | .releaseUnsubmittedReservation input =>
    ∀ grant ∈ ledger.attempted, grant.key = input.key → grant.nonce ≠ input.nonceValue
  | .sendAttempt grant =>
    grant ∈ ledger.granted → ∃ row, ledger.rows grant.key = some row ∧ Covers row grant

/-- What holds along such a run: every attempt is covered by its row, and a held row holds
the nonce that was observed on it. -/
structure Ahead (ledger : Ledger) : Prop where
  covered : ∀ grant ∈ ledger.attempted, ∃ row, ledger.rows grant.key = some row ∧ Covers row grant
  held : ∀ key row hold, ledger.rows key = some row → row.hold = some hold →
    hold.reservedNonce = row.providerNonce

theorem Ahead.initial : Ahead .initial where
  covered _ member := nomatch member
  held _ _ _ found := nomatch found

/-! ### What the statements write -/

theorem exactSafeIntegerString_eq_ok {value : Int} {field : String} {nonce : Nat}
    (exact_ : exactSafeIntegerString value field = .ok nonce) : (nonce : Int) = value := by
  unfold exactSafeIntegerString at exact_
  split at exact_
  · rename_i range
    obtain rfl := Except.ok.inj exact_
    exact Int.toNat_of_nonneg range.1
  · cases exact_

theorem checked_eq_ok {time : StatementTime} {input : ObservedInput} {observation : Observation}
    (checked : input.checked time = .ok observation) : (observation.nonce : Int) = input.nonce := by
  obtain ⟨nonce, exact_, rest⟩ := bind_eq_ok.mp checked
  obtain ⟨transactionTime, -, rest⟩ := bind_eq_ok.mp rest
  split at rest
  · cases rest
  · obtain rfl := Except.ok.inj rest
    exact exactSafeIntegerString_eq_ok exact_

/-- What a statement leaves over the row of its key. -/
inductive Writes : Operation → Option Row → Row → Prop where
  | observed {operation : Operation} {input : ObservedInput} {found : Option Row} {row : Row}
      (which : operation = .recordObserved input ∨ operation = .recordExecutionObserved input)
      (nonce : (row.providerNonce : Int) = input.nonce) (free : row.hold = none)
      (beyond : ∀ earlier hold, found = some earlier → earlier.hold = some hold →
        hold.reservedNonce < row.providerNonce) : Writes operation found row
  | reserved {key : Key} {holder : Holder} {earlier row : Row} (free : earlier.hold = none)
      (nonce : row.providerNonce = earlier.providerNonce)
      (hold : row.hold = some ⟨.reserved, earlier.providerNonce, holder.reservationId⟩) :
      Writes (.reserveObserved key holder) (some earlier) row
  | released {input : ReleaseInput} {earlier row : Row}
      (nonce : (row.providerNonce : Int) = input.providerNonce) (free : row.hold = none) :
      Writes (.releaseReservation input) (some earlier) row
  | withdrawn {input : ReleaseUnsubmittedInput} {earlier row : Row}
      (hold : earlier.hold = some ⟨.reserved, input.nonceValue, input.reservationId⟩)
      (nonce : row.providerNonce = earlier.providerNonce) (free : row.hold = none) :
      Writes (.releaseUnsubmittedReservation input) (some earlier) row

variable {operation : Operation} {row : Row}

theorem update_writes {time : StatementTime} {found : Option Row}
    (wrote : operation.update time found = .ok (some row)) : Writes operation found row := by
  cases operation with
  | recordObserved input =>
    obtain ⟨observation, checked, wrote⟩ := bind_eq_ok.mp wrote
    cases found with
    | none =>
      obtain rfl := Option.some.inj (Except.ok.inj wrote)
      exact .observed (.inl rfl) (checked_eq_ok checked) rfl (fun _ _ found => nomatch found)
    | some earlier =>
      obtain ⟨free, same⟩ := Option.ite_none_right_eq_some.1 (Except.ok.inj wrote)
      obtain rfl := Option.some.inj same
      refine .observed (.inl rfl) (checked_eq_ok checked) rfl ?_
      rintro _ hold ⟨⟩ held
      rw [free] at held
      cases held
  | recordExecutionObserved input =>
    obtain ⟨observation, checked, wrote⟩ := bind_eq_ok.mp wrote
    cases found with
    | none =>
      obtain rfl := Option.some.inj (Except.ok.inj wrote)
      exact .observed (.inr rfl) (checked_eq_ok checked) rfl (fun _ _ found => nomatch found)
    | some earlier =>
      have guarded := Except.ok.inj wrote
      cases held : earlier.hold with
      | none =>
        simp only [held, Option.some.injEq] at guarded
        subst guarded
        refine .observed (.inr rfl) (checked_eq_ok checked) rfl ?_
        rintro _ hold ⟨⟩ taken
        rw [held] at taken
        cases taken
      | some hold =>
        simp only [held] at guarded
        obtain ⟨beyond, same⟩ := Option.ite_none_right_eq_some.1 guarded
        obtain rfl := Option.some.inj same
        refine .observed (.inr rfl) (checked_eq_ok checked) rfl ?_
        rintro _ other ⟨⟩ taken
        rw [held] at taken
        obtain rfl := Option.some.inj taken
        exact beyond
  | reserveObserved key holder =>
    obtain ⟨earlier, rfl, guarded⟩ := Option.bind_eq_some_iff.1 (Except.ok.inj wrote)
    obtain ⟨free, same⟩ := Option.ite_none_right_eq_some.1 guarded
    obtain rfl := Option.some.inj same
    exact .reserved free rfl rfl
  | releaseReservation input =>
    obtain ⟨nonce, exact_, updated⟩ := bind_eq_ok.mp wrote
    obtain ⟨earlier, rfl, guarded⟩ := Option.bind_eq_some_iff.1 (Except.ok.inj updated)
    obtain ⟨-, same⟩ := Option.ite_none_right_eq_some.1 guarded
    obtain rfl := Option.some.inj same
    exact .released (exactSafeIntegerString_eq_ok exact_) rfl
  | releaseUnsubmittedReservation input =>
    obtain ⟨earlier, rfl, guarded⟩ := Option.bind_eq_some_iff.1 (Except.ok.inj wrote)
    obtain ⟨hold, same⟩ := Option.ite_none_right_eq_some.1 guarded
    obtain rfl := Option.some.inj same
    exact .withdrawn hold rfl rfl
  | sendAttempt grant => cases wrote

variable {ledger : Ledger} {op : Op}

theorem written_writes (wrote : written ledger op = some row) :
    Writes op.2 (ledger.rows op.2.key) row := by
  unfold written at wrote
  cases updated : op.2.update op.1 (ledger.rows op.2.key) with
  | error failure =>
    rw [updated] at wrote
    cases wrote
  | ok result =>
    rw [updated] at wrote
    exact update_writes (updated.trans (congrArg Except.ok wrote))

/-! ### The invariant -/

theorem Writes.covers {earlier : Row} (writes : Writes operation (some earlier) row)
    (ahead : Ahead ledger) (found : ledger.rows operation.key = some earlier) (time : StatementTime)
    (onward : Onward ledger (time, operation)) {grant : Grant} (member : grant ∈ ledger.attempted)
    (same : grant.key = operation.key) (covers : Covers earlier grant) : Covers row grant := by
  cases writes with
  | observed which nonce free beyond =>
    refine .inl ?_
    cases held : earlier.hold with
    | none =>
      have above : (grant.nonce : Int) < row.providerNonce := by
        rw [nonce]
        rcases which with rfl | rfl
        · exact onward earlier found held grant member same
        · exact onward earlier found held grant member same
      exact_mod_cast above
    | some hold =>
      have above := beyond earlier hold rfl held
      have observed := ahead.held _ _ _ found held
      rcases covers with below | own
      · omega
      · rw [held] at own
        obtain rfl := Option.some.inj own
        exact above
  | reserved free nonce hold =>
    rcases covers with below | own
    · exact .inl (by rw [nonce]; exact below)
    · rw [free] at own
      cases own
  | released nonce free =>
    have beyond : (grant.nonce : Int) < row.providerNonce := by
      rw [nonce]
      exact onward grant member same
    exact .inl (by exact_mod_cast beyond)
  | withdrawn hold nonce free =>
    rcases covers with below | own
    · exact .inl (by rw [nonce]; exact below)
    · rw [hold] at own
      have attempted := onward grant member same
      simp only [Option.some.injEq, Hold.mk.injEq] at own
      exact absurd own.2.1.symm attempted

theorem Writes.held {found : Option Row} (writes : Writes operation found row) {hold : Hold}
    (held : row.hold = some hold) : hold.reservedNonce = row.providerNonce := by
  cases writes with
  | observed which nonce free beyond | released nonce free | withdrawn reserved nonce free =>
    rw [free] at held
    cases held
  | reserved free nonce reserved =>
    rw [reserved] at held
    obtain rfl := Option.some.inj held
    exact nonce.symm

theorem attempts_of_written (wrote : written ledger op = some row) : op.2.attempts ledger = [] := by
  obtain ⟨time, operation⟩ := op
  cases operation with
  | sendAttempt grant => cases wrote
  | _ => rfl

theorem step_of_written (wrote : written ledger op = some row) :
    step ledger op = ⟨Function.update ledger.rows op.2.key (some row),
      op.2.grants row ++ ledger.granted, ledger.attempted⟩ := by
  simp only [step, wrote, attempts_of_written wrote, List.nil_append]

theorem step_of_unwritten (wrote : written ledger op = none) :
    step ledger op = { ledger with attempted := op.2.attempts ledger ++ ledger.attempted } := by
  simp only [step, wrote]

theorem step_ahead (onward : Onward ledger op) (ahead : Ahead ledger) : Ahead (step ledger op) := by
  cases wrote : written ledger op with
  | none =>
    rw [step_of_unwritten wrote]
    refine ⟨fun grant member => ?_, ahead.held⟩
    rcases List.mem_append.1 member with fresh | earlier
    · obtain ⟨time, operation⟩ := op
      cases operation with
      | sendAttempt attempt =>
        obtain ⟨granted, member⟩ := (List.mem_ite_nil_right ..).1 fresh
        obtain rfl := List.mem_singleton.1 member
        exact onward granted
      | _ => cases fresh
    · exact ahead.covered grant earlier
  | some row =>
    have writes := written_writes wrote
    rw [step_of_written wrote]
    constructor
    · intro grant member
      obtain ⟨earlier, found, covers⟩ := ahead.covered grant member
      by_cases same : grant.key = op.2.key
      · rw [same] at found
        rw [found] at writes
        refine ⟨row, ?_, writes.covers ahead found op.1 onward member same covers⟩
        rw [same]
        exact Function.update_self ..
      · refine ⟨earlier, ?_, covers⟩
        rw [← found]
        exact Function.update_of_ne same ..
    · intro key later hold found held
      by_cases same : key = op.2.key
      · subst same
        change Function.update ledger.rows op.2.key (some row) op.2.key = some later at found
        rw [Function.update_self] at found
        obtain rfl := Option.some.inj found
        exact writes.held held
      · have found : ledger.rows key = some later :=
          (Function.update_of_ne same ..).symm.trans found
        exact ahead.held key later hold found held

theorem run_ahead {ops : List Op} (onward : Along step Onward .initial ops) :
    Ahead (run step .initial ops) :=
  onward.induction (fun _ _ => step_ahead) .initial

/-! ## The law -/

/-- **No nonce is used again** along a run in which nothing sets a row back to a nonce that
was sent. -/
theorem nonce_never_reused (ops : List Op) (onward : Along step Onward .initial ops) :
    NeverReused ops := by
  rintro before time key holder after row rfl wrote grant member same reserved
  have ahead := run_ahead (Along.append.1 onward).1
  obtain ⟨earlier, found, covers⟩ := ahead.covered grant member
  have writes := written_writes wrote
  rw [same] at found
  rw [show (run step .initial before).rows (Operation.reserveObserved key holder).key =
    some earlier from found] at writes
  cases writes with
  | observed which _ _ _ => rcases which with which | which <;> cases which
  | reserved free nonce hold =>
    rcases covers with below | own
    · rw [hold] at reserved
      have again : earlier.providerNonce = grant.nonce := Option.some.inj reserved
      omega
    · rw [free] at own
      cases own

/-! ### Two sends and a stale report -/

def sampleKey : Key := ⟨.core, 7, 2⟩

def sampleObserved (nonce : Int) : ObservedInput :=
  ⟨sampleKey, nonce, "key", none, none⟩

def firstGrant : Grant := ⟨sampleKey, .order "first", 5⟩

def secondGrant : Grant := ⟨sampleKey, .order "second", 6⟩

/-- Two intents send under the nonces 5 and 6, and after each the executor records the
provider's next nonce. -/
def sampleSends : List Op :=
  [(⟨0, 0⟩, .recordObserved (sampleObserved 5)),
    (⟨1, 1⟩, .reserveObserved sampleKey (.order "first")),
    (⟨2, 2⟩, .sendAttempt firstGrant),
    (⟨3, 3⟩, .recordExecutionObserved (sampleObserved 6)),
    (⟨4, 4⟩, .reserveObserved sampleKey (.order "second")),
    (⟨5, 5⟩, .sendAttempt secondGrant),
    (⟨6, 6⟩, .recordExecutionObserved (sampleObserved 7))]

/-- A repair pass of the first intent read the next nonce 6 before the second send, and
records it now. -/
def sampleStale : Op := (⟨7, 7⟩, .recordExecutionObserved (sampleObserved 6))

def sampleReservation : Op := (⟨8, 8⟩, .reserveObserved sampleKey (.order "third"))

/-- The stale report sets the row back, and the nonce that was sent is handed out again. -/
theorem nonce_is_reused : ¬ ∀ ops, NeverReused ops := by
  intro never
  have same := never (sampleSends ++ sampleStale :: [sampleReservation])
    (sampleSends ++ [sampleStale]) ⟨8, 8⟩ sampleKey (.order "third") []
    ⟨6, "key", none, some ⟨.reserved, 6, "lighter-order:third"⟩, 7, 8⟩ (by rfl) (by decide)
    secondGrant (by decide) rfl rfl
  revert same
  decide

theorem sampleSends_onward : Along step Onward .initial (sampleSends ++ [sampleReservation]) := by
  refine ⟨?_, trivial, ?_, ?_, trivial, ?_, ?_, trivial, trivial⟩
  · rintro row found
    cases found
  · intro _
    exact ⟨⟨5, "key", none, some ⟨.reserved, 5, "lighter-order:first"⟩, 0, 1⟩, by decide, .inr rfl⟩
  · intro row _ _ grant member _
    have attempted : (run step .initial (sampleSends.take 3)).attempted = [firstGrant] := by
      decide
    have same : grant ∈ [firstGrant] := attempted ▸ member
    obtain rfl := List.mem_singleton.1 same
    decide
  · intro _
    exact ⟨⟨6, "key", none, some ⟨.reserved, 6, "lighter-order:second"⟩, 3, 4⟩, by decide, .inr rfl⟩
  · intro row _ _ grant member _
    have attempted : (run step .initial (sampleSends.take 6)).attempted =
        [secondGrant, firstGrant] := by
      decide
    have same : grant ∈ [secondGrant, firstGrant] := attempted ▸ member
    rcases List.mem_cons.1 same with rfl | same
    · decide
    · obtain rfl := List.mem_singleton.1 same
      decide

/-- Without the stale report the third intent is handed the next nonce. -/
theorem third_intent_takes_next_nonce : NeverReused (sampleSends ++ [sampleReservation]) ∧
      ((run step .initial (sampleSends ++ [sampleReservation])).rows sampleKey).bind Row.hold =
        some ⟨.reserved, 7, "lighter-order:third"⟩ :=
  ⟨nonce_never_reused _ sampleSends_onward, by decide⟩

end Vex.Lighter.NonceState
