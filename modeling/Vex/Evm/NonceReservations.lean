import Mathlib.Data.List.Sort
import Vex.Library.Fencing
import Vex.Library.Table
import Vex.Wallet.Basic

/-!
# Nonce reservations and their repair

A signer without an activity row of its own reserves its nonce in a table of
reservations: the row is reserved, staged once the transaction has a hash,
accepted once the node took it, and terminal in the end. Repair workers observe
the rows that are staged or accepted. One statement claims the rows that are
due, the longest unchecked first, with a lease and a token for each; what a
worker writes about a row afterwards carries the token.

`held` are the claims that no worker has given up by writing under their token,
whether or not the row still has it. The nonce a reservation is inserted with
is given: the allocation is another statement's.
-/

namespace Vex.Evm.NonceReservations

open Vex.Library
open Vex.Wallet (Instant)

/-- The statuses of `evm_nonce_reservations`. -/
inductive Status where
  | reserved
  | staged
  | accepted
  | terminal
  | abandoned
  deriving DecidableEq

/-- `EvmNonceRepairTerminalReason`. -/
inductive TerminalReason where
  | minedSuccess
  | minedRevert
  | nonceSuperseded
  deriving DecidableEq

/-- `EvmNonceRepairInconclusiveReason`. -/
inductive InconclusiveReason where
  | inMempool
  | unknownToNode
  | rpcError
  | unreadableReceipt
  deriving DecidableEq

/-- `gen_random_uuid()`: the tokens are told apart by when they were minted. -/
abbrev ClaimToken := Nat

/-- `repair_claim_until` and `repair_claim_token`, which are null together. -/
structure RepairClaim where
  expiresAt : Instant
  token : ClaimToken
  deriving DecidableEq

/-- A row of `evm_nonce_reservations`. -/
structure Reservation where
  id : Nat
  chainId : Nat
  fromAddress : JsString
  nonce : Nat
  status : Status
  txHash : Option JsString
  lastCheckedAt : Option Instant
  verificationAttempts : Nat
  lastVerificationReason : Option InconclusiveReason
  repairClaim : Option RepairClaim
  terminalReason : Option TerminalReason
  updatedAt : Instant
  terminalAt : Option Instant
  deriving DecidableEq

def evmNonceRepairLimit : Nat := 25

def evmNonceRepairLeaseMs : Nat := 30000

def evmNonceRepairIntervalMs : Nat := 30000

/-! ## The owner's statements -/

section Owner

variable (now : Instant) (row : Reservation)

/-- The row `reserveLegacyEvmNonce` inserts. -/
def reservedRow (id chainId nonce : Nat) (fromAddress : JsString) : Reservation where
  id := id
  chainId := chainId
  fromAddress := fromAddress
  nonce := nonce
  status := .reserved
  txHash := none
  lastCheckedAt := none
  verificationAttempts := 0
  lastVerificationReason := none
  repairClaim := none
  terminalReason := none
  updatedAt := now
  terminalAt := none

/-- The update a signer leaves a reservation with that it never staged. -/
def abandon : Option Reservation :=
  if row.status = .reserved ∧ row.txHash = none then
    some { row with status := .abandoned, terminalAt := some now, updatedAt := now }
  else none

def stageLegacyEvmNonce (txHash fromAddress : JsString) (nonce : Nat) : Option Reservation :=
  if row.status = .reserved ∧ row.txHash = none ∧
      row.fromAddress.map JsString.lowerAscii = fromAddress.map JsString.lowerAscii ∧
      row.nonce = nonce then
    some { row with status := .staged, txHash := some txHash, updatedAt := now }
  else none

def markLegacyEvmNonceAccepted : Option Reservation :=
  if row.status = .staged ∧ row.txHash ≠ none then
    some { row with status := .accepted, updatedAt := now }
  else none

/-- `status IN ('staged', 'accepted') AND tx_hash IS NOT NULL`. -/
def watched : Bool := (row.status = .staged ∨ row.status = .accepted) ∧ row.txHash ≠ none

def terminalizeLegacyEvmNonce : Option Reservation :=
  if watched row then
    some { row with
      status := .terminal
      terminalAt := some now
      updatedAt := now
      repairClaim := none }
  else none

end Owner

/-! ## The repair workers' statements -/

section Repair

variable (now : Instant) (row : Reservation)

def terminalizeClaimedEvmNonceReservation (claimToken : ClaimToken) (reason : TerminalReason) :
    Option Reservation :=
  if watched row ∧ row.repairClaim.map RepairClaim.token = some claimToken then
    some { row with
      status := .terminal
      terminalReason := some reason
      terminalAt := some now
      lastCheckedAt := some now
      lastVerificationReason := none
      repairClaim := none
      updatedAt := now }
  else none

def rotateInconclusiveEvmNonceReservation (claimToken : ClaimToken) (reason : InconclusiveReason) :
    Option Reservation :=
  if watched row ∧ row.repairClaim.map RepairClaim.token = some claimToken then
    some { row with
      lastCheckedAt := some now
      verificationAttempts := row.verificationAttempts + 1
      lastVerificationReason := some reason
      repairClaim := none
      updatedAt := now }
  else none

/-- `assertClaimBounds` accepts the bounds. -/
def assertClaimBounds (limit leaseMs intervalMs : Nat) : Bool :=
  0 < limit ∧ limit ≤ 100 ∧ 0 < leaseMs ∧ leaseMs ≤ 9007199254740991 ∧ intervalMs ≤ 9007199254740991

/-- `COALESCE(last_checked_at, updated_at)`, by which the queue is ordered. -/
def waitingSince : Instant := row.lastCheckedAt.getD row.updatedAt

def due (intervalMs : Nat) : Bool :=
  watched row ∧ (∀ claim ∈ row.repairClaim, claim.expiresAt < now) ∧
    waitingSince row ≤ now - intervalMs

end Repair

/-- The order of the queue: the longest unchecked first, the lower id first among equals. -/
def servedBefore (row other : Reservation) : Bool :=
  waitingSince row < waitingSince other ∨
    (waitingSince row = waitingSince other ∧ row.id ≤ other.id)

/-- The candidates of a claim: the first `limit` due rows that no other statement has locked. -/
def candidates (now : Instant) (limit intervalMs : Nat) (locked : List Nat)
    (table : Table Reservation.id) : List Reservation :=
  ((table.rows.filter fun row => due now row intervalMs ∧ row.id ∉ locked).insertionSort
    (servedBefore · ·)).take limit

def claimedWith (now : Instant) (leaseMs : Nat) (token : ClaimToken) (row : Reservation) :
    Reservation :=
  { row with repairClaim := some ⟨now + leaseMs, token⟩, updatedAt := now }

/-- `claimDueEvmNonceReservations` on one row of the table: the candidate of a position gets the
token of that position. -/
def claimRow (now : Instant) (leaseMs minted : Nat) (chosen : List Reservation)
    (row : Reservation) : Reservation :=
  match chosen.findIdx? fun candidate => candidate.id = row.id with
  | some position => claimedWith now leaseMs (minted + position) row
  | none => row

/-! ## The table and what is done to it -/

structure Grant where
  id : Nat
  claim : RepairClaim
  deriving DecidableEq

/-- The table, the ids and tokens that were given out, the clock, and the claims held. -/
structure State where
  table : Table Reservation.id
  nextId : Nat
  minted : Nat
  now : Instant
  held : List Grant

def initial (now : Instant) : State := ⟨Table.empty, 0, 0, now, []⟩

/-- A statement, or time passing. `locked` are the rows that other statements have locked when
the claim runs. -/
inductive Act where
  | tick (ms : Nat)
  | reserveLegacyEvmNonce (chainId nonce : Nat) (fromAddress : JsString)
  | abandon (id : Nat)
  | stageLegacyEvmNonce (id : Nat) (txHash fromAddress : JsString) (nonce : Nat)
  | markLegacyEvmNonceAccepted (id : Nat)
  | terminalizeLegacyEvmNonce (id : Nat)
  | claimDueEvmNonceReservations (limit leaseMs intervalMs : Nat) (locked : List Nat)
  | terminalizeClaimedEvmNonceReservation (id : Nat) (claimToken : ClaimToken)
      (reason : TerminalReason)
  | rotateInconclusiveEvmNonceReservation (id : Nat) (claimToken : ClaimToken)
      (reason : InconclusiveReason)

/-- What a statement about one row makes of that row, if it matches it. -/
def Act.onRow (now : Instant) (row : Reservation) : Act → Option Reservation
  | .abandon id => if row.id = id then NonceReservations.abandon now row else none
  | .stageLegacyEvmNonce id txHash fromAddress nonce =>
    if row.id = id then NonceReservations.stageLegacyEvmNonce now row txHash fromAddress nonce
    else none
  | .markLegacyEvmNonceAccepted id =>
    if row.id = id then NonceReservations.markLegacyEvmNonceAccepted now row else none
  | .terminalizeLegacyEvmNonce id =>
    if row.id = id then NonceReservations.terminalizeLegacyEvmNonce now row else none
  | .terminalizeClaimedEvmNonceReservation id claimToken reason =>
    if row.id = id then
      NonceReservations.terminalizeClaimedEvmNonceReservation now row claimToken reason
    else none
  | .rotateInconclusiveEvmNonceReservation id claimToken reason =>
    if row.id = id then
      NonceReservations.rotateInconclusiveEvmNonceReservation now row claimToken reason
    else none
  | .tick _ | .reserveLegacyEvmNonce _ _ _ | .claimDueEvmNonceReservations _ _ _ _ => none

def Act.takes (s : State) : Act → List Reservation
  | .claimDueEvmNonceReservations limit leaseMs intervalMs locked =>
    if assertClaimBounds limit leaseMs intervalMs then
      candidates s.now limit intervalMs locked s.table
    else []
  | _ => []

def Act.leaseMs : Act → Nat
  | .claimDueEvmNonceReservations _ leaseMs _ _ => leaseMs
  | _ => 0

/-- The token a worker presents, and so gives up. -/
def Act.presents : Act → Option (Nat × ClaimToken)
  | .terminalizeClaimedEvmNonceReservation id claimToken _
  | .rotateInconclusiveEvmNonceReservation id claimToken _ => some (id, claimToken)
  | _ => none

def Act.rowStep (s : State) (act : Act) (row : Reservation) : Reservation :=
  (act.onRow s.now row).getD (claimRow s.now act.leaseMs s.minted (act.takes s) row)

/-! ## What an act does to a row -/

/-- What a statement about one row that matches it makes of it. -/
inductive RowMove (now : Instant) (act : Act) (row : Reservation) : Reservation → Prop
  | unsigned {row' : Reservation} (reserved : row.status = .reserved)
      (status : row'.status = .abandoned ∨ row'.status = .staged) (id : row'.id = row.id)
      (claim : row'.repairClaim = row.repairClaim)
      (checked : row'.lastCheckedAt = row.lastCheckedAt) (updated : row'.updatedAt = now)
      (presents : act.presents = none) : RowMove now act row row'
  | accepted {row' : Reservation} (staged : row.status = .staged)
      (act_eq : act = .markLegacyEvmNonceAccepted row.id)
      (written : row' = { row with status := .accepted, updatedAt := now }) :
      RowMove now act row row'
  | ended {row' : Reservation} (isWatched : watched row = true) (status : row'.status = .terminal)
      (id : row'.id = row.id) (claim : row'.repairClaim = none)
      (under : act = .terminalizeLegacyEvmNonce row.id ∨ ∃ claimToken,
        act.presents = some (row.id, claimToken) ∧
          row.repairClaim.map RepairClaim.token = some claimToken) :
      RowMove now act row row'
  | rotated {row' : Reservation} (isWatched : watched row = true) (status : row'.status = row.status)
      (id : row'.id = row.id) (claim : row'.repairClaim = none)
      (checked : row'.lastCheckedAt = some now) (claimToken : ClaimToken)
      (presents : act.presents = some (row.id, claimToken))
      (current : row.repairClaim.map RepairClaim.token = some claimToken) :
      RowMove now act row row'

theorem onRow_moves {now : Instant} {act : Act} {row row' : Reservation}
    (matched : act.onRow now row = some row') : RowMove now act row row' := by
  cases act with
  | tick | reserveLegacyEvmNonce | claimDueEvmNonceReservations => cases matched
  | abandon id =>
    simp only [Act.onRow, abandon] at matched
    split_ifs at matched with same guard
    cases matched
    exact .unsigned guard.1 (.inl rfl) rfl rfl rfl rfl rfl
  | stageLegacyEvmNonce id txHash fromAddress nonce =>
    simp only [Act.onRow, stageLegacyEvmNonce] at matched
    split_ifs at matched with same guard
    cases matched
    exact .unsigned guard.1 (.inr rfl) rfl rfl rfl rfl rfl
  | markLegacyEvmNonceAccepted id =>
    simp only [Act.onRow, markLegacyEvmNonceAccepted] at matched
    split_ifs at matched with same guard
    cases matched
    exact .accepted guard.1 (same ▸ rfl) rfl
  | terminalizeLegacyEvmNonce id =>
    simp only [Act.onRow, terminalizeLegacyEvmNonce] at matched
    split_ifs at matched with same guard
    cases matched
    exact .ended guard rfl rfl rfl (.inl (same ▸ rfl))
  | terminalizeClaimedEvmNonceReservation id claimToken reason =>
    simp only [Act.onRow, terminalizeClaimedEvmNonceReservation] at matched
    split_ifs at matched with same guard
    cases matched
    exact .ended guard.1 rfl rfl rfl (.inr ⟨claimToken, same ▸ rfl, guard.2⟩)
  | rotateInconclusiveEvmNonceReservation id claimToken reason =>
    simp only [Act.onRow, rotateInconclusiveEvmNonceReservation] at matched
    split_ifs at matched with same guard
    cases matched
    exact .rotated guard.1 rfl rfl rfl rfl claimToken (same ▸ rfl) guard.2

theorem RowMove.id_eq {now : Instant} {act : Act} {row row' : Reservation}
    (moves : RowMove now act row row') : row'.id = row.id := by
  cases moves with
  | unsigned _ _ id _ _ _ _ | ended _ _ id _ _ | rotated _ _ id _ _ _ _ _ => exact id
  | accepted _ _ written => rw [written]

@[simp] theorem claimRow_id (now : Instant) (leaseMs minted : Nat) (chosen : List Reservation)
    (row : Reservation) : (claimRow now leaseMs minted chosen row).id = row.id := by
  unfold claimRow
  split <;> rfl

@[simp] theorem Act.rowStep_id (s : State) (act : Act) (row : Reservation) :
    (act.rowStep s row).id = row.id := by
  rw [Act.rowStep]
  cases matched : act.onRow s.now row with
  | none => exact claimRow_id _ _ _ _ row
  | some row' => exact (onRow_moves matched).id_eq

/-- The claims a statement hands out. -/
def Act.grants (s : State) (act : Act) : List Grant :=
  (act.takes s).mapIdx fun position row => ⟨row.id, s.now + act.leaseMs, s.minted + position⟩

def step (s : State) (act : Act) : State :=
  match act with
  | .tick ms => { s with now := s.now + ms }
  | .reserveLegacyEvmNonce chainId nonce fromAddress =>
    { s with
      table := s.table.put (reservedRow s.now s.nextId chainId nonce fromAddress)
      nextId := s.nextId + 1 }
  | act =>
    { s with
      table := s.table.rewrite (act.rowStep s) (act.rowStep_id s)
      minted := s.minted + (act.takes s).length
      held := (s.held.filter fun grant =>
        act.presents ≠ some (grant.id, grant.claim.token)) ++ act.grants s }

end Vex.Evm.NonceReservations
