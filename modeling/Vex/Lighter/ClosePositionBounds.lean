import Mathlib
import Vex.Lighter.ClosePosition
import Vex.Lighter.OrderPreviewSafety

/-!
# How far a close may trade from the best price

A slippage of so many basis points from the best opposite price is a `limit`, and
the order is fixed at a whole number of ticks. Where the limit falls between two
ticks the worst acceptable price is the one outside: it is the floor of the limit
for a sale and the ceiling for a purchase (`worst_eq_rounded`). So the price is
within the approved slippage exactly where the limit is a tick
(`within_slippage_iff_on_tick`).

The depth counted is that of the fixed price, whichever it is, and the execution
counts the same depth on the same book (`Prepared.assertDepth`).
-/

namespace Vex.Lighter.ClosePosition

open Vex.Library Vex.Library.JsString
open Vex.Lighter.CapitalShare (Side)
open Vex.Lighter.OrderPreview (Denotes denotes_formatInteger decimalParts decimalToLighterInteger
  decimalToLighterInteger_spec IntegratorFees)

/-! ## The book in numbers -/

/-- The number a text denotes; nought for a text that is no decimal. -/
def numberOf (text : JsString) : ℚ := (decimalParts text).elim 0 Scaled.value

theorem numberOf_of_denotes {text : JsString} {number : ℚ} (denoted : Denotes text number) :
    numberOf text = number := by
  obtain ⟨parts, read, rfl⟩ := denoted
  rw [numberOf, read, Option.elim_some]

/-- The prices orders with something left trade at. -/
def offered (orders : List SimpleOrder) : Set ℚ :=
  {price | ∃ order ∈ orders, 0 < numberOf order.remainingBaseAmount ∧ numberOf order.price = price}

def IsBest (side : Side) (orders : List SimpleOrder) (price : ℚ) : Prop :=
  match side with
  | .sell => IsGreatest (offered orders) price
  | .buy => IsLeast (offered orders) price

/-- The price a slippage away from the best. -/
def limit (side : Side) (best : ℚ) (maxSlippageBps : Int) : ℚ :=
  match side with
  | .sell => best * (1 - maxSlippageBps / 10000)
  | .buy => best * (1 + maxSlippageBps / 10000)

/-- A price is no worse than another for who trades on a side. -/
def NoWorse (side : Side) (price bound : ℚ) : Prop :=
  match side with
  | .sell => bound ≤ price
  | .buy => price ≤ bound

instance (side : Side) (price bound : ℚ) : Decidable (NoWorse side price bound) := by
  unfold NoWorse
  cases side <;> exact inferInstance

/-- What the orders at a price or better hold. -/
def depth (side : Side) (orders : List SimpleOrder) (bound : ℚ) : ℚ :=
  ((orders.filter fun order => NoWorse side (numberOf order.price) bound).map
    fun order => numberOf order.remainingBaseAmount).sum

/-- The price fixed is no worse than the limit. -/
def WithinSlippage (prepared : Preparation) (orders : List SimpleOrder) : Prop :=
  ∃ best, IsBest prepared.closingSide orders best
    ∧ NoWorse prepared.closingSide (numberOf prepared.worstAcceptablePrice)
      (limit prepared.closingSide best prepared.maxSlippageBps)

/-- The limit is a price of the market: a whole number of its ticks. -/
def LimitOnTick (prepared : Preparation) (orders : List SimpleOrder) : Prop :=
  ∃ best, IsBest prepared.closingSide orders best
    ∧ ∃ ticks : ℤ, limit prepared.closingSide best prepared.maxSlippageBps
      * 10 ^ prepared.priceDecimals.toNat = ticks

/-! ## Reading the book -/

/-- The integers of a level are read from the texts of its order. -/
def Reads (sizeDecimals priceDecimals : Int) (order : SimpleOrder) (level : Level) : Prop :=
  decimalToLighterInteger order.price priceDecimals "order book price" false
      = .ok level.priceInteger
    ∧ decimalToLighterInteger order.remainingBaseAmount sizeDecimals "order book remaining amount"
      true = .ok level.remainingBaseAmountInteger

variable {sizeDecimals priceDecimals : Int} {orders : List SimpleOrder} {levels : List Level}

theorem readLevels_ok (read : readLevels sizeDecimals priceDecimals orders = .ok levels) :
    List.Forall₂ (Reads sizeDecimals priceDecimals) orders levels := by
  induction orders generalizing levels with
  | nil =>
    obtain rfl := Except.ok.inj read
    exact List.Forall₂.nil
  | cons order orders ih =>
    rw [readLevels, bind_eq_ok] at read
    obtain ⟨level, one, read⟩ := read
    rw [bind_eq_ok] at read
    obtain ⟨others, rest, read⟩ := read
    obtain rfl := Except.ok.inj read
    rw [readLevel, bind_eq_ok] at one
    obtain ⟨price, priceRead, one⟩ := one
    rw [bind_eq_ok] at one
    obtain ⟨remaining, remainingRead, one⟩ := one
    obtain rfl := Except.ok.inj one
    exact List.Forall₂.cons ⟨priceRead, remainingRead⟩ (ih rest)

section Levels

variable {sizeDecimals priceDecimals : Int} {orders : List SimpleOrder} {levels : List Level}

variable {order : SimpleOrder} {level : Level}

section
variable (read : Reads sizeDecimals priceDecimals order level)
include read

theorem Reads.price : 0 < level.priceInteger
      ∧ numberOf order.price = level.priceInteger / 10 ^ priceDecimals.toNat := by
  obtain ⟨-, denoted, positive⟩ := decimalToLighterInteger_spec read.1
  exact ⟨positive rfl, numberOf_of_denotes denoted⟩

theorem Reads.remaining : numberOf order.remainingBaseAmount
      = level.remainingBaseAmountInteger / 10 ^ sizeDecimals.toNat :=
  numberOf_of_denotes (decimalToLighterInteger_spec read.2).2.1

theorem Reads.remaining_pos :
    0 < numberOf order.remainingBaseAmount ↔ 0 < level.remainingBaseAmountInteger := by
  rw [read.remaining, div_pos_iff_of_pos_right (by positivity), Nat.cast_pos]

end

theorem prices_pos (read : List.Forall₂ (Reads sizeDecimals priceDecimals) orders levels) :
    ∀ level ∈ levels, 0 < level.priceInteger := by
  induction read with
  | nil => simp
  | cons one rest ih => exact List.forall_mem_cons.2 ⟨one.price.1, ih⟩

theorem mem_offered (read : List.Forall₂ (Reads sizeDecimals priceDecimals) orders levels)
    {price : ℚ} :
    price ∈ offered orders ↔ ∃ level ∈ levels.filter (0 < ·.remainingBaseAmountInteger),
      (level.priceInteger / 10 ^ priceDecimals.toNat : ℚ) = price := by
  unfold offered
  induction read with
  | nil => simp
  | @cons order level orders levels one rest ih =>
    have split : (∃ other ∈ order :: orders, 0 < numberOf other.remainingBaseAmount
          ∧ numberOf other.price = price)
        ↔ (0 < numberOf order.remainingBaseAmount ∧ numberOf order.price = price)
          ∨ ∃ other ∈ orders, 0 < numberOf other.remainingBaseAmount
            ∧ numberOf other.price = price := by
      simp [or_and_right, exists_or]
    rw [Set.mem_ofPred_eq] at ih ⊢
    rw [split, ih, one.remaining_pos, one.price.2]
    simp [or_and_right, exists_or, and_assoc]

theorem noWorse_ticks {side : Side} {ticks bound : ℤ} {decimals : Nat} :
    NoWorse side ((ticks : ℚ) / 10 ^ decimals) (bound / 10 ^ decimals)
      ↔ AtOrBetter side ticks bound := by
  have scale : (0 : ℚ) < 10 ^ decimals := by positivity
  cases side with
  | sell | buy => exact (div_le_div_iff_of_pos_right scale).trans Int.cast_le

theorem depth_eq (read : List.Forall₂ (Reads sizeDecimals priceDecimals) orders levels)
    (side : Side) (bound : ℤ) :
    depth side orders (bound / 10 ^ priceDecimals.toNat)
      = held (levels.filter (AtOrBetter side ·.priceInteger bound)) / 10 ^ sizeDecimals.toNat := by
  induction read with
  | nil => simp [depth, held]
  | @cons order level orders levels one rest ih =>
    have same : NoWorse side (numberOf order.price) (bound / 10 ^ priceDecimals.toNat)
        ↔ AtOrBetter side level.priceInteger bound := by
      rw [one.price.2]
      exact @noWorse_ticks _ (level.priceInteger : ℤ) _ _
    unfold depth held at ih ⊢
    by_cases reached : AtOrBetter side level.priceInteger bound
    · rw [List.filter_cons_of_pos (by simpa using same.2 reached),
        List.filter_cons_of_pos (by simpa using reached), List.map_cons, List.map_cons,
        List.sum_cons, List.sum_cons, ih, one.remaining]
      push_cast
      ring
    · rw [List.filter_cons_of_neg (by simpa using fun price => reached (same.1 price)),
        List.filter_cons_of_neg (by simpa using reached), ih]

theorem held_filter_pos (levels : List Level) (reached : Level → Bool) :
    held ((levels.filter (0 < ·.remainingBaseAmountInteger)).filter reached)
      = held (levels.filter reached) := by
  unfold held
  induction levels with
  | nil => rfl
  | cons level levels ih =>
    by_cases left : 0 < level.remainingBaseAmountInteger
    · rw [List.filter_cons_of_pos (by simpa using left)]
      cases decided : reached level with
      | true =>
        rw [List.filter_cons_of_pos decided, List.filter_cons_of_pos decided, List.map_cons,
          List.map_cons, List.sum_cons, List.sum_cons, ih]
      | false =>
        rw [List.filter_cons_of_neg (by simp [decided]),
          List.filter_cons_of_neg (by simp [decided]), ih]
    · have none' : level.remainingBaseAmountInteger = 0 := by omega
      rw [List.filter_cons_of_neg (by simpa using left), ih]
      cases decided : reached level with
      | true =>
        rw [List.filter_cons_of_pos decided, List.map_cons, List.sum_cons, none', Nat.zero_add]
      | false => rw [List.filter_cons_of_neg (by simp [decided])]

theorem availableAt_eq (read : List.Forall₂ (Reads sizeDecimals priceDecimals) orders levels)
    (side : Side) (approved available : Nat) :
    availableAt side approved sizeDecimals priceDecimals orders available
      = .ok (available + held (levels.filter (AtOrBetter side ·.priceInteger approved))) := by
  induction read generalizing available with
  | nil => simp [availableAt, held]
  | @cons order level orders levels one rest ih =>
    rw [availableAt, one.1, ok_bind, one.2, ok_bind, ih]
    unfold held
    by_cases reached : AtOrBetter side level.priceInteger approved
    · rw [if_pos reached, List.filter_cons_of_pos (by simpa using reached), List.map_cons,
        List.sum_cons, Nat.add_assoc]
    · rw [if_neg reached, List.filter_cons_of_neg (by simpa using reached)]

end Levels

/-! ## The best price -/

theorem foldl_greatest (levels : List Level) (start : Nat) :
    let best := levels.foldl
      (fun best level => if best < level.priceInteger then level.priceInteger else best) start
    (best = start ∨ ∃ level ∈ levels, level.priceInteger = best) ∧ start ≤ best
      ∧ ∀ level ∈ levels, level.priceInteger ≤ best := by
  induction levels generalizing start with
  | nil => simp
  | cons level levels ih =>
    obtain ⟨attained, above, greatest⟩ := ih
      (if start < level.priceInteger then level.priceInteger else start)
    simp only [List.foldl_cons, List.forall_mem_cons, List.exists_mem_cons_iff]
    refine ⟨?_, ?_, ?_, greatest⟩
    · rcases attained with same | later
      · split_ifs at same ⊢ with more
        · exact Or.inr (Or.inl same.symm)
        · exact Or.inl same
      · exact Or.inr (Or.inr later)
    · split_ifs at above ⊢ with more <;> omega
    · split_ifs at above ⊢ with more <;> omega

theorem foldl_least (levels : List Level) (start : Nat) (some' : 0 < start)
    (priced : ∀ level ∈ levels, 0 < level.priceInteger) :
    let best := levels.foldl
      (fun best level => if best = 0 ∨ level.priceInteger < best then level.priceInteger else best)
      start
    (best = start ∨ ∃ level ∈ levels, level.priceInteger = best) ∧ best ≤ start
      ∧ ∀ level ∈ levels, best ≤ level.priceInteger := by
  induction levels generalizing start with
  | nil => simp
  | cons level levels ih =>
    rw [List.forall_mem_cons] at priced
    obtain ⟨attained, below, least⟩ := ih
      (if start = 0 ∨ level.priceInteger < start then level.priceInteger else start)
      (by split_ifs <;> omega) priced.2
    simp only [List.foldl_cons, List.forall_mem_cons, List.exists_mem_cons_iff]
    refine ⟨?_, ?_, ?_, least⟩
    · rcases attained with same | later
      · split_ifs at same ⊢ with less
        · exact Or.inr (Or.inl same.symm)
        · exact Or.inl same
      · exact Or.inr (Or.inr later)
    · split_ifs at below ⊢ with less <;> omega
    · split_ifs at below ⊢ with less <;> omega

theorem bestPriceInteger_spec (side : Side) (some' : levels ≠ [])
    (priced : ∀ level ∈ levels, 0 < level.priceInteger) :
    (∃ level ∈ levels, level.priceInteger = bestPriceInteger side levels)
      ∧ ∀ level ∈ levels, AtOrBetter side (bestPriceInteger side levels) level.priceInteger := by
  cases levels with
  | nil => exact absurd rfl some'
  | cons level levels =>
    cases side with
    | sell =>
      obtain ⟨attained, -, greatest⟩ := foldl_greatest (level :: levels) 0
      have above := greatest level List.mem_cons_self
      have positive := priced level List.mem_cons_self
      refine ⟨attained.resolve_left fun none' => ?_, ?_⟩
      · rw [none'] at above
        omega
      · exact fun other member => Int.ofNat_le.2 (greatest other member)
    | buy =>
      rw [List.forall_mem_cons] at priced
      obtain ⟨attained, below, least⟩ := foldl_least levels level.priceInteger priced.1 priced.2
      have first : bestPriceInteger .buy (level :: levels) = levels.foldl
          (fun best level =>
            if best = 0 ∨ level.priceInteger < best then level.priceInteger else best)
          level.priceInteger := by
        rw [bestPriceInteger, List.foldl_cons, if_pos (Or.inl rfl)]
      rw [first]
      refine ⟨?_, ?_⟩
      · rcases attained with same | ⟨other, member, same⟩
        · exact ⟨level, List.mem_cons_self, same.symm⟩
        · exact ⟨other, List.mem_cons_of_mem _ member, same⟩
      · rw [List.forall_mem_cons]
        exact ⟨Int.ofNat_le.2 below, fun other member => Int.ofNat_le.2 (least other member)⟩

theorem isBest_ticks {read : List Level}
    (reads : List.Forall₂ (Reads sizeDecimals priceDecimals) orders read) (side : Side)
    (some' : read.filter (0 < ·.remainingBaseAmountInteger) ≠ []) :
    IsBest side orders (bestPriceInteger side (read.filter (0 < ·.remainingBaseAmountInteger))
      / 10 ^ priceDecimals.toNat) := by
  have priced : ∀ level ∈ read.filter (0 < ·.remainingBaseAmountInteger), 0 < level.priceInteger :=
    fun level member => prices_pos reads level (List.mem_of_mem_filter member)
  obtain ⟨⟨level, member, attained⟩, extreme⟩ := bestPriceInteger_spec side some' priced
  have scale : (0 : ℚ) < 10 ^ priceDecimals.toNat := by positivity
  have among : ((bestPriceInteger side (read.filter (0 < ·.remainingBaseAmountInteger)) : ℚ)
      / 10 ^ priceDecimals.toNat) ∈ offered orders :=
    (mem_offered reads).2 ⟨level, member, by rw [attained]⟩
  cases side with
  | sell | buy =>
    refine ⟨among, fun price offeredToo => ?_⟩
    obtain ⟨other, member, rfl⟩ := (mem_offered reads).1 offeredToo
    exact (div_le_div_iff_of_pos_right scale).2 (Nat.cast_le.2 (Int.ofNat_le.1 (extreme other member)))

variable {side : Side}

theorem IsBest.unique {one two : ℚ} (best : IsBest side orders one) (again : IsBest side orders two)
    :
    one = two := by
  cases side with
  | sell => exact IsGreatest.unique best again
  | buy => exact IsLeast.unique best again

/-! ## The worst acceptable price -/

/-- A whole number of ticks, away from the best price. -/
def rounded (side : Side) (exact : ℚ) : ℤ :=
  match side with
  | .sell => ⌊exact⌋
  | .buy => ⌈exact⌉

theorem worst_eq_rounded (side : Side) (best : Nat) {bps : Int} (range : 1 ≤ bps ∧ bps ≤ 500)
    (decimals : Nat) :
    worstAcceptablePriceInteger side best bps
      = rounded side (limit side (best / 10 ^ decimals) bps * 10 ^ decimals) := by
  have scale : (10 ^ decimals : ℚ) ≠ 0 := by positivity
  cases side with
  | sell =>
    have ticks : limit .sell (best / 10 ^ decimals) bps * 10 ^ decimals
        = ((best * (10000 - bps) : ℤ) : ℚ) / (10000 : ℕ) := by
      unfold limit
      push_cast
      field_simp
    rw [ticks]
    show _ = ⌊_⌋
    rw [Rat.floor_intCast_div_natCast]
    exact Int.tdiv_eq_ediv_of_nonneg (by nlinarith [Int.natCast_nonneg best])
  | buy =>
    have ticks : limit .buy (best / 10 ^ decimals) bps * 10 ^ decimals
        = ((best * (10000 + bps) : ℤ) : ℚ) / (10000 : ℕ) := by
      unfold limit
      push_cast
      field_simp
    rw [ticks]
    show _ = ⌈_⌉
    rw [Rat.ceil_intCast_div_natCast]
    have nonneg : 0 ≤ best * (10000 + bps) := by nlinarith [Int.natCast_nonneg best]
    show (best * (10000 + bps) + 10000 - 1).tdiv 10000 = _
    rw [Int.tdiv_eq_ediv_of_nonneg (by omega)]
    omega

theorem atOrBetter_rounded {exact : ℚ} :
    NoWorse side (rounded side exact) exact ↔ ∃ ticks : ℤ, exact = ticks := by
  constructor
  · intro within
    refine ⟨rounded side exact, ?_⟩
    cases side with
    | sell => exact le_antisymm within (Int.floor_le exact)
    | buy => exact le_antisymm (Int.le_ceil exact) within
  · rintro ⟨ticks, rfl⟩
    cases side with
    | sell => exact (Int.cast_le.2 (Int.floor_intCast ticks).ge)
    | buy => exact (Int.cast_le.2 (Int.ceil_intCast ticks).le)

/-! ## The terms fixed -/

theorem computeCloseBookEvidence_ok {required worst : Nat} {bps : Int} {evidence : BookEvidence}
    (computed : computeCloseBookEvidence side orders required sizeDecimals priceDecimals bps
      = .ok (worst, evidence)) :
    ∃ read, List.Forall₂ (Reads sizeDecimals priceDecimals) orders read
      ∧ read.filter (0 < ·.remainingBaseAmountInteger) ≠ []
      ∧ (worst : ℤ) = worstAcceptablePriceInteger side
          (bestPriceInteger side (read.filter (0 < ·.remainingBaseAmountInteger))) bps
      ∧ required ≤ held (read.filter (AtOrBetter side ·.priceInteger worst)) := by
  rw [computeCloseBookEvidence, bind_eq_ok] at computed
  obtain ⟨read, reads, computed⟩ := computed
  dsimp only at computed
  rw [bind_eq_ok] at computed
  obtain ⟨⟨⟩, some', computed⟩ := computed
  rw [bind_eq_ok] at computed
  obtain ⟨⟨⟩, range, computed⟩ := computed
  rw [bind_eq_ok] at computed
  obtain ⟨⟨⟩, enough, computed⟩ := computed
  obtain ⟨rfl, -⟩ := Prod.mk.inj (Except.ok.inj computed)
  rw [refuseIf_eq_ok] at some' range enough
  have positive : ∀ {price : ℤ}, ¬(price < 1 ∨ 2 ^ 32 - 1 < price) → (price.toNat : ℤ) = price :=
    fun inRange => Int.toNat_of_nonneg (by omega)
  rw [positive range]
  refine ⟨read, readLevels_ok reads, fun none' => some' (by rw [none']; rfl), rfl, ?_⟩
  rw [held_filter_pos] at enough
  exact Nat.le_of_not_lt enough

/-- What is prepared: the levels of the opposite side, the size and the price in units of the
wire. -/
structure Fixed (prepared : Preparation) (orders : List SimpleOrder) (read : List Level)
    (base worst : Nat) : Prop where
  reads : List.Forall₂ (Reads prepared.sizeDecimals prepared.priceDecimals) orders read
  some' : read.filter (0 < ·.remainingBaseAmountInteger) ≠ []
  range : 1 ≤ prepared.maxSlippageBps ∧ prepared.maxSlippageBps ≤ 500
  worst_eq : (worst : ℤ) = worstAcceptablePriceInteger prepared.closingSide
    (bestPriceInteger prepared.closingSide (read.filter (0 < ·.remainingBaseAmountInteger)))
    prepared.maxSlippageBps
  enough : base ≤ held (read.filter (AtOrBetter prepared.closingSide ·.priceInteger worst))
  size : numberOf prepared.position.position = base / 10 ^ prepared.sizeDecimals.toNat
  price : numberOf prepared.worstAcceptablePrice = worst / 10 ^ prepared.priceDecimals.toNat
  baseText : prepared.baseAmountInteger = ofNat base
  priceText : prepared.priceInteger = ofNat worst

theorem prepareLighterClosePosition_ok {lifecycleMatchHash : Terms → JsString}
    {integratorFees : Option IntegratorFees} {input : Input} {answers : Answers}
    {prepared : Preparation}
    (succeeded : prepareLighterClosePosition lifecycleMatchHash integratorFees input answers
      = .ok prepared) :
    ∃ read base worst,
      Fixed prepared (answers.book.against prepared.closingSide) read base worst := by
  rw [prepareLighterClosePosition, bind_eq_ok] at succeeded
  obtain ⟨⟨⟩, slippage, succeeded⟩ := succeeded
  rw [refuseIf_eq_ok] at slippage
  split at succeeded
  · rename_i account _
    split at succeeded
    · cases succeeded
    · rename_i market _
      rw [bind_eq_ok] at succeeded
      obtain ⟨⟨⟩, -, succeeded⟩ := succeeded
      rw [bind_eq_ok] at succeeded
      obtain ⟨position, -, succeeded⟩ := succeeded
      rw [bind_eq_ok] at succeeded
      obtain ⟨base, sized, succeeded⟩ := succeeded
      rw [bind_eq_ok] at succeeded
      obtain ⟨⟨⟩, -, succeeded⟩ := succeeded
      rw [bind_eq_ok] at succeeded
      obtain ⟨⟨worst, evidence⟩, computed, succeeded⟩ := succeeded
      obtain rfl := Except.ok.inj succeeded
      obtain ⟨read, reads, some', worst_eq, enough⟩ := computeCloseBookEvidence_ok computed
      exact ⟨read, base, worst,
        { reads
          some'
          range := by
            dsimp only
            omega
          worst_eq
          enough
          size := numberOf_of_denotes (decimalToLighterInteger_spec sized).2.1
          price := numberOf_of_denotes (denotes_formatInteger worst _)
          baseText := rfl
          priceText := rfl }⟩
  · cases succeeded

section Fixed

variable {prepared : Preparation} {orders : List SimpleOrder} {read : List Level}
  {base worst : Nat} (fixed : Fixed prepared orders read base worst)

include fixed

theorem Fixed.deep : numberOf prepared.position.position
    ≤ depth prepared.closingSide orders (numberOf prepared.worstAcceptablePrice) := by
  have counted := depth_eq fixed.reads prepared.closingSide worst
  rw [Int.cast_natCast] at counted
  rw [fixed.size, fixed.price, counted]
  have scale : (0 : ℚ) < 10 ^ prepared.sizeDecimals.toNat := by positivity
  exact (div_le_div_iff_of_pos_right scale).2 (Nat.cast_le.2 fixed.enough)

theorem Fixed.assertDepth {book : OrderBook} (same : orders = book.against prepared.closingSide) :
    prepared.toTerms.assertDepth book = .ok () := by
  rw [Terms.assertDepth, assertCloseDepthAtApprovedPrice, ← same, fixed.baseText, fixed.priceText,
    decimalValue_ofNat, decimalValue_ofNat, availableAt_eq fixed.reads, ok_bind, refuseIf_eq_ok,
    Nat.zero_add]
  exact Nat.not_lt.2 fixed.enough

theorem Fixed.within_slippage_iff_on_tick :
    WithinSlippage prepared orders ↔ LimitOnTick prepared orders := by
  have best := isBest_ticks fixed.reads prepared.closingSide fixed.some'
  have scale : (0 : ℚ) < 10 ^ prepared.priceDecimals.toNat := by positivity
  have ticks := worst_eq_rounded prepared.closingSide
    (bestPriceInteger prepared.closingSide (read.filter (0 < ·.remainingBaseAmountInteger)))
    fixed.range prepared.priceDecimals.toNat
  rw [← fixed.worst_eq] at ticks
  have within : NoWorse prepared.closingSide (numberOf prepared.worstAcceptablePrice)
        (limit prepared.closingSide (bestPriceInteger prepared.closingSide
          (read.filter (0 < ·.remainingBaseAmountInteger)) / 10 ^ prepared.priceDecimals.toNat)
          prepared.maxSlippageBps)
      ↔ NoWorse prepared.closingSide ((worst : ℤ) : ℚ)
        (limit prepared.closingSide (bestPriceInteger prepared.closingSide
          (read.filter (0 < ·.remainingBaseAmountInteger)) / 10 ^ prepared.priceDecimals.toNat)
          prepared.maxSlippageBps * 10 ^ prepared.priceDecimals.toNat) := by
    rw [fixed.price, Int.cast_natCast]
    cases prepared.closingSide with
    | sell => exact le_div_iff₀ scale
    | buy => exact div_le_iff₀ scale
  rw [ticks, atOrBetter_rounded] at within
  constructor
  · rintro ⟨price, isBest, noWorse⟩
    rw [isBest.unique best] at noWorse
    exact ⟨_, best, within.1 noWorse⟩
  · rintro ⟨price, isBest, onTick⟩
    rw [isBest.unique best] at onTick
    exact ⟨_, best, within.2 onTick⟩

end Fixed

/-- A close that is prepared trades within its slippage, finds the whole position at its price or
better and passes the check of the execution on the same book, exactly where the price its
slippage away from the best opposite price is a whole number of ticks. -/
theorem close_within_slippage_iff {lifecycleMatchHash : Terms → JsString}
    {integratorFees : Option IntegratorFees} {input : Input} {answers : Answers}
    {prepared : Preparation}
    (succeeded : prepareLighterClosePosition lifecycleMatchHash integratorFees input answers
      = .ok prepared) :
    (WithinSlippage prepared (answers.book.against prepared.closingSide)
      ∧ numberOf prepared.position.position
          ≤ depth prepared.closingSide (answers.book.against prepared.closingSide)
              (numberOf prepared.worstAcceptablePrice)
      ∧ prepared.toTerms.assertDepth answers.book = .ok ())
    ↔ LimitOnTick prepared (answers.book.against prepared.closingSide) := by
  obtain ⟨read, base, worst, fixed⟩ := prepareLighterClosePosition_ok succeeded
  rw [← fixed.within_slippage_iff_on_tick]
  exact ⟨fun every => every.1, fun within => ⟨within, fixed.deep, fixed.assertDepth rfl⟩⟩

def oneBid (priceDecimals : Int) (price : JsString) : Answers where
  accounts := [⟨some 42, none, some [⟨0, "ETH", 1, "1", "3", "3", "0", "0"⟩]⟩]
  markets := [⟨0, .perp, .active, 0, priceDecimals⟩]
  book := ⟨[⟨"1", price⟩], []⟩

def oneBidTerms (priceDecimals : Int) (best worst : Nat) (bps : Int) : Terms where
  integratorFees := none
  environment := .core
  accountIndex := 42
  apiKeyIndex := 7
  marketIndex := 0
  position := ⟨0, "ETH", 1, .long, "1", "3", "3", "0", "0"⟩
  closingSide := .sell
  baseAmountInteger := "1"
  priceInteger := ofNat worst
  maxSlippageBps := bps
  sizeDecimals := 0
  priceDecimals
  bookEvidence := ⟨ofNat best, ofNat worst, "1", "1", 1, 1, bps⟩

theorem close_within_slippage_iff_fifty :
    (WithinSlippage ⟨oneBidTerms 2 5000 4950 100, "1", "49.5", []⟩ (oneBid 2 "50.00").book.bids
      ∧ numberOf "1" ≤ depth .sell (oneBid 2 "50.00").book.bids (numberOf "49.5")
      ∧ (oneBidTerms 2 5000 4950 100).assertDepth (oneBid 2 "50.00").book = .ok ())
    ↔ LimitOnTick ⟨oneBidTerms 2 5000 4950 100, "1", "49.5", []⟩ (oneBid 2 "50.00").book.bids :=
  @close_within_slippage_iff (fun _ => []) none ⟨.core, 42, 7, 0, 100⟩ (oneBid 2 "50.00") _
    (by decide +kernel)

/-- The best bid is three ticks and the slippage one basis point; the price fixed is two ticks. -/
theorem coarse_tick_beyond_slippage :
    prepareLighterClosePosition (fun _ => []) none ⟨.core, 42, 7, 0, 1⟩ (oneBid 0 "3")
        = .ok ⟨oneBidTerms 0 3 2 1, "1", "2", []⟩
      ∧ ¬WithinSlippage ⟨oneBidTerms 0 3 2 1, "1", "2", []⟩ (oneBid 0 "3").book.bids := by
  refine ⟨by decide +kernel, ?_⟩
  rintro ⟨best, isBest, within⟩
  obtain ⟨⟨order, member, -, price⟩, -⟩ := isBest
  obtain rfl := List.mem_singleton.1 member
  have three : numberOf "3" = 3 := by decide +kernel
  have two : numberOf "2" = 2 := by decide +kernel
  have above : best * (1 - 1 / 10000) ≤ numberOf "2" := by exact_mod_cast within
  rw [← price, three, two] at above
  norm_num at above

end Vex.Lighter.ClosePosition
