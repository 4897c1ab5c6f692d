import Vex.Library.RoundedUp
import Vex.Lighter.CapitalShare
import Mathlib.Data.Nat.Cast.Order.Field

/-!
# Capital arithmetic rounds against the order

Each parser and each division of the capital share is compared with the exact
rational amount it stands for. The decimals of the provider denote rationals
(`Denotes`), a strict parse is exact, the parse of a resting order is no smaller,
and the required capital of an order is an `obligation`: its notional rounded up
to whole units, charged at the margin fraction and at two fee rates, each charge
rounded up.

`capital_rounds_against_order` — **the crown** — collects what follows for every
request the code accepts. The notional is rounded before the charges, so an
order can be required more than one unit for each rounded amount:
`excess_can_pass_four`.
-/

namespace Vex.Lighter.CapitalShare

open Vex.Library

/-! ## What decimal strings denote -/

/-- The number a signed decimal string denotes. -/
def Denotes (value : JsString) (number : ℚ) : Prop :=
  ∃ negative whole fraction, value.trim.matchSignedDecimal = some (negative, whole, fraction) ∧
    number = (if negative then -1 else 1) * JsString.decimalRat whole fraction

/-- The number an unsigned decimal string denotes. -/
def DenotesUnsigned (value : JsString) (number : ℚ) : Prop :=
  ∃ whole fraction, value.trim.matchDecimal = some (whole, fraction) ∧
    number = JsString.decimalRat whole fraction

variable {fraction : JsString}

theorem decimalValue_padEnd (whole : JsString) {length : Nat} (fits : fraction.length ≤ length) :
    ((whole ++ padEnd fraction length).decimalValue : ℚ) =
      JsString.decimalRat whole fraction * 10 ^ length := by
  obtain ⟨more, rfl⟩ := Nat.exists_eq_add_of_le fits
  rw [padEnd, Nat.add_sub_cancel_left, ← List.append_assoc, JsString.decimalValue_append,
    JsString.decimalValue_zeros, List.length_replicate, Nat.add_zero, pow_add, ← mul_assoc,
    JsString.decimalRat_mul]
  push_cast
  rfl

variable {value : JsString}

theorem decimalValue_eq_zero (digits : value.all JsString.isDigit)
    (none : ¬ value.any fun unit => 49 ≤ unit && unit ≤ 57) : value.decimalValue = 0 := by
  have zeros : value = List.replicate value.length 48 := by
    refine List.eq_replicate_of_mem fun unit member => ?_
    have digit := List.all_eq_true.mp digits unit member
    have small : ¬ (49 ≤ unit ∧ unit ≤ 57) := by
      intro positive
      exact none (List.any_eq_true.mpr ⟨unit, member, by simpa using positive⟩)
    simp only [JsString.isDigit, Bool.and_eq_true, decide_eq_true_eq] at digit
    refine UInt16.toNat_inj.mp ?_
    simp only [UInt16.le_iff_toNat_le, UInt16.toNat_ofNat] at digit small ⊢
    omega
  rw [zeros, JsString.decimalValue_zeros]

theorem matchSignedDecimal_digits {whole : JsString} {negative : Bool}
    (matched : value.matchSignedDecimal = some (negative, whole, fraction)) :
    whole.all JsString.isDigit ∧ fraction.all JsString.isDigit := by
  unfold JsString.matchSignedDecimal at matched
  split at matched
  all_goals
    obtain ⟨⟨_, _⟩, parts, equal⟩ := Option.map_eq_some_iff.mp matched
    cases equal
    exact JsString.matchDecimal_digits parts

variable {decimals : Int} {parsed : Nat}

theorem decimalToScaledInteger_exact {name : JsString}
    (accepted : decimalToScaledInteger value decimals name = .ok parsed) :
    ∃ number, Denotes value number ∧ (parsed : ℚ) = number * 10 ^ decimals.toNat := by
  unfold decimalToScaledInteger at accepted
  dsimp only at accepted
  cases matched : value.trim.matchSignedDecimal with
  | none =>
    rw [matched] at accepted
    cases accepted
  | some parts =>
    obtain ⟨negative, whole, fraction⟩ := parts
    rw [matched] at accepted
    dsimp only at accepted
    split at accepted
    · cases accepted
    rename_i nonneg
    split at accepted
    · cases accepted
    rename_i fits
    cases accepted
    refine ⟨_, ⟨negative, whole, fraction, matched, rfl⟩, ?_⟩
    rw [decimalValue_padEnd whole (by omega)]
    cases negative with
    | false => simp
    | true =>
      obtain ⟨digits, digits'⟩ := matchSignedDecimal_digits matched
      have zero : (whole ++ fraction).decimalValue = 0 :=
        decimalValue_eq_zero (by rw [List.all_append, digits, digits', Bool.and_self])
          (fun positive => nonneg ⟨rfl, positive⟩)
      have : JsString.decimalRat whole fraction = 0 := by
        have scaled := JsString.decimalRat_mul whole fraction
        rw [zero, Nat.cast_zero] at scaled
        exact (mul_eq_zero.mp scaled).resolve_right (by positivity)
      simp [this]

theorem decimalRat_append (whole kept rest : JsString) :
    JsString.decimalRat whole (kept ++ rest) * 10 ^ kept.length =
      (whole ++ kept).decimalValue + rest.decimalValue / 10 ^ rest.length := by
  have scaled := JsString.decimalRat_mul whole (kept ++ rest)
  rw [← List.append_assoc, JsString.decimalValue_append, List.length_append, pow_add] at scaled
  push_cast at scaled
  field_simp
  linarith

theorem cut_le_bump {rest : JsString} (digits : rest.all JsString.isDigit) :
    (rest.decimalValue / 10 ^ rest.length : ℚ) ≤
      (if rest.any fun unit => 49 ≤ unit && unit ≤ 57 then 1 else 0 : Nat) := by
  split
  · have below : (rest.decimalValue : ℚ) ≤ 10 ^ rest.length := by
      exact_mod_cast (JsString.decimalValue_lt digits).le
    rw [Nat.cast_one, div_le_one (by positivity)]
    exact below
  · rename_i none
    simp [decimalValue_eq_zero digits none]

theorem decimalToScaled_ge {decimals : Nat} (accepted : decimalToScaled value decimals = .ok parsed)
    :
    ∃ number, DenotesUnsigned value number ∧ 0 ≤ number ∧ number * 10 ^ decimals ≤ parsed := by
  unfold decimalToScaled at accepted
  cases matched : value.trim.matchDecimal with
  | none =>
    rw [matched] at accepted
    cases accepted
  | some parts =>
    obtain ⟨whole, fraction⟩ := parts
    rw [matched] at accepted
    dsimp only at accepted
    cases accepted
    refine ⟨_, ⟨whole, fraction, matched, rfl⟩, by unfold JsString.decimalRat; positivity, ?_⟩
    have digits := (JsString.matchDecimal_digits matched).2
    by_cases fits : fraction.length ≤ decimals
    · rw [List.take_of_length_le fits, Nat.cast_add, decimalValue_padEnd whole fits]
      exact le_add_of_nonneg_right (by positivity)
    · have kept : (fraction.take decimals).length = decimals :=
        List.length_take_of_le (by omega)
      have unpadded : padEnd (fraction.take decimals) decimals = fraction.take decimals := by
        simp [padEnd, kept]
      have cut := cut_le_bump (List.all_eq_true.mpr fun unit member =>
        List.all_eq_true.mp digits unit (List.mem_of_mem_drop member) :
          (fraction.drop decimals).all JsString.isDigit = true)
      have exact_ := decimalRat_append whole (fraction.take decimals) (fraction.drop decimals)
      rw [List.take_append_drop, kept] at exact_
      rw [exact_, unpadded, Nat.cast_add]
      exact add_le_add_right cut _

/-! ## Divisions -/

variable {denominator : Nat}

theorem ceilDiv_eq (numerator : Nat) (positive : 0 < denominator) :
    ceilDiv numerator denominator = ⌈(numerator / denominator : ℚ)⌉₊ := by
  unfold ceilDiv
  split
  · rename_i zero
    simp [zero]
  · rw [← ceilDiv_eq_ceil numerator positive, Nat.ceilDiv_eq_add_pred_div]

theorem ceilDiv_margin (notional fraction : Nat) :
    ceilDiv (notional * fraction) marginFractionTick = ⌈(notional * (fraction / 10 ^ 4) : ℚ)⌉₊ := by
  rw [ceilDiv_eq _ (by decide), marginFractionTick]
  push_cast
  rw [mul_div_assoc]
  norm_num

theorem ceilDiv_fee (notional ticks : Nat) :
    ceilDiv (notional * ticks) feeTickDenominator = ⌈(notional * (ticks / 10 ^ 6) : ℚ)⌉₊ := by
  rw [ceilDiv_eq _ (by decide), feeTickDenominator]
  push_cast
  rw [mul_div_assoc]
  norm_num

theorem ceilDivBig_eq (numerator : Nat) (positive : 0 < denominator) :
    ceilDivBig numerator denominator = ⌈(numerator / denominator : ℚ)⌉₊ :=
  ceilDiv_eq numerator positive

theorem rescaleToCapitalUnits_eq (value quoteDecimals : Nat) :
    rescaleToCapitalUnits value quoteDecimals = ⌈(value / 10 ^ quoteDecimals * 10 ^ 6 : ℚ)⌉₊ := by
  rw [← rescaled_eq_ceil, rescaleToCapitalUnits, rescaled, capitalUnitsDecimals]
  rcases lt_trichotomy quoteDecimals 6 with finer | same | coarser
  · rw [if_neg (by omega), if_neg (by omega), if_pos (by omega)]
  · simp [same]
  · rw [if_neg (by omega), if_pos (by omega), if_neg (by omega), ceilDiv_eq _ (by positivity),
      ceilDiv_eq_ceil _ (by positivity)]

/-! ## The terms of an order -/

structure OrderTerms where
  base : Nat
  price : Nat
  sizeDecimals : Nat
  priceDecimals : Nat
  marginFraction : Nat
  marketTicks : Nat
  accountTicks : Nat
  vexTicks : Nat

namespace OrderTerms

structure Of (terms : OrderTerms) (input : RequiredCapitalInput) : Prop where
  base : parseNonNegativeInteger input.baseAmountInteger = some terms.base
  price : parseNonNegativeInteger input.riskPriceInteger = some terms.price
  sizeDecimals : input.sizeDecimals = terms.sizeDecimals
  priceDecimals : input.priceDecimals = terms.priceDecimals
  marginFraction : input.initialMarginFraction = terms.marginFraction
  marketTicks :
    feePercentToTicks input.exchangeTakerFeePercent "market taker_fee" = .ok terms.marketTicks
  accountTicks : input.exchangeAccountTakerFeeTicks = terms.accountTicks
  vexTicks : input.vexIntegratorTakerFeeTicks.getD 0 = terms.vexTicks

def notional (terms : OrderTerms) : ℚ :=
  (terms.base / 10 ^ terms.sizeDecimals) * (terms.price / 10 ^ terms.priceDecimals) * 10 ^ 6

/-- The rates an order is charged at: its margin fraction, the larger of the two
exchange fees, and the integrator fee. -/
def rates (terms : OrderTerms) : List ℚ :=
  [terms.marginFraction / 10 ^ 4, max terms.marketTicks terms.accountTicks / 10 ^ 6,
    terms.vexTicks / 10 ^ 6]

def exactUnits (terms : OrderTerms) : ℚ := terms.notional * terms.rates.sum

theorem notional_nonneg (terms : OrderTerms) : 0 ≤ terms.notional := by
  unfold notional
  positivity

theorem rates_nonneg (terms : OrderTerms) : ∀ rate ∈ terms.rates, 0 ≤ rate := by
  intro rate member
  simp only [rates, List.mem_cons, List.not_mem_nil, or_false] at member
  rcases member with rfl | rfl | rfl <;> positivity

theorem Of.unique {terms terms' : OrderTerms} {input : RequiredCapitalInput}
    (of : terms.Of input) (of' : terms'.Of input) : terms = terms' := by
  cases terms
  cases terms'
  have base := of.base.symm.trans of'.base
  have price := of.price.symm.trans of'.price
  have size := of.sizeDecimals.symm.trans of'.sizeDecimals
  have scale := of.priceDecimals.symm.trans of'.priceDecimals
  have fraction := of.marginFraction.symm.trans of'.marginFraction
  have market := of.marketTicks.symm.trans of'.marketTicks
  have account := of.accountTicks.symm.trans of'.accountTicks
  have vex := of.vexTicks.symm.trans of'.vexTicks
  simp only [Option.some.injEq, Nat.cast_inj, Except.ok.injEq] at *
  simp only [*]

end OrderTerms

/-! ## Inversion of the required capital -/

variable {refusal : JsString}

theorem positiveInteger_ok (accepted : positiveInteger value refusal = .ok parsed) :
    parseNonNegativeInteger value = some parsed := by
  unfold positiveInteger at accepted
  cases found : parseNonNegativeInteger value with
  | none =>
    rw [found] at accepted
    cases accepted
  | some other =>
    rw [found] at accepted
    dsimp only at accepted
    split at accepted
    · cases accepted
    · cases accepted
      rfl

theorem feeTicks_ok {ticks : Int} (accepted : feeTicks ticks refusal = .ok parsed) :
    ticks = parsed := by
  unfold feeTicks at accepted
  split at accepted
  · cases accepted
  · cases accepted
    omega

theorem assertScale_ok {name : String} (accepted : assertScale decimals name = .ok ()) :
    0 ≤ decimals := by
  unfold assertScale at accepted
  split at accepted
  · cases accepted
  · omega

variable {input : RequiredCapitalInput}

theorem assertQuoteScale_ok (accepted : assertQuoteScale input = .ok ()) :
    input.quoteDecimals = input.sizeDecimals + input.priceDecimals := by
  unfold assertQuoteScale at accepted
  split at accepted
  · cases accepted
  · rename_i same
    exact not_not.mp same

theorem assertMarginFraction_ok {fraction : Int}
    (accepted : assertMarginFraction fraction = .ok ()) : 0 < fraction := by
  unfold assertMarginFraction at accepted
  split at accepted
  · cases accepted
  · omega

variable {required : RequiredCapital}

theorem computeOrderRequiredCapital_ok (accepted : computeOrderRequiredCapital input = .ok required) :
    ∃ terms : OrderTerms, terms.Of input ∧
      required.requiredUnits = obligation terms.notional terms.rates ∧
      input.quoteDecimals = terms.sizeDecimals + terms.priceDecimals := by
  unfold computeOrderRequiredCapital at accepted
  obtain ⟨base, baseOk, accepted⟩ := bind_eq_ok.mp accepted
  obtain ⟨price, priceOk, accepted⟩ := bind_eq_ok.mp accepted
  obtain ⟨_, sizeOk, accepted⟩ := bind_eq_ok.mp accepted
  obtain ⟨_, scaleOk, accepted⟩ := bind_eq_ok.mp accepted
  obtain ⟨_, -, accepted⟩ := bind_eq_ok.mp accepted
  obtain ⟨_, quoteOk, accepted⟩ := bind_eq_ok.mp accepted
  obtain ⟨_, fractionOk, accepted⟩ := bind_eq_ok.mp accepted
  obtain ⟨marketTicks, marketOk, accepted⟩ := bind_eq_ok.mp accepted
  obtain ⟨accountTicks, accountOk, accepted⟩ := bind_eq_ok.mp accepted
  obtain ⟨vexTicks, vexOk, accepted⟩ := bind_eq_ok.mp accepted
  cases accepted
  obtain ⟨size, sizeEq⟩ := Int.eq_ofNat_of_zero_le (assertScale_ok sizeOk)
  obtain ⟨scale, scaleEq⟩ := Int.eq_ofNat_of_zero_le (assertScale_ok scaleOk)
  obtain ⟨fraction, fractionEq⟩ := Int.eq_ofNat_of_zero_le (assertMarginFraction_ok fractionOk).le
  have quote := assertQuoteScale_ok quoteOk
  have vexEq : input.vexIntegratorTakerFeeTicks.getD 0 = vexTicks := by
    cases given : input.vexIntegratorTakerFeeTicks with
    | none =>
      rw [given] at vexOk
      cases vexOk
      rfl
    | some ticks =>
      rw [given] at vexOk
      exact feeTicks_ok vexOk
  refine ⟨⟨base, price, size, scale, fraction, marketTicks, accountTicks, vexTicks⟩,
    ⟨positiveInteger_ok baseOk, positiveInteger_ok priceOk, sizeEq, scaleEq, fractionEq, marketOk,
      feeTicks_ok accountOk, vexEq⟩, ?_, by rw [quote, sizeEq, scaleEq]⟩
  have quoteNat : input.quoteDecimals.toNat = size + scale := by omega
  have notional : rescaleToCapitalUnits (base * price) input.quoteDecimals.toNat =
      ⌈(base / 10 ^ size * (price / 10 ^ scale) * 10 ^ 6 : ℚ)⌉₊ := by
    rw [rescaleToCapitalUnits_eq, quoteNat, pow_add, div_mul_div_comm]
    push_cast
    rfl
  have larger : (if accountTicks > marketTicks then accountTicks else marketTicks) =
      max marketTicks accountTicks := by
    rw [max_def]
    split_ifs <;> omega
  simp only [obligation, charges, OrderTerms.rates, OrderTerms.notional, notional, larger,
    List.map_cons, List.map_nil, List.sum_cons, List.sum_nil, fractionEq, Int.toNat_natCast]
  rw [ceilDiv_margin, ceilDiv_fee, ceilDiv_fee, Nat.cast_max, Nat.add_zero, Nat.add_assoc]

/-! ## Budget, resting orders, risk price -/

theorem budget_le_share {input : BudgetInput} {budget : Budget}
    (accepted : computeCapitalBudget input = .ok budget) :
    ∃ collateral, Denotes input.collateral collateral ∧ (budget.budgetUnits : ℚ) ≤
        collateral * 10 ^ 6 * (input.agentCapitalSharePercent / 100) := by
  unfold computeCapitalBudget at accepted
  dsimp only at accepted
  split at accepted
  · cases accepted
  rename_i inRange
  obtain ⟨units, collateralOk, accepted⟩ := bind_eq_ok.mp accepted
  obtain ⟨_, -, accepted⟩ := bind_eq_ok.mp accepted
  obtain ⟨_, -, accepted⟩ := bind_eq_ok.mp accepted
  obtain ⟨_, -, accepted⟩ := bind_eq_ok.mp accepted
  obtain ⟨_, -, accepted⟩ := bind_eq_ok.mp accepted
  cases accepted
  obtain ⟨collateral, denotes, exact_⟩ := decimalToScaledInteger_exact collateralOk
  obtain ⟨percent, percentEq⟩ : ∃ percent : Nat, input.agentCapitalSharePercent = percent :=
    Int.eq_ofNat_of_zero_le (by omega)
  refine ⟨collateral, denotes, ?_⟩
  have floor : ((units * percent / 100 : Nat) : ℚ) ≤ (units * percent : Nat) / (100 : Nat) :=
    Nat.cast_div_le
  simp only [percentEq, Int.toNat_natCast, Int.cast_natCast]
  push_cast at floor
  rw [exact_] at floor
  exact floor.trans (le_of_eq (by simp [capitalUnitsDecimals, mul_div_assoc]))

theorem reservedMargin_ge {remainingBase price : JsString} {fraction units : Nat}
    (accepted : reservedMarginUnits remainingBase price fraction = .ok units) :
    ∃ base priceNumber, DenotesUnsigned remainingBase base ∧ DenotesUnsigned price priceNumber ∧
      base * priceNumber * (fraction / 10 ^ 4) * 10 ^ 6 ≤ (units : ℚ) := by
  unfold reservedMarginUnits at accepted
  obtain ⟨baseScaled, baseOk, accepted⟩ := bind_eq_ok.mp accepted
  obtain ⟨priceScaled, priceOk, accepted⟩ := bind_eq_ok.mp accepted
  cases accepted
  obtain ⟨base, baseDenotes, baseNonneg, baseLe⟩ := decimalToScaled_ge baseOk
  obtain ⟨priceNumber, priceDenotes, priceNonneg, priceLe⟩ := decimalToScaled_ge priceOk
  refine ⟨base, priceNumber, baseDenotes, priceDenotes, ?_⟩
  rw [ceilDivBig_eq _ (by norm_num), ceilDivBig_eq _ (by norm_num)]
  have scaled : base * priceNumber * 10 ^ 6 ≤
      ((baseScaled * priceScaled : Nat) : ℚ) / (1000000 : Nat) := by
    have product := mul_le_mul baseLe priceLe (by positivity) (by positivity)
    rw [le_div_iff₀ (by norm_num)]
    push_cast
    linarith
  have notional := scaled.trans (Nat.le_ceil _)
  refine le_trans ?_ (Nat.le_ceil _)
  rw [le_div_iff₀ (by norm_num)]
  push_cast at notional ⊢
  have := mul_le_mul_of_nonneg_right notional (by positivity : (0 : ℚ) ≤ fraction)
  linarith

theorem sellRiskPrice_ge {input : RiskPriceInput} {price : Nat} {basis : RiskPriceBasis}
    (accepted : resolveCapitalRiskPriceInteger input = .ok (price, basis))
    (sell : input.side = .sell) :
    ∃ approved markPrice mark, parseNonNegativeInteger input.approvedPriceInteger = some approved ∧
      input.markPrice = some markPrice ∧ Denotes markPrice mark ∧
      approved ≤ price ∧ mark ≤ price / 10 ^ input.priceDecimals.toNat := by
  unfold resolveCapitalRiskPriceInteger at accepted
  cases found : parseNonNegativeInteger input.approvedPriceInteger with
  | none =>
    rw [found] at accepted
    cases accepted
  | some approved =>
    rw [found, sell] at accepted
    dsimp only at accepted
    split at accepted
    · cases accepted
    cases given : input.markPrice with
    | none =>
      rw [given] at accepted
      cases accepted
    | some markPrice =>
      rw [given] at accepted
      obtain ⟨markUnits, markOk, accepted⟩ := bind_eq_ok.mp accepted
      obtain ⟨mark, denotes, exact_⟩ := decimalToScaledInteger_exact markOk
      have larger : approved ≤ price ∧ markUnits ≤ price := by
        split at accepted
        · cases accepted
          omega
        · cases accepted
          omega
      refine ⟨approved, markPrice, mark, rfl, rfl, denotes, larger.1, ?_⟩
      rw [le_div_iff₀ (by positivity), ← exact_]
      exact_mod_cast larger.2

/-! ## All of it -/

theorem required_bounds (accepted : computeOrderRequiredCapital input = .ok required) :
    ∃ terms : OrderTerms, terms.Of input ∧
      Denotes input.exchangeTakerFeePercent (terms.marketTicks / 10 ^ 4) ∧
      terms.exactUnits ≤ required.requiredUnits ∧
      (required.requiredUnits : ℚ) < terms.exactUnits + terms.rates.sum + 3 ∧
      (input.quoteDecimals ≤ 6 → (required.requiredUnits : ℚ) < terms.exactUnits + 3) := by
  obtain ⟨terms, of, units, quote⟩ := computeOrderRequiredCapital_ok accepted
  have some : terms.rates ≠ [] := by simp [OrderTerms.rates]
  refine ⟨terms, of, ?_, ?_, ?_, ?_⟩
  · obtain ⟨percent, denotes, exact_⟩ := decimalToScaledInteger_exact of.marketTicks
    have : (terms.marketTicks / 10 ^ 4 : ℚ) = percent := by
      rw [exact_, div_eq_iff (by positivity)]
      rfl
    rwa [this]
  · rw [units]
    exact exact_le_obligation terms.rates_nonneg
  · rw [units]
    exact obligation_lt terms.notional_nonneg terms.rates_nonneg some
  · intro coarse
    have whole : terms.notional = (terms.base * terms.price *
        10 ^ (6 - (terms.sizeDecimals + terms.priceDecimals)) : Nat) := by
      obtain ⟨more, six⟩ := Nat.exists_eq_add_of_le
        (show terms.sizeDecimals + terms.priceDecimals ≤ 6 by omega)
      rw [six, Nat.add_sub_cancel_left, OrderTerms.notional, six, pow_add, pow_add]
      push_cast
      field_simp
    rw [units, OrderTerms.exactUnits, whole]
    exact obligation_lt_of_whole terms.rates_nonneg some

/-- **Capital arithmetic only ever rounds against the order.** For every request
the code accepts: the required capital is at least the exact margin and fees, and
exceeds them by less than one unit for each of its three charges plus what one
unit of notional is charged, and by less than three units when the market's quote
scale is no finer than the unit; it grows with the base, the price, the margin
fraction and each fee tick; it depends only on the values that base and price
have, not on the decimals they are expressed with; the budget is at most the
exact share of the collateral; the margin of a resting order is at least its
exact margin; and the risk price of a sell is at least its limit and the mark. -/
theorem capital_rounds_against_order :
    (∀ input required, computeOrderRequiredCapital input = .ok required →
      ∃ terms : OrderTerms, terms.Of input ∧
        Denotes input.exchangeTakerFeePercent (terms.marketTicks / 10 ^ 4) ∧
        terms.exactUnits ≤ required.requiredUnits ∧
        (required.requiredUnits : ℚ) < terms.exactUnits + terms.rates.sum + 3 ∧
        (input.quoteDecimals ≤ 6 → (required.requiredUnits : ℚ) < terms.exactUnits + 3)) ∧
    (∀ input required input' required' (terms terms' : OrderTerms),
      computeOrderRequiredCapital input = .ok required →
      computeOrderRequiredCapital input' = .ok required' →
      terms.Of input → terms'.Of input' →
      terms.sizeDecimals = terms'.sizeDecimals → terms.priceDecimals = terms'.priceDecimals →
      terms.base ≤ terms'.base → terms.price ≤ terms'.price →
      terms.marginFraction ≤ terms'.marginFraction → terms.marketTicks ≤ terms'.marketTicks →
      terms.accountTicks ≤ terms'.accountTicks → terms.vexTicks ≤ terms'.vexTicks →
      required.requiredUnits ≤ required'.requiredUnits) ∧
    (∀ input required input' required' (terms terms' : OrderTerms),
      computeOrderRequiredCapital input = .ok required →
      computeOrderRequiredCapital input' = .ok required' →
      terms.Of input → terms'.Of input' →
      (terms.base / 10 ^ terms.sizeDecimals : ℚ) = terms'.base / 10 ^ terms'.sizeDecimals →
      (terms.price / 10 ^ terms.priceDecimals : ℚ) = terms'.price / 10 ^ terms'.priceDecimals →
      terms.rates = terms'.rates → required.requiredUnits = required'.requiredUnits) ∧
    (∀ input budget, computeCapitalBudget input = .ok budget →
      ∃ collateral, Denotes input.collateral collateral ∧ (budget.budgetUnits : ℚ) ≤
          collateral * 10 ^ 6 * (input.agentCapitalSharePercent / 100)) ∧
    (∀ remainingBase price fraction units,
      reservedMarginUnits remainingBase price fraction = .ok units →
      ∃ base priceNumber, DenotesUnsigned remainingBase base ∧ DenotesUnsigned price priceNumber ∧
        base * priceNumber * (fraction / 10 ^ 4) * 10 ^ 6 ≤ (units : ℚ)) ∧
    (∀ input price basis, resolveCapitalRiskPriceInteger input = .ok (price, basis) →
      input.side = .sell →
      ∃ approved markPrice mark,
        parseNonNegativeInteger input.approvedPriceInteger = some approved ∧
        input.markPrice = some markPrice ∧ Denotes markPrice mark ∧
        approved ≤ price ∧ mark ≤ price / 10 ^ input.priceDecimals.toNat) := by
  have of_accepted : ∀ input required (terms : OrderTerms),
      computeOrderRequiredCapital input = .ok required → terms.Of input →
      required.requiredUnits = obligation terms.notional terms.rates := by
    intro input required terms accepted of
    obtain ⟨terms', of', units, -⟩ := computeOrderRequiredCapital_ok accepted
    rw [units, of.unique of']
  refine ⟨fun _ _ => required_bounds, ?_, ?_, fun _ _ => budget_le_share,
    fun _ _ _ _ => reservedMargin_ge, fun _ _ _ => sellRiskPrice_ge⟩
  · intro input required input' required' terms terms' accepted accepted' of of' size scale base
      price fraction market account vex
    rw [of_accepted _ _ terms accepted of, of_accepted _ _ terms' accepted' of']
    refine obligation_mono ?_ terms.rates_nonneg ?_
    · unfold OrderTerms.notional
      rw [size, scale]
      gcongr
    · unfold OrderTerms.rates
      refine .cons ?_ (.cons ?_ (.cons ?_ .nil))
      · gcongr
      · exact div_le_div_of_nonneg_right (Nat.cast_le.mpr (max_le_max market account))
          (by positivity)
      · gcongr
  · intro input required input' required' terms terms' accepted accepted' of of' base price rates
    rw [of_accepted _ _ terms accepted of, of_accepted _ _ terms' accepted' of', rates,
      OrderTerms.notional, OrderTerms.notional, base, price]

/-! ## A notional just above a whole unit

The notional is 1.000000000001 units. It is rounded up to 2, each of the three
charges at about one half is then a little more than 1, and is rounded up to 2. -/

/-- An order on a market whose quote scale is far finer than the unit. -/
def finelyScaledOrder : RequiredCapitalInput :=
  ⟨"1000000000001", "1", .approvedLimitPrice, 9, 9, 18, 5001, "50.0001", 0, some 500001⟩

def finelyScaledTerms : OrderTerms := ⟨1000000000001, 1, 9, 9, 5001, 500001, 0, 500001⟩

def finelyScaledRequired : RequiredCapital :=
  ⟨6, 2, 2, 2, 2, 5001, 1, .approvedLimitPrice⟩

theorem finelyScaledOrder_accepted :
    computeOrderRequiredCapital finelyScaledOrder = .ok finelyScaledRequired := by
  decide +kernel

theorem finelyScaledTerms_of : finelyScaledTerms.Of finelyScaledOrder :=
  ⟨by decide +kernel, by decide, rfl, rfl, rfl, by decide, rfl, rfl⟩

/-- One unit for each of the four rounded amounts is not enough. -/
theorem excess_can_pass_four :
    ¬ ∀ (input : RequiredCapitalInput) (required : RequiredCapital) (terms : OrderTerms),
      computeOrderRequiredCapital input = .ok required → terms.Of input →
      (required.requiredUnits : ℚ) ≤ terms.exactUnits + 4 := by
  intro bounded
  have bound := bounded _ _ _ finelyScaledOrder_accepted finelyScaledTerms_of
  norm_num [finelyScaledRequired, OrderTerms.exactUnits, OrderTerms.notional, OrderTerms.rates,
    finelyScaledTerms] at bound

/-- The bounds, for this order. -/
theorem finelyScaledOrder_bounds : ∃ terms : OrderTerms, terms.Of finelyScaledOrder ∧
      terms.exactUnits ≤ (6 : Nat) ∧ ((6 : Nat) : ℚ) < terms.exactUnits + terms.rates.sum + 3 := by
  obtain ⟨terms, of, -, below, above, -⟩ := capital_rounds_against_order.1 finelyScaledOrder
    finelyScaledRequired finelyScaledOrder_accepted
  exact ⟨terms, of, below, above⟩

end Vex.Lighter.CapitalShare
