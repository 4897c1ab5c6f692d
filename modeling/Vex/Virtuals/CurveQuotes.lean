import Mathlib.Data.Rat.Floor
import Vex.Library.Checks
import Vex.Library.FlooredShares

/-!
# The figures of a trade on a bonding curve

What a buy commits to the curve and to the fee, what its two taxes leave, and the two floors of a
sale: the gross that the contract enforces and the net that the wallet is told to expect. The
router takes both taxes of the gross that is realised, after the time of the quote, when the
anti-sniper tax may have decayed.

A sale is bounded as announced exactly where the remainders of the two percentages are steady at
the enforced gross (`sale_bounded_iff`).
-/

namespace Vex.Virtuals

open Vex.Library

/-! ## The arithmetic -/

/-- The errors that are thrown: `RangeError`, and `VexError` of `INVALID_AMOUNT`. -/
inductive CurveError where
  | range (message : String)
  | invalidAmount (message : String)
  deriving DecidableEq

def maxCombinedTaxPct : Int := 99

def assertWholePercent (value : Int) (label : String) : Except CurveError Unit :=
  refuseIf (value < 0 ∨ 100 < value)
    (.range s!"A {label} must be a whole percent in [0, 100] (got {value}).")

def effectiveAntiSniperPct (rawAntiPct normalTaxPct : Int) : Except CurveError Int := do
  assertWholePercent rawAntiPct "anti-sniper tax"
  assertWholePercent normalTaxPct "protocol tax"
  return min rawAntiPct (maxCombinedTaxPct - normalTaxPct)

def percentOf (amount pct : Int) : Except CurveError Int := do
  assertWholePercent pct "tax"
  return (amount * pct).tdiv 100

def applySlippageFloor (amount slippageBps : Int) : Except CurveError Int := do
  refuseIf (slippageBps < 0 ∨ 10000 < slippageBps) (.range (s!"slippageBps must be a whole number "
    ++ s!"of basis points in [0, 10000] (got {slippageBps})."))
  return (amount * (10000 - slippageBps)).tdiv 10000

structure CurveTaxSplit where
  normalFeeRaw : Int
  antiSniperFeeRaw : Int
  netRaw : Int
  normalTaxPct : Int
  effectiveAntiPct : Int
  deriving DecidableEq

def splitCurveTax (base normalTaxPct rawAntiPct : Int) : Except CurveError CurveTaxSplit := do
  refuseIf (base < 0) (.range "A curve tax base cannot be negative.")
  refuseIf (maxCombinedTaxPct < normalTaxPct) (.range (s!"The protocol tax read from the factory is "
    ++ s!"{normalTaxPct} percent, above the {maxCombinedTaxPct} percent the router can clamp against."))
  let effectiveAntiPct ← effectiveAntiSniperPct rawAntiPct normalTaxPct
  let normalFeeRaw ← percentOf base normalTaxPct
  let antiSniperFeeRaw ← percentOf base effectiveAntiPct
  return {
    normalFeeRaw, antiSniperFeeRaw
    netRaw := base - normalFeeRaw - antiSniperFeeRaw
    normalTaxPct, effectiveAntiPct }

/-! ## A buy -/

structure VexFeeBpsSplit where
  totalRaw : Int
  feeRaw : Int
  netRaw : Int
  charged : Bool
  deriving DecidableEq

def splitAmountForFeeBps (amountRaw bps : Int) (amountLabel : String) :
    Except CurveError VexFeeBpsSplit := do
  refuseIf (bps < 0 ∨ 10000 < bps) (.invalidAmount
    "A Vex fee rate must be a whole number of basis points between 0 and 10000.")
  refuseIf (amountRaw ≤ 0)
    (.invalidAmount s!"{amountLabel} must be a positive value in smallest units.")
  let feeRaw := (amountRaw * bps).tdiv 10000
  return { totalRaw := amountRaw, feeRaw, netRaw := amountRaw - feeRaw, charged := 0 < feeRaw }

def virtualsCurveFeeBps : Int := 25

structure VirtualsCurveBuyFee where
  committedRaw : Int
  curveAmountRaw : Int
  feeRaw : Option Int
  deriving DecidableEq

def resolveVirtualsCurveBuyFee (committedRaw : Int) : Except CurveError VirtualsCurveBuyFee := do
  let split ← splitAmountForFeeBps committedRaw virtualsCurveFeeBps "Curve buy amount"
  if !split.charged then
    return { committedRaw := split.totalRaw, curveAmountRaw := split.totalRaw, feeRaw := none }
  else
    return {
      committedRaw := split.totalRaw
      curveAmountRaw := split.netRaw
      feeRaw := some split.feeRaw }

structure BuyLegs where
  curveAmountRaw : Int
  tax : CurveTaxSplit
  taxedInRaw : Int
  deriving DecidableEq

def computeBuyLegs (curveAmountRaw buyTaxPct rawAntiSniperBuyPct : Int) :
    Except CurveError BuyLegs := do
  let tax ← splitCurveTax curveAmountRaw buyTaxPct rawAntiSniperBuyPct
  return { curveAmountRaw, tax, taxedInRaw := tax.netRaw }

/-! ## A sale -/

structure SellFloors where
  quotedGrossRaw : Int
  contractGrossMinRaw : Int
  walletNetMinRaw : Int
  walletNetQuotedRaw : Int
  tax : CurveTaxSplit
  deriving DecidableEq

def computeSellFloors (quotedGrossRaw sellTaxPct rawAntiSniperSellPct slippageBps : Int) :
    Except CurveError SellFloors := do
  let tax ← splitCurveTax quotedGrossRaw sellTaxPct rawAntiSniperSellPct
  let contractGrossMinRaw ← applySlippageFloor quotedGrossRaw slippageBps
  let floorTax ← splitCurveTax contractGrossMinRaw sellTaxPct rawAntiSniperSellPct
  return {
    quotedGrossRaw, contractGrossMinRaw
    walletNetMinRaw := floorTax.netRaw
    walletNetQuotedRaw := tax.netRaw
    tax }

/-- What the chain says of the anti-sniper tax of one side; seconds and a percent are words of the
chain, read as safe integers. -/
structure AntiSniperSide where
  appliesOnThisSide : Bool
  durationSeconds : ℕ
  taxStartTimeSeconds : ℕ
  startTaxPct : ℕ
  deriving DecidableEq

def rawAntiSniperPctAt (side : AntiSniperSide) (nowSeconds : ℕ) : ℕ :=
  if !side.appliesOnThisSide then 0
  else if side.durationSeconds ≤ 0 then 0
  else if nowSeconds < side.taxStartTimeSeconds then side.startTaxPct
  else
    let elapsed := nowSeconds - side.taxStartTimeSeconds
    if side.durationSeconds ≤ elapsed then 0
    else side.startTaxPct * (side.durationSeconds - elapsed) / side.durationSeconds

/-! ## The router -/

/-- The taxes that `FRouterV3` takes of an amount, after its clamp, and what they leave. -/
def routerNet (normalTax antiSniperTax amount : Int) : Int :=
  let antiSniperTax := if 99 < normalTax + antiSniperTax then 99 - normalTax else antiSniperTax
  amount - normalTax * amount / 100 - antiSniperTax * amount / 100

/-- The legs of a buy add up to what was committed, and the curve is quoted for what the router
leaves of its part. -/
structure BuyExact (committedRaw buyTaxPct rawAntiPct : Int) (fee : VirtualsCurveBuyFee)
    (legs : BuyLegs) : Prop where
  committed : legs.curveAmountRaw + fee.feeRaw.getD 0 = committedRaw
  taxed : legs.taxedInRaw + legs.tax.normalFeeRaw + legs.tax.antiSniperFeeRaw = legs.curveAmountRaw
  router : legs.taxedInRaw = routerNet buyTaxPct rawAntiPct legs.curveAmountRaw

/-- What a sale is quoted from: the taxes are read before it is signed. -/
structure Sale where
  quotedGrossRaw : Int
  sellTaxPct : Int
  slippageBps : Int
  side : AntiSniperSide
  preSignSeconds : ℕ
  deriving DecidableEq

def Sale.floors (sale : Sale) : Except CurveError SellFloors :=
  computeSellFloors sale.quotedGrossRaw sale.sellTaxPct
    (rawAntiSniperPctAt sale.side sale.preSignSeconds) sale.slippageBps

/-- The floor is the greatest whole amount within the slippage, and whatever gross is realised
from it on, at the tax of the pre-sign time or a later one, leaves the wallet its minimum. -/
structure Sale.Bounded (sale : Sale) (floors : SellFloors) : Prop where
  greatest : IsGreatest
    {amount : Int | (amount : ℚ) ≤ sale.quotedGrossRaw * (10000 - sale.slippageBps) / 10000}
    floors.contractGrossMinRaw
  net : ∀ grossRaw later, floors.contractGrossMinRaw ≤ grossRaw → sale.preSignSeconds ≤ later →
    floors.walletNetMinRaw ≤ routerNet sale.sellTaxPct (rawAntiSniperPctAt sale.side later) grossRaw
  decays : ∀ earlier later, earlier ≤ later →
    rawAntiSniperPctAt sale.side later ≤ rawAntiSniperPctAt sale.side earlier

/-- At the enforced gross the remainders of the sell tax and of the clamped anti-sniper tax are
steady. -/
def Sale.Steady (sale : Sale) : Prop :=
  Shares.Steady 100 sale.sellTaxPct.toNat
    (min (rawAntiSniperPctAt sale.side sale.preSignSeconds) (99 - sale.sellTaxPct).toNat)
    (sale.quotedGrossRaw * (10000 - sale.slippageBps) / 10000).toNat

/-! ## What the figures are -/

theorem assertWholePercent_ok {value : Int} {label : String} {u : Unit} :
    assertWholePercent value label = .ok u ↔ 0 ≤ value ∧ value ≤ 100 := by
  unfold assertWholePercent
  rw [refuseIf_eq_ok]
  omega

theorem percentOf_ok {amount pct fee : Int} (taken : percentOf amount pct = .ok fee) :
    0 ≤ pct ∧ pct ≤ 100 ∧ fee = (amount * pct).tdiv 100 := by
  obtain ⟨u, whole, same⟩ := bind_eq_ok.mp taken
  obtain ⟨low, high⟩ := assertWholePercent_ok.mp whole
  exact ⟨low, high, (Except.ok.inj same).symm⟩

structure Splits (base normalTaxPct rawAntiPct : Int) (n p q : ℕ) (split : CurveTaxSplit) : Prop where
  base : base = n
  normal : normalTaxPct = p
  anti : min rawAntiPct (99 - normalTaxPct) = q
  clamped : p + q ≤ 99
  normalFee : split.normalFeeRaw = (n * p / 100 : ℕ)
  antiFee : split.antiSniperFeeRaw = (n * q / 100 : ℕ)
  net : split.netRaw = Shares.kept 100 p q n

theorem splitCurveTax_ok {base normalTaxPct rawAntiPct : Int} {split : CurveTaxSplit}
    (quoted : splitCurveTax base normalTaxPct rawAntiPct = .ok split) :
    ∃ n p q, Splits base normalTaxPct rawAntiPct n p q split := by
  unfold splitCurveTax effectiveAntiSniperPct maxCombinedTaxPct at quoted
  simp only [bind_eq_ok, refuseIf_eq_ok, assertWholePercent_ok] at quoted
  obtain ⟨-, sign, -, clamps, effective, ⟨-, ⟨low, high⟩, -, ⟨low', high'⟩, pure_⟩, fee, first,
    anti, second, same⟩ := quoted
  obtain rfl := Except.ok.inj pure_
  obtain rfl := Except.ok.inj same
  obtain ⟨-, -, rfl⟩ := percentOf_ok first
  obtain ⟨positive, -, rfl⟩ := percentOf_ok second
  obtain ⟨n, rfl⟩ := Int.eq_ofNat_of_zero_le (not_lt.mp sign)
  obtain ⟨p, rfl⟩ := Int.eq_ofNat_of_zero_le low'
  obtain ⟨q, clamped⟩ := Int.eq_ofNat_of_zero_le positive
  have fits : p + q ≤ 99 := by omega
  have whole := Shares.kept_add_taken (by decide : 0 < 100) (fits.trans (by decide)) n
  refine ⟨n, p, q, ⟨rfl, rfl, clamped, fits, ?_, ?_, ?_⟩⟩
  · rfl
  · rw [clamped]
    rfl
  · rw [clamped]
    change (n : Int) - ((n * p / 100 : ℕ) : Int) - ((n * q / 100 : ℕ) : Int) = _
    omega

theorem routerNet_eq {normalTaxPct rawAntiPct : Int} {p q : ℕ} (normal : normalTaxPct = p)
    (anti : min rawAntiPct (99 - normalTaxPct) = q) (m : ℕ) :
    routerNet normalTaxPct rawAntiPct m = Shares.kept 100 p q m := by
  have whole := Shares.kept_add_taken (by decide : 0 < 100) (by omega : p + q ≤ 100) m
  have clamped : (if 99 < normalTaxPct + rawAntiPct then 99 - normalTaxPct else rawAntiPct) = q := by
    rw [← anti]
    split <;> omega
  unfold routerNet
  dsimp only
  rw [clamped, normal, mul_comm, mul_comm (q : Int)]
  change (m : Int) - ((m * p / 100 : ℕ) : Int) - ((m * q / 100 : ℕ) : Int) = _
  omega

theorem rawAntiSniperPctAt_antitone (side : AntiSniperSide) : Antitone (rawAntiSniperPctAt side) := by
  intro earlier later before
  unfold rawAntiSniperPctAt
  dsimp only
  have within (left_ : ℕ) (shorter : left_ ≤ side.durationSeconds) :
      side.startTaxPct * left_ / side.durationSeconds ≤ side.startTaxPct :=
    Nat.div_le_of_le_mul (by rw [Nat.mul_comm]; exact Nat.mul_le_mul_right _ shorter)
  split_ifs with h₁ h₂ h₃ h₄ h₅ h₆ h₇
  all_goals first | omega | exact Nat.zero_le _ | exact within _ (Nat.sub_le _ _) | skip
  exact Nat.div_le_div_right (Nat.mul_le_mul_left _ (by omega))

theorem buy_exact {committedRaw buyTaxPct rawAntiPct : Int} {fee : VirtualsCurveBuyFee}
    {legs : BuyLegs} (paid : resolveVirtualsCurveBuyFee committedRaw = .ok fee)
    (bought : computeBuyLegs fee.curveAmountRaw buyTaxPct rawAntiPct = .ok legs) :
    BuyExact committedRaw buyTaxPct rawAntiPct fee legs := by
  obtain ⟨tax, split, same⟩ := bind_eq_ok.mp bought
  obtain rfl := Except.ok.inj same
  obtain ⟨n, p, q, splits⟩ := splitCurveTax_ok split
  have whole := Shares.kept_add_taken (by decide : 0 < 100) (splits.clamped.trans (by decide)) n
  have committed : fee.curveAmountRaw + fee.feeRaw.getD 0 = committedRaw := by
    unfold resolveVirtualsCurveBuyFee splitAmountForFeeBps at paid
    simp only [bind_eq_ok] at paid
    obtain ⟨parts, ⟨-, -, -, -, made⟩, paid⟩ := paid
    obtain rfl := Except.ok.inj made
    dsimp only at paid
    split at paid
    · obtain rfl := Except.ok.inj paid
      simp
    · obtain rfl := Except.ok.inj paid
      simp
  refine ⟨committed, ?_, ?_⟩
  · dsimp only
    rw [splits.net, splits.normalFee, splits.antiFee, splits.base]
    omega
  · dsimp only
    rw [splits.net, splits.base, routerNet_eq splits.normal splits.anti]

theorem applySlippageFloor_greatest {amount slippageBps floor : Int} (positive : 0 ≤ amount)
    (floored : applySlippageFloor amount slippageBps = .ok floor) :
    floor = amount * (10000 - slippageBps) / 10000 ∧ IsGreatest
      {n : Int | (n : ℚ) ≤ amount * (10000 - slippageBps) / 10000} floor := by
  obtain ⟨_, bounded, same⟩ := bind_eq_ok.mp floored
  rw [refuseIf_eq_ok] at bounded
  have scaled : 0 ≤ amount * (10000 - slippageBps) := mul_nonneg positive (by omega)
  have exact_ : floor = amount * (10000 - slippageBps) / 10000 := by
    rw [← Except.ok.inj same, Int.tdiv_eq_ediv_of_nonneg scaled]
  have below (n : Int) : (n : ℚ) ≤ amount * (10000 - slippageBps) / 10000 ↔ n ≤ floor := by
    rw [exact_, Int.le_ediv_iff_mul_le (by decide), le_div_iff₀ (by norm_num)]
    exact_mod_cast Iff.rfl
  exact ⟨exact_, (below floor).mpr le_rfl, fun n fits => (below n).mp fits⟩

theorem sale_bounded_iff {sale : Sale} {floors : SellFloors} (quoted : sale.floors = .ok floors) :
    sale.Bounded floors ↔ sale.Steady := by
  unfold Sale.floors computeSellFloors at quoted
  simp only [bind_eq_ok] at quoted
  obtain ⟨tax, first, gross, floored, floorTax, second, same⟩ := quoted
  obtain rfl := Except.ok.inj same
  obtain ⟨quotedGross, _, _, atQuote⟩ := splitCurveTax_ok first
  have positive : 0 ≤ sale.quotedGrossRaw := atQuote.base ▸ Int.natCast_nonneg quotedGross
  obtain ⟨exact_, greatest⟩ := applySlippageFloor_greatest positive floored
  obtain ⟨n, p, q, splits⟩ := splitCurveTax_ok second
  have steady : sale.Steady ↔ Shares.Steady 100 p q n := by
    have anti := splits.anti
    have clamped := splits.clamped
    unfold Sale.Steady
    rw [← exact_, splits.base, splits.normal, show min (rawAntiSniperPctAt sale.side
      sale.preSignSeconds) (99 - (p : Int)).toNat = q by rw [splits.normal] at anti; omega]
    rfl
  rw [steady, ← Shares.kept_le_iff_steady (by decide) (splits.clamped.trans (by decide))]
  constructor
  · intro bounded m above
    have realised : gross ≤ m := by
      rw [splits.base]
      exact_mod_cast above
    have net : floorTax.netRaw ≤ _ := bounded.net m sale.preSignSeconds realised le_rfl
    rw [routerNet_eq splits.normal splits.anti, splits.net] at net
    exact_mod_cast net
  · intro grows
    refine ⟨greatest, fun grossRaw later realised after => ?_, rawAntiSniperPctAt_antitone sale.side⟩
    obtain ⟨m, rfl⟩ := Int.eq_ofNat_of_zero_le
      ((splits.base ▸ Int.natCast_nonneg n : (0 : Int) ≤ gross).trans realised)
    have above : n ≤ m := by
      have realised : gross ≤ m := realised
      rw [splits.base] at realised
      exact_mod_cast realised
    -- A later tax is no larger, so its clamped share is no larger either.
    have decayed := rawAntiSniperPctAt_antitone sale.side after
    have share : Shares.kept 100 p q m
        ≤ routerNet sale.sellTaxPct (rawAntiSniperPctAt sale.side later) m := by
      have anti := splits.anti
      rw [routerNet_eq splits.normal (q := min (rawAntiSniperPctAt sale.side later) (99 - p)) (by
        have normal := splits.normal
        omega)]
      exact_mod_cast Shares.kept_share (by
        have normal := splits.normal
        omega)
    have least : floorTax.netRaw ≤ Shares.kept 100 p q m := by
      rw [splits.net]
      exact_mod_cast grows m above
    exact least.trans share

/-- The figures of a buy are exact, and those of a sale bound what the chain does exactly where
the remainders of its taxes are steady. -/
theorem figures_bound_iff {committedRaw buyTaxPct rawAntiPct : Int} {fee : VirtualsCurveBuyFee}
    {legs : BuyLegs} (paid : resolveVirtualsCurveBuyFee committedRaw = .ok fee)
    (bought : computeBuyLegs fee.curveAmountRaw buyTaxPct rawAntiPct = .ok legs) {sale : Sale}
    {floors : SellFloors} (quoted : sale.floors = .ok floors) :
    BuyExact committedRaw buyTaxPct rawAntiPct fee legs ∧ sale.Bounded floors ↔ sale.Steady :=
  (and_iff_right (buy_exact paid bought)).trans (sale_bounded_iff quoted)

/-- A curve that is taxed at 99 percent when trading starts, for a minute. -/
def launchSide : AntiSniperSide := ⟨true, 60, 1000, 99⟩

theorem figures_bound_iff_at_launch :
    BuyExact 10000 1 0 ⟨10000, 9975, some 25⟩ ⟨9975, ⟨99, 0, 9876, 1, 0⟩, 9876⟩
        ∧ Sale.Bounded ⟨1000000, 1, 300, launchSide, 1030⟩
          ⟨1000000, 970000, 485000, 500000, ⟨10000, 490000, 500000, 1, 49⟩⟩
      ↔ Sale.Steady ⟨1000000, 1, 300, launchSide, 1030⟩ :=
  figures_bound_iff rfl rfl rfl

/-- A sale at the launch of the curve: one unit more is realised than the floor, and the wallet
receives one less than its minimum. -/
theorem wallet_net_falls_short :
    ∃ floors, Sale.floors ⟨1000000000000000099, 1, 0, launchSide, 1000⟩ = .ok floors
      ∧ ¬ Sale.Bounded ⟨1000000000000000099, 1, 0, launchSide, 1000⟩ floors := by
  refine ⟨_, rfl, fun bounded => ?_⟩
  have net := bounded.net 1000000000000000100 1000 (by decide) (by decide)
  revert net
  decide

end Vex.Virtuals
