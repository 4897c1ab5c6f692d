import Vex.Lighter.OrderPreview
import Vex.Lighter.CapitalShareRounding

/-!
# What an accepted preview promises

A preview is made of decimal strings. Each check of `buildLighterOrderPreview` is
read here as a statement about the numbers these denote: the integers of the wire
are exactly what was asked for, a reduce-only order only shrinks the position it
was checked against, a post-only limit order rests against the best price of the
other side, a trigger lies on its side of the reference, and the unlocked quote of
a spot buy pays for the notional and the highest fee.

The best price is the first of the sorted prices. The comparison that sorts them
takes a price that is no decimal for equal to every other, so it is the best only
where each price is a decimal string (`bestPrice_spec`).
-/

namespace Vex.Lighter.OrderPreview

open Vex.Library Vex.Library.JsString
open Vex.Lighter.CapitalShare (Side integerText padEnd decimalValue_padEnd)

/-! ## The numbers of decimal strings -/

def Denotes (text : JsString) (number : ℚ) : Prop :=
  ∃ parts, decimalParts text = some parts ∧ parts.value = number

variable {text : JsString}

theorem Denotes.nonneg {number : ℚ} (denoted : Denotes text number) : 0 ≤ number := by
  obtain ⟨parts, -, rfl⟩ := denoted
  exact parts.value_nonneg

theorem denotes_trim {number : ℚ} : Denotes text.trim number ↔ Denotes text number := by
  unfold Denotes decimalParts scaledOf
  rw [trim_trim]

theorem denotes_of_matchFraction {whole fraction : JsString}
    (matched : matchFraction text.trim = some (whole, fraction)) :
    Denotes text (decimalRat whole fraction) := by
  refine ⟨⟨decimalValue (whole ++ fraction), fraction.length⟩, ?_, ?_⟩
  · rw [decimalParts, scaledOf, matched, Option.map_some]
  · rw [Scaled.value, ← decimalRat_mul]
    field_simp

theorem denotes_formatInteger (integer decimals : Nat) :
    Denotes (formatInteger integer decimals) (integer / 10 ^ decimals) := by
  have written : formatInteger integer decimals = formatScaled integer decimals := by
    simp [formatInteger]
  rw [written]
  exact scaledOf_formatScaled integer decimals

theorem decimalToLighterInteger_spec {value field : JsString} {decimals : Int} {allowZero : Bool}
    {integer : Nat} (parsed : decimalToLighterInteger value decimals field allowZero = .ok integer) :
    (0 ≤ decimals ∧ decimals ≤ 18) ∧ Denotes value (integer / 10 ^ decimals.toNat)
      ∧ (allowZero = false → 0 < integer) := by
  rw [decimalToLighterInteger, bind_eq_ok] at parsed
  obtain ⟨⟨⟩, scale, read⟩ := parsed
  rw [refuseIf_eq_ok] at scale
  have bounded : 0 ≤ decimals ∧ decimals ≤ 18 := by omega
  split at read
  · cases read
  · rename_i whole fraction matched
    dsimp only at read
    split_ifs at read with long zero
    obtain rfl := Except.ok.inj read
    refine ⟨bounded, ?_, fun positive => ?_⟩
    · have fits : (stripZeros fraction).length ≤ decimals.toNat := by omega
      rw [decimalValue_padEnd whole fits, decimalRat_stripZeros,
        mul_div_cancel_right₀ _ (by positivity)]
      exact denotes_of_matchFraction matched
    · exact Nat.pos_of_ne_zero fun none_ => zero ⟨none_, positive⟩

theorem subtractDecimalStrings_spec {left right field difference : JsString}
    (subtracted : subtractDecimalStrings left right field = .ok difference) :
    ∃ total locked, Denotes left total ∧ Denotes right locked
      ∧ Denotes difference (total - locked) := by
  unfold subtractDecimalStrings at subtracted
  split at subtracted
  · rename_i a b leftParts rightParts
    dsimp only at subtracted
    split_ifs at subtracted with above
    obtain rfl := Except.ok.inj subtracted
    refine ⟨a.value, b.value, ⟨a, leftParts, rfl⟩, ⟨b, rightParts, rfl⟩, ?_⟩
    have number := denotes_formatInteger
      (a.at_ (max a.scale b.scale) - b.at_ (max a.scale b.scale)) (max a.scale b.scale)
    have scaled : ((a.at_ (max a.scale b.scale) - b.at_ (max a.scale b.scale) : Nat) : ℚ)
        = (a.value - b.value) * 10 ^ max a.scale b.scale := by
      rw [Nat.cast_sub (Nat.le_of_not_lt above), a.at_cast (le_max_left _ _),
        b.at_cast (le_max_right _ _), ← sub_mul]
    rw [scaled, mul_div_cancel_right₀ _ (by positivity)] at number
    exact number
  · cases subtracted

section Compare

variable {left right : JsString} {x y : ℚ}

theorem compareDecimalStrings_neg (one : Denotes left x) (two : Denotes right y) :
    compareDecimalStrings left right < 0 ↔ x < y := by
  obtain ⟨a, leftParts, rfl⟩ := one
  obtain ⟨b, rightParts, rfl⟩ := two
  rw [compareDecimalStrings, leftParts, rightParts]
  exact Scaled.compare_neg

theorem compareDecimalStrings_pos (one : Denotes left x) (two : Denotes right y) :
    0 < compareDecimalStrings left right ↔ y < x := by
  obtain ⟨a, leftParts, rfl⟩ := one
  obtain ⟨b, rightParts, rfl⟩ := two
  rw [compareDecimalStrings, leftParts, rightParts]
  exact Scaled.compare_pos

theorem denotes_of_compare (different : compareDecimalStrings left right ≠ 0) :
    (∃ x, Denotes left x) ∧ ∃ y, Denotes right y := by
  unfold compareDecimalStrings at different
  split at different
  · rename_i a b leftParts rightParts
    exact ⟨⟨_, a, leftParts, rfl⟩, ⟨_, b, rightParts, rfl⟩⟩
  · exact absurd rfl different

end Compare

theorem divideCeil_eq_ceil (numerator : Nat) {denominator : Nat} (positive : 0 < denominator) :
    divideCeil numerator denominator = ⌈(numerator / denominator : ℚ)⌉₊ := by
  rw [← ceilDiv_eq_ceil numerator positive, Nat.ceilDiv_eq_add_pred_div, divideCeil]
  split_ifs with zero
  · subst zero
    rw [Nat.zero_add, Nat.div_eq_of_lt (by omega)]
  · rw [← Nat.add_div_right _ positive]
    congr 1
    omega

/-! ## The best price -/

/-- A price of one side is at least as good as another for whom it meets. -/
def AsGood (side : BookSide) (price other : ℚ) : Prop :=
  match side with
  | .ask => price ≤ other
  | .bid => other ≤ price

/-- Each price of the orders is blank or a decimal string. -/
def WellFormed (orders : List JsString) : Prop :=
  ∀ order ∈ orders, order.trim ≠ [] → ∃ number, Denotes order number

variable {orders : List JsString}

theorem mem_levels {level : JsString} :
    level ∈ orders.filterMap (fun price => stringValue (some price)) ↔
      ∃ order ∈ orders, order.trim ≠ [] ∧ order.trim = level := by
  rw [List.mem_filterMap]
  refine exists_congr fun order => and_congr_right fun _ => ?_
  unfold stringValue
  dsimp only
  split_ifs with blank
  · simp [blank]
  · simp [blank]

theorem Denotes.not_blank {number : ℚ} (denoted : Denotes text number) : text.trim ≠ [] := by
  intro blank
  obtain ⟨parts, read, -⟩ := denoted
  rw [decimalParts, scaledOf, blank] at read
  cases read

def sortKey (side : BookSide) (text : JsString) : ℚ :=
  ((decimalParts text).elim 0 Scaled.value) * (match side with
    | .ask => 1
    | .bid => -1)

theorem sortKey_of_denotes {number : ℚ} (denoted : Denotes text number) (side : BookSide) :
    sortKey side text = number * (match side with
      | .ask => 1
      | .bid => -1) := by
  obtain ⟨parts, read, rfl⟩ := denoted
  unfold sortKey
  rw [read, Option.elim_some]

theorem asGood_iff {other : JsString} {number otherNumber : ℚ} (denoted : Denotes text number)
    (otherDenoted : Denotes other otherNumber) (side : BookSide) :
    AsGood side number otherNumber ↔ sortKey side text ≤ sortKey side other := by
  rw [sortKey_of_denotes denoted, sortKey_of_denotes otherDenoted]
  cases side with
  | ask => simp [AsGood]
  | bid => simp [AsGood]

theorem comparePrices_le_iff {left right : JsString} {x y : ℚ} (one : Denotes left x)
    (two : Denotes right y) (side : BookSide) :
    comparePrices side left right ≤ 0 ↔ sortKey side left ≤ sortKey side right := by
  have below := compareDecimalStrings_neg one two
  have above := compareDecimalStrings_pos one two
  rw [← asGood_iff one two side]
  cases side with
  | ask =>
    show compareDecimalStrings left right * 1 ≤ 0 ↔ x ≤ y
    rw [mul_one, ← not_lt, above, not_lt]
  | bid =>
    show compareDecimalStrings left right * -1 ≤ 0 ↔ y ≤ x
    rw [mul_neg_one, neg_nonpos, ← not_lt, below, not_lt]

theorem bestPrice_spec {side : BookSide} {best : JsString} (wellFormed : WellFormed orders)
    (found : bestPrice orders side = some best) :
    ∃ number, Denotes best number ∧ (∃ order ∈ orders, Denotes order number)
      ∧ ∀ order ∈ orders, ∀ other, Denotes order other → AsGood side number other := by
  have decimals : ∀ level ∈ orders.filterMap (fun price => stringValue (some price)),
      ∃ number, Denotes level number := by
    intro level member
    obtain ⟨order, inside, notBlank, rfl⟩ := mem_levels.1 member
    obtain ⟨number, denoted⟩ := wellFormed order inside notBlank
    exact ⟨number, denotes_trim.2 denoted⟩
  have ordered : ∀ left ∈ orders.filterMap (fun price => stringValue (some price)),
      ∀ right ∈ orders.filterMap (fun price => stringValue (some price)),
        comparePrices side left right ≤ 0 ↔ sortKey side left ≤ sortKey side right := by
    intro left leftIn right rightIn
    obtain ⟨x, one⟩ := decimals left leftIn
    obtain ⟨y, two⟩ := decimals right rightIn
    exact comparePrices_le_iff one two side
  obtain ⟨member, least⟩ := sortBy_first_le ordered found
  obtain ⟨number, denoted⟩ := decimals best member
  obtain ⟨order, inside, -, rfl⟩ := mem_levels.1 member
  refine ⟨number, denoted, ⟨order, inside, denotes_trim.1 denoted⟩, ?_⟩
  intro other otherIn otherNumber otherDenoted
  have level := mem_levels.2 ⟨other, otherIn, otherDenoted.not_blank, rfl⟩
  exact (asGood_iff denoted (denotes_trim.2 otherDenoted) side).2 (least _ level)

/-! ## The position -/

def held (sign : Int) (size : ℚ) : ℚ := if 0 < sign then size else -size

/-- What is held once an amount of an order is filled. -/
def filled (side : Side) (held amount : ℚ) : ℚ :=
  match side with
  | .buy => held + amount
  | .sell => held - amount

/-- The order is on the other side of a position that is at least as large. -/
structure Reduces (input : Input) (context : Context) (base : ℚ) where
  position : Position
  sign : Int
  text : JsString
  size : ℚ
  found : positionOf context.accounts input.accountIndex input.marketId = some position
  signed : position.sign = some sign
  sized : (stringValue position.position).or (stringValue position.size) = some text
  denotes : Denotes text size
  opposite : (0 < sign ∧ input.side = .sell) ∨ (sign < 0 ∧ input.side = .buy)
  within : base ≤ size

variable {base : ℚ}

theorem Reduces.shrinks {input : Input} {context : Context} (reduces : Reduces input context base)
    {amount : ℚ} (some_ : 0 ≤ amount) (atMost : amount ≤ base) :
    |filled input.side (held reduces.sign reduces.size) amount| ≤ |held reduces.sign reduces.size|
      ∧ 0 ≤ filled input.side (held reduces.sign reduces.size) amount
          * held reduces.sign reduces.size := by
  have within := reduces.within
  have nonneg := reduces.denotes.nonneg
  rcases reduces.opposite with ⟨long, sell⟩ | ⟨short, buy⟩
  · rw [sell, held, if_pos long, filled, abs_of_nonneg nonneg, abs_of_nonneg (by linarith)]
    exact ⟨by linarith, mul_nonneg (by linarith) nonneg⟩
  · rw [buy, held, if_neg (by omega), filled, abs_neg, abs_of_nonneg nonneg,
      abs_of_nonpos (by linarith)]
    exact ⟨by linarith, mul_nonneg_of_nonpos_of_nonpos (by linarith) (by linarith)⟩

variable {u : Unit}

theorem reduces_of_checks {input : Input} {context : Context}
    (amount : Denotes input.baseAmount base) (verified : isReduceOnlyVerifiable input.side
      (readPositionContext context.accounts input.accountIndex input.marketId) = true)
    (sized : assertProtectiveSizeWithinPosition input.baseAmount
      (readPositionContext context.accounts input.accountIndex input.marketId) = .ok u) :
    Nonempty (Reduces input context base) := by
  unfold readPositionContext at verified sized
  cases found : positionOf context.accounts input.accountIndex input.marketId with
  | none =>
    rw [found] at verified
    cases verified
  | some position =>
    rw [found] at verified sized
    dsimp only at verified sized
    cases text : (stringValue position.position).or (stringValue position.size) with
    | none =>
      rw [text] at sized
      cases sized
    | some text_ =>
      rw [text] at verified sized
      simp only [assertProtectiveSizeWithinPosition, bind_eq_ok, refuseIf_eq_ok] at sized
      obtain ⟨_, decimal, notAbove⟩ := sized
      obtain ⟨parts, read⟩ := Option.ne_none_iff_exists'.1 decimal
      cases signed : position.sign with
      | none =>
        rw [signed] at verified
        simp [isReduceOnlyVerifiable] at verified
      | some sign =>
        rw [signed] at verified
        refine ⟨⟨position, sign, text_, parts.value, found, signed, text, ⟨parts, read, rfl⟩,
          ?_, ?_⟩⟩
        · dsimp only at verified
          split_ifs at verified with long short
          · exact .inl ⟨long, by simpa [isReduceOnlyVerifiable] using verified⟩
          · exact .inr ⟨short, by simpa [isReduceOnlyVerifiable] using verified⟩
          · simp [isReduceOnlyVerifiable] at verified
        · rw [compareDecimalStrings_pos amount ⟨parts, read, rfl⟩] at notAbove
          exact le_of_not_gt notAbove

/-! ## The book and the trigger -/

/-- The orders a side would be filled against. -/
def oppositeOrders (context : Context) (side : Side) : List JsString :=
  match side with
  | .buy => context.asks
  | .sell => context.bids

def oppositeSide : Side → BookSide
  | .buy => .ask
  | .sell => .bid

/-- A price of a side does not meet a level of the other. -/
def Rests (side : Side) (price level : ℚ) : Prop :=
  match side with
  | .buy => price < level
  | .sell => level < price

variable {side : Side}

theorem Rests.behind {price best level : ℚ} (rests : Rests side price best)
    (good : AsGood (oppositeSide side) best level) : Rests side price level := by
  cases side with
  | buy => exact lt_of_lt_of_le rests good
  | sell => exact lt_of_le_of_lt good rests

variable {price : JsString}

theorem rests_of_classified {x : ℚ} (denoted : Denotes price x) (wellFormed : WellFormed orders)
    (resting : classifyAgainst side price (bestPrice orders (oppositeSide side)) = .resting) :
    (∃ order ∈ orders, ∃ level, Denotes order level)
      ∧ ∀ order ∈ orders, ∀ level, Denotes order level → Rests side x level := by
  cases found : bestPrice orders (oppositeSide side) with
  | none =>
    rw [found] at resting
    cases resting
  | some best =>
    rw [found] at resting
    obtain ⟨number, bestDenotes, ⟨order, member, orderDenotes⟩, good⟩ :=
      bestPrice_spec wellFormed found
    have rests : Rests side x number := by
      unfold classifyAgainst at resting
      dsimp only at resting
      split_ifs at resting with unread crossing
      cases side with
      | buy => simpa [Rests, crosses, compareDecimalStrings_neg denoted bestDenotes] using crossing
      | sell => simpa [Rests, crosses, compareDecimalStrings_pos denoted bestDenotes] using crossing
    exact ⟨⟨order, member, number, orderDenotes⟩,
      fun other inside level levelDenotes => rests.behind (good other inside level levelDenotes)⟩

def TriggersBeyond (orderType : OrderType) (side : Side) (trigger reference : ℚ) : Prop :=
  if isStopLossOrderType orderType then
    match side with
    | .sell => trigger < reference
    | .buy => reference < trigger
  else
    match side with
    | .sell => reference < trigger
    | .buy => trigger < reference

theorem triggerValid_iff {trigger reference : JsString} {x y : ℚ} (one : Denotes trigger x)
    (two : Denotes reference y) (orderType : OrderType) (side : Side) :
    triggerValid orderType side (compareDecimalStrings trigger reference) = true ↔
      TriggersBeyond orderType side x y := by
  have below := compareDecimalStrings_neg one two
  have above := compareDecimalStrings_pos one two
  unfold triggerValid TriggersBeyond
  split_ifs with stopLoss
  · cases side with
    | buy => simpa using above
    | sell => simpa using below
  · cases side with
    | buy => simpa using below
    | sell => simpa using above

/-- The limit is no better for its owner than the trigger. -/
def BoundsTrigger (side : Side) (price trigger : ℚ) : Prop :=
  match side with
  | .sell => price ≤ trigger
  | .buy => trigger ≤ price

/-- A trigger on its side of the reference, and a limit that bounds it. -/
structure Triggers (input : Input) (context : Context) (price : ℚ) where
  text : JsString
  trigger : ℚ
  referenceText : JsString
  reference : ℚ
  asked : input.triggerPrice = some text
  denotes : Denotes text trigger
  found : bestPrice (oppositeOrders context input.side) (oppositeSide input.side)
    = some referenceText
  referenceDenotes : Denotes referenceText reference
  beyond : TriggersBeyond input.orderType input.side trigger reference
  bounds : BoundsTrigger input.side price trigger

theorem triggers_of_check {input : Input} {context : Context} {price : ℚ}
    (denoted : Denotes input.price price)
    (protective : isProtectiveOrderType input.orderType = true)
    (checked : assertProtectiveTriggerDirection input (bestPrice context.bids .bid)
      (bestPrice context.asks .ask) = .ok u) : Nonempty (Triggers input context price) := by
  unfold assertProtectiveTriggerDirection at checked
  rw [if_neg (by simp [protective])] at checked
  cases asked : input.triggerPrice with
  | none =>
    rw [asked] at checked
    cases checked
  | some text =>
    rw [asked] at checked
    dsimp only at checked
    have which : triggerReference input.side (bestPrice context.bids .bid)
        (bestPrice context.asks .ask)
        = bestPrice (oppositeOrders context input.side) (oppositeSide input.side) := by
      cases input.side with
      | buy => rfl
      | sell => rfl
    rw [which] at checked
    cases found : bestPrice (oppositeOrders context input.side) (oppositeSide input.side) with
    | none =>
      rw [found] at checked
      cases checked
    | some referenceText =>
      rw [found] at checked
      simp only [bind_eq_ok, refuseIf_eq_ok, Bool.not_eq_false, Bool.not_eq_true] at checked
      obtain ⟨_, valid, bounded⟩ := checked
      have different : compareDecimalStrings text referenceText ≠ 0 := by
        intro equal
        rw [equal] at valid
        unfold triggerValid at valid
        split_ifs at valid with stopLoss
        · cases side : input.side <;> simp [side] at valid
        · cases side : input.side <;> simp [side] at valid
      obtain ⟨⟨trigger, denotes⟩, reference, referenceDenotes⟩ := denotes_of_compare different
      refine ⟨⟨text, trigger, referenceText, reference, asked, denotes, found, referenceDenotes,
        (triggerValid_iff denotes referenceDenotes _ _).1 valid, ?_⟩⟩
      unfold boundBreaks at bounded
      cases side : input.side with
      | buy =>
        rw [side] at bounded
        simpa [BoundsTrigger, compareDecimalStrings_neg denoted denotes] using bounded
      | sell =>
        rw [side] at bounded
        simpa [BoundsTrigger, compareDecimalStrings_pos denoted denotes] using bounded

/-! ## The quote of a spot buy -/

def MarketRate (market : Market) (rate : ℚ) : Prop :=
  if market.isTakerFeeEnabled then ∃ percent, Denotes market.takerFee percent ∧ rate = percent / 100
  else rate = 0

def accountRate (context : Context) : ℚ := (context.accountTakerFeeTicks.getD 0 : Int) / 1000000

variable {notional : Nat}

theorem marketSpotFee_spec {input : Input} {market : Market} {fee : SpotFee}
    (buy : input.side = .buy) (charged : marketSpotFee input market notional = .ok fee) :
    ∃ rate, MarketRate market rate ∧ 0 ≤ rate ∧ fee.integer = ⌈(notional * rate : ℚ)⌉₊ := by
  unfold marketSpotFee at charged
  unfold MarketRate
  split_ifs at charged with asked
  · simp only [if_pos asked.2]
    split at charged
    · cases charged
    · rename_i parts read
      simp only [bind_eq_ok, refuseIf_eq_ok] at charged
      obtain ⟨_, _, percentText, _, charged⟩ := charged
      refine ⟨parts.value / 100, ⟨parts.value, ⟨parts, read, rfl⟩, rfl⟩,
        div_nonneg parts.value_nonneg (by norm_num), ?_⟩
      split_ifs at charged with zero
      · obtain rfl := Except.ok.inj charged
        simp [Scaled.value, zero]
      · obtain rfl := Except.ok.inj charged
        dsimp only
        rw [divideCeil_eq_ceil _ (by positivity)]
        congr 1
        push_cast
        rw [Scaled.value]
        field_simp
  · have off : ¬ market.isTakerFeeEnabled = true := fun enabled => asked ⟨buy, enabled⟩
    simp only [if_neg off]
    obtain rfl := Except.ok.inj charged
    exact ⟨0, rfl, le_refl _, by simp⟩

theorem accountSpotFee_spec {input : Input} {context : Context} {fee charged : SpotFee}
    (buy : input.side = .buy) (passed : accountSpotFee input context notional fee = .ok charged) :
    0 ≤ accountRate context
      ∧ charged.integer = max fee.integer ⌈(notional * accountRate context : ℚ)⌉₊ := by
  unfold accountSpotFee at passed
  unfold accountRate
  cases asked : context.accountTakerFeeTicks with
  | none =>
    rw [asked] at passed
    obtain rfl := Except.ok.inj passed
    simp
  | some ticks =>
    rw [asked] at passed
    dsimp only at passed
    rw [if_pos buy] at passed
    simp only [bind_eq_ok, refuseIf_eq_ok] at passed
    obtain ⟨_, valid, passed⟩ := passed
    obtain ⟨whole, rfl⟩ := Int.eq_ofNat_of_zero_le (show 0 ≤ ticks by omega)
    have ceiling : divideCeil (notional * whole) 1000000
        = ⌈(notional * ((whole : Int) / 1000000) : ℚ)⌉₊ := by
      rw [divideCeil_eq_ceil _ (by norm_num)]
      push_cast
      rw [mul_div_assoc]
    rw [Int.toNat_natCast, ceiling] at passed
    rw [Option.getD_some]
    refine ⟨by positivity, ?_⟩
    split_ifs at passed with higher
    · obtain rfl := Except.ok.inj passed
      exact (max_eq_right (le_of_lt higher)).symm
    · obtain rfl := Except.ok.inj passed
      exact (max_eq_left (Nat.le_of_not_lt higher)).symm

/-- The unlocked quote of the account pays for a notional and the highest fee, rounded up. -/
structure Covers (input : Input) (context : Context) (notional : Nat) where
  owner : Account
  assets : List Asset
  asset : Asset
  balance : ℚ
  locked : ℚ
  rate : ℚ
  found : (context.accounts.find? fun account =>
    accountIndexOf account = some input.accountIndex) = some owner
  listed : owner.assets = some assets
  only : (assets.filter fun asset => asset.assetId = context.market.quoteAssetId) = [asset]
  balanceDenotes : Denotes asset.balance balance
  lockedDenotes : Denotes asset.lockedBalance locked
  marketRate : MarketRate context.market rate
  covered : notional + ⌈(notional * max rate (accountRate context) : ℚ)⌉₊
    ≤ (balance - locked) * 10 ^ context.market.supportedQuoteDecimals.toNat

theorem covers_of_inventory {input : Input} {context : Context} {base : Nat}
    {inventory : Option SpotInventory} (spot : context.market.marketType = .spot)
    (buy : input.side = .buy)
    (passed : assertSpotOrderInventory input context base notional = .ok inventory) :
    Nonempty (Covers input context notional) := by
  have notSell : ¬ input.side = .sell := by simp [buy]
  unfold assertSpotOrderInventory at passed
  rw [if_neg (by simp [spot])] at passed
  simp only [bind_eq_ok, refuseIf_eq_ok, if_neg notSell] at passed
  obtain ⟨_, _, passed⟩ := passed
  split at passed
  · cases passed
  · rename_i assets read
    obtain ⟨owner, found, listed⟩ := Option.bind_eq_some_iff.1 read
    split at passed
    · rename_i asset only
      simp only [bind_eq_ok, refuseIf_eq_ok] at passed
      obtain ⟨unlocked, subtracted, marketFee, marketCharged, fee, charged, _, enough, -⟩ := passed
      obtain ⟨balance, locked, balanceDenotes, lockedDenotes, denotes⟩ :=
        subtractDecimalStrings_spec subtracted
      obtain ⟨rate, marketRate, rateNonneg, marketInteger⟩ := marketSpotFee_spec buy marketCharged
      obtain ⟨accountNonneg, integer⟩ := accountSpotFee_spec buy charged
      refine ⟨⟨owner, assets, asset, balance, locked, rate, found, listed, only, balanceDenotes,
        lockedDenotes, marketRate, ?_⟩⟩
      have required := denotes_formatInteger (notional + fee.integer)
        context.market.supportedQuoteDecimals.toNat
      rw [compareDecimalStrings_neg denotes required, not_lt, div_le_iff₀ (by positivity)] at enough
      have highest : fee.integer = ⌈(notional * max rate (accountRate context) : ℚ)⌉₊ := by
        rw [integer, marketInteger, mul_max_of_nonneg _ _ (Nat.cast_nonneg _),
          Nat.ceil_mono.map_max]
      rw [highest] at enough
      exact_mod_cast enough
    · cases passed

/-! ## The preview -/

def Amount.number (amount : Amount) : ℚ := amount.integer / 10 ^ amount.decimals

structure Checked (input : Input) (context : Context) (preview : Preview) : Prop where
  base : decimalToLighterInteger input.baseAmount context.market.supportedSizeDecimals "baseAmount"
    false = .ok preview.baseAmount.integer
  price : decimalToLighterInteger input.price context.market.supportedPriceDecimals "price"
    false = .ok preview.price.integer
  baseScale : preview.baseAmount.decimals = context.market.supportedSizeDecimals.toNat
  priceScale : preview.price.decimals = context.market.supportedPriceDecimals.toNat
  baseFits : preview.baseAmount.integer ≤ wireBaseAmountMax
  priceFits : preview.price.integer ≤ wirePriceMax
  identity : preview.identity.baseAmountInteger = ofNat preview.baseAmount.integer
    ∧ preview.identity.priceInteger = ofNat preview.price.integer
  policy : (input.orderType, input.timeInForce) ∈ allowedCreateOrderTuples
  inventory : ∃ inventory, assertSpotOrderInventory input context preview.baseAmount.integer
    (preview.baseAmount.integer * preview.price.integer) = .ok inventory
  reduceOnly : input.reduceOnly = true →
    isReduceOnlyVerifiable input.side
        (readPositionContext context.accounts input.accountIndex input.marketId) = true
      ∧ assertProtectiveSizeWithinPosition input.baseAmount
        (readPositionContext context.accounts input.accountIndex input.marketId) = .ok ()
  trigger : assertProtectiveTriggerDirection input (bestPrice context.bids .bid)
    (bestPrice context.asks .ask) = .ok ()
  postOnly : input.timeInForce = .postOnly → isTriggerLimitOrderType input.orderType = false →
    classifyPriceComparison input.side input.orderType input.price (bestPrice context.bids .bid)
      (bestPrice context.asks .ask) = .resting

variable {hash : List JsString → JsString} {input : Input} {context : Context} {preview : Preview}

theorem checked_of_built (built : buildLighterOrderPreview hash input context = .ok preview) :
    Checked input context preview := by
  simp only [buildLighterOrderPreview, bind_eq_ok, refuseIf_eq_ok] at built
  obtain ⟨_, _, _, _, _, _, _, _, _, _, _, _, _, _, _, combination, base, baseRead, price, priceRead,
    trigger, triggerRead, minBase, _, minQuote, _, _, priceFits, _, _, _, baseFits, _, _, _, _,
    inventory, inventoryRead, _, verifiable, _, sized, _, triggered, _, resting, preview⟩ := built
  obtain rfl := Except.ok.inj preview
  refine
    { base := baseRead
      price := priceRead
      baseScale := rfl
      priceScale := rfl
      baseFits := Nat.le_of_not_lt baseFits
      priceFits := Nat.le_of_not_lt priceFits
      identity := ⟨rfl, rfl⟩
      policy := ?_
      inventory := ⟨inventory, inventoryRead⟩
      reduceOnly := ?_
      trigger := triggered
      postOnly := ?_ }
  · simp only [assertOrderCombination, assertLighterPhaseOneOrderPolicy, bind_eq_ok,
      refuseIf_eq_ok] at combination
    obtain ⟨_, allowed, -⟩ := combination
    exact not_not.1 allowed
  · intro reduceOnly
    rw [assertReduceOnlySize, if_pos reduceOnly] at sized
    exact ⟨by simpa [reduceOnly] using verifiable, sized⟩
  · intro postOnly notTriggerLimit
    by_contra other
    exact resting ⟨postOnly, notTriggerLimit, other⟩

/-- What an accepted preview promises of its order. -/
structure Safe (input : Input) (context : Context) (preview : Preview) : Prop where
  base : 0 < preview.baseAmount.integer ∧ preview.baseAmount.integer ≤ wireBaseAmountMax
    ∧ Denotes input.baseAmount preview.baseAmount.number
  price : 0 < preview.price.integer ∧ preview.price.integer ≤ wirePriceMax
    ∧ Denotes input.price preview.price.number
  wire : preview.identity.baseAmountInteger = ofNat preview.baseAmount.integer
    ∧ preview.identity.priceInteger = ofNat preview.price.integer
  reduces : input.reduceOnly = true → ∃ reduces : Reduces input context preview.baseAmount.number,
    ∀ amount, 0 ≤ amount → amount ≤ preview.baseAmount.number →
      |filled input.side (held reduces.sign reduces.size) amount| ≤ |held reduces.sign reduces.size|
        ∧ 0 ≤ filled input.side (held reduces.sign reduces.size) amount
          * held reduces.sign reduces.size
  rests : input.timeInForce = .postOnly → isTriggerLimitOrderType input.orderType = false →
    WellFormed (oppositeOrders context input.side) →
      (∃ order ∈ oppositeOrders context input.side, ∃ level, Denotes order level)
        ∧ ∀ order ∈ oppositeOrders context input.side, ∀ level, Denotes order level →
          Rests input.side preview.price.number level
  triggers : isProtectiveOrderType input.orderType = true →
    Nonempty (Triggers input context preview.price.number)
  covers : context.market.marketType = .spot → input.side = .buy →
    Nonempty (Covers input context (preview.baseAmount.integer * preview.price.integer))

theorem classified_of_postOnly {orderType : OrderType} {timeInForce : TimeInForce}
    (allowed : (orderType, timeInForce) ∈ allowedCreateOrderTuples)
    (postOnly : timeInForce = .postOnly)
    (notTriggerLimit : isTriggerLimitOrderType orderType = false)
    (resting : classifyPriceComparison side orderType price (bestPrice context.bids .bid)
      (bestPrice context.asks .ask) = .resting) :
    classifyAgainst side price (bestPrice (oppositeOrders context side) (oppositeSide side))
      = .resting := by
  have limit : orderType = .limit := by
    subst postOnly
    cases orderType with
    | limit => rfl
    | market | stopLoss | takeProfit => simp [allowedCreateOrderTuples] at allowed
    | stopLossLimit | takeProfitLimit => cases notTriggerLimit
  subst limit
  cases side with
  | buy => exact resting
  | sell => exact resting

/-- Every accepted preview is safe. -/
theorem accepted_preview_safe (hash : List JsString → JsString) (input : Input) (context : Context)
    (preview : Preview) (built : buildLighterOrderPreview hash input context = .ok preview) :
    Safe input context preview := by
  have checked := checked_of_built built
  obtain ⟨-, base, basePositive⟩ := decimalToLighterInteger_spec checked.base
  obtain ⟨-, price, pricePositive⟩ := decimalToLighterInteger_spec checked.price
  rw [← checked.baseScale] at base
  rw [← checked.priceScale] at price
  exact
    { base := ⟨basePositive rfl, checked.baseFits, base⟩
      price := ⟨pricePositive rfl, checked.priceFits, price⟩
      wire := checked.identity
      reduces := by
        intro reduceOnly
        obtain ⟨verified, sized⟩ := checked.reduceOnly reduceOnly
        obtain ⟨reduces⟩ := reduces_of_checks base verified sized
        exact ⟨reduces, fun amount some_ atMost => reduces.shrinks some_ atMost⟩
      rests := by
        intro postOnly notTriggerLimit wellFormed
        have resting := checked.postOnly postOnly notTriggerLimit
        exact rests_of_classified price wellFormed
          (classified_of_postOnly checked.policy postOnly notTriggerLimit resting)
      triggers := fun protective => triggers_of_check price protective checked.trigger
      covers := by
        intro spot buy
        obtain ⟨inventory, passed⟩ := checked.inventory
        exact covers_of_inventory spot buy passed }

/-! ## Orders that are accepted and do not rest -/

/-- A stop on a long position of two, sold post-only at 2800 once the price is down to 2900. -/
def dormantStop : Input where
  sessionId := "session"
  environment := .core
  accountIndex := 7
  apiKeyIndex := some 3
  marketId := 0
  side := .sell
  baseAmount := "1.5"
  price := "2800"
  orderType := .stopLossLimit
  timeInForce := .postOnly
  reduceOnly := true
  triggerPrice := some "2900"
  orderExpiry := 3600000
  clientOrderIndexPolicy := "vex_assigned_uint48"
  nowMs := 0
  integratorFees := none

/-- A perpetual market with the bids and asks given. -/
def perpContext (bids asks : List JsString) : Context where
  accountTakerFeeTicks := none
  market :=
    { symbol := "ETH"
      marketId := 0
      marketType := .perp
      baseAssetId := 0
      quoteAssetId := 0
      status := .active
      takerFee := "0"
      isTakerFeeEnabled := false
      minBaseAmount := "0.1"
      minQuoteAmount := "10"
      supportedSizeDecimals := 4
      supportedPriceDecimals := 2
      supportedQuoteDecimals := 6
      markPrice := none
      indexPrice := none
      lastTradePrice := none }
  bids := bids
  asks := asks
  accounts :=
    [{ index := some 7
       accountIndex := none
       positions := some [⟨some 0, none, some "2.0", none, some 1⟩]
       assets := none }]

def postOnlyBuy : Input :=
  { dormantStop with
    side := .buy
    price := "99.5"
    orderType := .limit
    reduceOnly := false
    triggerPrice := none }

/-- A post-only order is accepted though it does not rest: a dormant trigger limit is not compared
with the book, and a level that is no decimal hides a better one behind it. -/
theorem accepted_postOnly_does_not_rest :
    (∃ preview, buildLighterOrderPreview List.flatten dormantStop
        (perpContext ["3000", "2999.5"] ["3001"]) = .ok preview
      ∧ dormantStop.timeInForce = .postOnly
      ∧ Denotes "3000" 3000 ∧ ¬ Rests dormantStop.side preview.price.number 3000)
    ∧ ∃ preview, buildLighterOrderPreview List.flatten postOnlyBuy
        (perpContext ["98"] ["100", "abc", "99"]) = .ok preview
      ∧ postOnlyBuy.timeInForce = .postOnly
      ∧ Denotes "99" 99 ∧ ¬ Rests postOnlyBuy.side preview.price.number 99 := by
  have stop : ((buildLighterOrderPreview List.flatten dormantStop
      (perpContext ["3000", "2999.5"] ["3001"])).map (·.price)).toOption
        = some ⟨"2800", 280000, 2⟩ := by decide
  have buy : ((buildLighterOrderPreview List.flatten postOnlyBuy
      (perpContext ["98"] ["100", "abc", "99"])).map (·.price)).toOption
        = some ⟨"99.5", 9950, 2⟩ := by decide
  rw [toOption_eq_some, map_eq_ok] at stop buy
  obtain ⟨stopPreview, stopBuilt, stopPrice⟩ := stop
  obtain ⟨buyPreview, buyBuilt, buyPrice⟩ := buy
  refine ⟨⟨stopPreview, stopBuilt, rfl, ⟨⟨3000, 0⟩, by decide, by norm_num [Scaled.value]⟩, ?_⟩,
    buyPreview, buyBuilt, rfl, ⟨⟨99, 0⟩, by decide, by norm_num [Scaled.value]⟩, ?_⟩
  · rw [stopPrice]
    norm_num [Rests, Amount.number, dormantStop]
  · rw [buyPrice]
    norm_num [Rests, Amount.number, postOnlyBuy, dormantStop]

/-- The dormant stop is accepted, and safe. -/
theorem accepted_preview_safe_dormantStop : ∃ preview,
    buildLighterOrderPreview List.flatten dormantStop (perpContext ["3000", "2999.5"] ["3001"])
        = .ok preview
      ∧ Safe dormantStop (perpContext ["3000", "2999.5"] ["3001"]) preview := by
  have some_ : (buildLighterOrderPreview List.flatten dormantStop
      (perpContext ["3000", "2999.5"] ["3001"])).toOption.isSome = true := by decide
  obtain ⟨preview, built⟩ := Option.isSome_iff_exists.1 some_
  rw [toOption_eq_some] at built
  exact ⟨preview, built, accepted_preview_safe _ _ _ _ built⟩

end Vex.Lighter.OrderPreview
