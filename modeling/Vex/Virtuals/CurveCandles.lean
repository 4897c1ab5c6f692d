import Mathlib
import Vex.Library.DecimalStrings
import Vex.Library.Table

/-!
# The candles of a bonding curve

The trades of a curve are folded into one accumulator a bucket. A caller pages back from the newest
candles, asking for what is before the oldest one that it has.
-/

namespace Vex.Virtuals

open Vex.Library Vex.Library.JsString

structure NormalizedCurveTrade where
  timestampSeconds : Int
  priceScaled : Int
  baseAmountScaled : Int
  quoteAmountScaled : Int
  isBuy : Bool

structure CurveCandle where
  timestampSeconds : Int
  («open» high low close volumeVirtual volumeToken : JsString)
  (tradeCount buyCount sellCount : Nat)

/-- `formatScaled`, of a `bigint`. -/
def formatSigned (value : Int) (decimals : Nat) : JsString :=
  (if value < 0 then [45] else []) ++ formatScaled value.natAbs decimals

/-- The span is positive. -/
def bucketStartSeconds (timestampSeconds spanSeconds : Int) : Int :=
  timestampSeconds / spanSeconds * spanSeconds

/-! ## The fold -/

structure Accumulator where
  (start openTs closeTs «open» close high low volumeQuote volumeBase : Int)
  (tradeCount buyCount sellCount : Nat)

namespace Accumulator

def first (start : Int) (trade : NormalizedCurveTrade) : Accumulator where
  start
  openTs := trade.timestampSeconds
  closeTs := trade.timestampSeconds
  «open» := trade.priceScaled
  close := trade.priceScaled
  high := trade.priceScaled
  low := trade.priceScaled
  volumeQuote := trade.quoteAmountScaled
  volumeBase := trade.baseAmountScaled
  tradeCount := 1
  buyCount := if trade.isBuy then 1 else 0
  sellCount := if trade.isBuy then 0 else 1

def add (existing : Accumulator) (trade : NormalizedCurveTrade) : Accumulator where
  start := existing.start
  openTs := if trade.timestampSeconds < existing.openTs then trade.timestampSeconds else existing.openTs
  «open» := if trade.timestampSeconds < existing.openTs then trade.priceScaled else existing.open
  closeTs := if existing.closeTs ≤ trade.timestampSeconds then trade.timestampSeconds
    else existing.closeTs
  close := if existing.closeTs ≤ trade.timestampSeconds then trade.priceScaled else existing.close
  high := max existing.high trade.priceScaled
  low := min existing.low trade.priceScaled
  volumeQuote := existing.volumeQuote + trade.quoteAmountScaled
  volumeBase := existing.volumeBase + trade.baseAmountScaled
  tradeCount := existing.tradeCount + 1
  buyCount := existing.buyCount + if trade.isBuy then 1 else 0
  sellCount := existing.sellCount + if trade.isBuy then 0 else 1

/-- What the map holds for a bucket after one more trade of it. -/
def push (start : Int) (bucket : Option Accumulator) (trade : NormalizedCurveTrade) : Accumulator :=
  match bucket with
  | none => .first start trade
  | some existing => existing.add trade

def candle (bucket : Accumulator) : CurveCandle where
  timestampSeconds := bucket.start
  «open» := formatSigned bucket.open 36
  high := formatSigned bucket.high 36
  low := formatSigned bucket.low 36
  close := formatSigned bucket.close 36
  volumeVirtual := formatSigned bucket.volumeQuote 18
  volumeToken := formatSigned bucket.volumeBase 18
  tradeCount := bucket.tradeCount
  buyCount := bucket.buyCount
  sellCount := bucket.sellCount

end Accumulator

section

variable (spanSeconds : Int)

/-- The order of the map is not kept: the buckets are sorted. -/
def foldTrade (byBucket : Table Accumulator.start) (trade : NormalizedCurveTrade) :
    Table Accumulator.start :=
  let start := bucketStartSeconds trade.timestampSeconds spanSeconds
  byBucket.put (.push start (byBucket.find? start) trade)

def bucketsOf (trades : List NormalizedCurveTrade) : List Accumulator :=
  sortBy (fun a b => a.start - b.start) (trades.foldl (foldTrade spanSeconds) .empty).rows

def bucketTradesIntoCandles (trades : List NormalizedCurveTrade) : List CurveCandle :=
  (bucketsOf spanSeconds trades).map Accumulator.candle

/-- `values.slice(-limit)`. -/
def newest {α : Type} (limit : Nat) (values : List α) : List α :=
  if limit = 0 then values else values.rtake limit

/-- The candles of `buildTapeCandles`. -/
def tapeCandles (limit : Nat) (before : Option Int) (all : List NormalizedCurveTrade) :
    List CurveCandle :=
  newest limit (bucketTradesIntoCandles spanSeconds
    (all.filter fun trade => before.all (trade.timestampSeconds < ·)))

end

/-! ## What a bucket is the fold of -/

open NormalizedCurveTrade in
/-- The bucket says of these trades, in the order they came in, what a candle says. The opening trade
is the first of the earliest ones, the closing trade the last of the latest. -/
structure Folds (own : List NormalizedCurveTrade) (bucket : Accumulator) : Prop where
  opens : (own.argmin timestampSeconds).map (fun trade => (trade.timestampSeconds, trade.priceScaled)) =
    some (bucket.openTs, bucket.open)
  closes : (own.reverse.argmax timestampSeconds).map
    (fun trade => (trade.timestampSeconds, trade.priceScaled)) = some (bucket.closeTs, bucket.close)
  high : (own.map priceScaled).maximum = bucket.high
  low : (own.map priceScaled).minimum = bucket.low
  quote : bucket.volumeQuote = (own.map quoteAmountScaled).sum
  base : bucket.volumeBase = (own.map baseAmountScaled).sum
  count : bucket.tradeCount = own.length
  buys : bucket.buyCount = own.countP isBuy
  sells : bucket.sellCount = own.countP (!·.isBuy)

variable {own trades : List NormalizedCurveTrade} {bucket : Accumulator} {spanSeconds start : Int}

theorem Folds.first (trade : NormalizedCurveTrade) : Folds [trade] (.first start trade) := by
  constructor <;> cases buy : trade.isBuy <;> simp [Accumulator.first, buy]

theorem Folds.add (folds : Folds own bucket) (trade : NormalizedCurveTrade) :
    Folds (own ++ [trade]) (bucket.add trade) where
  opens := by
    obtain ⟨opening, found, same⟩ := Option.map_eq_some_iff.1 folds.opens
    obtain ⟨time, price⟩ := Prod.mk.inj same
    rw [List.argmin_concat, found, Accumulator.add, ← time, ← price]
    dsimp only
    split_ifs <;> rfl
  closes := by
    obtain ⟨closing, found, same⟩ := Option.map_eq_some_iff.1 folds.closes
    obtain ⟨time, price⟩ := Prod.mk.inj same
    rw [List.reverse_append, List.reverse_singleton, List.singleton_append, List.argmax_cons, found,
      Accumulator.add, ← time, ← price]
    dsimp only
    split_ifs <;> first | rfl | omega
  high := by simp [Accumulator.add, List.maximum_concat, folds.high]
  low := by simp [Accumulator.add, List.minimum_concat, folds.low]
  quote := by simp [Accumulator.add, folds.quote]
  base := by simp [Accumulator.add, folds.base]
  count := by simp [Accumulator.add, folds.count]
  buys := by cases buy : trade.isBuy <;> simp [Accumulator.add, folds.buys, buy]
  sells := by cases buy : trade.isBuy <;> simp [Accumulator.add, folds.sells, buy]

/-- The trades of a bucket. -/
def tradesOf (spanSeconds start : Int) (trades : List NormalizedCurveTrade) :=
  trades.filter fun trade => bucketStartSeconds trade.timestampSeconds spanSeconds = start

/-- The accumulator that a bucket's own trades make. -/
def ofTrades (start : Int) (own : List NormalizedCurveTrade) : Option Accumulator :=
  own.foldl (fun bucket trade => some (.push start bucket trade)) none

theorem find?_foldl : (trades.foldl (foldTrade spanSeconds) .empty).find? start =
    ofTrades start (tradesOf spanSeconds start trades) := by
  unfold ofTrades tradesOf
  induction trades using List.reverseRecOn with
  | nil => rfl
  | append_singleton trades trade ih =>
    rw [List.foldl_concat, List.filter_append, List.foldl_append, ← ih, foldTrade]
    generalize trades.foldl (foldTrade spanSeconds) .empty = byBucket
    have put (k : Int) : (Accumulator.push k (byBucket.find? k) trade).start = k := by
      cases found : byBucket.find? k with
      | none => rfl
      | some bucket => exact (Table.find?_eq_some.1 found).2
    by_cases own : bucketStartSeconds trade.timestampSeconds spanSeconds = start
    · have here := put start ▸ byBucket.find?_put_self (.push start (byBucket.find? start) trade)
      simp [own, here]
    · rw [Table.find?_put_of_ne ((put _).symm ▸ Ne.symm own)]
      simp [own]

theorem mem_bucketsOf : bucket ∈ bucketsOf spanSeconds trades ↔
    ofTrades bucket.start (tradesOf spanSeconds bucket.start trades) = some bucket := by
  rw [bucketsOf, mem_sortBy, ← find?_foldl, Table.find?_eq_some]
  simp

theorem bucketsOf_sorted : (bucketsOf spanSeconds trades).Pairwise (·.start < ·.start) := by
  have sorted : (bucketsOf spanSeconds trades).Pairwise (·.start ≤ ·.start) :=
    sortBy_pairwise (by simp)
  have distinct : ((bucketsOf spanSeconds trades).map Accumulator.start).Nodup :=
    ((List.perm_insertionSort _ _).map _).nodup_iff.2 (Table.unique _)
  exact (sorted.and (List.pairwise_map.1 distinct)).imp fun both => lt_of_le_of_ne both.1 both.2

theorem folds_ofTrades (start : Int) (own : List NormalizedCurveTrade) :
    match ofTrades start own with
    | none => own = []
    | some bucket => Folds own bucket := by
  unfold ofTrades
  induction own using List.reverseRecOn with
  | nil => rfl
  | append_singleton own trade ih =>
    rw [List.foldl_concat]
    split at ih
    · rename_i nothing
      rw [nothing, ih]
      exact .first trade
    · rename_i bucket folded
      rw [folded]
      exact ih.add trade

theorem folds_of_mem (member : bucket ∈ bucketsOf spanSeconds trades) :
    Folds (tradesOf spanSeconds bucket.start trades) bucket := by
  have folds := folds_ofTrades bucket.start (tradesOf spanSeconds bucket.start trades)
  rwa [mem_bucketsOf.1 member] at folds

/-- **A candle is the fold of its bucket's trades.** The candles are in order, there is one for each
bucket that has a trade, and it says of these trades what a candle says. -/
theorem candles_fold (spanSeconds : Int) (trades : List NormalizedCurveTrade) :
    ∃ buckets : List Accumulator,
      bucketTradesIntoCandles spanSeconds trades = buckets.map Accumulator.candle ∧
      buckets.Pairwise (·.start < ·.start) ∧
      (∀ trade ∈ trades, ∃ bucket ∈ buckets,
        bucket.start = bucketStartSeconds trade.timestampSeconds spanSeconds) ∧
      ∀ bucket ∈ buckets, Folds (tradesOf spanSeconds bucket.start trades) bucket := by
  refine ⟨bucketsOf spanSeconds trades, rfl, bucketsOf_sorted, fun trade member => ?_,
    fun _ => folds_of_mem⟩
  generalize here : bucketStartSeconds trade.timestampSeconds spanSeconds = start
  have own := folds_ofTrades start (tradesOf spanSeconds start trades)
  split at own
  · exact absurd (decide_eq_true here) (List.filter_eq_nil_iff.1 own trade member)
  · rename_i bucket found
    have there := Table.find?_eq_some.1 (find?_foldl.trans found)
    exact ⟨bucket, mem_sortBy.2 there.1, there.2⟩

/-! ## Paging back -/

/-- A caller asks for page after page, each before the oldest candle that it has. -/
def pagesBack (spanSeconds : Int) (limit : Nat) (all : List NormalizedCurveTrade) :
    ℕ → List CurveCandle → List CurveCandle
  | 0, shown => shown
  | pages + 1, shown => pagesBack spanSeconds limit all pages
    (tapeCandles spanSeconds limit (shown.head?.map CurveCandle.timestampSeconds) all ++ shown)

theorem bucketStart_lt (positive : 0 < spanSeconds) (timestampSeconds : Int) {before : Int}
    (aligned : spanSeconds ∣ before) :
    bucketStartSeconds timestampSeconds spanSeconds < before ↔ timestampSeconds < before := by
  obtain ⟨buckets, rfl⟩ := aligned
  rw [bucketStartSeconds, mul_comm spanSeconds, mul_lt_mul_iff_left₀ positive,
    Int.ediv_lt_iff_lt_mul positive]

theorem start_dvd (member : bucket ∈ bucketsOf spanSeconds trades) : spanSeconds ∣ bucket.start := by
  obtain ⟨trade, opening, -⟩ := Option.map_eq_some_iff.1 (folds_of_mem member).opens
  have own := of_decide_eq_true (List.mem_filter.1 (List.argmin_mem opening)).2
  exact own ▸ Dvd.intro_left _ rfl

/-- The trades before the start of a bucket make the buckets before it. -/
theorem bucketsOf_before (positive : 0 < spanSeconds) {before : Int} (aligned : spanSeconds ∣ before) :
    bucketsOf spanSeconds (trades.filter (·.timestampSeconds < before)) =
      (bucketsOf spanSeconds trades).filter (·.start < before) := by
  have distinct {l : List Accumulator} (sorted : l.Pairwise (·.start < ·.start)) : l.Nodup :=
    sorted.imp fun {a b} less same => (same ▸ less).false
  refine ((List.perm_ext_iff_of_nodup (distinct bucketsOf_sorted)
    ((distinct bucketsOf_sorted).filter _)).2 fun bucket => ?_).eq_of_pairwise
    (fun a b _ _ less more => (less.asymm more).elim) bucketsOf_sorted (bucketsOf_sorted.filter _)
  have side (timestampSeconds : Int) := bucketStart_lt positive timestampSeconds aligned
  rw [mem_bucketsOf, List.mem_filter, mem_bucketsOf]
  by_cases early : bucket.start < before
  · have same : tradesOf spanSeconds bucket.start (trades.filter (·.timestampSeconds < before)) =
        tradesOf spanSeconds bucket.start trades := by
      rw [tradesOf, List.filter_filter]
      exact List.filter_congr (by grind)
    simp [same, early]
  · rw [tradesOf, List.filter_filter, List.filter_eq_nil_iff.2 (by grind)]
    simp [ofTrades, early]

section

variable (positive : 0 < spanSeconds) {older shown : List CurveCandle}
include positive

theorem page_eq (shows : bucketTradesIntoCandles spanSeconds trades = older ++ shown) (limit : Nat) :
    tapeCandles spanSeconds limit (shown.head?.map CurveCandle.timestampSeconds) trades =
      newest limit older := by
  cases shown with
  | nil =>
    rw [List.append_nil] at shows
    simp [tapeCandles, shows]
  | cons oldest rest =>
    have inside : oldest ∈ bucketTradesIntoCandles spanSeconds trades := by simp [shows]
    obtain ⟨bucket, there, rfl⟩ := List.mem_map.1 inside
    have sorted : (bucketTradesIntoCandles spanSeconds trades).Pairwise
        (·.timestampSeconds < ·.timestampSeconds) := List.pairwise_map.2 bucketsOf_sorted
    rw [shows, List.pairwise_append, List.pairwise_cons] at sorted
    obtain ⟨-, ⟨later, -⟩, between⟩ := sorted
    have earlier : (older ++ bucket.candle :: rest).filter (·.timestampSeconds < bucket.start) =
        older := by
      rw [List.filter_append, List.filter_eq_self.2, List.filter_eq_nil_iff.2, List.append_nil] <;>
        grind [Accumulator.candle]
    rw [← shows, bucketTradesIntoCandles, List.filter_map] at earlier
    refine congrArg (newest limit) (Eq.trans ?_ earlier)
    exact congrArg (List.map _) (bucketsOf_before positive (start_dvd there))

theorem pagesBack_eq {limit : Nat} (some_ : 0 < limit) (pages : ℕ)
    (shows : bucketTradesIntoCandles spanSeconds trades = older ++ shown) :
    pagesBack spanSeconds limit trades pages shown = older.rtake (pages * limit) ++ shown := by
  induction pages generalizing older shown with
  | zero => simp [pagesBack]
  | succ pages ih =>
    have cut : (older.reverse.drop limit).reverse ++ older.rtake limit = older := by
      rw [List.rtake_eq_reverse_take_reverse, ← List.reverse_append, List.take_append_drop,
        List.reverse_reverse]
    rw [pagesBack, page_eq positive shows, newest, if_neg some_.ne',
      ih (by rw [← List.append_assoc, cut, shows])]
    simp [List.rtake_eq_reverse_take_reverse, Nat.succ_mul, Nat.add_comm _ limit, List.take_add]

end

/-- **Nothing between the pages is skipped.** The pages are the newest candles of the series, each
once and in order, and each as the whole history makes it. -/
theorem pages_walk (spanSeconds : Int) (positive : 0 < spanSeconds) (limit : Nat) (some_ : 0 < limit)
    (all : List NormalizedCurveTrade) (pages : ℕ) :
    pagesBack spanSeconds limit all pages [] =
      (bucketTradesIntoCandles spanSeconds all).rtake (pages * limit) := by
  simpa using pagesBack_eq positive some_ pages (List.append_nil _).symm

/-- Two pages of one candle each. -/
theorem two_pages_back : pagesBack 60 1 [⟨130, 1, 1, 1, true⟩, ⟨70, 1, 1, 1, false⟩] 2 [] =
    (bucketTradesIntoCandles 60 [⟨130, 1, 1, 1, true⟩, ⟨70, 1, 1, 1, false⟩]).rtake (2 * 1) :=
  pages_walk 60 (by decide) 1 (by decide) _ 2

end Vex.Virtuals
