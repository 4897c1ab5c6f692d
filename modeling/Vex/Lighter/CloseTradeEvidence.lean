import Vex.Lighter.CancelAllEvidence

/-!
# How many trades of a close are counted

The evidence of a close keeps the last rows of its trades, the number of rows left
out and the number of all. Whatever frames come, no trade is kept twice and the
rows kept and left out add up to the total (`Kept`).

The total is that of the distinct trades observed (`Counts`) as long as each frame
tells at most one trade that is new, tells it first and tells it before the intent
is completed, and begins with no trade whose row has been left out
(`TellsOneTrade`): a frame is read for its first trade alone, and a row left out is
forgotten.
-/

namespace Vex.Lighter.StreamEvidence

open Vex.Library Vex.Library.JsString

variable {reader : Reader} {intent : Intent}

/-! ## Observations -/

def tradesOf : Message → List Trade
  | .trades _ trades => flattenTrades trades
  | _ => []

def closeTrades (reader : Reader) (intent : Intent) (message : Message) : List Trade :=
  (tradesOf message).filter (isCloseTrade reader intent)

/-- The ids of the trades of the close in some frames. -/
def observedTrades (reader : Reader) (intent : Intent) (frames : List Message) :
    Finset IntegerString :=
  (frames.flatMap fun message => (closeTrades reader intent message).map (·.tradeIdStr)).toFinset

theorem mem_observedTrades {frames : List Message} {id : IntegerString} :
    id ∈ observedTrades reader intent frames
      ↔ ∃ message ∈ frames, ∃ trade ∈ closeTrades reader intent message, trade.tradeIdStr = id := by
  simp [observedTrades]

theorem observedTrades_concat (frames : List Message) (message : Message) :
    observedTrades reader intent (frames ++ [message]) = observedTrades reader intent frames
        ∪ ((closeTrades reader intent message).map (·.tradeIdStr)).toFinset := by
  simp [observedTrades]

theorem matchingCloseTrade_eq (message : Message) :
    matchingCloseTrade reader intent (tradesOf message)
      = (closeTrades reader intent message).head? :=
  List.head?_filter.symm

/-! ## What is kept -/

/-- The rows kept, and how many trades are left out and there are in all. -/
structure Tally where
  kept : List TradeEvidence
  dropped : Nat
  total : Nat

def Evidence.tally (evidence : Evidence) : Tally :=
  ⟨evidence.trades.getD [], readCount evidence.tradesDropped, readCount evidence.tradesTotal⟩

/-- What is stored with an intent says so. -/
def Watched.tally (watched : Watched) : Tally := (previousLifecycleEvidence watched.outcome).tally

def Tally.has (tally : Tally) (id : IntegerString) : Prop := ∃ row ∈ tally.kept, row.tradeId = id

instance (tally : Tally) (id : IntegerString) : Decidable (tally.has id) := by
  unfold Tally.has
  exact inferInstance

/-- No trade is kept twice, and the rows kept and left out are all. -/
structure Tally.Kept (tally : Tally) : Prop where
  nodup : (tally.kept.map (·.tradeId)).Nodup
  adds : tally.kept.length + tally.dropped = tally.total
  bounded : tally.kept.length ≤ evidenceMaxRows

/-- The first trade of a frame: nothing changes where it has a row, and else it is counted and has
the only row that is new. -/
theorem closeTradeOutcome_spec {message : Message} {previous : Evidence}
    {result : LifecycleIntents.OutcomeState × Evidence} (kept : previous.tally.Kept)
    (outcome : closeTradeOutcome reader intent message (tradesOf message) previous = some result) :
    ∃ trade, (closeTrades reader intent message).head? = some trade ∧
      ((previous.tally.has trade.tradeIdStr ∧ result.2.tally = previous.tally)
        ∨ (¬previous.tally.has trade.tradeIdStr ∧ result.2.tally.Kept
          ∧ result.2.tally.total = previous.tally.total + 1
          ∧ ∀ id, result.2.tally.has id → previous.tally.has id ∨ id = trade.tradeIdStr)) := by
  unfold closeTradeOutcome at outcome
  rw [matchingCloseTrade_eq] at outcome
  cases found : (closeTrades reader intent message).head? with
  | none =>
    rw [found] at outcome
    cases outcome
  | some trade =>
    rw [found, Option.map_some, Option.some.injEq] at outcome
    refine ⟨trade, rfl, ?_⟩
    obtain ⟨nodup, adds, bounded⟩ := kept
    have whole : readEvidenceArray previous.trades = (previous.tally.kept, 0) := by
      rw [readEvidenceArray]
      exact Prod.ext (List.take_of_length_le bounded) (Nat.sub_eq_zero_of_le bounded)
    have total : max (readCount previous.tradesTotal)
        (previous.tally.kept.length + (readCount previous.tradesDropped + 0))
        = previous.tally.total := max_eq_left adds.le
    rw [whole] at outcome
    dsimp only at outcome
    rw [total] at outcome
    have known : previous.tally.kept.any (·.tradeId = trade.tradeIdStr) = true
        ↔ previous.tally.has trade.tradeIdStr := by simp [Tally.has]
    by_cases present : previous.tally.kept.any (·.tradeId = trade.tradeIdStr) = true
    · rw [if_pos present] at outcome
      subst outcome
      exact Or.inl ⟨known.1 present, rfl⟩
    · rw [if_neg present] at outcome
      have absent := fun has => present (known.2 has)
      generalize sorts : sortBy (fun left right =>
        compareIntegerStrings left.tradeId right.tradeId)
        (previous.tally.kept ++ [tradeEvidence intent trade]) = sorted at outcome
      have perm : sorted.Perm (previous.tally.kept ++ [tradeEvidence intent trade]) := by
        rw [← sorts]
        exact List.perm_insertionSort _ _
      have length : sorted.length = previous.tally.kept.length + 1 := by
        rw [perm.length_eq, List.length_append, List.length_singleton]
      subst outcome
      refine Or.inr ⟨absent, ⟨?_, ?_, ?_⟩, rfl, ?_⟩
      · have all : (sorted.map (·.tradeId)).Nodup := by
          rw [(perm.map (·.tradeId)).nodup_iff, List.map_append]
          refine List.nodup_append.2 ⟨nodup, List.nodup_singleton _, ?_⟩
          rintro id inside other single rfl
          obtain ⟨row, member, same⟩ := List.mem_map.1 inside
          exact absent ⟨row, member, same.trans (List.mem_singleton.1 single)⟩
        exact ((List.drop_sublist _ _).map _).nodup all
      · show (sorted.drop (sorted.length - evidenceMaxRows)).length
          + (readCount previous.tradesDropped + 0 + (sorted.length - evidenceMaxRows))
          = previous.tally.total + 1
        have before : previous.tally.kept.length + readCount previous.tradesDropped
          = previous.tally.total := adds
        rw [List.length_drop]
        omega
      · show (sorted.drop (sorted.length - evidenceMaxRows)).length ≤ evidenceMaxRows
        rw [List.length_drop]
        omega
      · rintro id ⟨row, member, rfl⟩
        rcases List.mem_append.1 (perm.mem_iff.1 (List.mem_of_mem_drop member)) with before | new
        · exact Or.inl ⟨row, before, rfl⟩
        · obtain rfl := List.mem_singleton.1 new
          exact Or.inr rfl

section Close

variable (isClose : intent.actionType = .closePosition)

include isClose

variable {message : Message}

theorem lifecycleOutcome_tally {previous : Evidence}
    {result : LifecycleIntents.OutcomeState × Evidence}
    (outcome : lifecycleOutcome reader intent previous message = some result) :
    result.2.tally = previous.tally
      ∨ closeTradeOutcome reader intent message (tradesOf message) previous = some result := by
  cases message with
  | orders orders =>
    left
    rw [lifecycleOutcome, lifecycleOrderOutcome,
      if_neg (by rw [isClose]; exact fun same => by cases same), Option.bind_eq_some_iff] at outcome
    obtain ⟨marketIndex, -, outcome⟩ := outcome
    rw [Option.bind_eq_some_iff] at outcome
    obtain ⟨order, -, outcome⟩ := outcome
    rw [isClose] at outcome
    dsimp only at outcome
    split_ifs at outcome
    obtain rfl := Option.some.inj outcome
    rfl
  | trades subscribed trades =>
    right
    rw [lifecycleOutcome, if_neg (not_not_intro isClose)] at outcome
    exact outcome
  | positions subscribed positions =>
    left
    rw [lifecycleOutcome, if_neg (not_not_intro isClose), Option.bind_eq_some_iff] at outcome
    obtain ⟨marketIndex, -, outcome⟩ := outcome
    rw [Option.map_eq_some_iff] at outcome
    obtain ⟨position, -, rfl⟩ := outcome
    rfl

variable {watched : Watched}

/-- A frame that reaches a close: its tally stays, where the intent is completed or the frame's
first trade has a row or there is none; or the first trade is counted. -/
theorem receive_tally {next : Watched} (kept : watched.tally.Kept)
    (received : watched.receive reader intent message = some next) :
    (next.tally = watched.tally ∧ (isWatchable watched.state = false
        ∨ ∀ trade, (closeTrades reader intent message).head? = some trade →
            watched.tally.has trade.tradeIdStr))
    ∨ ∃ trade, isWatchable watched.state = true
        ∧ (closeTrades reader intent message).head? = some trade
        ∧ ¬watched.tally.has trade.tradeIdStr ∧ next.tally.Kept
        ∧ next.tally.total = watched.tally.total + 1
        ∧ ∀ id, next.tally.has id → watched.tally.has id ∨ id = trade.tradeIdStr := by
  unfold Watched.receive at received
  by_cases closed : isWatchable watched.state = false
  · rw [if_pos closed] at received
    obtain rfl := Option.some.inj received
    exact Or.inl ⟨rfl, Or.inl closed⟩
  · rw [if_neg closed] at received
    cases outcome : lifecycleOutcome reader intent (previousLifecycleEvidence watched.outcome)
      message with
    | none =>
      rw [outcome] at received
      obtain rfl := Option.some.inj received
      refine Or.inl ⟨rfl, Or.inr fun trade first => ?_⟩
      -- a frame with a trade of the close has an outcome
      cases message with
      | orders orders => cases first
      | positions subscribed positions => cases first
      | trades subscribed trades =>
        rw [lifecycleOutcome, if_neg (not_not_intro isClose), closeTradeOutcome,
          Option.map_eq_none_iff] at outcome
        rw [← matchingCloseTrade_eq] at first
        exact absurd (outcome.symm.trans first) (fun same => by cases same)
    | some result =>
      rw [outcome] at received
      have stored : next.tally = result.2.tally := by
        dsimp only at received
        split_ifs at received with same
        · obtain rfl := Option.some.inj received
          rw [Watched.tally, same.1]
          rfl
        · obtain rfl := Option.some.inj received
          rfl
      rw [stored]
      rcases lifecycleOutcome_tally isClose outcome with unchanged | counted
      · refine Or.inl ⟨unchanged, Or.inr fun trade first => ?_⟩
        cases message with
        | orders orders => cases first
        | positions subscribed positions => cases first
        | trades subscribed trades =>
          rw [lifecycleOutcome, if_neg (not_not_intro isClose)] at outcome
          obtain ⟨other, first', cases'⟩ := closeTradeOutcome_spec kept outcome
          obtain rfl := Option.some.inj (first.symm.trans first')
          rcases cases' with ⟨has, -⟩ | ⟨-, -, more, -⟩
          · exact has
          · rw [unchanged] at more
            exact absurd more (Nat.ne_of_lt (Nat.lt_succ_self _))
      · obtain ⟨trade, first, ⟨has, same⟩ | ⟨absent, keeps, more, only⟩⟩ :=
          closeTradeOutcome_spec kept counted
        · refine Or.inl ⟨same, Or.inr fun other first' => ?_⟩
          obtain rfl := Option.some.inj (first.symm.trans first')
          exact has
        · exact Or.inr ⟨trade, by simpa using closed, first, absent, keeps, more, only⟩

/-! ## Runs -/

/-- What holds of a close after any frames. -/
structure Keeps (reader : Reader) (intent : Intent) (followed : Followed) : Prop where
  kept : followed.watched.tally.Kept
  observed : ∀ id, followed.watched.tally.has id → id ∈ observedTrades reader intent followed.taken

omit isClose in
theorem Keeps.fresh (fresh : watched.Fresh) : Keeps reader intent ⟨watched, []⟩ := by
  have none' : watched.tally = ⟨[], 0, 0⟩ := by
    rw [Watched.tally, fresh.unseen]
    rfl
  refine ⟨?_, ?_⟩
  · show watched.tally.Kept
    rw [none']
    exact ⟨List.nodup_nil, rfl, Nat.zero_le _⟩
  · intro id has
    rw [show (Followed.mk watched []).watched.tally = _ from none'] at has
    obtain ⟨row, member, -⟩ := has
    cases member

variable {followed : Followed}

theorem Keeps.step (keeps : Keeps reader intent followed) (message : Message) :
    Keeps reader intent (followed.step reader intent message) := by
  unfold Followed.step
  cases received : followed.watched.receive reader intent message with
  | none => exact keeps
  | some next =>
    have earlier : ∀ id ∈ observedTrades reader intent followed.taken,
        id ∈ observedTrades reader intent (followed.taken ++ [message]) := by
      intro id member
      rw [observedTrades_concat]
      exact Finset.mem_union_left _ member
    rcases receive_tally isClose keeps.kept received with
      ⟨same, -⟩ | ⟨trade, -, first, -, kept, -, only⟩
    · refine ⟨?_, ?_⟩
      · show next.tally.Kept
        rw [same]
        exact keeps.kept
      · intro id has
        rw [show (Followed.mk next _).watched.tally = _ from same] at has
        exact earlier id (keeps.observed id has)
    · refine ⟨kept, fun id has => ?_⟩
      rcases only id has with before | rfl
      · exact earlier id (keeps.observed id before)
      · exact mem_observedTrades.2 ⟨message, List.mem_append_right _ (List.mem_singleton.2 rfl),
          trade, List.mem_of_head? first, rfl⟩

/-- The total is the number of distinct trades observed. -/
def Counts (reader : Reader) (intent : Intent) (followed : Followed) : Prop :=
  followed.watched.tally.total = (observedTrades reader intent followed.taken).card

omit isClose in
/-- A frame tells at most one trade that was not observed before, tells it first and while the
intent is open; and a first trade that was observed before still has its row. -/
structure TellsOneTrade (reader : Reader) (intent : Intent) (followed : Followed)
    (message : Message) : Prop where
  new : ∀ trade ∈ closeTrades reader intent message,
    trade.tradeIdStr ∈ observedTrades reader intent followed.taken
      ∨ isWatchable followed.watched.state = true
        ∧ (closeTrades reader intent message).head?.map (·.tradeIdStr) = some trade.tradeIdStr
  known : isWatchable followed.watched.state = true →
    ∀ trade ∈ (closeTrades reader intent message).head?,
      trade.tradeIdStr ∈ observedTrades reader intent followed.taken →
        followed.watched.tally.has trade.tradeIdStr

theorem Counts.step (keeps : Keeps reader intent followed) (counts : Counts reader intent followed)
    (tells : TellsOneTrade reader intent followed message) :
    Counts reader intent (followed.step reader intent message) := by
  unfold Followed.step
  cases received : followed.watched.receive reader intent message with
  | none => exact counts
  | some next =>
    show next.tally.total = (observedTrades reader intent (followed.taken ++ [message])).card
    rw [observedTrades_concat]
    rcases receive_tally isClose keeps.kept received with
      ⟨same, nothing⟩ | ⟨trade, isOpen, first, absent, -, more, -⟩
    · have old : ((closeTrades reader intent message).map (·.tradeIdStr)).toFinset
          ⊆ observedTrades reader intent followed.taken := by
        intro id member
        obtain ⟨trade, told, rfl⟩ := List.mem_map.1 (List.mem_toFinset.1 member)
        rcases tells.new trade told with before | ⟨isOpen, first⟩
        · exact before
        · rcases nothing with closed | has
          · rw [isOpen] at closed
            cases closed
          · obtain ⟨head, isHead, sameId⟩ := Option.map_eq_some_iff.1 first
            rw [← sameId]
            exact keeps.observed _ (has head isHead)
      rw [Finset.union_eq_left.2 old, same]
      exact counts
    · have fresh : trade.tradeIdStr ∉ observedTrades reader intent followed.taken :=
        fun before => absent (tells.known isOpen trade first before)
      have added : observedTrades reader intent followed.taken
            ∪ ((closeTrades reader intent message).map (·.tradeIdStr)).toFinset
          = insert trade.tradeIdStr (observedTrades reader intent followed.taken) := by
        ext id
        rw [Finset.mem_union, Finset.mem_insert, List.mem_toFinset, List.mem_map]
        constructor
        · rintro (before | ⟨told, member, rfl⟩)
          · exact Or.inr before
          · rcases tells.new told member with before | ⟨-, isFirst⟩
            · exact Or.inr before
            · rw [first, Option.map_some, Option.some.injEq] at isFirst
              exact Or.inl isFirst.symm
        · rintro (rfl | before)
          · exact Or.inr ⟨trade, List.mem_of_head? first, rfl⟩
          · exact Or.inl before
      rw [added, Finset.card_insert_of_notMem fresh, more]
      exact congrArg (· + 1) counts

end Close

/-- Along frames that each tell one trade, the total recorded for a close is the number of distinct
trades observed. Whatever the frames, no trade is kept twice, and the rows kept and left out add up
to the total. -/
theorem closeTrades_counted (isClose : intent.actionType = .closePosition) {start : Watched}
    (fresh : start.Fresh) (messages : List Message)
    (tells : Along (Followed.step reader intent) (TellsOneTrade reader intent) ⟨start, []⟩ messages) :
    (follow reader intent start messages).watched.tally.total
        = (observedTrades reader intent (follow reader intent start messages).taken).card
      ∧ ((follow reader intent start messages).watched.tally.kept.map (·.tradeId)).Nodup
      ∧ (follow reader intent start messages).watched.tally.kept.length
          + (follow reader intent start messages).watched.tally.dropped
          = (follow reader intent start messages).watched.tally.total := by
  have both : Keeps reader intent (follow reader intent start messages)
      ∧ Counts reader intent (follow reader intent start messages) := by
    refine Along.induction (motive := fun followed =>
      Keeps reader intent followed ∧ Counts reader intent followed) ?_ ?_ tells
    · rintro followed message tells ⟨keeps, counts⟩
      exact ⟨keeps.step isClose message, counts.step isClose keeps tells⟩
    · refine ⟨Keeps.fresh fresh, ?_⟩
      show start.tally.total = _
      rw [Watched.tally, fresh.unseen]
      rfl
  exact ⟨both.2, both.1.kept.nodup, both.1.kept.adds⟩

/-! ## Two trades in one frame -/

/-- A trade of account 42 that buys in market 0 under the client id b. -/
def closingTrade (tradeId : IntegerString) : Trade where
  tradeIdStr := tradeId
  txHash := "0xtrade"
  marketId := 0
  size := "1"
  price := "50"
  askIdStr := ⟨"1", by decide⟩
  bidIdStr := ⟨"2", by decide⟩
  askAccountId := 43
  bidAccountId := 42
  askClientIdStr := none
  bidClientIdStr := some ⟨"7", by decide⟩

/-- The approval to close a short of account 42 in market 0 by an order of client id 7. -/
def closeOf : Intent where
  actionType := .closePosition
  accountIndex := 42
  marketIndex := some 0
  providerOrderId := none
  matchHash := "7"
  requestedSide := some .buy
  requestedBaseAmountInteger := none
  requestedPriceInteger := none
  approvedCancelAllTargets := []
  initialPosition := some "2"
  initialSign := some (-1)
  marketSizeDecimals := some 0
  marketPriceDecimals := some 0

/-- Two trades that close the position, each in a frame of its own. -/
def apartTrades : List Message :=
  [.trades false (.list [closingTrade ⟨"11", by decide⟩]),
    .trades false (.list [closingTrade ⟨"12", by decide⟩])]

def togetherTrades : List Message :=
  [.trades false (.list [closingTrade ⟨"11", by decide⟩, closingTrade ⟨"12", by decide⟩])]

theorem closeTrades_counted_two :
    (follow plainReader closeOf ⟨.apiAccepted, none⟩ apartTrades).watched.tally.total
      = (observedTrades plainReader closeOf
          (follow plainReader closeOf ⟨.apiAccepted, none⟩ apartTrades).taken).card := by
  refine (closeTrades_counted rfl ⟨rfl, rfl⟩ apartTrades ?_).1
  refine ⟨⟨?_, ?_⟩, ⟨?_, ?_⟩, trivial⟩
  all_goals decide

/-- The first of two trades in one frame is counted, the second is not read. -/
theorem second_trade_missed :
    (follow plainReader closeOf ⟨.apiAccepted, none⟩ togetherTrades).watched.tally.total = 1
      ∧ (follow plainReader closeOf ⟨.apiAccepted, none⟩ togetherTrades).taken = togetherTrades
      ∧ (observedTrades plainReader closeOf togetherTrades).card = 2 := by
  decide

end Vex.Lighter.StreamEvidence
