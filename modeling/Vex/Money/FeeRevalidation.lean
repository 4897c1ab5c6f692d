import Vex.Money.FeeStatements

/-!
# The fee that is signed is the fee that was approved

`toVexFeePreview` projects a venue's disclosure onto a statement, the recorder
writes it into a row, and `revalidateVexFeeStatement` compares the statement of
the row with one derived before the signature. A statement that is accepted
moves the same figures (`revalidate_ok`); the token is not among the fields that
are compared, so it is the one approved unless two disclosures differ in nothing
else (`signed_fee_is_approved_iff`).
-/

namespace Vex.Money

open Vex.Library Vex.Library.Json

/-! ## The projection and the row -/

/-- `VEX_FEE_COLLECTION_BY_QUOTE_TOOL`. -/
def collectionByQuoteTool : List (JsString × Collection) := [
  ("kyberswap.swap.quote", .insideRoute),
  ("uniswap.swap.quote", .separateTransferAfterSuccess),
  ("relay.quote.get", .separateTransferAfterSuccess),
  ("khalani.quote.get", .separateTransferAfterSuccess)]

/-- The block the schema is asked about. -/
def candidate (collection : Collection) (source : Value) : Value :=
  let netAmountRaw := orElse (orElse (read "bridgedAmountRaw" source) (read "swappedAmountRaw" source))
    (read "netAmountRaw" source)
  if isCharged source then .object [
      ("v", .string previewVersion), ("charged", .bool true), ("bps", read "bps" source),
      ("chargedOn", read "chargedOn" source), ("tokenAddress", read "tokenAddress" source),
      ("tokenSymbol", orElse (read "tokenSymbol" source) .null),
      ("tokenDecimals", orElse (read "tokenDecimals" source) .null),
      ("feeAmountRaw", read "feeAmountRaw" source),
      ("feeAmountDecimal", orElse (read "feeAmountDecimal" source) .null),
      ("receiver", read "receiver" source), ("totalDebitedRaw", read "totalDebitedRaw" source),
      ("netAmountRaw", netAmountRaw), ("collection", .string collection.text)]
  else .object [
    ("v", .string previewVersion), ("charged", read "charged" source), ("bps", read "bps" source),
    ("reason", read "reason" source), ("totalDebitedRaw", read "totalDebitedRaw" source),
    ("netAmountRaw", netAmountRaw), ("collection", .string collection.text)]

/-- `toVexFeePreview`; an array has none of the members, and fails like any other value. -/
def toVexFeePreview (quoteToolId : JsString) (value : Value) : Option Value :=
  (collectionByQuoteTool.lookup quoteToolId).bind fun collection =>
    parsePreview (candidate collection value)

/-- `vexFeeFromSafetyDetail`. -/
def vexFeeFromSafetyDetail (safetyDetail : Value) : Option Value :=
  parsePreview (read "vexFee" safetyDetail)

/-- `withVexFee`, `none` where the row is skipped. -/
def withVexFee (quoteToolId : JsString) (safetyDetail : List (JsString × Value)) (vexFee : Value) :
    Option (List (JsString × Value)) :=
  if (collectionByQuoteTool.lookup quoteToolId).isNone then some safetyDetail
  else (toVexFeePreview quoteToolId vexFee).map fun parsed => spread "vexFee" parsed safetyDetail

/-- A JSONB column: it refuses a value, or gives back an equal one. -/
structure JsonbColumn where
  store : Value → Option Value
  same : ∀ {value row}, store value = some row → Json.Same value row

/-- The safety block of the row that is recorded for a quote. -/
def recorded (column : JsonbColumn) (quoteToolId : JsString)
    (safetyDetail : List (JsString × Value)) (vexFee : Value) : Option Value :=
  (withVexFee quoteToolId safetyDetail vexFee).bind fun detail => column.store (.object detail)

/-! ## The comparison -/

/-- The keys of `BOUND_FIELDS`. -/
inductive BoundField where
  | charged | bps | feeAmountRaw | receiver | netAmountRaw | totalDebitedRaw
  deriving DecidableEq

/-- `BOUND_FIELDS`. -/
def BoundField.text : BoundField → String
  | .charged => "whether a Vex fee is taken at all"
  | .bps => "the Vex fee rate"
  | .feeAmountRaw => "the Vex fee amount"
  | .receiver => "the address the fee is paid to"
  | .netAmountRaw => "the amount actually sent to the venue"
  | .totalDebitedRaw => "the total amount debited from the wallet"

/-- `VexFeeRevalidationReason`. -/
inductive RevalidationReason where
  | statementMissing | statementUnderivable | statementChanged
  deriving DecidableEq

/-- A verdict that refuses. -/
structure Refusal where
  reason : RevalidationReason
  movedFields : List BoundField
  summary : String
  deriving DecidableEq

/-- `EVM_ADDRESS`. -/
def isEvmAddress (value : JsString) : Bool :=
  value.take 2 = [48, 120] && value.length = 42 && (value.drop 2).all JsString.isHexDigit

/-- `sameAmount`. -/
def sameAmount (a b : JsString) : Bool :=
  JsString.isDecimal a && JsString.isDecimal b && JsString.decimalValue a == JsString.decimalValue b

/-- `sameAddress`; an address is ASCII, so its letters are lowered one by one. -/
def sameAddress (a b : JsString) : Bool :=
  a == b || isEvmAddress a && isEvmAddress b && a.map JsString.lowerAscii == b.map JsString.lowerAscii

/-- `bps` of a statement. -/
def bpsOf (block : Value) : ℚ :=
  match read "bps" block with
  | .number value => value
  | _ => 0

/-- A field that moved. -/
def moved (field : BoundField) (same : Bool) : List BoundField := if same then [] else [field]

/-- `movedFields`. -/
def movedFields (approved fresh : Value) : List BoundField :=
  moved .charged (isCharged approved == isCharged fresh) ++ moved .bps (bpsOf approved == bpsOf fresh) ++
    (if isCharged approved && isCharged fresh then
      moved .feeAmountRaw (sameAmount (textOf "feeAmountRaw" approved) (textOf "feeAmountRaw" fresh)) ++
        moved .receiver (sameAddress (textOf "receiver" approved) (textOf "receiver" fresh))
    else []) ++
    moved .netAmountRaw (sameAmount (textOf "netAmountRaw" approved) (textOf "netAmountRaw" fresh)) ++
    moved .totalDebitedRaw
      (sameAmount (textOf "totalDebitedRaw" approved) (textOf "totalDebitedRaw" fresh))

/-- `revalidateVexFeeStatement`. -/
def revalidateVexFeeStatement : Option Value → Option Value → Except Refusal Unit
  | none, _ => .error ⟨.statementMissing, [], "the approved quote states no Vex fee at all"⟩
  | some _, none => .error ⟨.statementUnderivable, [],
      "this execution cannot state its own Vex fee in the form the approved quote used"⟩
  | some approved, some fresh =>
    match movedFields approved fresh with
    | [] => .ok ()
    | moved => .error ⟨.statementChanged, moved, ", ".intercalate (moved.map BoundField.text)⟩

/-! ## What is accepted -/

/-- One address, in two spellings at most. -/
def SameAddress (a b : JsString) : Prop :=
  a = b ∨ isEvmAddress a = true ∧ isEvmAddress b = true ∧
    a.map JsString.lowerAscii = b.map JsString.lowerAscii

/-- A member of two statements that charge is one address. -/
def SameParty (key : JsString) (approved fresh : Value) : Prop :=
  isCharged approved = true → SameAddress (textOf key approved) (textOf key fresh)

/-- The figures and the receiver of two statements are the same. -/
structure SameFigures (approved fresh : Value) : Prop where
  charged : isCharged approved = isCharged fresh
  bps : bpsOf approved = bpsOf fresh
  fee : feeOf approved = feeOf fresh
  receiver : SameParty "receiver" approved fresh
  net : amountOf "netAmountRaw" approved = amountOf "netAmountRaw" fresh
  total : amountOf "totalDebitedRaw" approved = amountOf "totalDebitedRaw" fresh

theorem moved_eq_nil {field : BoundField} {same : Bool} : moved field same = [] ↔ same = true := by
  cases same <;> simp [moved]

theorem sameAmount_iff {a b : JsString} (digits : JsString.isDecimal a = true)
    (digits' : JsString.isDecimal b = true) :
    sameAmount a b = true ↔ JsString.decimalValue a = JsString.decimalValue b := by
  simp [sameAmount, digits, digits']

theorem sameAddress_iff (a b : JsString) : sameAddress a b = true ↔ SameAddress a b := by
  simp [sameAddress, SameAddress, and_assoc]

section
variable {approved fresh : Value} (valid : Valid approved) (valid' : Valid fresh)
include valid valid'

theorem movedFields_eq_nil : movedFields approved fresh = [] ↔ SameFigures approved fresh := by
  simp only [movedFields, List.append_eq_nil_iff, moved_eq_nil, beq_iff_eq,
    sameAmount_iff valid.net valid'.net, sameAmount_iff valid.total valid'.total]
  constructor
  · rintro ⟨⟨⟨⟨charged, bps⟩, charges⟩, net⟩, total⟩
    cases own : isCharged approved with
    | false =>
      exact ⟨charged, bps, by simp [feeOf, ← charged, own], fun charges => by simp [own] at charges,
        net, total⟩
    | true =>
      have own' := charged.symm.trans own
      rw [own, own', Bool.and_self, if_pos rfl, List.append_eq_nil_iff, moved_eq_nil, moved_eq_nil,
        sameAmount_iff (valid.fee own) (valid'.fee own'), sameAddress_iff] at charges
      exact ⟨charged, bps, by simpa [feeOf, amountOf, own, own'] using charges.1, fun _ => charges.2, net, total⟩
  · rintro ⟨charged, bps, fee, receiver, net, total⟩
    refine ⟨⟨⟨⟨charged, bps⟩, ?_⟩, net⟩, total⟩
    split_ifs with both
    · obtain ⟨own, own'⟩ := Bool.and_eq_true_iff.1 both
      rw [List.append_eq_nil_iff, moved_eq_nil, moved_eq_nil,
        sameAmount_iff (valid.fee own) (valid'.fee own'), sameAddress_iff]
      exact ⟨by simpa [feeOf, amountOf, own, own'] using fee, receiver own⟩
    · rfl

theorem revalidate_ok :
    revalidateVexFeeStatement (some approved) (some fresh) = .ok () ↔ SameFigures approved fresh := by
  rw [revalidateVexFeeStatement, ← movedFields_eq_nil valid valid']
  cases movedFields approved fresh <;> simp
end

theorem some_of_revalidate {approved fresh : Option Value}
    (accepted : revalidateVexFeeStatement approved fresh = .ok ()) :
    ∃ a b, approved = some a ∧ fresh = some b := by
  cases approved with
  | none => cases accepted
  | some a =>
    cases fresh with
    | none => cases accepted
    | some b => exact ⟨a, b, rfl, rfl⟩

/-- A projected statement is collected when the quote tool's venue collects. -/
theorem collection_of_tool {tool : JsString} {value block : Value}
    (projected : toVexFeePreview tool value = some block) :
    (collectionByQuoteTool.lookup tool).map Collection.text = some (textOf "collection" block) := by
  obtain ⟨collection, found, parsed⟩ := Option.bind_eq_some_iff.1 projected
  obtain ⟨arm, armed, passed⟩ := Option.bind_eq_some_iff.1 parsed
  split_ifs at passed
  have named : ("collection" : JsString) ∈ arm.map Prod.fst := by
    rcases armOf_cases armed with ⟨rfl, -⟩ | ⟨rfl, -⟩ <;> decide
  have written : read "collection" (candidate collection value) = .string collection.text := by
    rw [candidate]
    split_ifs <;> rfl
  rw [found, Option.map_some, ← Option.some.inj passed, textOf, Shape.read_kept named, written]

/-- A statement that was recorded is read back. -/
theorem read_recorded {column : JsonbColumn} {tool : JsString} {detail : List (JsString × Value)}
    {quoted row block : Value} (stored : recorded column tool detail quoted = some row)
    (projected : toVexFeePreview tool quoted = some block) :
    vexFeeFromSafetyDetail row = some block := by
  obtain ⟨collection, found, parsed⟩ := Option.bind_eq_some_iff.1 projected
  obtain ⟨members, folded, kept⟩ := Option.bind_eq_some_iff.1 stored
  rw [withVexFee, found, projected] at folded
  obtain rfl := Option.some.inj folded
  have same := read_same "vexFee" (column.same kept)
  change Json.Same (get (spread "vexFee" block detail) "vexFee") _ at same
  rw [get_spread] at same
  exact parsePreview_same same (parsePreview_parsed parsed)

/-! ## The fee that is signed -/

/-- Two statements move the same money, and the parts of it add up. -/
structure SameMovement (approved fresh : Value) : Prop where
  token : SameParty "tokenAddress" approved fresh
  fee : feeOf approved = feeOf fresh
  net : amountOf "netAmountRaw" approved = amountOf "netAmountRaw" fresh
  total : amountOf "totalDebitedRaw" approved = amountOf "totalDebitedRaw" fresh
  receiver : SameParty "receiver" approved fresh
  collection : textOf "collection" approved = textOf "collection" fresh
  whole : feeOf approved + amountOf "netAmountRaw" approved = amountOf "totalDebitedRaw" approved

/-- Two statements of one movement and one rate: they differ in spelling only. -/
structure SpelledApart (approved fresh : Value) : Prop where
  movement : SameMovement approved fresh
  charged : isCharged approved = isCharged fresh
  bps : bpsOf approved = bpsOf fresh

/-- What is accepted for a recorded quote moves the money that was approved, another
spelling is accepted, and the row restores the statement of the quote. -/
structure FeeHeld (column : JsonbColumn) (tool : JsString) (detail : List (JsString × Value))
    (quoted derived : Value) : Prop where
  signed : ∀ row, recorded column tool detail quoted = some row →
    revalidateVexFeeStatement (vexFeeFromSafetyDetail row) (toVexFeePreview tool derived) = .ok () →
      ∃ approved fresh, vexFeeFromSafetyDetail row = some approved ∧
        toVexFeePreview tool derived = some fresh ∧ SameMovement approved fresh
  spelling : ∀ own other approved fresh, parsePreview own = some approved →
    parsePreview other = some fresh → SpelledApart approved fresh →
      revalidateVexFeeStatement (some approved) (some fresh) = .ok ()
  restored : ∀ row statement, recorded column tool detail quoted = some row →
    toVexFeePreview tool quoted = some statement → vexFeeFromSafetyDetail row = some statement

theorem signed_fee_is_approved_iff (column : JsonbColumn) (tool : JsString)
    (detail : List (JsString × Value)) (quoted derived : Value) :
    FeeHeld column tool detail quoted derived ↔ ¬ ((recorded column tool detail quoted).isSome ∧
        ∃ approved fresh, toVexFeePreview tool quoted = some approved ∧
          toVexFeePreview tool derived = some fresh ∧ SameFigures approved fresh ∧
            ¬ SameParty "tokenAddress" approved fresh) := by
  have valid {value block : Value} (projected : toVexFeePreview tool value = some block) :
      Valid block := by
    obtain ⟨_, _, parsed⟩ := Option.bind_eq_some_iff.1 projected
    exact valid_of_parse parsed
  constructor
  · rintro held ⟨stored, approved, fresh, projected, derives, figures, other⟩
    obtain ⟨row, kept⟩ := Option.isSome_iff_exists.1 stored
    have restored := held.restored row approved kept projected
    obtain ⟨a, b, first, second, movement⟩ := held.signed row kept (by
      rw [restored, derives]
      exact (revalidate_ok (valid projected) (valid derives)).2 figures)
    obtain rfl := Option.some.inj (first.symm.trans restored)
    obtain rfl := Option.some.inj (second.symm.trans derives)
    exact other movement.token
  · intro sole
    refine ⟨fun row kept accepted => ?_, fun own other approved fresh parsed parsed' apart => ?_,
      fun row statement kept projected => read_recorded kept projected⟩
    · obtain ⟨approved, fresh, reads, derives⟩ := some_of_revalidate accepted
      obtain ⟨collection, found, -⟩ := Option.bind_eq_some_iff.1 derives
      obtain ⟨members, folded, -⟩ := Option.bind_eq_some_iff.1 kept
      rw [withVexFee, found, if_neg (by simp), Option.map_eq_some_iff] at folded
      obtain ⟨statement, projected, -⟩ := folded
      obtain rfl := Option.some.inj ((read_recorded kept projected).symm.trans reads)
      rw [reads, derives, revalidate_ok (valid projected) (valid derives)] at accepted
      refine ⟨statement, fresh, reads, derives, ?_, accepted.fee, accepted.net, accepted.total,
        accepted.receiver, ?_, (valid projected).sum⟩
      · by_contra other
        exact sole ⟨by rw [kept]; rfl, statement, fresh, projected, derives, accepted, other⟩
      · exact Option.some.inj ((collection_of_tool projected).symm.trans (collection_of_tool derives))
    · obtain ⟨same, charged, bps⟩ := apart
      exact (revalidate_ok (valid_of_parse parsed) (valid_of_parse parsed')).2
        ⟨charged, bps, same.fee, same.receiver, same.net, same.total⟩

/-! ## A fee of another token -/

/-- The statement of a fee of 25 in 10000 of a token. -/
def quarterPercent (token : JsString) : Value := .object [
  ("v", .string previewVersion), ("charged", .bool true), ("bps", .number 25),
  ("chargedOn", .string "currency_in"), ("tokenAddress", .string token), ("tokenSymbol", .null),
  ("tokenDecimals", .null), ("feeAmountRaw", .string "25"), ("feeAmountDecimal", .null),
  ("receiver", .string "0x1111111111111111111111111111111111111111"),
  ("totalDebitedRaw", .string "10000"), ("netAmountRaw", .string "9975"),
  ("collection", .string "separate_transfer_after_success")]

/-- A column that keeps blocks of one member, whose own members are scalars. -/
def flatColumn : JsonbColumn where
  store
    | .object [(key, .object members)] =>
      if (keys members).Nodup ∧ members.all (·.2.isScalar) then
        some (.object [(key, .object members)])
      else none
    | _ => none
  same := by
    intro value row stored
    split at stored
    · split_ifs at stored with flat
      obtain rfl := Option.some.inj stored
      refine .object (List.Perm.refl _) fun key value other one two => ?_
      obtain ⟨rfl, rfl⟩ := Prod.mk.inj (List.mem_singleton.1 one)
      obtain rfl := (Prod.mk.inj (List.mem_singleton.1 two)).2
      refine .object (List.Perm.refl _) fun key value other one two => ?_
      obtain rfl := value_unique flat.1 one two
      exact .scalar (List.all_eq_true.1 flat.2 _ one)
    · cases stored

/-- Of two disclosures of one fee in two tokens, one is approved and the other signed. -/
theorem other_token_is_signed : ¬ FeeHeld flatColumn "uniswap.swap.quote" []
    (quarterPercent "0xaaaa") (quarterPercent "0xbbbb") := by
  intro held
  have approves : toVexFeePreview "uniswap.swap.quote" (quarterPercent "0xaaaa") =
    some (quarterPercent "0xaaaa") := rfl
  have derives : toVexFeePreview "uniswap.swap.quote" (quarterPercent "0xbbbb") =
    some (quarterPercent "0xbbbb") := rfl
  have stored : recorded flatColumn "uniswap.swap.quote" [] (quarterPercent "0xaaaa") =
      some (.object [("vexFee", quarterPercent "0xaaaa")]) := by
    rw [recorded, withVexFee, approves]
    rfl
  have reads := read_recorded stored approves
  obtain ⟨approved, fresh, first, second, movement⟩ := held.signed _ stored (by
    rw [reads, derives]
    rfl)
  obtain rfl := Option.some.inj (reads.symm.trans first)
  obtain rfl := Option.some.inj (derives.symm.trans second)
  exact absurd ((sameAddress_iff _ _).2 (movement.token rfl)) (by decide)

end Vex.Money
