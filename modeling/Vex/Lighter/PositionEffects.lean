import Mathlib
import Vex.Lighter.FillRecords

/-!
# What a fill did to a position

A position moves from one signed size to another, and the two sizes say what
happened (`transition`): nothing held before is opened, nothing held after is
closed, a crossing of zero is a flip, and otherwise the position grew or shrank.
The comparison needs an order and a zero and nothing of decimal strings.

`classifyLighterPositionEffect` brings both strings to one scale and compares
integers. Whatever their scales and signs, it names the transition of the exact
numbers wherever the provider's flag agrees with it, and nothing otherwise
(`classifyPositionEffect_eq`).
-/

namespace Vex.Lighter.Fills

open Vex.Library

/-! ## Transitions of a signed size -/

section Transition

variable {R : Type*} [LinearOrder R] [Zero R]

/-- What moving a position from one size to another is; nothing where it does not move. -/
def transition (before after : R) : Option PositionEffect :=
  if after = before then none
  else if before = 0 then some .open
  else if after = 0 then some .close
  else if (0 < before ∧ before < after) ∨ (after < before ∧ before < 0) then some .increase
  else if (0 < after ∧ after < before) ∨ (before < after ∧ after < 0) then some .reduce
  else some .flip

theorem transition_map {Q : Type*} [LinearOrder Q] [Zero Q] {f : R → Q} (strict : StrictMono f)
    (zero : f 0 = 0) (before after : R) : transition (f before) (f after) = transition before after := by
  have positive : ∀ size, 0 < f size ↔ 0 < size := fun size => by
    rw [← zero]
    exact strict.lt_iff_lt
  have negative : ∀ size, f size < 0 ↔ size < 0 := fun size => by
    rw [← zero]
    exact strict.lt_iff_lt
  have none' : ∀ size, f size = 0 ↔ size = 0 := fun size => by
    rw [← zero]
    exact strict.injective.eq_iff
  unfold transition
  simp only [positive, negative, none', strict.lt_iff_lt, strict.injective.eq_iff]

end Transition

/-- The provider says the sign changed where the position goes to zero or through it. -/
def PositionEffect.agrees (signChanged : Bool) : PositionEffect → Bool
  | .open => true
  | .increase | .reduce => !signChanged
  | .close | .flip => signChanged
  | .unknown => false

/-- An effect is reported where it is one and the provider's flag agrees with it. -/
def reported (signChanged : Bool) (effect : Option PositionEffect) : PositionEffect :=
  match effect.filter (PositionEffect.agrees signChanged) with
  | some effect => effect
  | none => .unknown

@[simp] theorem reported_none (signChanged : Bool) : reported signChanged none = .unknown := rfl

/-! ## The classification -/

def signedNumber (value : JsString) : Option ℚ :=
  (parseSignedDecimal value).map fun (units, decimals) => units / 10 ^ decimals

def sizeAfter {R : Type*} [Add R] [Sub R] (side : Side) (before fill : R) : R :=
  match side with
  | .buy => before + fill
  | .sell => before - fill

theorem rescale_cast (units : Int) {decimals scale : Nat} (finer : decimals ≤ scale) :
    ((units * 10 ^ (scale - decimals) : Int) : ℚ) = units / 10 ^ decimals * 10 ^ scale := by
  obtain ⟨more, rfl⟩ := Nat.exists_eq_add_of_le finer
  rw [Nat.add_sub_cancel_left, pow_add]
  push_cast
  field_simp

theorem classify_units (signChanged : Bool) (side : Side) (before fill : Int) : (if before = 0 then
        if (if side = .buy then fill else -fill) = 0 then PositionEffect.unknown else .open
      else if (if side = .buy then fill else -fill) = 0 then .unknown
      else if (0 < before) = (0 < if side = .buy then fill else -fill) then
        if signChanged then .unknown else .increase
      else if (if side = .buy then fill else -fill).natAbs < before.natAbs then
        if signChanged then .unknown else .reduce
      else if (if side = .buy then fill else -fill).natAbs = before.natAbs then
        if signChanged then .close else .unknown
      else if signChanged then .flip else .unknown)
    = reported signChanged (transition before (sizeAfter side before fill)) := by
  have signed : ∃ delta, (if side = .buy then fill else -fill) = delta
      ∧ sizeAfter side before fill = before + delta := by
    cases side with
    | buy => exact ⟨fill, rfl, rfl⟩
    | sell => exact ⟨-fill, rfl, Int.sub_eq_add_neg⟩
  obtain ⟨delta, same, moved⟩ := signed
  rw [same, moved]
  clear same moved
  have effect : ∀ {k : PositionEffect}, transition before (before + delta) = some k →
      reported signChanged (transition before (before + delta))
        = if k.agrees signChanged then k else .unknown := by
    intro k is
    rw [is, reported, Option.filter_some]
    split_ifs <;> rfl
  by_cases still : delta = 0
  · have nothing : transition before (before + delta) = none := if_pos (by omega)
    rw [nothing, reported_none, if_pos still, if_pos still, ite_self]
  have moves : ¬before + delta = before := by omega
  rw [if_neg still, if_neg still]
  by_cases flat : before = 0
  · rw [if_pos flat, effect (k := .open) (by rw [transition, if_neg moves, if_pos flat])]
    rfl
  rw [if_neg flat]
  by_cases along : (0 < before) = (0 < delta)
  · have signs := eq_iff_iff.1 along
    have grows : (0 < before ∧ before < before + delta)
        ∨ (before + delta < before ∧ before < 0) := by omega
    rw [if_pos along, effect (k := .increase) (by
      rw [transition, if_neg moves, if_neg flat, if_neg (by omega), if_pos grows])]
    cases signChanged <;> rfl
  have signs : ¬(0 < before ↔ 0 < delta) := fun same => along (propext same)
  have against : ¬((0 < before ∧ before < before + delta)
      ∨ (before + delta < before ∧ before < 0)) := by omega
  rw [if_neg along]
  by_cases partly : delta.natAbs < before.natAbs
  · rw [if_pos partly, effect (k := .reduce) (by
      rw [transition, if_neg moves, if_neg flat, if_neg (by omega), if_neg against,
        if_pos (by omega)])]
    cases signChanged <;> rfl
  rw [if_neg partly]
  by_cases whole : delta.natAbs = before.natAbs
  · rw [if_pos whole, effect (k := .close) (by
      rw [transition, if_neg moves, if_neg flat, if_pos (by omega)])]
    cases signChanged <;> rfl
  · rw [if_neg whole, effect (k := .flip) (by
      rw [transition, if_neg moves, if_neg flat, if_neg (by omega), if_neg against,
        if_neg (by omega)])]
    cases signChanged <;> rfl

/-- A fill is reported as the transition of the exact numbers, wherever the provider's flag agrees
with it; a text that is no signed decimal, a negative fill and one that moves nothing are
unknown. -/
theorem classifyPositionEffect_eq (positionSizeBefore : JsString) (positionSignChanged : Bool)
    (fillBaseSize : JsString) (side : Side) :
    classifyPositionEffect positionSizeBefore positionSignChanged fillBaseSize side
      = match signedNumber positionSizeBefore, signedNumber fillBaseSize with
        | some before, some fill =>
          if fill < 0 then .unknown
          else reported positionSignChanged (transition before (sizeAfter side before fill))
        | _, _ => .unknown := by
  unfold classifyPositionEffect signedNumber
  cases parseSignedDecimal positionSizeBefore with
  | none => rfl
  | some one =>
    obtain ⟨before, beforeDecimals⟩ := one
    cases parseSignedDecimal fillBaseSize with
    | none => rfl
    | some two =>
      obtain ⟨size, sizeDecimals⟩ := two
      dsimp only [Option.map_some]
      have scale : ∀ decimals : Nat, (0 : ℚ) < 10 ^ decimals := fun decimals => by positivity
      have sign : ((size : ℚ) / 10 ^ sizeDecimals < 0) ↔ size < 0 := by
        rw [div_lt_iff₀ (scale _), zero_mul, Int.cast_lt_zero]
      rw [if_congr sign rfl rfl]
      by_cases negative : size < 0
      · rw [if_pos negative, if_pos negative]
      · rw [if_neg negative, if_neg negative, classify_units]
        congr 1
        have beforeUnits := rescale_cast before (le_max_left beforeDecimals sizeDecimals)
        have sizeUnits := rescale_cast size (le_max_right beforeDecimals sizeDecimals)
        have cast := transition_map (f := ((↑) : ℤ → ℚ)) Int.cast_strictMono Int.cast_zero
        have rescaled := transition_map
          (f := fun number : ℚ => number * 10 ^ max beforeDecimals sizeDecimals)
          (fun _ _ less => mul_lt_mul_of_pos_right less (scale _)) (zero_mul _)
        rw [← cast, ← rescaled (before / 10 ^ beforeDecimals)]
        cases side with
        | buy => simp only [sizeAfter, Int.cast_add, beforeUnits, sizeUnits, add_mul]
        | sell => simp only [sizeAfter, Int.cast_sub, beforeUnits, sizeUnits, sub_mul]

/-- A position sold whole, with the provider's flag saying its sign did not change. -/
theorem contradicted_close_unknown :
    signedNumber "1.0" = some 1 ∧ signedNumber "1" = some 1
      ∧ transition (1 : ℚ) (sizeAfter .sell 1 1) = some .close
      ∧ classifyPositionEffect "1.0" false "1" .sell = .unknown := by
  decide +kernel

end Vex.Lighter.Fills
