import Mathlib.Tactic.IntervalCases
import Vex.Library.JsString

/-!
# Decimal text

What `value.toString()` writes for a whole number reads back as that number: the text is
digits alone, without a zero in front, and trimming leaves it as it is.
-/

namespace Vex.Library

namespace JsString

/-- `value.toString()` of a whole number. -/
def ofNat (value : Nat) : JsString := ofString (toString value)

def digitUnit (digit : Nat) : UInt16 := (48 + digit).toUInt16

variable (value : Nat)

theorem ofNat_eq_toDigits : ofNat value = (Nat.toDigits 10 value).flatMap fun character =>
      unitsOfScalar character.toNat := by
  rw [ofNat, ofString, Nat.toString_eq_ofList_toDigits, String.toList_ofList]

theorem ofNat_of_lt {value : Nat} (small : value < 10) : ofNat value = [digitUnit value] := by
  rw [ofNat_eq_toDigits, Nat.toDigits_of_lt_base small]
  interval_cases value <;> rfl

theorem ofNat_of_le {value : Nat} (large : 10 ≤ value) :
    ofNat value = ofNat (value / 10) ++ [digitUnit (value % 10)] := by
  have last : Nat.toDigits 10 (value % 10) = [(value % 10).digitChar] :=
    Nat.toDigits_of_lt_base (Nat.mod_lt _ (by decide))
  rw [ofNat_eq_toDigits, Nat.toDigits_of_base_le (by decide) large, List.flatMap_append,
    ← ofNat_eq_toDigits, ← ofNat_of_lt (Nat.mod_lt value (by decide)), ofNat_eq_toDigits (value % 10),
    last]

theorem ofNat_induction {motive : Nat → JsString → Prop}
    (one : ∀ value, value < 10 → motive value [digitUnit value])
    (more : ∀ value, 10 ≤ value → motive (value / 10) (ofNat (value / 10)) →
      motive value (ofNat (value / 10) ++ [digitUnit (value % 10)])) (value : Nat) :
    motive value (ofNat value) := by
  induction value using Nat.strongRecOn with
  | ind value ih =>
    by_cases small : value < 10
    · rw [ofNat_of_lt small]
      exact one value small
    · have large : 10 ≤ value := Nat.le_of_not_lt small
      rw [ofNat_of_le large]
      exact more value large (ih _ (Nat.div_lt_self (by omega) (by decide)))

theorem digitUnit_spec {digit : Nat} (small : digit < 10) :
    isDigit (digitUnit digit) = true ∧ (digitUnit digit).toNat - 48 = digit ∧
      isWhiteSpace (digitUnit digit) = false ∧ (digitUnit digit = 48 → digit = 0) := by
  interval_cases digit <;> decide

theorem all_isDigit_ofNat : (ofNat value).all isDigit = true := by
  refine ofNat_induction (motive := fun _ text => text.all isDigit = true) ?_ ?_ value
  · intro value small
    simp [(digitUnit_spec small).1]
  · intro value _ digits
    simp [digits, (digitUnit_spec (Nat.mod_lt value (by decide : 0 < 10))).1]

theorem ofNat_ne_nil : ofNat value ≠ [] := by
  refine ofNat_induction (motive := fun _ text => text ≠ []) ?_ ?_ value
  · intro value _
    simp
  · intro value _ _
    simp

@[simp] theorem decimalValue_ofNat : decimalValue (ofNat value) = value := by
  refine ofNat_induction (motive := fun value text => decimalValue text = value) ?_ ?_ value
  · intro value small
    simp [decimalValue, (digitUnit_spec small).2.1]
  · intro value _ front
    have last : decimalValue [digitUnit (value % 10)] = value % 10 := by
      simp [decimalValue, (digitUnit_spec (Nat.mod_lt value (by decide : 0 < 10))).2.1]
    rw [decimalValue_append, front, last, List.length_singleton, pow_one]
    omega

theorem head?_ofNat : (ofNat value).head? = some 48 → value = 0 := by
  refine ofNat_induction (motive := fun value text => text.head? = some 48 → value = 0) ?_ ?_ value
  · intro value small zero
    exact (digitUnit_spec small).2.2.2 (Option.some.inj zero)
  · intro value large front zero
    have inFront : (ofNat (value / 10)).head? = some 48 := by
      rwa [List.head?_append_of_ne_nil _ (ofNat_ne_nil _)] at zero
    have := front inFront
    omega

theorem isCanonicalDecimal_ofNat : isCanonicalDecimal (ofNat value) = true := by
  have digits : isDecimal (ofNat value) = true := by
    simp [isDecimal, ofNat_ne_nil, all_isDigit_ofNat]
  rw [isCanonicalDecimal, digits, Bool.true_and, Bool.or_eq_true]
  by_cases zero : value = 0
  · subst zero
    exact .inl rfl
  · refine .inr ?_
    simpa using fun front => zero (head?_ofNat value front)

theorem isDecimal_ofNat : isDecimal (ofNat value) = true := by
  simp [isDecimal, ofNat_ne_nil, all_isDigit_ofNat]

theorem isWhiteSpace_of_isDigit {unit : UInt16} (digit : isDigit unit = true) :
    isWhiteSpace unit = false := by
  simp only [isDigit, Bool.and_eq_true, decide_eq_true_eq, UInt16.le_iff_toNat_le] at digit
  have above : 48 ≤ unit.toNat := digit.1
  have below : unit.toNat ≤ 57 := digit.2
  simp only [isWhiteSpace, Bool.or_eq_false_iff, Bool.and_eq_false_iff,
    decide_eq_false_iff_not, beq_eq_false_iff_ne, ne_eq, ← UInt16.toNat_inj,
    UInt16.le_iff_toNat_le, UInt16.reduceToNat]
  omega

theorem trim_of_all {value : JsString} (none_ : ∀ unit ∈ value, isWhiteSpace unit = false) :
    trim value = value := by
  have front (rest : JsString) (bare : ∀ unit ∈ rest, isWhiteSpace unit = false) :
      rest.dropWhile isWhiteSpace = rest := by
    cases rest with
    | nil => rfl
    | cons unit rest => exact List.dropWhile_cons_of_neg (by simp [bare unit (by simp)])
  rw [trim, front value none_, List.rdropWhile,
    front value.reverse (fun unit member => none_ unit (List.mem_reverse.1 member)),
    List.reverse_reverse]

@[simp] theorem trim_ofNat : trim (ofNat value) = ofNat value :=
  trim_of_all fun unit member =>
    isWhiteSpace_of_isDigit (List.all_eq_true.1 (all_isDigit_ofNat value) unit member)

/-- `value.toString()` of an integer. -/
def ofInt : Int → JsString
  | .ofNat value => ofNat value
  | .negSucc value => 45 :: ofNat (value + 1)

theorem mem_ofInt {value : Int} {unit : UInt16} (member : unit ∈ ofInt value) :
    unit = 45 ∨ isDigit unit = true := by
  cases value with
  | ofNat value => exact .inr (List.all_eq_true.1 (all_isDigit_ofNat value) unit member)
  | negSucc value =>
    rcases List.mem_cons.1 member with sign | digit
    · exact .inl sign
    · exact .inr (List.all_eq_true.1 (all_isDigit_ofNat _) unit digit)

theorem ofNat_injective : Function.Injective ofNat := fun value other same => by
  rw [← decimalValue_ofNat value, same, decimalValue_ofNat]

theorem ofInt_injective : Function.Injective ofInt := by
  intro value other same
  have unsigned (number : Nat) (rest : JsString) : ofNat number ≠ 45 :: rest := by
    intro signed
    have sign := List.all_eq_true.1 (all_isDigit_ofNat number) 45 (by simp [signed])
    exact absurd sign (by decide)
  cases value with
  | ofNat value =>
    cases other with
    | ofNat other => exact congrArg Int.ofNat (ofNat_injective same)
    | negSucc other => exact absurd same (unsigned value _)
  | negSucc value =>
    cases other with
    | ofNat other => exact absurd same.symm (unsigned other _)
    | negSucc other => rw [Nat.succ_inj.1 (ofNat_injective (List.cons.inj same).2)]

/-- Fields that a separator ends are told apart. -/
theorem field_eq {separator : UInt16} {first second rest later : JsString}
    (clear : separator ∉ first) (clear' : separator ∉ second)
    (same : first ++ separator :: rest = second ++ separator :: later) :
    first = second ∧ rest = later := by
  induction first generalizing second with
  | nil =>
    cases second with
    | nil => exact ⟨rfl, (List.cons.inj same).2⟩
    | cons unit second =>
      obtain rfl := (List.cons.inj same).1
      exact absurd List.mem_cons_self clear'
  | cons unit first ih =>
    cases second with
    | nil =>
      obtain rfl := (List.cons.inj same).1
      exact absurd List.mem_cons_self clear
    | cons other second =>
      obtain ⟨rfl, tail⟩ := List.cons.inj same
      obtain ⟨rfl, behind⟩ := ih (fun inside => clear (List.mem_cons_of_mem _ inside))
        (fun inside => clear' (List.mem_cons_of_mem _ inside)) tail
      exact ⟨rfl, behind⟩

end JsString

end Vex.Library
