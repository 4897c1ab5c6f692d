import Mathlib.Data.List.Basic

/-!
# Partial knowledge

What is known of a fact is a value or nothing. An observation that is merged into it keeps
what is known and otherwise supplies what it knows, so a fact is learned once. Two
observations agree when they do not know different values; observations that agree pairwise
teach the same, whatever order they are merged in.
-/

namespace Vex.Library

variable {α : Type*}

/-- Two observations of a fact do not know different values of it. -/
def Agree (known other : Option α) : Prop := ∀ value ∈ known, ∀ value' ∈ other, value = value'

namespace Agree

theorem of_eq {known other : Option α} (same : known = other) : Agree known other := by
  subst same
  intro value isKnown value' isKnown'
  exact Option.mem_unique isKnown isKnown'

theorem or_right_comm {first second : Option α} (agree : Agree first second) (known : Option α) :
    (known.or first).or second = (known.or second).or first := by
  cases known with
  | some value => rfl
  | none =>
    cases first with
    | none => simp
    | some value =>
      cases second with
      | none => rfl
      | some value' =>
        have same := agree value rfl value' rfl
        simp [same]

end Agree

/-! ## Knowledge that is checked -/

variable {holds : α → Bool}

theorem all_or {known other : Option α} (isKnown : known.all holds = true)
    (isOther : other.all holds = true) : (known.or other).all holds = true := by
  cases known with
  | none => exact isOther
  | some value => exact isKnown

theorem all_or_or {known first second : Option α} (isFirst : (known.or first).all holds = true)
    (isSecond : (known.or second).all holds = true) :
    ((known.or first).or second).all holds = true := by
  cases known with
  | some value => exact isFirst
  | none =>
    cases first with
    | none => exact isSecond
    | some value => exact isFirst

theorem Agree.refused_after {known first second : Option α} (agree : Agree first second)
    (isFirst : (known.or first).all holds = true) (refused : ¬ (known.or second).all holds = true) :
    ¬ ((known.or first).or second).all holds = true := by
  cases known with
  | some value => exact absurd isFirst refused
  | none =>
    cases first with
    | none => exact refused
    | some value =>
      cases second with
      | none => exact absurd rfl refused
      | some value' =>
        have same := agree value rfl value' rfl
        subst same
        exact absurd isFirst refused

/-- What is known once observations have been merged into it. -/
def learned (known : Option α) (observed : List (Option α)) : Option α := observed.foldl Option.or known

@[simp] theorem learned_some (value : α) (observed : List (Option α)) :
    learned (some value) observed = some value := by
  induction observed with
  | nil => rfl
  | cons first rest ih => exact ih

end Vex.Library
