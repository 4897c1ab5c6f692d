import Vex.Library.Json

/-!
# Objects of a shape

A schema of an object asks a check of the value under each of its keys and keeps
those members alone. What is kept passes the same checks and is kept again
(`admits_kept`, `kept_kept`); where the checks look at scalars only, equal values
pass alike and the same is kept of them (`admits_same`, `kept_same`).
-/

namespace Vex.Library.Json

variable {ν : Type} {key : JsString} {value other : Json ν} {members : List (JsString × Json ν)}

/-- `value[key]`. -/
def read (key : JsString) : Json ν → Json ν
  | .object members => get members key
  | _ => .undefined

/-- `value ?? other`. -/
def orElse : Json ν → Json ν → Json ν
  | .undefined, other => other
  | .null, other => other
  | value, _ => value

/-- `{ ...members, [key]: value }`. -/
def spread (key : JsString) (value : Json ν) : List (JsString × Json ν) → List (JsString × Json ν)
  | [] => [(key, value)]
  | (name, own) :: rest =>
    if name = key then (key, value) :: rest else (name, own) :: spread key value rest

theorem get_cons (key name : JsString) (value : Json ν) (members : List (JsString × Json ν)) :
    get ((name, value) :: members) key = if name = key then value else get members key := by
  by_cases same : name = key <;> simp [get, same]

theorem get_spread : get (spread key value members) key = value := by
  induction members with
  | nil => simp [spread, get_cons]
  | cons member rest ih =>
    rw [spread]
    split_ifs with same
    · simp [get_cons]
    · rw [get_cons, if_neg same, ih]

/-- The members of equal values are equal. -/
theorem read_same (key : JsString) (same : Same value other) :
    Same (read key value) (read key other) := by
  cases same with
  | scalar alone =>
    cases value with
    | object => cases alone
    | undefined | null | bool | number | string | array => exact .scalar rfl
  | array => exact .scalar rfl
  | @object members others named each =>
    rcases get_cases members key with ⟨absent, gap⟩ | found
    · rcases get_cases others key with ⟨-, gap'⟩ | found'
      · simpa [read, gap, gap'] using Same.scalar rfl
      · exact absurd (named.mem_iff.2 (mem_keys.2 ⟨_, found'⟩)) absent
    · rcases get_cases others key with ⟨absent, -⟩ | found'
      · exact absurd (named.mem_iff.1 (mem_keys.2 ⟨_, found⟩)) absent
      · exact each key _ _ found found'

/-! ## Shapes -/

/-- The keys of an object, each with the check of its value. -/
abbrev Shape (ν : Type) := List (JsString × (Json ν → Bool))

variable {shape : Shape ν}

/-- Every check passes. -/
def Shape.admits (shape : Shape ν) (value : Json ν) : Bool :=
  shape.all fun field => field.2 (read field.1 value)

/-- The members that the shape names. -/
def Shape.kept (shape : Shape ν) (value : Json ν) : Json ν :=
  .object (shape.map fun field => (field.1, read field.1 value))

theorem Shape.read_kept (member : key ∈ shape.map Prod.fst) :
    read key (shape.kept value) = read key value := by
  rw [kept, read]
  induction shape with
  | nil => cases member
  | cons field shape ih =>
    rw [List.map_cons, get_cons]
    split_ifs with same
    · rw [same]
    · exact ih ((List.mem_cons.1 member).resolve_left fun first => same first.symm)

theorem Shape.admits_kept : shape.admits (shape.kept value) = shape.admits value := by
  rw [admits, admits, Bool.eq_iff_iff, List.all_eq_true, List.all_eq_true]
  exact forall₂_congr fun field member => by rw [read_kept (List.mem_map_of_mem member)]

theorem Shape.kept_kept : shape.kept (shape.kept value) = shape.kept value := by
  conv_lhs => rw [kept]
  conv_rhs => rw [kept]
  refine congrArg Json.object (List.map_congr_left fun field member => ?_)
  rw [read_kept (List.mem_map_of_mem member)]

/-- The checks of the shape pass no array and no object. -/
def Shape.OfScalars (shape : Shape ν) : Prop :=
  ∀ field ∈ shape, (∀ items, field.2 (.array items) = false) ∧
    ∀ members, field.2 (.object members) = false

theorem same_eq (same : Same value other) (alone : value.isScalar = true) : value = other := by
  cases same with
  | scalar => rfl
  | array | object => cases alone

section
variable (scalars : shape.OfScalars) (admitted : shape.admits value = true) (same : Same value other)
include scalars admitted same

theorem Shape.read_eq {field} (member : field ∈ shape) :
    read field.1 value = read field.1 other := by
  refine same_eq (read_same _ same) ?_
  have passes := List.all_eq_true.1 admitted _ member
  cases found : read field.1 value with
  | array items => rw [found, (scalars _ member).1] at passes; cases passes
  | object members => rw [found, (scalars _ member).2] at passes; cases passes
  | undefined | null | bool | number | string => rfl

theorem Shape.admits_same : shape.admits other = true :=
  List.all_eq_true.2 fun _ member =>
    read_eq scalars admitted same member ▸ List.all_eq_true.1 admitted _ member

theorem Shape.kept_same : shape.kept value = shape.kept other :=
  congrArg Json.object (List.map_congr_left fun _ member =>
    congrArg (Prod.mk _) (read_eq scalars admitted same member))
end

end Vex.Library.Json
