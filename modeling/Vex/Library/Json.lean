import Vex.Library.DecimalStrings

/-!
# JSON values

A value as the language holds it: what `JSON.parse` gives, and `undefined`,
which `JSON.stringify` leaves out. The members of an object are listed in the
order they were created in, so two values may be the same and still be two
trees: `Same` is equality up to the order of members. Numbers stay a parameter.

A function that goes through a value from the leaves up is a `Rebuilder`. Many
functions show the same part of a value and differ in the order they leave the
members in; `Shows` says what they show, and all of them agree up to that order
(`Shows.same`).
-/

namespace Vex.Library

/-- A value of the language that is made of data alone. -/
inductive Json (ν : Type) where
  | undefined
  | null
  | bool (value : Bool)
  | number (value : ν)
  | string (value : JsString)
  | array (items : List (Json ν))
  | object (members : List (JsString × Json ν))

namespace Json

variable {ν : Type}

/-- The elements of an array and the values of an object. -/
def children : Json ν → List (Json ν)
  | .array items => items
  | .object members => members.map Prod.snd
  | _ => []

/-- A value that is neither an array nor an object. -/
def isScalar : Json ν → Bool
  | .array _ => false
  | .object _ => false
  | _ => true

/-- `value === undefined`. -/
def isUndefined : Json ν → Bool
  | .undefined => true
  | _ => false

mutual
variable {motive : Json ν → Prop}

theorem byChildren (step : ∀ value, (∀ child ∈ value.children, motive child) → motive value) :
    ∀ value, motive value
  | .undefined => step _ fun _ child => nomatch child
  | .null => step _ fun _ child => nomatch child
  | .bool _ => step _ fun _ child => nomatch child
  | .number _ => step _ fun _ child => nomatch child
  | .string _ => step _ fun _ child => nomatch child
  | .array items => step _ (byItems step items)
  | .object members => step _ (byMembers step members)

theorem byItems (step : ∀ value, (∀ child ∈ value.children, motive child) → motive value) :
    ∀ items : List (Json ν), ∀ child ∈ items, motive child
  | [] => List.forall_mem_nil _
  | item :: items => List.forall_mem_cons.2 ⟨byChildren step item, byItems step items⟩

theorem byMembers (step : ∀ value, (∀ child ∈ value.children, motive child) → motive value) :
    ∀ members : List (JsString × Json ν), ∀ child ∈ members.map Prod.snd, motive child
  | [] => List.forall_mem_nil _
  | (_, value) :: members =>
    List.forall_mem_cons.2 ⟨byChildren step value, byMembers step members⟩
end

/-- A property of a value and of every value inside it. -/
inductive Throughout (holds : Json ν → Prop) : Json ν → Prop
  | intro {value : Json ν} (here : holds value)
      (inside : ∀ child ∈ value.children, Throughout holds child) : Throughout holds value

variable {holds : Json ν → Prop}

theorem Throughout.here {value : Json ν} (all : Throughout holds value) : holds value := by
  cases all with
  | intro here _ => exact here

theorem Throughout.inside {value : Json ν} (all : Throughout holds value) :
    ∀ child ∈ value.children, Throughout holds child := by
  cases all with
  | intro _ inside => exact inside

theorem Throughout.item {items : List (Json ν)} (all : Throughout holds (.array items))
    {item : Json ν} (member : item ∈ items) : Throughout holds item := all.inside item member

variable {members : List (JsString × Json ν)} {key : JsString}

theorem Throughout.member (all : Throughout holds (.object members)) {value : Json ν}
    (member : (key, value) ∈ members) : Throughout holds value :=
  all.inside value (List.mem_map_of_mem (f := Prod.snd) member)

/-! ## Objects have each key once -/

def keys (members : List (JsString × Json ν)) : List JsString := members.map Prod.fst

theorem mem_keys : key ∈ keys members ↔ ∃ value, (key, value) ∈ members := by
  simp [keys]

/-- No key of the object stands twice. -/
def KeysOnce : Json ν → Prop
  | .object members => (keys members).Nodup
  | _ => True

/-- A value whose objects have each key once, as every value of the language has. -/
abbrev Plain (value : Json ν) : Prop := Throughout KeysOnce value

theorem value_unique (once : (keys members).Nodup) {first second : Json ν}
    (one : (key, first) ∈ members) (two : (key, second) ∈ members) : first = second :=
  congrArg Prod.snd (List.inj_on_of_nodup_map once one two rfl)

/-! ## Equality up to the order of members -/

/-- The two are the same value: the same scalar, arrays of the same elements in
the same order, or objects with the same keys and under each key the same value. -/
inductive Same : Json ν → Json ν → Prop
  | scalar {value : Json ν} (alone : value.isScalar = true) : Same value value
  | array {items others : List (Json ν)} (size : items.length = others.length)
      (each : ∀ (i : Nat) (item other : Json ν), items[i]? = some item → others[i]? = some other →
        Same item other) :
      Same (.array items) (.array others)
  | object {members others : List (JsString × Json ν)} (named : (keys members).Perm (keys others))
      (each : ∀ key value other, (key, value) ∈ members → (key, other) ∈ others →
        Same value other) : Same (.object members) (.object others)

theorem Same.refl {value : Json ν} (plain : Plain value) : Same value value := by
  induction plain with
  | @intro value once _ ih =>
    cases value with
    | array items =>
      refine .array rfl fun i item other one two => ?_
      obtain rfl := Option.some.inj (one.symm.trans two)
      exact ih item (List.mem_of_getElem? one)
    | object members =>
      refine .object (List.Perm.refl _) fun key value other one two => ?_
      obtain rfl := value_unique once one two
      exact ih value (List.mem_map_of_mem (f := Prod.snd) one)
    | undefined | null | bool | number | string => exact .scalar rfl

theorem Same.symm {value other : Json ν} (same : Same value other) : Same other value := by
  induction same with
  | scalar alone => exact .scalar alone
  | array size _ ih => exact .array size.symm fun i item other one two => ih i other item two one
  | object named _ ih =>
    exact .object named.symm fun key value other one two => ih key other value two one

theorem Same.trans {value other third : Json ν} (first : Same value other)
    (second : Same other third) : Same value third := by
  induction first generalizing third with
  | scalar _ => exact second
  | @array items others size _ ih =>
    cases second with
    | scalar alone => cases alone
    | @array _ thirds size' each' =>
      refine .array (size.trans size') fun i item third one three => ?_
      have bound : i < others.length := by
        rw [← size]
        exact (List.getElem?_eq_some_iff.1 one).1
      have two : others[i]? = some others[i] := List.getElem?_eq_getElem bound
      exact ih i item _ one two (each' i _ third two three)
  | @object members others named _ ih =>
    cases second with
    | scalar alone => cases alone
    | @object _ thirds named' each' =>
      refine .object (named.trans named') fun key value third one three => ?_
      obtain ⟨other, two⟩ := mem_keys.1 (named.mem_iff.1 (mem_keys.2 ⟨value, one⟩))
      exact ih key value other one two (each' key other third two three)

theorem Same.of_perm {others : List (JsString × Json ν)} (plain : Plain (.object members))
    (perm : members.Perm others) : Same (.object members) (.object others) := by
  refine .object (perm.map Prod.fst) fun key value other one two => ?_
  obtain rfl := value_unique plain.here one (perm.mem_iff.2 two)
  exact .refl (plain.member one)

theorem Same.isUndefined_eq {value other : Json ν} (same : Same value other) :
    value.isUndefined = other.isUndefined := by
  cases same <;> rfl

/-! ## Rebuilding a value from its leaves -/

/-- How a value is rebuilt: its scalars, the elements of its arrays and the members of
its objects. -/
structure Rebuilder (ν : Type) where
  scalar : Json ν → Json ν
  item : Json ν → Json ν
  members : List (JsString × Json ν) → List (JsString × Json ν)

mutual
/-- The value with everything inside it rebuilt first. -/
def rebuild (how : Rebuilder ν) : Json ν → Json ν
  | .array items => .array (rebuildItems how items)
  | .object members => .object (how.members (rebuildMembers how members))
  | value => how.scalar value

def rebuildItems (how : Rebuilder ν) : List (Json ν) → List (Json ν)
  | [] => []
  | item :: items => how.item (rebuild how item) :: rebuildItems how items

def rebuildMembers (how : Rebuilder ν) : List (JsString × Json ν) → List (JsString × Json ν)
  | [] => []
  | (key, value) :: members => (key, rebuild how value) :: rebuildMembers how members
end

variable (how : Rebuilder ν)

theorem rebuildItems_eq (items : List (Json ν)) :
    rebuildItems how items = items.map fun item => how.item (rebuild how item) := by
  induction items with
  | nil => rfl
  | cons item items ih => rw [rebuildItems, ih, List.map_cons]

theorem rebuildMembers_eq (members : List (JsString × Json ν)) :
    rebuildMembers how members = members.map fun member => (member.1, rebuild how member.2) := by
  induction members with
  | nil => rfl
  | cons member members ih => rw [rebuildMembers, ih, List.map_cons]

theorem rebuild_array (items : List (Json ν)) :
    rebuild how (.array items) = .array (items.map fun item => how.item (rebuild how item)) := by
  rw [rebuild, rebuildItems_eq]

theorem rebuild_object (members : List (JsString × Json ν)) : rebuild how (.object members) =
      .object (how.members (members.map fun member => (member.1, rebuild how member.2))) := by
  rw [rebuild, rebuildMembers_eq]

theorem rebuild_scalar {value : Json ν} (alone : value.isScalar = true) :
    rebuild how value = how.scalar value := by
  cases value with
  | array | object => cases alone
  | undefined | null | bool | number | string => rw [rebuild]; all_goals nofun

/-! ## What is shown of a value -/

/-- A member that is kept: its key is in sight and its value is not undefined. -/
def kept (inSight : JsString → Bool) (member : JsString × Json ν) : Bool :=
  inSight member.1 && !member.2.isUndefined

/-- The objects a function makes have the members that are kept, in some order, each
with what the function makes of its value; and it takes nothing defined to undefined. -/
structure Selects (inSight : JsString → Bool) (f : Json ν → Json ν) : Prop where
  isUndefined : ∀ value, (f value).isUndefined = value.isUndefined
  object : ∀ members, (keys members).Nodup → ∃ others, f (.object members) = .object others ∧
    others.Perm ((members.filter (kept inSight)).map fun member => (member.1, f member.2))

variable {inSight : JsString → Bool} {f : Json ν → Json ν}

theorem mem_selected {others : List (JsString × Json ν)} (selected : others.Perm
      ((members.filter (kept inSight)).map fun member => (member.1, f member.2))) {value : Json ν} :
    (key, value) ∈ others ↔
      ∃ own, (key, own) ∈ members ∧ kept inSight (key, own) = true ∧ value = f own := by
  rw [selected.mem_iff]
  simp only [List.mem_map, List.mem_filter, Prod.exists, Prod.mk.injEq]
  constructor
  · rintro ⟨_, own, ⟨inside, isKept⟩, rfl, rfl⟩
    exact ⟨own, inside, isKept, rfl⟩
  · rintro ⟨own, inside, isKept, rfl⟩
    exact ⟨key, own, ⟨inside, isKept⟩, rfl, rfl⟩

theorem keys_once_of_selected {others : List (JsString × Json ν)} (once : (keys members).Nodup)
    (selected : others.Perm
      ((members.filter (kept inSight)).map fun member => (member.1, f member.2))) :
    (keys others).Nodup := by
  have same : keys ((members.filter (kept inSight)).map fun member => (member.1, f member.2)) =
      keys (members.filter (kept inSight)) := by
    rw [keys, List.map_map]
    rfl
  rw [keys, (selected.map Prod.fst).nodup_iff]
  refine (congrArg List.Nodup same).mpr ?_
  exact once.sublist (List.filter_sublist.map Prod.fst)

theorem selects_rebuild {how : Rebuilder ν} (scalar : ∀ value : Json ν, value.isScalar = true →
      (how.scalar value).isUndefined = value.isUndefined)
    (members : ∀ members, (keys members).Nodup →
      (how.members members).Perm (members.filter (kept inSight))) :
    Selects inSight (rebuild how) := by
  have defined (value : Json ν) : (rebuild how value).isUndefined = value.isUndefined := by
    cases alone : value.isScalar with
    | true => rw [rebuild_scalar how alone, scalar value alone]
    | false =>
      cases value with
      | array items => rw [rebuild_array]; rfl
      | object members => rw [rebuild_object]; rfl
      | undefined | null | bool | number | string => cases alone
  refine ⟨defined, fun own once => ⟨_, rebuild_object how own, ?_⟩⟩
  have same : keys (own.map fun member => (member.1, rebuild how member.2)) = keys own := by
    rw [keys, List.map_map]
    rfl
  refine (members _ (same ▸ once)).trans (List.Perm.of_eq ?_)
  rw [List.filter_map]
  congr 2
  funext member
  exact congrArg (fun undefined => inSight member.1 && !undefined) (defined member.2)

theorem Selects.comp {first second : JsString → Bool} {g : Json ν → Json ν} (one : Selects first f)
    (two : Selects second g) :
    Selects (fun key => first key && second key) fun value => g (f value) := by
  refine ⟨fun value => (two.isUndefined _).trans (one.isUndefined value), fun members once => ?_⟩
  obtain ⟨others, made, selected⟩ := one.object members once
  obtain ⟨thirds, made', selected'⟩ := two.object others (keys_once_of_selected once selected)
  refine ⟨thirds, by rw [made, made'], selected'.trans ?_⟩
  refine ((selected.filter _).map _).trans (List.Perm.of_eq ?_)
  rw [List.filter_map, List.map_map, List.filter_filter]
  congr 2
  funext member
  have defined : (f member.2).isUndefined = member.2.isUndefined := one.isUndefined member.2
  simp only [kept, Function.comp_apply, defined]
  cases first member.1 <;> cases second member.1 <;> simp

/-- A number JSON cannot represent is shown as null. -/
def shown (finite : ν → Bool) : Json ν → Json ν
  | .number value => if finite value then .number value else .null
  | value => value

/-- An undefined element of an array is shown as null. -/
def filled : Json ν → Json ν
  | .undefined => .null
  | value => value

theorem filled_of_defined {value : Json ν} (defined : value.isUndefined = false) :
    filled value = value := by
  cases value with
  | undefined => cases defined
  | null | bool | number | string | array | object => rfl

/-- The function shows of a value what JSON represents of it, under the keys in sight. -/
structure Shows (finite : ν → Bool) (inSight : JsString → Bool) (f : Json ν → Json ν) : Prop
    extends Selects inSight f where
  scalar : ∀ value : Json ν, value.isScalar = true → f value = shown finite value
  array : ∀ items, f (.array items) = .array (items.map fun item => filled (f item))

theorem isScalar_shown (finite : ν → Bool) {value : Json ν} (alone : value.isScalar = true) :
    (shown finite value).isScalar = true := by
  cases value with
  | number value =>
    rw [shown]
    split <;> rfl
  | undefined | null | bool | string => rfl
  | array | object => cases alone

theorem isUndefined_shown (finite : ν → Bool) (value : Json ν) :
    (shown finite value).isUndefined = value.isUndefined := by
  cases value with
  | number value =>
    rw [shown]
    split <;> rfl
  | undefined | null | bool | string | array | object => rfl

theorem Same.filled {value other : Json ν} (same : Same value other) :
    Same (filled value) (filled other) := by
  cases same with
  | @scalar value alone =>
    cases value with
    | undefined => exact .scalar rfl
    | null | bool | number | string => exact .scalar rfl
    | array | object => cases alone
  | array size each => exact .array size each
  | object named each => exact .object named each

variable {finite : ν → Bool}

/-- Functions that show the same part of a value show the same of values that are the
same, whatever order they leave the members in. -/
theorem Shows.same {g : Json ν → Json ν} (one : Shows finite inSight f)
    (two : Shows finite inSight g) {value other : Json ν} (same : Same value other)
    (plain : Plain value) (plain' : Plain other) : Same (f value) (g other) := by
  induction same with
  | @scalar value alone =>
    rw [one.scalar value alone, two.scalar value alone]
    exact .scalar (isScalar_shown finite alone)
  | @array items others size _ ih =>
    rw [one.array, two.array]
    refine .array (by rw [List.length_map, List.length_map, size]) fun i _ _ item other => ?_
    rw [List.getElem?_map, Option.map_eq_some_iff] at item other
    obtain ⟨item, here, rfl⟩ := item
    obtain ⟨other, there, rfl⟩ := other
    exact (ih i item other here there (plain.item (List.mem_of_getElem? here))
      (plain'.item (List.mem_of_getElem? there))).filled
  | @object members others named each ih =>
    obtain ⟨left, madeLeft, selectedLeft⟩ := one.object members plain.here
    obtain ⟨right, madeRight, selectedRight⟩ := two.object others plain'.here
    rw [madeLeft, madeRight]
    refine .object ?_ fun key value other inLeft inRight => ?_
    · -- a key is kept on the left exactly when it is kept on the right
      refine (List.perm_ext_iff_of_nodup (keys_once_of_selected plain.here selectedLeft)
        (keys_once_of_selected plain'.here selectedRight)).2 fun key => ?_
      simp only [mem_keys, mem_selected selectedLeft, mem_selected selectedRight]
      constructor
      · rintro ⟨_, before, inside, isKept, -⟩
        obtain ⟨other, there⟩ := mem_keys.1 (named.mem_iff.1 (mem_keys.2 ⟨before, inside⟩))
        refine ⟨_, other, there, ?_, rfl⟩
        rwa [kept, ← (each key before other inside there).isUndefined_eq]
      · rintro ⟨_, other, there, isKept, -⟩
        obtain ⟨before, inside⟩ := mem_keys.1 (named.mem_iff.2 (mem_keys.2 ⟨other, there⟩))
        refine ⟨_, before, inside, ?_, rfl⟩
        rwa [kept, (each key before other inside there).isUndefined_eq]
    · obtain ⟨before, inside, -, rfl⟩ := (mem_selected selectedLeft).1 inLeft
      obtain ⟨after, there, -, rfl⟩ := (mem_selected selectedRight).1 inRight
      exact ih key before after inside there (plain.member inside) (plain'.member there)

theorem throughout_of_scalar {value : Json ν} (alone : value.isScalar = true) (here : holds value) :
    Throughout holds value := by
  refine .intro here fun child inside => ?_
  cases value with
  | array | object => cases alone
  | undefined | null | bool | number | string => cases inside

theorem eq_undefined {value : Json ν} (gap : value.isUndefined = true) : value = .undefined := by
  cases value with
  | undefined => rfl
  | null | bool | number | string | array | object => cases gap

/-- The value of a key, undefined where the object has no such member. -/
def get (members : List (JsString × Json ν)) (key : JsString) : Json ν :=
  ((members.find? fun member => member.1 = key).map Prod.snd).getD .undefined

theorem get_cases (members : List (JsString × Json ν)) (key : JsString) :
    (key ∉ keys members ∧ get members key = .undefined) ∨ (key, get members key) ∈ members := by
  rw [get]
  cases found : members.find? fun member => member.1 = key with
  | none =>
    refine .inl ⟨fun inside => ?_, rfl⟩
    obtain ⟨value, member⟩ := mem_keys.1 inside
    simpa using List.find?_eq_none.1 found _ member
  | some member =>
    have named : member.1 = key := by simpa using List.find?_some found
    rw [← named]
    exact .inr (List.mem_of_find?_eq_some found)

theorem get_of_mem (once : (keys members).Nodup) {value : Json ν} (inside : (key, value) ∈ members)
    :
    get members key = value := by
  rcases get_cases members key with ⟨absent, -⟩ | found
  · exact absurd (mem_keys.2 ⟨value, inside⟩) absent
  · exact value_unique once found inside

theorem mem_of_get (defined : (get members key).isUndefined = false) :
    (key, get members key) ∈ members := by
  rcases get_cases members key with ⟨-, none⟩ | found
  · rw [none] at defined
    cases defined
  · exact found

theorem mem_keys_selected {others : List (JsString × Json ν)} (once : (keys members).Nodup)
    (selected : others.Perm
      ((members.filter (kept inSight)).map fun member => (member.1, f member.2))) :
    key ∈ keys others ↔ inSight key = true ∧ (get members key).isUndefined = false := by
  rw [mem_keys]
  constructor
  · rintro ⟨_, inside⟩
    obtain ⟨value, own, isKept, -⟩ := (mem_selected selected).1 inside
    rw [get_of_mem once own]
    simpa [kept] using isKept
  · rintro ⟨sight, defined⟩
    exact ⟨_, (mem_selected selected).2 ⟨_, mem_of_get defined, by simp [kept, sight, defined], rfl⟩⟩

theorem Shows.same_object_iff (shows : Shows finite inSight f) {others : List (JsString × Json ν)}
    (once : (keys members).Nodup) (once' : (keys others).Nodup) :
    Same (f (.object members)) (f (.object others)) ↔
      ∀ key, inSight key = true → Same (f (get members key)) (f (get others key)) := by
  obtain ⟨left, madeLeft, selectedLeft⟩ := shows.object members once
  obtain ⟨right, madeRight, selectedRight⟩ := shows.object others once'
  rw [madeLeft, madeRight]
  constructor
  · intro same key sight
    cases same with
    | scalar alone => cases alone
    | object named each =>
      have both : (get members key).isUndefined = false ↔ (get others key).isUndefined = false := by
        have shown := named.mem_iff (a := key)
        rw [mem_keys_selected once selectedLeft, mem_keys_selected once' selectedRight] at shown
        simpa [sight] using shown
      cases gap : (get members key).isUndefined with
      | true =>
        have gap' : (get others key).isUndefined = true := by
          rw [← Bool.not_eq_false, ← both, gap]
          exact Bool.noConfusion
        rw [eq_undefined gap, eq_undefined gap', shows.scalar _ rfl]
        exact .scalar rfl
      | false =>
        have defined := both.1 gap
        exact each key _ _
          ((mem_selected selectedLeft).2 ⟨_, mem_of_get gap, by simp [kept, sight, gap], rfl⟩)
          ((mem_selected selectedRight).2
            ⟨_, mem_of_get defined, by simp [kept, sight, defined], rfl⟩)
  · intro each
    refine .object ?_ fun key value other inLeft inRight => ?_
    · refine (List.perm_ext_iff_of_nodup (keys_once_of_selected once selectedLeft)
        (keys_once_of_selected once' selectedRight)).2 fun key => ?_
      rw [mem_keys_selected once selectedLeft, mem_keys_selected once' selectedRight]
      refine and_congr_right fun sight => ?_
      rw [← shows.isUndefined, (each key sight).isUndefined_eq, shows.isUndefined]
    · obtain ⟨value, own, isKept, rfl⟩ := (mem_selected selectedLeft).1 inLeft
      obtain ⟨other, own', -, rfl⟩ := (mem_selected selectedRight).1 inRight
      have sight : inSight key = true := (Bool.and_eq_true_iff.1 isKept).1
      have same := each key sight
      rwa [get_of_mem once own, get_of_mem once' own'] at same

theorem forall_get_iff {related : Json ν → Json ν → Prop} (gap : related .undefined .undefined)
    {others : List (JsString × Json ν)} (named : keys members = keys others)
    (once : (keys members).Nodup) :
    (∀ key, related (get members key) (get others key)) ↔
      List.Forall₂ (fun member other => related member.2 other.2) members others := by
  induction members generalizing others with
  | nil =>
    cases others with
    | nil => exact iff_of_true (fun _ => gap) .nil
    | cons => cases named
  | cons member members ih =>
    cases others with
    | nil => cases named
    | cons other others =>
      obtain ⟨key, value⟩ := member
      obtain ⟨key', other⟩ := other
      obtain ⟨rfl, tails⟩ := List.cons.inj named
      have laterNamed : keys members = keys others := tails
      obtain ⟨fresh, laterOnce⟩ := List.nodup_cons.1 once
      have first (own : List (JsString × Json ν)) (value : Json ν) :
          get ((key, value) :: own) key = value := by
        simp [get]
      have later (own : List (JsString × Json ν)) (value : Json ν) {name : JsString}
          (differs : key ≠ name) : get ((key, value) :: own) name = get own name := by
        simp [get, differs]
      rw [List.forall₂_cons, ← ih laterNamed laterOnce]
      constructor
      · intro all
        refine ⟨by simpa only [first] using all key, fun name => ?_⟩
        by_cases same : key = name
        · -- the key of the first field is none of the others
          subst same
          have absent (own : List (JsString × Json ν)) (fresh : key ∉ keys own) :
              get own key = .undefined :=
            (get_cases own key).elim And.right fun found => absurd (mem_keys.2 ⟨_, found⟩) fresh
          have fresh' : key ∉ keys others := laterNamed ▸ fresh
          rw [absent members fresh, absent others fresh']
          exact gap
        · simpa only [later _ _ same] using all name
      · rintro ⟨one, rest⟩ name
        by_cases same : key = name
        · subst same
          simpa only [first] using one
        · simpa only [later _ _ same] using rest name

theorem keysOnce_of_scalar {value : Json ν} (alone : value.isScalar = true) : KeysOnce value := by
  cases value with
  | array | object => cases alone
  | undefined | null | bool | number | string => trivial

theorem Throughout.filled {value : Json ν} (all : Throughout holds value) (null : holds .null) :
    Throughout holds (filled value) := by
  cases value with
  | undefined => exact throughout_of_scalar rfl null
  | null | bool | number | string | array | object => exact all

theorem Shows.plain (shows : Shows finite inSight f) {value : Json ν} (plain : Plain value) :
    Plain (f value) := by
  induction plain with
  | @intro value once inside ih =>
    cases alone : value.isScalar with
    | true =>
      rw [shows.scalar value alone]
      exact throughout_of_scalar (isScalar_shown finite alone)
        (keysOnce_of_scalar (isScalar_shown finite alone))
    | false =>
      cases value with
      | array items =>
        rw [shows.array]
        refine .intro trivial fun child inItems => ?_
        obtain ⟨item, member, rfl⟩ := List.mem_map.1 inItems
        exact (ih item member).filled trivial
      | object members =>
        obtain ⟨others, made, selected⟩ := shows.object members once
        rw [made]
        refine .intro (keys_once_of_selected once selected) fun child inOthers => ?_
        obtain ⟨member, inMade, rfl⟩ := List.mem_map.1 inOthers
        obtain ⟨own, inKept, rfl⟩ := List.mem_map.1 (selected.mem_iff.1 inMade)
        exact ih own.2 (List.mem_map_of_mem (f := Prod.snd) (List.mem_filter.1 inKept).1)
      | undefined | null | bool | number | string => cases alone

/-! ## The order the members of an object are listed in -/

/-- The code units of a string as numbers, by whose order the language compares strings. -/
def codes (value : JsString) : List Nat := value.map UInt16.toNat

theorem codes_injective : Function.Injective codes :=
  List.map_injective_iff.2 fun _ _ => UInt16.toNat_inj.1

/-- A key that is an array index. -/
def isIndex (key : JsString) : Bool :=
  key.isCanonicalDecimal && decide (key.decimalValue ≤ 4294967294)

/-- The members in the order `Object.keys` lists them in: the array indices from the
least up, then the others as they were created. -/
def enumerate (members : List (JsString × Json ν)) : List (JsString × Json ν) :=
  ((members.filter fun member => isIndex member.1).insertionSort
      fun first second => first.1.decimalValue ≤ second.1.decimalValue) ++
    members.filter fun member => !isIndex member.1

theorem enumerate_perm (members : List (JsString × Json ν)) : (enumerate members).Perm members :=
  ((List.perm_insertionSort _ _).append_right _).trans (List.filter_append_perm _ _)

/-- The members of an object are listed as those of one whose keys were created in order. -/
def Arranged : Json ν → Prop
  | .object members => ∃ created : List (JsString × Json ν),
      created.Pairwise (fun first second => codes first.1 ≤ codes second.1) ∧
        members = enumerate created
  | _ => True

theorem arranged_of_scalar {value : Json ν} (alone : value.isScalar = true) : Arranged value := by
  cases value with
  | array | object => cases alone
  | undefined | null | bool | number | string => trivial

theorem Same.eq_of_arranged {value other : Json ν} (same : Same value other)
    (plain : Plain value) (arranged : Throughout Arranged value)
    (arranged' : Throughout Arranged other) : value = other := by
  induction same with
  | scalar _ => rfl
  | @array items others size each ih =>
    refine congrArg Json.array (List.ext_getElem size fun i here there => ?_)
    have one : items[i]? = some items[i] := List.getElem?_eq_getElem here
    have two : others[i]? = some others[i] := List.getElem?_eq_getElem there
    exact ih i _ _ one two (plain.item (List.getElem_mem here))
      (arranged.item (List.getElem_mem here)) (arranged'.item (List.getElem_mem there))
  | @object members others named each ih =>
    have once : (keys members).Nodup := plain.here
    have once' : (keys others).Nodup := named.nodup_iff.1 once
    have equal {key : JsString} {value other : Json ν} (one : (key, value) ∈ members)
        (two : (key, other) ∈ others) : value = other :=
      ih key value other one two (plain.member one) (arranged.member one) (arranged'.member two)
    have perm : members.Perm others := by
      refine (List.perm_ext_iff_of_nodup (List.Nodup.of_map _ once)
        (List.Nodup.of_map _ once')).2 fun ⟨key, value⟩ => ?_
      constructor
      · intro one
        obtain ⟨other, two⟩ := mem_keys.1 (named.mem_iff.1 (mem_keys.2 ⟨value, one⟩))
        rwa [equal one two]
      · intro two
        obtain ⟨other, one⟩ := mem_keys.1 (named.mem_iff.2 (mem_keys.2 ⟨value, two⟩))
        rwa [← equal one two]
    obtain ⟨created, sorted, rfl⟩ := arranged.here
    obtain ⟨created', sorted', rfl⟩ := arranged'.here
    have createdOnce : (keys created).Nodup :=
      ((enumerate_perm created).map Prod.fst).nodup_iff.1 once
    have alike : created.Perm created' :=
      ((enumerate_perm created).symm.trans perm).trans (enumerate_perm created')
    rw [List.Perm.eq_of_pairwise (fun first second inside inside' below above => ?_) sorted sorted'
      alike]
    exact List.inj_on_of_nodup_map createdOnce inside (alike.mem_iff.2 inside')
      (codes_injective (le_antisymm below above))

end Json

end Vex.Library
