import Vex.Library.Json
import Vex.Library.TextCodec

/-!
# The text of a JSON value

`JSON.stringify` writes no space, escapes what a string literal cannot hold and
a surrogate that stands alone, and joins the elements of an array and the
members of an object with commas. The text of a value ends where a comma, a
bracket or the end of the text stands, so a value is read off the front of its
text (`render_cut`): no two representable values have one text. The text is
well formed, so its bytes in UTF-8 are no other text's.

How a number is written stays a parameter, `NumberText`: the digits of a
floating-point number are the platform's.
-/

namespace Vex.Library

def JsString.isNumberUnit (unit : UInt16) : Bool :=
  isDigit unit || unit == 43 || unit == 45 || unit == 46 || unit == 101

/-- What `Number.prototype.toString` promises of the numbers that are not infinite or NaN:
a text of digits, signs, a point and an exponent, and no text twice. -/
structure NumberText (ν : Type) where
  finite : ν → Bool
  text : ν → JsString
  text_ne_nil : ∀ value, finite value = true → text value ≠ []
  text_units : ∀ value, finite value = true → ∀ unit ∈ text value, JsString.isNumberUnit unit = true
  text_injective : ∀ value other, finite value = true → finite other = true →
    text value = text other → value = other

namespace JsString

/-! ## String literals -/

/-- A hexadecimal digit, in lower case. -/
def hexUnit (digit : Nat) : UInt16 := if digit < 10 then (48 + digit).toUInt16 else (87 + digit).toUInt16

/-- The escape of a unit by its number. -/
def unicodeEscape (unit : UInt16) : JsString :=
  [92, 117, hexUnit (unit.toNat / 4096), hexUnit (unit.toNat / 256 % 16),
    hexUnit (unit.toNat / 16 % 16), hexUnit (unit.toNat % 16)]

/-- The unit a letter behind a backslash stands for. -/
def unescape (letter : UInt16) : Option UInt16 :=
  if letter = 98 then some 8 else if letter = 116 then some 9 else if letter = 110 then some 10
  else if letter = 102 then some 12 else if letter = 114 then some 13
  else if letter = 34 then some 34 else if letter = 92 then some 92 else none

/-- A unit inside a literal; a surrogate is given here only where it stands alone. -/
def escapeUnit (unit : UInt16) : JsString :=
  if unit = 8 then [92, 98] else if unit = 9 then [92, 116] else if unit = 10 then [92, 110]
  else if unit = 12 then [92, 102] else if unit = 13 then [92, 114]
  else if unit = 34 then [92, 34] else if unit = 92 then [92, 92]
  else if unit < 0x20 || isSurrogate unit then unicodeEscape unit
  else [unit]

/-- The inside of the literal of a string. -/
def quoteBody : JsString → JsString
  | [] => []
  | [unit] => escapeUnit unit
  | unit :: next :: rest =>
    if isHighSurrogate unit && isLowSurrogate next then unit :: next :: quoteBody rest
    else escapeUnit unit ++ quoteBody (next :: rest)

/-- The literal of a string. -/
def quote (value : JsString) : JsString := 34 :: (quoteBody value ++ [34])

/-- The word stands for the unit inside a literal. -/
inductive Spells (unit : UInt16) : JsString → Prop
  | raw (notQuote : unit ≠ 34) (notBackslash : unit ≠ 92) : Spells unit [unit]
  | letter {letter : UInt16} (stands : unescape letter = some unit) : Spells unit [92, letter]
  | unicode : Spells unit (unicodeEscape unit)

/-- The text is a literal's inside that stands for the string. -/
inductive Quoted : JsString → JsString → Prop
  | nil : Quoted [] []
  | cons {unit : UInt16} {rest word text : JsString} (spells : Spells unit word)
      (later : Quoted rest text) : Quoted (unit :: rest) (word ++ text)

theorem hexUnit_injective {first second : Nat} (small : first < 16) (small' : second < 16)
    (same : hexUnit first = hexUnit second) : first = second := by
  have all : ∀ first second : Fin 16, hexUnit first = hexUnit second → first = second := by decide
  exact Fin.val_eq_of_eq (all ⟨first, small⟩ ⟨second, small'⟩ same)

theorem unicodeEscape_injective {unit other : UInt16}
    (same : unicodeEscape unit = unicodeEscape other) : unit = other := by
  have bound : unit.toNat < 65536 := unit.toNat_lt
  have bound' : other.toNat < 65536 := other.toNat_lt
  simp only [unicodeEscape, List.cons.injEq, and_true, true_and] at same
  obtain ⟨one, two, three, four⟩ := same
  have one := hexUnit_injective (by omega) (by omega) one
  have two := hexUnit_injective (by omega) (by omega) two
  have three := hexUnit_injective (by omega) (by omega) three
  have four := hexUnit_injective (by omega) (by omega) four
  exact UInt16.toNat_inj.1 (by omega)

variable {rest rest' : JsString}

theorem Spells.cut {unit other : UInt16} {word word' : JsString} (one : Spells unit word)
    (two : Spells other word') (same : word ++ rest = word' ++ rest') :
    unit = other ∧ rest = rest' := by
  have hex : unescape 117 = none := by decide
  cases one with
  | raw notQuote notBackslash =>
    cases two with
    | raw _ _ => exact List.cons.inj same
    | letter _ | unicode => exact absurd (List.cons.inj same).1 notBackslash
  | @letter letter stands =>
    cases two with
    | raw _ notBackslash => exact absurd (List.cons.inj same).1.symm notBackslash
    | @letter letter' stands' =>
      obtain ⟨rfl, rest⟩ := List.cons.inj (List.cons.inj same).2
      exact ⟨Option.some.inj (stands.symm.trans stands'), rest⟩
    | unicode =>
      obtain ⟨rfl, -⟩ := List.cons.inj (List.cons.inj same).2
      exact absurd (hex.symm.trans stands) nofun
  | unicode =>
    cases two with
    | raw _ notBackslash => exact absurd (List.cons.inj same).1.symm notBackslash
    | @letter letter stands =>
      obtain ⟨rfl, -⟩ := List.cons.inj (List.cons.inj same).2
      exact absurd (hex.symm.trans stands) nofun
    | unicode =>
      obtain ⟨escaped, rest⟩ := List.append_inj same rfl
      exact ⟨unicodeEscape_injective escaped, rest⟩

theorem Spells.ne_quote {unit : UInt16} {word : JsString} (spells : Spells unit word) :
    word ++ rest ≠ 34 :: rest' := by
  intro same
  cases spells with
  | raw notQuote _ => exact notQuote (List.cons.inj same).1
  | letter _ | unicode => exact absurd (List.cons.inj same).1 (by decide)

theorem spells_escapeUnit (unit : UInt16) : Spells unit (escapeUnit unit) := by
  rw [escapeUnit]
  split_ifs with h₁ h₂ h₃ h₄ h₅ h₆ h₇
  · exact .letter (by rw [h₁]; decide)
  · exact .letter (by rw [h₂]; decide)
  · exact .letter (by rw [h₃]; decide)
  · exact .letter (by rw [h₄]; decide)
  · exact .letter (by rw [h₅]; decide)
  · exact .letter (by rw [h₆]; decide)
  · exact .letter (by rw [h₇]; decide)
  · exact .unicode
  · exact .raw h₆ h₇

theorem spells_surrogate {unit : UInt16} (surrogate : isSurrogate unit = true) :
    Spells unit [unit] := by
  refine .raw ?_ ?_
  all_goals
    rintro rfl
    exact absurd surrogate (by decide)

theorem quoted_quoteBody (value : JsString) : Quoted value (quoteBody value) := by
  fun_induction quoteBody value with
  | case1 => exact .nil
  | case2 unit =>
    have spelled := Quoted.cons (spells_escapeUnit unit) .nil
    rwa [List.append_nil] at spelled
  | case3 unit next rest pair ih =>
    obtain ⟨first, second⟩ := Bool.and_eq_true_iff.1 pair
    have high : isSurrogate unit = true := by rw [isSurrogate, first, Bool.true_or]
    have low : isSurrogate next = true := by rw [isSurrogate, second, Bool.or_true]
    exact .cons (spells_surrogate high) (.cons (spells_surrogate low) ih)
  | case4 unit next rest pair ih => exact .cons (spells_escapeUnit unit) ih

variable {text : JsString}

variable {other : JsString}

theorem Quoted.cut {value text' : JsString} (one : Quoted value text) (two : Quoted other text')
    (same : text ++ 34 :: rest = text' ++ 34 :: rest') : value = other ∧ rest = rest' := by
  induction one generalizing other text' with
  | nil =>
    cases two with
    | nil => exact ⟨rfl, (List.cons.inj same).2⟩
    | cons spells _ =>
      rw [List.append_assoc] at same
      exact absurd same.symm spells.ne_quote
  | cons spells _ ih =>
    cases two with
    | nil =>
      rw [List.append_assoc] at same
      exact absurd same spells.ne_quote
    | cons spells' later' =>
      rw [List.append_assoc, List.append_assoc] at same
      obtain ⟨rfl, same⟩ := spells.cut spells' same
      obtain ⟨rfl, rest⟩ := ih later' same
      exact ⟨rfl, rest⟩

theorem quote_cut {value : JsString} (same : quote value ++ rest = quote other ++ rest') :
    value = other ∧ rest = rest' := by
  refine (quoted_quoteBody value).cut (quoted_quoteBody other) ?_
  simpa [quote] using same

/-! ## Texts that leave what follows them well formed -/

/-- Whatever follows the text is as well formed as it was alone. -/
def Neutral (text : JsString) : Prop := ∀ rest, isWellFormed (text ++ rest) = isWellFormed rest

theorem neutral_nil : Neutral [] := fun _ => rfl

theorem Neutral.append (one : Neutral text) (two : Neutral other) : Neutral (text ++ other) := by
  intro rest
  rw [List.append_assoc, one, two]

theorem Neutral.cons {unit : UInt16} (alone : isSurrogate unit = false) (later : Neutral text) :
    Neutral (unit :: text) := by
  intro rest
  have notHigh : isHighSurrogate unit = false := (Bool.or_eq_false_iff.1 alone).1
  rw [List.cons_append, ← later rest]
  cases text ++ rest with
  | nil => simp [isWellFormed, alone]
  | cons next rest => simp [isWellFormed, alone, notHigh]

theorem neutral_of_all (alone : ∀ unit ∈ text, isSurrogate unit = false) : Neutral text := by
  induction text with
  | nil => exact neutral_nil
  | cons unit text ih =>
    rw [List.forall_mem_cons] at alone
    exact (ih alone.2).cons alone.1

theorem hexUnit_alone {digit : Nat} (small : digit < 16) : isSurrogate (hexUnit digit) = false := by
  have all : ∀ digit : Fin 16, isSurrogate (hexUnit digit) = false := by decide
  exact all ⟨digit, small⟩

theorem neutral_of_letters (letters : text.all fun unit => !isSurrogate unit) : Neutral text :=
  neutral_of_all (by simpa using letters)

theorem neutral_unicodeEscape (unit : UInt16) : Neutral (unicodeEscape unit) := by
  have bound : unit.toNat < 65536 := unit.toNat_lt
  refine neutral_of_all ?_
  simp only [unicodeEscape, List.forall_mem_cons]
  exact ⟨by decide, by decide, hexUnit_alone (by omega), hexUnit_alone (by omega),
    hexUnit_alone (by omega), hexUnit_alone (by omega), List.forall_mem_nil _⟩

theorem neutral_escapeUnit (unit : UInt16) : Neutral (escapeUnit unit) := by
  rw [escapeUnit]
  split_ifs with _ _ _ _ _ _ _ special
  · exact neutral_of_letters (by decide)
  · exact neutral_of_letters (by decide)
  · exact neutral_of_letters (by decide)
  · exact neutral_of_letters (by decide)
  · exact neutral_of_letters (by decide)
  · exact neutral_of_letters (by decide)
  · exact neutral_of_letters (by decide)
  · exact neutral_unicodeEscape unit
  · rw [Bool.or_eq_true, not_or, Bool.not_eq_true] at special
    exact neutral_nil.cons (by simpa using special.2)

theorem neutral_quoteBody (value : JsString) : Neutral (quoteBody value) := by
  fun_induction quoteBody value with
  | case1 => exact neutral_nil
  | case2 unit => exact neutral_escapeUnit unit
  | case3 unit next rest pair ih =>
    intro later
    rw [List.cons_append, List.cons_append, isWellFormed, if_pos pair, ih]
  | case4 unit next rest pair ih => exact (neutral_escapeUnit unit).append ih

theorem neutral_quote (value : JsString) : Neutral (quote value) :=
  ((neutral_quoteBody value).append (neutral_of_letters (by decide))).cons (by decide)

/-! ## Words joined with commas -/

/-- `words.join(",")`. -/
def joined : List JsString → JsString
  | [] => []
  | word :: words => word ++ words.flatMap fun word => 44 :: word

theorem neutral_joined {words : List JsString} (each : ∀ word ∈ words, Neutral word) :
    Neutral (joined words) := by
  have tail (words : List JsString) (each : ∀ word ∈ words, Neutral word) :
      Neutral (words.flatMap fun word => 44 :: word) := by
    induction words with
    | nil => exact neutral_nil
    | cons word words ih =>
      rw [List.forall_mem_cons] at each
      exact (each.1.cons (by decide)).append (ih each.2)
  cases words with
  | nil => exact neutral_nil
  | cons word words =>
    rw [List.forall_mem_cons] at each
    exact each.1.append (tail words each.2)

/-- A value may end in front of the text. -/
def Ends (rest : JsString) : Prop :=
  ∀ unit, rest.head? = some unit → unit = 44 ∨ unit = 93 ∨ unit = 125

theorem ends_cons {unit : UInt16} (mark : unit = 44 ∨ unit = 93 ∨ unit = 125) :
    Ends (unit :: rest) := by
  intro first same
  obtain rfl := Option.some.inj same
  exact mark

variable {close : UInt16}

theorem ends_tail (closes : close = 93 ∨ close = 125) (words : List JsString) (rest : JsString) :
    Ends ((words.flatMap fun word => 44 :: word) ++ close :: rest) := by
  cases words with
  | nil => exact ends_cons (.inr closes)
  | cons word words => exact ends_cons (.inl rfl)

theorem joined_cut {α : Type*} {word : α → JsString} (closes : close = 93 ∨ close = 125)
    {values others : List α}
    (starts : ∀ value ∈ values, ∀ later, word value ++ later ≠ close :: rest')
    (starts' : ∀ other ∈ others, ∀ later, word other ++ later ≠ close :: rest)
    (cut : ∀ value ∈ values, ∀ other ∈ others, ∀ later later', Ends later → Ends later' →
      word value ++ later = word other ++ later' → value = other ∧ later = later')
    (same : joined (values.map word) ++ close :: rest = joined (others.map word) ++ close :: rest')
    :
    values = others ∧ rest = rest' := by
  have notComma : (44 : UInt16) ≠ close := by
    rcases closes with rfl | rfl
    · decide
    · decide
  have tail (values others : List α)
      (cut : ∀ value ∈ values, ∀ other ∈ others, ∀ later later', Ends later → Ends later' →
        word value ++ later = word other ++ later' → value = other ∧ later = later')
      (same : ((values.map word).flatMap fun word => 44 :: word) ++ close :: rest =
        ((others.map word).flatMap fun word => 44 :: word) ++ close :: rest') :
      values = others ∧ rest = rest' := by
    induction values generalizing others with
    | nil =>
      cases others with
      | nil => exact ⟨rfl, (List.cons.inj same).2⟩
      | cons other others => exact absurd (List.cons.inj same).1.symm notComma
    | cons value values ih =>
      cases others with
      | nil => exact absurd (List.cons.inj same).1 notComma
      | cons other others =>
        simp only [List.map_cons, List.flatMap_cons, List.cons_append, List.append_assoc,
          List.cons.injEq, true_and] at same
        obtain ⟨rfl, tails⟩ := cut value List.mem_cons_self other List.mem_cons_self _ _
          (ends_tail closes _ _) (ends_tail closes _ _) same
        obtain ⟨rfl, rest⟩ := ih others (fun value inside other inside' =>
          cut value (List.mem_cons_of_mem _ inside) other (List.mem_cons_of_mem _ inside')) tails
        exact ⟨rfl, rest⟩
  cases values with
  | nil =>
    cases others with
    | nil => exact ⟨rfl, (List.cons.inj same).2⟩
    | cons other others =>
      simp only [List.map_cons, joined, List.append_assoc] at same
      exact absurd same.symm (starts' other List.mem_cons_self _)
  | cons value values =>
    cases others with
    | nil =>
      simp only [List.map_cons, joined, List.append_assoc] at same
      exact absurd same (starts value List.mem_cons_self _)
    | cons other others =>
      simp only [List.map_cons, joined, List.append_assoc] at same
      obtain ⟨rfl, tails⟩ := cut value List.mem_cons_self other List.mem_cons_self _ _
        (ends_tail closes _ _) (ends_tail closes _ _) same
      obtain ⟨rfl, rest⟩ := tail values others (fun value inside other inside' =>
        cut value (List.mem_cons_of_mem _ inside) other (List.mem_cons_of_mem _ inside')) tails
      exact ⟨rfl, rest⟩

end JsString

open JsString

theorem alone_of_isNumberUnit {unit : UInt16} (ofNumber : isNumberUnit unit = true) :
    isSurrogate unit = false := by
  simp only [isNumberUnit, Bool.or_eq_true, beq_iff_eq] at ofNumber
  rcases ofNumber with (((digit | rfl) | rfl) | rfl) | rfl
  · simp only [isDigit, Bool.and_eq_true, decide_eq_true_eq] at digit
    have bound : unit.toNat ≤ 57 := UInt16.le_iff_toNat_le.mp digit.2
    rw [Bool.eq_false_iff, ne_eq, isSurrogate_iff]
    omega
  all_goals decide

theorem NumberText.cut {ν : Type} (numbers : NumberText ν) {value other : ν}
    {rest rest' : JsString} (one : numbers.finite value = true) (two : numbers.finite other = true)
    (ends : Ends rest) (ends' : Ends rest')
    (same : numbers.text value ++ rest = numbers.text other ++ rest') :
    value = other ∧ rest = rest' := by
  have whole {value : ν} (one : numbers.finite value = true) {rest : JsString} (ends : Ends rest) :
      (numbers.text value ++ rest).takeWhile isNumberUnit = numbers.text value := by
    rw [List.takeWhile_append_of_pos (numbers.text_units value one)]
    cases rest with
    | nil => simp
    | cons unit rest =>
      have stop : isNumberUnit unit = false := by
        rcases ends unit rfl with rfl | rfl | rfl <;> decide
      rw [List.takeWhile_cons_of_neg (by simp [stop]), List.append_nil]
  have texts : numbers.text value = numbers.text other := by
    rw [← whole one ends, same, whole two ends']
  rw [texts] at same
  exact ⟨numbers.text_injective value other one two texts, List.append_cancel_left same⟩

namespace Json

variable {ν : Type}

/-! ## The text of a value -/

mutual
/-- The text of a value. `undefined` has none: it is left out before the text is written. -/
def render (numbers : NumberText ν) : Json ν → JsString
  | .undefined => []
  | .null => [110, 117, 108, 108]
  | .bool true => [116, 114, 117, 101]
  | .bool false => [102, 97, 108, 115, 101]
  | .number value => numbers.text value
  | .string value => quote value
  | .array items => 91 :: (joined (renderItems numbers items) ++ [93])
  | .object members => 123 :: (joined (renderMembers numbers members) ++ [125])

def renderItems (numbers : NumberText ν) : List (Json ν) → List JsString
  | [] => []
  | item :: items => render numbers item :: renderItems numbers items

def renderMembers (numbers : NumberText ν) : List (JsString × Json ν) → List JsString
  | [] => []
  | (key, value) :: members =>
    (quote key ++ 58 :: render numbers value) :: renderMembers numbers members
end

theorem renderItems_eq (numbers : NumberText ν) (items : List (Json ν)) :
    renderItems numbers items = items.map (render numbers) := by
  induction items with
  | nil => rfl
  | cons item items ih => rw [renderItems, ih, List.map_cons]

theorem renderMembers_eq (numbers : NumberText ν) (members : List (JsString × Json ν)) :
    renderMembers numbers members =
      members.map fun member => quote member.1 ++ 58 :: render numbers member.2 := by
  induction members with
  | nil => rfl
  | cons member members ih => rw [renderMembers, ih, List.map_cons]

/-- JSON can represent the value: nothing in it is undefined, and its numbers are finite. -/
abbrev Representable (numbers : NumberText ν) (value : Json ν) : Prop :=
  Throughout (fun value => value.isUndefined = false ∧
    ∀ number, value = .number number → numbers.finite number = true) value

/-- The kind of a value that its text starts as. -/
def kind : Json ν → Nat
  | .undefined => 0
  | .null => 1
  | .bool true => 2
  | .bool false => 3
  | .string _ => 4
  | .array _ => 5
  | .object _ => 6
  | .number _ => 7

/-- The kind of value a text starts, by its first unit. -/
def kindOf (unit : UInt16) : Nat :=
  if isNumberUnit unit then 7 else if unit = 110 then 1 else if unit = 116 then 2
  else if unit = 102 then 3 else if unit = 34 then 4 else if unit = 91 then 5
  else if unit = 123 then 6 else 0

variable {numbers : NumberText ν} {value : Json ν}

theorem head_render (representable : Representable numbers value) (rest : JsString) :
    ((render numbers value ++ rest).head?).map kindOf = some value.kind := by
  cases value with
  | undefined => exact nomatch (show true = false from representable.here.1)
  | null => rfl
  | bool value => cases value <;> rfl
  | number value =>
    have finite := representable.here.2 value rfl
    rw [render]
    cases written : numbers.text value with
    | nil => exact absurd written (numbers.text_ne_nil value finite)
    | cons unit later =>
      have ofNumber : isNumberUnit unit = true :=
        numbers.text_units value finite unit (by simp [written])
      simp [kindOf, ofNumber, kind]
  | string value => rfl
  | array items => rfl
  | object members => rfl

variable {other : Json ν}

theorem kind_eq (one : Representable numbers value) (two : Representable numbers other)
    {rest rest' : JsString} (same : render numbers value ++ rest = render numbers other ++ rest') :
    value.kind = other.kind := by
  rw [← Option.some_inj, ← head_render one rest, same, head_render two rest']

theorem render_ne_close (representable : Representable numbers value) (later rest : JsString) :
    render numbers value ++ later ≠ 93 :: rest := by
  intro same
  have kinds := head_render representable later
  rw [same] at kinds
  have none : value.kind = 0 := (Option.some.inj kinds).symm
  cases value with
  | undefined => exact nomatch (show true = false from representable.here.1)
  | bool value => cases value <;> cases none
  | null | number | string | array | object => cases none

/-- A representable value is read off the front of a text that goes on with a comma, a
closing bracket or nothing. -/
theorem render_cut (one : Representable numbers value) (two : Representable numbers other)
    {rest rest' : JsString} (ends : Ends rest) (ends' : Ends rest')
    (same : render numbers value ++ rest = render numbers other ++ rest') :
    value = other ∧ rest = rest' := by
  induction one generalizing other rest rest' with
  | @intro value here inside ih =>
    have kinds := kind_eq (.intro here inside) two same
    cases value with
    | undefined => exact nomatch (show true = false from here.1)
    | null =>
      cases other with
      | null => exact ⟨rfl, List.append_cancel_left same⟩
      | bool value => cases value <;> cases kinds
      | undefined | number | string | array | object => cases kinds
    | bool value =>
      cases other with
      | bool other =>
        cases value <;> cases other <;>
          first | exact ⟨rfl, List.append_cancel_left same⟩ | cases kinds
      | undefined | null | number | string | array | object => cases value <;> cases kinds
    | number value =>
      cases other with
      | number other =>
        obtain ⟨rfl, rest⟩ := numbers.cut (here.2 value rfl) (two.here.2 other rfl) ends ends' same
        exact ⟨rfl, rest⟩
      | bool value => cases value <;> cases kinds
      | undefined | null | string | array | object => cases kinds
    | string value =>
      cases other with
      | string other =>
        obtain ⟨rfl, rest⟩ := quote_cut same
        exact ⟨rfl, rest⟩
      | bool value => cases value <;> cases kinds
      | undefined | null | number | array | object => cases kinds
    | array items =>
      cases other with
      | array others =>
        simp only [render, renderItems_eq, List.cons_append, List.append_assoc,
          List.cons.injEq, true_and] at same
        obtain ⟨rfl, rest⟩ := joined_cut (.inl rfl)
          (fun item member later => render_ne_close (inside item member) later _)
          (fun other member later => render_ne_close (two.item member) later _)
          (fun item member other member' later later' ends ends' same =>
            ih item member (two.item member') ends ends' same) same
        exact ⟨rfl, rest⟩
      | bool value => cases value <;> cases kinds
      | undefined | null | number | string | object => cases kinds
    | object members =>
      cases other with
      | object others =>
        simp only [render, renderMembers_eq, List.cons_append, List.append_assoc,
          List.cons.injEq, true_and] at same
        have opens (member : JsString × Json ν) (later rest : JsString) :
            (quote member.1 ++ 58 :: render numbers member.2) ++ later ≠ 125 :: rest := by
          intro same
          exact absurd (List.cons.inj same).1 (by decide)
        obtain ⟨rfl, rest⟩ := joined_cut (.inr rfl) (fun member _ later => opens member later _)
          (fun other _ later => opens other later _)
          (fun member inOwn other inOther later later' ends ends' same => by
            rw [List.append_assoc, List.append_assoc] at same
            obtain ⟨keys, same⟩ := quote_cut same
            obtain ⟨values, rest⟩ := ih member.2 (List.mem_map_of_mem (f := Prod.snd) inOwn)
              (two.member inOther) ends ends' (List.cons.inj same).2
            exact ⟨Prod.ext keys values, rest⟩) same
        exact ⟨rfl, rest⟩
      | bool value => cases value <;> cases kinds
      | undefined | null | number | string | array => cases kinds

theorem render_injective (one : Representable numbers value) (two : Representable numbers other)
    (same : render numbers value = render numbers other) : value = other := by
  have nothing : Ends [] := fun _ same => nomatch same
  exact (render_cut one two nothing nothing (congrArg (· ++ []) same)).1

theorem neutral_render (representable : Representable numbers value) :
    Neutral (render numbers value) := by
  induction representable with
  | @intro value here inside ih =>
    cases value with
    | undefined => exact neutral_nil
    | null =>
      rw [render]
      exact neutral_of_letters (by decide)
    | bool value =>
      cases value
      all_goals
        rw [render]
        exact neutral_of_letters (by decide)
    | number value =>
      exact neutral_of_all fun unit member =>
        alone_of_isNumberUnit (numbers.text_units value (here.2 value rfl) unit member)
    | string value => exact neutral_quote value
    | array items =>
      rw [render, renderItems_eq]
      refine ((neutral_joined fun word member => ?_).append (neutral_of_letters (by decide))).cons
        (by decide)
      obtain ⟨item, inItems, rfl⟩ := List.mem_map.1 member
      exact ih item inItems
    | object members =>
      rw [render, renderMembers_eq]
      refine ((neutral_joined fun word member => ?_).append (neutral_of_letters (by decide))).cons
        (by decide)
      obtain ⟨⟨key, value⟩, inMembers, rfl⟩ := List.mem_map.1 member
      exact (neutral_quote key).append
        ((ih value (List.mem_map_of_mem (f := Prod.snd) inMembers)).cons (by decide))

/-! ## `JSON.stringify` -/

/-- What is written of a value: the members with a defined value, as they are listed, null
for an undefined element and for a number that is infinite or NaN. -/
def written (numbers : NumberText ν) : Json ν → Json ν :=
  rebuild {
    scalar := shown numbers.finite
    item := filled
    members := fun members => enumerate (members.filter fun member => !member.2.isUndefined) }

/-- `JSON.stringify(value)`. -/
def stringify (numbers : NumberText ν) (value : Json ν) : Option JsString :=
  if value.isUndefined then none else some (render numbers (written numbers value))

theorem written_object (numbers : NumberText ν) (members : List (JsString × Json ν)) :
    written numbers (.object members) =
      .object (enumerate ((members.map fun member => (member.1, written numbers member.2)).filter
        fun member => !member.2.isUndefined)) := rebuild_object _ members

theorem shows_written (numbers : NumberText ν) :
    Shows numbers.finite (fun _ => true) (written numbers) where
  toSelects := selects_rebuild (fun value _ => isUndefined_shown _ value) fun members _ =>
    (enumerate_perm _).trans (List.Perm.of_eq (List.filter_congr fun _ _ => by simp [kept]))
  scalar _ alone := rebuild_scalar _ alone
  array items := rebuild_array _ items

theorem representable_written (numbers : NumberText ν) (defined : value.isUndefined = false) :
    Representable numbers (written numbers value) := by
  induction value using byChildren with
  | step value ih =>
    cases alone : value.isScalar with
    | true =>
      rw [(shows_written numbers).scalar value alone]
      refine .intro ⟨(isUndefined_shown _ value).trans defined, fun number same => ?_⟩ ?_
      · cases value with
        | number value =>
          rw [shown] at same
          split at same
          · rename_i finite
            cases same
            exact finite
          · cases same
        | undefined | null | bool | string => cases same
        | array | object => cases alone
      · intro child inside
        cases value with
        | number value =>
          rw [shown] at inside
          split at inside
          · cases inside
          · cases inside
        | undefined | null | bool | string => cases inside
        | array | object => cases alone
    | false =>
      cases value with
      | array items =>
        rw [(shows_written numbers).array]
        refine .intro ⟨rfl, fun _ same => by cases same⟩ fun child inside => ?_
        obtain ⟨item, inItems, rfl⟩ := List.mem_map.1 inside
        cases gap : item.isUndefined with
        | true =>
          cases item with
          | undefined => exact .intro ⟨rfl, fun _ same => by cases same⟩ (by rintro _ ⟨⟩)
          | null | bool | number | string | array | object => cases gap
        | false =>
          rw [filled_of_defined (((shows_written numbers).isUndefined item).trans gap)]
          exact ih item inItems gap
      | object members =>
        rw [written_object]
        refine .intro ⟨rfl, fun _ same => by cases same⟩ fun child inside => ?_
        obtain ⟨member, listed, rfl⟩ := List.mem_map.1 inside
        obtain ⟨inMembers, isDefined⟩ :=
          List.mem_filter.1 ((enumerate_perm _).mem_iff.1 listed)
        obtain ⟨own, inOwn, rfl⟩ := List.mem_map.1 inMembers
        refine ih own.2 (List.mem_map_of_mem (f := Prod.snd) inOwn) ?_
        rw [← (shows_written numbers).isUndefined own.2]
        exact Bool.not_eq_true' _ ▸ isDefined
      | undefined | null | bool | number | string => cases alone

theorem stringify_eq_iff : stringify numbers value = stringify numbers other ↔
      written numbers value = written numbers other := by
  have undefinedWritten (value : Json ν) := (shows_written numbers).isUndefined value
  constructor
  · intro same
    rw [stringify, stringify] at same
    split_ifs at same with one two two
    · cases value with
      | undefined =>
        cases other with
        | undefined => rfl
        | null | bool | number | string | array | object => cases two
      | null | bool | number | string | array | object => cases one
    · exact render_injective (representable_written numbers (Bool.not_eq_true _ ▸ one))
        (representable_written numbers (Bool.not_eq_true _ ▸ two)) (Option.some.inj same)
  · intro same
    rw [stringify, stringify, ← undefinedWritten value, ← undefinedWritten other, same]

theorem isWellFormed_of_stringify {text : JsString} (writes : stringify numbers value = some text) :
    isWellFormed text = true := by
  rw [stringify] at writes
  split at writes
  · cases writes
  · rename_i defined
    obtain rfl := Option.some.inj writes
    have neutral := neutral_render (representable_written numbers (Bool.not_eq_true _ ▸ defined)) []
    rwa [List.append_nil] at neutral

/-- The whole numbers, written in decimal. -/
def wholeNumbers : NumberText Nat where
  finite _ := true
  text := JsString.ofNat
  text_ne_nil value _ := ofNat_ne_nil value
  text_units value _ unit member := by
    have digit := List.all_eq_true.1 (all_isDigit_ofNat value) unit member
    simp [isNumberUnit, digit]
  text_injective value other _ _ same := by
    rw [← decimalValue_ofNat value, same, decimalValue_ofNat]

end Json

theorem JsString.encodeText_inj {text other : JsString} (one : isWellFormed text = true)
    (two : isWellFormed other = true) (same : encodeText text = encodeText other) :
    text = other := by
  rw [← units_scalars_eq_self.2 one, utf8_injective same, units_scalars_eq_self.2 two]

end Vex.Library
