import Vex.Library.JsString

/-!
# Text in UTF-8, as the platform's encoder and decoder write and read it

A string is a list of UTF-16 code units, so it need not be text: a surrogate
may stand alone. The encoder writes the scalar values of a string, with U+FFFD
for a lone surrogate. The decoder is the fatal one: it refuses bytes that are
not UTF-8, and it drops one byte order mark from the front.

Neither is the inverse of the other. What the decoder makes of an encoded
string is `received`, and it is the string itself exactly when the string is
well formed and has no byte order mark in front (`received_eq_self`). The bytes
the encoder writes for a decoded string are the decoded bytes exactly when
these had no mark in front (`encode_of_decode`).
-/

namespace Vex.Library.JsString

/-! ## Scalar values -/

/-- A unit that stands for no scalar value alone. -/
def isSurrogate (unit : UInt16) : Bool := isHighSurrogate unit || isLowSurrogate unit

/-- The scalar value of a unit that stands alone. -/
def scalarOfUnit (unit : UInt16) : Char :=
  if isSurrogate unit then '\uFFFD' else Char.ofNat unit.toNat

/-- The scalar value of a surrogate pair. -/
def scalarOfPair (high low : UInt16) : Char :=
  Char.ofNat (0x10000 + (high.toNat - 0xD800) * 0x400 + (low.toNat - 0xDC00))

/-- The scalar values of a string, a lone surrogate read as U+FFFD. -/
def scalars : JsString → List Char
  | [] => []
  | [unit] => [scalarOfUnit unit]
  | unit :: next :: rest =>
    if isHighSurrogate unit && isLowSurrogate next then
      scalarOfPair unit next :: scalars rest
    else scalarOfUnit unit :: scalars (next :: rest)

/-- `value.isWellFormed()`. -/
def isWellFormed : JsString → Bool
  | [] => true
  | [unit] => !isSurrogate unit
  | unit :: next :: rest =>
    if isHighSurrogate unit && isLowSurrogate next then isWellFormed rest
    else !isSurrogate unit && isWellFormed (next :: rest)

/-- The string of a list of scalar values. -/
def units (characters : List Char) : JsString :=
  characters.flatMap fun character => unitsOfScalar character.toNat

theorem isHighSurrogate_iff {unit : UInt16} :
    isHighSurrogate unit = true ↔ 0xD800 ≤ unit.toNat ∧ unit.toNat ≤ 0xDBFF := by
  simp only [isHighSurrogate, Bool.and_eq_true, decide_eq_true_eq, UInt16.le_iff_toNat_le]
  exact Iff.rfl

theorem isLowSurrogate_iff {unit : UInt16} :
    isLowSurrogate unit = true ↔ 0xDC00 ≤ unit.toNat ∧ unit.toNat ≤ 0xDFFF := by
  simp only [isLowSurrogate, Bool.and_eq_true, decide_eq_true_eq, UInt16.le_iff_toNat_le]
  exact Iff.rfl

theorem isSurrogate_iff {unit : UInt16} :
    isSurrogate unit = true ↔ 0xD800 ≤ unit.toNat ∧ unit.toNat ≤ 0xDFFF := by
  rw [isSurrogate, Bool.or_eq_true, isHighSurrogate_iff, isLowSurrogate_iff]
  omega

theorem scalar_range (character : Char) :
    character.toNat < 0xD800 ∨ 0xDFFF < character.toNat ∧ character.toNat < 0x110000 :=
  character.valid

theorem toNat_ofNat_of_valid {n : Nat} (valid : n < 0xD800 ∨ 0xDFFF < n ∧ n < 0x110000) :
    (Char.ofNat n).toNat = n := by
  rw [Char.ofNat, dif_pos valid]
  rfl

theorem unitsOfScalar_scalarOfUnit {unit : UInt16} (alone : isSurrogate unit = false) :
    unitsOfScalar (scalarOfUnit unit).toNat = [unit] := by
  have below : unit.toNat < 0x10000 := unit.toNat_lt
  have valid : unit.toNat < 0xD800 ∨ 0xDFFF < unit.toNat ∧ unit.toNat < 0x110000 := by
    have outside := mt isSurrogate_iff.2 (by rw [alone]; exact Bool.false_ne_true)
    omega
  rw [scalarOfUnit, alone, if_neg Bool.false_ne_true, toNat_ofNat_of_valid valid, unitsOfScalar,
    if_pos below]
  exact congrArg (fun one => [one]) (UInt16.ofNat_toNat)

theorem unitsOfScalar_scalarOfPair {high low : UInt16} (first : isHighSurrogate high = true)
    (second : isLowSurrogate low = true) :
    unitsOfScalar (scalarOfPair high low).toNat = [high, low] := by
  obtain ⟨fromHigh, toHigh⟩ := isHighSurrogate_iff.1 first
  obtain ⟨fromLow, toLow⟩ := isLowSurrogate_iff.1 second
  have highPart : 0xD800 + (0x10000 + (high.toNat - 0xD800) * 0x400 + (low.toNat - 0xDC00)
      - 0x10000) / 0x400 = high.toNat := by omega
  have lowPart : 0xDC00 + (0x10000 + (high.toNat - 0xD800) * 0x400 + (low.toNat - 0xDC00)
      - 0x10000) % 0x400 = low.toNat := by omega
  rw [scalarOfPair, toNat_ofNat_of_valid (by omega), unitsOfScalar, if_neg (by omega), highPart,
    lowPart]
  exact congrArg₂ (fun one two => [one, two]) UInt16.ofNat_toNat UInt16.ofNat_toNat

variable {character : Char}

theorem unitsOfScalar_basic (basic : character.toNat < 0x10000) :
    ∃ unit : UInt16, unitsOfScalar character.toNat = [unit] ∧ isSurrogate unit = false ∧
      scalarOfUnit unit = character := by
  have same : (character.toNat.toUInt16).toNat = character.toNat := UInt16.toNat_ofNat_of_lt basic
  have alone : isSurrogate character.toNat.toUInt16 = false := by
    rw [Bool.eq_false_iff, ne_eq, isSurrogate_iff, same]
    have range := scalar_range character
    omega
  refine ⟨character.toNat.toUInt16, by rw [unitsOfScalar, if_pos basic], alone, ?_⟩
  rw [scalarOfUnit, alone, if_neg Bool.false_ne_true, same, Char.ofNat_toNat]

theorem unitsOfScalar_above (above : ¬ character.toNat < 0x10000) :
    ∃ high low : UInt16, unitsOfScalar character.toNat = [high, low] ∧
      isHighSurrogate high = true ∧ isLowSurrogate low = true ∧
      scalarOfPair high low = character := by
  have range := scalar_range character
  have highUnit : (0xD800 + (character.toNat - 0x10000) / 0x400).toUInt16.toNat =
      0xD800 + (character.toNat - 0x10000) / 0x400 := UInt16.toNat_ofNat_of_lt (by rw [UInt16.size]; omega)
  have lowUnit : (0xDC00 + (character.toNat - 0x10000) % 0x400).toUInt16.toNat =
      0xDC00 + (character.toNat - 0x10000) % 0x400 := UInt16.toNat_ofNat_of_lt (by rw [UInt16.size]; omega)
  refine ⟨_, _, by rw [unitsOfScalar, if_neg above], ?_, ?_, ?_⟩
  · rw [isHighSurrogate_iff, highUnit]
    omega
  · rw [isLowSurrogate_iff, lowUnit]
    omega
  · have whole : 0x10000 + (0xD800 + (character.toNat - 0x10000) / 0x400 - 0xD800) * 0x400 +
        (0xDC00 + (character.toNat - 0x10000) % 0x400 - 0xDC00) = character.toNat := by omega
    rw [scalarOfPair, highUnit, lowUnit, whole, Char.ofNat_toNat]

theorem scalars_unitsOfScalar_append (character : Char) (rest : JsString) :
    scalars (unitsOfScalar character.toNat ++ rest) = character :: scalars rest := by
  by_cases basic : character.toNat < 0x10000
  · obtain ⟨unit, written, alone, same⟩ := unitsOfScalar_basic basic
    have notHigh : isHighSurrogate unit = false := (Bool.or_eq_false_iff.1 alone).1
    rw [written, List.singleton_append]
    cases rest with
    | nil => simp [scalars, same]
    | cons next rest => simp [scalars, same, notHigh]
  · obtain ⟨high, low, written, first, second, same⟩ := unitsOfScalar_above basic
    rw [written]
    simp [scalars, first, second, same]

theorem isWellFormed_unitsOfScalar_append (character : Char) (rest : JsString) :
    isWellFormed (unitsOfScalar character.toNat ++ rest) = isWellFormed rest := by
  by_cases basic : character.toNat < 0x10000
  · obtain ⟨unit, written, alone, -⟩ := unitsOfScalar_basic basic
    have notHigh : isHighSurrogate unit = false := (Bool.or_eq_false_iff.1 alone).1
    rw [written, List.singleton_append]
    cases rest with
    | nil => simp [isWellFormed, alone]
    | cons next rest => simp [isWellFormed, alone, notHigh]
  · obtain ⟨high, low, written, first, second, -⟩ := unitsOfScalar_above basic
    rw [written]
    simp [isWellFormed, first, second]

@[simp] theorem scalars_units (characters : List Char) :
    scalars (units characters) = characters := by
  induction characters with
  | nil => rfl
  | cons character characters ih =>
    rw [units, List.flatMap_cons, scalars_unitsOfScalar_append]
    exact congrArg (character :: ·) ih

theorem isWellFormed_units (characters : List Char) : isWellFormed (units characters) = true := by
  induction characters with
  | nil => rfl
  | cons character characters ih =>
    rw [units, List.flatMap_cons, isWellFormed_unitsOfScalar_append]
    exact ih

variable {value : JsString}

theorem units_scalars_eq_self : units (scalars value) = value ↔ isWellFormed value = true := by
  constructor
  · intro same
    rw [← same]
    exact isWellFormed_units _
  · fun_induction scalars value with
    | case1 => exact fun _ => rfl
    | case2 unit =>
      intro wellFormed
      have alone : isSurrogate unit = false := by simpa [isWellFormed] using wellFormed
      rw [units, List.flatMap_cons, unitsOfScalar_scalarOfUnit alone]
      rfl
    | case3 unit next rest pair ih =>
      intro wellFormed
      rw [isWellFormed, if_pos pair] at wellFormed
      obtain ⟨first, second⟩ := Bool.and_eq_true_iff.1 pair
      rw [units, List.flatMap_cons, unitsOfScalar_scalarOfPair first second]
      exact congrArg ([unit, next] ++ ·) (ih wellFormed)
    | case4 unit next rest pair ih =>
      intro wellFormed
      rw [isWellFormed, if_neg pair, Bool.and_eq_true, Bool.not_eq_true'] at wellFormed
      rw [units, List.flatMap_cons, unitsOfScalar_scalarOfUnit wellFormed.1]
      exact congrArg ([unit] ++ ·) (ih wellFormed.2)

theorem length_units_scalars (value : JsString) :
    (units (scalars value)).length = value.length := by
  have single (unit : UInt16) : (unitsOfScalar (scalarOfUnit unit).toNat).length = 1 := by
    cases alone : isSurrogate unit with
    | false => rw [unitsOfScalar_scalarOfUnit alone, List.length_singleton]
    | true => rw [scalarOfUnit, alone, if_pos rfl]; rfl
  fun_induction scalars value with
  | case1 => rfl
  | case2 unit => simp [units, single]
  | case3 unit next rest pair ih =>
    obtain ⟨first, second⟩ := Bool.and_eq_true_iff.1 pair
    rw [units] at ih ⊢
    rw [List.flatMap_cons, List.length_append, ih, unitsOfScalar_scalarOfPair first second]
    simp only [List.length_cons, List.length_nil]
    omega
  | case4 unit next rest pair ih =>
    rw [units] at ih ⊢
    rw [List.flatMap_cons, List.length_append, ih, single]
    simp only [List.length_cons]
    omega

/-! ## The encoder and the decoder -/

/-- Scalar values in UTF-8. -/
def utf8 (characters : List Char) : List UInt8 := characters.flatMap String.utf8EncodeChar

/-- `new TextEncoder().encode(value)`. -/
def encodeText (value : JsString) : List UInt8 := utf8 (scalars value)

/-- One byte order mark is dropped from the front. -/
def withoutMark : List Char → List Char
  | '\uFEFF' :: rest => rest
  | characters => characters

/-- `new TextDecoder("utf-8", { fatal: true }).decode(bytes)`, `none` where it throws. -/
def decodeText (bytes : List UInt8) : Option JsString :=
  bytes.toByteArray.utf8Decode?.map fun characters => units (withoutMark characters.toList)

/-- The byte order mark in UTF-8. -/
def markBytes : List UInt8 := [0xEF, 0xBB, 0xBF]

/-- The byte order mark in UTF-16. -/
def markUnit : UInt16 := 0xFEFF

/-- What the decoder makes of an encoded string. -/
def received (value : JsString) : JsString := units (withoutMark (scalars value))

variable {bytes : List UInt8}

theorem utf8Decode?_eq_some {characters : Array Char} :
    bytes.toByteArray.utf8Decode? = some characters ↔ bytes = utf8 characters.toList := by
  constructor
  · intro decoded
    have isSome : bytes.toByteArray.utf8Decode?.isSome = true := by rw [decoded]; rfl
    have written := ByteArray.utf8Encode_get_utf8Decode? (b := bytes.toByteArray) (h := isSome)
    have same : bytes.toByteArray.utf8Decode?.get isSome = characters := by simp [decoded]
    rw [same] at written
    have raw := congrArg (fun array => array.data.toList) written
    simpa [List.utf8Encode, utf8] using raw.symm
  · rintro rfl
    have decoded := List.utf8Decode?_utf8Encode (l := characters.toList)
    simpa [List.utf8Encode, utf8] using decoded

theorem decodeText_eq_some : decodeText bytes = some value ↔
      ∃ characters, bytes = utf8 characters ∧ value = units (withoutMark characters) := by
  simp only [decodeText, Option.map_eq_some_iff, utf8Decode?_eq_some]
  constructor
  · rintro ⟨characters, rfl, rfl⟩
    exact ⟨characters.toList, rfl, rfl⟩
  · rintro ⟨characters, rfl, rfl⟩
    exact ⟨characters.toArray, rfl, rfl⟩

theorem decodeText_encodeText (value : JsString) :
    decodeText (encodeText value) = some (received value) :=
  decodeText_eq_some.2 ⟨scalars value, rfl, rfl⟩

theorem utf8_injective {first second : List Char} (same : utf8 first = utf8 second) :
    first = second := by
  have decoded := utf8Decode?_eq_some.2 (Eq.refl (utf8 first.toArray.toList))
  have other := utf8Decode?_eq_some.2 (Eq.refl (utf8 second.toArray.toList))
  simp only [same] at decoded other
  rw [decoded, Option.some.injEq] at other
  simpa using congrArg Array.toList other

theorem markBytes_isPrefix_utf8 {characters : List Char} :
    markBytes <+: utf8 characters ↔ ∃ rest, characters = '\uFEFF' :: rest := by
  constructor
  · rintro ⟨rest, same⟩
    have whole := utf8Decode?_eq_some.2 (Eq.refl (utf8 characters.toArray.toList))
    have cut := ByteArray.utf8Decode?_utf8Encode_singleton_append (l := rest.toByteArray)
      (c := '\uFEFF')
    have joined : ['\uFEFF'].utf8Encode ++ rest.toByteArray = (utf8 characters).toByteArray := by
      rw [← same, List.toByteArray_append]
      rfl
    rw [joined, whole] at cut
    obtain ⟨later, -, appended⟩ := Option.map_eq_some_iff.1 cut.symm
    exact ⟨later.toList, by simpa using (congrArg Array.toList appended).symm⟩
  · rintro ⟨rest, rfl⟩
    exact ⟨utf8 rest, rfl⟩

theorem withoutMark_eq_self {characters : List Char}
    (absent : ¬ ∃ rest, characters = '\uFEFF' :: rest) : withoutMark characters = characters := by
  unfold withoutMark
  split
  · exact absurd ⟨_, rfl⟩ absent
  · rfl

theorem scalars_starts_with_mark :
    (∃ rest, scalars value = '\uFEFF' :: rest) ↔ value.head? = some markUnit := by
  have alone (unit : UInt16) : scalarOfUnit unit = '\uFEFF' ↔ unit = markUnit := by
    constructor
    · intro same
      cases surrogate : isSurrogate unit with
      | true =>
        rw [scalarOfUnit, surrogate, if_pos rfl] at same
        exact absurd same (by decide)
      | false =>
        have written := unitsOfScalar_scalarOfUnit surrogate
        rw [same] at written
        exact (List.singleton_inj.1 written).symm
    · rintro rfl
      rfl
  fun_cases scalars value with
  | case1 => simp
  | case2 unit => simp [alone]
  | case3 unit next rest pair =>
    obtain ⟨first, second⟩ := Bool.and_eq_true_iff.1 pair
    have written := unitsOfScalar_scalarOfPair first second
    constructor
    · rintro ⟨later, same⟩
      rw [(List.cons.inj same).1] at written
      have twoUnits : 1 = 2 := congrArg List.length written
      omega
    · intro same
      obtain rfl : unit = markUnit := by simpa using same
      exact absurd first (by decide)
  | case4 unit next rest pair => simp [alone]

theorem received_eq_self :
    received value = value ↔ isWellFormed value = true ∧ value.head? ≠ some markUnit := by
  by_cases marked : ∃ rest, scalars value = '\uFEFF' :: rest
  · have inFront := scalars_starts_with_mark.1 marked
    obtain ⟨rest, same⟩ := marked
    have shorter : (received value).length + 1 = value.length := by
      rw [← length_units_scalars value, received, same]
      rfl
    constructor
    · intro unchanged
      rw [unchanged] at shorter
      omega
    · exact fun unmarked => absurd inFront unmarked.2
  · have notInFront := mt scalars_starts_with_mark.2 marked
    rw [received, withoutMark_eq_self marked, units_scalars_eq_self]
    exact (and_iff_left notInFront).symm

theorem encode_of_decode (decoded : decodeText bytes = some value) :
    encodeText value = bytes ↔ ¬ markBytes <+: bytes := by
  obtain ⟨characters, rfl, rfl⟩ := decodeText_eq_some.1 decoded
  rw [encodeText, scalars_units, markBytes_isPrefix_utf8]
  by_cases marked : ∃ rest, characters = '\uFEFF' :: rest
  · obtain ⟨rest, rfl⟩ := marked
    constructor
    · intro same
      exact absurd (congrArg List.length (utf8_injective same)) (by simp [withoutMark])
    · exact fun unmarked => absurd ⟨rest, rfl⟩ unmarked
  · rw [withoutMark_eq_self marked]
    exact iff_of_true rfl marked

end Vex.Library.JsString
