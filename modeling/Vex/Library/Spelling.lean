import Vex.Library.TextCodec

/-!
# Texts spelled in another alphabet

A spelling writes each character of one alphabet as characters of another. Some
characters are spelled by one of their own, which occurs in the spelling of no
other: a text that begins with it, contains it or ends with it is the spelling of
one that does. UTF-16 and UTF-8 are such spellings, with the characters of the
basic plane and those of ASCII for the ones with a spelling of their own.
-/

namespace Vex.Library

/-- A spelling of the characters of one alphabet in another. -/
structure Spelling (α β : Type*) where
  encode : α → List β
  encode_ne_nil : ∀ c, encode c ≠ []
  /-- The characters that are spelled by one of their own. -/
  IsSingle : α → Prop
  code : α → β
  encode_single : ∀ c, IsSingle c → encode c = [code c]
  own : ∀ c d, IsSingle c → code c ∈ encode d → d = c

namespace Spelling

variable {α β : Type*} (s : Spelling α β)

def spell (text : List α) : List β := text.flatMap s.encode

@[simp] theorem spell_nil : s.spell [] = [] := rfl

@[simp] theorem spell_cons (c : α) (text : List α) :
    s.spell (c :: text) = s.encode c ++ s.spell text := List.flatMap_cons

@[simp] theorem spell_append (text rest : List α) :
    s.spell (text ++ rest) = s.spell text ++ s.spell rest := List.flatMap_append

variable {text : List α}

@[simp] theorem spell_eq_nil : s.spell text = [] ↔ text = [] := by
  cases text with
  | nil => simp
  | cons c text => simp [s.encode_ne_nil]

variable {s} {c : α} (single : s.IsSingle c)

include single

theorem code_mem_encode {d : α} : s.code c ∈ s.encode d ↔ d = c := by
  constructor
  · exact s.own c d single
  · rintro rfl
    rw [s.encode_single _ single]
    exact List.mem_singleton_self _

theorem code_mem_spell : s.code c ∈ s.spell text ↔ c ∈ text := by
  rw [spell, List.mem_flatMap]
  constructor
  · rintro ⟨d, member, spelled⟩
    rwa [(code_mem_encode single).1 spelled] at member
  · intro member
    exact ⟨c, member, (code_mem_encode single).2 rfl⟩

variable {spelled : List β}

theorem spell_eq_cons :
    s.spell text = s.code c :: spelled ↔ ∃ rest, text = c :: rest ∧ s.spell rest = spelled := by
  constructor
  · intro same
    cases text with
    | nil => exact absurd same (by simp)
    | cons front rest =>
      rw [spell_cons] at same
      have member : s.code c ∈ s.encode front := by
        cases first : s.encode front with
        | nil => exact absurd first (s.encode_ne_nil front)
        | cons b others =>
          rw [first, List.cons_append, List.cons.injEq] at same
          rw [same.1]
          exact List.mem_cons_self
      obtain rfl := s.own c front single member
      rw [s.encode_single _ single, List.singleton_append, List.cons.injEq] at same
      exact ⟨rest, rfl, same.2⟩
  · rintro ⟨rest, rfl, rfl⟩
    rw [spell_cons, s.encode_single _ single, List.singleton_append]

theorem head?_spell : (s.spell text).head? = some (s.code c) ↔ text.head? = some c := by
  cases text with
  | nil => simp
  | cons front rest =>
    rw [spell_cons, List.head?_append_of_ne_nil _ (s.encode_ne_nil front), List.head?_cons,
      Option.some.injEq]
    constructor
    · exact fun first => s.own c front single (List.mem_of_head? first)
    · rintro rfl
      rw [s.encode_single _ single, List.head?_cons]

theorem getLast?_spell : (s.spell text).getLast? = some (s.code c) ↔ text.getLast? = some c := by
  induction text using List.reverseRecOn with
  | nil => simp
  | append_singleton front d ih =>
    rw [spell_append, spell_cons, spell_nil, List.append_nil,
      List.getLast?_append_of_ne_nil _ (s.encode_ne_nil d), List.getLast?_concat,
      Option.some.injEq]
    constructor
    · exact fun last => s.own c d single (List.mem_of_getLast? last)
    · rintro rfl
      rw [s.encode_single _ single, List.getLast?_singleton]

omit single

theorem spell_eq_append {front : List α} (singles : ∀ c ∈ front, s.IsSingle c) :
    s.spell text = s.spell front ++ spelled
      ↔ ∃ rest, text = front ++ rest ∧ s.spell rest = spelled := by
  induction front generalizing text with
  | nil => simp
  | cons c front ih =>
    have single := singles c List.mem_cons_self
    rw [spell_cons, s.encode_single c single, List.singleton_append, List.cons_append,
      spell_eq_cons single]
    constructor
    · rintro ⟨rest, rfl, same⟩
      obtain ⟨others, rfl, last⟩ := (ih fun d member => singles d
        (List.mem_cons_of_mem _ member)).1 same
      exact ⟨others, rfl, last⟩
    · rintro ⟨others, rfl, rfl⟩
      exact ⟨front ++ others, rfl, by rw [spell_append]⟩

theorem spell_eq_map (singles : ∀ c ∈ text, s.IsSingle c) : s.spell text = text.map s.code := by
  induction text with
  | nil => rfl
  | cons c rest ih =>
    rw [spell_cons, s.encode_single c (singles c List.mem_cons_self),
      ih fun d member => singles d (List.mem_cons_of_mem _ member)]
    rfl

theorem take_spell (singles : ∀ c ∈ text, s.IsSingle c) (n : Nat) :
    (s.spell text).take n = s.spell (text.take n) := by
  rw [spell_eq_map singles, spell_eq_map fun c member => singles c (List.mem_of_mem_take member),
    List.map_take]

end Spelling

namespace JsString

/-! ## Code units and bytes -/

theorem unitsOfScalar_ne_nil (scalar : Nat) : unitsOfScalar scalar ≠ [] := by
  unfold unitsOfScalar
  split_ifs <;> simp

theorem eq_of_mem_unitsOfScalar {c d : Char} (single : c.toNat < 0x10000)
    (member : c.toNat.toUInt16 ∈ unitsOfScalar d.toNat) : d = c := by
  by_cases basic : d.toNat < 0x10000
  · rw [unitsOfScalar, if_pos basic, List.mem_singleton] at member
    have same : c.toNat = d.toNat := by
      have first : c.toNat.toUInt16.toNat = c.toNat := UInt16.toNat_ofNat_of_lt single
      have second : d.toNat.toUInt16.toNat = d.toNat := UInt16.toNat_ofNat_of_lt basic
      rw [← first, member, second]
    exact (Char.toNat_inj.1 same).symm
  · obtain ⟨high, low, spelled, first, second, -⟩ := unitsOfScalar_above basic
    rw [spelled] at member
    have range := scalar_range c
    have whole : c.toNat.toUInt16.toNat = c.toNat := UInt16.toNat_ofNat_of_lt single
    rw [isHighSurrogate_iff] at first
    rw [isLowSurrogate_iff] at second
    rcases List.mem_cons.1 member with same | member
    · rw [← same, whole] at first
      omega
    · rw [← List.mem_singleton.1 member, whole] at second
      omega

/-- The code units of a text: a character of the basic plane is one unit. -/
def unitSpelling : Spelling Char UInt16 where
  encode c := unitsOfScalar c.toNat
  encode_ne_nil _ := unitsOfScalar_ne_nil _
  IsSingle c := c.toNat < 0x10000
  code c := c.toNat.toUInt16
  encode_single c single := by rw [unitsOfScalar, if_pos single]
  own _ _ := eq_of_mem_unitsOfScalar

theorem utf8EncodeChar_high {c : Char} (above : ¬c.toNat < 0x80) :
    ∀ b ∈ String.utf8EncodeChar c, 0x80 ≤ b.toNat := by
  have high : ∀ part top : Nat, 0x80 ≤ top → part + top < 0x100 →
      0x80 ≤ (UInt8.ofNat (part + top)).toNat := by
    intro part top large small
    rw [UInt8.toNat_ofNat_of_lt' small]
    omega
  have long : ¬c.val.toNat ≤ 0x7f := fun short => above (Nat.lt_succ_of_le short)
  intro b member
  simp only [String.utf8EncodeChar, if_neg long] at member
  split_ifs at member
  all_goals
    simp only [List.mem_cons, List.not_mem_nil, or_false] at member
    rcases member with rfl | rfl | rfl | rfl <;> exact high _ _ (by omega) (by omega)

/-- The bytes of a text: a character of ASCII is one byte. -/
def byteSpelling : Spelling Char UInt8 where
  encode := String.utf8EncodeChar
  encode_ne_nil _ := String.utf8EncodeChar_ne_nil
  IsSingle c := c.toNat < 0x80
  code c := c.toNat.toUInt8
  encode_single c single := by
    have short : c.val.toNat ≤ 0x7f := Nat.le_of_lt_succ single
    simp only [String.utf8EncodeChar, if_pos short]
    rfl
  own c d single member := by
    have whole : c.toNat.toUInt8.toNat = c.toNat := UInt8.toNat_ofNat_of_lt (by
      rw [UInt8.size]
      omega)
    by_cases ascii : d.toNat < 0x80
    · have short : d.val.toNat ≤ 0x7f := Nat.le_of_lt_succ ascii
      simp only [String.utf8EncodeChar, if_pos short, List.mem_singleton] at member
      have same : d.toNat.toUInt8.toNat = d.toNat := UInt8.toNat_ofNat_of_lt (by
        rw [UInt8.size]
        omega)
      refine (Char.toNat_inj.1 ?_).symm
      rw [← whole, member, ← same]
      rfl
    · have large := utf8EncodeChar_high ascii _ member
      omega

/-- The hexadecimal digits of bytes, in lower case. -/
def hexText (bytes : List UInt8) : List Char :=
  bytes.flatMap fun b => [Nat.digitChar (b.toNat / 16), Nat.digitChar (b.toNat % 16)]

theorem ascii_of_all {text : List Char} (all : (text.all fun c => c.toNat < 0x80) = true) :
    ∀ c ∈ text, c.toNat < 0x80 := by
  simpa using all

theorem hexText_ascii (bytes : List UInt8) : ∀ c ∈ hexText bytes, c.toNat < 0x80 := by
  have digit : ∀ n : Fin 16, (Nat.digitChar n).toNat < 0x80 := by decide
  intro c member
  obtain ⟨b, -, written⟩ := List.mem_flatMap.1 member
  have small : b.toNat < 0x100 := b.toNat_lt
  rcases List.mem_cons.1 written with rfl | written
  · exact digit ⟨b.toNat / 16, by omega⟩
  · rw [List.mem_singleton.1 written]
    exact digit ⟨b.toNat % 16, by omega⟩

theorem hexText_injective : Function.Injective hexText := by
  have digit : ∀ first second : Fin 16, Nat.digitChar first = Nat.digitChar second →
      first = second := by decide
  intro bytes others same
  induction bytes generalizing others with
  | nil =>
    cases others with
    | nil => rfl
    | cons b others => cases same
  | cons b bytes ih =>
    cases others with
    | nil => cases same
    | cons c others =>
      have small : b.toNat < 0x100 := b.toNat_lt
      have small' : c.toNat < 0x100 := c.toNat_lt
      simp only [hexText, List.flatMap_cons, List.cons_append, List.nil_append,
        List.cons.injEq] at same
      obtain ⟨high, low, rest⟩ := same
      have high := Fin.val_eq_of_eq (digit ⟨b.toNat / 16, by omega⟩ ⟨c.toNat / 16, by omega⟩ high)
      have low := Fin.val_eq_of_eq (digit ⟨b.toNat % 16, by omega⟩ ⟨c.toNat % 16, by omega⟩ low)
      dsimp only at high low
      rw [ih rest, UInt8.toNat_inj.1 (by omega : b.toNat = c.toNat)]

end JsString

end Vex.Library
