import Mathlib.Data.List.DropRight
import Mathlib.Data.List.Flatten
import Mathlib.Data.List.GetD
import Vex.Library.TextCodec

/-!
# Bounded diagnostics

A message of the host is shown on one line of bounded length. What is not UTF-8
in it and what is a control character becomes a space; what does not fit is cut
off at a character boundary and counted in a notice. The notice names the count,
so its length depends on the cut: the loop lowers the cut until the notice it
prints is the one the cut was computed from.

`settle` terminates because the cut falls from turn to turn. Where it ends, the
cut is a boundary (`boundary_of_runeStart`) and leaves room for the notice
(`settle_spec`); `diagnostic_bounded` says what is shown.
-/

namespace Vex.Bridge.Handshake

open Vex.Library.JsString (utf8)

/-- A string of Go: bytes, as many as an `int` counts. -/
abbrev GoString := { bytes : List UInt8 // bytes.length < 2 ^ 63 }

def stderrPrefix : String := "vex-mcp: "

def diagnosticMaxBytes : Nat := 512

def diagnosticBodyMaxBytes : Nat := diagnosticMaxBytes - stderrPrefix.utf8ByteSize - 1

/-- `utf8.RuneStart`. -/
def runeStart (byte : UInt8) : Bool := byte &&& 0xC0 != 0x80

/-- `utf8.DecodeRuneInString`, `none` where it finds no rune. -/
def decodeRune (bytes : List UInt8) : Option Char := bytes.toByteArray.utf8DecodeChar? 0

/-- `strings.ToValidUTF8` with U+FFFD: one for each run of bytes that are no rune;
`invalid` tells that the byte before was of such a run. -/
def toValidUTF8 (invalid : Bool) : List UInt8 → List Char
  | [] => []
  | byte :: rest =>
    match decodeRune (byte :: rest) with
    | none => if invalid then toValidUTF8 true rest else '\uFFFD' :: toValidUTF8 true rest
    | some rune => rune :: toValidUTF8 false ((byte :: rest).drop rune.utf8Size)
termination_by bytes => bytes.length
decreasing_by
  all_goals simp_wf
  all_goals have := rune.utf8Size_pos
  all_goals omega

/-- A rune as it is shown: no control character, and not U+FFFD. -/
def shown (rune : Char) : Char :=
  if rune = '\uFFFD' ∨ rune.toNat < 0x20 ∨ rune.toNat = 0x7F then ' ' else rune

/-- `unicode.IsSpace`. -/
def isSpace (rune : Char) : Bool :=
  (0x09 ≤ rune.toNat && rune.toNat ≤ 0x0D) || rune.toNat == 0x20 || rune.toNat == 0x85 ||
    rune.toNat == 0xA0 || rune.toNat == 0x1680 ||
    (0x2000 ≤ rune.toNat && rune.toNat ≤ 0x200A) || rune.toNat == 0x2028 ||
    rune.toNat == 0x2029 || rune.toNat == 0x202F || rune.toNat == 0x205F || rune.toNat == 0x3000

/-- `strings.TrimSpace`. -/
def trimSpace (text : List Char) : List Char := (text.dropWhile isSpace).rdropWhile isSpace

def cleaned (message : GoString) : List Char :=
  trimSpace ((toValidUTF8 false message.1).map shown)

/-- `omissionNotice`. -/
def omissionNotice (omitted total : Nat) : List Char :=
  " [".toList ++ Nat.toDigits 10 omitted ++ " more bytes omitted from a ".toList ++
    Nat.toDigits 10 total ++ "-byte host message]".toList

/-- A cut that is not a rune boundary is moved back to one. -/
def backUp (bytes : List UInt8) : Nat → Nat
  | 0 => 0
  | cut + 1 => if runeStart (bytes.getD (cut + 1) 0) then cut + 1 else backUp bytes cut

/-- The cut that leaves room for the notice of another. -/
def nextCut (bytes : List UInt8) (kept : Nat) : Nat :=
  backUp bytes (min kept (diagnosticBodyMaxBytes -
    (utf8 (omissionNotice (bytes.length - kept) bytes.length)).length))

theorem backUp_le (bytes : List UInt8) (cut : Nat) : backUp bytes cut ≤ cut := by
  induction cut with
  | zero => exact le_rfl
  | succ cut ih =>
    rw [backUp]
    split
    · exact le_rfl
    · exact Nat.le_succ_of_le ih

theorem nextCut_le (bytes : List UInt8) (kept : Nat) : nextCut bytes kept ≤ kept :=
  (backUp_le _ _).trans (Nat.min_le_left _ _)

/-- The loop of `Diagnostic`: the cut it ends at. -/
def settle (bytes : List UInt8) (kept : Nat) : Nat :=
  if nextCut bytes kept = kept then kept else settle bytes (nextCut bytes kept)
termination_by kept
decreasing_by exact (nextCut_le bytes kept).lt_of_ne ‹_›

/-- `Diagnostic`. -/
def diagnostic (message : GoString) : List UInt8 :=
  let bytes := utf8 (cleaned message)
  if bytes.length ≤ diagnosticBodyMaxBytes then bytes
  else
    let kept := settle bytes diagnosticBodyMaxBytes
    bytes.take kept ++ utf8 (omissionNotice (bytes.length - kept) bytes.length)

/-! ## Boundaries -/

theorem runeStart_behind (byte : UInt8) : runeStart (byte &&& 0x3F ||| 0x80) = false := by
  have bits : (byte &&& 0x3F ||| 0x80) &&& 0xC0 = 0x80 := by
    apply UInt8.eq_of_toBitVec_eq
    change (byte.toBitVec &&& 0x3F#8 ||| 0x80#8) &&& 0xC0#8 = 0x80#8
    rw [BitVec.and_or_distrib_right, BitVec.and_assoc]
    simp
  simp [runeStart, bits]

theorem runeStart_inside {rune : Char} {i : Nat} (behind : 0 < i)
    (inside : i < (String.utf8EncodeChar rune).length) :
    runeStart (String.utf8EncodeChar rune)[i] = false := by
  have bound := String.length_utf8EncodeChar rune ▸ inside
  rcases rune.utf8Size_eq with size | size | size | size <;> rw [size] at bound
  · omega
  · obtain rfl : i = 1 := by omega
    simp [String.utf8EncodeChar_eq_cons_cons size, runeStart_behind]
  · rcases (by omega : i = 1 ∨ i = 2) with rfl | rfl <;>
      simp [String.utf8EncodeChar_eq_cons_cons_cons size, runeStart_behind]
  · rcases (by omega : i = 1 ∨ i = 2 ∨ i = 3) with rfl | rfl | rfl <;>
      simp [String.utf8EncodeChar_eq_cons_cons_cons_cons size, runeStart_behind]

theorem utf8_append (front back : List Char) : utf8 (front ++ back) = utf8 front ++ utf8 back :=
  List.flatMap_append

theorem utf8_cons (rune : Char) (text : List Char) :
    utf8 (rune :: text) = String.utf8EncodeChar rune ++ utf8 text := List.flatMap_cons

variable {text : List Char}

/-- A place where a rune starts lies between the runes. -/
theorem boundary_of_runeStart {cut : Nat} (inside : cut < (utf8 text).length)
    (start : runeStart ((utf8 text).getD cut 0) = true) :
    ∃ front back, text = front ++ back ∧ (utf8 front).length = cut := by
  induction text generalizing cut with
  | nil => cases inside
  | cons rune text ih =>
    rw [utf8_cons] at inside start
    rcases Nat.eq_zero_or_pos cut with rfl | behind
    · exact ⟨[], rune :: text, rfl, rfl⟩
    · by_cases within : cut < (String.utf8EncodeChar rune).length
      · rw [List.getD_eq_getElem _ _ inside, List.getElem_append_left within,
          runeStart_inside behind within] at start
        cases start
      · have past := Nat.le_of_not_lt within
        rw [List.getD_append_right _ _ _ _ past] at start
        rw [List.length_append] at inside
        obtain ⟨front, back, rfl, size⟩ := ih (by omega) start
        refine ⟨rune :: front, back, rfl, ?_⟩
        rw [utf8_cons, List.length_append, size]
        omega

theorem backUp_boundary {cut : Nat} (inside : cut < (utf8 text).length) :
    ∃ front back, text = front ++ back ∧ (utf8 front).length = backUp (utf8 text) cut := by
  induction cut with
  | zero => exact ⟨[], text, rfl, rfl⟩
  | succ cut ih =>
    rw [backUp]
    split
    · next start => exact boundary_of_runeStart inside start
    · exact ih (Nat.lt_of_succ_lt inside)

/-! ## Lengths -/

theorem utf8_length_ascii (ascii : ∀ rune ∈ text, rune.toNat < 0x7F) :
    (utf8 text).length = text.length := by
  induction text with
  | nil => rfl
  | cons rune text ih =>
    obtain ⟨first, rest⟩ := List.forall_mem_cons.1 ascii
    have one : rune.utf8Size = 1 := Char.utf8Size_eq_one_iff.2 (by
      rw [UInt32.le_iff_toNat_le]
      exact Nat.le_of_lt first)
    rw [utf8_cons, List.length_append, String.length_utf8EncodeChar, one, ih rest,
      List.length_cons, Nat.add_comm]

theorem omissionNotice_printable (omitted total : Nat) :
    ∀ rune ∈ omissionNotice omitted total, 0x20 ≤ rune.toNat ∧ rune.toNat < 0x7F := by
  have digit (n : Nat) (rune : Char) (member : rune ∈ Nat.toDigits 10 n) :
      0x20 ≤ rune.toNat ∧ rune.toNat < 0x7F := by
    have range := Nat.isDigit_of_mem_toDigits (by decide) (by decide) member
    simp only [Char.isDigit, Bool.and_eq_true, decide_eq_true_eq, ge_iff_le,
      UInt32.le_iff_toNat_le] at range
    have low : 48 ≤ rune.toNat := range.1
    have high : rune.toNat ≤ 57 := range.2
    omega
  intro rune member
  simp only [omissionNotice, List.mem_append] at member
  rcases member with (((member | member) | member) | member) | member
  · revert rune
    simp
  · exact digit _ _ member
  · revert rune
    simp
  · exact digit _ _ member
  · revert rune
    simp

theorem omissionNotice_short {omitted total : Nat} (few : omitted < 2 ^ 63) (bound : total < 2 ^ 63) :
    (utf8 (omissionNotice omitted total)).length ≤ 86 := by
  have digits {n : Nat} (small : n < 2 ^ 63) : (Nat.toDigits 10 n).length ≤ 19 :=
    (Nat.length_toDigits_le_iff (by decide) (by decide)).2 (small.trans (by decide))
  have first := digits few
  have second := digits bound
  rw [utf8_length_ascii fun rune member => (omissionNotice_printable _ _ rune member).2]
  simp only [omissionNotice, List.length_append]
  have fixed : " [".toList.length + " more bytes omitted from a ".toList.length +
    "-byte host message]".toList.length = 48 := by decide
  omega

theorem shown_printable (rune : Char) : 0x20 ≤ (shown rune).toNat ∧ (shown rune).toNat ≠ 0x7F := by
  rw [shown]
  split
  · decide
  · next other => omega

theorem shown_size (rune : Char) : (shown rune).utf8Size ≤ rune.utf8Size := by
  rw [shown]
  split
  · exact rune.utf8Size_pos
  · exact le_rfl

theorem shown_length (invalid : Bool) (bytes : List UInt8) :
    (utf8 ((toValidUTF8 invalid bytes).map shown)).length ≤ bytes.length := by
  fun_induction toValidUTF8 invalid bytes with
  | case1 => exact Nat.zero_le _
  | case2 byte rest _ ih => exact ih.trans (Nat.le_succ _)
  | case3 invalid byte rest _ _ ih =>
    have one : (shown '\uFFFD').utf8Size = 1 := by decide
    rw [List.map_cons, utf8_cons, List.length_append, String.length_utf8EncodeChar, one,
      List.length_cons]
    omega
  | case4 invalid byte rest rune decoded ih =>
    have whole := ByteArray.le_size_of_utf8DecodeChar?_eq_some decoded
    have smaller := shown_size rune
    rw [List.map_cons, utf8_cons, List.length_append, String.length_utf8EncodeChar]
    rw [List.length_drop] at ih
    simp at whole ih ⊢
    omega

theorem trimSpace_sublist (text : List Char) : (trimSpace text).Sublist text :=
  (List.rdropWhile_prefix _ _).sublist.trans (List.dropWhile_suffix _).sublist

/-- A message does not grow when it is cleaned. -/
theorem cleaned_length (message : GoString) : (utf8 (cleaned message)).length < 2 ^ 63 :=
  (((trimSpace_sublist _).flatMap _).length_le.trans (shown_length false message.1)).trans_lt
    message.2

theorem cleaned_printable (message : GoString) :
    ∀ rune ∈ cleaned message, 0x20 ≤ rune.toNat ∧ rune.toNat ≠ 0x7F := by
  intro rune member
  obtain ⟨own, -, rfl⟩ := List.mem_map.1 ((trimSpace_sublist _).subset member)
  exact shown_printable own

/-! ## The cut -/

theorem diagnosticBodyMaxBytes_eq : diagnosticBodyMaxBytes = 502 := by decide

/-- The loop ends at a boundary that leaves room for the notice. -/
theorem settle_spec (long : 502 < (utf8 text).length) (bound : (utf8 text).length < 2 ^ 63)
    {kept : Nat} (within : kept ≤ 502) :
    ∃ front back, text = front ++ back ∧ (utf8 front).length = settle (utf8 text) kept ∧
      settle (utf8 text) kept + (utf8 (omissionNotice
        ((utf8 text).length - settle (utf8 text) kept) (utf8 text).length)).length ≤ 502 := by
  induction kept using Nat.strong_induction_on with
  | _ kept ih =>
    rw [settle]
    split
    · next same =>
        have short := omissionNotice_short (by omega : (utf8 text).length - kept < 2 ^ 63) bound
        rw [nextCut, diagnosticBodyMaxBytes_eq] at same
        generalize (utf8 (omissionNotice ((utf8 text).length - kept) (utf8 text).length)).length
          = notice at same short ⊢
        have below : min kept (502 - notice) < (utf8 text).length :=
          (Nat.min_le_left _ _).trans_lt (by omega)
        have room := backUp_le (utf8 text) (min kept (502 - notice))
        obtain ⟨front, back, whole, size⟩ := backUp_boundary below
        rw [same] at room size
        exact ⟨front, back, whole, size, by omega⟩
    · next moved =>
        have below := (nextCut_le (utf8 text) kept).lt_of_ne moved
        exact ih _ below (by omega)

/-- What is shown of a message: at most 502 bytes of UTF-8 without control characters, the
whole of the cleaned message where it fits, and otherwise a part of it from the front and a
notice that counts the bytes left out. -/
theorem diagnostic_bounded (message : GoString) :
    ∃ text, diagnostic message = utf8 text ∧ (diagnostic message).length ≤ 502 ∧
      (∀ rune ∈ text, 0x20 ≤ rune.toNat ∧ rune.toNat ≠ 0x7F) ∧
      ((utf8 (cleaned message)).length ≤ 502 → text = cleaned message) ∧
      (502 < (utf8 (cleaned message)).length → ∃ front back, cleaned message = front ++ back ∧
        text = front ++ omissionNotice (utf8 back).length (utf8 (cleaned message)).length) := by
  have bound := cleaned_length message
  have printable := cleaned_printable message
  rw [diagnostic, diagnosticBodyMaxBytes_eq]
  generalize cleaned message = text at bound printable ⊢
  by_cases fits : (utf8 text).length ≤ 502
  · rw [if_pos fits]
    exact ⟨text, rfl, fits, printable, fun _ => rfl, fun long => absurd fits (by omega)⟩
  · rw [if_neg fits]
    dsimp only
    obtain ⟨front, back, rfl, size, room⟩ := settle_spec (by omega) bound le_rfl
    have split := congrArg List.length (utf8_append front back)
    rw [List.length_append] at split
    have left : (utf8 back).length = (utf8 (front ++ back)).length -
        settle (utf8 (front ++ back)) 502 := by omega
    have head : (utf8 (front ++ back)).take (settle (utf8 (front ++ back)) 502) = utf8 front := by
      rw [← size, utf8_append, List.take_left]
    have notice := omissionNotice_printable (utf8 back).length (utf8 (front ++ back)).length
    refine ⟨front ++ omissionNotice (utf8 back).length (utf8 (front ++ back)).length, ?_, ?_, ?_,
      fun short => absurd short fits, fun _ => ⟨front, back, rfl, rfl⟩⟩
    · rw [head, ← left, utf8_append front (omissionNotice _ _)]
    · rw [head, List.length_append, size]
      exact room
    · intro rune member
      rcases List.mem_append.1 member with kept | told
      · exact printable rune (List.mem_append_left _ kept)
      · have range := notice rune told
        omega

end Vex.Bridge.Handshake
