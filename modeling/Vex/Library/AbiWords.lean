import Vex.Library.DecimalText

/-!
# Words of calldata

Calldata is a text of hexadecimal digits: a selector of four bytes and a body of
words of 32 bytes each. The decoder that reads static values out of a body is a
parameter here, with what every decoder does: where it reads a value of whole
bytes at all, the value is the word at its place, an address its last twenty
bytes (`AbiDecoder.words`). Whether it minds other bytes, the first twelve of an
address or bytes behind the last word, is left to it; `AbiDecoder.lenient` does
not.
-/

namespace Vex.Library

namespace JsString

/-! ## Integers from texts -/

/-- The number a hexadecimal digit stands for. -/
def hexDigitValue (unit : UInt16) : Nat :=
  if isDigit unit then unit.toNat - 48 else (lowerAscii unit).toNat - 87

/-- The number of a row of digits, to a base. -/
def digitsValue (base : Nat) (digits : JsString) : Nat :=
  digits.foldl (fun sum unit => sum * base + hexDigitValue unit) 0

/-- The digits of a literal, where they are digits to its base. -/
def literalValue (base : Nat) (digits : JsString) : Option Int :=
  if digits ≠ [] ∧ digits.all fun unit => isHexDigit unit && hexDigitValue unit < base then
    some (digitsValue base digits)
  else none

/-- `BigInt(value)`: blank is zero, only decimal digits have a sign. -/
def bigInt (value : JsString) : Option Int :=
  match value.trim with
  | [] => some 0
  | 48 :: 120 :: digits | 48 :: 88 :: digits => literalValue 16 digits
  | 48 :: 111 :: digits | 48 :: 79 :: digits => literalValue 8 digits
  | 48 :: 98 :: digits | 48 :: 66 :: digits => literalValue 2 digits
  | 43 :: digits => literalValue 10 digits
  | 45 :: digits => (literalValue 10 digits).map (- ·)
  | digits => literalValue 10 digits

/-- `/^0x[0-9a-fA-F]*$/`. -/
def isHexData (value : JsString) : Bool := value.take 2 = [48, 120] && (value.drop 2).all isHexDigit

end JsString

/-! ## Static values -/

/-- The types of a word. -/
inductive AbiType where
  | address
  | uint256
  | bytes32
  deriving DecidableEq

/-- A decoded word. -/
inductive AbiValue where
  | address (value : Nat)
  | uint256 (value : Nat)
  | bytes32 (value : Nat)
  deriving DecidableEq

/-- A word as a value of a type: an address is its last twenty bytes. -/
def AbiType.read : AbiType → Nat → AbiValue
  | .address, word => .address (word % 2 ^ 160)
  | .uint256, word => .uint256 word
  | .bytes32, word => .bytes32 word

/-- The word of a body at a place. -/
def abiWord (body : JsString) (place : Nat) : Nat :=
  JsString.digitsValue 16 ((body.drop (64 * place)).take 64)

/-- The words of a body from a place on, as values of types. -/
def abiValues (body : JsString) : List AbiType → Nat → List AbiValue
  | [], _ => []
  | type :: types, place => type.read (abiWord body place) :: abiValues body types (place + 1)

/-- A decoder of static values. -/
structure AbiDecoder where
  decode : List AbiType → JsString → Option (List AbiValue)
  words : ∀ {types body values}, body.length % 2 = 0 → decode types body = some values →
    64 * types.length ≤ body.length ∧ values = abiValues body types 0

/-- The decoder that minds nothing but a body that is too short. -/
def AbiDecoder.lenient : AbiDecoder where
  decode types body :=
    if 64 * types.length ≤ body.length ∧ body.length % 2 = 0 then some (abiValues body types 0) else none
  words := by
    intro types body values whole decoded
    split_ifs at decoded with long
    exact ⟨long.1, (Option.some.inj decoded).symm⟩

end Vex.Library
