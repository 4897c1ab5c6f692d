import Vex.Library.Checks
import Vex.Library.LittleEndian
import Vex.Library.TextCodec

/-!
# The Avro dialect of the market data site

A type of the dialect reads a value off the front of what is left of a response. Counts, lengths
and branch indices are read by one function, which refuses what exceeds the bytes that remain. The
decoder wants the whole response to be read.

What the text decoder makes of bytes that are not UTF-8 is a parameter. A number is its IEEE-754
bits. An object is the list of its own properties.
-/

namespace Vex.Dexscreener

open Vex.Library
open Vex.Library.JsString (decodeText encodeText)

inductive Value where
  | null
  | text (value : JsString)
  | double (bits : Int)
  | boolean (value : Bool)
  | long (value : Int)
  | array (items : List Value)
  | object (properties : List (JsString × Value))

/-- An error of the code `DEXSCREENER_DECODE_FAILED`. -/
structure DecodeError where
  message : String
  hint : String
  deriving DecidableEq

def decodeError {α : Type} (message hint : String) : Except DecodeError α :=
  .error ⟨s!"DexScreener Avro dialect: {message}", hint⟩

/-- The cursor: how many bytes were read, and those that remain. -/
structure DsAvroReader where
  offset : ℕ
  rest : List UInt8

abbrev Read (α : Type) := α × DsAvroReader

structure DsAvroType where
  label : String
  read : DsAvroReader → Except DecodeError (Read Value)

namespace DsAvroReader

def remaining (reader : DsAvroReader) : ℕ := reader.rest.length

/-- The loop of `readLong`, with its `result` and `shift`. -/
def readVarint (result shift offset : ℕ) : List UInt8 → Except DecodeError (Read ℕ)
  | [] =>
    decodeError s!"a varint runs past the end of the buffer at offset {offset}"
      "The response is truncated or the schema table is wrong."
  | byte :: rest =>
    let result := result ||| (byte.toNat % 128) <<< shift
    if byte.toNat < 128 then .ok (result, ⟨offset + 1, rest⟩)
    else if 70 < shift + 7 then
      decodeError s!"a varint at offset {offset + 1} is longer than 10 bytes"
        "The bytes are not this dialect, or the schema table is out of step with the writer."
    else readVarint result (shift + 7) (offset + 1) rest

/-- `(result >> 1n) ^ -(result & 1n)`. -/
def unzigzag (result : ℕ) : Int :=
  if result % 2 = 0 then (result / 2 : ℕ) else -(result / 2 : ℕ) - 1

def readLong (reader : DsAvroReader) : Except DecodeError (Read Int) := do
  let (result, reader) ← readVarint 0 0 reader.offset reader.rest
  return (unzigzag result, reader)

def readCount (what : String) (reader : DsAvroReader) : Except DecodeError (Read ℕ) := do
  let (raw, reader) ← reader.readLong
  if raw < 0 then
    decodeError s!"{what} is negative ({raw}) at offset {reader.offset}"
      ("This dialect writes plain counts with no block framing; a negative count means the bytes "
        ++ "are not what the schema table expects.")
  else if reader.remaining < raw then
    decodeError s!"{what} is {raw} but only {reader.remaining} bytes remain"
      "The response is truncated or the schema table is wrong."
  else return (raw.toNat, reader)

/-- The text decoder, which replaces what is not UTF-8. -/
def decodeLossy (replaced : List UInt8 → JsString) (bytes : List UInt8) : JsString :=
  (decodeText bytes).getD (replaced bytes)

def readString (replaced : List UInt8 → JsString) (reader : DsAvroReader) :
    Except DecodeError (Read JsString) := do
  let (length, reader) ← reader.readCount "a string length"
  return (decodeLossy replaced (reader.rest.take length),
    ⟨reader.offset + length, reader.rest.drop length⟩)

def readDouble (reader : DsAvroReader) : Except DecodeError (Read Int) :=
  match LittleEndian.read 8 reader.rest with
  | none =>
    decodeError s!"a double needs 8 bytes but {reader.remaining} remain at offset {reader.offset}"
      "The response is truncated or the schema table is wrong."
  | some (bits, rest) => .ok (bits, ⟨reader.offset + 8, rest⟩)

def readBoolean (reader : DsAvroReader) : Except DecodeError (Read Bool) :=
  match reader.rest with
  | [] =>
    decodeError s!"a boolean needs 1 byte but the buffer ends at offset {reader.offset}"
      "The response is truncated or the schema table is wrong."
  | byte :: rest => .ok (byte ≠ 0, ⟨reader.offset + 1, rest⟩)

end DsAvroReader

/-! ## Type constructors -/

/-- `out[key] = value` on an object literal: the property of that name sets the prototype. -/
def setProperty (out : List (JsString × Value)) (key : JsString) (value : Value) :
    List (JsString × Value) :=
  if key = ("__proto__" : JsString) then out
  else if out.any (·.1 = key) then out.map fun own => if own.1 = key then (key, value) else own
  else out ++ [(key, value)]

/-- A read whose value is made of what another read yields. -/
def yields {α : Type} (make : α → Value) (reading : Except DecodeError (Read α)) :
    Except DecodeError (Read Value) :=
  reading.map fun (value, reader) => (make value, reader)

variable (replaced : List UInt8 → JsString)

def dsString : DsAvroType := ⟨"string", fun reader => yields .text (reader.readString replaced)⟩
def dsEnum : DsAvroType := ⟨"enum", fun reader => yields .text (reader.readString replaced)⟩
def dsDouble : DsAvroType := ⟨"double", fun reader => yields .double reader.readDouble⟩
def dsBoolean : DsAvroType := ⟨"boolean", fun reader => yields .boolean reader.readBoolean⟩
def dsLong : DsAvroType := ⟨"long", fun reader => yields .long reader.readLong⟩
def dsNull : DsAvroType := ⟨"null", fun reader => .ok (.null, reader)⟩

def readSelected (label : String) (branches : List DsAvroType) (index : ℕ)
    (reader : DsAvroReader) : Except DecodeError (Read Value) :=
  match branches[index]? with
  | none =>
    decodeError s!"union branch {index} is out of range for {label}"
      ("The writer emitted a branch this schema table does not know; update the table against a "
        ++ "fresh capture.")
  | some branch => branch.read reader

def readBranch (label : String) (branches : List DsAvroType) (reader : DsAvroReader) :
    Except DecodeError (Read Value) := do
  let (index, reader) ← reader.readCount s!"a union branch index for {label}"
  readSelected label branches index reader

def dsOptional (inner : DsAvroType) : DsAvroType :=
  let label := s!"optional({inner.label})"
  ⟨label, readBranch label [dsNull, inner]⟩

def dsUnion (branches : List DsAvroType) : DsAvroType :=
  let label := "union(" ++ "|".intercalate (branches.map (·.label)) ++ ")"
  ⟨label, readBranch label branches⟩

def readItems (item : DsAvroType) : ℕ → DsAvroReader → Except DecodeError (Read (List Value))
  | 0, reader => .ok ([], reader)
  | count + 1, reader => do
    let (value, reader) ← item.read reader
    let (items, reader) ← readItems item count reader
    return (value :: items, reader)

def dsArray (item : DsAvroType) : DsAvroType :=
  let label := s!"array({item.label})"
  ⟨label, fun reader => do
    let (count, reader) ← reader.readCount s!"an array count for {label}"
    yields .array (readItems item count reader)⟩

def readPairs (value : DsAvroType) : ℕ → List (JsString × Value) → DsAvroReader →
    Except DecodeError (Read (List (JsString × Value)))
  | 0, out, reader => .ok (out, reader)
  | count + 1, out, reader => do
    let (key, reader) ← reader.readString replaced
    let (item, reader) ← value.read reader
    readPairs value count (setProperty out key item) reader

def dsMap (value : DsAvroType) : DsAvroType :=
  let label := s!"map({value.label})"
  ⟨label, fun reader => do
    let (count, reader) ← reader.readCount s!"a map count for {label}"
    yields .object (readPairs replaced value count [] reader)⟩

/-- The fields of a record in declaration order, onto the properties that are there. -/
def readFields : List (JsString × DsAvroType) → List (JsString × Value) → DsAvroReader →
    Except DecodeError (Read (List (JsString × Value)))
  | [], out, reader => .ok (out, reader)
  | (name, type) :: fields, out, reader => do
    let (item, reader) ← type.read reader
    readFields fields (setProperty out name item) reader

/-- `/^(0|[1-9][0-9]*)$/`. -/
def integerLike (name : JsString) : Bool :=
  name.all JsString.isDigit && (name.length = 1 || name.head?.any (· ≠ 48))

/-- The entries of a record; a name that is integer-like is refused when the type is made. -/
def dsRecord (fields : List (JsString × DsAvroType)) : Except JsString DsAvroType :=
  match fields.find? fun field => integerLike field.1 with
  | some field => .error (("dsRecord field \"" : JsString) ++ field.1 ++ ("\" is an integer-like key"
      ++ ", which JavaScript would reorder; rename it" : String))
  | none => .ok ⟨"record", fun reader => yields .object (readFields fields [] reader)⟩

/-! ## The decoder -/

structure DsAvroDecodeResult where
  value : Value
  bytesConsumed : ℕ
  bytesTotal : ℕ

def decodeDsAvro (schema : DsAvroType) (bytes : List UInt8) :
    Except DecodeError DsAvroDecodeResult := do
  let (value, reader) ← schema.read ⟨0, bytes⟩
  if reader.offset ≠ bytes.length then
    decodeError s!"decoding {schema.label} consumed {reader.offset} of {bytes.length} bytes"
      ("The writer's field order no longer matches this schema table. Nothing decoded past that "
        ++ "point can be trusted; update the table against a fresh capture.")
  else return ⟨value, reader.offset, bytes.length⟩

/-! ## The table of the dialect -/

inductive Schema : DsAvroType → Prop
  | string : Schema (dsString replaced)
  | enum : Schema (dsEnum replaced)
  | double : Schema dsDouble
  | boolean : Schema dsBoolean
  | long : Schema dsLong
  | null : Schema dsNull
  | optional {inner : DsAvroType} : Schema inner → Schema (dsOptional inner)
  | union {branches : List DsAvroType} : (∀ branch ∈ branches, Schema branch) →
      Schema (dsUnion branches)
  | array {item : DsAvroType} : Schema item → Schema (dsArray item)
  | map {value : DsAvroType} : Schema value → Schema (dsMap replaced value)
  | record {fields : List (JsString × DsAvroType)} {type : DsAvroType} :
      dsRecord fields = .ok type → (∀ field ∈ fields, Schema field.2) → Schema type

/-- Seven bits a byte, lowest first, every byte but the last with its high bit set. -/
def varint (n : ℕ) : List UInt8 :=
  if n < 128 then [UInt8.ofNat n] else UInt8.ofNat (n % 128 + 128) :: varint (n / 128)

def zigzag (value : Int) : ℕ := if 0 ≤ value then 2 * value.toNat else 2 * (-value - 1).toNat + 1

def IsLong (value : Int) : Prop := -2 ^ 63 ≤ value ∧ value < 2 ^ 63

def count (n : ℕ) : List UInt8 := varint (zigzag n)

def stringBytes (text : JsString) : List UInt8 := count (encodeText text).length ++ encodeText text

/-- A pair of a map or a field of a record, with the bytes of its value. -/
structure Part where
  name : JsString
  type : DsAvroType
  value : Value
  bytes : List UInt8

def Part.own (part : Part) : JsString × Value := (part.name, part.value)

def Part.pairBytes (part : Part) : List UInt8 := stringBytes part.name ++ part.bytes

def inTurn {ι : Type} (bytes : ι → List UInt8) (parts : List ι) : List UInt8 :=
  (parts.map bytes).flatten

/-- How the table writes a value of a schema, with the bytes that it prescribes. -/
inductive Writes : DsAvroType → Value → List UInt8 → Type
  | string (text : JsString) (fits : IsLong (encodeText text).length) :
      Writes (dsString replaced) (.text text) (stringBytes text)
  | enum (text : JsString) (fits : IsLong (encodeText text).length) :
      Writes (dsEnum replaced) (.text text) (stringBytes text)
  | double (bits : Int) (nonneg : 0 ≤ bits) (fits : bits < 256 ^ 8) :
      Writes dsDouble (.double bits) (LittleEndian.encode 8 bits)
  | boolean (value : Bool) : Writes dsBoolean (.boolean value) [if value then 1 else 0]
  | long (value : Int) (fits : IsLong value) : Writes dsLong (.long value) (varint (zigzag value))
  | null : Writes dsNull .null []
  | absent (inner : DsAvroType) : Writes (dsOptional inner) .null (count 0)
  | present {inner : DsAvroType} {value : Value} {bytes : List UInt8} :
      Writes inner value bytes → Writes (dsOptional inner) value (count 1 ++ bytes)
  | union {branches : List DsAvroType} {branch : DsAvroType} {value : Value} {bytes : List UInt8}
      (index : ℕ) (fits : IsLong index) (found : branches[index]? = some branch) :
      Writes branch value bytes → Writes (dsUnion branches) value (count index ++ bytes)
  | array {item : DsAvroType} (items : List (Value × List UInt8)) (fits : IsLong items.length) :
      (∀ part ∈ items, Writes item part.1 part.2) →
      Writes (dsArray item) (.array (items.map (·.1))) (count items.length ++ inTurn (·.2) items)
  | map {value : DsAvroType} (pairs : List Part) (fits : IsLong pairs.length)
      (keys : ∀ part ∈ pairs, IsLong (encodeText part.name).length)
      (distinct : (pairs.map (·.name)).Nodup) :
      (∀ part ∈ pairs, Writes value part.value part.bytes) →
      Writes (dsMap replaced value) (.object (pairs.map Part.own))
        (count pairs.length ++ inTurn Part.pairBytes pairs)
  | record {type : DsAvroType} (parts : List Part) (distinct : (parts.map (·.name)).Nodup)
      (made : dsRecord (parts.map fun part => (part.name, part.type)) = .ok type) :
      (∀ part ∈ parts, Writes part.type part.value part.bytes) →
      Writes type (.object (parts.map Part.own)) (inTurn (·.bytes) parts)

end Vex.Dexscreener
