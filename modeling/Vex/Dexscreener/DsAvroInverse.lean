import Vex.Dexscreener.DsAvro

/-!
# Which values the decoder gives back

The bytes of a value are read back in full, or refused, and what is read is the value exactly when
it is `Readable`: a count of items that may be empty, or the index of a branch that may be, is
within the bytes behind it, the text decoder keeps every string, and no property is called
`__proto__`. Every read is local. It takes bytes off the front and would yield the same with more
bytes behind them, so no accepted response is the beginning of another.
-/

namespace Vex.Dexscreener

open Vex.Library
open Vex.Library.JsString (isWellFormed markUnit encodeText received decodeText_encodeText
  received_eq_self)
open DsAvroReader

abbrev Reads (α : Type) := DsAvroReader → Except DecodeError (Read α)

/-! ## Numbers and strings -/

variable {n : ℕ}

theorem varint_fold {k result : ℕ} (small : result < 128 ^ k) :
    result ||| (n % 128) <<< (7 * k) = result + n % 128 * 128 ^ k := by
  have power : (128 : ℕ) ^ k = 2 ^ (7 * k) := by rw [pow_mul]; rfl
  rw [power] at small ⊢
  rw [Nat.or_comm, ← Nat.shiftLeft_add_eq_or_of_lt small, Nat.shiftLeft_eq, Nat.add_comm]

theorem readVarint_varint {k result : ℕ} (offset : ℕ) (rest : List UInt8) (small : result < 128 ^ k)
    (fits : n < 128 ^ (11 - k)) (within : k ≤ 10) :
    readVarint result (7 * k) offset (varint n ++ rest)
      = .ok (result + n * 128 ^ k, ⟨offset + (varint n).length, rest⟩) := by
  induction n using Nat.strongRecOn generalizing k result offset with
  | ind n ih =>
    by_cases last : n < 128
    · have byte : (UInt8.ofNat n).toNat = n := by rw [UInt8.toNat_ofNat']; omega
      have folded := varint_fold (n := n) small
      rw [Nat.mod_eq_of_lt last] at folded
      rw [varint, if_pos last, List.singleton_append, readVarint, byte, if_pos last,
        Nat.mod_eq_of_lt last, folded]
      rfl
    · have byte : (UInt8.ofNat (n % 128 + 128)).toNat = n % 128 + 128 := by
        rw [UInt8.toNat_ofNat']
        omega
      have early : k ≠ 10 := by
        rintro rfl
        exact last (by simpa using fits)
      have grows : (128 : ℕ) ^ (k + 1) = 128 ^ k * 128 := pow_succ _ _
      have rest' : (128 : ℕ) ^ (11 - k) = 128 ^ (11 - (k + 1)) * 128 := by
        rw [← pow_succ]
        congr 1
        omega
      have larger : result + n % 128 * 128 ^ k < 128 ^ (k + 1) := by
        have digit : n % 128 + 1 ≤ 128 := by omega
        have scaled := Nat.mul_le_mul_right (128 ^ k) digit
        rw [Nat.succ_mul] at scaled
        omega
      have total : n % 128 * 128 ^ k + n / 128 * 128 ^ (k + 1) = n * 128 ^ k := by
        have digits := Nat.mod_add_div n 128
        calc n % 128 * 128 ^ k + n / 128 * 128 ^ (k + 1)
            = (n % 128 + 128 * (n / 128)) * 128 ^ k := by rw [grows]; ring
          _ = n * 128 ^ k := by rw [digits]
      have digit : (n % 128 + 128) % 128 = n % 128 := by omega
      have next := ih (n / 128) (by omega) (offset + 1) larger
        (by rw [rest'] at fits; omega) (by omega)
      rw [varint, if_neg last, List.cons_append, readVarint, byte,
        if_neg (by omega), if_neg (by omega), digit, varint_fold small,
        show 7 * k + 7 = 7 * (k + 1) by ring, next, List.length_cons, Nat.add_assoc, total,
        Nat.add_assoc offset, Nat.add_comm 1]

theorem unzigzag_zigzag (value : Int) : unzigzag (zigzag value) = value := by
  unfold unzigzag zigzag
  split_ifs <;> omega

theorem readLong_varint {value : Int} (offset : ℕ) (rest : List UInt8) (fits : IsLong value) :
    readLong ⟨offset, varint (zigzag value) ++ rest⟩
      = .ok (value, ⟨offset + (varint (zigzag value)).length, rest⟩) := by
  obtain ⟨above, below⟩ := fits
  have bounded : zigzag value < 128 ^ (11 - 0) := by
    unfold zigzag
    split <;> omega
  have read := readVarint_varint offset rest (k := 0) Nat.one_pos bounded (Nat.zero_le _)
  rw [Nat.mul_zero, Nat.pow_zero, Nat.mul_one, Nat.zero_add] at read
  have value := unzigzag_zigzag value
  simp only [readLong, read, ok_bind, value, pure, Except.pure]

variable {offset : ℕ} {rest : List UInt8}

variable {what : String}

theorem readCount_eq_ok {got : Read ℕ} (fits : IsLong n) :
    readCount what ⟨offset, count n ++ rest⟩ = .ok got ↔
      n ≤ rest.length ∧ got = (n, ⟨offset + (count n).length, rest⟩) := by
  have nonneg : ¬ (n : Int) < 0 := by omega
  simp only [readCount, count, readLong_varint offset rest fits, ok_bind, remaining,
    if_neg nonneg, Int.toNat_natCast]
  by_cases within : n ≤ rest.length
  · have enough : ¬ (rest.length : Int) < n := by omega
    simp [enough, within, pure, Except.pure, eq_comm]
  · have short : (rest.length : Int) < n := by omega
    simp [short, within, decodeError]

variable {replaced : List UInt8 → JsString}

theorem readString_stringBytes {text : JsString} (offset : ℕ) (rest : List UInt8)
    (fits : IsLong (encodeText text).length) :
    readString replaced ⟨offset, stringBytes text ++ rest⟩
      = .ok (received text, ⟨offset + (stringBytes text).length, rest⟩) := by
  have counted : readCount "a string length"
      ⟨offset, count (encodeText text).length ++ (encodeText text ++ rest)⟩ = .ok (_, _) :=
    (readCount_eq_ok fits).2 ⟨by simp, rfl⟩
  rw [readString, stringBytes, List.append_assoc, counted, ok_bind]
  simp [decodeLossy, decodeText_encodeText, pure, Except.pure, Nat.add_assoc]

/-! ## Reads in turn -/

variable {α ι : Type}

/-- If something is read, the reader behind it is the given one, and what is read is the value
exactly under the condition. -/
structure Recovers (reading : Except DecodeError (Read α)) (value : α) (behind : DsAvroReader)
    (good : Prop) : Prop where
  behind_eq : ∀ {got reader}, reading = .ok (got, reader) → reader = behind
  iff_good : reading = .ok (value, behind) ↔ good

variable {behind : DsAvroReader}

variable {reading : Except DecodeError (Read α)}

theorem Recovers.of_ok {value got : α} {good : Prop} (read : reading = .ok (got, behind))
    (same : got = value ↔ good) :
    Recovers reading value behind good where
  behind_eq other := (Prod.mk.inj (Except.ok.inj (read.symm.trans other))).2.symm
  iff_good := by
    rw [read, Except.ok.injEq, Prod.mk.injEq, same]
    exact and_iff_left rfl

def readEach : List (Reads α) → Reads (List α)
  | [], reader => .ok ([], reader)
  | read :: reads, reader => do
    let (value, reader) ← read reader
    let (values, reader) ← readEach reads reader
    return (value :: values, reader)

theorem length_readEach {reads : List (Reads α)} {values : List α} {reader : DsAvroReader}
    (done : readEach reads reader = .ok (values, behind)) : values.length = reads.length := by
  induction reads generalizing values reader with
  | nil =>
    obtain ⟨rfl, -⟩ := Prod.mk.inj (Except.ok.inj done)
    rfl
  | cons read reads ih =>
    obtain ⟨first, one, done⟩ := bind_eq_ok.1 done
    obtain ⟨others, more, done⟩ := bind_eq_ok.1 done
    obtain ⟨rfl, rfl⟩ := Prod.mk.inj (Except.ok.inj done)
    exact congrArg Nat.succ (ih more)

theorem readEach_recovers {read : ι → Reads α} {value : ι → α} {bytes : ι → List UInt8}
    {parts : List ι} (good : ∀ part ∈ parts, ℕ → Prop)
    (each : ∀ part (inside : part ∈ parts) offset rest,
      Recovers (read part ⟨offset, bytes part ++ rest⟩) (value part)
        ⟨offset + (bytes part).length, rest⟩ (good part inside rest.length))
    (offset : ℕ) (rest : List UInt8) :
    Recovers (readEach (parts.map read) ⟨offset, inTurn bytes parts ++ rest⟩) (parts.map value)
      ⟨offset + (inTurn bytes parts).length, rest⟩
      (∀ i (inside : i < parts.length), good parts[i] (List.getElem_mem inside)
        ((inTurn bytes (parts.drop (i + 1))).length + rest.length)) := by
  induction parts generalizing offset with
  | nil => exact .of_ok rfl (iff_of_true rfl fun i inside => absurd inside (Nat.not_lt_zero i))
  | cons part parts ih =>
    have split : inTurn bytes (part :: parts) ++ rest
        = bytes part ++ (inTurn bytes parts ++ rest) := by simp [inTurn]
    have long : offset + (inTurn bytes (part :: parts)).length
        = offset + (bytes part).length + (inTurn bytes parts).length := by
      simp [inTurn, Nat.add_assoc]
    have first := each part List.mem_cons_self offset (inTurn bytes parts ++ rest)
    have others := ih (fun part inside => good part (List.mem_cons_of_mem _ inside))
      (fun part inside => each part (List.mem_cons_of_mem _ inside))
      (offset + (bytes part).length)
    rw [split, long, List.map_cons]
    constructor
    · intro values reader done
      obtain ⟨⟨got, between⟩, one, done⟩ := bind_eq_ok.1 done
      obtain rfl := first.behind_eq one
      obtain ⟨more, looped, done⟩ := bind_eq_ok.1 done
      obtain ⟨-, rfl⟩ := Prod.mk.inj (Except.ok.inj done)
      exact others.behind_eq looped
    · constructor
      · intro done i inside
        obtain ⟨⟨got, between⟩, one, done⟩ := bind_eq_ok.1 done
        obtain rfl := first.behind_eq one
        obtain ⟨more, looped, done⟩ := bind_eq_ok.1 done
        obtain ⟨values, last⟩ := Prod.mk.inj (Except.ok.inj done)
        obtain ⟨rfl, tail⟩ := List.cons.inj values
        cases i with
        | zero => simpa using first.iff_good.1 one
        | succ i =>
          refine others.iff_good.1 ?_ i (Nat.lt_of_succ_lt_succ inside)
          rw [← tail, ← last]
          exact looped
      · intro good
        refine bind_eq_ok.2 ⟨_, first.iff_good.2 ?_, bind_eq_ok.2 ⟨_, others.iff_good.2 ?_, rfl⟩⟩
        · simpa using good 0 (Nat.succ_pos _)
        · exact fun i inside => good (i + 1) (Nat.succ_lt_succ inside)

/-! ## Objects -/

/-- The properties after those of the pairs were set in turn. -/
def setAll (out pairs : List (JsString × Value)) : List (JsString × Value) :=
  pairs.foldl (fun out own => setProperty out own.1 own.2) out

theorem length_setProperty (out : List (JsString × Value)) (key : JsString) (value : Value) :
    (setProperty out key value).length ≤ out.length ∨
      setProperty out key value = out ++ [(key, value)] ∧ key ≠ ("__proto__" : JsString) := by
  unfold setProperty
  split_ifs with named present
  · exact .inl le_rfl
  · exact .inl (List.length_map _).le
  · exact .inr ⟨rfl, named⟩

theorem setAll_full (out pairs : List (JsString × Value)) :
    (setAll out pairs).length ≤ out.length + pairs.length ∧
      ((setAll out pairs).length = out.length + pairs.length →
        setAll out pairs = out ++ pairs ∧ ∀ own ∈ pairs, own.1 ≠ ("__proto__" : JsString)) := by
  induction pairs generalizing out with
  | nil => exact ⟨le_rfl, fun _ => ⟨(List.append_nil out).symm, by simp⟩⟩
  | cons own pairs ih =>
    obtain ⟨most, full⟩ := ih (setProperty out own.1 own.2)
    rw [show setAll out (own :: pairs) = setAll (setProperty out own.1 own.2) pairs from rfl,
      List.length_cons]
    rcases length_setProperty out own.1 own.2 with shorter | ⟨added, named⟩
    · exact ⟨by omega, fun same => by omega⟩
    · rw [added, List.length_append, List.length_singleton] at most full
      refine ⟨by rw [added]; omega, fun same => ?_⟩
      rw [added] at same ⊢
      obtain ⟨kept, clear⟩ := full (by omega)
      exact ⟨by rw [kept, List.append_assoc]; rfl, List.forall_mem_cons.2 ⟨named, clear⟩⟩

theorem setAll_fresh {out pairs : List (JsString × Value)}
    (distinct : ((out ++ pairs).map (·.1)).Nodup)
    (clear : ∀ own ∈ pairs, own.1 ≠ ("__proto__" : JsString)) :
    setAll out pairs = out ++ pairs := by
  induction pairs generalizing out with
  | nil => exact (List.append_nil out).symm
  | cons own pairs ih =>
    obtain ⟨named, clear⟩ := List.forall_mem_cons.1 clear
    have absent : ¬ out.any (·.1 = own.1) = true := by
      rw [List.any_eq_true]
      rintro ⟨other, inside, same⟩
      rw [List.map_append, List.nodup_append] at distinct
      exact distinct.2.2 _ (List.mem_map_of_mem inside) _
        (List.mem_map_of_mem List.mem_cons_self) (of_decide_eq_true same)
    have added : setProperty out own.1 own.2 = out ++ [own] := by
      rw [setProperty, if_neg named, if_neg absent]
    rw [show setAll out (own :: pairs) = setAll (setProperty out own.1 own.2) pairs from rfl,
      added, ih (by simpa using distinct) clear, List.append_assoc, List.singleton_append]

/-! ## Loops as reads in turn -/

def readPair (replaced : List UInt8 → JsString) (value : DsAvroType) : Reads (JsString × Value) :=
  fun reader => do
    let (key, reader) ← reader.readString replaced
    let (item, reader) ← value.read reader
    return ((key, item), reader)

def readField (field : JsString × DsAvroType) : Reads (JsString × Value) := fun reader =>
  (field.2.read reader).map fun (item, reader) => ((field.1, item), reader)

theorem readItems_eq (item : DsAvroType) (n : ℕ) (reader : DsAvroReader) :
    readItems item n reader = readEach (List.replicate n item.read) reader := by
  induction n generalizing reader with
  | zero => rfl
  | succ n ih => simp only [readItems, List.replicate_succ, readEach, ih]

variable {value : DsAvroType} {reader : DsAvroReader}

theorem readPairs_eq_ok {out result : List (JsString × Value)} :
    readPairs replaced value n out reader = .ok (result, behind) ↔
      ∃ pairs, readEach (List.replicate n (readPair replaced value)) reader = .ok (pairs, behind) ∧
        setAll out pairs = result := by
  induction n generalizing out reader with
  | zero => simp [readPairs, readEach, setAll, and_comm]
  | succ n ih =>
    simp only [readPairs, List.replicate_succ, readEach, readPair, bind_eq_ok, ih]
    constructor
    · rintro ⟨key, keyRead, item, itemRead, pairs, read, rfl⟩
      exact ⟨_, ⟨_, ⟨key, keyRead, item, itemRead, rfl⟩, _, read, rfl⟩, rfl⟩
    · rintro ⟨_, ⟨_, ⟨key, keyRead, item, itemRead, own⟩, more, read, whole⟩, rfl⟩
      obtain rfl := Except.ok.inj own
      obtain ⟨rfl, rfl⟩ := Prod.mk.inj (Except.ok.inj whole)
      exact ⟨key, keyRead, item, itemRead, more.1, read, rfl⟩

variable {fields : List (JsString × DsAvroType)}

theorem readFields_eq_ok {out result : List (JsString × Value)} :
    readFields fields out reader = .ok (result, behind) ↔
      ∃ pairs, readEach (fields.map readField) reader = .ok (pairs, behind) ∧
        setAll out pairs = result := by
  induction fields generalizing out reader with
  | nil => simp [readFields, readEach, setAll, and_comm]
  | cons field fields ih =>
    simp only [readFields, List.map_cons, readEach, readField, bind_eq_ok, map_eq_ok, ih]
    constructor
    · rintro ⟨item, itemRead, pairs, read, rfl⟩
      exact ⟨_, ⟨_, ⟨item, itemRead, rfl⟩, _, read, rfl⟩, rfl⟩
    · rintro ⟨_, ⟨_, ⟨item, itemRead, rfl⟩, more, read, whole⟩, rfl⟩
      obtain ⟨rfl, rfl⟩ := Prod.mk.inj (Except.ok.inj whole)
      exact ⟨item, itemRead, more.1, read, rfl⟩

variable {type : DsAvroType}

theorem dsRecord_eq_ok (made : dsRecord fields = .ok type) :
    type.read = fun reader => yields .object (readFields fields [] reader) := by
  unfold dsRecord at made
  split at made
  · contradiction
  · rw [← Except.ok.inj made]

/-! ## What is read of the bytes of a value -/

/-- The text decoder keeps the string: no lone surrogate, and no byte order mark in front. -/
def Legible (text : JsString) : Prop := isWellFormed text = true ∧ text.head? ≠ some markUnit

/-- The bytes are read back with so many bytes after them: every string is legible, no property
sets a prototype, and every count and index is within the bytes behind it. -/
def Writes.Readable {replaced : List UInt8 → JsString} :
    {type : DsAvroType} → {value : Value} → {bytes : List UInt8} →
      Writes replaced type value bytes → ℕ → Prop
  | _, _, _, .string text _, _ | _, _, _, .enum text _, _ => Legible text
  | _, _, _, .double .., _ | _, _, _, .boolean .., _ | _, _, _, .long .., _ | _, _, _, .null, _
  | _, _, _, .absent .., _ => True
  | _, _, _, @present _ _ _ bytes inner, after => 1 ≤ bytes.length + after ∧ inner.Readable after
  | _, _, _, @union _ _ _ _ bytes index _ _ branch, after =>
    index ≤ bytes.length + after ∧ branch.Readable after
  | _, _, _, .array items _ each, after =>
    items.length ≤ (inTurn (·.2) items).length + after ∧
      ∀ i (inside : i < items.length), (each items[i] (List.getElem_mem inside)).Readable
        ((inTurn (·.2) (items.drop (i + 1))).length + after)
  | _, _, _, .map pairs _ _ _ each, after =>
    pairs.length ≤ (inTurn Part.pairBytes pairs).length + after ∧
      (∀ part ∈ pairs, part.name ≠ ("__proto__" : JsString)) ∧
      ∀ i (inside : i < pairs.length), Legible pairs[i].name ∧
        (each pairs[i] (List.getElem_mem inside)).Readable
          ((inTurn Part.pairBytes (pairs.drop (i + 1))).length + after)
  | _, _, _, .record parts _ _ each, after =>
    (∀ part ∈ parts, part.name ≠ ("__proto__" : JsString)) ∧
      ∀ i (inside : i < parts.length), (each parts[i] (List.getElem_mem inside)).Readable
        ((inTurn (·.bytes) (parts.drop (i + 1))).length + after)

theorem yields_eq_ok {α : Type} {make : α → Value} {reading : Except DecodeError (Read α)}
    {value : Value} :
    yields make reading = .ok (value, reader) ↔
      ∃ got, reading = .ok (got, reader) ∧ make got = value := by
  rw [yields, map_eq_ok]
  constructor
  · rintro ⟨⟨got, behind⟩, read, made⟩
    obtain ⟨rfl, rfl⟩ := Prod.mk.inj made
    exact ⟨got, read, rfl⟩
  · rintro ⟨got, read, rfl⟩
    exact ⟨(got, reader), read, rfl⟩

theorem isLong_small (small : n ≤ 1) : IsLong n := ⟨by omega, by omega⟩

theorem readDouble_encode {bits : Int} (offset : ℕ) (rest : List UInt8) (nonneg : 0 ≤ bits)
    (fits : bits < 256 ^ 8) :
    readDouble ⟨offset, LittleEndian.encode 8 bits ++ rest⟩ = .ok (bits, ⟨offset + 8, rest⟩) := by
  rw [readDouble]
  simp only [LittleEndian.read_encode 8 nonneg fits rest]

theorem Recovers.yields {value : α} {good : Prop} {make : α → Value}
    (recovers : Recovers reading value behind good)
    (distinct : ∀ {first second}, make first = make second → first = second) :
    Recovers (yields make reading) (make value) behind good where
  behind_eq read := by
    obtain ⟨_, inner, -⟩ := yields_eq_ok.1 read
    exact recovers.behind_eq inner
  iff_good := by
    rw [yields_eq_ok, ← recovers.iff_good]
    constructor
    · rintro ⟨got, inner, same⟩
      rwa [distinct same] at inner
    · exact fun inner => ⟨value, inner, rfl⟩

variable {bytes : List UInt8}

theorem Recovers.counted {next : Read ℕ → Except DecodeError (Read α)} {value : α} {good : Prop}
    {offset : ℕ} (fits : IsLong n)
    (recovers : Recovers (next (n, ⟨offset + (count n).length, bytes⟩)) value behind good) :
    Recovers (readCount what ⟨offset, count n ++ bytes⟩ >>= next) value behind
      (n ≤ bytes.length ∧ good) where
  behind_eq read := by
    obtain ⟨_, counted, inner⟩ := bind_eq_ok.1 read
    obtain ⟨-, rfl⟩ := (readCount_eq_ok fits).1 counted
    exact recovers.behind_eq inner
  iff_good := by
    rw [bind_eq_ok, ← recovers.iff_good]
    constructor
    · rintro ⟨_, counted, inner⟩
      obtain ⟨within, rfl⟩ := (readCount_eq_ok fits).1 counted
      exact ⟨within, inner⟩
    · rintro ⟨within, inner⟩
      exact ⟨_, (readCount_eq_ok fits).2 ⟨within, rfl⟩, inner⟩

variable {branches : List DsAvroType}

theorem readBranch_recovers {label : String} {branch : DsAvroType} {value : Value} {good : Prop}
    {index offset : ℕ} (fits : IsLong index) (found : branches[index]? = some branch)
    (recovers : Recovers (branch.read ⟨offset + (count index).length, bytes⟩) value behind good) :
    Recovers (readBranch label branches ⟨offset, count index ++ bytes⟩) value behind
      (index ≤ bytes.length ∧ good) := by
  refine Recovers.counted fits ?_
  simp only [readSelected, found]
  exact recovers

theorem Recovers.object {parts : List Part} {reads : List (Reads (JsString × Value))}
    {loop : Except DecodeError (Read (List (JsString × Value)))} {reader : DsAvroReader}
    {good : Prop} (recovers : Recovers (readEach reads reader) (parts.map Part.own) behind good)
    (many : reads.length = parts.length) (distinct : (parts.map (·.name)).Nodup)
    (looped : ∀ {result last}, loop = .ok (result, last) ↔
      ∃ pairs, readEach reads reader = .ok (pairs, last) ∧ setAll [] pairs = result) :
    Recovers loop (parts.map Part.own) behind
      ((∀ part ∈ parts, part.name ≠ ("__proto__" : JsString)) ∧ good) where
  behind_eq read := by
    obtain ⟨_, each, -⟩ := looped.1 read
    exact recovers.behind_eq each
  iff_good := by
    have names : (([] ++ parts.map Part.own : List (JsString × Value)).map (·.1)).Nodup := by
      simpa [Function.comp_def, Part.own] using distinct
    rw [looped, ← recovers.iff_good]
    constructor
    · rintro ⟨pairs, each, same⟩
      have long := (length_readEach each).trans many
      obtain ⟨kept, clear⟩ := (setAll_full [] pairs).2 (by rw [same]; simp [long])
      obtain rfl : pairs = parts.map Part.own := kept.symm.trans same
      exact ⟨fun part inside => clear _ (List.mem_map_of_mem inside), each⟩
    · rintro ⟨clear, each⟩
      refine ⟨_, each, setAll_fresh names fun own inside => ?_⟩
      obtain ⟨part, here, rfl⟩ := List.mem_map.1 inside
      exact clear part here

variable {part : Part}

theorem readPair_recovers {value : DsAvroType} {good : Prop} {offset : ℕ} {rest : List UInt8}
    (fits : IsLong (encodeText part.name).length) (recovers : Recovers
      (value.read ⟨offset + (stringBytes part.name).length, part.bytes ++ rest⟩) part.value
      ⟨offset + (stringBytes part.name).length + part.bytes.length, rest⟩ good) :
    Recovers (readPair replaced value ⟨offset, part.pairBytes ++ rest⟩) part.own
      ⟨offset + part.pairBytes.length, rest⟩ (Legible part.name ∧ good) := by
  have key : readString replaced _ = _ :=
    readString_stringBytes offset (part.bytes ++ rest) fits
  have legible : received part.name = part.name ↔ Legible part.name := received_eq_self
  rw [Part.pairBytes, List.append_assoc, List.length_append, ← Nat.add_assoc, readPair, key,
    ok_bind]
  constructor
  · intro got reader read
    obtain ⟨_, item, whole⟩ := bind_eq_ok.1 read
    obtain ⟨-, rfl⟩ := Prod.mk.inj (Except.ok.inj whole)
    exact recovers.behind_eq item
  · rw [bind_eq_ok, ← recovers.iff_good, ← legible]
    constructor
    · rintro ⟨⟨got, last⟩, item, whole⟩
      obtain ⟨own, rfl⟩ := Prod.mk.inj (Except.ok.inj whole)
      obtain ⟨name, rfl⟩ := Prod.mk.inj own
      exact ⟨name, item⟩
    · rintro ⟨name, item⟩
      exact ⟨_, item, by rw [name]; rfl⟩

theorem readField_recovers {reader : DsAvroReader} {good : Prop}
    (recovers : Recovers (part.type.read reader) part.value behind good) :
    Recovers (readField (part.name, part.type) reader) part.own behind good where
  behind_eq read := by
    obtain ⟨_, item, whole⟩ := map_eq_ok.1 read
    obtain ⟨-, rfl⟩ := Prod.mk.inj whole
    exact recovers.behind_eq item
  iff_good := by
    rw [readField, map_eq_ok, ← recovers.iff_good]
    constructor
    · rintro ⟨_, item, whole⟩
      obtain ⟨own, rfl⟩ := Prod.mk.inj whole
      obtain ⟨-, same⟩ := Prod.mk.inj own
      rwa [← same]
    · exact fun item => ⟨_, item, rfl⟩

/-- The bytes of a value are read in full, or refused, and they give the value exactly if they are
readable. -/
theorem read_written {type : DsAvroType} {value : Value}
    (written : Writes replaced type value bytes) (offset : ℕ) (rest : List UInt8) :
    Recovers (type.read ⟨offset, bytes ++ rest⟩) value ⟨offset + bytes.length, rest⟩
      (written.Readable rest.length) := by
  induction written generalizing offset rest with
  | string text fits =>
    have read : readString replaced _ = _ := readString_stringBytes offset rest fits
    exact (Recovers.of_ok read received_eq_self).yields Value.text.inj
  | enum text fits =>
    have read : readString replaced _ = _ := readString_stringBytes offset rest fits
    exact (Recovers.of_ok read received_eq_self).yields Value.text.inj
  | double bits nonneg fits =>
    have read := readDouble_encode offset rest nonneg fits
    rw [LittleEndian.length_encode]
    exact (Recovers.of_ok read (iff_of_true rfl trivial)).yields Value.double.inj
  | boolean value =>
    exact .of_ok (by cases value <;> rfl) (iff_of_true rfl trivial)
  | long value fits =>
    have read := readLong_varint offset rest fits
    exact (Recovers.of_ok read (iff_of_true rfl trivial)).yields Value.long.inj
  | null => exact .of_ok rfl (iff_of_true rfl trivial)
  | absent inner =>
    have null : Recovers (dsNull.read ⟨offset + (count 0).length, rest⟩) Value.null
        ⟨offset + (count 0).length, rest⟩ True := .of_ok rfl (iff_of_true rfl trivial)
    have found : [dsNull, inner][0]? = some dsNull := rfl
    exact .of_ok ((readBranch_recovers (isLong_small (Nat.zero_le 1)) found null).iff_good.2
      ⟨Nat.zero_le _, trivial⟩) (iff_of_true rfl trivial)
  | present inner ih =>
    rw [List.append_assoc, List.length_append, ← Nat.add_assoc, Writes.Readable,
      ← List.length_append]
    exact readBranch_recovers (isLong_small le_rfl) rfl (ih _ rest)
  | union index fits found inner ih =>
    rw [List.append_assoc, List.length_append, ← Nat.add_assoc, Writes.Readable,
      ← List.length_append]
    exact readBranch_recovers fits found (ih _ rest)
  | array items fits each ih =>
    have loop := readEach_recovers (fun part inside => (each part inside).Readable)
      (fun part inside => ih part inside)
      (offset + (count items.length).length) rest
    rw [List.append_assoc, List.length_append, ← Nat.add_assoc, Writes.Readable,
      ← List.length_append]
    rw [List.map_const', ← readItems_eq] at loop
    exact (loop.yields Value.array.inj).counted fits
  | @map value pairs fits keys distinct each ih =>
    have pair (part : Part) (inside : part ∈ pairs) (offset : ℕ) (rest : List UInt8) :
        Recovers (readPair replaced value ⟨offset, part.pairBytes ++ rest⟩) part.own
          ⟨offset + part.pairBytes.length, rest⟩
          (Legible part.name ∧ (each part inside).Readable rest.length) :=
      readPair_recovers (keys part inside) (ih part inside _ rest)
    have loop := readEach_recovers
      (fun part inside after => Legible part.name ∧ (each part inside).Readable after) pair
      (offset + (count pairs.length).length) rest
    rw [List.map_const'] at loop
    have object := loop.object (by simp) distinct readPairs_eq_ok
    rw [List.append_assoc, List.length_append, ← Nat.add_assoc, Writes.Readable,
      ← List.length_append]
    exact (object.yields Value.object.inj).counted fits
  | @record type parts distinct made each ih =>
    have loop := readEach_recovers (fun part inside => (each part inside).Readable)
      (fun part inside offset rest => readField_recovers (ih part inside offset rest)) offset rest
    have whole : (parts.map fun part => (part.name, part.type)).map readField
        = parts.map fun part => readField (part.name, part.type) := List.map_map
    rw [← whole] at loop
    rw [dsRecord_eq_ok made]
    exact (loop.object (by simp) distinct readFields_eq_ok).yields Value.object.inj

/-! ## Locality -/

/-- A read that takes bytes off the front and would yield the same with more bytes behind them. -/
structure Local {α : Type} (read : Reads α) : Prop where
  of_read : ∀ {offset : ℕ} {bytes : List UInt8} {value : α} {reader : DsAvroReader},
    read ⟨offset, bytes⟩ = .ok (value, reader) →
      (∃ taken, bytes = taken ++ reader.rest ∧ reader.offset = offset + taken.length) ∧
        ∀ more, read ⟨offset, bytes ++ more⟩ = .ok (value, ⟨reader.offset, reader.rest ++ more⟩)

theorem Local.of_ok {α : Type} (value : α) : Local fun reader => .ok (value, reader) := by
  refine ⟨fun {offset bytes got reader} read => ?_⟩
  obtain ⟨rfl, rfl⟩ := Prod.mk.inj (Except.ok.inj read)
  exact ⟨⟨[], rfl, rfl⟩, fun _ => rfl⟩

theorem Local.bind {α β : Type} {read : Reads α} {next : α → Reads β} (front : Local read)
    (behind : ∀ value, Local (next value)) :
    Local fun reader => read reader >>= fun got => next got.1 got.2 := by
  refine ⟨fun {offset bytes result reader} done => ?_⟩
  obtain ⟨⟨value, between⟩, first, done⟩ := bind_eq_ok.1 done
  obtain ⟨⟨taken, whole, place⟩, again⟩ := front.of_read first
  obtain ⟨⟨later, rest, last⟩, more⟩ := (behind value).of_read done
  refine ⟨⟨taken ++ later, by rw [whole, rest, List.append_assoc], ?_⟩, fun bytes => ?_⟩
  · rw [last, place, List.length_append, Nat.add_assoc]
  · exact bind_eq_ok.2 ⟨_, again bytes, more bytes⟩

theorem Local.yields {α : Type} {read : Reads α} (make : α → Value) (front : Local read) :
    Local fun reader => yields make (read reader) := by
  refine ⟨fun {offset bytes result reader} done => ?_⟩
  obtain ⟨got, first, rfl⟩ := yields_eq_ok.1 done
  obtain ⟨taken, again⟩ := front.of_read first
  exact ⟨taken, fun more => yields_eq_ok.2 ⟨got, again more, rfl⟩⟩

theorem local_readVarint (result shift : ℕ) :
    Local fun reader => readVarint result shift reader.offset reader.rest := by
  refine ⟨fun {offset bytes value reader} read => ?_⟩
  dsimp only at read ⊢
  induction bytes generalizing result shift offset with
  | nil => simp [readVarint, decodeError] at read
  | cons byte bytes ih =>
    rw [readVarint] at read
    simp only [List.cons_append, readVarint]
    split_ifs at read ⊢ with last long
    · obtain ⟨rfl, rfl⟩ := Prod.mk.inj (Except.ok.inj read)
      exact ⟨⟨[byte], rfl, rfl⟩, fun _ => rfl⟩
    · cases read
    · obtain ⟨⟨taken, whole, place⟩, again⟩ := ih _ _ read
      refine ⟨⟨byte :: taken, by rw [whole]; rfl, ?_⟩, again⟩
      rw [place, List.length_cons, Nat.add_assoc, Nat.add_comm 1]

theorem local_readLong : Local readLong :=
  (local_readVarint 0 0).bind fun result => Local.of_ok (unzigzag result)

theorem readCount_within :
    readCount what reader = .ok (n, behind) ↔
      readLong reader = .ok ((n : Int), behind) ∧ n ≤ behind.rest.length := by
  rw [readCount, bind_eq_ok]
  constructor
  · rintro ⟨⟨raw, between⟩, long, read⟩
    dsimp only at read
    split at read
    · cases read
    · split at read
      · cases read
      · unfold remaining at *
        obtain ⟨rfl, rfl⟩ := Prod.mk.inj (Except.ok.inj read)
        rw [Int.toNat_of_nonneg (by omega)]
        exact ⟨long, by omega⟩
  · rintro ⟨long, within⟩
    have nonneg : ¬ (n : Int) < 0 := by omega
    have enough : ¬ (behind.rest.length : Int) < n := by omega
    exact ⟨_, long, by simp only [remaining, nonneg, enough, if_false, Int.toNat_natCast]; rfl⟩

theorem local_readCount (what : String) : Local (readCount what) := by
  refine ⟨fun {offset bytes n reader} read => ?_⟩
  obtain ⟨long, within⟩ := readCount_within.1 read
  obtain ⟨taken, again⟩ := local_readLong.of_read long
  refine ⟨taken, fun more => readCount_within.2 ⟨again more, ?_⟩⟩
  rw [List.length_append]
  exact Nat.le_add_right_of_le within

theorem local_readString : Local (readString replaced) := by
  refine ⟨fun {offset bytes text reader} read => ?_⟩
  obtain ⟨⟨n, between⟩, counted, read⟩ := bind_eq_ok.1 read
  obtain ⟨rfl, rfl⟩ := Prod.mk.inj (Except.ok.inj read)
  have within := (readCount_within.1 counted).2
  obtain ⟨⟨taken, whole, place⟩, again⟩ := (local_readCount _).of_read counted
  refine ⟨⟨taken ++ between.rest.take n, ?_, ?_⟩, fun more => bind_eq_ok.2 ⟨_, again more, ?_⟩⟩
  · rw [List.append_assoc, List.take_append_drop, ← whole]
  · rw [List.length_append, List.length_take_of_le within, place, Nat.add_assoc]
  · simp only [List.take_append_of_le_length within, List.drop_append_of_le_length within]
    rfl

theorem local_readDouble : Local readDouble := by
  refine ⟨fun {offset bytes bits reader} read => ?_⟩
  rw [readDouble] at read
  split at read
  · cases read
  · next got rest found =>
      obtain ⟨rfl, rfl⟩ := Prod.mk.inj (Except.ok.inj read)
      obtain ⟨nonneg, fits, same⟩ := LittleEndian.read_eq_some.1 found
      dsimp only at same
      refine ⟨⟨_, same, by rw [LittleEndian.length_encode]⟩, fun more => ?_⟩
      rw [same, List.append_assoc]
      exact readDouble_encode offset (rest ++ more) nonneg fits

theorem local_readBoolean : Local readBoolean := by
  refine ⟨fun {offset bytes value reader} read => ?_⟩
  cases bytes with
  | nil => cases read
  | cons byte bytes =>
    obtain ⟨rfl, rfl⟩ := Prod.mk.inj (Except.ok.inj read)
    exact ⟨⟨[byte], rfl, rfl⟩, fun _ => rfl⟩

theorem local_readBranch (label : String) (each : ∀ branch ∈ branches, Local branch.read) :
    Local (readBranch label branches) := by
  refine (local_readCount _).bind (fun index => ?_)
  unfold readSelected
  cases found : branches[index]? with
  | none => exact ⟨fun read => by cases read⟩
  | some branch => exact each branch (List.mem_of_getElem? found)

theorem local_readItems {item : DsAvroType} (one : Local item.read) (n : ℕ) :
    Local (readItems item n) := by
  induction n with
  | zero => exact Local.of_ok []
  | succ n ih => exact one.bind fun value => ih.bind fun items => Local.of_ok (value :: items)

theorem local_readPairs (one : Local value.read) (n : ℕ) (out : List (JsString × Value)) :
    Local (readPairs replaced value n out) := by
  induction n generalizing out with
  | zero => exact Local.of_ok out
  | succ n ih =>
    exact local_readString.bind fun key => one.bind fun item => ih (setProperty out key item)

theorem local_readFields (each : ∀ field ∈ fields, Local field.2.read)
    (out : List (JsString × Value)) : Local (readFields fields out) := by
  induction fields generalizing out with
  | nil => exact Local.of_ok out
  | cons field fields ih =>
    obtain ⟨one, each⟩ := List.forall_mem_cons.1 each
    exact one.bind fun item => ih each (setProperty out field.1 item)

theorem Schema.local (schema : Schema replaced type) : Local type.read := by
  induction schema with
  | string => exact local_readString.yields _
  | enum => exact local_readString.yields _
  | double => exact local_readDouble.yields _
  | boolean => exact local_readBoolean.yields _
  | long => exact local_readLong.yields _
  | null => exact Local.of_ok Value.null
  | optional _ ih =>
    refine local_readBranch _ fun branch inside => ?_
    rcases List.mem_pair.1 inside with rfl | rfl
    · exact Local.of_ok Value.null
    · exact ih
  | union _ ih => exact local_readBranch _ ih
  | array _ ih => exact (local_readCount _).bind fun n => (local_readItems ih n).yields _
  | map _ ih => exact (local_readCount _).bind fun n => (local_readPairs ih n []).yields _
  | record made _ ih =>
    rw [dsRecord_eq_ok made]
    exact (local_readFields ih []).yields _

/-! ## The decoder -/

theorem decodeDsAvro_eq_ok {result : DsAvroDecodeResult} :
    decodeDsAvro type bytes = .ok result ↔ ∃ reader,
      type.read ⟨0, bytes⟩ = .ok (result.value, reader) ∧ reader.offset = bytes.length ∧
        result = ⟨result.value, bytes.length, bytes.length⟩ := by
  rw [decodeDsAvro, bind_eq_ok]
  constructor
  · rintro ⟨⟨value, reader⟩, read, done⟩
    dsimp only at done
    split at done
    · cases done
    · next whole =>
        have same := not_not.1 whole
        obtain rfl := Except.ok.inj done
        exact ⟨reader, read, same, by rw [same]⟩
  · rintro ⟨reader, read, whole, same⟩
    refine ⟨_, read, ?_⟩
    rw [same]
    simp [whole, pure, Except.pure]

/-- The decoder gives a value of a schema back from the bytes of the table exactly when it is
readable. Of any bytes it reads no further than their end, and it takes all of them or refuses them;
what it takes does not begin anything longer that it takes. -/
theorem decode_inverts_iff {type : DsAvroType} (schema : Schema replaced type) :
    (∀ {value bytes} (written : Writes replaced type value bytes),
      (decodeDsAvro type bytes = .ok ⟨value, bytes.length, bytes.length⟩ ↔
        written.Readable 0)) ∧
    (∀ {offset rest value reader}, type.read ⟨offset, rest⟩ = .ok (value, reader) →
      ∃ taken, rest = taken ++ reader.rest ∧ reader.offset = offset + taken.length) ∧
    (∀ bytes, (∃ failure, decodeDsAvro type bytes = .error failure) ∨
      ∃ value, decodeDsAvro type bytes = .ok ⟨value, bytes.length, bytes.length⟩) ∧
    ∀ {bytes longer result other}, decodeDsAvro type bytes = .ok result →
      decodeDsAvro type longer = .ok other → bytes <+: longer → bytes = longer := by
  refine ⟨fun {value bytes} written => ?_, fun read => (schema.local.of_read read).1,
    fun bytes => ?_, fun {bytes longer result other} first second => ?_⟩
  · have read := (read_written written 0 []).iff_good
    rw [List.append_nil, Nat.zero_add] at read
    rw [← List.length_nil, ← read, decodeDsAvro_eq_ok]
    constructor
    · rintro ⟨reader, decoded, whole, -⟩
      have recovers := read_written written 0 []
      rw [List.append_nil, Nat.zero_add] at recovers
      rwa [recovers.behind_eq decoded] at decoded
    · exact fun decoded => ⟨_, decoded, rfl, rfl⟩
  · cases decoded : decodeDsAvro type bytes with
    | error failure => exact .inl ⟨failure, rfl⟩
    | ok result =>
      obtain ⟨-, -, -, whole⟩ := decodeDsAvro_eq_ok.1 decoded
      exact .inr ⟨result.value, by rw [← whole]⟩
  · rintro ⟨more, rfl⟩
    obtain ⟨reader, read, whole, -⟩ := decodeDsAvro_eq_ok.1 first
    obtain ⟨reader', again, longer, -⟩ := decodeDsAvro_eq_ok.1 second
    rw [(schema.local.of_read read).2 more] at again
    obtain ⟨-, rfl⟩ := Prod.mk.inj (Except.ok.inj again)
    have empty : bytes.length = (bytes ++ more).length := whole.symm.trans longer
    rw [List.length_append] at empty
    rw [List.eq_nil_of_length_eq_zero (by omega : more.length = 0), List.append_nil]

theorem count_one : count 1 = [2] := by simp [count, zigzag, varint]

/-- An array of one null in its last byte is refused, since the count is more than the bytes behind
it. -/
theorem null_array_is_refused :
    Nonempty (Writes (fun _ => []) (dsArray dsNull) (.array [.null]) [2]) ∧
      decodeDsAvro (dsArray dsNull) [2] = decodeError
        "an array count for array(null) is 1 but only 0 bytes remain"
        "The response is truncated or the schema table is wrong." := by
  refine ⟨?_, by rfl⟩
  have written : Writes (fun _ => []) (dsArray dsNull) (.array [.null]) (count 1 ++ []) :=
    .array [(.null, [])] (isLong_small le_rfl) fun part inside => by
      rw [List.mem_singleton.1 inside]
      exact .null
  rw [count_one] at written
  exact ⟨written⟩

theorem decode_inverts_iff_present :
    decodeDsAvro (dsOptional dsBoolean) [2, 1] = .ok ⟨.boolean true, 2, 2⟩ := by
  let written : Writes (fun _ => []) (dsOptional dsBoolean) (.boolean true) (count 1 ++ [1]) :=
    .present (.boolean true)
  have decoded := ((decode_inverts_iff (.optional .boolean)).1 written).2
    (And.intro (by decide) trivial)
  rwa [count_one] at decoded

end Vex.Dexscreener
