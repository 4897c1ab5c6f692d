import Vex.Bridge.Endpoint
import Vex.Studio.Endpoint

/-!
# The host and the bridge plan one endpoint

The two planners read the same facts, each in strings of its own: the host's are
the code units of a text and the bridge's its bytes. They check the same things
in the same order and join the same paths, so they plan the same endpoint or
refuse with the same code, but for one kind of override (`plans_agree`).

The expression the host reads a named pipe with has a dot for the characters of
the name, and a dot stands for no line terminator. The bridge takes any name that
is not empty and has no separator. So a name with a line terminator is one the
bridge dials and the host refuses to bind.
-/

namespace Vex.Studio.EndpointAgreement

open Vex.Library

/-! ## One text on both sides -/

/-- The host's string and the bridge's hold the same text. -/
def SameText (host : JsString) (bridge : Bridge.Endpoint.GoString) : Prop :=
  ∃ text : List Char, host = JsString.units text ∧ bridge = JsString.utf8 text

/-- What a probe says of one directory on both sides. -/
structure SameFacts (host : Endpoint.EndpointDirectoryFacts) (bridge : Bridge.Endpoint.DirFacts) :
    Prop where
  isDirectory : host.isDirectory = bridge.isDirectory
  uid : host.uid = bridge.uid
  mode : host.mode = bridge.mode.toNat

/-- The two planners are given the same facts. -/
structure SameInput (host : Endpoint.EndpointPlanInput) (bridge : Bridge.Endpoint.Input) :
    Prop where
  windows : host.platform = JsString.ofString "win32"
    ↔ bridge.goos = Bridge.Endpoint.text "windows"
  linux : host.platform = JsString.ofString "linux" ↔ bridge.goos = Bridge.Endpoint.text "linux"
  configDir : SameText host.configDirRealPath bridge.configDirHashInput
  env : ∀ name : List Char,
    Option.Rel SameText (host.env (JsString.units name)) (bridge.env (JsString.utf8 name))
  tmpdir : SameText host.tmpdir bridge.tmpdir
  uid : host.uid = bridge.uid
  probe : ∀ dir : List Char, Option.Rel SameFacts
    (host.probeDirectory (JsString.units dir)) (bridge.probeDirectory (JsString.utf8 dir))

/-- The plans are of one kind, with the same path, parent directory and whether to create it,
or refuse with the same code. -/
def PlansAgree (host : Endpoint.StudioEndpointPlan) (bridge : Bridge.Endpoint.Plan) : Prop :=
  match host with
  | .unix path parentDir createParent =>
    bridge.kind = .unix ∧ SameText path bridge.path ∧ SameText parentDir bridge.parentDir ∧
      createParent = bridge.createParent
  | .pipe path => bridge.kind = .pipe ∧ SameText path bridge.path
  | .refused code _ => bridge.kind = .refused ∧ bridge.code.map (·.text) = some code.text

namespace SameText

theorem literal (text : String) : SameText (JsString.ofString text) (Bridge.Endpoint.text text) :=
  ⟨text.toList, rfl, rfl⟩

theorem append {host host' : JsString} {bridge bridge' : Bridge.Endpoint.GoString}
    (first : SameText host bridge) (second : SameText host' bridge') :
    SameText (host ++ host') (bridge ++ bridge') := by
  obtain ⟨front, rfl, rfl⟩ := first
  obtain ⟨back, rfl, rfl⟩ := second
  exact ⟨front ++ back, (JsString.unitSpelling.spell_append _ _).symm,
    (JsString.byteSpelling.spell_append _ _).symm⟩

variable {host : JsString} {bridge : Bridge.Endpoint.GoString} (same : SameText host bridge)

include same

theorem eq_nil : host = [] ↔ bridge = [] := by
  obtain ⟨text, rfl, rfl⟩ := same
  exact (JsString.unitSpelling.spell_eq_nil).trans (JsString.byteSpelling.spell_eq_nil).symm

theorem encodeText : JsString.encodeText host = bridge := by
  obtain ⟨text, rfl, rfl⟩ := same
  rw [JsString.encodeText, JsString.scalars_units]

theorem byteLength : Endpoint.byteLength host = bridge.length := by
  rw [Endpoint.byteLength, same.encodeText]

theorem withinSunPath :
    Endpoint.withinSunPath host = Bridge.Endpoint.withinSunPath bridge := by
  rw [Endpoint.withinSunPath, Bridge.Endpoint.withinSunPath, same.byteLength]
  rfl

theorem startsWith {text : String} (ascii : ∀ c ∈ text.toList, c.toNat < 0x80) :
    JsString.startsWith host (JsString.ofString text)
      = (Bridge.Endpoint.text text).isPrefixOf bridge := by
  obtain ⟨whole, rfl, rfl⟩ := same
  rw [Bool.eq_iff_iff, JsString.startsWith, List.isPrefixOf_iff_prefix, List.isPrefixOf_iff_prefix]
  constructor
  · rintro ⟨rest, starts⟩
    obtain ⟨others, rfl, -⟩ := (JsString.unitSpelling.spell_eq_append fun c member =>
      Nat.lt_trans (ascii c member) (by decide)).1 starts.symm
    exact ⟨JsString.utf8 others, (JsString.byteSpelling.spell_append _ _).symm⟩
  · rintro ⟨rest, starts⟩
    obtain ⟨others, rfl, -⟩ := (JsString.byteSpelling.spell_eq_append ascii).1 starts.symm
    exact ⟨JsString.units others, (JsString.unitSpelling.spell_append _ _).symm⟩

end SameText

/-! ## Paths -/

def charMarks : PosixPath.Marks Char := ⟨'/', '.', by decide⟩

theorem units_marks : PosixPath.Spells JsString.unitSpelling charMarks Endpoint.unitMarks :=
  ⟨show (47 : Nat) < 0x10000 by decide, rfl, show (46 : Nat) < 0x10000 by decide, rfl⟩

theorem bytes_marks : PosixPath.Spells JsString.byteSpelling charMarks Bridge.Lexical.byteMarks :=
  ⟨show (47 : Nat) < 0x80 by decide, rfl, show (46 : Nat) < 0x80 by decide, rfl⟩

theorem SameText.join {host host' : JsString} {bridge bridge' : Bridge.Endpoint.GoString}
    (first : SameText host bridge) (second : SameText host' bridge') :
    SameText (Endpoint.join [host, host']) (Bridge.Lexical.joinPosix [bridge, bridge']) := by
  obtain ⟨front, rfl, rfl⟩ := first
  obtain ⟨back, rfl, rfl⟩ := second
  refine ⟨PosixPath.join charMarks [front, back], PosixPath.join_spell units_marks [front, back], ?_⟩
  rw [Bridge.Lexical.joinPosix_eq]
  exact PosixPath.join_spell bytes_marks [front, back]

theorem SameText.dirname {host : JsString} {bridge : Bridge.Endpoint.GoString}
    (same : SameText host bridge) :
    SameText (Endpoint.dirname host) (Bridge.Lexical.dirnamePosix bridge) := by
  obtain ⟨text, rfl, rfl⟩ := same
  refine ⟨PosixPath.dirname charMarks text, PosixPath.dirname_spell units_marks text, ?_⟩
  rw [Bridge.Lexical.dirnamePosix_eq]
  exact PosixPath.dirname_spell bytes_marks text

theorem SameText.isAbsolute {host : JsString} {bridge : Bridge.Endpoint.GoString}
    (same : SameText host bridge) :
    Endpoint.isAbsolute host = (Bridge.Endpoint.text "/").isPrefixOf bridge := by
  obtain ⟨text, rfl, rfl⟩ := same
  rw [Endpoint.isAbsolute]
  refine (PosixPath.isAbsolute_spell units_marks text).trans
    ((PosixPath.isAbsolute_spell bytes_marks text).symm.trans ?_)
  show PosixPath.isAbsolute Bridge.Lexical.byteMarks (JsString.utf8 text) = _
  cases JsString.utf8 text with
  | nil => rfl
  | cons b rest =>
    rw [Bool.eq_iff_iff, PosixPath.isAbsolute, decide_eq_true_eq, List.isPrefixOf_iff_prefix]
    constructor
    · intro first
      rw [List.head?_cons, Option.some.injEq] at first
      exact ⟨rest, by rw [first]; rfl⟩
    · rintro ⟨others, starts⟩
      rw [← starts]
      rfl

/-! ## Names of endpoints -/

section Digest

variable (sha256 : List UInt8 → Vector UInt8 32) {host : JsString}
  {bridge : Bridge.Endpoint.GoString} (same : SameText host bridge)

include same

theorem SameText.hash :
    SameText (Endpoint.studioEndpointHash sha256 host) (Bridge.Endpoint.hash sha256 bridge) := by
  have ascii := JsString.hexText_ascii (sha256 bridge).toList
  refine ⟨(JsString.hexText (sha256 bridge).toList).take 12, ?_,
    JsString.byteSpelling.take_spell ascii 12⟩
  rw [Endpoint.studioEndpointHash, same.encodeText]
  exact JsString.unitSpelling.take_spell (fun c member => Nat.lt_trans (ascii c member) (by decide)) 12

theorem SameText.fileName : SameText (Endpoint.studioEndpointFileName sha256 host)
    (Bridge.Endpoint.fileName sha256 bridge) :=
  ((SameText.literal _).append (same.hash sha256)).append (SameText.literal _)

theorem SameText.pipeName : SameText (Endpoint.studioEndpointPipeName sha256 host)
    (Bridge.Endpoint.pipeName sha256 bridge) :=
  (SameText.literal _).append (same.hash sha256)

end Digest

/-! ## Named pipes -/

def PipeName (path name : List Char) : Prop :=
  ∃ mark, (mark = '.' ∨ mark = '?') ∧ path = '\\' :: '\\' :: mark :: '\\' :: ("pipe\\".toList ++ name)
    ∧ name ≠ [] ∧ '\\' ∉ name ∧ '/' ∉ name

/-- A character a dot of a regular expression does not stand for. -/
def isLineTerminator (c : Char) : Prop :=
  c = '\n' ∨ c = '\r' ∨ c = '\u2028' ∨ c = '\u2029'

theorem isWindowsPipePath_bytes (value : Bridge.Endpoint.GoString) :
    Bridge.Endpoint.isWindowsPipePath value = true ↔ ∃ mark name, (mark = 46 ∨ mark = 63)
      ∧ value = 92 :: 92 :: mark :: 92 :: (Bridge.Endpoint.text "pipe\\" ++ name)
      ∧ name ≠ [] ∧ (92 : UInt8) ∉ name ∧ (47 : UInt8) ∉ name := by
  constructor
  · intro accepted
    unfold Bridge.Endpoint.isWindowsPipePath at accepted
    dsimp only at accepted
    split_ifs at accepted with short marks front
    obtain ⟨a, b, mark, d, rest, rfl⟩ : ∃ a b mark d rest, value = a :: b :: mark :: d :: rest := by
      match value, short with
      | a :: b :: mark :: d :: rest, _ => exact ⟨a, b, mark, d, rest, rfl⟩
      | [], short | [_], short | [_, _], short | [_, _, _], short => exact absurd (by simp) short
    simp only [List.getElem?_cons_zero, List.getElem?_cons_succ, ne_eq, Option.some.injEq, not_or,
      not_and, not_not] at marks
    simp only [Bool.not_eq_true', Bool.not_eq_false, List.isPrefixOf_iff_prefix,
      List.drop_succ_cons, List.drop_zero] at front
    obtain ⟨name, rfl⟩ := front
    simp only [List.drop_succ_cons, List.drop_zero, List.drop_left, Bool.and_eq_true,
      decide_eq_true_eq, Bool.not_eq_true', List.any_eq_false, Bool.or_eq_true, beq_iff_eq,
      not_or] at accepted
    obtain ⟨first, second, either, fourth⟩ := marks
    refine ⟨mark, name, ?_, by rw [first, second, fourth], accepted.1,
      fun member => (accepted.2 _ member).1 rfl, fun member => (accepted.2 _ member).2 rfl⟩
    by_cases dot : mark = 46
    · exact Or.inl dot
    · exact Or.inr (either dot)
  · rintro ⟨mark, name, either, rfl, present, noBackslash, noSlash⟩
    have free : ∀ b ∈ name, ¬(b == 92 || b == 47) = true := by
      intro b member
      simp only [Bool.or_eq_true, beq_iff_eq, not_or]
      exact ⟨fun same => noBackslash (same ▸ member), fun same => noSlash (same ▸ member)⟩
    unfold Bridge.Endpoint.isWindowsPipePath
    have long : ¬(92 :: 92 :: mark :: 92 :: (Bridge.Endpoint.text "pipe\\" ++ name)).length ≤ 4 := by
      have := List.length_pos_iff.2 present
      simp only [List.length_cons, List.length_append]
      omega
    rw [if_neg long, if_neg (by simpa using fun other => either.resolve_left other)]
    simp only [List.drop_succ_cons, List.drop_zero, List.drop_left]
    rw [if_neg (by simp)]
    simpa [present] using free

theorem isWindowsPipePath_units (value : JsString) :
    Endpoint.isWindowsPipePath value = true ↔ ∃ mark name, (mark = 46 ∨ mark = 63)
      ∧ value = 92 :: 92 :: mark :: 92 :: (JsString.ofString "pipe\\" ++ name)
      ∧ (name ≠ [] ∧ (92 : UInt16) ∉ name ∧ (47 : UInt16) ∉ name)
      ∧ ∀ unit ∈ name, Endpoint.isLineTerminator unit = false := by
  have includes : ∀ (name : JsString) (unit : UInt16),
      JsString.includes name [unit] = false ↔ unit ∉ name := by
    intro name unit
    rw [← Bool.not_eq_true, not_iff_not, JsString.includes, List.any_eq_true]
    constructor
    · rintro ⟨rest, suffix, starts⟩
      obtain ⟨others, rfl⟩ := List.isPrefixOf_iff_prefix.1 starts
      exact ((List.mem_tails _ _).1 suffix).subset (by simp)
    · intro member
      obtain ⟨before, after, rfl⟩ := List.append_of_mem member
      exact ⟨unit :: after, (List.mem_tails _ _).2 (List.suffix_append _ _), by simp⟩
  have matches' : ∀ name, Endpoint.pipeMatch value = some name ↔ ∃ mark, (mark = 46 ∨ mark = 63)
      ∧ value = 92 :: 92 :: mark :: 92 :: (JsString.ofString "pipe\\" ++ name)
      ∧ name ≠ [] ∧ ∀ unit ∈ name, Endpoint.isLineTerminator unit = false := by
    intro name
    constructor
    · intro matched
      unfold Endpoint.pipeMatch at matched
      split at matched
      · rename_i mark rest
        dsimp only at matched
        split_ifs at matched with front plain
        obtain ⟨either, starts⟩ := front
        obtain ⟨others, rfl⟩ := List.isPrefixOf_iff_prefix.1 starts
        rw [List.drop_left] at matched plain
        obtain rfl := Option.some.inj matched
        exact ⟨mark, either, rfl, plain.1, by simpa using plain.2⟩
      · exact absurd matched (by simp)
    · rintro ⟨mark, either, rfl, present, plain⟩
      simp only [Endpoint.pipeMatch, List.drop_left]
      rw [if_pos ⟨either, by simp [JsString.startsWith]⟩, if_pos ⟨present, by simpa using plain⟩]
  unfold Endpoint.isWindowsPipePath
  constructor
  · intro accepted
    cases matched : Endpoint.pipeMatch value with
    | none => simp [matched] at accepted
    | some name =>
      obtain ⟨mark, either, whole, present, plain⟩ := (matches' name).1 matched
      simp only [matched, Bool.and_eq_true, Bool.not_eq_true', includes] at accepted
      exact ⟨mark, name, either, whole, ⟨present, accepted.1.2, accepted.2⟩, plain⟩
  · rintro ⟨mark, name, either, whole, ⟨present, noBackslash, noSlash⟩, plain⟩
    rw [(matches' name).2 ⟨mark, either, whole, present, plain⟩]
    simp only [Bool.and_eq_true, Bool.not_eq_true', includes, decide_eq_true_eq]
    exact ⟨⟨List.length_pos_iff.2 present, noBackslash⟩, noSlash⟩

theorem spell_pipe {β : Type} {s : Spelling Char β} (ascii : ∀ c, c.toNat < 0x80 → s.IsSingle c)
    (path : List Char) (name : List β) :
    (∃ mark, (mark = s.code '.' ∨ mark = s.code '?') ∧ s.spell path
        = s.code '\\' :: s.code '\\' :: mark :: s.code '\\' :: (s.spell "pipe\\".toList ++ name))
      ↔ ∃ mark rest, (mark = '.' ∨ mark = '?')
        ∧ path = '\\' :: '\\' :: mark :: '\\' :: ("pipe\\".toList ++ rest) ∧ s.spell rest = name := by
  have backslash : s.IsSingle '\\' := ascii _ (by decide)
  have word : ∀ c ∈ "pipe\\".toList, s.IsSingle c := fun c member =>
    ascii c (JsString.ascii_of_all (by decide) c member)
  have behind : ∀ mark, s.IsSingle mark → (s.spell path = s.code '\\' :: s.code '\\' :: s.code mark
        :: s.code '\\' :: (s.spell "pipe\\".toList ++ name)
      ↔ ∃ rest, path = '\\' :: '\\' :: mark :: '\\' :: ("pipe\\".toList ++ rest)
        ∧ s.spell rest = name) := by
    intro mark single
    simp only [Spelling.spell_eq_cons backslash, Spelling.spell_eq_cons single,
      Spelling.spell_eq_append word]
    constructor
    · rintro ⟨_, rfl, _, rfl, _, rfl, _, rfl, rest, rfl, spelled⟩
      exact ⟨rest, rfl, spelled⟩
    · rintro ⟨rest, rfl, spelled⟩
      exact ⟨_, rfl, _, rfl, _, rfl, _, rfl, rest, rfl, spelled⟩
  constructor
  · rintro ⟨mark, rfl | rfl, spelled⟩
    · obtain ⟨rest, whole, same⟩ := (behind '.' (ascii _ (by decide))).1 spelled
      exact ⟨'.', rest, Or.inl rfl, whole, same⟩
    · obtain ⟨rest, whole, same⟩ := (behind '?' (ascii _ (by decide))).1 spelled
      exact ⟨'?', rest, Or.inr rfl, whole, same⟩
  · rintro ⟨mark, rest, rfl | rfl, whole, same⟩
    · exact ⟨_, Or.inl rfl, (behind '.' (ascii _ (by decide))).2 ⟨rest, whole, same⟩⟩
    · exact ⟨_, Or.inr rfl, (behind '?' (ascii _ (by decide))).2 ⟨rest, whole, same⟩⟩

theorem bridge_isWindowsPipePath (path : List Char) :
    Bridge.Endpoint.isWindowsPipePath (JsString.utf8 path) = true ↔ ∃ name, PipeName path name := by
  have spelled := spell_pipe (s := JsString.byteSpelling) (fun _ ascii => ascii) path
  have backslash : JsString.byteSpelling.IsSingle '\\' := show (92 : Nat) < 0x80 by decide
  have slash : JsString.byteSpelling.IsSingle '/' := show (47 : Nat) < 0x80 by decide
  rw [isWindowsPipePath_bytes]
  constructor
  · rintro ⟨mark, name, either, whole, present, noBackslash, noSlash⟩
    obtain ⟨front, rest, either, rfl, rfl⟩ := (spelled name).1 ⟨mark, either, whole⟩
    exact ⟨rest, front, either, rfl, (mt (JsString.byteSpelling.spell_eq_nil).2 present),
      mt (Spelling.code_mem_spell backslash).2 noBackslash,
      mt (Spelling.code_mem_spell slash).2 noSlash⟩
  · rintro ⟨name, mark, either, whole, present, noBackslash, noSlash⟩
    obtain ⟨code, either, whole⟩ := (spelled _).2 ⟨mark, name, either, whole, rfl⟩
    exact ⟨code, _, either, whole, mt (JsString.byteSpelling.spell_eq_nil).1 present,
      mt (Spelling.code_mem_spell backslash).1 noBackslash,
      mt (Spelling.code_mem_spell slash).1 noSlash⟩

theorem any_isLineTerminator (text : List Char) :
    (JsString.units text).any Endpoint.isLineTerminator = true ↔ ∃ c ∈ text, isLineTerminator c := by
  have member : ∀ c : Char, c.toNat < 0x10000 →
      (c.toNat.toUInt16 ∈ JsString.units text ↔ c ∈ text) := fun c basic =>
    Spelling.code_mem_spell (s := JsString.unitSpelling) basic
  have one := member '\n' (by decide)
  have two := member '\r' (by decide)
  have three := member '\u2028' (by decide)
  have four := member '\u2029' (by decide)
  rw [List.any_eq_true]
  constructor
  · rintro ⟨unit, within, ends⟩
    simp only [Endpoint.isLineTerminator, Bool.or_eq_true, beq_iff_eq] at ends
    rcases ends with ((rfl | rfl) | rfl) | rfl
    · exact ⟨_, one.1 within, Or.inl rfl⟩
    · exact ⟨_, two.1 within, Or.inr (Or.inl rfl)⟩
    · exact ⟨_, three.1 within, Or.inr (Or.inr (Or.inl rfl))⟩
    · exact ⟨_, four.1 within, Or.inr (Or.inr (Or.inr rfl))⟩
  · rintro ⟨c, within, rfl | rfl | rfl | rfl⟩
    · exact ⟨_, one.2 within, rfl⟩
    · exact ⟨_, two.2 within, rfl⟩
    · exact ⟨_, three.2 within, rfl⟩
    · exact ⟨_, four.2 within, rfl⟩

theorem host_isWindowsPipePath (path : List Char) :
    Endpoint.isWindowsPipePath (JsString.units path) = true
      ↔ Bridge.Endpoint.isWindowsPipePath (JsString.utf8 path) = true
        ∧ ¬(JsString.units path).any Endpoint.isLineTerminator = true := by
  have spelled := spell_pipe (s := JsString.unitSpelling)
    (fun _ ascii => Nat.lt_trans ascii (by decide)) path
  have backslash : JsString.unitSpelling.IsSingle '\\' := show (92 : Nat) < 0x10000 by decide
  have slash : JsString.unitSpelling.IsSingle '/' := show (47 : Nat) < 0x10000 by decide
  have plain : ∀ name : List Char, (∀ unit ∈ JsString.units name, Endpoint.isLineTerminator unit = false)
      ↔ ¬∃ c ∈ name, isLineTerminator c := by
    intro name
    rw [← any_isLineTerminator, Bool.not_eq_true, List.any_eq_false]
    simp only [Bool.not_eq_true]
  rw [isWindowsPipePath_units, bridge_isWindowsPipePath, any_isLineTerminator]
  constructor
  · rintro ⟨mark, name, either, whole, ⟨present, noBackslash, noSlash⟩, free⟩
    obtain ⟨front, rest, either, rfl, rfl⟩ := (spelled name).1 ⟨mark, either, whole⟩
    refine ⟨⟨rest, front, either, rfl, mt (JsString.unitSpelling.spell_eq_nil).2 present,
      mt (Spelling.code_mem_spell backslash).2 noBackslash,
      mt (Spelling.code_mem_spell slash).2 noSlash⟩, ?_⟩
    rintro ⟨c, member, ends⟩
    have within : c ∈ rest := by
      rcases either with rfl | rfl <;> rcases ends with rfl | rfl | rfl | rfl <;>
        simpa using member
    exact (plain rest).1 free ⟨c, within, ends⟩
  · rintro ⟨⟨name, mark, either, rfl, present, noBackslash, noSlash⟩, free⟩
    obtain ⟨code, either, whole⟩ := (spelled _).2 ⟨mark, name, either, rfl, rfl⟩
    refine ⟨code, _, either, whole, ⟨mt (JsString.unitSpelling.spell_eq_nil).1 present,
      mt (Spelling.code_mem_spell backslash).1 noBackslash,
      mt (Spelling.code_mem_spell slash).1 noSlash⟩, (plain name).2 ?_⟩
    rintro ⟨c, member, ends⟩
    exact free ⟨c, by simp [member], ends⟩

/-! ## Plans -/

/-- An override on Windows that names a pipe for the bridge, with a line terminator in it. -/
def NamesLineTerminator (host : Endpoint.EndpointPlanInput) (bridge : Bridge.Endpoint.Input) :
    Prop :=
  host.platform = JsString.ofString "win32"
    ∧ Bridge.Endpoint.isWindowsPipePath
      ((bridge.env Bridge.Endpoint.overrideEnv).getD []) = true
    ∧ ((host.env Endpoint.studioSocketOverrideEnv).getD []).any Endpoint.isLineTerminator = true

theorem isPrivateDirectory_eq {host : Option Endpoint.EndpointDirectoryFacts}
    {bridge : Option Bridge.Endpoint.DirFacts} (same : Option.Rel SameFacts host bridge)
    (uid : Int) :
    Endpoint.isPrivateDirectory host uid = Bridge.Endpoint.isPrivateDirectory bridge uid := by
  cases same with
  | none => rfl
  | some facts =>
    rename_i host bridge
    have masked : (host.mode &&& 0o077 == 0) = (bridge.mode &&& 0o077 == 0) := by
      rw [Bool.eq_iff_iff, beq_iff_eq, beq_iff_eq, facts.mode, ← UInt32.toNat_inj,
        UInt32.toNat_and]
      rfl
    simp only [Endpoint.isPrivateDirectory, Bridge.Endpoint.isPrivateDirectory,
      facts.isDirectory, facts.uid, masked]

theorem sameText_getD {host : Option JsString} {bridge : Option Bridge.Endpoint.GoString}
    (same : Option.Rel SameText host bridge) : SameText (host.getD []) (bridge.getD []) := by
  cases same with
  | none => exact ⟨[], rfl, rfl⟩
  | some text => exact text

theorem refused_agree {host : Endpoint.RefusalCode} {bridge : Bridge.Endpoint.RefusalCode}
    (same : bridge.text = host.text) (hostMessage : JsString)
    (bridgeMessage : Bridge.Endpoint.GoString) :
    PlansAgree (Endpoint.refuse host hostMessage) (Bridge.Endpoint.refuse bridge bridgeMessage) :=
  ⟨rfl, congrArg some same⟩

theorem planPrivateRuntimeDir_agree {hostDir hostName : JsString}
    {bridgeDir bridgeName : Bridge.Endpoint.GoString} (dir : SameText hostDir bridgeDir)
    (name : SameText hostName bridgeName) :
    PlansAgree (Endpoint.planPrivateRuntimeDir hostDir hostName)
      (Bridge.Endpoint.planPrivateRuntimeDir bridgeDir bridgeName) := by
  have path := dir.join name
  unfold Endpoint.planPrivateRuntimeDir Bridge.Endpoint.planPrivateRuntimeDir
  simp only [path.withinSunPath]
  split_ifs
  · exact refused_agree rfl _ _
  · exact ⟨rfl, path, dir, rfl⟩

variable {host : Endpoint.EndpointPlanInput} {bridge : Bridge.Endpoint.Input} {hostValue : JsString}
  {bridgeValue : Bridge.Endpoint.GoString}

theorem planOverride_unix (same : SameInput host bridge)
    (unix : host.platform ≠ JsString.ofString "win32") (value : SameText hostValue bridgeValue) :
    PlansAgree (Endpoint.planOverride hostValue host)
      (Bridge.Endpoint.planOverride bridgeValue bridge) := by
  have unix' : bridge.goos ≠ Bridge.Endpoint.text "windows" := mt same.windows.2 unix
  have pipe := @SameText.startsWith _ _ value "\\\\" (JsString.ascii_of_all (by decide))
  have parent := value.dirname
  unfold Endpoint.planOverride Bridge.Endpoint.planOverride
  simp only [pipe, value.isAbsolute, value.withinSunPath, unix, unix', ne_eq, not_false_eq_true,
    true_and, if_false]
  split_ifs
  · exact refused_agree rfl _ _
  · exact refused_agree rfl _ _
  · exact refused_agree rfl _ _
  · obtain ⟨dir, hostDir, bridgeDir⟩ := parent
    rw [hostDir, bridgeDir]
    have probed := same.probe dir
    cases hostFacts : host.probeDirectory (JsString.units dir) with
    | none =>
      rw [hostFacts] at probed
      cases bridgeFacts : bridge.probeDirectory (JsString.utf8 dir) with
      | none => exact refused_agree rfl _ _
      | some facts =>
        rw [bridgeFacts] at probed
        cases probed
    | some hostFacts' =>
      rw [hostFacts] at probed
      cases bridgeFacts : bridge.probeDirectory (JsString.utf8 dir) with
      | none =>
        rw [bridgeFacts] at probed
        cases probed
      | some bridgeFacts' =>
        rw [bridgeFacts] at probed
        cases probed with
        | some facts =>
          have mode : hostFacts'.mode &&& 0o777 = 0o700
              ↔ bridgeFacts'.mode &&& 0o777 = 0o700 := by
            rw [facts.mode, ← UInt32.toNat_inj, UInt32.toNat_and]
            rfl
          simp only [facts.isDirectory, facts.uid, same.uid, mode]
          split_ifs
          · exact refused_agree rfl _ _
          · exact ⟨rfl, value, ⟨dir, rfl, rfl⟩, rfl⟩
          · exact refused_agree rfl _ _
          · exact refused_agree rfl _ _

theorem planOverride_windows (same : SameInput host bridge)
    (windows : host.platform = JsString.ofString "win32") (value : SameText hostValue bridgeValue) :
    PlansAgree (Endpoint.planOverride hostValue host)
        (Bridge.Endpoint.planOverride bridgeValue bridge)
      ↔ ¬(Bridge.Endpoint.isWindowsPipePath bridgeValue = true
        ∧ hostValue.any Endpoint.isLineTerminator = true) := by
  have windows' := same.windows.1 windows
  have accepts : Endpoint.isWindowsPipePath hostValue = true
      ↔ Bridge.Endpoint.isWindowsPipePath bridgeValue = true
        ∧ ¬hostValue.any Endpoint.isLineTerminator = true := by
    obtain ⟨text, rfl, rfl⟩ := value
    exact host_isWindowsPipePath text
  unfold Endpoint.planOverride Bridge.Endpoint.planOverride
  simp only [windows, windows', ne_eq, not_true_eq_false, false_and, if_false, if_true]
  by_cases taken : Bridge.Endpoint.isWindowsPipePath bridgeValue = true
  · by_cases broken : hostValue.any Endpoint.isLineTerminator = true
    · have refused : Endpoint.isWindowsPipePath hostValue = false := by
        rw [Bool.eq_false_iff, ne_eq, accepts]
        exact fun both => both.2 broken
      simp only [taken, broken, refused, Bool.not_true, Bool.not_false, if_true, if_false,
        Bool.false_eq_true, and_self, not_true_eq_false, iff_false]
      rintro ⟨pipe, -⟩
      cases pipe
    · have bound := accepts.2 ⟨taken, broken⟩
      simp only [taken, broken, bound, Bool.not_true, if_false, Bool.false_eq_true, and_false,
        not_false_eq_true, iff_true]
      exact ⟨rfl, value⟩
  · have refused : Endpoint.isWindowsPipePath hostValue = false := by
      rw [Bool.eq_false_iff, ne_eq, accepts]
      exact fun both => taken both.1
    rw [Bool.not_eq_true] at taken
    simp only [taken, refused, Bool.not_false, if_true, Bool.false_eq_true, false_and,
      not_false_eq_true, iff_true]
    exact refused_agree rfl _ _

theorem derived_agree (sha256 : List UInt8 → Vector UInt8 32) (same : SameInput host bridge)
    (derived : (host.env Endpoint.studioSocketOverrideEnv).getD [] = []) :
    PlansAgree (Endpoint.planStudioEndpoint sha256 host) (Bridge.Endpoint.derive sha256 bridge) := by
  have derived' : (bridge.env Bridge.Endpoint.overrideEnv).getD [] = [] :=
    (sameText_getD (same.env "VEX_STUDIO_SOCKET".toList)).eq_nil.1 derived
  have runtimeDir := sameText_getD (same.env "XDG_RUNTIME_DIR".toList)
  have name := same.configDir.fileName sha256
  have user : SameText (JsString.ofString (toString host.uid))
      (Bridge.Endpoint.text (toString bridge.uid)) := by
    rw [same.uid]
    exact SameText.literal _
  have systemd := (SameText.literal "/run/user").join user
  have parent := same.tmpdir.join ((SameText.literal "vex-studio-").append user)
  have candidate := parent.join name
  have private' : ∀ {hostDir : JsString} {bridgeDir : Bridge.Endpoint.GoString},
      SameText hostDir bridgeDir →
      Endpoint.isPrivateDirectory (host.probeDirectory hostDir) host.uid
        = Bridge.Endpoint.isPrivateDirectory (bridge.probeDirectory bridgeDir) bridge.uid := by
    rintro _ _ ⟨dir, rfl, rfl⟩
    rw [same.uid]
    exact isPrivateDirectory_eq (same.probe dir) bridge.uid
  unfold Endpoint.planStudioEndpoint Bridge.Endpoint.derive
  simp only [derived, derived', List.length_nil, gt_iff_lt, lt_self_iff_false, ne_eq,
    not_true_eq_false, if_false]
  by_cases windows : host.platform = JsString.ofString "win32"
  · rw [if_pos windows, if_pos (same.windows.1 windows)]
    exact ⟨rfl, same.configDir.pipeName sha256⟩
  · rw [if_neg windows, if_neg (mt same.windows.2 windows)]
    have firstRung : (host.platform = JsString.ofString "linux"
        ∧ Endpoint.isPrivateDirectory (host.probeDirectory (Endpoint.join
          [Endpoint.linuxRuntimeDirRoot, JsString.ofString (toString host.uid)])) host.uid = true)
        ↔ (bridge.goos = Bridge.Endpoint.text "linux"
          ∧ Bridge.Endpoint.isPrivateDirectory (bridge.probeDirectory (Bridge.Lexical.joinPosix
            [Bridge.Endpoint.linuxRuntimeDirRoot, Bridge.Endpoint.text (toString bridge.uid)]))
            bridge.uid = true) :=
      and_congr same.linux (Bool.eq_iff_iff.1 (private' systemd))
    have secondRung : (host.platform = JsString.ofString "linux"
        ∧ 0 < ((host.env (JsString.ofString "XDG_RUNTIME_DIR")).getD []).length
        ∧ Endpoint.isAbsolute ((host.env (JsString.ofString "XDG_RUNTIME_DIR")).getD []) = true
        ∧ Endpoint.isPrivateDirectory (host.probeDirectory
          ((host.env (JsString.ofString "XDG_RUNTIME_DIR")).getD [])) host.uid = true)
        ↔ (bridge.goos = Bridge.Endpoint.text "linux"
          ∧ ¬(bridge.env (Bridge.Endpoint.text "XDG_RUNTIME_DIR")).getD [] = []
          ∧ (Bridge.Endpoint.text "/").isPrefixOf
            ((bridge.env (Bridge.Endpoint.text "XDG_RUNTIME_DIR")).getD []) = true
          ∧ Bridge.Endpoint.isPrivateDirectory (bridge.probeDirectory
            ((bridge.env (Bridge.Endpoint.text "XDG_RUNTIME_DIR")).getD [])) bridge.uid = true) := by
      refine and_congr same.linux (and_congr ?_ (and_congr ?_ ?_))
      · rw [List.length_pos_iff, ne_eq, not_iff_not]
        exact runtimeDir.eq_nil
      · exact Bool.eq_iff_iff.1 runtimeDir.isAbsolute
      · exact Bool.eq_iff_iff.1 (private' runtimeDir)
    by_cases first : bridge.goos = Bridge.Endpoint.text "linux"
      ∧ Bridge.Endpoint.isPrivateDirectory (bridge.probeDirectory (Bridge.Lexical.joinPosix
        [Bridge.Endpoint.linuxRuntimeDirRoot, Bridge.Endpoint.text (toString bridge.uid)]))
        bridge.uid = true
    · rw [if_pos first, if_pos (firstRung.2 first)]
      exact planPrivateRuntimeDir_agree systemd name
    · rw [if_neg first, if_neg (mt firstRung.1 first)]
      by_cases second : bridge.goos = Bridge.Endpoint.text "linux"
        ∧ ¬(bridge.env (Bridge.Endpoint.text "XDG_RUNTIME_DIR")).getD [] = []
        ∧ (Bridge.Endpoint.text "/").isPrefixOf
          ((bridge.env (Bridge.Endpoint.text "XDG_RUNTIME_DIR")).getD []) = true
        ∧ Bridge.Endpoint.isPrivateDirectory (bridge.probeDirectory
          ((bridge.env (Bridge.Endpoint.text "XDG_RUNTIME_DIR")).getD [])) bridge.uid = true
      · rw [if_pos second, if_pos (secondRung.2 second)]
        exact planPrivateRuntimeDir_agree runtimeDir name
      · rw [if_neg second, if_neg (mt secondRung.1 second)]
        simp only [candidate.withinSunPath]
        split_ifs
        · exact refused_agree rfl _ _
        · exact ⟨rfl, candidate, parent, rfl⟩

/-- Given the same facts, the host and the bridge plan the same endpoint or refuse with the same
code, exactly when the override is no pipe name with a line terminator in it. -/
theorem plans_agree (sha256 : List UInt8 → Vector UInt8 32) {host : Endpoint.EndpointPlanInput}
    {bridge : Bridge.Endpoint.Input} (same : SameInput host bridge) :
    PlansAgree (Endpoint.planStudioEndpoint sha256 host) (Bridge.Endpoint.derive sha256 bridge)
      ↔ ¬NamesLineTerminator host bridge := by
  have override := sameText_getD (same.env "VEX_STUDIO_SOCKET".toList)
  by_cases derived : (host.env Endpoint.studioSocketOverrideEnv).getD [] = []
  · refine iff_of_true (derived_agree sha256 same derived) ?_
    rintro ⟨-, -, broken⟩
    rw [derived] at broken
    cases broken
  · have overridden : ((host.env Endpoint.studioSocketOverrideEnv).getD []).length > 0 :=
      List.length_pos_iff.2 derived
    have overridden' : (bridge.env Bridge.Endpoint.overrideEnv).getD [] ≠ [] :=
      mt override.eq_nil.2 derived
    unfold Endpoint.planStudioEndpoint Bridge.Endpoint.derive NamesLineTerminator
    simp only [if_pos overridden, if_pos overridden']
    by_cases windows : host.platform = JsString.ofString "win32"
    · simp only [windows, true_and]
      exact planOverride_windows same windows override
    · simp only [windows, false_and, not_false_eq_true, iff_true]
      exact planOverride_unix same windows override

/-- A host on Linux whose runtime directory is private, with the configuration in `abc`. -/
def linuxHost : Endpoint.EndpointPlanInput where
  platform := JsString.ofString "linux"
  configDirRealPath := JsString.ofString "abc"
  env _ := none
  tmpdir := JsString.ofString "/tmp"
  uid := 1000
  probeDirectory _ := some ⟨true, 1000, 0o700⟩

def linuxBridge : Bridge.Endpoint.Input where
  goos := Bridge.Endpoint.text "linux"
  configDirHashInput := Bridge.Endpoint.text "abc"
  env _ := none
  tmpdir := Bridge.Endpoint.text "/tmp"
  uid := 1000
  probeDirectory _ := some ⟨true, 1000, 0o700⟩

/-- The digest of `abc`. -/
def digestOfAbc : Vector UInt8 32 :=
  #v[0xba, 0x78, 0x16, 0xbf, 0x8f, 0x01, 0xcf, 0xea, 0x41, 0x41, 0x40, 0xde, 0x5d, 0xae, 0x22, 0x23,
    0xb0, 0x03, 0x61, 0xa3, 0x96, 0x17, 0x7a, 0x9c, 0xb4, 0x10, 0xff, 0x61, 0xf2, 0x00, 0x15, 0xad]

/-- Both plan a socket in the runtime directory of the user. -/
theorem plans_agree_on_linux :
    PlansAgree (Endpoint.planStudioEndpoint (fun _ => digestOfAbc) linuxHost)
      (Bridge.Endpoint.derive (fun _ => digestOfAbc) linuxBridge) :=
  (plans_agree (fun _ => digestOfAbc)
    { windows := by decide
      linux := by decide
      configDir := SameText.literal "abc"
      env := fun _ => Option.Rel.none
      tmpdir := SameText.literal "/tmp"
      uid := rfl
      probe := fun _ => Option.Rel.some ⟨rfl, rfl, rfl⟩ }).2 (by
    rintro ⟨windows, -⟩
    revert windows
    decide)

/-- An override on Windows: `\\.\pipe\a`, a line feed and `b`. -/
def brokenName : List Char := "\\\\.\\pipe\\a\nb".toList

def brokenHost : Endpoint.EndpointPlanInput where
  platform := JsString.ofString "win32"
  configDirRealPath := JsString.ofString "abc"
  env name := if name = Endpoint.studioSocketOverrideEnv then some (JsString.units brokenName)
    else none
  tmpdir := JsString.ofString "/tmp"
  uid := -1
  probeDirectory _ := none

def brokenBridge : Bridge.Endpoint.Input where
  goos := Bridge.Endpoint.text "windows"
  configDirHashInput := Bridge.Endpoint.text "abc"
  env name := if name = Bridge.Endpoint.overrideEnv then some (JsString.utf8 brokenName) else none
  tmpdir := Bridge.Endpoint.text "/tmp"
  uid := -1
  probeDirectory _ := none

theorem broken_same : SameInput brokenHost brokenBridge where
  windows := by decide
  linux := by decide
  configDir := SameText.literal "abc"
  env name := by
    have ascii : ∀ c ∈ "VEX_STUDIO_SOCKET".toList, c.toNat < 0x80 := JsString.ascii_of_all (by decide)
    by_cases named : name = "VEX_STUDIO_SOCKET".toList
    · rw [named]
      exact Option.Rel.some ⟨brokenName, rfl, rfl⟩
    · have units : JsString.units name ≠ Endpoint.studioSocketOverrideEnv := by
        intro same
        obtain ⟨rest, whole, nothing⟩ := (JsString.unitSpelling.spell_eq_append
          fun c member => Nat.lt_trans (ascii c member) (by decide)).1
          (same.trans (List.append_nil _).symm)
        rw [JsString.unitSpelling.spell_eq_nil.1 nothing, List.append_nil] at whole
        exact named whole
      have bytes : JsString.utf8 name ≠ Bridge.Endpoint.overrideEnv := fun same =>
        named (JsString.utf8_injective same)
      show Option.Rel SameText (if JsString.units name = _ then _ else none)
        (if JsString.utf8 name = _ then _ else none)
      rw [if_neg units, if_neg bytes]
      exact Option.Rel.none
  tmpdir := SameText.literal "/tmp"
  uid := rfl
  probe _ := Option.Rel.none

/-- The bridge dials the pipe of that name, and the host refuses to bind it. -/
theorem planners_differ : ¬∀ (sha256 : List UInt8 → Vector UInt8 32)
    (host : Endpoint.EndpointPlanInput) (bridge : Bridge.Endpoint.Input), SameInput host bridge →
    PlansAgree (Endpoint.planStudioEndpoint sha256 host) (Bridge.Endpoint.derive sha256 bridge) := by
  intro agree
  have plans := agree (fun _ => digestOfAbc) brokenHost brokenBridge broken_same
  have refused : ∃ message, Endpoint.planStudioEndpoint (fun _ => digestOfAbc) brokenHost
      = .refused .overrideInvalidPipe message := ⟨_, rfl⟩
  have dialled : Bridge.Endpoint.derive (fun _ => digestOfAbc) brokenBridge
      = { kind := .pipe, path := JsString.utf8 brokenName } := by decide
  obtain ⟨message, refused⟩ := refused
  rw [refused, dialled] at plans
  cases plans.1

end Vex.Studio.EndpointAgreement
