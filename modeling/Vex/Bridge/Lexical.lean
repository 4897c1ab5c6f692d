import Mathlib
import Vex.Library.PosixPath

/-!
# Path normalisation of the bridge

The bridge joins and cuts paths a byte at a time, because it answers for a target
platform that need not be its own. The loop of `normalizeSegments` keeps what it
has written, the length of the last segment in it, where it saw the last
separator and how many dots have followed, and takes a segment back by cutting
off what it wrote.

What the loop knows after the bytes it has read is `Walk.Reads`: the segments
that remain and the bytes of the one it is in. So it computes the path that
resolving the segments one by one gives (`normalizePosix_eq`), and `joinPosix`
and `dirnamePosix` compute the joined path and its directory (`joinPosix_eq`,
`dirnamePosix_eq`).
-/

namespace Vex.Bridge.Lexical

open Vex.Library.PosixPath

/-- A separator is a slash, and the dot is the full stop. -/
def byteMarks : Marks UInt8 := ⟨47, 46, by decide⟩

@[simp] theorem byteMarks_sep : byteMarks.sep = 47 := rfl

@[simp] theorem byteMarks_dot : byteMarks.dot = 46 := rfl

def isPosixSep (b : UInt8) : Bool := b == 47

def lastIndexByte (text : List UInt8) (b : UInt8) : Int :=
  (text.length : Int) - 1 - (text.reverse.takeWhile (· ≠ b)).length

/-- The variables of the loop of `normalizeSegments`. -/
structure Walk where
  res : List UInt8
  lastSegmentLength : Int
  lastSlash : Int
  dots : Int

/-- A segment is written, behind a separator when it is not the first. -/
def Walk.write (w : Walk) (sep : UInt8) (segment : List UInt8) : Walk :=
  { w with
    res := w.res ++ (if w.res.length > 0 then [sep] else []) ++ segment
    lastSegmentLength := segment.length }

/-- Two dots that take nothing back stay, where the path may rise above its root. -/
def Walk.rise (w : Walk) (allowAboveRoot : Bool) (sep : UInt8) : Walk :=
  if allowAboveRoot then w.write sep [46, 46] else w

def Walk.endsInDots (w : Walk) : Bool :=
  !(w.res.length < 2 || w.lastSegmentLength != 2 || w.res[w.res.length - 1]? != some 46
    || w.res[w.res.length - 2]? != some 46)

/-- The arm of the loop at a separator, before `lastSlash = i` and `dots = 0`. -/
def Walk.separated (w : Walk) (path : List UInt8) (allowAboveRoot : Bool) (sep : UInt8)
    (i : Nat) : Walk :=
  if w.lastSlash = i - 1 ∨ w.dots = 1 then w
  else if w.dots = 2 then
    if w.endsInDots then w.rise allowAboveRoot sep
    else if w.res.length > 2 then
      let idx := (w.res.length : Int) - w.lastSegmentLength - 1
      if idx = -1 then { w with res := [], lastSegmentLength := 0 }
      else
        let trimmed := w.res.take idx.toNat
        { w with
          res := trimmed
          lastSegmentLength := (trimmed.length : Int) - 1 - lastIndexByte trimmed sep }
    else if w.res.length ≠ 0 then { w with res := [], lastSegmentLength := 0 }
    else w.rise allowAboveRoot sep
  else w.write sep ((path.take i).drop (w.lastSlash + 1).toNat)

def Walk.step (w : Walk) (path : List UInt8) (allowAboveRoot : Bool) (sep : UInt8)
    (isSep : UInt8 → Bool) (i : Nat) (code : UInt8) : Walk :=
  if isSep code then { w.separated path allowAboveRoot sep i with lastSlash := i, dots := 0 }
  else if code = 46 ∧ w.dots ≠ -1 then { w with dots := w.dots + 1 }
  else { w with dots := -1 }

/-- The loop of `normalizeSegments` from index `i` on, with what is left of the path: the end
counts as a separator unless one stands there already. -/
def walkFrom (path : List UInt8) (allowAboveRoot : Bool) (sep : UInt8) (isSep : UInt8 → Bool)
    (i : Nat) (code : UInt8) : List UInt8 → Walk → Walk
  | [], w => if isSep code then w else w.step path allowAboveRoot sep isSep i sep
  | b :: rest, w =>
    walkFrom path allowAboveRoot sep isSep (i + 1) b rest (w.step path allowAboveRoot sep isSep i b)

def normalizeSegments (path : List UInt8) (allowAboveRoot : Bool) (sep : UInt8)
    (isSep : UInt8 → Bool) : List UInt8 :=
  (walkFrom path allowAboveRoot sep isSep 0 0 path ⟨[], 0, -1, 0⟩).res

def normalizePosix (value : List UInt8) : List UInt8 :=
  if value.length = 0 then [46]
  else
    let absolute := value[0]? = some 47
    let trailingSeparator := value[value.length - 1]? = some 47
    let normalized := normalizeSegments value (!absolute) 47 isPosixSep
    if normalized.length = 0 then
      if absolute then [47] else if trailingSeparator then [46, 47] else [46]
    else
      let normalized := if trailingSeparator then normalized ++ [47] else normalized
      if absolute then 47 :: normalized else normalized

/-- The parts joined so far: nothing before the first that is not empty. -/
def joinPart (joined : Option (List UInt8)) (part : List UInt8) : Option (List UInt8) :=
  if part = [] then joined
  else
    match joined with
    | none => some part
    | some joined => some (joined ++ 47 :: part)

def joinPosix (parts : List (List UInt8)) : List UInt8 :=
  match parts.foldl joinPart none with
  | none => [46]
  | some joined => normalizePosix joined

/-- The loop of `DirnamePosix`, downwards from an index to 1. -/
def lastSeparator (value : List UInt8) : Nat → Bool → Int
  | 0, _ => -1
  | i + 1, matchedSlash =>
    if value[i + 1]? = some 47 then
      if matchedSlash then lastSeparator value i matchedSlash else (i + 1 : Nat)
    else lastSeparator value i false

def dirnamePosix (value : List UInt8) : List UInt8 :=
  if value.length = 0 then [46]
  else
    let hasRoot := value[0]? = some 47
    let end' := lastSeparator value (value.length - 1) true
    if end' = -1 then if hasRoot then [47] else [46]
    else if hasRoot ∧ end' = 1 then [47, 47]
    else value.take end'.toNat

/-! ## The loop -/

/-- What the loop knows of the bytes it has read: the segments that remain, the last of them
first, and the bytes of the segment it is in. -/
structure Walk.Reads (w : Walk) (read : List UInt8) (stack : List (List UInt8))
    (current : List UInt8) : Prop where
  res : w.res = written byteMarks stack
  last : w.lastSegmentLength = (stack.headD []).length
  slash : w.lastSlash = (read.length : Int) - current.length - 1
  dots : w.dots = if ∀ b ∈ current, b = 46 then (current.length : Int) else -1
  within : current <:+ read
  named : ∀ segment ∈ stack, segment ≠ [] ∧ (47 : UInt8) ∉ segment
  whole : (47 : UInt8) ∉ current

variable {text : List UInt8}

theorem takeWhile_of_not_mem (absent : (47 : UInt8) ∉ text) (rest : List UInt8) :
    (text ++ rest).takeWhile (· ≠ 47) = text ++ rest.takeWhile (· ≠ 47) := by
  apply List.takeWhile_append_of_pos
  intro b member
  simp only [decide_eq_true_eq]
  rintro rfl
  exact absent member

theorem lastIndexByte_of_not_mem (absent : (47 : UInt8) ∉ text) : lastIndexByte text 47 = -1 := by
  have all := @takeWhile_of_not_mem text.reverse (by simpa using absent) []
  simp only [List.append_nil, List.takeWhile_nil] at all
  rw [lastIndexByte, all, List.length_reverse]
  omega

theorem lastIndexByte_append {front : List UInt8} (absent : (47 : UInt8) ∉ text) :
    lastIndexByte (front ++ 47 :: text) 47 = front.length := by
  have all := @takeWhile_of_not_mem text.reverse (by simpa using absent) (47 :: front.reverse)
  rw [lastIndexByte, List.reverse_append, List.reverse_cons, List.append_assoc,
    List.singleton_append, all]
  simp
  omega

variable {stack : List (List UInt8)}

theorem length_written_pos (named : ∀ segment ∈ stack, segment ≠ [] ∧ (47 : UInt8) ∉ segment) :
    (written byteMarks stack).length > 0 ↔ stack ≠ [] := by
  rw [gt_iff_lt, List.length_pos_iff, ne_eq,
    written_eq_nil byteMarks fun segment member => (named segment member).1]

variable {w : Walk} {read current : List UInt8}

theorem Walk.Reads.write (reads : w.Reads read stack current) (segment : List UInt8) :
    (w.write 47 segment).res = written byteMarks (segment :: stack) ∧
      (w.write 47 segment).lastSegmentLength = (((segment :: stack).headD []).length : Int) := by
  refine ⟨?_, rfl⟩
  rw [written_cons]
  by_cases none' : stack = []
  · simp [Walk.write, reads.res, none', written]
  · have present := (length_written_pos reads.named).2 none'
    show w.res ++ (if w.res.length > 0 then [47] else []) ++ segment = _
    rw [reads.res, if_pos present, if_neg none', List.append_assoc]
    rfl

theorem Walk.Reads.endsInDots (reads : w.Reads read stack current) :
    w.endsInDots = true ↔ ∃ rest, stack = [46, 46] :: rest := by
  cases stack with
  | nil => simp [Walk.endsInDots, reads.res, written]
  | cons top rest =>
    have ends : ∃ front, w.res = front ++ top := by
      rw [reads.res, written_cons]
      split_ifs
      · exact ⟨[], rfl⟩
      · exact ⟨written byteMarks rest ++ [47], by simp [byteMarks]⟩
    obtain ⟨front, ends⟩ := ends
    have last : w.lastSegmentLength = (top.length : Int) := reads.last
    simp only [List.cons.injEq, exists_and_left, exists_eq', and_true]
    constructor
    · intro dotted
      simp only [Walk.endsInDots, Bool.not_eq_true', Bool.or_eq_false_iff,
        decide_eq_false_iff_not, bne_eq_false_iff_eq] at dotted
      obtain ⟨⟨⟨-, two⟩, lastDot⟩, firstDot⟩ := dotted
      have long : top.length = 2 := by omega
      obtain ⟨a, b, rfl⟩ := List.length_eq_two.1 long
      rw [ends] at lastDot firstDot
      simp at lastDot firstDot
      rw [lastDot, firstDot]
    · rintro rfl
      simp [Walk.endsInDots, ends, last]

theorem Walk.Reads.rise (reads : w.Reads read stack current) (allowAboveRoot : Bool) :
    let after := if allowAboveRoot then [46, 46] :: stack else stack
    (w.rise allowAboveRoot 47).res = written byteMarks after ∧
      (w.rise allowAboveRoot 47).lastSegmentLength = ((after.headD []).length : Int) := by
  cases allowAboveRoot with
  | true => exact reads.write [46, 46]
  | false => exact ⟨reads.res, reads.last⟩

variable {path : List UInt8}

variable {allowAboveRoot : Bool}

theorem Walk.Reads.takeBack {top : List UInt8} {rest : List (List UInt8)}
    (reads : w.Reads read (top :: rest) current) (up : current = [46, 46]) (named : top ≠ [46, 46]) :
    (w.separated path allowAboveRoot 47 read.length).res = written byteMarks rest ∧
      (w.separated path allowAboveRoot 47 read.length).lastSegmentLength
        = ((rest.headD []).length : Int) := by
  have twoDots : w.dots = 2 := by simp [reads.dots, up]
  have apart : ¬(w.lastSlash = (read.length : Int) - 1 ∨ w.dots = 1) := by
    rw [reads.slash, twoDots, up, List.length_cons, List.length_singleton]
    omega
  have notDots : w.endsInDots ≠ true := by
    rw [ne_eq, reads.endsInDots]
    rintro ⟨_, same⟩
    exact named (List.cons.inj same).1
  have last : w.lastSegmentLength = (top.length : Int) := reads.last
  have topPresent : top.length ≠ 0 := fun none' =>
    (reads.named top List.mem_cons_self).1 (List.eq_nil_of_length_eq_zero none')
  have named' : ∀ segment ∈ rest, segment ≠ [] ∧ (47 : UInt8) ∉ segment :=
    fun segment member => reads.named segment (List.mem_cons_of_mem _ member)
  unfold Walk.separated
  rw [if_neg apart, if_pos twoDots, if_neg notDots]
  by_cases alone : rest = []
  · have only : w.res = top := by rw [reads.res, written_cons, if_pos alone]
    have index : (w.res.length : Int) - w.lastSegmentLength - 1 = -1 := by
      rw [only, last]
      omega
    have something : w.res.length ≠ 0 := by rwa [only]
    simp only [index, if_true, if_pos something, alone]
    split_ifs <;> exact ⟨rfl, rfl⟩
  · have before := (length_written_pos named').2 alone
    have both : w.res = written byteMarks rest ++ 47 :: top := by
      rw [reads.res, written_cons, if_neg alone]
      rfl
    have index : (w.res.length : Int) - w.lastSegmentLength - 1
        = (written byteMarks rest).length := by
      rw [both, last, List.length_append, List.length_cons]
      omega
    have long : w.res.length > 2 := by
      rw [both, List.length_append, List.length_cons]
      omega
    have cut : w.res.take (written byteMarks rest).length = written byteMarks rest := by
      rw [both, List.take_left]
    rw [if_pos long]
    simp only [index]
    rw [if_neg (by omega), Int.toNat_natCast, cut]
    refine ⟨rfl, ?_⟩
    obtain ⟨below, others, rfl⟩ := List.exists_cons_of_ne_nil alone
    have whole := (named' below List.mem_cons_self).2
    simp only [written_cons, List.headD_cons]
    split_ifs
    · rw [lastIndexByte_of_not_mem whole]
      omega
    · rw [show byteMarks.sep = 47 from rfl, lastIndexByte_append whole, List.length_append,
        List.length_cons]
      omega

theorem Walk.Reads.separated (reads : w.Reads read stack current)
    (front : path.take read.length = read) (allowAboveRoot : Bool) :
    let after := resolveStep byteMarks allowAboveRoot stack current
    (w.separated path allowAboveRoot 47 read.length).res = written byteMarks after ∧
      (w.separated path allowAboveRoot 47 read.length).lastSegmentLength
        = ((after.headD []).length : Int) := by
  have apartIff : w.lastSlash = (read.length : Int) - 1 ∨ w.dots = 1
      ↔ current = [] ∨ current = [46] := by
    rw [reads.slash, reads.dots, ← List.length_eq_zero_iff]
    constructor
    · rintro (empty | one)
      · exact Or.inl (by omega)
      · split_ifs at one with every
        obtain ⟨b, rfl⟩ := List.length_eq_one_iff.1 (by omega : current.length = 1)
        rw [every b List.mem_cons_self]
        exact Or.inr rfl
    · rintro (empty | rfl)
      · exact Or.inl (by omega)
      · exact Or.inr (by simp)
  have dotsIff : w.dots = 2 ↔ current = [46, 46] := by
    rw [reads.dots]
    constructor
    · intro two
      split_ifs at two with every
      obtain ⟨a, b, rfl⟩ := List.length_eq_two.1 (by omega : current.length = 2)
      rw [every a (by simp), every b (by simp)]
    · rintro rfl
      simp
  unfold resolveStep
  by_cases blank : current = [] ∨ current = [byteMarks.dot]
  · rw [if_pos blank]
    unfold Walk.separated
    rw [if_pos (apartIff.2 blank)]
    exact ⟨reads.res, reads.last⟩
  · rw [if_neg blank]
    have apart := fun same => blank (apartIff.1 same)
    by_cases up : current = [46, 46]
    · rw [if_pos (show current = [byteMarks.dot, byteMarks.dot] from up)]
      cases stack with
      | nil =>
        have risen := reads.rise allowAboveRoot
        have empty : w.res = [] := by rw [reads.res, written, List.reverse_nil,
          List.intercalate_nil]
        unfold Walk.separated
        rw [if_neg apart, if_pos (dotsIff.2 up)]
        simpa [empty, up] using risen
      | cons top rest =>
        by_cases risen : top = [46, 46]
        · have ends := reads.endsInDots.2 ⟨rest, by rw [risen]⟩
          unfold Walk.separated
          rw [if_neg apart, if_pos (dotsIff.2 up), if_pos ends, up]
          simp only [if_pos (show top = [byteMarks.dot, byteMarks.dot] from risen)]
          exact reads.rise allowAboveRoot
        · simp only [if_neg (show ¬top = [byteMarks.dot, byteMarks.dot] from risen)]
          exact reads.takeBack up risen
    · rw [if_neg (show ¬current = [byteMarks.dot, byteMarks.dot] from up)]
      obtain ⟨before, within⟩ := reads.within
      have slice : (path.take read.length).drop (w.lastSlash + 1).toNat = current := by
        have start : (w.lastSlash + 1).toNat = before.length := by
          rw [reads.slash, ← within, List.length_append]
          omega
        rw [front, start, ← within, List.drop_left]
      unfold Walk.separated
      rw [if_neg apart, if_neg (fun two => up (dotsIff.1 two)), slice]
      exact reads.write current

theorem resolveStep_named (named : ∀ segment ∈ stack, segment ≠ [] ∧ (47 : UInt8) ∉ segment)
    (whole : (47 : UInt8) ∉ current) :
    ∀ segment ∈ resolveStep byteMarks allowAboveRoot stack current,
      segment ≠ [] ∧ (47 : UInt8) ∉ segment := by
  intro segment member
  rcases mem_resolveStep byteMarks member with before | ⟨rfl, present⟩
  · exact named segment before
  · exact ⟨present, whole⟩

theorem Walk.Reads.step_separator (reads : w.Reads read stack current)
    (front : path.take read.length = read) (allowAboveRoot : Bool) :
    (w.step path allowAboveRoot 47 isPosixSep read.length 47).Reads (read ++ [47])
      (resolveStep byteMarks allowAboveRoot stack current) [] := by
  obtain ⟨res, last⟩ := reads.separated front allowAboveRoot
  refine ⟨res, last, ?_, (if_pos (by simp)).symm, List.nil_suffix, resolveStep_named reads.named reads.whole,
    by simp⟩
  rw [List.length_append]
  show (read.length : Int) = _
  simp

theorem Walk.Reads.step_other (reads : w.Reads read stack current) {b : UInt8} (other : b ≠ 47)
    (allowAboveRoot : Bool) :
    (w.step path allowAboveRoot 47 isPosixSep read.length b).Reads (read ++ [b]) stack
      (current ++ [b]) := by
  have notSep : ¬isPosixSep b = true := by simpa [isPosixSep] using other
  have dots : w.dots ≠ -1 ↔ ∀ c ∈ current, c = 46 := by
    rw [reads.dots]
    split_ifs with every
    · exact ⟨fun _ => every, fun _ => by omega⟩
    · exact ⟨fun absurd' => absurd rfl absurd', fun every' => absurd every' every⟩
  have extended : (∀ c ∈ current ++ [b], c = 46) ↔ b = 46 ∧ w.dots ≠ -1 := by
    rw [dots]
    simp [or_imp, forall_and, and_comm]
  have within : current ++ [b] <:+ read ++ [b] := by
    obtain ⟨before, within⟩ := reads.within
    exact ⟨before, by rw [← within, List.append_assoc]⟩
  have whole : (47 : UInt8) ∉ current ++ [b] := by
    rw [List.mem_append, List.mem_singleton, not_or]
    exact ⟨reads.whole, Ne.symm other⟩
  unfold Walk.step
  rw [if_neg notSep]
  by_cases dot : b = 46 ∧ w.dots ≠ -1
  · rw [if_pos dot]
    refine ⟨reads.res, reads.last, ?_, ?_, within, reads.named, whole⟩
    · rw [List.length_append, List.length_append]
      show w.lastSlash = _
      rw [reads.slash]
      omega
    · rw [if_pos (extended.2 dot), List.length_append]
      show w.dots + 1 = _
      rw [reads.dots, if_pos (dots.1 dot.2)]
      rfl
  · rw [if_neg dot]
    refine ⟨reads.res, reads.last, ?_, ?_, within, reads.named, whole⟩
    · rw [List.length_append, List.length_append]
      show w.lastSlash = _
      rw [reads.slash]
      omega
    · rw [if_neg (fun every => dot (extended.1 every))]

/-- From what the loop has read on, it resolves the segments of the rest, the first of them
behind the bytes of the segment it is in. -/
theorem walkFrom_reads (allowAboveRoot : Bool) :
    ∀ (rest read : List UInt8) (w : Walk) (stack : List (List UInt8)) (current : List UInt8)
      (code : UInt8), path = read ++ rest → (isPosixSep code = true ↔ ∃ before, read = before ++ [47]) →
      w.Reads read stack current →
      (walkFrom path allowAboveRoot 47 isPosixSep read.length code rest w).res
        = written byteMarks (((rest.splitOn 47).modifyHead (current ++ ·)).foldl
            (resolveStep byteMarks allowAboveRoot) stack) := by
  intro rest
  induction rest with
  | nil =>
    intro read w stack current code whole atEnd reads
    have front : path.take read.length = read := by simp [whole]
    simp only [walkFrom, List.splitOn_nil, List.modifyHead_cons, List.append_nil,
      List.foldl_cons, List.foldl_nil]
    by_cases ended : isPosixSep code = true
    · rw [if_pos ended, reads.res]
      obtain ⟨before, ends⟩ := atEnd.1 ended
      -- the segment the loop is in stands behind the separator
      have empty : current = [] := by
        obtain ⟨start, within⟩ := reads.within
        by_contra present
        have last : current.getLast present = 47 := by
          have both : (start ++ current).getLast (by simp [present]) = 47 := by
            simp only [within, ends, List.getLast_concat]
          rwa [List.getLast_append_of_ne_nil _ present] at both
        exact reads.whole (last ▸ List.getLast_mem present)
      rw [empty, resolveStep_nil]
    · rw [if_neg ended]
      exact (reads.step_separator front allowAboveRoot).res
  | cons b rest ih =>
    intro read w stack current code whole _ reads
    have front : path.take read.length = read := by simp [whole]
    have further : path = (read ++ [b]) ++ rest := by simp [whole]
    have length : (read ++ [b]).length = read.length + 1 := by simp
    have behind : isPosixSep b = true ↔ ∃ before, read ++ [b] = before ++ [47] := by
      rw [isPosixSep, beq_iff_eq]
      constructor
      · rintro rfl
        exact ⟨read, rfl⟩
      · rintro ⟨before, same⟩
        exact (List.append_singleton_inj.1 same).2
    simp only [walkFrom]
    rw [← length, List.splitOn_cons_eq_if_modifyHead]
    by_cases separates : b = 47
    · rw [separates] at further behind ⊢
      rw [ih _ _ _ _ _ further behind (reads.step_separator front allowAboveRoot),
        if_pos (beq_self_eq_true _)]
      have same : (rest.splitOn 47).modifyHead (([] : List UInt8) ++ ·) = rest.splitOn 47 := by
        cases rest.splitOn 47 <;> rfl
      rw [same, List.modifyHead_cons, List.foldl_cons, List.append_nil]
    · have same : ((current ++ [b]) ++ ·) = (current ++ ·) ∘ List.cons b := by
        funext segment
        simp
      rw [ih _ _ _ _ _ further behind (reads.step_other separates allowAboveRoot),
        if_neg (by simpa using separates), List.modifyHead_modifyHead, same]

theorem normalizeSegments_eq (path : List UInt8) (allowAboveRoot : Bool) :
    normalizeSegments path allowAboveRoot 47 isPosixSep
      = written byteMarks (resolve byteMarks allowAboveRoot (path.splitOn 47)) := by
  have start : Walk.Reads ⟨[], 0, -1, 0⟩ [] [] [] :=
    ⟨rfl, rfl, rfl, by simp, List.nil_suffix, by simp, by simp⟩
  have walked := walkFrom_reads allowAboveRoot path [] _ [] [] 0 rfl (by simp [isPosixSep]) start
  have same : (path.splitOn 47).modifyHead (([] : List UInt8) ++ ·) = path.splitOn 47 := by
    cases path.splitOn 47 <;> rfl
  rw [same] at walked
  exact walked

variable (value : List UInt8)

theorem normalizePosix_eq : normalizePosix value = Library.PosixPath.normalize byteMarks value := by
  unfold normalizePosix Library.PosixPath.normalize
  simp only [normalizeSegments_eq, isAbsolute, List.length_eq_zero_iff, ← List.head?_eq_getElem?,
    ← List.getLast?_eq_getElem?, byteMarks_sep, byteMarks_dot]
  split_ifs <;> simp_all

theorem joinPosix_eq (parts : List (List UInt8)) : joinPosix parts = join byteMarks parts := by
  have along : ∀ (parts : List (List UInt8)) (joined : List UInt8),
      parts.foldl joinPart (some joined)
        = some ([47].intercalate (joined :: parts.filter (· ≠ []))) := by
    intro parts
    induction parts with
    | nil => intro joined; simp
    | cons part rest ih =>
      intro joined
      rw [List.foldl_cons, joinPart]
      by_cases blank : part = []
      · rw [if_pos blank, ih]
        simp [blank]
      · rw [if_neg blank, ih, List.filter_cons_of_pos (by simpa using blank)]
        cases rest.filter (· ≠ []) <;> simp
  have joins : parts.foldl joinPart none = if parts.filter (· ≠ []) = [] then none
        else some ([47].intercalate (parts.filter (· ≠ []))) := by
    induction parts with
    | nil => rfl
    | cons part rest ih =>
      rw [List.foldl_cons, joinPart]
      by_cases blank : part = []
      · rw [if_pos blank, ih]
        simp [blank]
      · rw [if_neg blank, along, List.filter_cons_of_pos (by simpa using blank),
          if_neg (List.cons_ne_nil _ _)]
  unfold joinPosix join
  rw [joins]
  split_ifs
  · rfl
  · exact normalizePosix_eq _

/-! ## Directories -/

/-- What the loop looks for the end of: all up to the last separator, once a name has been
seen, and what stands in front of the last name before. -/
def sought (matchedSlash : Bool) (read : List UInt8) : List UInt8 :=
  if matchedSlash then parent byteMarks read else upToSeparator byteMarks read

theorem sought_starts (matchedSlash : Bool) (read : List UInt8) :
    sought matchedSlash read <+: read := by
  cases matchedSlash with
  | true => exact parent_prefix byteMarks read
  | false => exact upToSeparator_prefix byteMarks read

theorem sought_concat {b : UInt8} (other : b ≠ 47) (matchedSlash : Bool) (read : List UInt8) :
    sought matchedSlash (read ++ [b]) = sought false read := by
  cases matchedSlash with
  | true => exact parent_concat byteMarks other read
  | false => exact upToSeparator_concat byteMarks other read

theorem lastSeparator_eq (i : Nat) (below : i < value.length) (matchedSlash : Bool) :
    lastSeparator value i matchedSlash
      = if (sought matchedSlash (value.take (i + 1))).length ≤ 1 then -1
        else ((sought matchedSlash (value.take (i + 1))).length : Int) - 1 := by
  induction i generalizing matchedSlash with
  | zero =>
    have short : (value.take 1).length ≤ 1 := List.length_take_le 1 value
    rw [if_pos ((sought_starts matchedSlash _).length_le.trans short)]
    rfl
  | succ i ih =>
    have grown : value.take (i + 1 + 1) = value.take (i + 1) ++ [value[i + 1]] :=
      List.take_succ_eq_append_getElem below
    have before := ih (by omega)
    simp only [lastSeparator, List.getElem?_eq_getElem below, Option.some.injEq]
    by_cases separates : value[i + 1] = 47
    · rw [if_pos separates, grown, separates]
      cases matchedSlash with
      | true =>
        have same : sought true (value.take (i + 1) ++ [47]) = sought true (value.take (i + 1)) :=
          parent_concat_sep byteMarks _
        rw [if_pos rfl, before true, same]
      | false =>
        have same : sought false (value.take (i + 1) ++ [47]) = value.take (i + 1) ++ [47] :=
          upToSeparator_concat_sep byteMarks _
        have length : (value.take (i + 1) ++ [47]).length = i + 2 := by
          rw [List.length_append, List.length_take_of_le (by omega), List.length_singleton]
        rw [if_neg Bool.false_ne_true, same, length, if_neg (by omega)]
        omega
    · rw [if_neg separates, grown, before false, sought_concat separates]

theorem dirnamePosix_eq : dirnamePosix value = dirname byteMarks value := by
  by_cases none' : value = []
  · rw [none']
    rfl
  · have length : 0 < value.length := List.length_pos_iff.2 none'
    have scanned := lastSeparator_eq value (value.length - 1) (by omega) true
    rw [Nat.sub_add_cancel length, List.take_length] at scanned
    have first : isAbsolute byteMarks value = true ↔ value[0]? = some 47 := by
      rw [isAbsolute, decide_eq_true_eq, List.head?_eq_getElem?, byteMarks_sep]
    unfold dirnamePosix dirname
    rw [if_neg (by omega)]
    simp only [scanned, sought, if_true]
    by_cases present : parent byteMarks value = []
    · simp [present, first]
    · obtain ⟨name, ends⟩ := parent_eq_concat present
      rw [byteMarks_sep] at ends
      obtain ⟨rest, whole⟩ := parent_prefix byteMarks value
      cases name with
      | nil => simp [ends, first]
      | cons b name =>
        have begins : value[0]? = some b := by
          rw [← whole, ends]
          rfl
        have cut : value.take (b :: name).length = b :: name := by
          rw [← whole, ends, List.append_assoc, List.take_left]
        have long : ¬(b :: name ++ [47]).length ≤ 1 := by simp
        have index : ((b :: name ++ [47]).length : Int) - 1 = (b :: name).length := by simp
        rw [ends, if_neg long, index, if_neg (by omega),
          if_neg (show ¬(b :: name ++ [47] = [] ∨ b :: name ++ [47] = [byteMarks.sep]) by simp)]
        by_cases pair : b = 47 ∧ name = []
        · obtain ⟨rfl, rfl⟩ := pair
          rw [if_pos ⟨begins, rfl⟩]
          rfl
        · rw [if_neg, if_neg, Int.toNat_natCast, cut, List.dropLast_concat]
          · intro same
            rw [List.cons_append, List.cons.injEq] at same
            exact pair ⟨same.1, by simpa using same.2⟩
          · rintro ⟨root, one⟩
            rw [begins, Option.some.injEq] at root
            exact pair ⟨root, List.length_eq_zero_iff.1 (by rw [List.length_cons] at one; omega)⟩

end Vex.Bridge.Lexical
