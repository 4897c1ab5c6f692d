import Vex.Library.Spelling

/-!
# Paths, lexically

A path is a list of characters with a separator among them. Its segments are
what stands between separators; an empty segment and a single dot stand for
nothing, and two dots take the segment in front of them back. Normalising
resolves them and writes the rest with single separators, joining does so with
several parts, and the directory of a path is all in front of its last name.

The characters are those of any alphabet. Where the text of a path is spelled in
another alphabet, a character at a time and the two marks by themselves, all of
these are spelled the same way (`normalize_spell`, `join_spell`,
`dirname_spell`): normalising bytes is normalising characters.
-/

namespace Vex.Library.PosixPath

/-- The two characters that mean something in a path. -/
structure Marks (α : Type*) where
  sep : α
  dot : α
  distinct : sep ≠ dot

section Paths

variable {α : Type*} [DecidableEq α] (m : Marks α)

/-- A segment is resolved against those before it, the last of them first. Two dots stay where
there is nothing to take back and the path may rise above where it starts. -/
def resolveStep (aboveRoot : Bool) (stack : List (List α)) (segment : List α) : List (List α) :=
  if segment = [] ∨ segment = [m.dot] then stack
  else if segment = [m.dot, m.dot] then
    match stack with
    | top :: rest =>
      if top = [m.dot, m.dot] then if aboveRoot then segment :: stack else stack else rest
    | [] => if aboveRoot then [segment] else []
  else segment :: stack

/-- The segments that remain, the last of them first. -/
def resolve (aboveRoot : Bool) (segments : List (List α)) : List (List α) :=
  segments.foldl (resolveStep m aboveRoot) []

/-- Segments, the last of them first, with single separators between them. -/
def written (stack : List (List α)) : List α := [m.sep].intercalate stack.reverse

def isAbsolute (path : List α) : Bool := path.head? = some m.sep

/-- `normalize`: trailing separators stay, as one, and nothing is the directory itself. -/
def normalize (path : List α) : List α :=
  if path = [] then [m.dot]
  else
    let normalized := written m (resolve m (!isAbsolute m path) (path.splitOn m.sep))
    let trailing := path.getLast? = some m.sep
    if normalized = [] then
      if isAbsolute m path then [m.sep] else if trailing then [m.dot, m.sep] else [m.dot]
    else
      let normalized := if trailing then normalized ++ [m.sep] else normalized
      if isAbsolute m path then m.sep :: normalized else normalized

/-- `join`: parts that are empty are ignored. -/
def join (parts : List (List α)) : List α :=
  if parts.filter (· ≠ []) = [] then [m.dot]
  else normalize m ([m.sep].intercalate (parts.filter (· ≠ [])))

/-- A text up to its last separator. -/
def upToSeparator (text : List α) : List α := text.rdropWhile (· ≠ m.sep)

/-- What stands in front of the last name of a path, up to the separator. -/
def parent (path : List α) : List α := upToSeparator m (path.rdropWhile (· = m.sep))

/-- `dirname`: trailing separators are ignored, and the separator at the front is not one in
front of a name. -/
def dirname (path : List α) : List α :=
  if parent m path = [] ∨ parent m path = [m.sep] then
    if isAbsolute m path then [m.sep] else [m.dot]
  else if parent m path = [m.sep, m.sep] then [m.sep, m.sep]
  else (parent m path).dropLast

@[simp] theorem resolveStep_nil (aboveRoot : Bool) (stack : List (List α)) :
    resolveStep m aboveRoot stack [] = stack := by
  simp [resolveStep]

variable {stack : List (List α)}

theorem mem_resolveStep {aboveRoot : Bool} {segment other : List α}
    (member : other ∈ resolveStep m aboveRoot stack segment) :
    other ∈ stack ∨ other = segment ∧ segment ≠ [] := by
  unfold resolveStep at member
  by_cases blank : segment = [] ∨ segment = [m.dot]
  · rw [if_pos blank] at member
    exact Or.inl member
  · rw [if_neg blank] at member
    have present : segment ≠ [] := fun none' => blank (Or.inl none')
    have pushed : other ∈ segment :: stack → other ∈ stack ∨ other = segment ∧ segment ≠ [] := by
      intro member
      rcases List.mem_cons.1 member with rfl | member
      · exact Or.inr ⟨rfl, present⟩
      · exact Or.inl member
    by_cases up : segment = [m.dot, m.dot]
    · rw [if_pos up] at member
      cases stack with
      | nil =>
        cases aboveRoot with
        | true => exact pushed member
        | false => exact Or.inl member
      | cons top rest =>
        dsimp only at member
        by_cases risen : top = [m.dot, m.dot]
        · rw [if_pos risen] at member
          cases aboveRoot with
          | true => exact pushed member
          | false => exact Or.inl member
        · rw [if_neg risen] at member
          exact Or.inl (List.mem_cons_of_mem _ member)
    · rw [if_neg up] at member
      exact pushed member

omit [DecidableEq α] in
theorem written_cons (top : List α) (rest : List (List α)) :
    written m (top :: rest) = if rest = [] then top else written m rest ++ m.sep :: top := by
  have behind : ∀ segments : List (List α), segments ≠ [] →
      [m.sep].intercalate (segments ++ [top]) = [m.sep].intercalate segments ++ m.sep :: top := by
    intro segments
    induction segments with
    | nil => exact fun none' => absurd rfl none'
    | cons first others ih =>
      intro _
      cases others with
      | nil => simp
      | cons second others =>
        rw [List.cons_append, List.cons_append, List.intercalate_cons_cons,
          List.intercalate_cons_cons, ← List.cons_append, ih (List.cons_ne_nil _ _)]
        simp
  rw [written, List.reverse_cons]
  by_cases alone : rest = []
  · rw [if_pos alone, alone, List.reverse_nil, List.nil_append, List.intercalate_singleton]
  · rw [if_neg alone, behind _ (by simpa using alone), written]

omit [DecidableEq α] in
theorem written_eq_nil (named : ∀ segment ∈ stack, segment ≠ []) :
    written m stack = [] ↔ stack = [] := by
  cases stack with
  | nil => simp [written]
  | cons top rest =>
    have present := named top List.mem_cons_self
    rw [written_cons]
    split_ifs <;> simp [present]

variable (text : List α)

theorem upToSeparator_prefix : upToSeparator m text <+: text :=
  List.rdropWhile_prefix _ _

theorem parent_prefix (path : List α) : parent m path <+: path :=
  (List.rdropWhile_prefix _ _).trans (List.rdropWhile_prefix _ _)

theorem upToSeparator_concat_sep : upToSeparator m (text ++ [m.sep]) = text ++ [m.sep] :=
  List.rdropWhile_concat_neg _ _ _ (by simp)

variable {c : α}

theorem upToSeparator_concat (other : c ≠ m.sep) (text : List α) :
    upToSeparator m (text ++ [c]) = upToSeparator m text :=
  List.rdropWhile_concat_pos _ _ _ (by simpa using other)

theorem parent_concat_sep : parent m (text ++ [m.sep]) = parent m text := by
  rw [parent, List.rdropWhile_concat_pos _ _ _ (by simp), parent]

theorem parent_concat (other : c ≠ m.sep) (text : List α) :
    parent m (text ++ [c]) = upToSeparator m text := by
  rw [parent, List.rdropWhile_concat_neg _ _ _ (by simpa using other), upToSeparator_concat m other]

end Paths

/-! ## Another alphabet -/

section Spelling

variable {α β : Type*}

structure Spells (s : Spelling α β) (m : Marks α) (n : Marks β) : Prop where
  sepSingle : s.IsSingle m.sep
  sepCode : s.code m.sep = n.sep
  dotSingle : s.IsSingle m.dot
  dotCode : s.code m.dot = n.dot

variable {s : Spelling α β} {m : Marks α} {n : Marks β} (h : Spells s m n)

include h

theorem encode_sep : s.encode m.sep = [n.sep] := by
  rw [s.encode_single _ h.sepSingle, h.sepCode]

theorem encode_dot : s.encode m.dot = [n.dot] := by
  rw [s.encode_single _ h.dotSingle, h.dotCode]

variable {text : List α}

theorem spell_eq_dot : s.spell text = [n.dot] ↔ text = [m.dot] := by
  simp [← h.dotCode, Spelling.spell_eq_cons h.dotSingle]

theorem spell_eq_dots : s.spell text = [n.dot, n.dot] ↔ text = [m.dot, m.dot] := by
  simp [← h.dotCode, Spelling.spell_eq_cons h.dotSingle]

theorem spell_eq_sep : s.spell text = [n.sep] ↔ text = [m.sep] := by
  simp [← h.sepCode, Spelling.spell_eq_cons h.sepSingle]

theorem spell_eq_seps : s.spell text = [n.sep, n.sep] ↔ text = [m.sep, m.sep] := by
  simp [← h.sepCode, Spelling.spell_eq_cons h.sepSingle]

theorem intercalate_spell (segments : List (List α)) :
    [n.sep].intercalate (segments.map s.spell) = s.spell ([m.sep].intercalate segments) := by
  induction segments with
  | nil => rfl
  | cons first rest ih =>
    cases rest with
    | nil => simp
    | cons second others =>
      rw [List.map_cons] at ih
      rw [List.map_cons, List.map_cons, List.intercalate_cons_cons, ih,
        List.intercalate_cons_cons, Spelling.spell_append, Spelling.spell_append,
        Spelling.spell_cons, encode_sep h, Spelling.spell_nil, List.append_nil]

theorem written_spell (stack : List (List α)) :
    written n (stack.map s.spell) = s.spell (written m stack) := by
  rw [written, written, ← List.map_reverse, intercalate_spell h]

omit h

theorem rdropWhile_spell {p : α → Bool} {q : β → Bool}
    (dropped : ∀ c, p c = true → ∀ d ∈ s.encode c, q d = true)
    (stops : ∀ c, p c = false → ∀ d ∈ s.encode c, q d = false) (text : List α) :
    (s.spell text).rdropWhile q = s.spell (text.rdropWhile p) := by
  have whole : ∀ (later front : List β), (∀ d ∈ later, q d = true) →
      (front ++ later).rdropWhile q = front.rdropWhile q := by
    intro later front every
    induction later using List.reverseRecOn with
    | nil => rw [List.append_nil]
    | append_singleton later d ih =>
      rw [← List.append_assoc, List.rdropWhile_concat_pos q _ _ (every d (by simp))]
      exact ih fun e member => every e (by simp [member])
  induction text using List.reverseRecOn with
  | nil => rfl
  | append_singleton front c ih =>
    rw [Spelling.spell_append, Spelling.spell_cons, Spelling.spell_nil, List.append_nil]
    cases decides : p c with
    | true =>
      rw [whole _ _ (dropped c decides), ih, List.rdropWhile_concat_pos p _ _ decides]
    | false =>
      rw [List.rdropWhile_concat_neg p _ _ (by simp [decides]), Spelling.spell_append,
        Spelling.spell_cons, Spelling.spell_nil, List.append_nil, List.rdropWhile_eq_self_iff]
      intro present
      rw [List.getLast_append_of_ne_nil present (s.encode_ne_nil c),
        stops c decides _ (List.getLast_mem _)]
      exact Bool.false_ne_true

end Spelling

section SpelledPaths

variable {α β : Type*} [DecidableEq α] [DecidableEq β] {s : Spelling α β} {m : Marks α}
  {n : Marks β} (h : Spells s m n)

omit [DecidableEq α] in
theorem splitOn_append_of_not_mem {sep : β} {front : List β} (absent : sep ∉ front)
    (rest : List β) :
    (front ++ rest).splitOn sep = (rest.splitOn sep).modifyHead (front ++ ·) := by
  induction front with
  | nil =>
    rw [List.nil_append]
    cases rest.splitOn sep <;> rfl
  | cons b front ih =>
    rw [List.mem_cons, not_or] at absent
    rw [List.cons_append, List.splitOn_cons_eq_if_modifyHead,
      if_neg (by simpa using Ne.symm absent.1), ih absent.2, List.modifyHead_modifyHead]
    rfl

include h

theorem splitOn_spell (text : List α) :
    (s.spell text).splitOn n.sep = (text.splitOn m.sep).map s.spell := by
  induction text with
  | nil => simp
  | cons c rest ih =>
    rw [Spelling.spell_cons, List.splitOn_cons_eq_if_modifyHead]
    by_cases isSep : c = m.sep
    · rw [isSep, encode_sep h, List.singleton_append, List.splitOn_cons_eq_if_modifyHead,
        if_pos (beq_self_eq_true _), if_pos (beq_self_eq_true _), ih, List.map_cons,
        Spelling.spell_nil]
    · have absent : n.sep ∉ s.encode c := fun member =>
        isSep (s.own _ _ h.sepSingle (h.sepCode ▸ member))
      rw [splitOn_append_of_not_mem absent, ih, if_neg (by simpa using isSep)]
      cases rest.splitOn m.sep with
      | nil => rfl
      | cons first others => simp

theorem resolveStep_spell (aboveRoot : Bool) (stack : List (List α)) (segment : List α) :
    resolveStep n aboveRoot (stack.map s.spell) (s.spell segment)
      = (resolveStep m aboveRoot stack segment).map s.spell := by
  have dots : s.spell [m.dot, m.dot] = [n.dot, n.dot] := (spell_eq_dots h).2 rfl
  unfold resolveStep
  simp only [Spelling.spell_eq_nil, spell_eq_dot h, spell_eq_dots h]
  by_cases blank : segment = [] ∨ segment = [m.dot]
  · rw [if_pos blank, if_pos blank]
  · rw [if_neg blank, if_neg blank]
    by_cases up : segment = [m.dot, m.dot]
    · rw [if_pos up, if_pos up, up, dots]
      cases stack with
      | nil => cases aboveRoot <;> simp [dots]
      | cons top rest =>
        simp only [List.map_cons, spell_eq_dots h]
        by_cases risen : top = [m.dot, m.dot]
        · cases aboveRoot <;> simp [risen, dots]
        · simp [risen]
    · rw [if_neg up, if_neg up, List.map_cons]

theorem resolve_spell (aboveRoot : Bool) (segments : List (List α)) :
    resolve n aboveRoot (segments.map s.spell) = (resolve m aboveRoot segments).map s.spell := by
  have along : ∀ stack, (segments.map s.spell).foldl (resolveStep n aboveRoot) (stack.map s.spell)
      = (segments.foldl (resolveStep m aboveRoot) stack).map s.spell := by
    induction segments with
    | nil => exact fun _ => rfl
    | cons segment rest ih =>
      intro stack
      rw [List.map_cons, List.foldl_cons, List.foldl_cons, resolveStep_spell h, ih]
  exact along []

variable (path : List α)

theorem isAbsolute_spell : isAbsolute n (s.spell path) = isAbsolute m path := by
  simp only [isAbsolute, ← h.sepCode, Spelling.head?_spell h.sepSingle]

theorem normalize_spell : normalize n (s.spell path) = s.spell (normalize m path) := by
  unfold normalize
  have last : (s.spell path).getLast? = some n.sep ↔ path.getLast? = some m.sep := by
    rw [← h.sepCode, Spelling.getLast?_spell h.sepSingle]
  simp only [Spelling.spell_eq_nil, isAbsolute_spell h, splitOn_spell h, resolve_spell h,
    written_spell h, last]
  by_cases nothing : path = []
  · simp [nothing, encode_dot h]
  · rw [if_neg nothing, if_neg nothing]
    split_ifs <;> simp [encode_sep h, encode_dot h]

theorem join_spell (parts : List (List α)) :
    join n (parts.map s.spell) = s.spell (join m parts) := by
  have kept : (parts.map s.spell).filter (· ≠ []) = (parts.filter (· ≠ [])).map s.spell := by
    induction parts with
    | nil => rfl
    | cons part rest ih => by_cases blank : part = [] <;> simp_all
  unfold join
  simp only [kept, intercalate_spell h, normalize_spell h, List.map_eq_nil_iff]
  split_ifs
  · rw [Spelling.spell_cons, encode_dot h, Spelling.spell_nil, List.append_nil]
  · rfl

theorem parent_spell : parent n (s.spell path) = s.spell (parent m path) := by
  have atSep : ∀ c, c = m.sep → ∀ d ∈ s.encode c, d = n.sep := by
    rintro c rfl d member
    rw [encode_sep h, List.mem_singleton] at member
    exact member
  have elsewhere : ∀ c, c ≠ m.sep → ∀ d ∈ s.encode c, d ≠ n.sep := by
    rintro c different d member rfl
    exact different (s.own _ _ h.sepSingle (h.sepCode ▸ member))
  unfold parent upToSeparator
  rw [rdropWhile_spell (p := (· = m.sep)) (q := (· = n.sep))
      (fun c isSep d member => by simpa using atSep c (by simpa using isSep) d member)
      (fun c isOther d member => by simpa using elsewhere c (by simpa using isOther) d member),
    rdropWhile_spell (p := (· ≠ m.sep)) (q := (· ≠ n.sep))
      (fun c isOther d member => by simpa using elsewhere c (by simpa using isOther) d member)
      (fun c isSep d member => by simpa using atSep c (by simpa using isSep) d member)]

omit h [DecidableEq β] in
theorem parent_eq_concat {path : List α} (present : parent m path ≠ []) :
    ∃ front, parent m path = front ++ [m.sep] := by
  refine ⟨(parent m path).dropLast, ?_⟩
  have last : (parent m path).getLast present = m.sep := by
    simpa [parent, upToSeparator] using List.rdropWhile_last_not _ _ present
  rw [← last, List.dropLast_append_getLast]

theorem dirname_spell : dirname n (s.spell path) = s.spell (dirname m path) := by
  unfold dirname
  simp only [parent_spell h, Spelling.spell_eq_nil, spell_eq_sep h, spell_eq_seps h,
    isAbsolute_spell h]
  split_ifs with top absolute pair
  · simp [encode_sep h]
  · simp [encode_dot h]
  · simp [encode_sep h]
  · rw [not_or] at top
    obtain ⟨front, ends⟩ := parent_eq_concat top.1
    rw [ends, Spelling.spell_append, Spelling.spell_cons, encode_sep h, Spelling.spell_nil,
      List.append_nil, List.dropLast_concat, List.dropLast_concat]

end SpelledPaths

end Vex.Library.PosixPath
