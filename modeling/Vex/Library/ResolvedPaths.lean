import Vex.Library.PosixPath

/-!
# Resolved paths

What resolving the segments of a path leaves is `Resolved`: names, none of them a
single dot, and two dots only in front of them all and only where the path may rise
above where it starts. Resolving leaves such segments as they are
(`Resolved.resolve_reverse`), and from the written path they are read again
(`Resolved.splitOn_written`).

So a normalised path is one of three texts that stand for no segments at all, or
resolved segments between the separators at its ends (`normalize_shape`), and
normalising it once more changes nothing (`normalize_normalize`).
-/

namespace Vex.Library.PosixPath

variable {α : Type*} [DecidableEq α] (m : Marks α)

omit [DecidableEq α] in
/-- Segments, the last of them first, that resolving has nothing left to do with. -/
structure Resolved (aboveRoot : Bool) (stack : List (List α)) : Prop where
  named : ∀ segment ∈ stack, segment ≠ [] ∧ segment ≠ [m.dot] ∧ m.sep ∉ segment
  rises : ∀ segment ∈ stack, segment = [m.dot, m.dot] → aboveRoot = true
  inFront : stack.Pairwise fun later earlier =>
    later = [m.dot, m.dot] → earlier = [m.dot, m.dot]

variable {m} {aboveRoot : Bool}

omit [DecidableEq α] in
theorem Resolved.nil : Resolved m aboveRoot [] :=
  ⟨by simp, by simp, List.Pairwise.nil⟩

omit [DecidableEq α] in
theorem Resolved.tail {top : List α} {rest : List (List α)}
    (resolved : Resolved m aboveRoot (top :: rest)) : Resolved m aboveRoot rest :=
  ⟨fun segment member => resolved.named segment (List.mem_cons_of_mem _ member),
    fun segment member => resolved.rises segment (List.mem_cons_of_mem _ member),
    (List.pairwise_cons.1 resolved.inFront).2⟩

variable {stack : List (List α)} {segment : List α}

omit [DecidableEq α] in
theorem Resolved.push (resolved : Resolved m aboveRoot stack)
    (name : segment ≠ [] ∧ segment ≠ [m.dot] ∧ m.sep ∉ segment)
    (up : segment = [m.dot, m.dot] → aboveRoot = true ∧ ∀ earlier ∈ stack, earlier = [m.dot, m.dot])
    :
    Resolved m aboveRoot (segment :: stack) := by
  refine ⟨?_, ?_, ?_⟩
  · intro other member
    rcases List.mem_cons.1 member with rfl | member
    · exact name
    · exact resolved.named other member
  · intro other member dots
    rcases List.mem_cons.1 member with rfl | member
    · exact (up dots).1
    · exact resolved.rises other member dots
  · rw [List.pairwise_cons]
    exact ⟨fun earlier member dots => (up dots).2 earlier member, resolved.inFront⟩

theorem Resolved.step (resolved : Resolved m aboveRoot stack) (whole : m.sep ∉ segment) :
    Resolved m aboveRoot (resolveStep m aboveRoot stack segment) := by
  unfold resolveStep
  by_cases blank : segment = [] ∨ segment = [m.dot]
  · rw [if_pos blank]
    exact resolved
  · rw [if_neg blank]
    have name : segment ≠ [] ∧ segment ≠ [m.dot] ∧ m.sep ∉ segment :=
      ⟨fun none' => blank (Or.inl none'), fun one => blank (Or.inr one), whole⟩
    by_cases up : segment = [m.dot, m.dot]
    · rw [if_pos up]
      cases stack with
      | nil =>
        cases rising : aboveRoot with
        | true =>
          subst rising
          exact resolved.push name fun _ => ⟨rfl, by simp⟩
        | false => exact Resolved.nil
      | cons top rest =>
        by_cases risen : top = [m.dot, m.dot]
        · have below := (List.pairwise_cons.1 resolved.inFront).1
          have rising := resolved.rises top List.mem_cons_self risen
          simp only [if_pos risen, rising, if_true]
          subst rising
          refine resolved.push name fun _ => ⟨rfl, ?_⟩
          intro earlier member
          rcases List.mem_cons.1 member with rfl | member
          · exact risen
          · exact below earlier member risen
        · simp only [if_neg risen]
          exact resolved.tail
    · rw [if_neg up]
      exact resolved.push name fun dots => absurd dots up

theorem resolve_resolved {segments : List (List α)} (whole : ∀ segment ∈ segments, m.sep ∉ segment) :
    Resolved m aboveRoot (resolve m aboveRoot segments) := by
  have along : ∀ (segments stack : List (List α)), (∀ segment ∈ segments, m.sep ∉ segment) →
      Resolved m aboveRoot stack →
      Resolved m aboveRoot (segments.foldl (resolveStep m aboveRoot) stack) := by
    intro segments
    induction segments with
    | nil => exact fun _ _ resolved => resolved
    | cons segment rest ih =>
      intro stack whole resolved
      exact ih _ (fun other member => whole other (List.mem_cons_of_mem _ member))
        (resolved.step (whole segment List.mem_cons_self))
  exact along segments [] whole Resolved.nil

theorem Resolved.resolve_reverse (resolved : Resolved m aboveRoot stack) :
    resolve m aboveRoot stack.reverse = stack := by
  induction stack with
  | nil => rfl
  | cons top rest ih =>
    have before := ih resolved.tail
    unfold resolve at before ⊢
    obtain ⟨present, notDot, -⟩ := resolved.named top List.mem_cons_self
    rw [List.reverse_cons, List.foldl_append, before, List.foldl_cons, List.foldl_nil,
      resolveStep.eq_def, if_neg (by simp [present, notDot])]
    by_cases up : top = [m.dot, m.dot]
    · have rising := resolved.rises top List.mem_cons_self up
      rw [if_pos up]
      cases rest with
      | nil => simp [rising]
      | cons earlier others =>
        have risen := (List.pairwise_cons.1 resolved.inFront).1 earlier List.mem_cons_self up
        simp [risen, rising]
    · rw [if_neg up]

theorem Resolved.splitOn_written (resolved : Resolved m aboveRoot stack) (some' : stack ≠ []) :
    (written m stack).splitOn m.sep = stack.reverse := by
  apply List.splitOn_intercalate
  · intro segment member
    exact (resolved.named segment (List.mem_reverse.1 member)).2.2
  · simpa using some'

theorem not_mem_of_mem_splitOn (text : List α) (segment : List α)
    (member : segment ∈ text.splitOn m.sep) : m.sep ∉ segment := by
  induction text generalizing segment with
  | nil =>
    rw [List.splitOn_nil, List.mem_singleton] at member
    simp [member]
  | cons c text ih =>
    rw [List.splitOn_cons_eq_if_modifyHead] at member
    split_ifs at member with separates
    · rcases List.mem_cons.1 member with rfl | member
      · exact List.not_mem_nil
      · exact ih segment member
    · cases split : text.splitOn m.sep with
      | nil => exact absurd split (List.splitOn_ne_nil _ _)
      | cons first others =>
        rw [split, List.modifyHead_cons] at member
        rw [split] at ih
        rcases List.mem_cons.1 member with rfl | member
        · rw [List.mem_cons, not_or]
          exact ⟨fun same => separates (by simp [same]), ih first List.mem_cons_self⟩
        · exact ih segment (List.mem_cons_of_mem _ member)

/-! ## Separators at the ends -/

variable (m) in
/-- A text with a separator at its front, at its end, at both or at neither. -/
def framed (absolute trailing : Bool) (text : List α) : List α :=
  (if absolute then [m.sep] else []) ++ text ++ if trailing then [m.sep] else []

theorem splitOn_framed (absolute trailing : Bool) (text : List α) :
    (framed m absolute trailing text).splitOn m.sep
      = (if absolute then [[]] else []) ++ text.splitOn m.sep ++ if trailing then [[]] else [] := by
  have behind : (text ++ if trailing then [m.sep] else []).splitOn m.sep
      = text.splitOn m.sep ++ if trailing then [[]] else [] := by
    cases trailing with
    | true => exact List.splitOn_append_cons_self text []
    | false => simp
  cases absolute with
  | true =>
    have ahead := List.splitOn_append_cons_self (a := m.sep) []
      (text ++ if trailing then [m.sep] else [])
    rw [behind] at ahead
    simpa [framed] using ahead
  | false => simpa [framed] using behind

theorem resolve_framed (absolute trailing : Bool) (text : List α) :
    resolve m aboveRoot ((framed m absolute trailing text).splitOn m.sep)
      = resolve m aboveRoot (text.splitOn m.sep) := by
  rw [splitOn_framed]
  unfold resolve
  cases absolute <;> cases trailing <;> simp

section Frame

variable {absolute trailing : Bool} {stack : List (List α)}
  (resolved : Resolved m (!absolute) stack) (some' : stack ≠ [])

include resolved some'

omit [DecidableEq α] in
theorem written_ne_nil : written m stack ≠ [] := fun none' =>
  some' ((written_eq_nil m fun segment member => (resolved.named segment member).1).1 none')

theorem isAbsolute_framed : isAbsolute m (framed m absolute trailing (written m stack)) = absolute := by
  cases absolute with
  | true => simp [isAbsolute, framed]
  | false =>
    cases text : written m stack with
    | nil => exact absurd text (written_ne_nil resolved some')
    | cons c rest =>
      have other : c ≠ m.sep := by
        rintro rfl
        have split := resolved.splitOn_written some'
        have empty := List.splitOn_append_cons_self (a := m.sep) [] rest
        rw [List.nil_append, ← text, split, List.splitOn_nil] at empty
        have member : [] ∈ stack := by
          rw [← List.mem_reverse, empty]
          simp
        exact (resolved.named [] member).1 rfl
      simp [isAbsolute, framed, other]

theorem getLast?_framed :
    (framed m absolute trailing (written m stack)).getLast? = some m.sep ↔ trailing = true := by
  cases trailing with
  | true => simp [framed]
  | false =>
    have present := written_ne_nil resolved some'
    rw [framed, if_neg Bool.false_ne_true, List.append_nil,
      List.getLast?_append_of_ne_nil _ present]
    refine ⟨fun last => absurd last fun last => ?_, fun false' => nomatch false'⟩
    obtain ⟨front, text⟩ := List.getLast?_eq_some_iff.1 last
    have split := resolved.splitOn_written some'
    have empty := List.splitOn_append_cons_self (a := m.sep) front []
    rw [← text, split, List.splitOn_nil] at empty
    have member : [] ∈ stack := by
      rw [← List.mem_reverse, empty]
      simp
    exact (resolved.named [] member).1 rfl

theorem normalize_framed : normalize m (framed m absolute trailing (written m stack))
      = framed m absolute trailing (written m stack) := by
  have present := written_ne_nil resolved some'
  have first : framed m absolute trailing (written m stack) ≠ [] := by simp [framed, present]
  have last : (framed m absolute trailing (written m stack)).getLast? = some m.sep ↔ trailing = true :=
    getLast?_framed resolved some'
  unfold normalize
  rw [if_neg first, isAbsolute_framed resolved some', resolve_framed,
    resolved.splitOn_written some', resolved.resolve_reverse]
  simp only [if_neg present, last]
  unfold framed
  cases absolute <;> cases trailing <;> simp

end Frame

theorem normalize_shape (path : List α) :
    normalize m path = [m.sep] ∨ normalize m path = [m.dot] ∨ normalize m path = [m.dot, m.sep] ∨
      ∃ absolute trailing stack, Resolved m (!absolute) stack ∧ stack ≠ [] ∧
        normalize m path = framed m absolute trailing (written m stack) := by
  unfold normalize
  by_cases none' : path = []
  · rw [if_pos none']
    exact Or.inr (Or.inl rfl)
  · rw [if_neg none']
    have resolved : Resolved m (!isAbsolute m path)
        (resolve m (!isAbsolute m path) (path.splitOn m.sep)) :=
      resolve_resolved (not_mem_of_mem_splitOn path)
    by_cases nothing : written m (resolve m (!isAbsolute m path) (path.splitOn m.sep)) = []
    · simp only [if_pos nothing]
      by_cases absolute : isAbsolute m path = true
      · rw [if_pos absolute]
        exact Or.inl rfl
      · rw [if_neg absolute]
        by_cases trailing : path.getLast? = some m.sep
        · rw [if_pos trailing]
          exact Or.inr (Or.inr (Or.inl rfl))
        · rw [if_neg trailing]
          exact Or.inr (Or.inl rfl)
    · refine Or.inr (Or.inr (Or.inr ⟨isAbsolute m path, decide (path.getLast? = some m.sep), _,
        resolved, fun none' => nothing (by rw [none']; rfl), ?_⟩))
      simp only [if_neg nothing, framed]
      cases isAbsolute m path <;> by_cases trailing : path.getLast? = some m.sep <;>
        simp [trailing]

theorem normalize_normalize (path : List α) : normalize m (normalize m path) = normalize m path := by
  have apart := m.distinct
  have turned := apart.symm
  rcases normalize_shape (m := m) path with root | here | below | ⟨absolute, trailing, stack,
    resolved, some', framed⟩
  · rw [root]
    simp [normalize, isAbsolute, List.splitOn_cons_eq_if_modifyHead, resolve, written]
  · rw [here]
    simp [normalize, isAbsolute, List.splitOn_cons_eq_if_modifyHead, resolve, resolveStep, written,
      turned]
  · rw [below]
    simp [normalize, isAbsolute, List.splitOn_cons_eq_if_modifyHead, resolve, resolveStep, written,
      turned]
  · rw [framed]
    exact normalize_framed resolved some'

end Vex.Library.PosixPath
