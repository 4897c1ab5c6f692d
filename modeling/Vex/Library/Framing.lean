import Mathlib.Data.List.Induction
import Vex.Library.Streams

/-!
# Framed streams

A framed stream is one frame after the other, each a header of a fixed width and
a payload whose length the header declares. A header is checked before its payload
is looked at, a frame is taken once its payload is there, and either may end the
stream for good. Both depend on a state, made of what was read so far.

`Framing.read` reads a stream that is there as a whole. An incremental reader is
pushed the stream in pieces; it *follows* the framing when what it holds back is
a beginning of a frame and each piece makes it deliver what the framing reads of
the stream so far (`Follows`). Two readers that follow one framing deliver the
same frames and stop at the same fault, however the stream is cut for each of
them (`Follows.feed`).
-/

namespace Vex.Library

/-- A framing of a stream: the width of a header, its check, which gives the
length of the payload, and what is made of a header with its payload. -/
structure Framing (α σ ε φ : Type*) where
  width : Nat
  width_pos : 0 < width
  check : σ → List α → Except φ Nat
  take : σ → List α → List α → Except φ (σ × ε)

/-- How a stream ends so far: within a frame, or at a fault. -/
inductive Ending (α σ φ : Type*) where
  | waiting (state : σ) (rest : List α)
  | stopped (fault : φ)

namespace Ending

variable {α σ φ : Type*}

def fault? : Ending α σ φ → Option φ
  | .waiting _ _ => none
  | .stopped fault => some fault

@[simp] theorem fault?_waiting (state : σ) (rest : List α) :
    (waiting state rest : Ending α σ φ).fault? = none := rfl

@[simp] theorem fault?_stopped (fault : φ) :
    (stopped fault : Ending α σ φ).fault? = some fault := rfl

end Ending

namespace Framing

variable {α σ ε φ : Type*} {F : Framing α σ ε φ}

/-- The frames of a stream, and how it ends. -/
def read (F : Framing α σ ε φ) (state : σ) (stream : List α) : List ε × Ending α σ φ :=
  if _short : stream.length < F.width then ([], .waiting state stream)
  else
    match F.check state (stream.take F.width) with
    | .error fault => ([], .stopped fault)
    | .ok length =>
      if (stream.drop F.width).length < length then ([], .waiting state stream)
      else
        match F.take state (stream.take F.width) ((stream.drop F.width).take length) with
        | .error fault => ([], .stopped fault)
        | .ok (next, item) =>
          (item :: (F.read next ((stream.drop F.width).drop length)).1,
            (F.read next ((stream.drop F.width).drop length)).2)
  termination_by stream.length
  decreasing_by
    have positive := F.width_pos
    rw [List.length_drop, List.length_drop]
    omega

variable {state : σ} {stream : List α}

theorem read_short (short : stream.length < F.width) :
    F.read state stream = ([], .waiting state stream) := by
  rw [read, dif_pos short]

variable {head : List α}

theorem read_refused {fault : φ} (whole : head.length = F.width)
    (refused : F.check state head = .error fault) (rest : List α) :
    F.read state (head ++ rest) = ([], .stopped fault) := by
  have front : (head ++ rest).take F.width = head := List.take_left' whole
  have enough : ¬ (head ++ rest).length < F.width := by
    rw [List.length_append]
    omega
  rw [read, dif_neg enough, front, refused]

theorem read_within {rest : List α} {length : Nat} (whole : head.length = F.width)
    (passed : F.check state head = .ok length) (short : rest.length < length) :
    F.read state (head ++ rest) = ([], .waiting state (head ++ rest)) := by
  have front : (head ++ rest).take F.width = head := List.take_left' whole
  have behind : (head ++ rest).drop F.width = rest := List.drop_left' whole
  have enough : ¬ (head ++ rest).length < F.width := by
    rw [List.length_append]
    omega
  rw [read, dif_neg enough, front, passed, behind]
  simp only [if_pos short]

theorem read_frame {payload : List α} (whole : head.length = F.width)
    (passed : F.check state head = .ok payload.length) (rest : List α) :
    F.read state (head ++ (payload ++ rest)) =
      match F.take state head payload with
      | .error fault => ([], .stopped fault)
      | .ok (next, item) => (item :: (F.read next rest).1, (F.read next rest).2) := by
  have front : (head ++ (payload ++ rest)).take F.width = head := List.take_left' whole
  have behind : (head ++ (payload ++ rest)).drop F.width = payload ++ rest :=
    List.drop_left' whole
  have enough : ¬ (head ++ (payload ++ rest)).length < F.width := by
    rw [List.length_append]
    omega
  have there : ¬ (payload ++ rest).length < payload.length := by
    rw [List.length_append]
    omega
  rw [read, dif_neg enough, front, passed, behind]
  simp only [if_neg there, List.take_left, List.drop_left]

/-- What a stream begins with. -/
inductive Beginning (F : Framing α σ ε φ) (state : σ) : List α → Prop
  | short (stream : List α) (short : stream.length < F.width) : Beginning F state stream
  | refused (head rest : List α) (fault : φ) (whole : head.length = F.width)
      (refused : F.check state head = .error fault) : Beginning F state (head ++ rest)
  | within (head rest : List α) (length : Nat) (whole : head.length = F.width)
      (passed : F.check state head = .ok length) (short : rest.length < length) :
      Beginning F state (head ++ rest)
  | frame (head payload rest : List α) (whole : head.length = F.width)
      (passed : F.check state head = .ok payload.length) :
      Beginning F state (head ++ (payload ++ rest))

theorem beginning (F : Framing α σ ε φ) (state : σ) (stream : List α) :
    Beginning F state stream := by
  by_cases short : stream.length < F.width
  · exact .short stream short
  · have whole : (stream.take F.width).length = F.width := List.length_take_of_le (by omega)
    rw [← List.take_append_drop F.width stream]
    cases checked : F.check state (stream.take F.width) with
    | error fault => exact .refused _ _ fault whole checked
    | ok length =>
      by_cases within : (stream.drop F.width).length < length
      · exact .within _ _ length whole checked within
      · have there : ((stream.drop F.width).take length).length = length :=
          List.length_take_of_le (by omega)
        rw [← List.take_append_drop length (stream.drop F.width)]
        exact .frame _ _ _ whole (by rw [checked, there])

theorem read_induction {motive : σ → List α → Prop}
    (short : ∀ state stream, stream.length < F.width → motive state stream)
    (refused : ∀ state head rest fault, head.length = F.width →
      F.check state head = .error fault → motive state (head ++ rest))
    (within : ∀ state head rest length, head.length = F.width →
      F.check state head = .ok length → rest.length < length → motive state (head ++ rest))
    (fails : ∀ state head payload rest fault, head.length = F.width →
      F.check state head = .ok payload.length → F.take state head payload = .error fault →
      motive state (head ++ (payload ++ rest)))
    (frame : ∀ state head payload rest next item, head.length = F.width →
      F.check state head = .ok payload.length → F.take state head payload = .ok (next, item) →
      motive next rest → motive state (head ++ (payload ++ rest)))
    (state : σ) (stream : List α) : motive state stream := by
  induction count : stream.length using Nat.strongRecOn generalizing state stream with
  | ind n ih =>
    subst count
    cases F.beginning state stream with
    | short _ isShort => exact short state stream isShort
    | refused head rest fault whole checked => exact refused state head rest fault whole checked
    | within head rest length whole checked isShort =>
      exact within state head rest length whole checked isShort
    | frame head payload rest whole checked =>
      cases taken : F.take state head payload with
      | error fault => exact fails state head payload rest fault whole checked taken
      | ok result =>
        refine frame state head payload rest result.1 result.2 whole checked taken
          (ih rest.length ?_ result.1 rest rfl)
        have positive := F.width_pos
        rw [List.length_append, List.length_append]
        omega

theorem read_append (state : σ) (stream later : List α) : F.read state (stream ++ later) =
      match (F.read state stream).2 with
      | .stopped fault => ((F.read state stream).1, .stopped fault)
      | .waiting next rest =>
        ((F.read state stream).1 ++ (F.read next (rest ++ later)).1,
          (F.read next (rest ++ later)).2) := by
  refine F.read_induction (motive := fun state stream => F.read state (stream ++ later) =
    match (F.read state stream).2 with
    | .stopped fault => ((F.read state stream).1, .stopped fault)
    | .waiting next rest =>
      ((F.read state stream).1 ++ (F.read next (rest ++ later)).1,
        (F.read next (rest ++ later)).2)) ?_ ?_ ?_ ?_ ?_ state stream
  · intro state stream short
    rw [read_short short]
    rfl
  · intro state head rest fault whole refused
    rw [List.append_assoc, read_refused whole refused, read_refused whole refused]
  · intro state head rest length whole passed short
    rw [read_within whole passed short]
    rfl
  · intro state head payload rest fault whole passed fails
    rw [List.append_assoc, List.append_assoc, read_frame whole passed, read_frame whole passed,
      fails]
  · intro state head payload rest next item whole passed taken ih
    rw [List.append_assoc, List.append_assoc, read_frame whole passed, read_frame whole passed,
      taken]
    dsimp only
    rw [ih]
    cases (F.read next rest).2 with
    | stopped fault => rfl
    | waiting last left => rfl

theorem read_waiting {next : σ} {rest : List α}
    (waits : (F.read state stream).2 = .waiting next rest) :
    F.read next rest = ([], .waiting next rest) := by
  have once := F.read_append state stream []
  rw [waits, List.append_nil] at once
  dsimp only at once
  rw [List.append_nil] at once
  have items : (F.read state stream).1 ++ (F.read next rest).1 = (F.read state stream).1 ++ [] := by
    rw [List.append_nil]
    exact (congrArg Prod.fst once).symm
  have ending : (F.read next rest).2 = .waiting next rest := by
    rw [← congrArg Prod.snd once, waits]
  exact Prod.ext (List.append_cancel_left items) ending

end Framing

/-! ## Incremental readers -/

section Follows

variable {α σ ε φ τ β ι κ : Type*}

/-- A reader that is pushed pieces follows a framing. Of its outputs `item?` are
the frames and `fault?` the faults; a frame of the framing is delivered as `emit`
says and a fault reported as `halt` says. It is bound to the framing only for the
pieces that are `Allowed` to be pushed while it is live. -/
structure Follows (F : Framing α σ ε φ) (push : τ → List α → τ × List β) (item? : β → Option ι)
    (fault? : β → Option κ) (emit : ε → ι) (halt : φ → κ) (Allowed : List α → Prop)
    (Represents : τ → Ending α σ φ → Prop) : Prop where
  waiting : ∀ reader state rest piece, Represents reader (.waiting state rest) → Allowed piece →
    Represents (push reader piece).1 (F.read state (rest ++ piece)).2 ∧
      (push reader piece).2.filterMap item? = (F.read state (rest ++ piece)).1.map emit ∧
      (push reader piece).2.findSome? fault? = (F.read state (rest ++ piece)).2.fault?.map halt
  stopped : ∀ reader fault piece, Represents reader (.stopped fault) →
    Represents (push reader piece).1 (.stopped fault) ∧ (push reader piece).2.filterMap item? = []

/-- Every piece that is pushed is allowed, or comes after the stream has stopped. -/
def AllowedWhileLive (F : Framing α σ ε φ) (Allowed : List α → Prop) (state : σ) (rest : List α)
    (pieces : List (List α)) : Prop :=
  ∀ front piece later, pieces = front ++ piece :: later →
    Allowed piece ∨ ∃ fault, (F.read state (rest ++ front.flatten)).2 = .stopped fault

variable {F : Framing α σ ε φ} {push : τ → List α → τ × List β} {item? : β → Option ι}
  {fault? : β → Option κ} {emit : ε → ι} {halt : φ → κ} {Allowed : List α → Prop}
  {Represents : τ → Ending α σ φ → Prop}

theorem Follows.feed_stopped
    (follows : Follows F push item? fault? emit halt Allowed Represents) {reader : τ} {fault : φ}
    (represents : Represents reader (.stopped fault)) (pieces : List (List α)) :
    Represents (feed push reader pieces).1 (.stopped fault) ∧
      (feed push reader pieces).2.filterMap item? = [] := by
  induction pieces generalizing reader with
  | nil => exact ⟨represents, rfl⟩
  | cons piece pieces ih =>
    obtain ⟨remains, nothing⟩ := follows.stopped reader fault piece represents
    obtain ⟨last, later⟩ := ih remains
    rw [feed_cons, List.filterMap_append, nothing, later, List.append_nil]
    exact ⟨last, rfl⟩

/-- What a reader that follows a framing delivers, and the first fault it reports, are those
of the stream, whatever pieces it is pushed in. -/
theorem Follows.feed (follows : Follows F push item? fault? emit halt Allowed Represents)
    {reader : τ} {state : σ} {rest : List α}
    (represents : Represents reader (.waiting state rest))
    (idle : F.read state rest = ([], .waiting state rest)) {pieces : List (List α)}
    (allowed : AllowedWhileLive F Allowed state rest pieces) :
    Represents (feed push reader pieces).1 (F.read state (rest ++ pieces.flatten)).2 ∧
      (feed push reader pieces).2.filterMap item? =
        (F.read state (rest ++ pieces.flatten)).1.map emit ∧
      (feed push reader pieces).2.findSome? fault? =
        (F.read state (rest ++ pieces.flatten)).2.fault?.map halt := by
  induction pieces generalizing reader state rest with
  | nil =>
    rw [List.flatten_nil, List.append_nil, idle]
    exact ⟨represents, rfl, rfl⟩
  | cons piece pieces ih =>
    have first : Allowed piece := by
      rcases allowed [] piece pieces rfl with allows | ⟨fault, stops⟩
      · exact allows
      · rw [List.flatten_nil, List.append_nil, idle] at stops
        contradiction
    obtain ⟨next, items, faults⟩ := follows.waiting reader state rest piece represents first
    rw [feed_cons, List.filterMap_append, List.findSome?_append, List.flatten_cons,
      ← List.append_assoc, F.read_append, items, faults]
    cases ends : (F.read state (rest ++ piece)).2 with
    | stopped fault =>
      rw [ends] at next
      obtain ⟨last, later⟩ := follows.feed_stopped next pieces
      rw [later, List.append_nil]
      exact ⟨last, rfl, rfl⟩
    | waiting last left =>
      rw [ends] at next
      obtain ⟨final, laterItems, laterFaults⟩ := ih next (F.read_waiting ends) (by
        intro front other later split
        rcases allowed (piece :: front) other later (by rw [split]; rfl) with
          allows | ⟨fault, stops⟩
        · exact .inl allows
        · rw [List.flatten_cons, ← List.append_assoc, F.read_append, ends] at stops
          exact .inr ⟨fault, stops⟩)
      rw [laterItems, laterFaults, List.map_append]
      exact ⟨final, rfl, rfl⟩

theorem allowedWhileLive_or_first (F : Framing α σ ε φ) (Allowed : List α → Prop) (state : σ)
    (rest : List α) (pieces : List (List α)) :
    AllowedWhileLive F Allowed state rest pieces ∨
      ∃ front piece later, pieces = front ++ piece :: later ∧
        AllowedWhileLive F Allowed state rest front ∧ ¬ Allowed piece ∧
        ∀ fault, (F.read state (rest ++ front.flatten)).2 ≠ .stopped fault := by
  induction pieces using List.reverseRecOn with
  | nil =>
    left
    intro front piece later split
    simp at split
  | append_singleton pieces last ih =>
    rcases ih with allowed | ⟨front, piece, later, rfl, allowed, refused, live⟩
    · by_cases fine : Allowed last ∨
          ∃ fault, (F.read state (rest ++ pieces.flatten)).2 = .stopped fault
      · left
        intro front piece later split
        rcases List.eq_nil_or_concat later with rfl | ⟨later, other, rfl⟩
        · obtain ⟨rfl, same⟩ := List.append_inj' split rfl
          obtain rfl := List.singleton_inj.1 same
          exact fine
        · have shape : pieces ++ [last] = (front ++ piece :: later) ++ [other] := by
            rw [split]
            simp
          obtain ⟨same, -⟩ := List.append_inj' shape rfl
          exact allowed front piece later same
      · rw [not_or, not_exists] at fine
        exact .inr ⟨pieces, last, [], rfl, allowed, fine.1, fine.2⟩
    · exact .inr ⟨front, piece, later ++ [last], by simp, allowed, refused, live⟩

end Follows

end Vex.Library
