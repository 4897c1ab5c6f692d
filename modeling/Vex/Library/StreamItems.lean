import Mathlib.Data.List.Basic

/-!
# Streams of chunks that end

A stream travels in items: chunks of bytes, and a mark that it ends. The mark is the last item
of a stream that has one. Many streams may share a channel, on which each item carries the tag
of its stream: what a stream sees of the channel are the items with its tag.
-/

namespace Vex.Library

/-! ## Items -/

inductive StreamItem (α : Type*) where
  | chunk (bytes : List α)
  | fin
  deriving DecidableEq

namespace StreamItem

variable {α : Type*}

/-- An item is the mark. -/
def isFin : StreamItem α → Bool
  | .chunk _ => false
  | .fin => true

end StreamItem

/-! ## Shared channels -/

section Tagged

variable {κ β : Type*} [DecidableEq κ]

/-- What a tag sees of a channel. -/
def ofTag (tag : κ) (entries : List (κ × β)) : List β :=
  entries.filterMap fun entry => if entry.1 = tag then some entry.2 else none

@[simp] theorem ofTag_append (tag : κ) (entries later : List (κ × β)) :
    ofTag tag (entries ++ later) = ofTag tag entries ++ ofTag tag later := List.filterMap_append

theorem ofTag_cons (tag : κ) (entry : κ × β) (entries : List (κ × β)) :
    ofTag tag (entry :: entries) =
      if entry.1 = tag then entry.2 :: ofTag tag entries else ofTag tag entries := by
  unfold ofTag
  rw [List.filterMap_cons]
  split
  · rename_i other
    rw [if_neg]
    intro same
    simp [same] at other
  · rename_i value found
    split at found
    · rename_i same
      rw [if_pos same, Option.some.inj found]
    · cases found

@[simp] theorem ofTag_cons_self (tag : κ) (value : β) (entries : List (κ × β)) :
    ofTag tag ((tag, value) :: entries) = value :: ofTag tag entries := by
  rw [ofTag_cons, if_pos rfl]

theorem ofTag_cons_of_ne {tag other : κ} (different : other ≠ tag) (value : β)
    (entries : List (κ × β)) : ofTag tag ((other, value) :: entries) = ofTag tag entries := by
  rw [ofTag_cons, if_neg different]

end Tagged

end Vex.Library
