import Mathlib.Data.List.Basic

/-!
# Readers of a stream that arrives in pieces

A reader takes one input after the other and may emit outputs at each. It is
given by its step, and `feed` is what it does with a list of inputs.

An incremental reader of a program is pushed a piece of the stream and takes as
much of it at once as it has room for. It is *seamless* when pushing a piece is
pushing its front and then the rest of it, wherever it is cut. A seamless reader
emits the same outputs and ends in the same state however the stream is split
(`Seamless.pushAll_eq`).
-/

namespace Vex.Library

variable {σ β ε : Type*}

/-- What a reader makes of a list of inputs, one after the other. -/
def feed (step : σ → β → σ × List ε) : σ → List β → σ × List ε
  | s, [] => (s, [])
  | s, input :: inputs =>
    ((feed step (step s input).1 inputs).1,
      (step s input).2 ++ (feed step (step s input).1 inputs).2)

variable (step : σ → β → σ × List ε)

@[simp] theorem feed_nil (s : σ) : feed step s [] = (s, []) := rfl

theorem feed_cons (s : σ) (input : β) (inputs : List β) : feed step s (input :: inputs) =
      ((feed step (step s input).1 inputs).1,
        (step s input).2 ++ (feed step (step s input).1 inputs).2) := rfl

theorem feed_append (s : σ) (front later : List β) : feed step s (front ++ later) =
      ((feed step (feed step s front).1 later).1,
        (feed step s front).2 ++ (feed step (feed step s front).1 later).2) := by
  induction front generalizing s with
  | nil => rfl
  | cons input front ih => rw [List.cons_append, feed_cons, ih, feed_cons, List.append_assoc]

theorem feed_induction {step : σ → β → σ × List ε} {motive : σ → List ε → Prop}
    (preserved : ∀ s input emitted, motive s emitted →
      motive (step s input).1 (emitted ++ (step s input).2))
    {s : σ} (holds : motive s []) (inputs : List β) :
    motive (feed step s inputs).1 (feed step s inputs).2 := by
  have onward (s : σ) (emitted : List ε) (holds : motive s emitted) :
      motive (feed step s inputs).1 (emitted ++ (feed step s inputs).2) := by
    clear * - preserved holds
    induction inputs generalizing s emitted with
    | nil => simpa using holds
    | cons input inputs ih =>
      have later := ih _ _ (preserved s input emitted holds)
      rw [List.append_assoc] at later
      exact later
  simpa using onward s [] holds

/-- What a reader makes of pieces that are pushed one after the other: the
outputs of all the pushes, and the state after the last. -/
def pushAll (push : σ → List β → σ × List ε) : σ → List (List β) → σ × List ε :=
  feed push

/-- Pushing a piece is pushing its front and then the rest. -/
structure Seamless (push : σ → List β → σ × List ε) : Prop where
  nothing : ∀ s, push s [] = (s, [])
  append : ∀ s front rest, push s (front ++ rest) =
    ((push (push s front).1 rest).1, (push s front).2 ++ (push (push s front).1 rest).2)

theorem Seamless.pushAll_eq {push : σ → List β → σ × List ε} (seamless : Seamless push) (s : σ)
    (pieces : List (List β)) : pushAll push s pieces = push s pieces.flatten := by
  induction pieces generalizing s with
  | nil => rw [List.flatten_nil, seamless.nothing, pushAll, feed_nil]
  | cons piece pieces ih =>
    have rest := ih (push s piece).1
    rw [pushAll] at rest ⊢
    rw [feed_cons, rest, List.flatten_cons, seamless.append]

end Vex.Library
