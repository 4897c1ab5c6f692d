import Mathlib.Data.List.Nodup

/-!
# Tokens that are spent once

Holders take tokens, let go of them, and spend them. A token that was taken is used from then
on, and only an unused token is taken, so no two holders have one token and none is spent
twice. The moves are lemmas: a holder may keep any part of what it has (`keep`), it may take
what is unused (`take`), and it may spend one (`spend`).
-/

namespace Vex.Library

variable {ι κ : Type*}

/-- No token is held twice, or is held when it was spent, or was spent twice; what is held or
spent is used. -/
structure Exclusive (used : κ → Prop) (held : ι → List κ) (spent : List κ) : Prop where
  once : ∀ i, (held i ++ spent).Nodup
  apart : ∀ i j, i ≠ j → ∀ k, k ∈ held i → k ∉ held j
  held_used : ∀ i, ∀ k ∈ held i, used k
  spent_once : spent.Nodup
  spent_used : ∀ k ∈ spent, used k

namespace Exclusive

variable {used later : κ → Prop} {held : ι → List κ} {spent : List κ}

theorem nobody (used : κ → Prop) : Exclusive used (fun _ : ι => []) [] where
  once _ := List.nodup_nil
  apart _ _ _ _ member := nomatch member
  held_used _ _ member := nomatch member
  spent_once := List.nodup_nil
  spent_used _ member := nomatch member

theorem mono (exclusive : Exclusive used held spent) (stays : ∀ k, used k → later k) :
    Exclusive later held spent :=
  { exclusive with
    held_used := fun i k member => stays k (exclusive.held_used i k member)
    spent_used := fun k member => stays k (exclusive.spent_used k member) }

variable [DecidableEq ι]

section
variable (exclusive : Exclusive used held spent)
include exclusive

theorem update (i : ι) {tokens : List κ} (distinct : tokens.Nodup)
    (own : ∀ k ∈ tokens, k ∈ held i ∨ ¬used k) (stays : ∀ k, used k → later k)
    (marked : ∀ k ∈ tokens, later k) :
    Exclusive later (Function.update held i tokens) spent where
  once j := by
    by_cases same : j = i
    · subst same
      rw [Function.update_self]
      refine List.nodup_append.2 ⟨distinct, exclusive.spent_once, ?_⟩
      rintro k member _ wasSpent rfl
      rcases own k member with mine | unused
      · exact (List.nodup_append.1 (exclusive.once j)).2.2 k mine k wasSpent rfl
      · exact unused (exclusive.spent_used k wasSpent)
    · rw [Function.update_of_ne same]
      exact exclusive.once j
  apart a b different k inA inB := by
    -- one of the two is not the holder, and what it has is used
    have clash : ∀ j, j ≠ i → k ∈ tokens → k ∈ held j → False := by
      intro j other mine theirs
      rcases own k mine with old | unused
      · exact exclusive.apart i j (Ne.symm other) k old theirs
      · exact unused (exclusive.held_used j k theirs)
    by_cases first : a = i
    · subst first
      rw [Function.update_self] at inA
      rw [Function.update_of_ne (Ne.symm different)] at inB
      exact clash b (Ne.symm different) inA inB
    · rw [Function.update_of_ne first] at inA
      by_cases second : b = i
      · subst second
        rw [Function.update_self] at inB
        exact clash a first inB inA
      · rw [Function.update_of_ne second] at inB
        exact exclusive.apart a b different k inA inB
  held_used j k member := by
    by_cases same : j = i
    · subst same
      rw [Function.update_self] at member
      exact marked k member
    · rw [Function.update_of_ne same] at member
      exact stays k (exclusive.held_used j k member)
  spent_once := exclusive.spent_once
  spent_used k member := stays k (exclusive.spent_used k member)

theorem keep (i : ι) {tokens : List κ} (part : tokens.Sublist (held i))
    (stays : ∀ k, used k → later k) : Exclusive later (Function.update held i tokens) spent :=
  exclusive.update i (part.nodup (List.nodup_append.1 (exclusive.once i)).1)
    (fun _ member => .inl (part.subset member)) stays
    fun k member => stays k (exclusive.held_used i k (part.subset member))

theorem take (i : ι) {token : κ} (unused : ¬used token) (stays : ∀ k, used k → later k)
    (marked : later token) : Exclusive later (Function.update held i (token :: held i)) spent := by
  refine exclusive.update i ?_ ?_ stays ?_
  · refine List.nodup_cons.2 ⟨fun member => unused (exclusive.held_used i token member), ?_⟩
    exact (List.nodup_append.1 (exclusive.once i)).1
  · intro k member
    rcases List.mem_cons.1 member with rfl | old
    · exact .inr unused
    · exact .inl old
  · intro k member
    rcases List.mem_cons.1 member with rfl | old
    · exact marked
    · exact stays k (exclusive.held_used i k old)

theorem spend (i : ι) {token : κ} {rest : List κ} (has : held i = token :: rest) :
    Exclusive used (Function.update held i rest) (spent ++ [token]) := by
  have kept : Exclusive used (Function.update held i rest) spent :=
    exclusive.keep i (has ▸ List.sublist_cons_self token rest) fun _ same => same
  have mine : token ∈ held i := by rw [has]; exact List.mem_cons_self
  have notSpent : token ∉ spent := fun wasSpent =>
    (List.nodup_append.1 (exclusive.once i)).2.2 token mine token wasSpent rfl
  have nowhere : ∀ j, token ∉ Function.update held i rest j := by
    intro j member
    by_cases same : j = i
    · subst same
      rw [Function.update_self] at member
      have distinct := (List.nodup_append.1 (exclusive.once j)).1
      rw [has] at distinct
      exact (List.nodup_cons.1 distinct).1 member
    · rw [Function.update_of_ne same] at member
      exact exclusive.apart i j (Ne.symm same) token mine member
  have once : ∀ tokens : List κ, (tokens ++ spent).Nodup → token ∉ tokens →
      (tokens ++ (spent ++ [token])).Nodup := by
    intro tokens distinct absent
    rw [← List.append_assoc]
    refine List.nodup_append.2 ⟨distinct, List.nodup_singleton _, ?_⟩
    rintro k member _ last rfl
    rw [List.mem_singleton] at last
    subst last
    exact (List.mem_append.1 member).elim absent notSpent
  exact { kept with
      once := fun j => once _ (kept.once j) (nowhere j)
      spent_once := once [] (by simpa using kept.spent_once) (by simp)
      spent_used := by
        intro k member
        rcases List.mem_append.1 member with old | last
        · exact kept.spent_used k old
        · rw [List.mem_singleton.1 last]
          exact exclusive.held_used i token mine }

end

end Exclusive

end Vex.Library
