import Mathlib.Algebra.BigOperators.Group.Finset.Basic
import Mathlib.Algebra.Order.Group.Multiset

/-!
# Custody

A program that takes resources, uses them and gives them back (references, handles,
locks), as the list of what it did. What is used or given back must be held, and what is
held at the end is to be what the program still knows of.

- `Turns p es q`: the effects are all right for one that holds `p`, and leave it `q`;
- `Turns.frame`: what else is held does not matter;
- `turns_sum`: parts that are turned one after the other;
- `trace_turns`: what each operation keeps, over whole runs.
-/

namespace Custody

inductive Effect (ρ : Type*)
  | take (r : ρ)
  | use (r : ρ)
  | give (r : ρ)
deriving DecidableEq

variable {ρ : Type*} [DecidableEq ρ]

/-- What is held after some effects; `none` when something is used or given back that is not. -/
def after : Multiset ρ → List (Effect ρ) → Option (Multiset ρ)
  | own, [] => some own
  | own, .take r :: es => after (r ::ₘ own) es
  | own, .use r :: es => if r ∈ own then after own es else none
  | own, .give r :: es => if r ∈ own then after (own.erase r) es else none

theorem after_append (own : Multiset ρ) (es fs : List (Effect ρ)) :
    after own (es ++ fs) = (after own es).bind fun own' => after own' fs := by
  induction es generalizing own with
  | nil => rfl
  | cons e es ih =>
    cases e with
    | take r => exact ih (r ::ₘ own)
    | use r =>
      simp only [List.cons_append, after]
      split
      · exact ih own
      · rfl
    | give r =>
      simp only [List.cons_append, after]
      split
      · exact ih (own.erase r)
      · rfl

def Turns (p : Multiset ρ) (es : List (Effect ρ)) (q : Multiset ρ) : Prop := after p es = some q

section Turns

variable {p q r : Multiset ρ} {es fs : List (Effect ρ)} {a : ρ}

theorem Turns.nil : Turns p [] p := rfl

theorem Turns.take : Turns p [.take a] (a ::ₘ p) := rfl

theorem Turns.use (h : a ∈ p) : Turns p [.use a] p := if_pos h

theorem Turns.give : Turns (a ::ₘ p) [.give a] p := by
  rw [Turns, after, if_pos (Multiset.mem_cons_self a p), Multiset.erase_cons_head]
  rfl

theorem Turns.append (h : Turns p es q) (h' : Turns q fs r) : Turns p (es ++ fs) r := by
  rw [Turns, after_append, h]
  exact h'

/-- The effects are all right at every point on the way. -/
theorem Turns.begun (h : Turns p (es ++ fs) r) : ∃ q, Turns p es q := by
  rw [Turns, after_append] at h
  obtain ⟨q, hq, -⟩ := Option.bind_eq_some_iff.mp h
  exact ⟨q, hq⟩

theorem Turns.frame (h : Turns p es q) (rest : Multiset ρ) : Turns (p + rest) es (q + rest) := by
  induction es generalizing p with
  | nil =>
    cases h
    exact Turns.nil
  | cons e es ih =>
    cases e with
    | take a =>
      show after (a ::ₘ (p + rest)) es = _
      rw [← Multiset.cons_add]
      exact ih h
    | use a =>
      simp only [Turns, after] at h ⊢
      split at h
      · rename_i hmem
        rw [if_pos (Multiset.mem_add.mpr (.inl hmem))]
        exact ih h
      · cases h
    | give a =>
      simp only [Turns, after] at h ⊢
      split at h
      · rename_i hmem
        rw [if_pos (Multiset.mem_add.mpr (.inl hmem)), Multiset.erase_add_left_pos rest hmem]
        exact ih h
      · cases h

theorem Turns.frame_left (h : Turns p es q) (rest : Multiset ρ) :
    Turns (rest + p) es (rest + q) := by
  rw [add_comm rest p, add_comm rest q]
  exact h.frame rest

theorem Turns.frame_cons (h : Turns p es q) (a : ρ) : Turns (a ::ₘ p) es (a ::ₘ q) := by
  rw [← Multiset.singleton_add, ← Multiset.singleton_add]
  exact h.frame_left {a}

/-- Something taken for the length of some effects, which may use it. -/
theorem Turns.around (h : Turns (a ::ₘ p) es (a ::ₘ q)) :
    Turns p (.take a :: (es ++ [.give a])) q :=
  (Turns.take (p := p)).append (h.append Turns.give)

/-- Parts that are given back one after the other. -/
theorem turns_sum {parts : ℕ → Multiset ρ} {es : ℕ → List (Effect ρ)}
    (h : ∀ i, Turns (parts i) (es i) 0) (n : ℕ) :
    Turns (∑ i ∈ Finset.range n, parts i) ((List.range n).flatMap es) 0 := by
  induction n with
  | zero => exact Turns.nil
  | succ n ih =>
    rw [Finset.sum_range_succ, List.range_succ, List.flatMap_append, List.flatMap_singleton]
    have hlast : Turns (0 + parts n) (es n) 0 := by
      rw [zero_add]
      exact h n
    exact (ih.frame (parts n)).append hlast

end Turns

/-! ## Runs -/

variable {σ α : Type*}

/-- Operations one after the other, with all that they do. -/
def trace (step : σ → α → σ × List (Effect ρ)) : σ → List α → σ × List (Effect ρ)
  | s, [] => (s, [])
  | s, a :: as =>
    let r := step s a
    let rest := trace step r.1 as
    (rest.1, r.2 ++ rest.2)

/-- Each operation turns what the state knows of into what the next one does. -/
theorem trace_turns {step : σ → α → σ × List (Effect ρ)} {Inv : σ → Prop}
    {owns : σ → Multiset ρ}
    (hstep : ∀ s a, Inv s → Inv (step s a).1 ∧ Turns (owns s) (step s a).2 (owns (step s a).1))
    (as : List α) (s : σ) (h : Inv s) :
    Inv (trace step s as).1 ∧ Turns (owns s) (trace step s as).2 (owns (trace step s as).1) := by
  induction as generalizing s with
  | nil => exact ⟨h, Turns.nil⟩
  | cons a as ih =>
    obtain ⟨hinv, hturns⟩ := hstep s a h
    obtain ⟨hlast, hrest⟩ := ih (step s a).1 hinv
    exact ⟨hlast, hturns.append hrest⟩

end Custody
