import Mathlib.Tactic

/-!
# Greedy splits of a list

A list is cut into pieces from the front: piece `i` takes `size i` elements, at
least one, or whatever is left. This is what every packetizer with a budget that
depends on the piece's number does.

- `flatten_split`: the pieces are the list;
- `length_split_le`: there are at most as many pieces as elements;
- `length_split_of_const`: how many pieces of one size there are;
- `split_of_length_le`: a list that fits the first piece is one piece.
-/

namespace GreedySplit

variable {α : Type*}

/-- How much piece `i` may take: its size, but never nothing. -/
def capacity (size : ℕ → ℕ) (i : ℕ) : ℕ := max 1 (size i)

theorem capacity_pos (size : ℕ → ℕ) (i : ℕ) : 0 < capacity size i :=
  lt_of_lt_of_le Nat.one_pos (le_max_left 1 (size i))

/-- The pieces of `l`, the first of them numbered `i`. -/
def split (size : ℕ → ℕ) (i : ℕ) (l : List α) : List (List α) :=
  if l = [] then [] else l.take (capacity size i) :: split size (i + 1) (l.drop (capacity size i))
termination_by l.length
decreasing_by
  have hpos := List.length_pos_iff.mpr ‹l ≠ []›
  have hcap := capacity_pos size i
  rw [List.length_drop]
  omega

@[simp] theorem split_nil (size : ℕ → ℕ) (i : ℕ) : split size i ([] : List α) = [] := by
  rw [split]
  simp

theorem split_of_ne_nil (size : ℕ → ℕ) (i : ℕ) {l : List α} (h : l ≠ []) :
    split size i l =
      l.take (capacity size i) :: split size (i + 1) (l.drop (capacity size i)) := by
  conv_lhs => rw [split]
  rw [if_neg h]

theorem split_eq_nil_iff (size : ℕ → ℕ) (i : ℕ) (l : List α) : split size i l = [] ↔ l = [] := by
  constructor
  · intro h
    by_contra hne
    rw [split_of_ne_nil size i hne] at h
    cases h
  · rintro rfl
    exact split_nil size i

/-- A piece taken off the front leaves a shorter list. -/
theorem length_drop_lt (size : ℕ → ℕ) (i : ℕ) {l : List α} (h : l ≠ []) :
    (l.drop (capacity size i)).length < l.length := by
  have hpos := List.length_pos_iff.mpr h
  have hcap := capacity_pos size i
  rw [List.length_drop]
  omega

/-- Induction along the split: the list that is left after the first piece. -/
theorem split_induction {motive : ℕ → List α → Prop} (size : ℕ → ℕ)
    (nil : ∀ i, motive i [])
    (cons : ∀ i l, l ≠ [] → motive (i + 1) (l.drop (capacity size i)) → motive i l) :
    ∀ i l, motive i l := by
  intro i l
  induction hn : l.length using Nat.strong_induction_on generalizing i l with
  | _ n ih =>
    by_cases hl : l = []
    · subst hl
      exact nil i
    · subst hn
      exact cons i l hl (ih _ (length_drop_lt size i hl) (i + 1) _ rfl)

/-- The pieces put together again are the list. -/
theorem flatten_split (size : ℕ → ℕ) (i : ℕ) (l : List α) : (split size i l).flatten = l := by
  induction i, l using split_induction size with
  | nil i => simp
  | cons i l hl ih => rw [split_of_ne_nil size i hl, List.flatten_cons, ih, List.take_append_drop]

/-- No piece is empty, so there are no more pieces than elements. -/
theorem length_split_le (size : ℕ → ℕ) (i : ℕ) (l : List α) :
    (split size i l).length ≤ l.length := by
  induction i, l using split_induction size with
  | nil i => simp
  | cons i l hl ih =>
    have hlt := length_drop_lt size i hl
    rw [split_of_ne_nil size i hl, List.length_cons]
    omega

/-- Pieces of one size, into which the list divides. -/
theorem length_split_of_const (size : ℕ → ℕ) {c : ℕ} (hc : ∀ i, capacity size i = c) (m : ℕ) :
    ∀ (i : ℕ) (l : List α), l.length = m * c → (split size i l).length = m := by
  have hpos : 0 < c := by
    rw [← hc 0]
    exact capacity_pos size 0
  induction m with
  | zero =>
    intro i l hl
    rw [Nat.zero_mul, List.length_eq_zero_iff] at hl
    rw [hl, split_nil, List.length_nil]
  | succ m ih =>
    intro i l hl
    rw [Nat.add_mul, Nat.one_mul] at hl
    have hne : l ≠ [] := by
      rintro rfl
      rw [List.length_nil] at hl
      omega
    rw [split_of_ne_nil size i hne, List.length_cons, ih]
    rw [List.length_drop, hc i]
    omega

/-- A list that fits the first piece is one piece. -/
theorem split_of_length_le (size : ℕ → ℕ) (i : ℕ) {l : List α} (h : l ≠ [])
    (hfit : l.length ≤ capacity size i) : split size i l = [l] := by
  rw [split_of_ne_nil size i h, List.take_of_length_le hfit, List.drop_eq_nil_of_le hfit, split_nil]

end GreedySplit
