import Mathlib.Tactic

/-!
# Bounded queues that drop whole groups

A queue whose neighbours share a key form a group (the eyes of one frame, say).
When it is too long, the oldest group is dropped whole, and again until it fits.
The first `i` entries may be protected: the drop point is then entry `i`.

- `trimAt_take`: the protected entries stay;
- `trimAt_sublist`: nothing is added or reordered;
- `trimAt_length`: the queue fits, or only protected entries are left;
- `trimAt_induction`: what every single drop preserves, trimming preserves;
- `trimAt_map`: entries that carry more than their key are trimmed alike;
- `trimAt_blocks`: a queue built from blocks of one key each loses whole blocks.
-/

namespace DropGroups

variable {α κ : Type*} [DecidableEq κ]

/-- Drops the group at the front. -/
def dropHead (key : α → κ) : List α → List α
  | [] => []
  | x :: xs => xs.dropWhile fun y => key y = key x

/-- Drops the group that starts at entry `i`. -/
def dropAt (key : α → κ) (i : ℕ) (l : List α) : List α := l.take i ++ dropHead key (l.drop i)

/-- Drops groups at entry `i` while there are more than `max` entries and any
beyond `i`. Each round drops an entry, so the length is fuel enough. -/
def trimLoop (key : α → κ) (i max : ℕ) : ℕ → List α → List α
  | 0, l => l
  | fuel + 1, l =>
    if max < l.length ∧ i < l.length then trimLoop key i max fuel (dropAt key i l) else l

/-- Drops whole groups at entry `i` until at most `max` entries are left. -/
def trimAt (key : α → κ) (i max : ℕ) (l : List α) : List α := trimLoop key i max l.length l

/-! ## One group -/

theorem dropHead_suffix (key : α → κ) (l : List α) : dropHead key l <:+ l := by
  cases l with
  | nil => exact List.suffix_rfl
  | cons x xs => exact (List.dropWhile_suffix _).trans (List.suffix_cons x xs)

theorem dropHead_length_lt (key : α → κ) {l : List α} (h : l ≠ []) :
    (dropHead key l).length < l.length := by
  cases l with
  | nil => exact absurd rfl h
  | cons x xs =>
    have hle := (List.dropWhile_suffix (l := xs) fun y => decide (key y = key x)).length_le
    exact Nat.lt_succ_of_le hle

theorem dropAt_sublist (key : α → κ) (i : ℕ) (l : List α) : List.Sublist (dropAt key i l) l := by
  have h := (dropHead_suffix key (l.drop i)).sublist
  have happ := (List.Sublist.refl (l.take i)).append h
  rwa [List.take_append_drop] at happ

theorem dropAt_length_lt (key : α → κ) {i : ℕ} {l : List α} (h : i < l.length) :
    (dropAt key i l).length < l.length := by
  have hne : l.drop i ≠ [] := by
    rw [Ne, List.drop_eq_nil_iff, not_le]
    exact h
  have hlt := dropHead_length_lt key hne
  rw [List.length_drop] at hlt
  rw [dropAt, List.length_append, List.length_take]
  omega

theorem dropAt_take (key : α → κ) {i : ℕ} {l : List α} (h : i ≤ l.length) :
    (dropAt key i l).take i = l.take i := by
  rw [dropAt, List.take_append_of_le_length (by rw [List.length_take]; omega), List.take_take,
    min_self]

/-! ## Trimming -/

/-- What every single drop preserves, trimming preserves. -/
theorem trimAt_induction {motive : List α → Prop} (key : α → κ) (i max : ℕ)
    (drop : ∀ l, max < l.length → i < l.length → motive l → motive (dropAt key i l)) {l : List α}
    (h : motive l) : motive (trimAt key i max l) := by
  unfold trimAt
  generalize l.length = fuel
  induction fuel generalizing l with
  | zero => exact h
  | succ fuel ih =>
    rw [trimLoop]
    split
    · rename_i hlong
      exact ih (drop l hlong.1 hlong.2 h)
    · exact h

/-- A queue that fits is left alone. -/
theorem trimAt_of_length_le (key : α → κ) (i : ℕ) {max : ℕ} {l : List α} (h : l.length ≤ max) :
    trimAt key i max l = l := by
  unfold trimAt
  cases l.length with
  | zero => rfl
  | succ fuel => rw [trimLoop, if_neg (by omega)]

/-- Trimming neither adds nor reorders. -/
theorem trimAt_sublist (key : α → κ) (i max : ℕ) (l : List α) :
    List.Sublist (trimAt key i max l) l := by
  refine trimAt_induction key i max (motive := fun m => List.Sublist m l) ?_ (List.Sublist.refl l)
  intro m _ _ hm
  exact (dropAt_sublist key i m).trans hm

/-- The protected entries stay. -/
theorem trimAt_take (key : α → κ) {i max : ℕ} {l : List α} (h : i ≤ l.length) :
    (trimAt key i max l).take i = l.take i ∧ i ≤ (trimAt key i max l).length := by
  refine trimAt_induction key i max (motive := fun m => m.take i = l.take i ∧ i ≤ m.length) ?_
    ⟨rfl, h⟩
  rintro m _ hi ⟨htake, -⟩
  refine ⟨(dropAt_take key (le_of_lt hi)).trans htake, ?_⟩
  rw [dropAt, List.length_append, List.length_take]
  omega

/-- What is left behind the protected entries is an end of what was there. -/
theorem trimAt_drop_suffix (key : α → κ) {i max : ℕ} {l : List α} (h : i ≤ l.length) :
    (trimAt key i max l).drop i <:+ l.drop i := by
  refine (trimAt_induction key i max
    (motive := fun m => m.drop i <:+ l.drop i ∧ i ≤ m.length) ?_ ⟨List.suffix_rfl, h⟩).1
  rintro m _ hi ⟨hsuffix, -⟩
  have hlen : (m.take i).length = i := by
    rw [List.length_take]
    omega
  refine ⟨?_, ?_⟩
  · have hnil : (m.take i).drop i = [] := by
      rw [List.drop_eq_nil_iff, hlen]
    rw [dropAt, List.drop_append_of_le_length (le_of_eq hlen.symm), hnil, List.nil_append]
    exact (dropHead_suffix key _).trans hsuffix
  · rw [dropAt, List.length_append, hlen]
    omega

/-- Afterwards the queue fits, or only protected entries are left. -/
theorem trimAt_length (key : α → κ) (i max : ℕ) (l : List α) :
    (trimAt key i max l).length ≤ max ∨ (trimAt key i max l).length ≤ i := by
  have hloop : ∀ (fuel : ℕ) (m : List α), m.length ≤ fuel →
      (trimLoop key i max fuel m).length ≤ max ∨ (trimLoop key i max fuel m).length ≤ i := by
    intro fuel
    induction fuel with
    | zero =>
      intro m hm
      rw [trimLoop]
      omega
    | succ fuel ih =>
      intro m hm
      rw [trimLoop]
      split
      · rename_i hlong
        have hlt := dropAt_length_lt key hlong.2
        exact ih (dropAt key i m) (by omega)
      · omega
  exact hloop l.length l le_rfl

/-- Entries that carry more than the key is read from are trimmed alike. -/
theorem trimAt_map {β : Type*} (key : α → κ) (f : β → α) (i max : ℕ) (l : List β) :
    (trimAt (fun x => key (f x)) i max l).map f = trimAt key i max (l.map f) := by
  have hhead : ∀ l : List β,
      (dropHead (fun x => key (f x)) l).map f = dropHead key (l.map f) := by
    intro l
    cases l with
    | nil => rfl
    | cons x xs =>
      have hwhile : (xs.map f).dropWhile (fun y => decide (key y = key (f x))) =
          (xs.dropWhile ((fun y => decide (key y = key (f x))) ∘ f)).map f := List.dropWhile_map
      exact hwhile.symm
  have hdrop : ∀ l : List β, (dropAt (fun x => key (f x)) i l).map f = dropAt key i (l.map f) := by
    intro l
    rw [dropAt, dropAt, List.map_append, hhead, List.map_take, List.map_drop]
  have hloop : ∀ (fuel : ℕ) (l : List β), (trimLoop (fun x => key (f x)) i max fuel l).map f =
      trimLoop key i max fuel (l.map f) := by
    intro fuel
    induction fuel with
    | zero =>
      intro l
      rfl
    | succ fuel ih =>
      intro l
      rw [trimLoop, trimLoop, List.length_map]
      split
      · rw [ih, hdrop]
      · rfl
  rw [trimAt, trimAt, hloop, List.length_map]

/-! ## Queues of blocks -/

section Blocks

variable {β : Type*} {key : α → κ} {blocks : β → List α} {blockKey : β → κ}

/-- Behind an entry of a block's key, the blocks of that key go whole. -/
theorem dropWhile_blocks (hkey : ∀ b, ∀ x ∈ blocks b, key x = blockKey b)
    (hne : ∀ b, blocks b ≠ []) (k : κ) (bs : List β) :
    (bs.flatMap blocks).dropWhile (fun x => key x = k) =
      (bs.dropWhile fun b => blockKey b = k).flatMap blocks := by
  induction bs with
  | nil => rfl
  | cons b bs ih =>
    rw [List.flatMap_cons]
    by_cases hb : blockKey b = k
    · have hall : ∀ x ∈ blocks b, (decide (key x = k)) = true := by
        intro x hx
        rw [hkey b x hx, hb, decide_eq_true_eq]
      rw [List.dropWhile_append_of_pos hall, ih, List.dropWhile_cons_of_pos (by simp [hb])]
    · rw [List.dropWhile_cons_of_neg (by simp [hb]), List.flatMap_cons]
      cases hx : blocks b with
      | nil => exact absurd hx (hne b)
      | cons x xs =>
        have hfirst : key x = blockKey b := hkey b x (by rw [hx]; exact List.mem_cons_self)
        rw [List.cons_append, List.dropWhile_cons_of_neg (by simp [hfirst, hb])]

/-- The group at the front is one or more whole blocks. -/
theorem dropHead_blocks (hkey : ∀ b, ∀ x ∈ blocks b, key x = blockKey b)
    (hne : ∀ b, blocks b ≠ []) (bs : List β) :
    ∃ bs', bs' <:+ bs ∧ dropHead key (bs.flatMap blocks) = bs'.flatMap blocks := by
  cases bs with
  | nil => exact ⟨[], List.suffix_rfl, rfl⟩
  | cons b bs =>
    refine ⟨bs.dropWhile fun b' => blockKey b' = blockKey b,
      (List.dropWhile_suffix _).trans (List.suffix_cons b bs), ?_⟩
    rw [List.flatMap_cons]
    cases hx : blocks b with
    | nil => exact absurd hx (hne b)
    | cons x xs =>
      have hfirst : key x = blockKey b := hkey b x (by rw [hx]; exact List.mem_cons_self)
      have hall : ∀ y ∈ xs, (decide (key y = blockKey b)) = true := by
        intro y hy
        rw [hkey b y (by rw [hx]; exact List.mem_cons_of_mem x hy), decide_eq_true_eq]
      rw [List.cons_append, dropHead, hfirst, List.dropWhile_append_of_pos hall,
        dropWhile_blocks hkey hne]

/-- Behind the protected entries, blocks go whole. -/
theorem trimAt_blocks (hkey : ∀ b, ∀ x ∈ blocks b, key x = blockKey b)
    (hne : ∀ b, blocks b ≠ []) (max : ℕ) (kept : List α) (bs : List β) :
    ∃ bs', bs' <:+ bs ∧
      trimAt key kept.length max (kept ++ bs.flatMap blocks) = kept ++ bs'.flatMap blocks := by
  refine trimAt_induction key kept.length max
    (motive := fun m => ∃ bs', bs' <:+ bs ∧ m = kept ++ bs'.flatMap blocks) ?_
    ⟨bs, List.suffix_rfl, rfl⟩
  rintro m _ _ ⟨bs', hbs', rfl⟩
  obtain ⟨bs'', hbs'', hdrop⟩ := dropHead_blocks hkey hne bs'
  refine ⟨bs'', hbs''.trans hbs', ?_⟩
  rw [dropAt, List.take_left, List.drop_left, hdrop]

end Blocks

end DropGroups
