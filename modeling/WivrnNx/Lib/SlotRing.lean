import Mathlib.Tactic

/-!
# A ring of slots addressed by an index

Contributions arrive for numbered items, in no particular order. An item is collected in
the slot of its number modulo the size of the ring, and whatever was collected there for
another item is evicted. A contribution is accepted as long as its item is less than a
whole ring behind the newest one seen.

- `put`: one contribution;
- `Sound`: an item is in its slot or was evicted, never both, and holds what was
  accepted for it, in order;
- `put_sound`: every contribution keeps that, so no item is evicted twice, and none is
  added to afterwards.
-/

namespace SlotRing

variable {N : ℕ} [NeZero N] {β ε : Type*}

/-- The slots, all contributions accepted so far, and all items evicted so far. -/
structure Ring (N : ℕ) (β ε : Type*) where
  slots : Fin N → Option (ℕ × β) := fun _ => none
  accepted : List (ℕ × ε) := []
  evicted : List (ℕ × β) := []

/-- The slot of an item. -/
def slotOf (n : ℕ) : Fin N := Fin.ofNat N n

/-- Less than a whole ring behind everything seen. -/
def Recent (accepted : List (ℕ × ε)) (N n : ℕ) : Prop := ∀ p ∈ accepted, p.1 < n + N

instance (accepted : List (ℕ × ε)) (N n : ℕ) : Decidable (Recent accepted N n) :=
  inferInstanceAs (Decidable (∀ p ∈ accepted, p.1 < n + N))

/-- What was accepted for one item. -/
def contributions (accepted : List (ℕ × ε)) (n : ℕ) : List ε :=
  (accepted.filter (·.1 = n)).map (·.2)

/-- What an item has collected, from the start. -/
def content (init : ℕ → β) (apply : ε → β → β) (accepted : List (ℕ × ε)) (n : ℕ) : β :=
  (contributions accepted n).foldl (fun b e => apply e b) (init n)

/-- What the slot of an item holds for it. -/
def held (init : ℕ → β) (s : Ring N β ε) (n : ℕ) : β :=
  match s.slots (slotOf n) with
  | some (k, b) => if k = n then b else init n
  | none => init n

/-- What the slot of an item holds for another. -/
def displaced (s : Ring N β ε) (n : ℕ) : Option (ℕ × β) :=
  match s.slots (slotOf n) with
  | some (k, b) => if k = n then none else some (k, b)
  | none => none

/-- One contribution. -/
def put (init : ℕ → β) (apply : ε → β → β) (s : Ring N β ε) (n : ℕ) (e : ε) : Ring N β ε :=
  if Recent s.accepted N n then
    { slots := Function.update s.slots (slotOf n) (some (n, apply e (held init s n)))
      accepted := s.accepted ++ [(n, e)]
      evicted := (displaced s n).toList ++ s.evicted }
  else s

theorem contributions_append (accepted : List (ℕ × ε)) (n : ℕ) (e : ε) (k : ℕ) :
    contributions (accepted ++ [(n, e)]) k =
      if n = k then contributions accepted k ++ [e] else contributions accepted k := by
  unfold contributions
  rw [List.filter_append, List.map_append]
  split
  · rename_i hsame
    rw [List.filter_cons_of_pos (by simpa using hsame)]
    rfl
  · rename_i hother
    rw [List.filter_cons_of_neg (by simpa using hother)]
    exact List.append_nil _

theorem content_append_same (init : ℕ → β) (apply : ε → β → β) (accepted : List (ℕ × ε)) (n : ℕ)
    (e : ε) : content init apply (accepted ++ [(n, e)]) n =
      apply e (content init apply accepted n) := by
  unfold content
  rw [contributions_append, if_pos rfl, List.foldl_append]
  rfl

theorem content_append_other (init : ℕ → β) (apply : ε → β → β) (accepted : List (ℕ × ε))
    {n k : ℕ} (e : ε) (h : n ≠ k) :
    content init apply (accepted ++ [(n, e)]) k = content init apply accepted k := by
  unfold content
  rw [contributions_append, if_neg h]

/-- An item that nothing was accepted for. -/
theorem content_unseen (init : ℕ → β) (apply : ε → β → β) {accepted : List (ℕ × ε)} {n : ℕ}
    (h : ∀ p ∈ accepted, p.1 ≠ n) : content init apply accepted n = init n := by
  unfold content contributions
  rw [List.filter_eq_nil_iff.mpr (by simpa using h)]
  rfl

/-- Every item seen is in its slot or was evicted, and holds what was accepted for it. -/
structure Sound (init : ℕ → β) (apply : ε → β → β) (s : Ring N β ε) : Prop where
  placed : ∀ i k b, s.slots i = some (k, b) →
    slotOf k = i ∧ (∃ p ∈ s.accepted, p.1 = k) ∧ b = content init apply s.accepted k ∧
      ∀ q ∈ s.evicted, q.1 ≠ k
  gone : ∀ q ∈ s.evicted, q.2 = content init apply s.accepted q.1 ∧
    ∃ p ∈ s.accepted, q.1 + N ≤ p.1
  kept : ∀ p ∈ s.accepted, (∃ b, s.slots (slotOf p.1) = some (p.1, b)) ∨
    ∃ q ∈ s.evicted, q.1 = p.1
  nodup : (s.evicted.map (·.1)).Nodup

theorem empty_sound (init : ℕ → β) (apply : ε → β → β) : Sound init apply ({} : Ring N β ε) := by
  constructor
  · intro i k b hslot
    cases hslot
  · exact List.forall_mem_nil _
  · exact List.forall_mem_nil _
  · exact List.nodup_nil

/-- Two items of one slot are whole rings apart. -/
theorem add_le_of_slotOf {k n : ℕ} (h : (slotOf k : Fin N) = slotOf n) (hlt : k < n) :
    k + N ≤ n := by
  have hmod : k % N = n % N := congrArg Fin.val h
  have hsub : N ∣ n - k := (Nat.modEq_iff_dvd' hlt.le).mp hmod
  have hle := Nat.le_of_dvd (by omega) hsub
  omega

section Put

variable {init : ℕ → β} {apply : ε → β → β} {s : Ring N β ε} {n : ℕ}

/-- An item that is evicted is not recent any more. -/
theorem Sound.not_evicted (h : Sound init apply s) (hrecent : Recent s.accepted N n) :
    ∀ q ∈ s.evicted, q.1 ≠ n := by
  intro q hq hsame
  rcases (h.gone q hq).2 with ⟨p, hp, hbehind⟩
  have hwithin := hrecent p hp
  omega

/-- The slot of a recent item holds an item a whole ring or more behind it, if another. -/
theorem Sound.behind (h : Sound init apply s) (hrecent : Recent s.accepted N n) {k : ℕ} {b : β}
    (hslot : s.slots (slotOf n) = some (k, b)) (hother : k ≠ n) : k + N ≤ n := by
  rcases h.placed _ k b hslot with ⟨hplace, ⟨p, hp, hseen⟩, -, -⟩
  rcases Nat.lt_or_gt_of_ne hother with hlt | hgt
  · exact add_le_of_slotOf hplace hlt
  · have hahead := add_le_of_slotOf hplace.symm hgt
    have hwithin := hrecent p hp
    omega

/-- What the slot holds for a recent item is all that was accepted for it. -/
theorem Sound.held_eq (h : Sound init apply s) (hrecent : Recent s.accepted N n) :
    held init s n = content init apply s.accepted n := by
  -- Unless it is in its slot, nothing was accepted for it
  have hunseen : (∀ b, s.slots (slotOf n) ≠ some (n, b)) →
      content init apply s.accepted n = init n := by
    intro habsent
    apply content_unseen
    intro p hp hsame
    rcases h.kept p hp with ⟨b, hslot⟩ | ⟨q, hq, hevicted⟩
    · rw [hsame] at hslot
      exact habsent b hslot
    · exact h.not_evicted hrecent q hq (hevicted.trans hsame)
  unfold held
  cases hslot : s.slots (slotOf n) with
  | none => exact (hunseen fun b hb => by rw [hslot] at hb; cases hb).symm
  | some entry =>
    rcases entry with ⟨k, b⟩
    dsimp only
    split
    · rename_i hsame
      rw [← hsame]
      exact (h.placed _ k b hslot).2.2.1
    · rename_i hother
      refine (hunseen fun b' hb' => ?_).symm
      rw [hslot] at hb'
      cases hb'
      exact hother rfl

theorem displaced_eq_some {q : ℕ × β} :
    displaced s n = some q ↔ s.slots (slotOf n) = some q ∧ q.1 ≠ n := by
  unfold displaced
  cases s.slots (slotOf n) with
  | none => simp
  | some entry =>
    dsimp only
    split
    · rename_i hsame
      constructor
      · intro hnone
        cases hnone
      · rintro ⟨hentry, hother⟩
        cases hentry
        exact absurd hsame hother
    · rename_i hother
      constructor
      · intro hsome
        cases hsome
        exact ⟨rfl, hother⟩
      · exact fun hentry => hentry.1

/-- What a recent item evicts is a whole ring behind it, complete, and was not evicted
before. -/
theorem Sound.displaced_spec (h : Sound init apply s) (hrecent : Recent s.accepted N n)
    {q : ℕ × β} (hq : displaced s n = some q) :
    slotOf q.1 = (slotOf n : Fin N) ∧ q.1 + N ≤ n ∧
      q.2 = content init apply s.accepted q.1 ∧ ∀ r ∈ s.evicted, r.1 ≠ q.1 := by
  rcases displaced_eq_some.mp hq with ⟨hslot, hother⟩
  rcases h.placed _ q.1 q.2 hslot with ⟨hplace, -, hcontent, hfresh⟩
  exact ⟨hplace, h.behind hrecent hslot hother, hcontent, hfresh⟩

/-- An item evicted now or before is not the recent one. -/
theorem Sound.evicted_ne (h : Sound init apply s) (hrecent : Recent s.accepted N n) :
    ∀ q ∈ (displaced s n).toList ++ s.evicted, q.1 ≠ n := by
  intro q hq
  rcases List.mem_append.mp hq with hnow | hbefore
  · exact (displaced_eq_some.mp (Option.mem_toList.mp hnow)).2
  · exact h.not_evicted hrecent q hbefore

theorem Sound.put_placed (h : Sound init apply s) (hrecent : Recent s.accepted N n) (e : ε)
    {i : Fin N} {k : ℕ} {b : β}
    (hslot : Function.update s.slots (slotOf n) (some (n, apply e (held init s n))) i =
      some (k, b)) :
    slotOf k = i ∧ (∃ p ∈ s.accepted ++ [(n, e)], p.1 = k) ∧
      b = content init apply (s.accepted ++ [(n, e)]) k ∧
      ∀ q ∈ (displaced s n).toList ++ s.evicted, q.1 ≠ k := by
  by_cases hi : i = slotOf n
  · -- The slot written
    rw [hi, Function.update_self] at hslot
    cases hslot
    refine ⟨hi.symm, ⟨(n, e), by simp, rfl⟩, ?_, h.evicted_ne hrecent⟩
    rw [h.held_eq hrecent, content_append_same]
  · rw [Function.update_of_ne hi] at hslot
    rcases h.placed i k b hslot with ⟨hplace, ⟨p, hp, hseen⟩, hcontent, hfresh⟩
    have hother : n ≠ k := by
      rintro rfl
      exact hi hplace.symm
    refine ⟨hplace, ⟨p, List.mem_append_left _ hp, hseen⟩, ?_, ?_⟩
    · rw [content_append_other init apply s.accepted e hother]
      exact hcontent
    · intro q hq
      rcases List.mem_append.mp hq with hnow | hbefore
      · -- What is evicted was in another slot
        rintro rfl
        have hslot' := (h.displaced_spec hrecent (Option.mem_toList.mp hnow)).1
        exact hi (hplace.symm.trans hslot')
      · exact hfresh q hbefore

theorem Sound.put_gone (h : Sound init apply s) (hrecent : Recent s.accepted N n) (e : ε)
    {q : ℕ × β} (hq : q ∈ (displaced s n).toList ++ s.evicted) :
    q.2 = content init apply (s.accepted ++ [(n, e)]) q.1 ∧
      ∃ p ∈ s.accepted ++ [(n, e)], q.1 + N ≤ p.1 := by
  rw [content_append_other init apply s.accepted e (h.evicted_ne hrecent q hq).symm]
  rcases List.mem_append.mp hq with hnow | hbefore
  · rcases h.displaced_spec hrecent (Option.mem_toList.mp hnow) with ⟨-, hring, hcontent, -⟩
    exact ⟨hcontent, (n, e), by simp, hring⟩
  · rcases h.gone q hbefore with ⟨hcontent, p, hp, hring⟩
    exact ⟨hcontent, p, List.mem_append_left _ hp, hring⟩

theorem Sound.put_kept (h : Sound init apply s) (e : ε) {p : ℕ × ε}
    (hp : p ∈ s.accepted ++ [(n, e)]) :
    (∃ b, Function.update s.slots (slotOf n) (some (n, apply e (held init s n))) (slotOf p.1) =
        some (p.1, b)) ∨
      ∃ q ∈ (displaced s n).toList ++ s.evicted, q.1 = p.1 := by
  rcases List.mem_append.mp hp with hbefore | hnow
  · rcases h.kept p hbefore with ⟨b, hb⟩ | ⟨q, hq, hevicted⟩
    · by_cases hplace : (slotOf p.1 : Fin N) = slotOf n
      · by_cases hsame : p.1 = n
        · rw [hsame, Function.update_self]
          exact .inl ⟨_, rfl⟩
        · right
          rw [hplace] at hb
          refine ⟨(p.1, b), List.mem_append_left _ ?_, rfl⟩
          exact Option.mem_toList.mpr (displaced_eq_some.mpr ⟨hb, hsame⟩)
      · left
        exact ⟨b, (Function.update_of_ne hplace _ _).trans hb⟩
    · exact .inr ⟨q, List.mem_append_right _ hq, hevicted⟩
  · rw [List.mem_singleton.mp hnow, Function.update_self]
    exact .inl ⟨_, rfl⟩

theorem Sound.put_nodup (h : Sound init apply s) (hrecent : Recent s.accepted N n) :
    (((displaced s n).toList ++ s.evicted).map (·.1)).Nodup := by
  cases hdisplaced : displaced s n with
  | none => exact h.nodup
  | some q =>
    apply List.nodup_cons.mpr
    refine ⟨fun hmem => ?_, h.nodup⟩
    rcases List.mem_map.mp hmem with ⟨r, hr, hsame⟩
    exact (h.displaced_spec hrecent hdisplaced).2.2.2 r hr hsame

/-- Every contribution keeps the ring sound. -/
theorem put_sound (h : Sound init apply s) (e : ε) : Sound init apply (put init apply s n e) := by
  unfold put
  split
  · rename_i hrecent
    constructor
    · exact fun i k b hslot => h.put_placed hrecent e hslot
    · exact fun q hq => h.put_gone hrecent e hq
    · exact fun p hp => h.put_kept e hp
    · exact h.put_nodup hrecent
  · exact h

end Put

end SlotRing
