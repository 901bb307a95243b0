import Mathlib.Logic.Function.Basic
import Mathlib.Tactic

/-!
# A lock that its first user makes

A lock cannot be used before it is made, and nobody makes it ahead of time. Its
users go by a word beside it: the one that exchanges `untouched` for
`initialising` makes the lock and then publishes `ready`, and the others sleep and
look again until they read that.

Any number of threads, each step one access. What a user has of it: the lock is made
once and never used unmade (`Inv.made_of_past`), one thread at a time is inside
(`Inv.exclusive`), and nobody spins for long: a look is in vain only while some thread
makes the lock (`vain_look`), and as long as anyone wants in, someone is in or has a
step to take that brings it nearer (`progress`).
-/

namespace LazyLock

variable {ι : Type*}

inductive Word
  | untouched
  | initialising
  | ready
deriving Repr, DecidableEq

inductive Phase
  | outside
  | exchanging
  | sleeping
  | making
  | publishing
  | entering
  | inside
deriving Repr, DecidableEq

structure State (ι : Type*) where
  word : Word
  /-- How often the lock was made. -/
  made : ℕ
  owner : Option ι
  phase : ι → Phase

def init : State ι := ⟨.untouched, 0, none, fun _ => .outside⟩

inductive Move
  | acquire
  | exchange
  | wake
  | make
  | publish
  | enter
  | leave
deriving Repr, DecidableEq

def State.go [DecidableEq ι] (s : State ι) (i : ι) (p : Phase) : State ι :=
  { s with phase := Function.update s.phase i p }

/-- The compare-and-exchange of `untouched` by `initialising`, and what its value means. -/
def exchange [DecidableEq ι] (s : State ι) (i : ι) : State ι :=
  match s.word with
  | .untouched => { s with word := .initialising }.go i .making
  | .initialising => s.go i .sleeping
  | .ready => s.go i .entering

def step [DecidableEq ι] (s : State ι) (i : ι) : Move → Option (State ι)
  | .acquire => if s.phase i = .outside then some (s.go i .exchanging) else none
  | .exchange => if s.phase i = .exchanging then some (exchange s i) else none
  | .wake => if s.phase i = .sleeping then some (s.go i .exchanging) else none
  | .make =>
    if s.phase i = .making then some ({ s with made := s.made + 1 }.go i .publishing) else none
  | .publish =>
    if s.phase i = .publishing then some ({ s with word := .ready }.go i .entering) else none
  | .enter =>
    if s.phase i = .entering ∧ s.owner = none then
      some ({ s with owner := some i }.go i .inside)
    else none
  | .leave =>
    if s.phase i = .inside then some ({ s with owner := none }.go i .outside) else none

/-! ## The invariant -/

/-- Between the exchange that was first and the word that says so. -/
def Makes (p : Phase) : Prop := p = .making ∨ p = .publishing

/-- At the lock itself. -/
def Past (p : Phase) : Prop := p = .entering ∨ p = .inside

structure Inv (s : State ι) : Prop where
  fresh : s.word = .untouched → s.made = 0
  done : s.word = .ready → s.made = 1
  making : ∀ i, s.phase i = .making → s.made = 0
  publishing : ∀ i, s.phase i = .publishing → s.made = 1
  maker : ∀ i, Makes (s.phase i) → s.word = .initialising
  someone : s.word = .initialising → ∃ i, Makes (s.phase i)
  alone : ∀ i j, Makes (s.phase i) → Makes (s.phase j) → i = j
  past : ∀ i, Past (s.phase i) → s.word = .ready
  owner : ∀ i, s.owner = some i ↔ s.phase i = .inside

namespace Inv

variable {s : State ι}

theorem made_of_past (h : Inv s) {i : ι} (hi : Past (s.phase i)) : s.made = 1 :=
  h.done (h.past i hi)

theorem made_le (h : Inv s) : s.made ≤ 1 := by
  cases hword : s.word with
  | untouched => exact (h.fresh hword).trans_le (Nat.zero_le 1)
  | initialising =>
    obtain ⟨i, hmaking | hpublishing⟩ := h.someone hword
    · exact (h.making i hmaking).trans_le (Nat.zero_le 1)
    · exact (h.publishing i hpublishing).le
  | ready => exact (h.done hword).le

theorem exclusive (h : Inv s) {i j : ι} (hi : s.phase i = .inside) (hj : s.phase j = .inside) :
    i = j :=
  Option.some.inj (((h.owner i).mpr hi).symm.trans ((h.owner j).mpr hj))

end Inv

theorem init_inv : Inv (init : State ι) where
  fresh _ := rfl
  done h := by cases h
  making _ h := by cases h
  publishing _ h := by cases h
  maker _ h := by rcases h with h | h <;> cases h
  someone h := by cases h
  alone _ _ h := by rcases h with h | h <;> cases h
  past _ h := by rcases h with h | h <;> cases h
  owner i := by simp [init]

variable [DecidableEq ι]

@[simp] theorem go_phase (s : State ι) (i : ι) (p : Phase) :
    (s.go i p).phase = Function.update s.phase i p := rfl

@[simp] theorem go_word (s : State ι) (i : ι) (p : Phase) : (s.go i p).word = s.word := rfl

@[simp] theorem go_made (s : State ι) (i : ι) (p : Phase) : (s.go i p).made = s.made := rfl

@[simp] theorem go_owner (s : State ι) (i : ι) (p : Phase) : (s.go i p).owner = s.owner := rfl

/-- A thread that neither leaves one of the places that matter nor comes to one. -/
theorem Inv.go {s : State ι} (h : Inv s) {i : ι} {p : Phase} (hfrom : ¬ Makes (s.phase i))
    (hto : ¬ Makes p) (hpast : Past p → s.word = .ready)
    (hin : s.phase i = .inside ↔ p = .inside) : Inv (s.go i p) := by
  have hmakes : ∀ j, Makes (Function.update s.phase i p j) → j ≠ i ∧ Makes (s.phase j) := by
    intro j hj
    by_cases hji : j = i
    · rw [hji, Function.update_self] at hj
      exact absurd hj hto
    · rw [Function.update_of_ne hji] at hj
      exact ⟨hji, hj⟩
  refine ⟨h.fresh, h.done, ?_, ?_, ?_, ?_, ?_, ?_, ?_⟩
  · intro j hj
    have hother := (hmakes j (.inl hj)).1
    rw [go_phase, Function.update_of_ne hother] at hj
    exact h.making j hj
  · intro j hj
    have hother := (hmakes j (.inr hj)).1
    rw [go_phase, Function.update_of_ne hother] at hj
    exact h.publishing j hj
  · intro j hj
    exact h.maker j (hmakes j hj).2
  · intro hword
    obtain ⟨j, hj⟩ := h.someone hword
    refine ⟨j, ?_⟩
    have hother : j ≠ i := by
      intro heq
      exact hfrom (heq ▸ hj)
    rw [go_phase, Function.update_of_ne hother]
    exact hj
  · intro j k hj hk
    exact h.alone j k (hmakes j hj).2 (hmakes k hk).2
  · intro j hj
    by_cases hji : j = i
    · rw [hji, go_phase, Function.update_self] at hj
      exact hpast hj
    · rw [go_phase, Function.update_of_ne hji] at hj
      exact h.past j hj
  · intro j
    by_cases hji : j = i
    · rw [hji, go_owner, go_phase, Function.update_self, h.owner i]
      exact hin
    · rw [go_owner, go_phase, Function.update_of_ne hji]
      exact h.owner j

section Step

variable {s : State ι} {i : ι}

theorem not_makes {p : Phase} (hmaking : p ≠ .making) (hpublishing : p ≠ .publishing) :
    ¬ Makes p := by
  rintro (h | h)
  · exact hmaking h
  · exact hpublishing h

theorem not_past {p : Phase} (hentering : p ≠ .entering) (hinside : p ≠ .inside) : ¬ Past p := by
  rintro (h | h)
  · exact hentering h
  · exact hinside h

theorem exchange_inv (h : Inv s) (hi : s.phase i = .exchanging) : Inv (exchange s i) := by
  have hfrom : ¬ Makes (s.phase i) := by
    rw [hi]
    exact not_makes (by decide) (by decide)
  unfold exchange
  cases hword : s.word with
  | untouched =>
    -- The first to look: no maker and nobody past it
    have hnone : ∀ j, ¬ Makes (s.phase j) := by
      intro j hj
      cases hword.symm.trans (h.maker j hj)
    have houtside : ∀ j, ¬ Past (s.phase j) := by
      intro j hj
      cases hword.symm.trans (h.past j hj)
    have honly : ∀ j, Makes (Function.update s.phase i .making j) → j = i := by
      intro j hj
      by_contra hji
      rw [Function.update_of_ne hji] at hj
      exact hnone j hj
    show Inv ({ s with word := .initialising }.go i .making)
    refine ⟨by rintro ⟨⟩, by rintro ⟨⟩, fun _ _ => h.fresh hword, ?_, fun _ _ => rfl, ?_, ?_, ?_, ?_⟩
    · intro j hj
      have hji := honly j (.inr hj)
      rw [go_phase, hji, Function.update_self] at hj
      cases hj
    · intro _
      exact ⟨i, .inl (by rw [go_phase, Function.update_self])⟩
    · intro j k hj hk
      exact (honly j hj).trans (honly k hk).symm
    · intro j hj
      by_cases hji : j = i
      · rw [go_phase, hji, Function.update_self] at hj
        exact absurd hj (not_past (by decide) (by decide))
      · rw [go_phase, Function.update_of_ne hji] at hj
        exact absurd hj (houtside j)
    · intro j
      by_cases hji : j = i
      · rw [hji, go_owner, go_phase, Function.update_self, h.owner i, hi]
        decide
      · rw [go_owner, go_phase, Function.update_of_ne hji]
        exact h.owner j
  | initialising =>
    refine h.go hfrom (not_makes (by decide) (by decide)) ?_ ?_
    · intro hpast
      exact absurd hpast (not_past (by decide) (by decide))
    · rw [hi]
      decide
  | ready =>
    refine h.go hfrom (not_makes (by decide) (by decide)) (fun _ => hword) ?_
    rw [hi]
    decide

theorem make_inv (h : Inv s) (hi : s.phase i = .making) :
    Inv ({ s with made := s.made + 1 }.go i .publishing) := by
  have hword := h.maker i (.inl hi)
  have hone : s.made + 1 = 1 := by rw [h.making i hi]
  have hothers : ∀ j, j ≠ i → ¬ Makes (s.phase j) := by
    intro j hji hj
    exact hji (h.alone j i hj (.inl hi))
  have honly : ∀ j, Makes (Function.update s.phase i .publishing j) → j = i := by
    intro j hj
    by_contra hji
    rw [Function.update_of_ne hji] at hj
    exact hothers j hji hj
  refine ⟨?_, ?_, ?_, fun _ _ => hone, fun _ _ => hword, ?_, ?_, ?_, ?_⟩
  · intro hfresh
    cases hword.symm.trans hfresh
  · intro hready
    cases hword.symm.trans hready
  · intro j hj
    have hji := honly j (.inl hj)
    rw [go_phase, hji, Function.update_self] at hj
    cases hj
  · intro _
    exact ⟨i, .inr (by rw [go_phase, Function.update_self])⟩
  · intro j k hj hk
    exact (honly j hj).trans (honly k hk).symm
  · intro j hj
    by_cases hji : j = i
    · rw [go_phase, hji, Function.update_self] at hj
      exact absurd hj (not_past (by decide) (by decide))
    · rw [go_phase, Function.update_of_ne hji] at hj
      exact h.past j hj
  · intro j
    by_cases hji : j = i
    · have howner := h.owner i
      rw [hi] at howner
      rw [hji, go_owner, go_phase, Function.update_self]
      exact howner.trans (by decide)
    · rw [go_owner, go_phase, Function.update_of_ne hji]
      exact h.owner j

theorem publish_inv (h : Inv s) (hi : s.phase i = .publishing) :
    Inv ({ s with word := .ready }.go i .entering) := by
  have hmade := h.publishing i hi
  have hnone : ∀ j, ¬ Makes (Function.update s.phase i .entering j) := by
    intro j hj
    by_cases hji : j = i
    · rw [hji, Function.update_self] at hj
      exact not_makes (by decide) (by decide) hj
    · rw [Function.update_of_ne hji] at hj
      exact hji (h.alone j i hj (.inr hi))
  refine ⟨by rintro ⟨⟩, fun _ => hmade, ?_, fun _ _ => hmade, ?_, by rintro ⟨⟩, ?_, fun _ _ => rfl, ?_⟩
  · intro j hj
    exact absurd (.inl hj) (hnone j)
  · intro j hj
    exact absurd hj (hnone j)
  · intro j _ hj
    exact absurd hj (hnone j)
  · intro j
    by_cases hji : j = i
    · have howner := h.owner i
      rw [hi] at howner
      rw [hji, go_owner, go_phase, Function.update_self]
      exact howner.trans (by decide)
    · rw [go_owner, go_phase, Function.update_of_ne hji]
      exact h.owner j

/-- The lock changes hands. -/
theorem owner_inv {owner : Option ι} {p : Phase} (h : Inv s) (hi : Past (s.phase i))
    (hp : ¬ Makes p) (howner : ∀ j, owner = some j ↔ Function.update s.phase i p j = .inside) :
    Inv ({ s with owner := owner }.go i p) := by
  have hword := h.past i hi
  have hnone : ∀ j, ¬ Makes (s.phase j) := by
    intro j hj
    cases hword.symm.trans (h.maker j hj)
  have hnone' : ∀ j, ¬ Makes (Function.update s.phase i p j) := by
    intro j hj
    by_cases hji : j = i
    · rw [hji, Function.update_self] at hj
      exact hp hj
    · rw [Function.update_of_ne hji] at hj
      exact hnone j hj
  refine ⟨h.fresh, h.done, ?_, ?_, ?_, ?_, ?_, fun _ _ => hword, howner⟩
  · intro j hj
    exact absurd (.inl hj) (hnone' j)
  · intro j hj
    exact absurd (.inr hj) (hnone' j)
  · intro j hj
    exact absurd hj (hnone' j)
  · intro hinitialising
    cases hword.symm.trans hinitialising
  · intro j _ hj
    exact absurd hj (hnone' j)

theorem step_inv {m : Move} {s' : State ι} (h : Inv s) (hstep : step s i m = some s') : Inv s' := by
  cases m with
  | acquire =>
    simp only [step, Option.ite_none_right_eq_some, Option.some.injEq] at hstep
    obtain ⟨hi, rfl⟩ := hstep
    refine h.go ?_ (not_makes (by decide) (by decide)) ?_ ?_
    · rw [hi]
      exact not_makes (by decide) (by decide)
    · intro hpast
      exact absurd hpast (not_past (by decide) (by decide))
    · rw [hi]
      decide
  | exchange =>
    simp only [step, Option.ite_none_right_eq_some, Option.some.injEq] at hstep
    obtain ⟨hi, rfl⟩ := hstep
    exact exchange_inv h hi
  | wake =>
    simp only [step, Option.ite_none_right_eq_some, Option.some.injEq] at hstep
    obtain ⟨hi, rfl⟩ := hstep
    refine h.go ?_ (not_makes (by decide) (by decide)) ?_ ?_
    · rw [hi]
      exact not_makes (by decide) (by decide)
    · intro hpast
      exact absurd hpast (not_past (by decide) (by decide))
    · rw [hi]
      decide
  | make =>
    simp only [step, Option.ite_none_right_eq_some, Option.some.injEq] at hstep
    obtain ⟨hi, rfl⟩ := hstep
    exact make_inv h hi
  | publish =>
    simp only [step, Option.ite_none_right_eq_some, Option.some.injEq] at hstep
    obtain ⟨hi, rfl⟩ := hstep
    exact publish_inv h hi
  | enter =>
    simp only [step, Option.ite_none_right_eq_some, Option.some.injEq] at hstep
    obtain ⟨⟨hi, hfree⟩, rfl⟩ := hstep
    refine owner_inv h (.inl hi) (not_makes (by decide) (by decide)) ?_
    intro j
    by_cases hji : j = i
    · rw [hji, Function.update_self]
      exact iff_of_true rfl rfl
    · -- The lock was free, so nobody else is inside
      rw [Function.update_of_ne hji, ← h.owner j, hfree]
      exact iff_of_false (fun heq => hji (Option.some.inj heq).symm) (by rintro ⟨⟩)
  | leave =>
    simp only [step, Option.ite_none_right_eq_some, Option.some.injEq] at hstep
    obtain ⟨hi, rfl⟩ := hstep
    refine owner_inv h (.inr hi) (not_makes (by decide) (by decide)) ?_
    intro j
    refine iff_of_false (by rintro ⟨⟩) ?_
    by_cases hji : j = i
    · rw [hji, Function.update_self]
      decide
    · rw [Function.update_of_ne hji]
      intro hj
      exact hji (h.exclusive hj hi)

theorem step_other {m : Move} {s' : State ι} {j : ι} (hstep : step s i m = some s')
    (hji : j ≠ i) : s'.phase j = s.phase j := by
  cases m with
  | exchange =>
    simp only [step, Option.ite_none_right_eq_some, Option.some.injEq] at hstep
    obtain ⟨-, rfl⟩ := hstep
    unfold exchange
    cases s.word <;> exact Function.update_of_ne hji _ _
  | _ =>
    simp only [step, Option.ite_none_right_eq_some, Option.some.injEq] at hstep
    obtain ⟨-, rfl⟩ := hstep
    exact Function.update_of_ne hji _ _

/-- The moves between coming to the lock and being inside. -/
theorem step_between {m : Move} {s' : State ι} (hm : m ≠ .acquire ∧ m ≠ .leave)
    (hstep : step s i m = some s') :
    s.phase i ≠ .outside ∧ s.phase i ≠ .inside ∧ s'.phase i ≠ .outside := by
  cases m with
  | acquire => exact absurd rfl hm.1
  | leave => exact absurd rfl hm.2
  | exchange =>
    simp only [step, Option.ite_none_right_eq_some, Option.some.injEq] at hstep
    obtain ⟨hi, rfl⟩ := hstep
    rw [hi]
    refine ⟨by decide, by decide, ?_⟩
    unfold exchange
    cases s.word <;> dsimp only <;> rw [go_phase, Function.update_self] <;> decide
  | enter =>
    simp only [step, Option.ite_none_right_eq_some, Option.some.injEq] at hstep
    obtain ⟨⟨hi, -⟩, rfl⟩ := hstep
    rw [hi, go_phase, Function.update_self]
    decide
  | _ =>
    simp only [step, Option.ite_none_right_eq_some, Option.some.injEq] at hstep
    obtain ⟨hi, rfl⟩ := hstep
    rw [hi, go_phase, Function.update_self]
    decide

theorem step_acquire {s' : State ι} (hstep : step s i .acquire = some s') :
    s.phase i = .outside ∧ s'.phase i = .exchanging := by
  simp only [step, Option.ite_none_right_eq_some, Option.some.injEq] at hstep
  obtain ⟨hi, rfl⟩ := hstep
  exact ⟨hi, Function.update_self i _ s.phase⟩

theorem step_leave {s' : State ι} (hstep : step s i .leave = some s') :
    s.phase i = .inside ∧ s'.phase i = .outside := by
  simp only [step, Option.ite_none_right_eq_some, Option.some.injEq] at hstep
  obtain ⟨hi, rfl⟩ := hstep
  exact ⟨hi, Function.update_self i _ s.phase⟩

end Step

/-! ## Progress -/

/-- How far a thread still is from being inside. -/
def Phase.distance : Phase → ℕ
  | .outside => 0
  | .exchanging => 4
  | .sleeping => 5
  | .making => 3
  | .publishing => 2
  | .entering => 1
  | .inside => 0

/-- A thread goes to sleep only while another is making the lock. -/
theorem vain_look {s s' : State ι} {i : ι} (h : Inv s) (hstep : step s i .exchange = some s')
    (hvain : s'.phase i = .sleeping) : ∃ j, j ≠ i ∧ Makes (s.phase j) := by
  simp only [step, Option.ite_none_right_eq_some, Option.some.injEq] at hstep
  obtain ⟨hi, rfl⟩ := hstep
  unfold exchange at hvain
  cases hword : s.word with
  | untouched =>
    rw [hword, go_phase, Function.update_self] at hvain
    cases hvain
  | initialising =>
    obtain ⟨j, hj⟩ := h.someone hword
    refine ⟨j, ?_, hj⟩
    rintro rfl
    rw [hi] at hj
    exact not_makes (by decide) (by decide) hj
  | ready =>
    rw [hword, go_phase, Function.update_self] at hvain
    cases hvain

/-- While anyone wants in, someone is in, or has a step to take that brings it nearer;
and to wake up again is such a step only once the lock is there. -/
theorem progress {s : State ι} (h : Inv s) {i : ι} (hi : s.phase i ≠ .outside) :
    (∃ j, s.phase j = .inside) ∨
      ∃ j m s', step s j m = some s' ∧ (s'.phase j).distance < (s.phase j).distance ∧
        (m = .wake → s.word ≠ .initialising) := by
  have hmaker : s.word = .initialising → ∃ j m s', step s j m = some s' ∧
      (s'.phase j).distance < (s.phase j).distance ∧ m ≠ .wake := by
    intro hword
    obtain ⟨j, hj | hj⟩ := h.someone hword
    · refine ⟨j, .make, _, if_pos hj, ?_, by decide⟩
      rw [go_phase, Function.update_self, hj]
      decide
    · refine ⟨j, .publish, _, if_pos hj, ?_, by decide⟩
      rw [go_phase, Function.update_self, hj]
      decide
  by_cases hword : s.word = .initialising
  · obtain ⟨j, m, s', hstep, hless, hwake⟩ := hmaker hword
    exact .inr ⟨j, m, s', hstep, hless, fun heq => absurd heq hwake⟩
  · cases hphase : s.phase i with
    | outside => exact absurd hphase hi
    | exchanging =>
      refine .inr ⟨i, .exchange, _, if_pos hphase, ?_, by rintro ⟨⟩⟩
      unfold exchange
      cases hw : s.word with
      | untouched =>
        rw [go_phase, Function.update_self, hphase]
        decide
      | initialising => exact absurd hw hword
      | ready =>
        rw [go_phase, Function.update_self, hphase]
        decide
    | sleeping =>
      refine .inr ⟨i, .wake, _, if_pos hphase, ?_, fun _ => hword⟩
      rw [go_phase, Function.update_self, hphase]
      decide
    | making => exact absurd (h.maker i (.inl hphase)) hword
    | publishing => exact absurd (h.maker i (.inr hphase)) hword
    | entering =>
      cases howner : s.owner with
      | some j => exact .inl ⟨j, (h.owner j).mp howner⟩
      | none =>
        refine .inr ⟨i, .enter, _, if_pos ⟨hphase, howner⟩, ?_, by rintro ⟨⟩⟩
        rw [go_phase, Function.update_self, hphase]
        decide
    | inside => exact .inl ⟨i, hphase⟩

end LazyLock
