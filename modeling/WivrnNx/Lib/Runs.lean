import Mathlib.Tactic

/-!
# Runs of a partial step function

A component is a step function `step : σ → α → Option σ`: an action that is
disabled in a state gives `none`. This file packages the three inductions that
every development over such a component needs:

- `run_invariant`: what every step preserves holds at the end of every run;
- `run_invariant_along`: the same when only the steps that meet a side
  condition preserve it;
- `along_of_invariant` / `along_imp` / `along_iff` / `along_after_iff`: a property of
  the single steps, carried to every step of a run.
-/

namespace Runs

variable {σ α : Type*}

/-- The state after a list of actions, `none` as soon as one is disabled. -/
def run (step : σ → α → Option σ) : σ → List α → Option σ
  | s, [] => some s
  | s, a :: as => (step s a).bind fun s' => run step s' as

/-- A total step function, as one that is never disabled. -/
def always (f : σ → α → σ) (s : σ) (a : α) : Option σ := some (f s a)

@[simp] theorem run_nil (step : σ → α → Option σ) (s : σ) : run step s [] = some s := rfl

@[simp] theorem always_eq (f : σ → α → σ) (s : σ) (a : α) : always f s a = some (f s a) := rfl

theorem run_cons (step : σ → α → Option σ) (s : σ) (a : α) (as : List α) :
    run step s (a :: as) = (step s a).bind fun s' => run step s' as := rfl

theorem run_cons_some {step : σ → α → Option σ} {s s' : σ} {a : α} {as : List α}
    (h : run step s (a :: as) = some s') :
    ∃ m, step s a = some m ∧ run step m as = some s' :=
  Option.bind_eq_some_iff.mp h

/-- Runs of a total step function are folds. -/
theorem run_always (f : σ → α → σ) (s : σ) (as : List α) :
    run (always f) s as = some (as.foldl f s) := by
  induction as generalizing s with
  | nil => rfl
  | cons a as ih => simpa [run_cons] using ih (f s a)

/-! ## Invariants -/

/-- What holds at the start and is preserved by every step holds at the end. -/
theorem run_invariant {step : σ → α → Option σ} {Inv : σ → Prop}
    (hstep : ∀ s a s', Inv s → step s a = some s' → Inv s') :
    ∀ (as : List α) (s s' : σ), Inv s → run step s as = some s' → Inv s' := by
  intro as
  induction as with
  | nil =>
    intro s s' hs h
    cases h
    exact hs
  | cons a as ih =>
    intro s s' hs h
    obtain ⟨m, hm, hrest⟩ := run_cons_some h
    exact ih m s' (hstep s a m hs hm) hrest

/-! ## Properties of the single steps of a run -/

/-- `P` holds of every step that the run takes; a disabled action ends it. -/
def Along (step : σ → α → Option σ) (P : σ → α → σ → Prop) : σ → List α → Prop
  | _, [] => True
  | s, a :: as =>
    match step s a with
    | none => True
    | some s' => P s a s' ∧ Along step P s' as

instance Along.decidable (step : σ → α → Option σ) (P : σ → α → σ → Prop)
    [∀ s a s', Decidable (P s a s')] : ∀ s as, Decidable (Along step P s as)
  | _, [] => inferInstanceAs (Decidable True)
  | s, a :: as =>
    match h : step s a with
    | none => isTrue (by simp [Along, h])
    | some s' =>
      have := Along.decidable step P s' as
      decidable_of_iff (P s a s' ∧ Along step P s' as) (by simp [Along, h])

@[simp] theorem along_nil (step : σ → α → Option σ) (P : σ → α → σ → Prop) (s : σ) :
    Along step P s [] := trivial

theorem along_cons_none {step : σ → α → Option σ} {P : σ → α → σ → Prop} {s : σ} {a : α}
    {as : List α} (h : step s a = none) : Along step P s (a :: as) := by
  simp [Along, h]

theorem along_cons_some {step : σ → α → Option σ} {P : σ → α → σ → Prop} {s s' : σ} {a : α}
    {as : List α} (h : step s a = some s') :
    Along step P s (a :: as) ↔ P s a s' ∧ Along step P s' as := by
  simp [Along, h]

/-- Two step properties that agree wherever an invariant holds agree along
every run that starts in it. -/
theorem along_iff {step : σ → α → Option σ} {Inv : σ → Prop} {P Q : σ → α → σ → Prop}
    (hstep : ∀ s a s', Inv s → step s a = some s' → Inv s')
    (hPQ : ∀ s a s', Inv s → step s a = some s' → (P s a s' ↔ Q s a s')) :
    ∀ (as : List α) (s : σ), Inv s → (Along step P s as ↔ Along step Q s as) := by
  intro as
  induction as with
  | nil => simp
  | cons a as ih =>
    intro s hs
    cases h : step s a with
    | none => simp [along_cons_none h]
    | some m =>
      rw [along_cons_some h, along_cons_some h, hPQ s a m hs h, ih m (hstep s a m hs h)]

/-- Two step properties that agree at every step agree along every run. -/
theorem along_congr {step : σ → α → Option σ} {P Q : σ → α → σ → Prop}
    (hPQ : ∀ s a s', step s a = some s' → (P s a s' ↔ Q s a s')) (as : List α) (s : σ) :
    Along step P s as ↔ Along step Q s as := by
  have hall : ∀ s a s', True → step s a = some s' → (P s a s' ↔ Q s a s') := by
    intro s a s' _ h
    exact hPQ s a s' h
  exact along_iff (fun _ _ _ _ _ => trivial) hall as s trivial

/-- A state property `F`, decided at each step that starts where it holds by `Q`:
it holds after every step of a run exactly when every step meets `Q`. -/
theorem along_after_iff {step : σ → α → Option σ} {Inv F : σ → Prop} {Q : σ → α → σ → Prop}
    (hstep : ∀ s a s', Inv s → F s → step s a = some s' → Inv s' ∧ (F s' ↔ Q s a s')) :
    ∀ (as : List α) (s : σ), Inv s → F s →
      (Along step (fun _ _ s' => F s') s as ↔ Along step Q s as) := by
  intro as
  induction as with
  | nil => simp
  | cons a as ih =>
    intro s hs hF
    cases h : step s a with
    | none => simp [along_cons_none h]
    | some m =>
      rcases hstep s a m hs hF h with ⟨hm, hiff⟩
      rw [along_cons_some h, along_cons_some h, ← hiff]
      -- After a step that breaks `F` both sides are false already
      constructor
      · rintro ⟨hFm, hrest⟩
        exact ⟨hFm, (ih m hm hFm).mp hrest⟩
      · rintro ⟨hFm, hrest⟩
        exact ⟨hFm, (ih m hm hFm).mpr hrest⟩

/-- A step property that holds wherever an invariant does holds along every run
that starts in it. -/
theorem along_of_invariant {step : σ → α → Option σ} {Inv : σ → Prop} {P : σ → α → σ → Prop}
    (hstep : ∀ s a s', Inv s → step s a = some s' → Inv s')
    (hP : ∀ s a s', Inv s → step s a = some s' → P s a s') :
    ∀ (as : List α) (s : σ), Inv s → Along step P s as := by
  intro as
  induction as with
  | nil => simp
  | cons a as ih =>
    intro s hs
    cases h : step s a with
    | none => exact along_cons_none h
    | some m => exact (along_cons_some h).mpr ⟨hP s a m hs h, ih m (hstep s a m hs h)⟩

/-- An invariant that only the steps meeting `G` preserve holds at the end of a
run all of whose steps meet `G`. -/
theorem run_invariant_along {step : σ → α → Option σ} {Inv : σ → Prop} {G : σ → α → σ → Prop}
    (hstep : ∀ s a s', Inv s → G s a s' → step s a = some s' → Inv s') :
    ∀ (as : List α) (s s' : σ), Inv s → Along step G s as → run step s as = some s' →
      Inv s' := by
  intro as
  induction as with
  | nil =>
    intro s s' hs _ h
    cases h
    exact hs
  | cons a as ih =>
    intro s s' hs hG h
    obtain ⟨m, hm, hrest⟩ := run_cons_some h
    obtain ⟨hg, hG'⟩ := (along_cons_some hm).mp hG
    exact ih m s' (hstep s a m hs hg hm) hG' hrest

/-- A step property that follows, in the states of an invariant, from one that the
run's steps have: the steps that have it keep the invariant. -/
theorem along_imp {step : σ → α → Option σ} {Inv : σ → Prop} {G P : σ → α → σ → Prop}
    (hstep : ∀ s a s', Inv s → G s a s' → step s a = some s' → Inv s' ∧ P s a s') :
    ∀ (as : List α) (s : σ), Inv s → Along step G s as → Along step P s as := by
  intro as
  induction as with
  | nil => simp
  | cons a as ih =>
    intro s hs hG
    cases h : step s a with
    | none => exact along_cons_none h
    | some m =>
      rw [along_cons_some h] at hG ⊢
      obtain ⟨hm, hP⟩ := hstep s a m hs hG.1 h
      exact ⟨hP, ih m hm hG.2⟩

end Runs
