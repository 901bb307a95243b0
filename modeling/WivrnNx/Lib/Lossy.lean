import WivrnNx.Lib.Runs

/-!
# Stages that may drop

A sequence on its way through stages: each may drop some of what it holds, none adds,
repeats or overtakes.

- `Left`: what is left of a list behind one stage;
- `run_sublist`, `run_all`: what is left behind a run, and that it is everything if no step
  dropped.
-/

namespace Lossy

variable {α β : Type*}

/-- `l'` is what is left of `l`, and all of it unless something was `lost`. -/
structure Left (lost : Prop) (l l' : List α) : Prop where
  sublist : l'.Sublist l
  all : ¬ lost → l' = l

theorem Left.same {lost : Prop} {l l' : List α} (h : l' = l) : Left lost l l' := by
  refine ⟨?_, fun _ => h⟩
  rw [h]

theorem Left.dropped {lost : Prop} {l l' : List α} (hlost : lost) (h : l'.Sublist l) :
    Left lost l l' :=
  ⟨h, fun hnot => absurd hlost hnot⟩

/-- A stage that keeps everything or else is where it was lost. -/
theorem Left.of_or {lost : Prop} {l l' : List α} (h : l' = l ∨ (lost ∧ l'.Sublist l)) :
    Left lost l l' := by
  rcases h with h | ⟨hlost, h⟩
  · exact .same h
  · exact .dropped hlost h

theorem Left.append {lost : Prop} {l l' m m' : List α} (h : Left lost l l') (h' : Left lost m m') :
    Left lost (l ++ m) (l' ++ m') := by
  refine ⟨h.sublist.append h'.sublist, ?_⟩
  intro hnot
  rw [h.all hnot, h'.all hnot]

theorem Left.filterMap {lost : Prop} {l l' : List α} (h : Left lost l l') (f : α → Option β) :
    Left lost (l.filterMap f) (l'.filterMap f) := by
  refine ⟨h.sublist.filterMap f, ?_⟩
  intro hnot
  rw [h.all hnot]

variable {σ γ : Type*} {step : σ → γ → Option σ} {Inv : σ → Prop} {offered held : σ → List α}
  {lost : σ → γ → σ → Prop}

/-- Every step offers some more, and holds what is left of that behind what it held. -/
def Steps (step : σ → γ → Option σ) (Inv : σ → Prop) (offered held : σ → List α)
    (lost : σ → γ → σ → Prop) : Prop :=
  ∀ s a s', Inv s → step s a = some s' → Inv s' ∧ ∃ more, offered s' = offered s ++ more ∧
    Left (lost s a s') (held s ++ more) (held s')

theorem run_sublist (hstep : Steps step Inv offered held lost) {as : List γ} {s s' : σ}
    (hs : Inv s) (hheld : held s = offered s) (h : Runs.run step s as = some s') :
    (held s').Sublist (offered s') := by
  have hkeep : ∀ s a s', (Inv s ∧ (held s).Sublist (offered s)) → step s a = some s' →
      Inv s' ∧ (held s').Sublist (offered s') := by
    intro s a s' hs hmoved
    obtain ⟨hinv, more, hmore, hleft⟩ := hstep s a s' hs.1 hmoved
    refine ⟨hinv, hleft.sublist.trans ?_⟩
    rw [hmore]
    exact hs.2.append_right more
  refine (Runs.run_invariant hkeep as s s' ⟨hs, ?_⟩ h).2
  rw [hheld]

theorem run_all (hstep : Steps step Inv offered held lost) {as : List γ} {s s' : σ}
    (hs : Inv s) (hheld : held s = offered s)
    (hlost : Runs.Along step (fun s a s' => ¬ lost s a s') s as)
    (h : Runs.run step s as = some s') : held s' = offered s' := by
  have hkeep : ∀ s a s', (Inv s ∧ held s = offered s) → ¬ lost s a s' → step s a = some s' →
      Inv s' ∧ held s' = offered s' := by
    intro s a s' hs hnot hmoved
    obtain ⟨hinv, more, hmore, hleft⟩ := hstep s a s' hs.1 hmoved
    refine ⟨hinv, ?_⟩
    rw [hleft.all hnot, hmore, hs.2]
  exact (Runs.run_invariant_along hkeep as s s' ⟨hs, hheld⟩ hlost h).2

end Lossy
