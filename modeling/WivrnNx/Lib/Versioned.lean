import Mathlib.Tactic

/-!
# Versioned values

A value that is relayed by its latest state: the writer counts its changes, a
reader remembers the count of the state it has.

- `Tracks`: a reader's copy is current whenever its count is;
- `Tracks.moves`, `Tracks.read`: what a change and a look keep of it.
-/

/-- A value and the number of its changes. -/
structure Versioned (α : Type*) where
  value : α
  gen : ℕ

namespace Versioned

variable {α : Type*}

/-- A reader with this count and this copy is never wrong about being current. -/
structure Tracks (v : Versioned α) (seen : ℕ) (copy : α) : Prop where
  le : seen ≤ v.gen
  current : seen = v.gen → copy = v.value

/-- The value was left alone, or its count moved. -/
def Moves (v v' : Versioned α) : Prop := v' = v ∨ v'.gen = v.gen + 1

/-- A change makes every reader's count an old one. -/
theorem Tracks.moves {v v' : Versioned α} {seen : ℕ} {copy : α} (h : v.Tracks seen copy)
    (hm : v.Moves v') : v'.Tracks seen copy := by
  rcases hm with rfl | hgen
  · exact h
  · have hle := h.le
    exact ⟨by omega, fun heq => by omega⟩

/-- A reader that looks has the value, whether it took it now or had it. -/
theorem Tracks.read {v : Versioned α} {seen : ℕ} {copy : α} (h : v.Tracks seen copy) :
    (if seen = v.gen then copy else v.value) = v.value := by
  split
  · exact h.current ‹_›
  · rfl

/-- A reader that has the value tracks it. -/
theorem Tracks.self (v : Versioned α) : v.Tracks v.gen v.value := ⟨le_rfl, fun _ => rfl⟩

end Versioned
