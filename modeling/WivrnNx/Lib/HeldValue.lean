import Mathlib.Tactic

/-!
# A value that is held while its source is not to be trusted

A stream of readings, each missing, loose or tracked. `HeldValue.step` keeps the last
reading it took; with `hold` it takes no loose reading once a tracked one has been
there.

- `tracked_run`, `seen_run`: what the two flags say about the readings so far;
- `forall_run`: what is true of the readings is true of the value;
- `value_run_of_hold`: a value that is always held is the latest tracked reading.
-/

/-- One reading of the source. -/
inductive Reading (α : Type*) where
  | missing
  | loose (value : α)
  | tracked (value : α)
deriving DecidableEq, Repr

namespace Reading

variable {α : Type*}

def value? : Reading α → Option α
  | .missing => none
  | .loose v => some v
  | .tracked v => some v

def tracked? : Reading α → Option α
  | .tracked v => some v
  | _ => none

end Reading

/-- The value, whether there was any reading, and whether there was a tracked one. -/
structure HeldValue (α : Type*) where
  value : α
  seen : Bool := false
  everTracked : Bool := false
deriving DecidableEq, Repr

namespace HeldValue

variable {α : Type*}

def step (h : HeldValue α) (hold : Bool) : Reading α → HeldValue α
  | .missing => h
  | .loose v => if hold && h.everTracked then h else { h with value := v, seen := true }
  | .tracked v => { value := v, seen := true, everTracked := true }

/-- The readings, each with whether it was to be held back. -/
def run (h : HeldValue α) (readings : List (Bool × Reading α)) : HeldValue α :=
  readings.foldl (fun h r => h.step r.1 r.2) h

@[simp] theorem run_nil (h : HeldValue α) : h.run [] = h := rfl

@[simp] theorem run_append_singleton (h : HeldValue α) (readings : List (Bool × Reading α))
    (r : Bool × Reading α) : h.run (readings ++ [r]) = (h.run readings).step r.1 r.2 := by
  rw [run, List.foldl_append]
  rfl

theorem run_append (h : HeldValue α) (first rest : List (Bool × Reading α)) :
    h.run (first ++ rest) = (h.run first).run rest :=
  List.foldl_append

/-! ## The flags -/

theorem step_everTracked (h : HeldValue α) (hold : Bool) (r : Reading α) :
    (h.step hold r).everTracked = (h.everTracked || r.tracked?.isSome) := by
  cases r with
  | missing => exact (Bool.or_false _).symm
  | loose v =>
    rw [step]
    split <;> exact (Bool.or_false _).symm
  | tracked v => exact (Bool.or_true _).symm

theorem step_seen {h : HeldValue α} (hs : h.seen = true) (hold : Bool) (r : Reading α) :
    (h.step hold r).seen = true := by
  cases r with
  | missing => exact hs
  | loose v =>
    rw [step]
    split
    · exact hs
    · rfl
  | tracked v => rfl

/-- A tracked reading was there, or is among these. -/
theorem tracked_run (h : HeldValue α) (readings : List (Bool × Reading α)) :
    (h.run readings).everTracked = true ↔
      h.everTracked = true ∨ ∃ r ∈ readings, r.2.tracked?.isSome = true := by
  induction readings generalizing h with
  | nil => simp
  | cons r readings ih =>
    show ((h.step r.1 r.2).run readings).everTracked = true ↔ _
    rw [ih, step_everTracked, Bool.or_eq_true, List.exists_mem_cons_iff, or_assoc]

/-- What has been seen stays seen. -/
theorem seen_run {h : HeldValue α} (hs : h.seen = true) (readings : List (Bool × Reading α)) :
    (h.run readings).seen = true := by
  induction readings generalizing h with
  | nil => exact hs
  | cons r readings ih => exact ih (step_seen hs r.1 r.2)

/-! ## The value -/

theorem step_value_of_tracked {h : HeldValue α} {hold : Bool} {r : Reading α} {v : α}
    (hr : r.tracked? = some v) : (h.step hold r).value = v := by
  cases r with
  | missing => cases hr
  | loose w => cases hr
  | tracked w =>
    cases hr
    rfl

/-- With `hold`, only a tracked reading moves a value that has been tracked. -/
theorem step_value_of_untracked {h : HeldValue α} {r : Reading α} (hr : r.tracked? = none)
    (ht : h.everTracked = true) : (h.step true r).value = h.value := by
  cases r with
  | missing => rfl
  | loose v => rw [step, ht, Bool.and_self, if_pos rfl]
  | tracked v => cases hr

/-- What holds of the value and of every reading holds of the value afterwards. -/
theorem forall_run {P : α → Prop} {h : HeldValue α} {readings : List (Bool × Reading α)}
    (hstart : P h.value) (hall : ∀ r ∈ readings, ∀ v, r.2.value? = some v → P v) :
    P (h.run readings).value := by
  induction readings generalizing h with
  | nil => exact hstart
  | cons r readings ih =>
    rw [List.forall_mem_cons] at hall
    refine ih ?_ hall.2
    show P (h.step r.1 r.2).value
    cases hr : r.2 with
    | missing => exact hstart
    | loose v =>
      rw [step]
      split
      · exact hstart
      · exact hall.1 v (by rw [hr]; rfl)
    | tracked v => exact hall.1 v (by rw [hr]; rfl)

/-- Held since a tracked reading, the value is that reading. -/
theorem value_run_of_hold {h : HeldValue α} {first rest : List (Bool × Reading α)}
    {r : Bool × Reading α} {v : α} (hr : r.2.tracked? = some v)
    (hrest : ∀ x ∈ rest, x.1 = true ∧ x.2.tracked? = none) :
    (h.run (first ++ r :: rest)).value = v := by
  have hheld : ∀ h : HeldValue α, h.everTracked = true → h.value = v →
      (h.run rest).value = v := by
    induction rest with
    | nil => exact fun _ _ hv => hv
    | cons x rest ih =>
      intro h ht hv
      rw [List.forall_mem_cons] at hrest
      refine ih hrest.2 (h.step x.1 x.2) ?_ ?_
      · rw [step_everTracked, ht, Bool.true_or]
      · rw [hrest.1.1, step_value_of_untracked hrest.1.2 ht]
        exact hv
  rw [run_append]
  refine hheld _ ?_ (step_value_of_tracked hr)
  rw [step_everTracked, hr]
  exact Bool.or_true _

end HeldValue
