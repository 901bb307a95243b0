import Mathlib.Tactic

/-!
# Windowed maximum

`BitrateController::max_filter` (wivrn/bitrate_controller.h): a three-sample filter
for the maximum of what was fed in over a window. Times are nanoseconds, values
are rationals in place of doubles.
-/

namespace WivrnNx

/-- `max_filter`. -/
structure MaxFilter where
  /-- `s[0]`, `s[1]`, `s[2]`: when, and how much. -/
  s0 : ℤ × ℚ := (0, 0)
  s1 : ℤ × ℚ := (0, 0)
  s2 : ℤ × ℚ := (0, 0)
  count : ℕ := 0
deriving DecidableEq, Repr

namespace MaxFilter

def valid (f : MaxFilter) : Bool := f.count ≠ 0

/-- `get`. Meaningless when not valid. -/
def get (f : MaxFilter) : ℚ := f.s0.2

/-- `update`, behind the first test: the sub-window maxima follow the newest value,
and are promoted when the maximum has aged out. -/
def advance (f : MaxFilter) (value : ℚ) (now window : ℤ) : MaxFilter :=
  let e := (now, value)
  let f :=
    if f.s1.2 ≤ value then { f with s1 := e, s2 := e }
    else if f.s2.2 ≤ value then { f with s2 := e }
    else f
  if window < now - f.s0.1 then
    if window < now - f.s1.1 then { f with s0 := f.s2, s1 := e, s2 := e }
    else { f with s0 := f.s1, s1 := f.s2, s2 := e }
  else if f.s1.1 = f.s0.1 ∧ window / 4 < now - f.s1.1 then { f with s1 := e, s2 := e }
  else if f.s2.1 = f.s1.1 ∧ window / 2 < now - f.s2.1 then { f with s2 := e }
  else f

/-- `update`. -/
def update (f : MaxFilter) (value : ℚ) (now window : ℤ) : MaxFilter :=
  let f := { f with count := f.count + 1 }
  -- First sample, a new extremum, or everything on record is stale
  if f.count = 1 ∨ f.s0.2 ≤ value ∨ window < now - f.s2.1 then
    { f with s0 := (now, value), s1 := (now, value), s2 := (now, value) }
  else f.advance value now window

/-- `cap`: what the filter remembers has just been proven wrong. -/
def cap (f : MaxFilter) (value : ℚ) : MaxFilter :=
  let capped (e : ℤ × ℚ) : ℤ × ℚ := if value ≤ e.2 then (e.1, value) else e
  { f with s0 := capped f.s0, s1 := capped f.s1, s2 := capped f.s2 }

/-- A cap leaves the smaller of the two. -/
theorem get_cap (f : MaxFilter) (value : ℚ) : (f.cap value).get = min value f.get := by
  unfold cap get
  dsimp only
  split
  · rename_i hle
    exact (min_eq_left hle).symm
  · rename_i hgt
    exact (min_eq_right (not_le.mp hgt).le).symm

end MaxFilter

end WivrnNx
