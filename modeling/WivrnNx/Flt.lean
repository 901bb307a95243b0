import Mathlib.Tactic

/-!
# Floats that are only compared and copied

A `float` field that the modelled code stores, compares or passes on. The finite
values are rationals; what matters is that the comparisons are the IEEE ones,
so that a NaN is neither above `1` nor equal to itself.
-/

namespace WivrnNx

/-- A `float`: finite, infinite or NaN. -/
inductive Flt where
  | val (q : ℚ)
  | posInf
  | negInf
  | nan
deriving DecidableEq, Repr

namespace Flt

/-- IEEE `a < b`. -/
def lt : Flt → Flt → Bool
  | .val a, .val b => decide (a < b)
  | .val _, .posInf => true
  | .negInf, .val _ => true
  | .negInf, .posInf => true
  | _, _ => false

/-- IEEE `a == b`. -/
def beq : Flt → Flt → Bool
  | .nan, _ => false
  | a, b => decide (a = b)

/-- `f > 1.f`, the test every refresh rate of a packet has to pass. -/
def aboveOne (f : Flt) : Bool := lt (.val 1) f

/-- Neither infinite nor NaN. -/
def Finite (f : Flt) : Prop := ∃ q, f = .val q

theorem finite_val (q : ℚ) : (Flt.val q).Finite := ⟨q, rfl⟩

@[simp] theorem lt_irrefl (f : Flt) : lt f f = false := by
  cases f <;> simp [lt]

end Flt

end WivrnNx
