import Mathlib.Tactic

/-!
# Numerals

A numeral of `Fin n` needs that `n` is not zero, and one of a ring that it is at least two. Where
a proof of it is part of a definition, it is one of these.
-/

namespace Numerals

scoped instance neZero_two : NeZero 2 := ⟨by decide⟩
scoped instance neZero_three : NeZero 3 := ⟨by decide⟩
scoped instance neZero_four : NeZero 4 := ⟨by decide⟩

scoped instance atLeastTwo_two : Nat.AtLeastTwo 2 := ⟨by decide⟩
scoped instance atLeastTwo_four : Nat.AtLeastTwo 4 := ⟨by decide⟩

end Numerals
