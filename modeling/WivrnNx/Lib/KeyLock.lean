import Mathlib.Tactic

/-!
# Key-passing locks

A lock that is released *with* a key and can only be acquired with the key it
was last released with. Parties hand a resource to each other by the key they
release it with. Acquiring may also time out, which the users of this file model
by not calling `acquire`.

- `KeyLock.acquire` / `KeyLock.release`: the two operations;
- `KeyLock.Holds`: at most one party does;
- `KeyLock.Holds.acquire` and `KeyLock.Holds.release`: what an operation of one
  party leaves to the others.
-/

/-- The state of a key-passing lock over parties `ρ` and keys `κ`. -/
inductive KeyLock (ρ κ : Type*) where
  | free (key : κ)
  | held (by_ : ρ)
deriving DecidableEq, Repr

namespace KeyLock

variable {ρ κ : Type*} [DecidableEq ρ] [DecidableEq κ]

/-- `p` takes a lock that was released with `key`; `none` is a failed attempt. -/
def acquire (m : KeyLock ρ κ) (p : ρ) (key : κ) : Option (KeyLock ρ κ) :=
  if m = free key then some (held p) else none

/-- `p` gives a lock it holds back with `key`; a lock it does not hold is left
alone. -/
def release (m : KeyLock ρ κ) (p : ρ) (key : κ) : KeyLock ρ κ :=
  if m = held p then free key else m

/-- `p` holds the lock. -/
def Holds (m : KeyLock ρ κ) (p : ρ) : Prop := m = held p

instance (m : KeyLock ρ κ) (p : ρ) : Decidable (m.Holds p) :=
  inferInstanceAs (Decidable (m = held p))

omit [DecidableEq ρ] [DecidableEq κ] in
/-- Mutual exclusion. -/
theorem Holds.unique {m : KeyLock ρ κ} {p q : ρ} (hp : m.Holds p) (hq : m.Holds q) : p = q := by
  have h : held p = held q := hp.symm.trans hq
  injection h

/-- A party that holds the lock keeps everybody else out. -/
theorem Holds.acquire_none {m : KeyLock ρ κ} {p q : ρ} {key : κ} (hp : m.Holds p) :
    m.acquire q key = none := by
  rw [hp, acquire, if_neg (by simp)]

/-- Another party's release does not take the lock from its holder. -/
theorem Holds.release {m : KeyLock ρ κ} {p q : ρ} {key : κ} (hp : m.Holds p) (hne : q ≠ p) :
    (m.release q key).Holds p := by
  rw [hp, KeyLock.release, if_neg (by simpa using hne.symm)]
  rfl

end KeyLock
