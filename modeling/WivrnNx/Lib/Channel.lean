import Mathlib.Tactic

/-!
# A channel in one direction

First in, first out, with a record of everything that went in and came out. What was taken
and what is still in flight make up what was sent: the structure carries that as a field, so
that every operation has to keep it and no user has to prove it again.
-/

/-- A channel, with what was put into it and taken out of it so far. -/
structure Channel (α : Type*) where
  sent : List α
  taken : List α
  flight : List α
  accounted : taken ++ flight = sent

namespace Channel

variable {α : Type*}

def empty : Channel α := ⟨[], [], [], rfl⟩

def push (c : Channel α) (l : List α) : Channel α where
  sent := c.sent ++ l
  taken := c.taken
  flight := c.flight ++ l
  accounted := by rw [← List.append_assoc, c.accounted]

/-- Takes the oldest one, if there is one. -/
def pop (c : Channel α) : Channel α where
  sent := c.sent
  taken := c.taken ++ c.flight.take 1
  flight := c.flight.drop 1
  accounted := by rw [List.append_assoc, List.take_append_drop, c.accounted]

@[simp] theorem push_nil (c : Channel α) : c.push [] = c := by
  simp [push]

@[simp] theorem push_sent (c : Channel α) (l : List α) : (c.push l).sent = c.sent ++ l := rfl

@[simp] theorem push_taken (c : Channel α) (l : List α) : (c.push l).taken = c.taken := rfl

@[simp] theorem pop_sent (c : Channel α) : c.pop.sent = c.sent := rfl

theorem pop_taken (c : Channel α) {a : α} (h : c.flight.head? = some a) :
    c.pop.taken = c.taken ++ [a] := by
  change c.taken ++ c.flight.take 1 = _
  obtain ⟨rest, hrest⟩ := List.head?_eq_some_iff.mp h
  rw [hrest]
  rfl

/-- What was taken came first. -/
theorem taken_prefix (c : Channel α) : c.taken <+: c.sent := ⟨c.flight, c.accounted⟩

/-- The next one to be taken, with what was taken before it. -/
theorem next_prefix (c : Channel α) {a : α} (h : c.flight.head? = some a) :
    c.taken ++ [a] <+: c.sent := by
  rw [← pop_taken c h]
  exact c.pop.taken_prefix

end Channel
