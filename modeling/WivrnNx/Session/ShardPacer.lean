import Mathlib.Tactic

/-!
# Leaky-bucket schedule for one frame's shards

wivrn/shard_pacer.h: `ShardPacer`, the schedule of one frame, and `PacingSlot`,
the window that the frames of one slot share. Times are nanoseconds. The window
fraction is a rational in place of a float.
-/

namespace WivrnNx

/-- `ShardPacer`. A default one never pauses. -/
structure ShardPacer where
  start : ℤ := 0
  budget : ℤ := 0
  total : ℕ := 0
  nextGroup : ℕ := 12288
deriving DecidableEq, Repr

namespace ShardPacer

/-- Bytes handed to the kernel back to back between two pauses. -/
def groupBytes : ℕ := 12288

/-- Below this a pause is not worth taking (150 µs). -/
def minSleepNs : ℤ := 150000

/-- Hard ceiling on the window fraction. -/
def maxWindow : ℚ := 1 / 2

/-- `ShardPacer(start_ns, budget_ns, total_bytes)`. -/
def make (startNs budgetNs : ℤ) (totalBytes : ℕ) : ShardPacer :=
  { start := startNs, budget := max budgetNs 0, total := totalBytes }

/-- False when there is nothing to spread. -/
def active (p : ShardPacer) : Bool := 0 < p.budget ∧ groupBytes < p.total

/-- Absolute time at which the byte at `offset` may go out. The product is a
64-bit unsigned one. -/
def deadline (p : ShardPacer) (offset : ℕ) : ℤ :=
  if ¬ p.active then p.start
  else if p.total ≤ offset then p.start + p.budget
  else p.start + ((p.budget.toNat * offset % 2 ^ 64 / p.total : ℕ) : ℤ)

/-- Called after every shard with the bytes sent so far: the time the next shard
may go out at, or nothing to keep sending back to back. -/
def waitUntil (p : ShardPacer) (sentBytes : ℕ) (now : ℤ) : ShardPacer × Option ℤ :=
  if ¬ p.active ∨ sentBytes < p.nextGroup ∨ p.total ≤ sentBytes then (p, none)
  else
    -- Whole groups are skipped rather than paused for one by one
    let p := { p with nextGroup := (sentBytes / groupBytes + 1) * groupBytes }
    let at' := p.deadline sentBytes
    if at' - now < minSleepNs then (p, none) else (p, some at')

/-- A pause is never shorter than the minimum sleep. -/
theorem minSleep_le_of_waitUntil {p p' : ShardPacer} {sentBytes : ℕ} {now due : ℤ}
    (h : p.waitUntil sentBytes now = (p', some due)) : now + minSleepNs ≤ due := by
  simp only [waitUntil] at h
  split_ifs at h with hskip hshort
  · simp at h
  · simp at h
  · simp only [Prod.mk.injEq, Option.some.injEq] at h
    omega

/-- A pacer with no budget never pauses. -/
theorem waitUntil_inactive {p : ShardPacer} (h : p.active = false) (sentBytes : ℕ) (now : ℤ) :
    p.waitUntil sentBytes now = (p, none) := by
  simp [waitUntil, h]

end ShardPacer

/-- `PacingSlot`: pacing state of one socket. -/
structure PacingSlot where
  slotStart : ℤ := 0
  slotOpen : Bool := false
deriving DecidableEq, Repr

namespace PacingSlot

/-- Budget for a frame that starts going out at `now`, with `queued` further
frames behind it: an equal share of what is left of the slot's window. -/
def beginFrame (p : PacingSlot) (now framePeriodNs : ℤ) (window : ℚ) (queued : ℕ) :
    PacingSlot × ℤ :=
  if framePeriodNs ≤ 0 ∨ window ≤ 0 then (p, 0)
  else
    let full := ⌊framePeriodNs * max 0 (min window ShardPacer.maxWindow)⌋
    let p : PacingSlot :=
      if ¬ p.slotOpen ∨ framePeriodNs ≤ now - p.slotStart then ⟨now, true⟩ else p
    let left := p.slotStart + full - now
    if left ≤ 0 then (p, 0) else (p, left / (queued + 1))

def reset (p : PacingSlot) : PacingSlot := { p with slotOpen := false }

end PacingSlot

end WivrnNx
