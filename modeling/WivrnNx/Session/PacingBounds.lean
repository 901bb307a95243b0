import WivrnNx.Session.ShardStream

/-!
# The bounds of the pacing schedule

A frame goes out in micro-bursts of whole groups, each no earlier than its bytes'
share of the frame's budget. What a caller of `pump` can rely on, and what a slot
grants its frames:

- `Fits`: budgets and frames whose product stays within 64 bits;
- `Pauses`: what a pump leaves when it asks for a pause, `pump_pauses_or_ends`;
- `pacedRun`: one frame, pumped at any times;
- `PacedWithin`: no pause is short, late or early, and each one costs a whole group;
- `pacing_bounded`: every frame of every caller, and every sequence of budgets. A slot
  whose window is spent grants nothing, at whatever time that is.
-/

namespace WivrnNx

namespace ShardPacer

/-! ## The deadline -/

/-- Half a second of budget and 32 GiB: what the 64-bit product has room for. -/
structure Fits (p : ShardPacer) : Prop where
  budget : 0 ≤ p.budget ∧ p.budget ≤ 500000000
  total : p.total < 2 ^ 35

theorem Fits.mul_lt {p : ShardPacer} (h : p.Fits) {offset : ℕ} (hle : offset ≤ p.total) :
    p.budget.toNat * offset < 2 ^ 64 := by
  have hbudget : p.budget.toNat ≤ 500000000 := by
    have := h.budget
    omega
  have hmul := Nat.mul_le_mul_right offset hbudget
  have htotal := h.total
  omega

/-- The truncated product is the exact share of the budget. -/
theorem Fits.deadline_eq {p : ShardPacer} (h : p.Fits) (hactive : p.active = true) {offset : ℕ}
    (hlt : offset < p.total) :
    p.deadline offset = p.start + ((p.budget.toNat * offset / p.total : ℕ) : ℤ) := by
  rw [deadline, if_neg (by simp [hactive]), if_neg (not_le.mpr hlt),
    Nat.mod_eq_of_lt (h.mul_lt (le_of_lt hlt))]

theorem Fits.deadline_mono {p : ShardPacer} (h : p.Fits) (hactive : p.active = true)
    {offset offset' : ℕ} (hle : offset ≤ offset') (hlt : offset' < p.total) :
    p.deadline offset ≤ p.deadline offset' := by
  rw [h.deadline_eq hactive hlt, h.deadline_eq hactive (lt_of_le_of_lt hle hlt)]
  have hshare : p.budget.toNat * offset / p.total ≤ p.budget.toNat * offset' / p.total :=
    Nat.div_le_div_right (Nat.mul_le_mul_left _ hle)
  omega

theorem Fits.deadline_le {p : ShardPacer} (h : p.Fits) (hactive : p.active = true) {offset : ℕ}
    (hlt : offset < p.total) : p.deadline offset ≤ p.start + p.budget := by
  rw [h.deadline_eq hactive hlt]
  have hshare : p.budget.toNat * offset / p.total ≤ p.budget.toNat := by
    apply Nat.div_le_of_le_mul
    rw [Nat.mul_comm]
    exact Nat.mul_le_mul_right _ (le_of_lt hlt)
  have hbudget := h.budget
  omega

/-- The schedule stays the frame's; only the next group may have moved on. -/
structure Follows (p p' : ShardPacer) : Prop where
  start : p'.start = p.start
  budget : p'.budget = p.budget
  total : p'.total = p.total
  nextGroup : p.nextGroup ≤ p'.nextGroup

theorem Follows.refl (p : ShardPacer) : p.Follows p := ⟨rfl, rfl, rfl, le_rfl⟩

theorem Follows.trans {p p' p'' : ShardPacer} (h : p.Follows p') (h' : p'.Follows p'') :
    p.Follows p'' :=
  ⟨h'.start.trans h.start, h'.budget.trans h.budget, h'.total.trans h.total,
    h.nextGroup.trans h'.nextGroup⟩

theorem Follows.fits {p p' : ShardPacer} (h : p.Follows p') (hfits : p.Fits) : p'.Fits := by
  constructor
  · rw [h.budget]
    exact hfits.budget
  · rw [h.total]
    exact hfits.total

theorem Follows.active {p p' : ShardPacer} (h : p.Follows p') : p'.active = p.active := by
  simp only [ShardPacer.active, h.budget, h.total]

theorem Follows.deadline {p p' : ShardPacer} (h : p.Follows p') (offset : ℕ) :
    p'.deadline offset = p.deadline offset := by
  simp only [ShardPacer.deadline, h.active, h.start, h.budget, h.total]

/-- The group after the one of the bytes sent. -/
theorem lt_nextGroup (sentBytes : ℕ) : sentBytes < (sentBytes / groupBytes + 1) * groupBytes := by
  have hmod := Nat.mod_lt sentBytes (show 0 < groupBytes by decide)
  have hdiv := Nat.div_add_mod sentBytes groupBytes
  rw [Nat.add_mul, Nat.mul_comm]
  omega

theorem waitUntil_follows (p : ShardPacer) (sentBytes : ℕ) (now : ℤ) :
    p.Follows (p.waitUntil sentBytes now).1 := by
  unfold waitUntil
  split
  · exact .refl p
  · rename_i hskip
    have hreached : p.nextGroup ≤ sentBytes := by
      by_contra hbefore
      exact hskip (.inr (.inl (by omega)))
    have hmoved : p.nextGroup ≤ (sentBytes / groupBytes + 1) * groupBytes :=
      hreached.trans (le_of_lt (lt_nextGroup sentBytes))
    simp only
    split
    · exact ⟨rfl, rfl, rfl, hmoved⟩
    · exact ⟨rfl, rfl, rfl, hmoved⟩

/-- A pause comes where a group begins or was crossed, before the frame's last byte, and
lasts until the deadline of the bytes sent. -/
theorem waitUntil_pause {p p' : ShardPacer} {sentBytes : ℕ} {now due : ℤ}
    (h : p.waitUntil sentBytes now = (p', some due)) :
    p.active = true ∧ p.nextGroup ≤ sentBytes ∧ sentBytes < p.total ∧
      p'.nextGroup = (sentBytes / groupBytes + 1) * groupBytes ∧ due = p.deadline sentBytes := by
  have hfollows := p.waitUntil_follows sentBytes now
  rw [h] at hfollows
  unfold waitUntil at h
  split at h
  · cases h
  · rename_i hskip
    simp only [not_or, not_lt, not_le, Bool.not_eq_true] at hskip
    simp only at h
    split at h
    · cases h
    · simp only [Prod.mk.injEq, Option.some.injEq] at h
      refine ⟨by simpa using hskip.1, hskip.2.1, hskip.2.2, ?_, ?_⟩
      · rw [← h.1]
      · rw [← h.2]
        rfl

end ShardPacer

namespace PacedSender

open ShardPacer

variable {V T G P : Type*}

/-! ## One pump -/

/-- A pump of `s` at `now` that paused until `due` and left `s'`. -/
structure Pauses (now : ℤ) (s : PacedSender V T G) (due : ℤ) (s' : PacedSender V T G) : Prop where
  follows : s.pacer.Follows s'.pacer
  pacing : s.pacer.active = true
  data : s'.data = s.data
  /-- The pause is at the byte the sender stands at, behind those of this pump. -/
  offset : s.offset ≤ s'.offset
  reached : s.pacer.nextGroup ≤ s'.offset
  unfinished : s'.offset < s.pacer.total
  nextGroup : s'.pacer.nextGroup = (s'.offset / groupBytes + 1) * groupBytes
  atDeadline : due = s.pacer.deadline s'.offset
  sleep : now + minSleepNs ≤ due

/-- A shard that was not followed by a pause, in front of a pump that paused. -/
theorem Pauses.cons {now due : ℤ} {s m s' : PacedSender V T G}
    (hfollows : s.pacer.Follows m.pacer) (hdata : m.data = s.data) (hoffset : s.offset ≤ m.offset)
    (h : Pauses now m due s') : Pauses now s due s' := by
  constructor
  · exact hfollows.trans h.follows
  · rw [← hfollows.active]
    exact h.pacing
  · exact h.data.trans hdata
  · exact hoffset.trans h.offset
  · exact hfollows.nextGroup.trans h.reached
  · rw [← hfollows.total]
    exact h.unfinished
  · exact h.nextGroup
  · rw [← hfollows.deadline]
    exact h.atDeadline
  · exact h.sleep

/-- The loop ends in an exception, with the frame over, or with a pause. -/
theorem pumpLoop_pauses (w : WireFormat V T G P) (sinks : Sinks T) (now : ℤ) (fuel : ℕ) :
    ∀ s : PacedSender V T G,
      (pumpLoop w sinks now fuel s).outcome = .threw ∨
      ((pumpLoop w sinks now fuel s).outcome = .due 0 ∧
        (pumpLoop w sinks now fuel s).sender.active = false) ∨
      ∃ due, (pumpLoop w sinks now fuel s).outcome = .due due ∧
        Pauses now s due (pumpLoop w sinks now fuel s).sender := by
  have hfinish : ∀ s : PacedSender V T G, (finish w sinks s).outcome = .due 0 ∧
      (finish w sinks s).sender.active = false := by
    intro s
    obtain ⟨hover, -, hdue, -⟩ := finish_spec w sinks s
    exact ⟨hdue, hover⟩
  induction fuel with
  | zero => exact fun s => .inr (.inl (hfinish s))
  | succ fuel ih =>
    intro s
    rcases advance_spec w sinks s with ⟨-, hdata, hpacer, -, hoffset, -, -⟩
    have hbehind : s.offset ≤ (PacedSender.advance w sinks s).1.offset := by
      rw [hoffset]
      omega
    rw [pumpLoop]
    split
    · exact .inr (.inl (hfinish s))
    · simp only
      split
      · exact .inl rfl
      · split
        · split
          · rename_i pacer due hwait
            -- The next burst is not due: the pause is at the byte behind this shard
            rw [hpacer] at hwait
            have hfollows := s.pacer.waitUntil_follows (PacedSender.advance w sinks s).1.offset now
            rcases waitUntil_pause hwait with ⟨hactive, hreached, hlt, hnext, hdue⟩
            rw [hwait] at hfollows
            exact .inr (.inr ⟨due, rfl, ⟨hfollows, hactive, hdata, hbehind, hreached, hlt, hnext,
              hdue, minSleep_le_of_waitUntil hwait⟩⟩)
          · rename_i pacer hwait
            -- No pause: the rest of the loop goes on from a pacer that follows this one
            have hfollows := s.pacer.waitUntil_follows (PacedSender.advance w sinks s).1.offset now
            rw [← hpacer, hwait, hpacer] at hfollows
            rcases ih { (PacedSender.advance w sinks s).1 with pacer := pacer } with
              hthrew | hover | ⟨due, hout, hpause⟩
            · exact .inl hthrew
            · exact .inr (.inl hover)
            · exact .inr (.inr ⟨due, hout, Pauses.cons
                (m := { (PacedSender.advance w sinks s).1 with pacer := pacer }) hfollows hdata
                hbehind hpause⟩)
        · exact .inr (.inl (hfinish _))

theorem pump_pauses_or_ends (w : WireFormat V T G P) (sinks : Sinks T) (now : ℤ)
    {s : PacedSender V T G} (hactive : s.active = true) :
    (pump w sinks s now).outcome = .threw ∨
    ((pump w sinks s now).outcome = .due 0 ∧ (pump w sinks s now).sender.active = false) ∨
    ∃ due, (pump w sinks s now).outcome = .due due ∧
      Pauses now s due (pump w sinks s now).sender := by
  rw [pump, if_neg (by simp [hactive])]
  exact pumpLoop_pauses w sinks now _ s

/-! ## One frame, pumped at any times -/

/-- How a frame stands after some pumps. -/
inductive Ending where
  | unfinished
  | finished
  | threw
deriving DecidableEq, Repr

/-- A frame pumped at the given times, with the sinks of each call: the pauses, each by
the time of the call and the due time it returned, and how the frame stands. -/
def pacedRun (w : WireFormat V T G P) :
    PacedSender V T G → List (ℤ × Sinks T) → List (ℤ × ℤ) × Ending
  | s, [] => ([], if s.active then .unfinished else .finished)
  | s, (now, sinks) :: calls =>
    let r := pump w sinks s now
    match r.outcome with
    | .threw => ([], .threw)
    | .due due =>
      if r.sender.active then
        let rest := pacedRun w r.sender calls
        ((now, due) :: rest.1, rest.2)
      else ([], .finished)

/-- The caller always pumps at the due time that the call before returned. -/
def Punctual (calls : List (ℤ × Sinks T)) (pauses : List (ℤ × ℤ)) : Prop :=
  ∀ i call pause, calls[i + 1]? = some call → pauses[i]? = some pause → call.1 = pause.2

/-- The schedule of a frame of `total` bytes that started at `t0` with budget `b`. -/
structure PacedWithin (w : WireFormat V T G P) (s : PacedSender V T G) (t0 b : ℤ) (total : ℕ)
    (calls : List (ℤ × Sinks T)) : Prop where
  /-- A pause is worth taking and never goes past the budget. -/
  due : ∀ pause ∈ (pacedRun w s calls).1, pause.1 + 150000 ≤ pause.2 ∧ pause.2 ≤ t0 + b
  mono : ((pacedRun w s calls).1.map Prod.snd).Pairwise (· ≤ ·)
  /-- The frame is over after as many pumps as it has groups. -/
  ends : max 1 ((total + groupBytes - 1) / groupBytes) ≤ calls.length →
    (pacedRun w s calls).2 ≠ .unfinished
  finishes : (∀ call ∈ calls, ∀ offset, call.2.throws offset = false) →
    (pacedRun w s calls).2 ≠ .threw
  /-- No pump of a punctual caller is later than the first one and the budget. -/
  punctual : Punctual calls (pacedRun w s calls).1 → ∀ first i call, calls[0]? = some first →
    i ≤ (pacedRun w s calls).1.length → calls[i]? = some call → call.1 ≤ max first.1 (t0 + b)

/-- The pauses of a sender that stands at `offset`, with `k` pauses behind it. -/
structure Paced (s : PacedSender V T G) (k : ℕ) (pauses : List (ℤ × ℤ)) : Prop where
  due : ∀ pause ∈ pauses, pause.1 + minSleepNs ≤ pause.2 ∧
    s.pacer.deadline s.offset ≤ pause.2 ∧ pause.2 ≤ s.pacer.start + s.pacer.budget
  mono : (pauses.map Prod.snd).Pairwise (· ≤ ·)
  /-- Each pause so far took one group, and there is a byte behind the last. -/
  groups : pauses ≠ [] → (k + pauses.length) * groupBytes < s.pacer.total

theorem Paced.nil (s : PacedSender V T G) (k : ℕ) : Paced s k [] :=
  ⟨by simp, List.Pairwise.nil, by simp⟩

/-- One pause in front: it is at a later byte than those before, and costs a group. -/
theorem Paced.cons {s s' : PacedSender V T G} {now due : ℤ} {k : ℕ} {pauses : List (ℤ × ℤ)}
    (hfits : s.pacer.Fits) (hgroup : (k + 1) * groupBytes ≤ s.pacer.nextGroup)
    (h : Pauses now s due s') (hrest : Paced s' (k + 1) pauses) :
    Paced s k ((now, due) :: pauses) := by
  have hactive := h.pacing
  have hlater : s.pacer.deadline s.offset ≤ due := by
    rw [h.atDeadline]
    exact hfits.deadline_mono hactive h.offset h.unfinished
  have hrestdue : ∀ pause ∈ pauses, due ≤ pause.2 := by
    intro pause hpause
    rw [h.atDeadline, ← h.follows.deadline]
    exact (hrest.due pause hpause).2.1
  constructor
  · intro pause hpause
    rcases List.mem_cons.mp hpause with rfl | hpause
    · refine ⟨h.sleep, hlater, ?_⟩
      show due ≤ _
      rw [h.atDeadline]
      exact hfits.deadline_le hactive h.unfinished
    · rcases hrest.due pause hpause with ⟨hsleep, -, hbudget⟩
      rw [h.follows.start, h.follows.budget] at hbudget
      exact ⟨hsleep, hlater.trans (hrestdue pause hpause), hbudget⟩
  · rw [List.map_cons, List.pairwise_cons]
    refine ⟨?_, hrest.mono⟩
    intro due' hdue'
    rcases List.mem_map.mp hdue' with ⟨pause, hpause, rfl⟩
    exact hrestdue pause hpause
  · intro _
    rw [List.length_cons]
    by_cases hnil : pauses = []
    · -- The last pause so far: the byte it is at is still one of the frame's
      subst hnil
      have hreached := h.reached
      have hlt := h.unfinished
      show (k + (0 + 1)) * groupBytes < s.pacer.total
      rw [Nat.zero_add]
      omega
    · have hgroups := hrest.groups hnil
      rw [h.follows.total] at hgroups
      rw [show k + (pauses.length + 1) = k + 1 + pauses.length by omega]
      exact hgroups

/-- The next group is one further on than the byte of the pause. -/
theorem Pauses.nextGroup_le {now due : ℤ} {s s' : PacedSender V T G} {k : ℕ}
    (h : Pauses now s due s') (hgroup : (k + 1) * groupBytes ≤ s.pacer.nextGroup) :
    (k + 1 + 1) * groupBytes ≤ s'.pacer.nextGroup := by
  rw [h.nextGroup]
  apply Nat.mul_le_mul_right
  have hdiv : k + 1 ≤ s'.offset / groupBytes :=
    (Nat.le_div_iff_mul_le (by decide)).mpr (hgroup.trans h.reached)
  omega

/-- The pauses of a run, from a sender that is past `k` of them. -/
theorem pacedRun_paced (w : WireFormat V T G P) (calls : List (ℤ × Sinks T)) :
    ∀ (s : PacedSender V T G) (k : ℕ), s.pacer.Fits → (k + 1) * groupBytes ≤ s.pacer.nextGroup →
      Paced s k (pacedRun w s calls).1 := by
  induction calls with
  | nil => exact fun s k _ _ => .nil s k
  | cons call calls ih =>
    rcases call with ⟨now, sinks⟩
    intro s k hfits hgroup
    simp only [pacedRun]
    split
    · exact .nil s k
    · rename_i due hout
      split
      · rename_i hactive
        have hwas : s.active = true := by
          by_contra hover
          rw [pump_inactive w sinks now (by simpa using hover)] at hactive
          exact hover hactive
        rcases pump_pauses_or_ends w sinks now hwas with hthrew | ⟨-, hover⟩ | ⟨due', hout', hpause⟩
        · rw [hthrew] at hout
          cases hout
        · rw [hover] at hactive
          cases hactive
        · rw [hout', Outcome.due.injEq] at hout
          subst hout
          exact Paced.cons hfits hgroup hpause
            (ih _ (k + 1) (hpause.follows.fits hfits) (hpause.nextGroup_le hgroup))
      · exact .nil s k

/-- As long as the frame is unfinished every call has paused. -/
theorem pacedRun_unfinished (w : WireFormat V T G P) (calls : List (ℤ × Sinks T)) :
    ∀ s : PacedSender V T G, (pacedRun w s calls).2 = .unfinished →
      (pacedRun w s calls).1.length = calls.length := by
  induction calls with
  | nil => exact fun _ _ => rfl
  | cons call calls ih =>
    rcases call with ⟨now, sinks⟩
    intro s h
    simp only [pacedRun] at h ⊢
    split
    · rename_i hout
      rw [hout] at h
      cases h
    · rename_i due hout
      rw [hout] at h
      dsimp only at h
      split
      · rename_i hactive
        rw [if_pos hactive] at h
        simp only [List.length_cons]
        rw [ih _ h]
      · rename_i hover
        rw [if_neg hover] at h
        cases h

theorem pacedRun_threw (w : WireFormat V T G P) (calls : List (ℤ × Sinks T)) :
    ∀ s : PacedSender V T G, (∀ call ∈ calls, ∀ offset, call.2.throws offset = false) →
      (pacedRun w s calls).2 ≠ .threw := by
  induction calls with
  | nil =>
    intro s _
    simp only [pacedRun]
    split <;> simp
  | cons call calls ih =>
    rcases call with ⟨now, sinks⟩
    intro s hquiet
    simp only [pacedRun]
    split
    · rename_i hout
      rcases pump_threw hout with ⟨offset, -, hthrows⟩
      rw [hquiet (now, sinks) List.mem_cons_self offset] at hthrows
      cases hthrows
    · split
      · exact ih _ fun call hcall => hquiet call (List.mem_cons_of_mem _ hcall)
      · simp

/-- A frame just begun: any caller sees the schedule's bounds. -/
theorem begin_within (w : WireFormat V T G P) (s₀ : PacedSender V T G) (f : Frame V T)
    {data : List UInt8} (hdata : data.length < 2 ^ 35) (t0 : ℤ) {b : ℤ}
    (hb : 0 ≤ b ∧ b ≤ 500000000) (calls : List (ℤ × Sinks T)) :
    PacedWithin w (begin w s₀ f data (make t0 b data.length)) t0 b data.length calls := by
  have hbudget : max b 0 = b := max_eq_left hb.1
  have hfits : (make t0 b data.length).Fits := by
    constructor
    · show 0 ≤ max b 0 ∧ max b 0 ≤ 500000000
      rw [hbudget]
      exact hb
    · exact hdata
  have hpaced := pacedRun_paced w calls (begin w s₀ f data (make t0 b data.length)) 0 hfits (by
    show (0 + 1) * groupBytes ≤ 12288
    decide)
  have hdue : ∀ pause ∈ (pacedRun w (begin w s₀ f data (make t0 b data.length)) calls).1,
      pause.1 + 150000 ≤ pause.2 ∧ pause.2 ≤ t0 + b := by
    intro pause hpause
    rcases hpaced.due pause hpause with ⟨hsleep, -, hle⟩
    refine ⟨hsleep, ?_⟩
    have : pause.2 ≤ t0 + max b 0 := hle
    rwa [hbudget] at this
  constructor
  · exact hdue
  · exact hpaced.mono
  · intro hlong hopen
    have hcount := pacedRun_unfinished w calls _ hopen
    have hgroups := hpaced.groups
    rw [← hcount] at hlong
    have hne : (pacedRun w (begin w s₀ f data (make t0 b data.length)) calls).1 ≠ [] := by
      intro hnil
      rw [hnil] at hlong
      simp at hlong
    have hlt : (0 + (pacedRun w (begin w s₀ f data (make t0 b data.length)) calls).1.length) *
        groupBytes < data.length := hgroups hne
    generalize (pacedRun w (begin w s₀ f data (make t0 b data.length)) calls).1.length = n at *
    have hfew : (data.length + groupBytes - 1) / groupBytes ≤ n := by omega
    have hmost := (Nat.div_le_iff_le_mul_add_pred (show 0 < groupBytes by decide)).mp hfew
    unfold groupBytes at *
    omega
  · exact pacedRun_threw w calls _
  · intro hpunctual first i call hfirst hi hcall
    cases i with
    | zero =>
      rw [hfirst, Option.some.injEq] at hcall
      rw [hcall]
      exact le_max_left _ _
    | succ i =>
      have hpause := List.getElem?_eq_getElem (show i < _ from hi)
      rw [hpunctual i call _ hcall hpause]
      exact (hdue _ (List.getElem_mem _)).2.trans (le_max_right _ _)

end PacedSender

/-! ## The frames of a slot -/

namespace PacingSlot

/-- One call of `begin_frame` after the other: the time of each, the slot behind it and
the budget it returned. -/
def beginFrames (framePeriodNs : ℤ) (window : ℚ) :
    PacingSlot → List (ℤ × ℕ) → List (ℤ × PacingSlot × ℤ)
  | _, [] => []
  | p, (now, queued) :: calls =>
    let r := p.beginFrame now framePeriodNs window queued
    (now, r) :: beginFrames framePeriodNs window r.1 calls

/-- What one call grants: nothing, or a share of what is left of the window. -/
theorem beginFrame_within (p : PacingSlot) (now framePeriodNs : ℤ) (window : ℚ) (queued : ℕ) :
    let r := p.beginFrame now framePeriodNs window queued
    0 ≤ r.2 ∧ (r.2 = 0 ∨
      ((now + r.2 : ℤ) : ℚ) ≤ r.1.slotStart + max 0 (min window ShardPacer.maxWindow) *
        framePeriodNs) := by
  simp only [beginFrame]
  split
  · exact ⟨le_rfl, .inl rfl⟩
  · generalize (if ¬ p.slotOpen ∨ framePeriodNs ≤ now - p.slotStart then
      (⟨now, true⟩ : PacingSlot) else p) = q
    split
    · exact ⟨le_rfl, .inl rfl⟩
    · rename_i hleft
      have hfull := Int.floor_le ((framePeriodNs : ℚ) * max 0 (min window ShardPacer.maxWindow))
      generalize ⌊(framePeriodNs : ℚ) * max 0 (min window ShardPacer.maxWindow)⌋ = full at *
      have hpos : (0 : ℤ) ≤ q.slotStart + full - now := by omega
      -- A share of what is left is no more than all of it
      have hshare : (q.slotStart + full - now) / ((queued : ℤ) + 1) ≤ q.slotStart + full - now :=
        Int.ediv_le_self _ hpos
      refine ⟨Int.ediv_nonneg hpos (by omega), .inr ?_⟩
      have hle : now + (q.slotStart + full - now) / ((queued : ℤ) + 1) ≤ q.slotStart + full := by
        omega
      have hcast : ((now + (q.slotStart + full - now) / ((queued : ℤ) + 1) : ℤ) : ℚ) ≤
          (q.slotStart : ℚ) + full := by
        exact_mod_cast hle
      linarith

theorem beginFrames_within (framePeriodNs : ℤ) (window : ℚ) (calls : List (ℤ × ℕ)) :
    ∀ p : PacingSlot, ∀ r ∈ beginFrames framePeriodNs window p calls, 0 ≤ r.2.2 ∧
      (r.2.2 = 0 ∨ ((r.1 + r.2.2 : ℤ) : ℚ) ≤
        r.2.1.slotStart + max 0 (min window ShardPacer.maxWindow) * framePeriodNs) := by
  induction calls with
  | nil => simp [beginFrames]
  | cons call calls ih =>
    rcases call with ⟨now, queued⟩
    intro p r hr
    rw [beginFrames] at hr
    rcases List.mem_cons.mp hr with rfl | hr
    · exact p.beginFrame_within now framePeriodNs window queued
    · exact ih _ r hr

/-- A frame that begins when the window is spent: it gets nothing, and starts behind the
window's end. -/
theorem spent_window_behind :
    ¬ ∀ r ∈ beginFrames 10000000 (2 / 5) {} [(1000000, 0), (9000000, 0)], 0 ≤ r.2.2 ∧
      ((r.1 + r.2.2 : ℤ) : ℚ) ≤
        r.2.1.slotStart + max 0 (min (2 / 5) ShardPacer.maxWindow) * (10000000 : ℤ) := by
  decide +kernel

end PacingSlot

namespace PacedSender

open ShardPacer

variable {V T G P : Type*}

/-- The schedule of every frame and the budgets of every slot. -/
theorem pacing_bounded (w : WireFormat V T G P) (s₀ : PacedSender V T G) (f : Frame V T)
    {data : List UInt8} (hdata : data.length < 2 ^ 35) (t0 : ℤ) {b : ℤ}
    (hb : 0 ≤ b ∧ b ≤ 500000000) (calls : List (ℤ × Sinks T)) (framePeriodNs : ℤ) (window : ℚ)
    (begins : List (ℤ × ℕ)) :
    PacedWithin w (begin w s₀ f data (make t0 b data.length)) t0 b data.length calls ∧
    (∀ offset ≤ data.length, (make t0 b data.length).budget.toNat * offset < 2 ^ 64 ∧
      (offset / groupBytes + 1) * groupBytes < 2 ^ 64) ∧
    ∀ r ∈ PacingSlot.beginFrames framePeriodNs window {} begins, 0 ≤ r.2.2 ∧
      (r.2.2 = 0 ∨ ((r.1 + r.2.2 : ℤ) : ℚ) ≤
        r.2.1.slotStart + max 0 (min window maxWindow) * framePeriodNs) := by
  refine ⟨begin_within w s₀ f hdata t0 hb calls, ?_,
    PacingSlot.beginFrames_within framePeriodNs window begins {}⟩
  intro offset hoffset
  have hfits : (make t0 b data.length).Fits := by
    constructor
    · show 0 ≤ max b 0 ∧ max b 0 ≤ 500000000
      omega
    · exact hdata
  refine ⟨hfits.mul_lt hoffset, ?_⟩
  have hdiv := Nat.div_mul_le_self offset groupBytes
  rw [Nat.add_mul]
  unfold groupBytes at *
  omega

/-- Six bytes with a budget, pumped twice. -/
theorem pacing_bounded_six_bytes :
    PacedWithin toyWire
      (begin toyWire
        { frame := { streamIndex := 0, frameIndex := 6, viewInfo := (), timingInfo := () },
          group := (), shard := { streamItemIdx := 0, frameIdx := 6, shardIdx := 2 } }
        { streamIndex := 1, frameIndex := 7, viewInfo := (), timingInfo := () }
        [1, 2, 3, 4, 5, 6] (make 1000 4000000 6)) 1000 4000000 6 [(1000, {}), (2000, {})] := by
  have hshort : ([1, 2, 3, 4, 5, 6] : List UInt8).length < 2 ^ 35 := by decide
  exact (pacing_bounded toyWire _ _ hshort 1000 (by decide) _ 1 1 []).1

end PacedSender

end WivrnNx
