import WivrnNx.Lib.GreedySplit
import WivrnNx.Session.VideoOut

/-!
# The structural law of the shard stream

What the headset's reassembler depends on: the shards of a frame are numbered
from zero, the first and only the first carries `view_info`, the last and only
the last carries `timing_info`, and the payloads are the greedy split of the
frame's data.

The sender walks the frame with a mutated template and may stop after any shard.
`At s k` says that the template stands at shard `k`; `owed s k` are the shards
that are then still to go out. `pump_owed` is the step lemma: what a pump hands
over, followed by what is owed after it, is what was owed before. Every
schedule of pumps therefore makes the same stream (`pumps_owed`), which for a
frame just begun is the reference split (`shard_stream`).
-/

namespace WivrnNx.PacedSender

open GreedySplit

variable {V T G P : Type*}

/-! ## The reference -/

/-- The payload size of shard `i`: the budget, less what `view_info` costs on the
one shard that has it. -/
def sizes (w : WireFormat V T G P) (f : Frame V T) (i : ℕ) : ℕ :=
  payloadBudget w f - w.serializedSize (if i = 0 then some f.viewInfo else none)

/-- The shards that carry the given payloads, the first of them numbered `i`. -/
def numbered (sinks : Sinks T) (f : Frame V T) : ℕ → List (List UInt8) → List (Shard V T)
  | _, [] => []
  | i, p :: ps =>
    { streamItemIdx := f.streamIndex, frameIdx := f.frameIndex, shardIdx := i % 2 ^ 16,
      viewInfo := if i = 0 then some f.viewInfo else none,
      timingInfo := if ps = [] then some ((sinks.stamp.getD id) f.timingInfo) else none,
      payload := p } :: numbered sinks f (i + 1) ps

/-- The data shards among the calls, each with its socket. -/
def dataCalls (calls : List (SinkCall V T P)) : List (Shard V T × Bool) :=
  calls.filterMap fun
    | .data shard control => some (shard, control)
    | .parity _ => none

@[simp] theorem dataCalls_nil : dataCalls ([] : List (SinkCall V T P)) = [] := rfl

@[simp] theorem dataCalls_data (shard : Shard V T) (control : Bool)
    (calls : List (SinkCall V T P)) :
    dataCalls (.data shard control :: calls) = (shard, control) :: dataCalls calls := rfl

@[simp] theorem dataCalls_append (xs ys : List (SinkCall V T P)) :
    dataCalls (xs ++ ys) = dataCalls xs ++ dataCalls ys :=
  List.filterMap_append ..

/-- Where the first data shard stands among the calls. -/
theorem exists_data_of_dataCalls_ne_nil {calls : List (SinkCall V T P)}
    (h : dataCalls calls ≠ []) :
    ∃ before shard control after, calls = before ++ .data shard control :: after := by
  induction calls with
  | nil => exact absurd rfl h
  | cons c cs ih =>
    cases c with
    | data shard control => exact ⟨[], shard, control, cs, rfl⟩
    | parity p =>
      obtain ⟨before, shard, control, after, hcs⟩ := ih (by simpa [dataCalls] using h)
      exact ⟨.parity p :: before, shard, control, after, by rw [hcs]; rfl⟩

/-! ## One shard -/

/-- The template stands at shard `k`, with bytes left to send. -/
structure At (s : PacedSender V T G) (k : ℕ) : Prop where
  active : s.active = true
  more : s.offset < s.data.length
  stream : s.shard.streamItemIdx = s.frame.streamIndex
  frameIdx : s.shard.frameIdx = s.frame.frameIndex
  shardIdx : s.shard.shardIdx = k % 2 ^ 16
  viewInfo : s.shard.viewInfo = if k = 0 then some s.frame.viewInfo else none
  timingInfo : s.shard.timingInfo = none

/-- The shards that have yet to go out, when the template stands at shard `k`. -/
def owed (w : WireFormat V T G P) (sinks : Sinks T) (s : PacedSender V T G) (k : ℕ) :
    List (Shard V T × Bool) :=
  if s.active then
    (numbered sinks s.frame k (split (sizes w s.frame) k (s.data.drop s.offset))).map
      fun shard => (shard, s.frame.idr)
  else []

/-- Closing a parity group touches the group and the counters, and sends no data
shard. -/
theorem sendParity_spec (w : WireFormat V T G P) (sinks : Sinks T) (s : PacedSender V T G) :
    let r := sendParity w sinks s
    r.1.frame = s.frame ∧ r.1.data = s.data ∧ r.1.pacer = s.pacer ∧ r.1.active = s.active ∧
      r.1.offset = s.offset ∧ r.1.shard = s.shard ∧ dataCalls r.2 = [] := by
  unfold sendParity
  split <;> simp [dataCalls]

/-- The frame's end sends no data shard. -/
theorem finish_spec (w : WireFormat V T G P) (sinks : Sinks T) (s : PacedSender V T G) :
    (finish w sinks s).sender.active = false ∧ dataCalls (finish w sinks s).calls = [] ∧
      (finish w sinks s).outcome = .due 0 ∧ (finish w sinks s).sender.frame = s.frame ∧
      (finish w sinks s).sender.data = s.data := by
  unfold finish
  split
  · obtain ⟨hframe, hdata, -, -, -, -, hcalls⟩ := sendParity_spec w sinks s
    exact ⟨rfl, hcalls, rfl, hframe, hdata⟩
  · exact ⟨rfl, rfl, rfl, rfl, rfl⟩

/-- The loop body moves the template on by one shard. -/
theorem advance_spec (w : WireFormat V T G P) (sinks : Sinks T) (s : PacedSender V T G) :
    let r := advance w sinks s
    r.1.frame = s.frame ∧ r.1.data = s.data ∧ r.1.pacer = s.pacer ∧ r.1.active = s.active ∧
      r.1.offset = s.offset + takeBytes w s ∧
      r.1.shard = { nextShard w sinks s with
        shardIdx := (s.shard.shardIdx + 1) % 2 ^ 16, viewInfo := none } ∧
      dataCalls r.2 = [] := by
  simp only [advance]
  split
  · obtain ⟨h1, h2, h3, h4, h5, h6, h7⟩ := sendParity_spec w sinks
      { load w sinks s with
        shard := { (load w sinks s).shard with
          shardIdx := ((load w sinks s).shard.shardIdx + 1) % 2 ^ 16, viewInfo := none }
        shards := ((load w sinks s).shards + 1) % 2 ^ 16
        offset := (load w sinks s).offset + takeBytes w s }
    exact ⟨h1, h2, h3, h4, h5, h6, h7⟩
  · exact ⟨rfl, rfl, rfl, rfl, rfl, rfl, rfl⟩

/-- The template takes what the greedy split gives shard `k`. -/
theorem At.takeBytes_eq {w : WireFormat V T G P} {s : PacedSender V T G} {k : ℕ} (h : At s k) :
    takeBytes w s = min (capacity (sizes w s.frame) k) (s.data.length - s.offset) := by
  simp only [takeBytes, capacity, sizes, h.viewInfo]
  split_ifs <;> omega

theorem At.takeBytes_pos {w : WireFormat V T G P} {s : PacedSender V T G} {k : ℕ} (h : At s k) :
    0 < takeBytes w s := by
  have hcap := capacity_pos (sizes w s.frame) k
  have hmore := h.more
  rw [h.takeBytes_eq]
  omega

/-- The bytes that are left are those of shard `k` and those after it. -/
theorem At.split_eq {w : WireFormat V T G P} {s : PacedSender V T G} {k : ℕ} (h : At s k) :
    split (sizes w s.frame) k (s.data.drop s.offset) =
      (s.data.drop s.offset).take (takeBytes w s) ::
        split (sizes w s.frame) (k + 1) (s.data.drop (s.offset + takeBytes w s)) := by
  have hne : s.data.drop s.offset ≠ [] := by
    rw [Ne, List.drop_eq_nil_iff, not_le]
    exact h.more
  rw [split_of_ne_nil _ _ hne, h.takeBytes_eq]
  rcases Nat.le_total (capacity (sizes w s.frame) k) (s.data.length - s.offset) with hle | hle
  · rw [Nat.min_eq_left hle, List.drop_drop]
  · -- The last shard: both ways of writing it take everything
    have hlen : (s.data.drop s.offset).length ≤ capacity (sizes w s.frame) k := by
      rw [List.length_drop]
      exact hle
    have hend : s.data.drop (s.offset + (s.data.length - s.offset)) = [] :=
      List.drop_eq_nil_of_le (by omega)
    rw [Nat.min_eq_right hle, List.take_of_length_le hlen, List.drop_eq_nil_of_le hlen, hend,
      ← List.length_drop, List.take_length]

/-- It is the last shard exactly when nothing is left behind it. -/
theorem At.last_iff {w : WireFormat V T G P} {s : PacedSender V T G} {k : ℕ} (h : At s k) :
    takeBytes w s = s.data.length - s.offset ↔
      split (sizes w s.frame) (k + 1) (s.data.drop (s.offset + takeBytes w s)) = [] := by
  have hmore := h.more
  have htake : takeBytes w s ≤ s.data.length - s.offset := by
    rw [h.takeBytes_eq]
    exact min_le_right _ _
  rw [split_eq_nil_iff, List.drop_eq_nil_iff]
  omega

/-- The shard that goes out is the one the reference has at `k`, and the rest of
the reference is owed by the template moved on. -/
theorem At.owed_eq {w : WireFormat V T G P} {sinks : Sinks T} {s : PacedSender V T G} {k : ℕ}
    (h : At s k) :
    owed w sinks s k = (nextShard w sinks s, s.frame.idr) ::
      (numbered sinks s.frame (k + 1)
        (split (sizes w s.frame) (k + 1) (s.data.drop (s.offset + takeBytes w s)))).map
          fun shard => (shard, s.frame.idr) := by
  have hshard : nextShard w sinks s =
      { streamItemIdx := s.frame.streamIndex, frameIdx := s.frame.frameIndex,
        shardIdx := k % 2 ^ 16, viewInfo := if k = 0 then some s.frame.viewInfo else none,
        timingInfo :=
          if split (sizes w s.frame) (k + 1) (s.data.drop (s.offset + takeBytes w s)) = []
          then some ((sinks.stamp.getD id) s.frame.timingInfo) else none,
        payload := (s.data.drop s.offset).take (takeBytes w s) } := by
    simp only [nextShard, h.stream, h.frameIdx, h.shardIdx, h.viewInfo, h.timingInfo, h.last_iff]
  rw [owed, if_pos h.active, h.split_eq, numbered, List.map_cons, hshard]

/-- After a shard that was not the last, the template stands at the next one. -/
theorem At.advance {w : WireFormat V T G P} {sinks : Sinks T} {s : PacedSender V T G} {k : ℕ}
    (h : At s k) (hmore : (PacedSender.advance w sinks s).1.offset <
      (PacedSender.advance w sinks s).1.data.length) (pacer : ShardPacer) :
    At { (PacedSender.advance w sinks s).1 with pacer := pacer } (k + 1) := by
  obtain ⟨hframe, hdata, -, hactive, hoffset, hshard, -⟩ := advance_spec w sinks s
  have hnotlast : takeBytes w s ≠ s.data.length - s.offset := by
    rw [hoffset, hdata] at hmore
    omega
  constructor
  · exact hactive.trans h.active
  · exact hmore
  · simp [hshard, hframe, nextShard, h.stream]
  · simp [hshard, hframe, nextShard, h.frameIdx]
  · simp [hshard, h.shardIdx, Nat.add_mod]
  · simp [hshard]
  · simp [hshard, nextShard, hnotlast, h.timingInfo]

/-! ## One pump -/

/-- What a pump leaves of a frame whose template stood at shard `k`: an exception,
nothing, or the template at a later shard. -/
structure Resumes (w : WireFormat V T G P) (sinks : Sinks T) (now : ℤ) (s : PacedSender V T G)
    (k : ℕ) (r : PumpResult V T G P) : Prop where
  /-- At least one shard goes out. -/
  sends : dataCalls r.calls ≠ []
  outcome : r.outcome = .threw ∨ (r.sender.active = false ∧ r.outcome = .due 0) ∨
    (r.sender.active = true ∧ s.offset < r.sender.offset ∧
      ∃ due, r.outcome = .due due ∧ now + ShardPacer.minSleepNs ≤ due)
  /-- What went out, and what is owed afterwards, is what was owed before. -/
  stream : r.outcome ≠ .threw → ∃ k', (r.sender.active = true → At r.sender k') ∧
    dataCalls r.calls ++ owed w sinks r.sender k' = owed w sinks s k
  frame : r.sender.frame = s.frame ∧ r.sender.data = s.data
  /-- Only a sink that throws makes an exception. -/
  quiet : (∀ offset, sinks.throws offset = false) → r.outcome ≠ .threw

/-- Nothing is owed by a frame that is over. -/
theorem owed_inactive {w : WireFormat V T G P} {sinks : Sinks T} {s : PacedSender V T G}
    (h : s.active = false) (k : ℕ) : owed w sinks s k = [] := by
  simp [owed, h]

/-- The shard that goes out, the parity behind it and the rest of the pump. -/
theorem Resumes.cons {w : WireFormat V T G P} {sinks : Sinks T} {now : ℤ}
    {s s' : PacedSender V T G} {k k' : ℕ} {r : PumpResult V T G P}
    {parity : List (SinkCall V T P)} (hparity : dataCalls parity = [])
    (howed : owed w sinks s k = (nextShard w sinks s, s.frame.idr) :: owed w sinks s' k')
    (hoffset : s.offset < s'.offset) (hframe : s'.frame = s.frame) (hdata : s'.data = s.data)
    (h : Resumes w sinks now s' k' r) :
    Resumes w sinks now s k
      { r with calls := .data (nextShard w sinks s) s.frame.idr :: (parity ++ r.calls) } := by
  refine ⟨by simp, ?_, ?_, ⟨h.frame.1.trans hframe, h.frame.2.trans hdata⟩, h.quiet⟩
  · rcases h.outcome with hthrew | hover | ⟨hactive, hlt, hdue⟩
    · exact .inl hthrew
    · exact .inr (.inl hover)
    · exact .inr (.inr ⟨hactive, hoffset.trans hlt, hdue⟩)
  · intro hquiet
    obtain ⟨k'', hat, hstream⟩ := h.stream hquiet
    refine ⟨k'', hat, ?_⟩
    rw [howed, dataCalls_data, dataCalls_append, hparity, List.nil_append, List.cons_append,
      hstream]

/-- The pump's loop, from a template at shard `k` with enough fuel. -/
theorem pumpLoop_resumes (w : WireFormat V T G P) (sinks : Sinks T) (now : ℤ) :
    ∀ (fuel : ℕ) (s : PacedSender V T G) (k : ℕ), At s k → s.data.length - s.offset ≤ fuel →
      Resumes w sinks now s k (pumpLoop w sinks now fuel s) := by
  intro fuel
  induction fuel with
  | zero =>
    intro s k h hfuel
    have hmore := h.more
    omega
  | succ fuel ih =>
    intro s k h hfuel
    obtain ⟨hframe, hdata, -, hactive, hoffset, hshard, hparity⟩ := advance_spec w sinks s
    have hpos := h.takeBytes_pos (w := w)
    rw [pumpLoop, if_neg (not_le.mpr h.more)]
    simp only
    split
    · rename_i hthrows
      -- The data sink throws: the shard was handed over, nothing else is known
      refine ⟨by simp, .inl rfl, fun hne => absurd rfl hne, ⟨rfl, rfl⟩, ?_⟩
      intro hsinks
      simp [hsinks] at hthrows
    split
    · rename_i hmore
      -- Not the last shard: the rest of the reference is owed by the next template
      have howed : ∀ pacer, owed w sinks s k = (nextShard w sinks s, s.frame.idr) ::
          owed w sinks { (PacedSender.advance w sinks s).1 with pacer := pacer } (k + 1) := by
        intro pacer
        rw [h.owed_eq, owed, if_pos (hactive.trans h.active)]
        simp only [hframe, hdata, hoffset]
      split
      · rename_i pacer due hwait
        -- The next micro-burst is not due yet
        refine ⟨by simp, .inr (.inr ⟨hactive.trans h.active, ?_, due, rfl,
            ShardPacer.minSleep_le_of_waitUntil hwait⟩), ?_, ⟨hframe, hdata⟩, by simp⟩
        · simp only [hoffset]
          omega
        · intro _
          refine ⟨k + 1, fun _ => h.advance hmore pacer, ?_⟩
          rw [howed pacer, dataCalls_data, hparity]
          rfl
      · rename_i pacer hwait
        refine Resumes.cons hparity (howed pacer) ?_ hframe hdata
          (ih { (PacedSender.advance w sinks s).1 with pacer := pacer } (k + 1)
            (h.advance hmore pacer) ?_)
        · simp only [hoffset]
          omega
        · simp only [hoffset, hdata]
          omega
    · rename_i hdone
      -- The last shard: nothing is left to owe
      obtain ⟨hover, hcalls, hdue, hlastframe, hlastdata⟩ :=
        finish_spec w sinks (PacedSender.advance w sinks s).1
      have hlast : s.data.drop (s.offset + takeBytes w s) = [] := by
        rw [List.drop_eq_nil_iff]
        rw [hoffset, hdata] at hdone
        omega
      refine ⟨by simp, .inr (.inl ⟨hover, hdue⟩), ?_,
        ⟨hlastframe.trans hframe, hlastdata.trans hdata⟩, fun _ => by simp [hdue]⟩
      intro _
      refine ⟨0, fun hact => absurd hact (by simp [hover]), ?_⟩
      rw [owed_inactive hover, h.owed_eq, hlast, dataCalls_data, dataCalls_append, hparity, hcalls,
        split_nil, numbered, List.map_nil]
      rfl

/-! ## A frame over any schedule of pumps -/

/-- One pump after the other, at the given times. -/
def pumps (w : WireFormat V T G P) (sinks : Sinks T) :
    PacedSender V T G → List ℤ → PacedSender V T G × List (SinkCall V T P)
  | s, [] => (s, [])
  | s, t :: ts =>
    let r := pump w sinks s t
    let rest := pumps w sinks r.sender ts
    (rest.1, r.calls ++ rest.2)

/-- A pump keeps the account of what is owed. -/
theorem pump_resumes (w : WireFormat V T G P) (sinks : Sinks T) (now : ℤ)
    {s : PacedSender V T G} {k : ℕ} (h : At s k) :
    Resumes w sinks now s k (pump w sinks s now) := by
  rw [pump, if_neg (by simp [h.active])]
  exact pumpLoop_resumes w sinks now _ s k h le_rfl

/-- A loop that ends in an exception got it from a data sink, at one of the frame's bytes. -/
theorem pumpLoop_threw (w : WireFormat V T G P) (sinks : Sinks T) (now : ℤ) :
    ∀ (fuel : ℕ) (s : PacedSender V T G), (pumpLoop w sinks now fuel s).outcome = .threw →
      ∃ k < s.data.length, sinks.throws k = true := by
  intro fuel
  induction fuel with
  | zero =>
    intro s h
    rw [pumpLoop, (finish_spec w sinks s).2.2.1] at h
    cases h
  | succ fuel ih =>
    intro s h
    have hdata := (advance_spec w sinks s).2.1
    rw [pumpLoop] at h
    split at h
    · rw [(finish_spec w sinks s).2.2.1] at h
      cases h
    · rename_i hmore
      simp only at h
      split at h
      · rename_i hthrows
        exact ⟨s.offset, by omega, hthrows⟩
      · split at h
        · split at h
          · cases h
          · rename_i pacer _
            rcases ih { (PacedSender.advance w sinks s).1 with pacer := pacer } h with
              ⟨k, hk, hthrows⟩
            exact ⟨k, lt_of_lt_of_eq hk (congrArg List.length hdata), hthrows⟩
        · have hfinish := (finish_spec w sinks (PacedSender.advance w sinks s).1).2.2.1
          rw [hfinish] at h
          cases h

theorem pump_threw {w : WireFormat V T G P} {sinks : Sinks T} {now : ℤ} {s : PacedSender V T G}
    (h : (pump w sinks s now).outcome = .threw) : ∃ k < s.data.length, sinks.throws k = true := by
  unfold pump at h
  split at h
  · cases h
  · exact pumpLoop_threw w sinks now _ s h

/-- A pump whose first shard fills a micro-burst and whose pacer then asks for a
pause. -/
theorem pump_pauses {w : WireFormat V T G P} {sinks : Sinks T} {now due : ℤ}
    {s : PacedSender V T G} {p : ShardPacer} {k : ℕ} (h : At s k)
    (hsinks : sinks.throws s.offset = false)
    (hmore : s.offset + takeBytes w s < s.data.length)
    (hwait : s.pacer.waitUntil (s.offset + takeBytes w s) now = (p, some due)) :
    (pump w sinks s now).outcome = .due due ∧
      (pump w sinks s now).sender = { (advance w sinks s).1 with pacer := p } := by
  obtain ⟨-, hdata, hpacer, -, hoffset, -, -⟩ := advance_spec w sinks s
  obtain ⟨fuel, hfuel⟩ : ∃ fuel, s.data.length - s.offset = fuel + 1 :=
    ⟨s.data.length - s.offset - 1, by have := h.more; omega⟩
  rw [pump, if_neg (by simp [h.active]), hfuel, pumpLoop, if_neg (not_le.mpr h.more)]
  simp only [hsinks, Bool.false_eq_true, if_false, hoffset, hdata, hpacer, hwait, if_pos hmore]
  exact ⟨trivial, trivial⟩

/-- A pump whose first shard takes all that is left. -/
theorem pump_ends (w : WireFormat V T G P) (sinks : Sinks T) (now : ℤ)
    {s : PacedSender V T G} {k : ℕ} (h : At s k) (hsinks : sinks.throws s.offset = false)
    (hlast : s.data.length ≤ s.offset + takeBytes w s) :
    (pump w sinks s now).outcome = .due 0 ∧ (pump w sinks s now).sender.active = false := by
  obtain ⟨-, hdata, -, -, hoffset, -, -⟩ := advance_spec w sinks s
  obtain ⟨fuel, hfuel⟩ : ∃ fuel, s.data.length - s.offset = fuel + 1 :=
    ⟨s.data.length - s.offset - 1, by have := h.more; omega⟩
  obtain ⟨hover, -, hzero, -, -⟩ := finish_spec w sinks (advance w sinks s).1
  rw [pump, if_neg (by simp [h.active]), hfuel, pumpLoop, if_neg (not_le.mpr h.more)]
  simp only [hsinks, Bool.false_eq_true, if_false, hoffset, hdata, if_neg (not_lt.mpr hlast)]
  exact ⟨hzero, hover⟩

/-- A pump of a sender with no frame does nothing. -/
theorem pump_inactive (w : WireFormat V T G P) (sinks : Sinks T) (now : ℤ)
    {s : PacedSender V T G} (h : s.active = false) : pump w sinks s now = ⟨s, [], .due 0⟩ := by
  simp [pump, h]

theorem pumps_inactive (w : WireFormat V T G P) (sinks : Sinks T) {s : PacedSender V T G}
    (h : s.active = false) (ts : List ℤ) : pumps w sinks s ts = (s, []) := by
  induction ts with
  | nil => rfl
  | cons t ts ih => simp [pumps, pump_inactive w sinks t h, ih]

/-- Over any schedule: what went out, and what is still owed, is what was owed. -/
theorem pumps_owed (w : WireFormat V T G P) (sinks : Sinks T)
    (hsinks : ∀ offset, sinks.throws offset = false) :
    ∀ (ts : List ℤ) (s : PacedSender V T G) (k : ℕ), (s.active = true → At s k) →
      ∃ k', dataCalls (pumps w sinks s ts).2 ++ owed w sinks (pumps w sinks s ts).1 k' =
        owed w sinks s k := by
  intro ts
  induction ts with
  | nil =>
    intro s k _
    exact ⟨k, rfl⟩
  | cons t ts ih =>
    intro s k h
    cases hact : s.active with
    | false =>
      rw [pumps_inactive w sinks hact]
      exact ⟨k, rfl⟩
    | true =>
      have hpump := pump_resumes w sinks t (h hact)
      obtain ⟨k', hat, hstream⟩ := hpump.stream (hpump.quiet hsinks)
      obtain ⟨k'', hrest⟩ := ih (pump w sinks s t).sender k' hat
      refine ⟨k'', ?_⟩
      simp only [pumps, dataCalls_append, List.append_assoc]
      rw [hrest, hstream]

/-- Every pump that does not finish the frame sends at least one byte. -/
theorem pumps_progress (w : WireFormat V T G P) (sinks : Sinks T)
    (hsinks : ∀ offset, sinks.throws offset = false) :
    ∀ (ts : List ℤ) (s : PacedSender V T G) (k : ℕ), (s.active = true → At s k) →
      (pumps w sinks s ts).1.active = true → s.offset + ts.length < s.data.length := by
  intro ts
  induction ts with
  | nil =>
    intro s k h hact
    exact (h hact).more
  | cons t ts ih =>
    intro s k h hact
    cases hs : s.active with
    | false =>
      rw [pumps_inactive w sinks hs] at hact
      simp [hs] at hact
    | true =>
      have hpump := pump_resumes w sinks t (h hs)
      obtain ⟨k', hat, -⟩ := hpump.stream (hpump.quiet hsinks)
      rcases hpump.outcome with hthrew | ⟨hover, -⟩ | ⟨hact', hlt, -⟩
      · exact absurd hthrew (hpump.quiet hsinks)
      · rw [pumps, pumps_inactive w sinks hover] at hact
        simp [hover] at hact
      · have hrest := ih (pump w sinks s t).sender k' hat hact
        rw [hpump.frame.2] at hrest
        rw [List.length_cons]
        omega

/-- A frame just begun stands at shard 0, whatever the sender did before. -/
theorem begin_at (w : WireFormat V T G P) (s₀ : PacedSender V T G) (f : Frame V T)
    {data : List UInt8} (hdata : data ≠ []) (pacer : ShardPacer) :
    At (begin w s₀ f data pacer) 0 := by
  constructor <;> simp [begin, hdata, List.length_pos_iff]

/-! ## The stream of a whole frame -/

/-- The stream of data shards that a frame has to make. -/
structure FrameStream (w : WireFormat V T G P) (sinks : Sinks T) (f : Frame V T)
    (data : List UInt8) (stream : List (Shard V T × Bool)) : Prop where
  numbers : stream.map (fun c => c.1.shardIdx) = List.range stream.length
  labels : ∀ c ∈ stream, c.1.streamItemIdx = f.streamIndex ∧ c.1.frameIdx = f.frameIndex
  control : ∀ c ∈ stream, c.2 = f.idr
  viewInfo : ∀ i (h : i < stream.length),
    stream[i].1.viewInfo = if i = 0 then some f.viewInfo else none
  timingInfo : ∀ i (h : i < stream.length), stream[i].1.timingInfo =
    if i + 1 = stream.length then some ((sinks.stamp.getD id) f.timingInfo) else none
  boundaries : stream.map (fun c => c.1.payload) = split (sizes w f) 0 data
  bytes : (stream.map (fun c => c.1.payload)).flatten = data
  whole : f.idr = true ∨ (f.hasStreamSocket = false ∧ f.fragmentOnControl = false) →
    data.length + w.serializedSize (some f.viewInfo) ≤ sizeMax → stream.length = 1

theorem numbered_eq_mapIdx (sinks : Sinks T) (f : Frame V T) (i : ℕ) (ps : List (List UInt8)) :
    numbered sinks f i ps = ps.mapIdx fun j p =>
      { streamItemIdx := f.streamIndex, frameIdx := f.frameIndex, shardIdx := (i + j) % 2 ^ 16,
        viewInfo := if i + j = 0 then some f.viewInfo else none,
        timingInfo :=
          if j + 1 = ps.length then some ((sinks.stamp.getD id) f.timingInfo) else none,
        payload := p } := by
  induction ps generalizing i with
  | nil => rfl
  | cons p ps ih =>
    rw [numbered, List.mapIdx_cons, ih]
    congr 1
    · simp
    · simp [Nat.add_assoc, Nat.add_comm 1]

/-- An IDR, or a frame of a TCP-only session that is not cut up for pacing, fits
its first shard. -/
theorem capacity_whole (w : WireFormat V T G P) {f : Frame V T} {data : List UInt8}
    (hwhole : f.idr = true ∨ (f.hasStreamSocket = false ∧ f.fragmentOnControl = false))
    (hfits : data.length + w.serializedSize (some f.viewInfo) ≤ sizeMax) :
    data.length ≤ capacity (sizes w f) 0 := by
  have hbudget : payloadBudget w f = sizeMax := by
    rw [payloadBudget, if_pos]
    simpa using hwhole
  simp only [capacity, sizes, hbudget, if_true]
  omega

/-- The reference stream satisfies every clause, when its shards can be numbered
with 16 bits. -/
theorem reference_stream (w : WireFormat V T G P) (sinks : Sinks T) (f : Frame V T)
    {data : List UInt8} (hdata : data ≠ [])
    (hcount : (split (sizes w f) 0 data).length ≤ 2 ^ 16) :
    FrameStream w sinks f data
      ((numbered sinks f 0 (split (sizes w f) 0 data)).map fun shard => (shard, f.idr)) := by
  rw [numbered_eq_mapIdx]
  have hpayloads : ((List.mapIdx (fun j p => ({
        streamItemIdx := f.streamIndex, frameIdx := f.frameIndex, shardIdx := (0 + j) % 2 ^ 16,
        viewInfo := if 0 + j = 0 then some f.viewInfo else none,
        timingInfo := if j + 1 = (split (sizes w f) 0 data).length
          then some ((sinks.stamp.getD id) f.timingInfo) else none,
        payload := p } : Shard V T)) (split (sizes w f) 0 data)).map
          fun shard => (shard, f.idr)).map (fun c => c.1.payload) =
      split (sizes w f) 0 data := by
    rw [List.map_map]
    apply List.ext_getElem
    · simp
    · intro i h1 h2
      simp
  refine ⟨?_, ?_, ?_, ?_, ?_, hpayloads, ?_, ?_⟩
  · apply List.ext_getElem
    · simp
    · intro i h1 h2
      simp only [List.length_map, List.length_mapIdx] at h1
      simp only [List.getElem_map, List.getElem_mapIdx, List.getElem_range, Nat.zero_add]
      omega
  · intro c hc
    simp only [List.mem_map, List.mem_mapIdx] at hc
    obtain ⟨shard, ⟨i, hi, rfl⟩, rfl⟩ := hc
    exact ⟨rfl, rfl⟩
  · intro c hc
    simp only [List.mem_map] at hc
    obtain ⟨shard, -, rfl⟩ := hc
    rfl
  · intro i h
    simp
  · intro i h
    simp
  · rw [hpayloads, flatten_split]
  · intro hwhole hfits
    rw [split_of_length_le (sizes w f) 0 hdata (capacity_whole w hwhole hfits)]
    rfl

/-- For every frame and data, whatever the sender did before, every pacer and
every schedule of pumps with sinks that do not throw: an empty buffer sends
nothing and leaves the sender inactive; otherwise the frame is finished after at
most one pump per byte, and once it is, the data sink has received the reference
stream. -/
theorem shard_stream (w : WireFormat V T G P) (sinks : Sinks T)
    (hsinks : ∀ offset, sinks.throws offset = false) (s₀ : PacedSender V T G) (f : Frame V T)
    (data : List UInt8) (pacer : ShardPacer) (ts : List ℤ) :
    (data = [] → (begin w s₀ f data pacer).active = false ∧
      pumps w sinks (begin w s₀ f data pacer) ts = (begin w s₀ f data pacer, [])) ∧
    (data.length ≤ ts.length → (pumps w sinks (begin w s₀ f data pacer) ts).1.active = false) ∧
    (data ≠ [] → (split (sizes w f) 0 data).length ≤ 2 ^ 16 →
      (pumps w sinks (begin w s₀ f data pacer) ts).1.active = false →
      FrameStream w sinks f data (dataCalls (pumps w sinks (begin w s₀ f data pacer) ts).2)) := by
  have hat : (begin w s₀ f data pacer).active = true → At (begin w s₀ f data pacer) 0 := by
    intro hact
    exact begin_at w s₀ f (by simpa [begin] using hact) pacer
  refine ⟨?_, ?_, ?_⟩
  · intro hnil
    have hinactive : (begin w s₀ f data pacer).active = false := by simp [begin, hnil]
    exact ⟨hinactive, pumps_inactive w sinks hinactive ts⟩
  · intro hlong
    by_contra hact
    have hprogress := pumps_progress w sinks hsinks ts _ 0 hat (by simpa using hact)
    simp only [begin] at hprogress
    omega
  · intro hne hcount hdone
    obtain ⟨k', hstream⟩ := pumps_owed w sinks hsinks ts _ 0 hat
    rw [owed_inactive hdone, List.append_nil] at hstream
    rw [hstream, owed, if_pos (begin_at w s₀ f hne pacer).active]
    exact reference_stream w sinks f hne hcount

/-- The wire format of the examples: `view_info` costs 3 bytes, shards carry 4. -/
def toyWire : WireFormat Unit Unit Unit Unit where
  serializedSize v := if v.isSome then 3 else 0
  shardPayloadBudget _ := 4
  groupReset _ _ := ()
  groupAdd g _ := g
  groupBlockFull _ := false
  groupTake g := (g, none)
  paritySize _ := 0

/-- Six bytes after an aborted frame: one byte, four bytes and the last one. -/
theorem shard_stream_six_bytes :
    FrameStream toyWire {} { streamIndex := 1, frameIndex := 7, viewInfo := (), timingInfo := () }
      [1, 2, 3, 4, 5, 6]
      (dataCalls (pumps toyWire {}
        (begin toyWire
          { frame := { streamIndex := 0, frameIndex := 6, viewInfo := (), timingInfo := () },
            group := (), shard := { streamItemIdx := 0, frameIdx := 6, shardIdx := 2 } }
          { streamIndex := 1, frameIndex := 7, viewInfo := (), timingInfo := () }
          [1, 2, 3, 4, 5, 6] {}) [0]).2) :=
  (shard_stream toyWire {} (fun _ => rfl) _ _ [1, 2, 3, 4, 5, 6] {} [0]).2.2 (by decide)
    ((length_split_le _ _ _).trans (by decide)) (by decide)

end WivrnNx.PacedSender
