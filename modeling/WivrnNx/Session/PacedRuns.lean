import WivrnNx.Session.ShardStream

/-!
# Pacing changes only timing

A frame goes out over several pumps, which pause where the pacer and the clock say so.
Between two pauses the sender's members carry everything on.

- `Walk`: a whole frame, shard by shard, with no clock in it;
- `pump_walk`: a pump is a piece of such a walk, wherever it pauses;
- `Walk.same`: two walks of one frame differ in what the stamp hook wrote;
- `pacing_only_timing`: so do any two schedules that finish the frame, and `send`.
-/

namespace WivrnNx.PacedSender

variable {V T G P : Type*}

/-! ## Schedules -/

/-- One call of `pump`: when, and what its stamp hook writes. -/
structure PumpCall (T : Type*) where
  now : ℤ
  stamp : Option (T → T) := none

/-- The sinks of a pump. No data sink throws. -/
def sinksOf (parity : Bool) (c : PumpCall T) : Sinks T := { parity := parity, stamp := c.stamp }

/-- The timing that a pump's hook leaves on the frame's last shard. -/
def stamped (f : Frame V T) (c : PumpCall T) : T := (c.stamp.getD id) f.timingInfo

/-- One pump after the other. -/
def pumped (w : WireFormat V T G P) (parity : Bool) :
    PacedSender V T G → List (PumpCall T) → PacedSender V T G × List (SinkCall V T P)
  | s, [] => (s, [])
  | s, c :: cs =>
    let r := pump w (sinksOf parity c) s c.now
    let rest := pumped w parity r.sender cs
    (rest.1, r.calls ++ rest.2)

/-- `VideoPacketizer::send`: an unpaced sender, with no parity sink and no hook. `s` is
what its own sender was before `begin`. -/
def send (w : WireFormat V T G P) (s : PacedSender V T G) (f : Frame V T) (data : List UInt8) :
    List (SinkCall V T P) × ℕ :=
  let r := pump w { parity := false } (begin w s f data {}) 0
  (r.calls, r.sender.shards)

/-! ## A frame without its pauses -/

/-- From the shard the template stands at to the end of the frame: the calls, and the
sender behind them. -/
inductive Walk (w : WireFormat V T G P) (sinks : Sinks T) :
    PacedSender V T G → List (SinkCall V T P) → PacedSender V T G → Prop
  | more {s s' : PacedSender V T G} {calls : List (SinkCall V T P)} (pacer : ShardPacer)
      (hmore : s.offset + takeBytes w s < s.data.length)
      (rest : Walk w sinks { (advance w sinks s).1 with pacer := pacer } calls s') :
      Walk w sinks s
        (.data (nextShard w sinks s) s.frame.idr :: ((advance w sinks s).2 ++ calls)) s'
  | last {s : PacedSender V T G} (hlast : s.data.length ≤ s.offset + takeBytes w s) :
      Walk w sinks s
        (.data (nextShard w sinks s) s.frame.idr ::
          ((advance w sinks s).2 ++ (finish w sinks (advance w sinks s).1).calls))
        (finish w sinks (advance w sinks s).1).sender

/-- The hook is not asked before the last shard. -/
theorem nextShard_of_more {w : WireFormat V T G P} (sinks sinks' : Sinks T)
    {s : PacedSender V T G} (hmore : s.offset + takeBytes w s < s.data.length) :
    nextShard w sinks s = nextShard w sinks' s := by
  have hne : takeBytes w s ≠ s.data.length - s.offset := by omega
  simp only [nextShard, if_neg hne]

theorem sendParity_congr (w : WireFormat V T G P) {sinks sinks' : Sinks T}
    (hparity : sinks.parity = sinks'.parity) (s : PacedSender V T G) :
    sendParity w sinks s = sendParity w sinks' s := by
  unfold sendParity
  rw [hparity]

theorem advance_of_more {w : WireFormat V T G P} {sinks sinks' : Sinks T}
    (hparity : sinks.parity = sinks'.parity) {s : PacedSender V T G}
    (hmore : s.offset + takeBytes w s < s.data.length) :
    advance w sinks s = advance w sinks' s := by
  have hload : load w sinks s = load w sinks' s := by
    simp only [load, nextShard_of_more sinks sinks' hmore]
  simp only [advance, hload, sendParity_congr w hparity]

/-- A pump is a piece of the walk: all that is left of it, or what a later walk goes on
from, whatever its hook writes. -/
structure Piece (w : WireFormat V T G P) (sinks : Sinks T) (s : PacedSender V T G)
    (r : PumpResult V T G P) : Prop where
  ended : r.sender.active = false → Walk w sinks s r.calls r.sender
  paused : r.sender.active = true → ∀ sinks' : Sinks T, sinks.parity = sinks'.parity →
    ∀ calls s', Walk w sinks' r.sender calls s' → Walk w sinks' s (r.calls ++ calls) s'

theorem pumpLoop_piece (w : WireFormat V T G P) {sinks : Sinks T}
    (hquiet : ∀ offset, sinks.throws offset = false) (now : ℤ) :
    ∀ (fuel : ℕ) (s : PacedSender V T G) (k : ℕ), At s k → s.data.length - s.offset ≤ fuel →
      Piece w sinks s (pumpLoop w sinks now fuel s) := by
  intro fuel
  induction fuel with
  | zero =>
    intro s k h hfuel
    have hmore := h.more
    omega
  | succ fuel ih =>
    intro s k h hfuel
    obtain ⟨-, hdata, -, hactive, hoffset, -, -⟩ := advance_spec w sinks s
    have hpos := h.takeBytes_pos (w := w)
    rw [pumpLoop, if_neg (not_le.mpr h.more)]
    simp only [hquiet, Bool.false_eq_true, if_false]
    split
    · rename_i hmore
      have hmore' : s.offset + takeBytes w s < s.data.length := by
        rwa [hoffset, hdata] at hmore
      -- One shard in front of what follows, under any hook
      have hstep : ∀ (pacer : ShardPacer) (sinks' : Sinks T), sinks.parity = sinks'.parity →
          ∀ calls s', Walk w sinks' { (PacedSender.advance w sinks s).1 with pacer := pacer }
              calls s' →
            Walk w sinks' s (.data (nextShard w sinks s) s.frame.idr ::
              ((PacedSender.advance w sinks s).2 ++ calls)) s' := by
        intro pacer sinks' hparity calls s' hwalk
        rw [advance_of_more hparity hmore'] at hwalk ⊢
        rw [nextShard_of_more sinks sinks' hmore']
        exact .more pacer hmore' hwalk
      split
      · rename_i pacer due hwait
        refine ⟨fun hover => ?_, fun _ sinks' hparity calls s' hwalk =>
          hstep pacer sinks' hparity calls s' hwalk⟩
        -- A pause leaves the frame unfinished
        rw [show (PacedSender.advance w sinks s).1.active = false from hover, h.active] at hactive
        cases hactive
      · rename_i pacer hwait
        have hrest := ih { (PacedSender.advance w sinks s).1 with pacer := pacer } (k + 1)
          (h.advance hmore pacer) (by simp only [hoffset, hdata]; omega)
        refine ⟨fun hover => hstep pacer sinks rfl _ _ (hrest.ended hover),
          fun hactive' sinks' hparity calls s' hwalk => ?_⟩
        have hjoined := hstep pacer sinks' hparity _ _
          (hrest.paused hactive' sinks' hparity calls s' hwalk)
        simpa only [List.cons_append, List.append_assoc] using hjoined
    · rename_i hdone
      have hlast : s.data.length ≤ s.offset + takeBytes w s := by
        rw [hoffset, hdata] at hdone
        omega
      obtain ⟨hover, -⟩ := finish_spec w sinks (PacedSender.advance w sinks s).1
      refine ⟨fun _ => .last hlast, fun hactive' => ?_⟩
      rw [hover] at hactive'
      cases hactive'

theorem pump_piece (w : WireFormat V T G P) {sinks : Sinks T}
    (hquiet : ∀ offset, sinks.throws offset = false) (now : ℤ) {s : PacedSender V T G} {k : ℕ}
    (h : At s k) : Piece w sinks s (pump w sinks s now) := by
  rw [pump, if_neg (by simp [h.active])]
  exact pumpLoop_piece w hquiet now _ s k h le_rfl

theorem pumped_inactive (w : WireFormat V T G P) (parity : Bool) {s : PacedSender V T G}
    (h : s.active = false) (schedule : List (PumpCall T)) :
    pumped w parity s schedule = (s, []) := by
  induction schedule with
  | nil => rfl
  | cons c cs ih => simp [pumped, pump_inactive w (sinksOf parity c) c.now h, ih]

/-- A schedule that finishes the frame walks it, with the hook of the pump that did. -/
theorem pumped_walk (w : WireFormat V T G P) (parity : Bool) :
    ∀ (schedule : List (PumpCall T)) (s : PacedSender V T G) (k : ℕ), At s k →
      (pumped w parity s schedule).1.active = false →
      ∃ c ∈ schedule, Walk w (sinksOf parity c) s (pumped w parity s schedule).2
        (pumped w parity s schedule).1 := by
  intro schedule
  induction schedule with
  | nil =>
    intro s k h hdone
    have hboth : true = false := h.active.symm.trans hdone
    cases hboth
  | cons c cs ih =>
    intro s k h hdone
    have hquiet : ∀ offset, (sinksOf parity c).throws offset = false := fun _ => rfl
    have hpiece := pump_piece w hquiet c.now h
    obtain ⟨k', hat, -⟩ := (pump_resumes w (sinksOf parity c) c.now h).stream
      ((pump_resumes w (sinksOf parity c) c.now h).quiet hquiet)
    cases hactive : (pump w (sinksOf parity c) s c.now).sender.active with
    | false =>
      -- This pump finished the frame; later ones do nothing
      refine ⟨c, List.mem_cons_self, ?_⟩
      simp only [pumped, pumped_inactive w parity hactive, List.append_nil]
      exact hpiece.ended hactive
    | true =>
      obtain ⟨c', hc', hwalk⟩ := ih _ k' (hat hactive) hdone
      exact ⟨c', List.mem_cons_of_mem _ hc', hpiece.paused hactive (sinksOf parity c') rfl _ _ hwalk⟩

/-- An unpaced sender finishes in one call. -/
theorem pumpLoop_unpaced (w : WireFormat V T G P) {sinks : Sinks T}
    (hquiet : ∀ offset, sinks.throws offset = false) (now : ℤ) (fuel : ℕ) :
    ∀ s : PacedSender V T G, s.pacer.active = false →
      (pumpLoop w sinks now fuel s).sender.active = false := by
  induction fuel with
  | zero => exact fun s _ => (finish_spec w sinks s).1
  | succ fuel ih =>
    intro s hpacer
    rw [pumpLoop]
    split
    · exact (finish_spec w sinks s).1
    · obtain ⟨-, -, hkept, -⟩ := advance_spec w sinks s
      have hwait : ∀ offset, (advance w sinks s).1.pacer.waitUntil offset now =
          ((advance w sinks s).1.pacer, none) := by
        intro offset
        exact ShardPacer.waitUntil_inactive (by rw [hkept]; exact hpacer) offset now
      simp only [hquiet, Bool.false_eq_true, if_false, hwait]
      split
      · exact ih _ (by rw [hkept]; exact hpacer)
      · exact (finish_spec w sinks _).1

theorem send_walk (w : WireFormat V T G P) (s : PacedSender V T G) (f : Frame V T)
    {data : List UInt8} (hdata : data ≠ []) :
    ∃ s', Walk w { parity := false } (begin w s f data {}) (send w s f data).1 s' := by
  have hat := begin_at w s f hdata {}
  have hquiet : ∀ offset, ({ parity := false } : Sinks T).throws offset = false := fun _ => rfl
  have hpiece := pump_piece w hquiet 0 hat
  refine ⟨_, hpiece.ended ?_⟩
  rw [pump, if_neg (by simp [hat.active])]
  exact pumpLoop_unpaced w hquiet 0 _ _ rfl

/-! ## Two walks of one frame -/

section

variable (sameT : T → T → Prop) (sameG : G → G → Prop) (sameP : P → P → Prop)

/-- The same shard, up to what the hook wrote into `timing_info`. -/
structure SameShard (a b : Shard V T) : Prop where
  streamItemIdx : a.streamItemIdx = b.streamItemIdx
  frameIdx : a.frameIdx = b.frameIdx
  shardIdx : a.shardIdx = b.shardIdx
  viewInfo : a.viewInfo = b.viewInfo
  timingInfo : Option.Rel sameT a.timingInfo b.timingInfo
  payload : a.payload = b.payload

/-- The same call of the same sink. -/
inductive SameCall : SinkCall V T P → SinkCall V T P → Prop
  | data {a b : Shard V T} (control : Bool) (h : SameShard sameT a b) :
      SameCall (.data a control) (.data b control)
  | parity {p q : P} (h : sameP p q) : SameCall (.parity p) (.parity q)

/-- The same calls, in the same order. -/
def SameCalls : List (SinkCall V T P) → List (SinkCall V T P) → Prop :=
  List.Forall₂ (SameCall sameT sameP)

/-- `fec::group_builder` on shards that differ in their timing: the groups fill alike,
and the parity of either costs the same. -/
structure StampBlind (w : WireFormat V T G P) : Prop where
  reset : ∀ stream frame, sameG (w.groupReset stream frame) (w.groupReset stream frame)
  add : ∀ g g' a b, sameG g g' → SameShard sameT a b → sameG (w.groupAdd g a) (w.groupAdd g' b)
  full : ∀ g g', sameG g g' → w.groupBlockFull g = w.groupBlockFull g'
  take : ∀ g g', sameG g g' → sameG (w.groupTake g).1 (w.groupTake g').1 ∧
    Option.Rel sameP (w.groupTake g).2 (w.groupTake g').2
  size : ∀ p q, sameP p q → w.paritySize p = w.paritySize q

/-- Two senders at the same place of a frame. -/
structure Alike (s s' : PacedSender V T G) : Prop where
  frame : s.frame = s'.frame
  data : s.data = s'.data
  fecActive : s.fecActive = s'.fecActive
  offset : s.offset = s'.offset
  shard : SameShard sameT s.shard s'.shard
  shards : s.shards = s'.shards
  parityShards : s.parityShards = s'.parityShards
  wireBytes : s.wireBytes = s'.wireBytes
  group : s.fecActive = true → sameG s.group s'.group

end

variable {w : WireFormat V T G P} {sameT : T → T → Prop} {sameG : G → G → Prop}
  {sameP : P → P → Prop} {sinks sinks' : Sinks T} {s s' : PacedSender V T G}

theorem Alike.takeBytes (h : Alike sameT sameG s s') : takeBytes w s = takeBytes w s' := by
  simp only [PacedSender.takeBytes, h.frame, h.data, h.offset, h.shard.viewInfo]

/-- The shards that go out. The last one has what the two hooks made of the frame's
timing. -/
theorem Alike.nextShard (h : Alike sameT sameG s s')
    (hstamps : sameT ((sinks.stamp.getD id) s.frame.timingInfo)
      ((sinks'.stamp.getD id) s.frame.timingInfo)) :
    SameShard sameT (nextShard w sinks s) (nextShard w sinks' s') := by
  refine ⟨h.shard.streamItemIdx, h.shard.frameIdx, h.shard.shardIdx, h.shard.viewInfo, ?_, ?_⟩
  · simp only [PacedSender.nextShard, h.takeBytes (w := w), ← h.frame, h.data, h.offset]
    split
    · exact .some hstamps
    · exact h.shard.timingInfo
  · simp only [PacedSender.nextShard, h.takeBytes (w := w), h.data, h.offset]

theorem Alike.sendParity (h : Alike sameT sameG s s') (hw : StampBlind sameT sameG sameP w)
    (hfec : s.fecActive = true) (hparity : sinks.parity = sinks'.parity) :
    Alike sameT sameG (sendParity w sinks s).1 (sendParity w sinks' s').1 ∧
      SameCalls sameT sameP (sendParity w sinks s).2 (sendParity w sinks' s').2 := by
  obtain ⟨hgroup, htaken⟩ := hw.take _ _ (h.group hfec)
  unfold PacedSender.sendParity
  rw [← hparity]
  generalize w.groupTake s.group = taken at *
  generalize w.groupTake s'.group = taken' at *
  obtain ⟨group, p⟩ := taken
  obtain ⟨group', p'⟩ := taken'
  have hclosed : Alike sameT sameG { s with group := group } { s' with group := group' } :=
    ⟨h.frame, h.data, h.fecActive, h.offset, h.shard, h.shards, h.parityShards, h.wireBytes,
      fun _ => hgroup⟩
  cases htaken with
  | none => exact ⟨hclosed, .nil⟩
  | some hp =>
    cases sinks.parity with
    | false => exact ⟨hclosed, .nil⟩
    | true =>
      refine ⟨⟨h.frame, h.data, h.fecActive, h.offset, h.shard, h.shards, ?_, ?_,
        fun _ => hgroup⟩, .cons (.parity hp) .nil⟩
      · simp only [h.parityShards]
      · simp only [h.wireBytes, hw.size _ _ hp]

/-- With FEC, the hooks aside, the two runs have the same sinks and a builder that is
blind to the stamp. -/
def FecAlike (sameT : T → T → Prop) (sameG : G → G → Prop) (sameP : P → P → Prop)
    (w : WireFormat V T G P) (fecActive : Bool) (sinks sinks' : Sinks T) : Prop :=
  fecActive = true → StampBlind sameT sameG sameP w ∧ sinks.parity = sinks'.parity

/-- The sender behind the data sink, before the parity of a full block. -/
def stepped (w : WireFormat V T G P) (sinks : Sinks T) (s : PacedSender V T G) :
    PacedSender V T G :=
  { load w sinks s with
    shard := { (load w sinks s).shard with
      shardIdx := ((load w sinks s).shard.shardIdx + 1) % 2 ^ 16, viewInfo := none }
    shards := ((load w sinks s).shards + 1) % 2 ^ 16
    offset := (load w sinks s).offset + takeBytes w s }

theorem advance_eq (w : WireFormat V T G P) (sinks : Sinks T) (s : PacedSender V T G) :
    advance w sinks s = if s.fecActive && w.groupBlockFull (stepped w sinks s).group
      then sendParity w sinks (stepped w sinks s) else (stepped w sinks s, []) := rfl

theorem advance_fecActive (w : WireFormat V T G P) (sinks : Sinks T) (s : PacedSender V T G) :
    (advance w sinks s).1.fecActive = s.fecActive := by
  have hparity : ∀ l : PacedSender V T G, (sendParity w sinks l).1.fecActive = l.fecActive := by
    intro l
    unfold sendParity
    split <;> rfl
  rw [advance_eq]
  split
  · exact hparity _
  · rfl

theorem Alike.stepped (h : Alike sameT sameG s s')
    (hfec : FecAlike sameT sameG sameP w s.fecActive sinks sinks')
    (hstamps : sameT ((sinks.stamp.getD id) s.frame.timingInfo)
      ((sinks'.stamp.getD id) s.frame.timingInfo)) :
    Alike sameT sameG (stepped w sinks s) (stepped w sinks' s') := by
  have hnext := h.nextShard (w := w) hstamps
  have htake := h.takeBytes (w := w)
  refine ⟨h.frame, h.data, h.fecActive, ?_, ⟨hnext.streamItemIdx, hnext.frameIdx, ?_, rfl,
    hnext.timingInfo, hnext.payload⟩, ?_, h.parityShards, ?_, fun hactive => ?_⟩
  · simp only [PacedSender.stepped, load, h.offset, htake]
  · simp only [PacedSender.stepped, load, hnext.shardIdx]
  · simp only [PacedSender.stepped, load, h.shards]
  · simp only [PacedSender.stepped, load, h.wireBytes, htake]
  · have hactive' : s.fecActive = true := hactive
    simp only [PacedSender.stepped, load, ← h.fecActive, hactive', if_true]
    exact (hfec hactive').1.add _ _ _ _ (h.group hactive') hnext

theorem Alike.advance (h : Alike sameT sameG s s')
    (hfec : FecAlike sameT sameG sameP w s.fecActive sinks sinks')
    (hstamps : sameT ((sinks.stamp.getD id) s.frame.timingInfo)
      ((sinks'.stamp.getD id) s.frame.timingInfo)) :
    Alike sameT sameG (advance w sinks s).1 (advance w sinks' s').1 ∧
      SameCalls sameT sameP (advance w sinks s).2 (advance w sinks' s').2 := by
  have hstepped := h.stepped hfec hstamps
  rw [advance_eq, advance_eq, ← h.fecActive]
  cases hactive : s.fecActive with
  | false => exact ⟨hstepped, .nil⟩
  | true =>
    obtain ⟨hw, hparity⟩ := hfec hactive
    rw [← hw.full _ _ (hstepped.group hactive)]
    split
    · exact hstepped.sendParity hw hactive hparity
    · exact ⟨hstepped, .nil⟩

theorem Alike.finish (h : Alike sameT sameG s s')
    (hfec : FecAlike sameT sameG sameP w s.fecActive sinks sinks') :
    Alike sameT sameG (finish w sinks s).sender (finish w sinks' s').sender ∧
      SameCalls sameT sameP (finish w sinks s).calls (finish w sinks' s').calls := by
  have hover : ∀ {a b : PacedSender V T G}, Alike sameT sameG a b →
      Alike sameT sameG { a with active := false } { b with active := false } :=
    fun hab => ⟨hab.frame, hab.data, hab.fecActive, hab.offset, hab.shard, hab.shards,
      hab.parityShards, hab.wireBytes, hab.group⟩
  unfold PacedSender.finish
  rw [← h.fecActive]
  cases hactive : s.fecActive with
  | false => exact ⟨hover h, .nil⟩
  | true =>
    obtain ⟨hw, hparity⟩ := hfec hactive
    obtain ⟨halike, hcalls⟩ := h.sendParity hw hactive hparity
    exact ⟨hover halike, hcalls⟩

/-- Shard by shard, two walks of one frame make the same calls. -/
theorem Walk.same {calls : List (SinkCall V T P)} {e : PacedSender V T G}
    (hwalk : Walk w sinks s calls e) :
    ∀ {s' : PacedSender V T G} {calls' : List (SinkCall V T P)} {e' : PacedSender V T G},
      Walk w sinks' s' calls' e' → Alike sameT sameG s s' →
      FecAlike sameT sameG sameP w s.fecActive sinks sinks' →
      sameT ((sinks.stamp.getD id) s.frame.timingInfo)
        ((sinks'.stamp.getD id) s.frame.timingInfo) →
      SameCalls sameT sameP calls calls' ∧ Alike sameT sameG e e' := by
  -- Both senders are before the same byte, so both are or neither is at the last shard
  have hhead : ∀ {s s' : PacedSender V T G}, Alike sameT sameG s s' →
      sameT ((sinks.stamp.getD id) s.frame.timingInfo)
        ((sinks'.stamp.getD id) s.frame.timingInfo) →
      SameCall sameT sameP (.data (PacedSender.nextShard w sinks s) s.frame.idr)
        (.data (PacedSender.nextShard w sinks' s') s'.frame.idr) := by
    intro s s' h hstamps
    rw [← h.frame]
    exact .data _ (h.nextShard hstamps)
  induction hwalk with
  | @more s e calls pacer hmore rest ih =>
    intro s' calls' e' hwalk' h hfec hstamps
    obtain ⟨halike, hcalls⟩ := h.advance hfec hstamps
    obtain ⟨hframe, -⟩ := advance_spec w sinks s
    have hkept := advance_fecActive w sinks s
    cases hwalk' with
    | more pacer' hmore' rest' =>
      have hnext : Alike sameT sameG { (PacedSender.advance w sinks s).1 with pacer := pacer }
          { (PacedSender.advance w sinks' s').1 with pacer := pacer' } :=
        ⟨halike.frame, halike.data, halike.fecActive, halike.offset, halike.shard, halike.shards,
          halike.parityShards, halike.wireBytes, halike.group⟩
      obtain ⟨hrest, hend⟩ := ih rest' hnext (by rw [hkept]; exact hfec)
        (by rw [hframe]; exact hstamps)
      exact ⟨.cons (hhead h hstamps) (List.rel_append hcalls hrest), hend⟩
    | last hlast' =>
      rw [h.data, h.offset, h.takeBytes] at hmore
      omega
  | @last s hlast =>
    intro s' calls' e' hwalk' h hfec hstamps
    obtain ⟨halike, hcalls⟩ := h.advance hfec hstamps
    have hkept := advance_fecActive w sinks s
    cases hwalk' with
    | more pacer' hmore' rest' =>
      rw [← h.data, ← h.offset, ← h.takeBytes] at hmore'
      omega
    | last hlast' =>
      obtain ⟨hend, hlastCalls⟩ := halike.finish (by rw [hkept]; exact hfec)
      exact ⟨.cons (hhead h hstamps) (List.rel_append hcalls hlastCalls), hend⟩

/-! ## Whole frames -/

/-- Two complete runs of one frame, up to what the hooks wrote. -/
structure SameRun (sameT : T → T → Prop) (sameP : P → P → Prop)
    (r r' : PacedSender V T G × List (SinkCall V T P)) : Prop where
  calls : SameCalls sameT sameP r.2 r'.2
  shards : r.1.shards = r'.1.shards
  parityShards : r.1.parityShards = r'.1.parityShards
  wireBytes : r.1.wireBytes = r'.1.wireBytes

/-- A frame just begun, whatever the two senders did before and however they are
paced. -/
theorem begin_alike (w : WireFormat V T G P) (s₁ s₂ : PacedSender V T G) (f : Frame V T)
    (data : List UInt8) (p₁ p₂ : ShardPacer)
    (hreset : f.fecActive = true →
      sameG (w.groupReset f.streamIndex f.frameIndex) (w.groupReset f.streamIndex f.frameIndex)) :
    Alike sameT sameG (begin w s₁ f data p₁) (begin w s₂ f data p₂) :=
  ⟨rfl, rfl, rfl, rfl, ⟨rfl, rfl, rfl, rfl, .none, rfl⟩, rfl, rfl, rfl, hreset⟩

theorem pumped_same (w : WireFormat V T G P) (f : Frame V T) {data : List UInt8}
    (hdata : data ≠ []) (parity : Bool)
    (hw : f.fecActive = true → StampBlind sameT sameG sameP w) (s₁ s₂ : PacedSender V T G)
    (p₁ p₂ : ShardPacer) {schedule₁ schedule₂ : List (PumpCall T)}
    (hdone₁ : (pumped w parity (begin w s₁ f data p₁) schedule₁).1.active = false)
    (hdone₂ : (pumped w parity (begin w s₂ f data p₂) schedule₂).1.active = false)
    (hstamps : ∀ a ∈ schedule₁, ∀ b ∈ schedule₂, sameT (stamped f a) (stamped f b)) :
    SameRun sameT sameP (pumped w parity (begin w s₁ f data p₁) schedule₁)
      (pumped w parity (begin w s₂ f data p₂) schedule₂) := by
  obtain ⟨a, ha, hwalk₁⟩ := pumped_walk w parity _ _ 0 (begin_at w s₁ f hdata p₁) hdone₁
  obtain ⟨b, hb, hwalk₂⟩ := pumped_walk w parity _ _ 0 (begin_at w s₂ f hdata p₂) hdone₂
  obtain ⟨hcalls, hend⟩ := hwalk₁.same hwalk₂
    (begin_alike w s₁ s₂ f data p₁ p₂ fun hfec => (hw hfec).reset _ _)
    (fun hfec => ⟨hw hfec, rfl⟩) (hstamps a ha b hb)
  exact ⟨hcalls, hend.shards, hend.parityShards, hend.wireBytes⟩

/-- Without FEC there is no parity, and the frame is what `send` makes of it. -/
theorem pumped_send (w : WireFormat V T G P) (f : Frame V T) (hfec : f.fecActive = false)
    {data : List UInt8} (hdata : data ≠ []) (parity : Bool) (s₁ s₂ : PacedSender V T G)
    (p₁ : ShardPacer) {schedule₁ : List (PumpCall T)}
    (hdone₁ : (pumped w parity (begin w s₁ f data p₁) schedule₁).1.active = false)
    (hstamps : ∀ a ∈ schedule₁, sameT (stamped f a) f.timingInfo) :
    SameCalls sameT (fun _ _ => False) (pumped w parity (begin w s₁ f data p₁) schedule₁).2
      (send w s₂ f data).1 := by
  have hnone : ∀ hon : f.fecActive = true, False := by simp [hfec]
  obtain ⟨a, ha, hwalk₁⟩ := pumped_walk w parity _ _ 0 (begin_at w s₁ f hdata p₁) hdone₁
  obtain ⟨s', hwalk₂⟩ := send_walk w s₂ f hdata
  have halike : Alike sameT (fun _ _ => False) (begin w s₁ f data p₁) (begin w s₂ f data {}) :=
    begin_alike w s₁ s₂ f data p₁ {} fun hon => (hnone hon).elim
  exact (hwalk₁.same hwalk₂ halike (fun hon => (hnone hon).elim) (hstamps a ha)).1

/-! ## Hooks that write the same -/

theorem eq_of_rel {α : Type*} {a b : Option α} (h : Option.Rel Eq a b) : a = b := by
  cases h with
  | some h => rw [h]
  | none => rfl

theorem SameShard.eq {a b : Shard V T} (h : SameShard Eq a b) : a = b := by
  obtain ⟨hstream, hframe, hidx, hview, htiming, hpayload⟩ := h
  have htiming' := eq_of_rel htiming
  cases a
  cases b
  cases hstream
  cases hframe
  cases hidx
  cases hview
  cases htiming'
  cases hpayload
  rfl

theorem eq_of_sameCalls {xs ys : List (SinkCall V T P)} (h : SameCalls Eq Eq xs ys) :
    xs = ys := by
  induction h with
  | nil => rfl
  | cons hcall _ ih =>
    rw [ih]
    cases hcall with
    | data control hshard => rw [hshard.eq]
    | parity hp => rw [hp]

/-- Equal shards fill equal groups, in every builder. -/
theorem stampBlind_eq (w : WireFormat V T G P) : StampBlind Eq Eq Eq w where
  reset _ _ := rfl
  add g g' a b hg hab := by rw [hg, hab.eq]
  full g g' hg := by rw [hg]
  take g g' hg := by
    subst hg
    refine ⟨rfl, ?_⟩
    cases (w.groupTake g).2 with
    | none => exact .none
    | some p => exact .some rfl
  size p q hp := by rw [hp]

/-! ## Any pacers, any schedules -/

/-- Two schedules that finish a frame make the same calls in the same order and end
with the same counts, whatever the hooks write; when the hooks write the same, the
calls are equal. Without FEC they are the calls of `send`. -/
theorem pacing_only_timing (w : WireFormat V T G P) (f : Frame V T) {data : List UInt8}
    (hdata : data ≠ []) (parity : Bool) (s₁ s₂ s₃ : PacedSender V T G) (p₁ p₂ : ShardPacer)
    {schedule₁ schedule₂ : List (PumpCall T)}
    (hdone₁ : (pumped w parity (begin w s₁ f data p₁) schedule₁).1.active = false)
    (hdone₂ : (pumped w parity (begin w s₂ f data p₂) schedule₂).1.active = false) :
    let r₁ := pumped w parity (begin w s₁ f data p₁) schedule₁
    let r₂ := pumped w parity (begin w s₂ f data p₂) schedule₂
    (∀ (sameG : G → G → Prop) (sameP : P → P → Prop),
      (f.fecActive = true → StampBlind (fun _ _ => True) sameG sameP w) →
        SameRun (fun _ _ => True) sameP r₁ r₂) ∧
    ((∀ a ∈ schedule₁, ∀ b ∈ schedule₂, stamped f a = stamped f b) →
      r₁.2 = r₂.2 ∧ SameRun Eq Eq r₁ r₂) ∧
    (f.fecActive = false →
      SameCalls (fun _ _ => True) (fun _ _ => False) r₁.2 (send w s₃ f data).1 ∧
      SameCalls (fun _ _ => True) (fun _ _ => False) r₂.2 (send w s₃ f data).1 ∧
      ((∀ a ∈ schedule₁, stamped f a = f.timingInfo) → r₁.2 = (send w s₃ f data).1)) := by
  refine ⟨fun sameG sameP hw => ?_, fun hstamps => ?_, fun hfec => ⟨?_, ?_, fun hstamps => ?_⟩⟩
  · exact pumped_same w f hdata parity hw s₁ s₂ p₁ p₂ hdone₁ hdone₂ fun _ _ _ _ => trivial
  · have hsame := pumped_same w f hdata parity (fun _ => stampBlind_eq w) s₁ s₂ p₁ p₂ hdone₁ hdone₂
      hstamps
    exact ⟨eq_of_sameCalls hsame.calls, hsame⟩
  · exact pumped_send w f hfec hdata parity s₁ s₃ p₁ hdone₁ fun _ _ => trivial
  · exact pumped_send w f hfec hdata parity s₂ s₃ p₂ hdone₂ fun _ _ => trivial
  · refine eq_of_sameCalls ((pumped_send w f hfec hdata parity s₁ s₃ p₁ hdone₁ hstamps).imp ?_)
    intro a b hcall
    cases hcall with
    | data control h => exact .data control h
    | parity h => exact h.elim

/-- Six bytes, in one pump and in two. -/
theorem pacing_only_timing_six_bytes :
    let f : Frame Unit Unit :=
      { streamIndex := 1, frameIndex := 7, viewInfo := (), timingInfo := () }
    let s : PacedSender Unit Unit Unit :=
      { frame := f, group := (), shard := { streamItemIdx := 0, frameIdx := 6 } }
    (pumped toyWire true (begin toyWire s f [1, 2, 3, 4, 5, 6] {}) [⟨0, none⟩]).2 =
      (send toyWire s f [1, 2, 3, 4, 5, 6]).1 := by
  intro f s
  have hdata : ([1, 2, 3, 4, 5, 6] : List UInt8) ≠ [] := by decide
  have hone : (pumped toyWire true (begin toyWire s f [1, 2, 3, 4, 5, 6] {})
      [⟨0, none⟩]).1.active = false := by decide
  have htwo : (pumped toyWire true (begin toyWire s f [1, 2, 3, 4, 5, 6] {})
      [⟨0, none⟩, ⟨1, none⟩]).1.active = false := by decide
  exact ((pacing_only_timing toyWire f hdata true s s s {} {} hone htwo).2.2 rfl).2.2
    fun _ _ => rfl

end WivrnNx.PacedSender
