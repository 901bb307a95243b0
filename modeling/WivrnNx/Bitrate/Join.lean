import WivrnNx.Bitrate.Steps
import WivrnNx.Lib.SlotRing

/-!
# One sample per frame

The feedback packets of a frame come from several streams and in any order, and the
bytes that were sent for it from the send path. They are joined in a slot of the frame
ring, until a newer frame takes it.

- `JoinOf`: the join of a set of packets, whatever their order and however often each;
- `Refines`: the frame ring is a `SlotRing`, whose contributions are the packets and the
  byte counts;
- `OneSample`: no frame is closed twice, and each is closed as the join of everything
  that was accepted for it;
- `frames_joined`: so it is along every run without a reset.
-/

namespace WivrnNx.BitrateController

open SlotRing

/-! ## The join -/

/-- What arrives for a frame: a feedback packet, or the bytes sent for one stream. -/
inductive Report where
  | feedback (packet : Feedback)
  | bytes (count : ℕ)
deriving DecidableEq, Repr

/-- One more report of the frame. -/
def Report.join : Report → FrameState → FrameState
  | .feedback packet, f => joinFeedback packet f
  | .bytes count, f => { f with bytes := (f.bytes + count) % 2 ^ 64 }

def Report.count : Report → ℕ
  | .feedback _ => 0
  | .bytes count => count

/-- Decoded, then evicted by a newer frame without ever being shown. -/
def Late (packet : Feedback) : Prop :=
  packet.receivedFromDecoder ≠ 0 ∧ packet.blitted = 0 ∧ packet.timesDisplayed = 0

/-- When the complete streams of a frame began to arrive. -/
def firstTimes (reports : List Report) : Set ℤ :=
  {t | ∃ packet, .feedback packet ∈ reports ∧ packet.sentToDecoder ≠ 0 ∧
    packet.receivedFirstPacket ≠ 0 ∧ packet.receivedFirstPacket = t}

/-- When they were complete. -/
def lastTimes (reports : List Report) : Set ℤ :=
  {t | ∃ packet, .feedback packet ∈ reports ∧ packet.sentToDecoder ≠ 0 ∧
    packet.receivedLastPacket = t}

/-- The join of some reports. Only what was reported counts, not in which order, and of
the feedback not how often. -/
structure JoinOf (reports : List Report) (f : FrameState) : Prop where
  valid : f.valid = true ↔ ∃ packet, .feedback packet ∈ reports ∧ packet.sentToDecoder ≠ 0
  lost : f.lost = true ↔ ∃ packet, .feedback packet ∈ reports ∧ packet.sentToDecoder = 0
  late : f.late = true ↔ ∃ packet, .feedback packet ∈ reports ∧ Late packet
  first : firstTimes reports = ∅ ∧ f.first = 0 ∨ IsLeast (firstTimes reports) f.first
  last : lastTimes reports = ∅ ∧ f.last = 0 ∨ IsGreatest (lastTimes reports) f.last
  bytes : f.bytes = (reports.map Report.count).sum % 2 ^ 64

instance (packet : Feedback) : Decidable (Late packet) :=
  inferInstanceAs (Decidable (_ ∧ _ ∧ _))

/-- A packet of a stream that was never complete. -/
theorem joinFeedback_lost {packet : Feedback} (h : packet.sentToDecoder = 0) (f : FrameState) :
    joinFeedback packet f = { f with lost := true, late := f.late || decide (Late packet) } := by
  unfold joinFeedback
  rw [if_pos h]
  dsimp only
  split
  · rename_i hlate
    rw [decide_eq_true (p := Late packet) hlate, Bool.or_true]
  · rename_i hlate
    rw [decide_eq_false (p := Late packet) hlate, Bool.or_false]

/-- A packet of a stream that was. -/
theorem joinFeedback_sent {packet : Feedback} (h : packet.sentToDecoder ≠ 0) (f : FrameState) :
    joinFeedback packet f =
      { f with
        first :=
          if packet.receivedFirstPacket = 0 then f.first
          else if f.first = 0 then packet.receivedFirstPacket
          else min f.first packet.receivedFirstPacket
        last :=
          if packet.receivedLastPacket = 0 then f.last
          else max f.last packet.receivedLastPacket
        valid := true
        late := f.late || decide (Late packet) } := by
  unfold joinFeedback
  rw [if_neg h]
  dsimp only
  split
  · rename_i hlate
    rw [decide_eq_true (p := Late packet) hlate, Bool.or_true]
  · rename_i hlate
    rw [decide_eq_false (p := Late packet) hlate, Bool.or_false]

theorem join_index (r : Report) (f : FrameState) : (r.join f).index = f.index := by
  cases r with
  | feedback packet =>
    show (joinFeedback packet f).index = f.index
    by_cases h : packet.sentToDecoder = 0
    · rw [joinFeedback_lost h]
    · rw [joinFeedback_sent h]
  | bytes count => rfl

/-- A property of some feedback packet, with one packet more. -/
theorem exists_feedback_append {reports : List Report} {packet : Feedback}
    (P : Feedback → Prop) :
    (∃ q, .feedback q ∈ reports ++ [.feedback packet] ∧ P q) ↔
      (∃ q, .feedback q ∈ reports ∧ P q) ∨ P packet := by
  constructor
  · rintro ⟨q, hq, hP⟩
    rcases List.mem_append.mp hq with hbefore | hnow
    · exact .inl ⟨q, hbefore, hP⟩
    · cases List.mem_singleton.mp hnow
      exact .inr hP
  · rintro (⟨q, hq, hP⟩ | hP)
    · exact ⟨q, List.mem_append_left _ hq, hP⟩
    · exact ⟨packet, List.mem_append_right _ (List.mem_singleton_self _), hP⟩

theorem exists_feedback_append_bytes {reports : List Report} {count : ℕ} (P : Feedback → Prop) :
    (∃ q, .feedback q ∈ reports ++ [.bytes count] ∧ P q) ↔ ∃ q, .feedback q ∈ reports ∧ P q := by
  constructor
  · rintro ⟨q, hq, hP⟩
    rcases List.mem_append.mp hq with hbefore | hnow
    · exact ⟨q, hbefore, hP⟩
    · cases List.mem_singleton.mp hnow
  · rintro ⟨q, hq, hP⟩
    exact ⟨q, List.mem_append_left _ hq, hP⟩

theorem firstTimes_append (reports : List Report) (packet : Feedback) :
    firstTimes (reports ++ [.feedback packet]) =
      if packet.sentToDecoder ≠ 0 ∧ packet.receivedFirstPacket ≠ 0
      then insert packet.receivedFirstPacket (firstTimes reports) else firstTimes reports := by
  ext t
  refine (exists_feedback_append _).trans ?_
  split
  · rename_i hcounts
    constructor
    · rintro (hbefore | hnow)
      · exact .inr hbefore
      · exact .inl hnow.2.2.symm
    · rintro (hnow | hbefore)
      · exact .inr ⟨hcounts.1, hcounts.2, hnow.symm⟩
      · exact .inl hbefore
  · rename_i hignored
    exact or_iff_left fun hnow => hignored ⟨hnow.1, hnow.2.1⟩

theorem lastTimes_append (reports : List Report) (packet : Feedback) :
    lastTimes (reports ++ [.feedback packet]) =
      if packet.sentToDecoder ≠ 0
      then insert packet.receivedLastPacket (lastTimes reports) else lastTimes reports := by
  ext t
  refine (exists_feedback_append _).trans ?_
  split
  · rename_i hsent
    constructor
    · rintro (hbefore | hnow)
      · exact .inr hbefore
      · exact .inl hnow.2.symm
    · rintro (hnow | hbefore)
      · exact .inr ⟨hsent, hnow.symm⟩
      · exact .inl hbefore
  · rename_i hlost
    exact or_iff_left fun hnow => hlost hnow.1

theorem bytes_append (reports : List Report) (r : Report) :
    ((reports ++ [r]).map Report.count).sum = (reports.map Report.count).sum + r.count := by
  rw [List.map_append, List.sum_append]
  rfl

/-- The join of nothing. -/
theorem joinOf_nil (n : ℕ) : JoinOf [] { index := n } := by
  constructor
  · simp
  · simp
  · simp
  · exact .inl ⟨Set.eq_empty_of_forall_notMem fun t ⟨_, hmem, _⟩ => List.not_mem_nil hmem, rfl⟩
  · exact .inl ⟨Set.eq_empty_of_forall_notMem fun t ⟨_, hmem, _⟩ => List.not_mem_nil hmem, rfl⟩
  · rfl

theorem JoinOf.bytes_join {reports : List Report} {f : FrameState} (h : JoinOf reports f)
    (count : ℕ) : JoinOf (reports ++ [.bytes count]) ((Report.bytes count).join f) := by
  have hfirst : firstTimes (reports ++ [.bytes count]) = firstTimes reports :=
    Set.ext fun t => exists_feedback_append_bytes _
  have hlast : lastTimes (reports ++ [.bytes count]) = lastTimes reports :=
    Set.ext fun t => exists_feedback_append_bytes _
  constructor
  · exact h.valid.trans (exists_feedback_append_bytes _).symm
  · exact h.lost.trans (exists_feedback_append_bytes _).symm
  · exact h.late.trans (exists_feedback_append_bytes _).symm
  · rw [hfirst]
    exact h.first
  · rw [hlast]
    exact h.last
  · rw [bytes_append]
    show (f.bytes + count) % 2 ^ 64 = (_ + count) % 2 ^ 64
    rw [h.bytes, Nat.mod_add_mod]

/-- A stream that was given up on adds no time. -/
theorem JoinOf.lost_join {reports : List Report} {f : FrameState} (h : JoinOf reports f)
    {packet : Feedback} (hlost : packet.sentToDecoder = 0) :
    JoinOf (reports ++ [.feedback packet]) ((Report.feedback packet).join f) := by
  show JoinOf _ (joinFeedback packet f)
  rw [joinFeedback_lost hlost]
  constructor
  · rw [exists_feedback_append]
    simpa [hlost] using h.valid
  · rw [exists_feedback_append]
    simp [hlost]
  · rw [exists_feedback_append, ← h.late]
    simp
  · rw [firstTimes_append, if_neg fun hcounts => hcounts.1 hlost]
    exact h.first
  · rw [lastTimes_append, if_neg fun hsent => hsent hlost]
    exact h.last
  · rw [bytes_append]
    exact h.bytes

/-- Of a complete stream the first of the times counts, and the last. -/
theorem JoinOf.sent_join {reports : List Report} {f : FrameState} (h : JoinOf reports f)
    {packet : Feedback} (hsent : packet.sentToDecoder ≠ 0)
    (hnonneg : ∀ q, .feedback q ∈ reports ++ [.feedback packet] → 0 ≤ q.receivedLastPacket) :
    JoinOf (reports ++ [.feedback packet]) ((Report.feedback packet).join f) := by
  have hlast : 0 ≤ f.last := by
    rcases h.last with ⟨-, hzero⟩ | hgreatest
    · exact hzero.ge
    · rcases hgreatest.1 with ⟨q, hq, -, hq'⟩
      rw [← hq']
      exact hnonneg q (List.mem_append_left _ hq)
  have hpacket := hnonneg packet (List.mem_append_right _ (List.mem_singleton_self _))
  show JoinOf _ (joinFeedback packet f)
  rw [joinFeedback_sent hsent]
  constructor
  · rw [exists_feedback_append]
    simp [hsent]
  · rw [exists_feedback_append]
    simpa [hsent] using h.lost
  · rw [exists_feedback_append, ← h.late]
    simp
  · rw [firstTimes_append]
    dsimp only
    by_cases hnone : packet.receivedFirstPacket = 0
    · rw [if_neg fun hcounts => hcounts.2 hnone, if_pos hnone]
      exact h.first
    · rw [if_pos ⟨hsent, hnone⟩, if_neg hnone]
      right
      -- 0 stands for no time so far
      rcases h.first with ⟨hempty, hzero⟩ | hleast
      · rw [hempty, if_pos hzero, insert_empty_eq]
        exact isLeast_singleton
      · have hfirst : f.first ≠ 0 := by
          rcases hleast.1 with ⟨q, -, -, hq, hq'⟩
          rw [← hq']
          exact hq
        rw [if_neg hfirst, min_comm]
        exact hleast.insert _
  · rw [lastTimes_append, if_pos hsent]
    right
    -- A time that is missing is 0, which is below all others
    have hmax : (if packet.receivedLastPacket = 0 then f.last
        else max f.last packet.receivedLastPacket) = max packet.receivedLastPacket f.last := by
      split
      · omega
      · exact max_comm _ _
    dsimp only
    rw [hmax]
    rcases h.last with ⟨hempty, hzero⟩ | hgreatest
    · rw [hempty, hzero, insert_empty_eq, max_eq_left hpacket]
      exact isGreatest_singleton
    · exact hgreatest.insert _
  · rw [bytes_append]
    exact h.bytes

/-- Everything reported for a frame, joined in the order in which it arrived. -/
theorem joinOf_foldl (n : ℕ) (reports : List Report)
    (hnonneg : ∀ q, .feedback q ∈ reports → 0 ≤ q.receivedLastPacket) :
    JoinOf reports (reports.foldl (fun f r => r.join f) { index := n }) := by
  induction reports using List.reverseRecOn with
  | nil => exact joinOf_nil n
  | append_singleton reports r ih =>
    have h := ih fun q hq => hnonneg q (List.mem_append_left _ hq)
    rw [List.foldl_append]
    cases r with
    | feedback packet =>
      by_cases hlost : packet.sentToDecoder = 0
      · exact h.lost_join hlost
      · exact h.sent_join hlost hnonneg
    | bytes count => exact h.bytes_join count

/-! ## What an operation reports -/

/-- The report that an operation makes, unless it is ignored: the adaptation is off,
nothing is streaming, or the stream is not video. -/
def offers (c : BitrateController) : Op → Option (ℕ × Report)
  | .onFeedback feedback periodNs streaming _ =>
    if ¬ c.enabled ∨ ¬ streaming ∨ c.ceiling = 0 ∨ periodNs ≤ 0 then none
    else if videoStreamCount ≤ feedback.streamIndex then none
    else some (feedback.frameIndex, .feedback feedback)
  | .onFrameBytes frameIndex streamIndex bytes _ =>
    if c.mode ≠ .bbr ∨ ¬ c.enabled ∨ c.ceiling = 0 then none
    else if videoStreamCount ≤ streamIndex ∨ bytes = 0 then none
    else some (frameIndex, .bytes bytes)
  | _ => none

/-- A frame that has not been turned into a sample. -/
def Tracks (c : BitrateController) (frameIndex : ℕ) : Prop :=
  ¬ (¬ c.isNewest frameIndex ∧ (frameIndex + frameRingSize) % 2 ^ 64 ≤ c.newestFrame)

instance (c : BitrateController) (frameIndex : ℕ) : Decidable (c.Tracks frameIndex) :=
  inferInstanceAs (Decidable (¬ _))

/-- The frame that has to leave the slot of another. -/
def evicts (c : BitrateController) (frameIndex : ℕ) : Option FrameState :=
  let f := c.frames (slot frameIndex)
  if f.index = frameIndex ∨ f.index = noFrame then none else some f

/-- The frame that an operation closes. -/
def closes (c : BitrateController) (op : Op) : Option FrameState :=
  match c.offers op with
  | some (frameIndex, _) => if c.Tracks frameIndex then c.evicts frameIndex else none
  | none => none

/-- What the slot of a frame holds for it. -/
def claimed (c : BitrateController) (frameIndex : ℕ) : FrameState :=
  if (c.frames (slot frameIndex)).index = frameIndex then c.frames (slot frameIndex)
  else { index := frameIndex }

/-- A free slot is blank. -/
def Blank (c : BitrateController) : Prop :=
  ∀ i, (c.frames i).index = noFrame → c.frames i = {}

/-- A report of a frame that is tracked goes into its slot, and no other is touched. -/
structure Joined (c : BitrateController) (frameIndex : ℕ) (r : Report)
    (c' : BitrateController) : Prop where
  frames : c'.frames =
    Function.update c.frames (slot frameIndex) (r.join (c.claimed frameIndex))
  heard : c'.heard = (c.noteNewest frameIndex).heard

theorem closeFrame_frames (c : BitrateController) (i : Fin frameRingSize) (now : ℤ) :
    (c.closeFrame i now).frames =
      if (c.frames i).index = noFrame then c.frames else Function.update c.frames i {} := by
  rcases c.closeFrame_cases i now with
    ⟨hfree, hkept⟩ | ⟨htaken, bandwidth, samples, last, window, hclosed, -⟩
  · rw [hkept, if_pos hfree]
  · rw [hclosed, if_neg htaken]

theorem claimSlot_frames {c : BitrateController} (hblank : c.Blank) (frameIndex : ℕ) (now : ℤ) :
    (c.claimSlot frameIndex now).frames =
      Function.update c.frames (slot frameIndex) (c.claimed frameIndex) := by
  unfold claimSlot claimed
  by_cases hsame : (c.frames (slot frameIndex)).index = frameIndex
  · rw [if_pos hsame, if_pos hsame]
    exact (Function.update_eq_self _ _).symm
  · rw [if_neg hsame, if_neg hsame]
    dsimp only [setFrame]
    rw [closeFrame_frames]
    by_cases hnone : (c.frames (slot frameIndex)).index = noFrame
    · rw [if_pos hnone, hblank _ hnone]
    · rw [if_neg hnone, Function.update_idem, Function.update_self]

/-- Both kinds of report start with tracking the frame, and end in its slot. -/
theorem joined_of_track {c c' : BitrateController} {frameIndex : ℕ} {now : ℤ}
    (hblank : c.Blank) (h : c.trackFrame frameIndex now = some c') (r : Report) :
    c.Joined frameIndex r
      (c'.setFrame (slot frameIndex) (r.join (c'.frames (slot frameIndex)))) := by
  rcases noteNewest_ring c frameIndex with ⟨hframes, -, -⟩
  have hclaimed : (c.noteNewest frameIndex).claimed frameIndex = c.claimed frameIndex := by
    unfold claimed
    rw [hframes]
  have hblank' : (c.noteNewest frameIndex).Blank := by
    intro i
    rw [hframes]
    exact hblank i
  unfold trackFrame at h
  split at h
  · cases h
  · cases h
    constructor
    · show Function.update _ _ _ = _
      rw [claimSlot_frames hblank', hframes, hclaimed, Function.update_idem,
        Function.update_self]
    · exact claimSlot_heard _ frameIndex now

theorem trackFrame_of_tracks {c : BitrateController} {frameIndex : ℕ} (h : c.Tracks frameIndex)
    (now : ℤ) : ∃ c', c.trackFrame frameIndex now = some c' := ⟨_, if_neg h⟩

theorem trackFrame_of_not_tracks {c : BitrateController} {frameIndex : ℕ}
    (h : ¬ c.Tracks frameIndex) (now : ℤ) : c.trackFrame frameIndex now = none :=
  if_pos (not_not.mp h)

theorem tracks_of_track {c c' : BitrateController} {frameIndex : ℕ} {now : ℤ}
    (h : c.trackFrame frameIndex now = some c') : c.Tracks frameIndex := by
  intro hold
  rw [trackFrame, if_pos hold] at h
  cases h

/-- Feedback is ignored, or its frame is tracked before `evaluate` is called. -/
theorem offers_onFeedback (c : BitrateController) (feedback : Feedback) (periodNs : ℤ)
    (streaming : Bool) (now : ℤ) :
    c.offers (.onFeedback feedback periodNs streaming now) = none ∧
        c.evaluated feedback periodNs streaming now = none ∨
      c.offers (.onFeedback feedback periodNs streaming now) =
          some (feedback.frameIndex, .feedback feedback) ∧
        c.evaluated feedback periodNs streaming now =
          ({ c with framePeriod := periodNs }.trackFrame feedback.frameIndex now).map
            fun c : BitrateController =>
              c.setFrame (slot feedback.frameIndex)
                (joinFeedback feedback (c.frames (slot feedback.frameIndex))) := by
  unfold offers evaluated
  dsimp only
  split
  · exact .inl ⟨rfl, rfl⟩
  · split
    · exact .inl ⟨rfl, rfl⟩
    · exact .inr ⟨rfl, rfl⟩

/-- So are the bytes sent for one. -/
theorem offers_onFrameBytes (c : BitrateController) (frameIndex streamIndex bytes : ℕ) (now : ℤ) :
    c.offers (.onFrameBytes frameIndex streamIndex bytes now) = none ∧
        c.onFrameBytes frameIndex streamIndex bytes now = c ∨
      c.offers (.onFrameBytes frameIndex streamIndex bytes now) =
          some (frameIndex, .bytes bytes) ∧
        c.onFrameBytes frameIndex streamIndex bytes now =
          match c.trackFrame frameIndex now with
          | none => c
          | some c' =>
            c'.setFrame (slot frameIndex)
              ((Report.bytes bytes).join (c'.frames (slot frameIndex))) := by
  unfold offers onFrameBytes
  dsimp only
  split
  · exact .inl ⟨rfl, rfl⟩
  · split
    · exact .inl ⟨rfl, rfl⟩
    · exact .inr ⟨rfl, rfl⟩

/-- The frames as they were. -/
structure FramesKept (c c' : BitrateController) : Prop where
  frames : c'.frames = c.frames
  heard : c'.heard = c.heard

theorem act_offered {c : BitrateController} (hblank : c.Blank) {op : Op} {frameIndex : ℕ}
    {r : Report} (hoffers : c.offers op = some (frameIndex, r)) :
    c.Tracks frameIndex ∧ c.Joined frameIndex r (c.act op).1 ∨
      ¬ c.Tracks frameIndex ∧ c.FramesKept (c.act op).1 := by
  cases op with
  | onFeedback feedback periodNs streaming now =>
    rcases offers_onFeedback c feedback periodNs streaming now with
      ⟨hnone, -⟩ | ⟨hsome, hevaluated⟩
    · rw [hnone] at hoffers
      cases hoffers
    rw [hsome] at hoffers
    cases hoffers
    let c₁ : BitrateController := { c with framePeriod := periodNs }
    by_cases htracks : c.Tracks feedback.frameIndex
    · left
      refine ⟨htracks, ?_⟩
      have htracks₁ : c₁.Tracks feedback.frameIndex := htracks
      rcases trackFrame_of_tracks htracks₁ now with ⟨c', htrack⟩
      have hjoined := joined_of_track (c := c₁) hblank htrack (.feedback feedback)
      rw [htrack] at hevaluated
      rw [act, onFeedback_of_evaluated hevaluated]
      -- The decision that follows leaves the frames alone
      constructor
      · exact (evaluate_cuts _ now).frames.trans hjoined.frames
      · refine (evaluate_cuts _ now).heard.trans (hjoined.heard.trans ?_)
        rw [noteNewest_heard, noteNewest_heard]
        rfl
    · right
      refine ⟨htracks, ?_⟩
      have htracks₁ : ¬ c₁.Tracks feedback.frameIndex := htracks
      rw [trackFrame_of_not_tracks htracks₁ now] at hevaluated
      rcases onFeedback_of_ignored hevaluated with ⟨period, hkept⟩
      rw [act, hkept]
      exact ⟨rfl, rfl⟩
  | onFrameBytes frameIndex streamIndex bytes now =>
    rcases offers_onFrameBytes c frameIndex streamIndex bytes now with
      ⟨hnone, -⟩ | ⟨hsome, hbytes⟩
    · rw [hnone] at hoffers
      cases hoffers
    rw [hsome] at hoffers
    cases hoffers
    rw [act, hbytes]
    by_cases htracks : c.Tracks frameIndex
    · left
      rcases trackFrame_of_tracks htracks now with ⟨c', htrack⟩
      rw [htrack]
      exact ⟨htracks, joined_of_track hblank htrack (.bytes bytes)⟩
    · right
      rw [trackFrame_of_not_tracks htracks now]
      exact ⟨htracks, rfl, rfl⟩
  | _ => cases hoffers

/-- An operation that reports nothing, and does not start over. -/
theorem act_unoffered {c : BitrateController} {op : Op} (hoffers : c.offers op = none)
    (hover : c.startsOver op = false) : c.FramesKept (c.act op).1 := by
  cases op with
  | onFeedback feedback periodNs streaming now =>
    rcases offers_onFeedback c feedback periodNs streaming now with
      ⟨-, hevaluated⟩ | ⟨hsome, -⟩
    · rcases onFeedback_of_ignored hevaluated with ⟨period, hkept⟩
      rw [act, hkept]
      exact ⟨rfl, rfl⟩
    · rw [hsome] at hoffers
      cases hoffers
  | onFrameBytes frameIndex streamIndex bytes now =>
    rcases offers_onFrameBytes c frameIndex streamIndex bytes now with ⟨-, hkept⟩ | ⟨hsome, -⟩
    · rw [act, hkept]
      exact ⟨rfl, rfl⟩
    · rw [hsome] at hoffers
      cases hoffers
  | onWifiState rssiDbm linkSpeedMbps when' =>
    have hcuts := onWifiState_cuts c rssiDbm linkSpeedMbps when'
    exact ⟨hcuts.frames, hcuts.heard⟩
  | _ =>
    rw [(act_switchesOnly hover rfl).1]
    exact ⟨rfl, rfl⟩

/-! ## The ring of frames is a slot ring -/

instance : NeZero frameRingSize := ⟨by decide⟩

/-- The slots, with what was accepted and evicted so far. -/
abbrev FrameRing := Ring frameRingSize FrameState Report

/-- A frame that nothing was reported for. -/
def unreported (n : ℕ) : FrameState := { index := n }

/-- A frame is in its slot under its own index, a free slot is blank, and the newest
frame is the newest one accepted. -/
structure Refines (c : BitrateController) (s : FrameRing) : Prop where
  slots : ∀ i, s.slots i =
    if (c.frames i).index = noFrame then none else some ((c.frames i).index, c.frames i)
  blank : c.Blank
  unheard : c.hasFrames = false → s.accepted = []
  newest : c.hasFrames = true →
    (∃ p ∈ s.accepted, p.1 = c.newestFrame) ∧ ∀ p ∈ s.accepted, p.1 ≤ c.newestFrame

section Refines

variable {c c' : BitrateController} {s : FrameRing} {n : ℕ}

/-- Tracked is what is recent. -/
theorem Refines.tracks_iff (h : c.Refines s) (hn : n < 2 ^ 64 - 17) :
    c.Tracks n ↔ Recent s.accepted frameRingSize n := by
  have hroom : (n + frameRingSize) % 2 ^ 64 = n + frameRingSize := by
    apply Nat.mod_eq_of_lt
    simp only [frameRingSize]
    omega
  unfold Tracks isNewest
  rw [hroom]
  cases hheard : c.hasFrames with
  -- The first frame is always tracked
  | false =>
    simp [h.unheard hheard, Recent]
  | true =>
    rcases h.newest hheard with ⟨⟨p, hp, hnewest⟩, hbound⟩
    simp only [Bool.not_true, Bool.false_or, decide_eq_true_eq, not_and_or, not_not, not_le]
    constructor
    · intro htracks q hq
      have hle := hbound q hq
      rcases htracks with hnewer | hwithin
      · omega
      · exact hle.trans_lt hwithin
    · intro hrecent
      right
      rw [← hnewest]
      exact hrecent p hp

theorem Refines.held_eq (h : c.Refines s) (hn : n ≠ noFrame) :
    held unreported s n = c.claimed n := by
  have hslot : s.slots (slotOf n) = _ := h.slots (slot n)
  unfold held claimed
  rw [hslot]
  by_cases hsame : (c.frames (slot n)).index = n
  · rw [if_neg (hsame.trans_ne hn), if_pos hsame]
    exact if_pos hsame
  · rw [if_neg hsame]
    by_cases hnone : (c.frames (slot n)).index = noFrame
    · rw [if_pos hnone]
      rfl
    · rw [if_neg hnone]
      exact if_neg hsame

theorem Refines.displaced_eq (h : c.Refines s) :
    displaced s n = (c.evicts n).map fun f => (f.index, f) := by
  have hslot : s.slots (slotOf n) = _ := h.slots (slot n)
  unfold displaced evicts
  rw [hslot]
  dsimp only
  by_cases hnone : (c.frames (slot n)).index = noFrame
  · rw [if_pos hnone, if_pos (.inr hnone)]
    rfl
  · rw [if_neg hnone]
    by_cases hsame : (c.frames (slot n)).index = n
    · rw [if_pos (.inl hsame)]
      exact if_pos hsame
    · rw [if_neg (not_or.mpr ⟨hsame, hnone⟩)]
      exact if_neg hsame

theorem Refines.kept (h : c.Refines s) (hkept : c.FramesKept c') : c'.Refines s := by
  have hheard := hkept.heard
  simp only [heard, Prod.mk.injEq] at hheard
  rcases hheard with ⟨hhas, hnewest⟩
  constructor
  · rw [hkept.frames]
    exact h.slots
  · unfold Blank
    rw [hkept.frames]
    exact h.blank
  · rw [hhas]
    exact h.unheard
  · rw [hhas, hnewest]
    exact h.newest

/-- A report of a recent frame is a contribution to the slot ring. -/
theorem Refines.put (h : c.Refines s) (hn : n ≠ noFrame) {r : Report}
    (hrecent : Recent s.accepted frameRingSize n) (hjoined : c.Joined n r c') :
    c'.Refines (put unreported Report.join s n r) := by
  have hindex : (r.join (c.claimed n)).index = n := by
    rw [join_index]
    unfold claimed
    split
    · assumption
    · rfl
  have hheard := hjoined.heard
  rw [noteNewest_heard] at hheard
  unfold SlotRing.put
  rw [if_pos hrecent, h.held_eq hn]
  constructor
  · intro i
    rw [hjoined.frames]
    dsimp only
    by_cases hi : i = slot n
    · rw [hi, Function.update_self, hindex, if_neg hn]
      exact Function.update_self _ _ _
    · rw [Function.update_of_ne hi, ← h.slots i]
      exact Function.update_of_ne hi _ _
  · intro i
    rw [hjoined.frames]
    by_cases hi : i = slot n
    · rw [hi, Function.update_self, hindex]
      intro hnone
      exact absurd hnone hn
    · rw [Function.update_of_ne hi]
      exact h.blank i
  · intro hnone
    split at hheard
    · simp only [heard, Prod.mk.injEq] at hheard
      rw [hheard.1] at hnone
      cases hnone
    · rename_i hold
      -- Without a frame so far, this one would be the newest
      simp only [heard, Prod.mk.injEq] at hheard
      rw [hheard.1] at hnone
      exact absurd (by simp [isNewest, hnone]) hold
  · intro hsome
    split at hheard
    · -- A frame newer than all that were accepted
      rename_i hnew
      simp only [heard, Prod.mk.injEq] at hheard
      rw [hheard.2]
      refine ⟨⟨(n, r), by simp, rfl⟩, fun p hp => ?_⟩
      rcases List.mem_append.mp hp with hbefore | hnow
      · cases hhas : c.hasFrames with
        | false =>
          rw [h.unheard hhas] at hbefore
          cases hbefore
        | true =>
          have hle := (h.newest hhas).2 p hbefore
          simp only [isNewest, hhas, Bool.not_true, Bool.false_or, decide_eq_true_eq] at hnew
          omega
      · rw [List.mem_singleton.mp hnow]
    · -- An older one, and the newest stays
      rename_i hold
      simp only [heard, Prod.mk.injEq] at hheard
      rw [hheard.1] at hsome
      rw [hheard.2]
      rcases h.newest hsome with ⟨⟨p, hp, hnewest⟩, hbound⟩
      refine ⟨⟨p, List.mem_append_left _ hp, hnewest⟩, fun q hq => ?_⟩
      rcases List.mem_append.mp hq with hbefore | hnow
      · exact hbound q hbefore
      · rw [List.mem_singleton.mp hnow]
        simp only [isNewest, hsome, Bool.not_true, Bool.false_or, decide_eq_true_eq] at hold
        exact not_lt.mp hold

/-- A controller that has just been configured tracks no frame. -/
theorem configure_refines (c : BitrateController) (conf : Config) (ceilingBps : ℕ)
    (clientEnabled radioAware : Bool) (clientMode : Option BitrateMode) :
    (c.configure conf ceilingBps clientEnabled radioAware clientMode).Refines {} := by
  constructor
  · exact fun _ => rfl
  · exact fun _ _ => rfl
  · exact fun _ => rfl
  · exact fun hsome => Bool.noConfusion hsome

end Refines

/-! ## The frames that become samples -/

/-- A frame that takes a free slot leaves no sample of another. -/
theorem trackFrame_vacant {c c' : BitrateController} {frameIndex : ℕ} {now : ℤ}
    (h : c.trackFrame frameIndex now = some c') (hvacant : c.evicts frameIndex = none) :
    c'.window = c.window := by
  rcases noteNewest_ring c frameIndex with ⟨hframes, -, hwindow⟩
  unfold evicts at hvacant
  dsimp only at hvacant
  split at hvacant
  swap
  · cases hvacant
  rename_i heither
  unfold trackFrame at h
  split at h
  · cases h
  cases h
  rw [← hwindow]
  unfold claimSlot
  rw [hframes]
  split
  · rfl
  · rename_i hother
    have hnone : ((c.noteNewest frameIndex).frames (slot frameIndex)).index = noFrame := by
      rw [hframes]
      exact heither.resolve_left hother
    have hclosed : (c.noteNewest frameIndex).closeFrame (slot frameIndex) now =
        c.noteNewest frameIndex := if_pos hnone
    rw [hclosed]
    rfl

/-- Whatever evicts a frame from a slot evicts the frame of that slot. -/
theorem evicts_eq {c : BitrateController} {frameIndex : ℕ} {f : FrameState}
    (h : c.evicts frameIndex = some f) : f = c.frames (slot frameIndex) := by
  unfold evicts at h
  dsimp only at h
  split at h
  · cases h
  · exact (Option.some.inj h).symm

/-- A sample of the window is of the frame that the operation closes. -/
theorem judges_closes {c : BitrateController} {op : Op} {i : ℕ} (h : c.judges op = some i) :
    ∃ f, c.closes op = some f ∧ f.index = i := by
  -- Once the frame is tracked, it only takes a slot that was taken
  have hclosed : ∀ {n r}, c.offers op = some (n, r) → c.Tracks n → c.evicts n ≠ none →
      ∃ f, c.closes op = some f ∧ f.index = (c.frames (slot n)).index := by
    intro n r hoffers htracks hevicts
    rcases Option.ne_none_iff_exists'.mp hevicts with ⟨f, hf⟩
    refine ⟨f, ?_, ?_⟩
    · unfold closes
      rw [hoffers]
      exact (if_pos htracks).trans hf
    · rw [evicts_eq hf]
  cases op with
  | onFeedback feedback periodNs streaming now =>
    unfold judges at h
    dsimp only at h
    split at h
    · cases h
    rename_i c' hjudged
    split at h
    · cases h
    rename_i hgrew
    cases h
    rcases offers_onFeedback c feedback periodNs streaming now with
      ⟨-, hevaluated⟩ | ⟨hsome, hevaluated⟩
    · rw [hevaluated] at hjudged
      cases hjudged
    rw [hevaluated] at hjudged
    rcases Option.map_eq_some_iff.mp hjudged with ⟨c₁, htrack, hjoined⟩
    -- The period that the call sets is none of the ring's business
    have htracks : ({ c with framePeriod := periodNs } : BitrateController).Tracks _ :=
      tracks_of_track htrack
    refine hclosed hsome htracks fun hvacant => hgrew ?_
    have hsame : c₁.window = c.window :=
      trackFrame_vacant (c := { c with framePeriod := periodNs }) htrack hvacant
    rw [← hjoined]
    exact hsame
  | onFrameBytes frameIndex streamIndex bytes now =>
    unfold judges at h
    dsimp only at h
    split at h
    · cases h
    rename_i hgrew
    cases h
    rcases offers_onFrameBytes c frameIndex streamIndex bytes now with
      ⟨-, hkept⟩ | ⟨hsome, hbytes⟩
    · rw [hkept] at hgrew
      exact absurd rfl hgrew
    rw [hbytes] at hgrew
    split at hgrew
    · exact absurd rfl hgrew
    rename_i c' htrack
    refine hclosed hsome (tracks_of_track htrack) fun hvacant => hgrew ?_
    have hsame : c'.window = c.window := trackFrame_vacant htrack hvacant
    exact hsame
  | _ => cases h

/-- The controller, what was accepted for each frame so far, and the frames closed so
far, as they were then. -/
structure Collected where
  c : BitrateController
  accepted : List (ℕ × Report) := []
  closed : List FrameState := []

/-- Frame indices far from the end of their type, and no time before the epoch. -/
def Op.Plain : Op → Prop
  | .onFeedback feedback _ _ _ =>
    feedback.frameIndex < 2 ^ 64 - 17 ∧ 0 ≤ feedback.receivedFirstPacket ∧
      0 ≤ feedback.receivedLastPacket
  | .onFrameBytes frameIndex _ _ _ => frameIndex < 2 ^ 64 - 17
  | _ => True

instance (op : Op) : Decidable op.Plain :=
  match op with
  | .onFeedback _ _ _ _ => inferInstanceAs (Decidable (_ ∧ _ ∧ _))
  | .onFrameBytes _ _ _ _ => inferInstanceAs (Decidable (_ < _))
  | .onWifiState _ _ _ | .setClientEnabled _ | .setClientMode _ | .setRadioAware _
  | .setPacingWindow _ | .setCeiling _ | .reset => inferInstanceAs (Decidable True)

/-- Without a reset. A report is accepted when its frame is less than 16 older than the
newest one so far. -/
def collectStep (s : Collected) (op : Op) : Option Collected :=
  if s.c.startsOver op = false ∧ op.Plain then
    some
      { c := (s.c.act op).1
        accepted := s.accepted ++
          (s.c.offers op).toList.filter fun p => Recent s.accepted frameRingSize p.1
        closed := (s.c.closes op).toList ++ s.closed }
  else none

theorem collectStep_cases {s s' : Collected} {op : Op} (h : collectStep s op = some s') :
    (s.c.startsOver op = false ∧ op.Plain) ∧
      s' = { c := (s.c.act op).1
             accepted := s.accepted ++
               (s.c.offers op).toList.filter fun p => Recent s.accepted frameRingSize p.1
             closed := (s.c.closes op).toList ++ s.closed } := by
  unfold collectStep at h
  split at h
  · rename_i hguard
    exact ⟨hguard, (Option.some.inj h).symm⟩
  · cases h

/-- What is known of a controller that collects: its frames are a sound slot ring. -/
structure Collected.InRing (s : Collected) (ring : FrameRing) : Prop where
  refines : s.c.Refines ring
  sound : Sound unreported Report.join ring
  accepted : ring.accepted = s.accepted
  closed : ring.evicted.map (·.2) = s.closed
  timed : ∀ p ∈ s.accepted, ∀ packet, p.2 = .feedback packet → 0 ≤ packet.receivedLastPacket

theorem offers_plain {c : BitrateController} {op : Op} {n : ℕ} {r : Report}
    (hoffers : c.offers op = some (n, r)) (hplain : op.Plain) :
    n < 2 ^ 64 - 17 ∧ ∀ packet, r = .feedback packet → 0 ≤ packet.receivedLastPacket := by
  cases op with
  | onFeedback feedback periodNs streaming now =>
    rcases offers_onFeedback c feedback periodNs streaming now with ⟨hnone, -⟩ | ⟨hsome, -⟩
    · rw [hnone] at hoffers
      cases hoffers
    · rw [hsome] at hoffers
      cases hoffers
      refine ⟨hplain.1, fun packet hpacket => ?_⟩
      cases hpacket
      exact hplain.2.2
  | onFrameBytes frameIndex streamIndex bytes now =>
    rcases offers_onFrameBytes c frameIndex streamIndex bytes now with ⟨hnone, -⟩ | ⟨hsome, -⟩
    · rw [hnone] at hoffers
      cases hoffers
    · rw [hsome] at hoffers
      cases hoffers
      refine ⟨hplain, fun packet hpacket => ?_⟩
      cases hpacket
  | _ => cases hoffers

section Collect

variable {s s' : Collected} {ring : FrameRing} {op : Op}

theorem Collected.InRing.offered (h : s.InRing ring) (hplain : op.Plain) {n : ℕ} {r : Report}
    (hoffers : s.c.offers op = some (n, r)) :
    Collected.InRing
      { c := (s.c.act op).1
        accepted := s.accepted ++
          [(n, r)].filter fun p => Recent s.accepted frameRingSize p.1
        closed := (s.c.closes op).toList ++ s.closed }
      (SlotRing.put unreported Report.join ring n r) := by
  rcases offers_plain hoffers hplain with ⟨hn, htime⟩
  have hframe : n ≠ noFrame := by
    unfold noFrame
    omega
  have htracks := h.refines.tracks_iff hn
  rw [h.accepted] at htracks
  have hcloses : s.c.closes op = if s.c.Tracks n then s.c.evicts n else none := by
    unfold closes
    rw [hoffers]
  rcases act_offered h.refines.blank hoffers with ⟨htracked, hjoined⟩ | ⟨hold, hkept⟩
  · -- Tracked: a contribution of the slot ring
    have hrecent : Recent ring.accepted frameRingSize n := by
      rw [h.accepted]
      exact htracks.mp htracked
    rw [hcloses, if_pos htracked,
      List.filter_cons_of_pos (by simpa using htracks.mp htracked)]
    constructor
    · exact h.refines.put hframe hrecent hjoined
    · exact put_sound h.sound r
    · unfold SlotRing.put
      rw [if_pos hrecent, ← h.accepted]
      rfl
    · unfold SlotRing.put
      rw [if_pos hrecent, ← h.closed, h.refines.displaced_eq]
      cases s.c.evicts n <;> rfl
    · intro p hp
      rcases List.mem_append.mp hp with hbefore | hnow
      · exact h.timed p hbefore
      · cases List.mem_singleton.mp hnow
        exact htime
  · -- Too old: nothing is joined, nothing accepted and nothing evicted
    have hlate : ¬ Recent s.accepted frameRingSize n := fun hrecent => hold (htracks.mpr hrecent)
    rw [hcloses, if_neg hold, List.filter_cons_of_neg (by simpa using hlate)]
    unfold SlotRing.put
    rw [h.accepted, if_neg hlate]
    constructor
    · exact h.refines.kept hkept
    · exact h.sound
    · exact h.accepted.trans (List.append_nil _).symm
    · exact h.closed
    · intro p hp
      rw [List.filter_nil, List.append_nil] at hp
      exact h.timed p hp

theorem Collected.InRing.unoffered (h : s.InRing ring) (hover : s.c.startsOver op = false)
    (hoffers : s.c.offers op = none) :
    Collected.InRing
      { c := (s.c.act op).1, accepted := s.accepted ++ []
        closed := (s.c.closes op).toList ++ s.closed } ring := by
  have hcloses : s.c.closes op = none := by
    unfold closes
    rw [hoffers]
  rw [hcloses, List.append_nil]
  exact ⟨h.refines.kept (act_unoffered hoffers hover), h.sound, h.accepted, h.closed, h.timed⟩

/-- Every step contributes to the slot ring, or leaves it alone. -/
theorem collectStep_inRing (h : ∃ ring, s.InRing ring) (hstep : collectStep s op = some s') :
    ∃ ring, s'.InRing ring := by
  rcases h with ⟨ring, h⟩
  rcases collectStep_cases hstep with ⟨hguard, rfl⟩
  cases hoffers : s.c.offers op with
  | none => exact ⟨ring, h.unoffered hguard.1 hoffers⟩
  | some report => exact ⟨_, h.offered hguard.2 hoffers⟩

theorem content_index (accepted : List (ℕ × Report)) (n : ℕ) :
    (content unreported Report.join accepted n).index = n := by
  unfold content
  induction contributions accepted n using List.reverseRecOn with
  | nil => rfl
  | append_singleton reports r ih =>
    rw [List.foldl_append]
    exact (join_index r _).trans ih

theorem mem_contributions {accepted : List (ℕ × Report)} {n : ℕ} {r : Report}
    (h : r ∈ contributions accepted n) : ∃ p ∈ accepted, p.2 = r := by
  rcases List.mem_map.mp h with ⟨p, hp, hr⟩
  exact ⟨p, List.mem_of_mem_filter hp, hr⟩

theorem Collected.InRing.index_eq (h : s.InRing ring) :
    s.closed.map (·.index) = ring.evicted.map (·.1) := by
  rw [← h.closed, List.map_map]
  apply List.map_congr_left
  intro q hq
  show q.2.index = q.1
  rw [(h.sound.gone q hq).1]
  exact content_index _ _

/-- Every frame closed so far was the join of all that was accepted for it. -/
theorem Collected.InRing.joined (h : s.InRing ring) {f : FrameState} (hf : f ∈ s.closed) :
    JoinOf (contributions s.accepted f.index) f := by
  rw [← h.closed] at hf
  rcases List.mem_map.mp hf with ⟨q, hq, rfl⟩
  have hcontent := (h.sound.gone q hq).1
  rw [h.accepted] at hcontent
  rw [hcontent, content_index]
  -- The ring has joined the reports in the order in which they came
  apply joinOf_foldl
  intro packet hpacket
  rcases mem_contributions hpacket with ⟨p, hp, hr⟩
  exact h.timed p hp packet hr

/-- A frame that leaves its slot is closed. -/
theorem closes_of_left (hblank : s.c.Blank) (hstep : collectStep s op = some s')
    {i : Fin frameRingSize} (htaken : (s.c.frames i).index ≠ noFrame)
    (hleft : (s'.c.frames i).index ≠ (s.c.frames i).index) :
    s.c.closes op = some (s.c.frames i) := by
  rcases collectStep_cases hstep with ⟨hguard, rfl⟩
  cases hoffers : s.c.offers op with
  | none => exact absurd (by rw [(act_unoffered hoffers hguard.1).frames]) hleft
  | some report =>
    rcases report with ⟨n, r⟩
    rcases act_offered hblank hoffers with ⟨htracked, hjoined⟩ | ⟨-, hkept⟩
    · dsimp only at hleft
      rw [hjoined.frames] at hleft
      by_cases hi : i = slot n
      · rw [hi, Function.update_self, join_index] at hleft
        unfold claimed at hleft
        split at hleft
        · exact absurd rfl hleft
        · rename_i hother
          unfold closes evicts
          rw [hoffers]
          dsimp only
          rw [if_pos htracked, if_neg (not_or.mpr ⟨hother, hi ▸ htaken⟩), hi]
      · rw [Function.update_of_ne hi] at hleft
        exact absurd rfl hleft
    · exact absurd (by rw [hkept.frames]) hleft

end Collect

/-- No frame is closed twice, and each is closed as the join of everything that was
accepted for it. A frame that leaves the ring is closed, and only that leaves a sample. -/
structure OneSample (s : Collected) (op : Op) (s' : Collected) : Prop where
  once : (s'.closed.map (·.index)).Nodup
  joined : ∀ f ∈ s'.closed, JoinOf (contributions s'.accepted f.index) f
  left : ∀ i, (s.c.frames i).index ≠ noFrame →
    (s'.c.frames i).index ≠ (s.c.frames i).index → s.c.closes op = some (s.c.frames i)
  judged : ∀ i, s.c.judges op = some i → ∃ f, s.c.closes op = some f ∧ f.index = i

/-- Without a reset every frame is at most one sample, and nothing that was accepted for
it is missing there, or in there twice. -/
theorem frames_joined (c : BitrateController) (conf : Config) (ceilingBps : ℕ)
    (clientEnabled radioAware : Bool) (clientMode : Option BitrateMode) (ops : List Op) :
    Runs.Along collectStep OneSample
      { c := c.configure conf ceilingBps clientEnabled radioAware clientMode } ops := by
  have hkept : ∀ s op s', (∃ ring, Collected.InRing s ring) → collectStep s op = some s' →
      ∃ ring, s'.InRing ring :=
    fun s op s' h hstep => collectStep_inRing h hstep
  refine Runs.along_of_invariant hkept (fun s op s' h hstep => ?_) ops _ ?_
  · rcases hkept s op s' h hstep with ⟨ring', h'⟩
    rcases h with ⟨ring, h⟩
    constructor
    · rw [h'.index_eq]
      exact h'.sound.nodup
    · exact fun f hf => h'.joined hf
    · exact fun i => closes_of_left h.refines.blank hstep
    · exact fun i => judges_closes
  · refine ⟨{}, ?_⟩
    constructor
    · exact configure_refines c conf ceilingBps clientEnabled radioAware clientMode
    · exact empty_sound _ _
    · rfl
    · rfl
    · exact List.forall_mem_nil _

/-- The packet of a stream that was complete. -/
def arrived (frameIndex streamIndex : ℕ) (first last : ℤ) : Op :=
  .onFeedback
    { frameIndex := frameIndex, streamIndex := streamIndex, receivedFirstPacket := first,
      receivedLastPacket := last, sentToDecoder := last + 1 } 11111111 true (ms 1)

/-- Two streams of one frame, one of them answered for twice, and once more when the frame
is 17 behind. -/
example :
    let c := ({} : BitrateController).configure { control := .bbr } 100000000 true true none
    let ops : List Op :=
      [.onFrameBytes 0 0 20000 (ms 1), arrived 0 1 20 30, .onFrameBytes 0 1 5000 (ms 1),
        arrived 0 0 10 25, arrived 0 1 20 30, arrived 17 0 40 50, arrived 0 0 5 90,
        arrived 16 0 40 50]
    ∃ s ∈ Runs.run collectStep { c := c } ops,
      s.closed = [{ index := 0, first := 10, last := 30, valid := true, bytes := 25000 }] := by
  decide +kernel

end WivrnNx.BitrateController
