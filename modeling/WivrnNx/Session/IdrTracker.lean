import WivrnNx.Lib.Runs
import WivrnNx.Packets

/-!
# When the stream needs a key frame

`IdrTracker` (wivrn/idr_tracker.h): four states, moved by the frames put on the
wire and by the headset's feedback, plus a floor on how often a recovery IDR may
be asked for. A request inside the floor is held (`pending`) and comes back out
of `poll`.

The stream has no periodic IDR and every frame is referenced by the next one, so
a loss that the tracker does not answer is never repaired. Here:

- the tracker, translated call by call;
- `Trace`, the tracker next to what an observer of the wire knows;
- `Inv` and `step_inv`: outside `needIdr` nothing has been asked for since the
  last IDR, inside it something has;
- `losses_answered_iff`: which reported losses are answered, over every run.
-/

namespace WivrnNx

/-- `IdrTracker::State`. -/
inductive IdrState where
  | needIdr | waitIdrFeedback | idrReceived | running
deriving DecidableEq, Repr

/-- `IdrTracker`. A time point is a number of nanoseconds, the default-constructed
one is `0`. -/
structure IdrTracker where
  state : IdrState := .needIdr
  idrId : ℕ := 0
  firstP : ℕ := 0
  pending : Bool := false
  lastRequest : ℤ := 0
  damped : ℕ := 0
deriving DecidableEq, Repr

namespace IdrTracker

/-- Shortest interval between two recovery IDRs (500 ms). -/
def minRecoveryInterval : ℤ := 500000000

/-- A new session: the client's decoders are empty. -/
def reset (_ : IdrTracker) : IdrTracker := {}

/-- Called once per frame put on the wire, per stream. -/
def onFrameSent (t : IdrTracker) (frameIndex : ℕ) (idr : Bool) : IdrTracker :=
  if idr then
    { t with state := .waitIdrFeedback, idrId := frameIndex, pending := false }
  else if t.state = .idrReceived then
    { t with state := .running, firstP := frameIndex }
  else t

/-- Grants a recovery IDR, or holds it until the floor expires. -/
def request (t : IdrTracker) (now : ℤ) : IdrTracker × Bool :=
  if t.lastRequest ≠ 0 ∧ now - t.lastRequest < minRecoveryInterval then
    ({ t with damped := if t.pending then t.damped else t.damped + 1, pending := true }, false)
  else
    ({ t with pending := false, lastRequest := now }, true)

/-- True when this feedback means the next frame has to be a key frame and
asking for it is allowed now. -/
def onFeedback (t : IdrTracker) (f : Feedback) (now : ℤ) : IdrTracker × Bool :=
  match t.state with
  | .needIdr => (t, false)
  | .idrReceived => (t, false)
  | .waitIdrFeedback =>
    -- Feedback for any other frame says nothing about whether the key frame landed
    if f.frameIndex ≠ t.idrId then (t, false)
    else if f.sentToDecoder ≠ 0 then ({ t with state := .idrReceived }, false)
    else request { t with state := .needIdr } now
  | .running =>
    if f.sentToDecoder ≠ 0 ∨ f.frameIndex < t.firstP then (t, false)
    else request { t with state := .needIdr } now

/-- True when a request that the floor held back may go out now. -/
def poll (t : IdrTracker) (now : ℤ) : IdrTracker × Bool :=
  if ¬ t.pending then (t, false)
  else if now - t.lastRequest < minRecoveryInterval then (t, false)
  else ({ t with pending := false, lastRequest := now }, true)

/-! ## What each call can do -/

/-- A request leaves the state alone and is either granted or held. -/
theorem request_spec (t : IdrTracker) (now : ℤ) :
    (request t now).1.state = t.state ∧ (request t now).1.idrId = t.idrId ∧
      (request t now).1.firstP = t.firstP ∧
      ((request t now).1.pending = true ∨ (request t now).2 = true) := by
  unfold request
  split <;> simp

/-- The feedback that asks for a recovery: the IDR itself lost, or, once P frames
are being watched, one of those lost. -/
def Hears (t : IdrTracker) (f : Feedback) : Prop :=
  f.sentToDecoder = 0 ∧
    (t.state = .waitIdrFeedback ∧ f.frameIndex = t.idrId ∨
      t.state = .running ∧ t.firstP ≤ f.frameIndex)

/-- A P frame starts the watch when the IDR has just been confirmed, and is
otherwise no news to the tracker. -/
theorem onFrameSent_p_cases (t : IdrTracker) (frameIndex : ℕ) :
    (t.state = .idrReceived ∧
      t.onFrameSent frameIndex false = { t with state := .running, firstP := frameIndex }) ∨
    (t.state ≠ .idrReceived ∧ t.onFrameSent frameIndex false = t) := by
  by_cases h : t.state = .idrReceived
  · exact .inl ⟨h, by simp [onFrameSent, h]⟩
  · exact .inr ⟨h, by simp [onFrameSent, h]⟩

/-- A feedback asks for a recovery, confirms the IDR, or is ignored. -/
theorem onFeedback_cases (t : IdrTracker) (f : Feedback) (now : ℤ) :
    (t.Hears f ∧ t.onFeedback f now = request { t with state := .needIdr } now) ∨
    (t.state = .waitIdrFeedback ∧ f.frameIndex = t.idrId ∧ f.sentToDecoder ≠ 0 ∧
      t.onFeedback f now = ({ t with state := .idrReceived }, false)) ∨
    (¬ t.Hears f ∧ t.onFeedback f now = (t, false)) := by
  cases hst : t.state with
  | needIdr => exact .inr (.inr ⟨by simp [Hears, hst], by simp [onFeedback, hst]⟩)
  | idrReceived => exact .inr (.inr ⟨by simp [Hears, hst], by simp [onFeedback, hst]⟩)
  | waitIdrFeedback =>
    by_cases hidx : f.frameIndex = t.idrId
    · by_cases hdec : f.sentToDecoder = 0
      · exact .inl ⟨⟨hdec, .inl ⟨hst, hidx⟩⟩, by simp [onFeedback, hst, hidx, hdec]⟩
      · exact .inr (.inl ⟨rfl, hidx, hdec, by simp [onFeedback, hst, hidx, hdec]⟩)
    · exact .inr (.inr ⟨by simp [Hears, hst, hidx], by simp [onFeedback, hst, hidx]⟩)
  | running =>
    by_cases hlost : f.sentToDecoder = 0 ∧ t.firstP ≤ f.frameIndex
    · refine .inl ⟨⟨hlost.1, .inr ⟨hst, hlost.2⟩⟩, ?_⟩
      simp [onFeedback, hst, hlost.1, Nat.not_lt.mpr hlost.2]
    · have hskip : f.sentToDecoder ≠ 0 ∨ f.frameIndex < t.firstP := by
        by_cases hdec : f.sentToDecoder = 0
        · exact .inr (Nat.lt_of_not_le fun hle => hlost ⟨hdec, hle⟩)
        · exact .inl hdec
      refine .inr (.inr ⟨?_, by simp [onFeedback, hst, hskip]⟩)
      rintro ⟨hdec, ⟨hwait, -⟩ | ⟨-, hle⟩⟩
      · simp [hst] at hwait
      · exact hlost ⟨hdec, hle⟩

/-- `poll` either turns a held request into a granted one or does nothing. -/
theorem poll_cases (t : IdrTracker) (now : ℤ) :
    (t.pending = true ∧ t.poll now = ({ t with pending := false, lastRequest := now }, true)) ∨
      t.poll now = (t, false) := by
  by_cases hp : t.pending = true
  · by_cases hfloor : now - t.lastRequest < minRecoveryInterval
    · exact .inr (by simp [poll, hfloor])
    · exact .inl ⟨hp, by simp [poll, hp, hfloor]⟩
  · exact .inr (by simp [poll, hp])

/-- A held request stays held until it is made. -/
theorem onFeedback_held {t : IdrTracker} (h : t.pending = true) (f : Feedback) (now : ℤ) :
    (t.onFeedback f now).1.pending = true ∨ (t.onFeedback f now).2 = true := by
  rcases t.onFeedback_cases f now with ⟨-, heq⟩ | ⟨-, -, -, heq⟩ | ⟨-, heq⟩
  · rw [heq]
    exact (request_spec _ now).2.2.2
  · rw [heq]
    exact .inl h
  · rw [heq]
    exact .inl h

theorem poll_held {t : IdrTracker} (h : t.pending = true) (now : ℤ) :
    (t.poll now).1.pending = true ∨ (t.poll now).2 = true := by
  rcases t.poll_cases now with ⟨-, heq⟩ | heq
  · rw [heq]
    exact .inr rfl
  · rw [heq]
    exact .inl h

end IdrTracker

/-! ## The tracker and its observer -/

namespace IdrTrace

open IdrTracker

/-- The calls a session makes on its tracker. -/
inductive Call where
  | frameSent (frameIndex : ℕ) (idr : Bool)
  | feedback (f : Feedback) (now : ℤ)
  | poll (now : ℤ)
deriving DecidableEq, Repr

/-- The tracker, and what an observer of its calls remembers: the last frame
sent, the most recent IDR, the P frames sent since, and whether a recovery has
been granted since. -/
structure Trace where
  tracker : IdrTracker := {}
  lastSent : Option (ℕ × Bool) := none
  idr : Option ℕ := none
  sentP : List ℕ := []
  granted : Bool := false
deriving DecidableEq, Repr

/-- Frame indices increase; the two eyes of a frame share index and kind. -/
def InTurn (last : Option (ℕ × Bool)) (frameIndex : ℕ) (idr : Bool) : Prop :=
  ∀ p ∈ last, p.1 < frameIndex ∨ p = (frameIndex, idr)

instance (last : Option (ℕ × Bool)) (frameIndex : ℕ) (idr : Bool) :
    Decidable (InTurn last frameIndex idr) :=
  match last with
  | none => isTrue (by simp [InTurn])
  | some p => decidable_of_iff (p.1 < frameIndex ∨ p = (frameIndex, idr)) (by simp [InTurn])

/-- The observer's side of a frame sent. An IDR counts as sent with the call for
its last eye. -/
def Trace.observeSent (s : Trace) (frameIndex : ℕ) : Bool → Trace
  | true =>
    { s with lastSent := some (frameIndex, true), idr := some frameIndex, sentP := [],
             granted := false }
  | false =>
    { s with lastSent := some (frameIndex, false),
             sentP := if s.idr.isSome then frameIndex :: s.sentP else s.sentP }

/-- One call on the tracker, with the observer's notes. -/
def step (s : Trace) : Call → Option Trace
  | .frameSent frameIndex idr =>
    if InTurn s.lastSent frameIndex idr then
      some { s.observeSent frameIndex idr with tracker := s.tracker.onFrameSent frameIndex idr }
    else none
  | .feedback f now =>
    let (t, asked) := s.tracker.onFeedback f now
    some { s with tracker := t, granted := s.granted || asked }
  | .poll now =>
    let (t, asked) := s.tracker.poll now
    some { s with tracker := t, granted := s.granted || asked }

/-- A recovery is owed or was granted since the most recent IDR. -/
def Trace.Answered (s : Trace) : Prop := s.tracker.pending = true ∨ s.granted = true

instance (s : Trace) : Decidable s.Answered := inferInstanceAs (Decidable (_ ∨ _))

/-- The call reports the loss of a P frame sent since the most recent IDR. -/
def LossReport (s : Trace) : Call → Prop
  | .feedback f _ => f.sentToDecoder = 0 ∧ f.frameIndex ∈ s.sentP
  | _ => False

instance (s : Trace) : ∀ c, Decidable (LossReport s c)
  | .frameSent _ _ => inferInstanceAs (Decidable False)
  | .feedback _ _ => inferInstanceAs (Decidable (_ ∧ _))
  | .poll _ => inferInstanceAs (Decidable False)

/-- No reported loss goes unanswered. -/
def LossAnswered (s : Trace) (c : Call) (s' : Trace) : Prop := LossReport s c → s'.Answered

instance : ∀ s c s', Decidable (LossAnswered s c s') := fun _ _ _ =>
  inferInstanceAs (Decidable (_ → _))

/-- The tracker is in a state that takes the report of a lost P frame `f` into
account: a recovery was asked for already, or `f` went out after the headset had
confirmed the IDR. -/
def Counts (t : IdrTracker) (f : ℕ) : Prop :=
  t.state = .needIdr ∨ t.state = .running ∧ t.firstP ≤ f

/-- Every loss report finds the tracker in such a state. -/
def LossCounted (s : Trace) (c : Call) (_ : Trace) : Prop :=
  ∀ f now, c = .feedback f now → LossReport s c → Counts s.tracker f.frameIndex

/-! ## Invariant -/

/-- What the tracker's state says about the requests since the last IDR. -/
structure Inv (s : Trace) : Prop where
  /-- In `needIdr`, once an IDR was sent, the recovery is held or was granted. -/
  asked : s.tracker.state = .needIdr → s.idr.isSome → s.Answered
  /-- In any other state nothing was asked for since the IDR. -/
  silent : s.tracker.state ≠ .needIdr → s.tracker.pending = false ∧ s.granted = false
  /-- While the IDR's feedback is outstanding, `idrId` is that IDR. -/
  waiting : s.tracker.state = .waitIdrFeedback → s.idr = some s.tracker.idrId
  /-- The P frames sent since the IDR are newer than it. -/
  newer : ∀ k ∈ s.idr, ∀ f ∈ s.sentP, k < f
  /-- The last frame sent is the IDR or newer than it. -/
  last : ∀ k ∈ s.idr, ∃ i b, s.lastSent = some (i, b) ∧ k ≤ i ∧ (b = false → k < i)
  /-- Before the first IDR the observer has noted no P frame. -/
  fresh : s.idr = none → s.sentP = []

theorem init_inv : Inv {} where
  asked := by simp
  silent := by simp
  waiting := by simp
  newer := by simp
  last := by simp
  fresh := by simp

/-- Asking for a recovery out of any state re-establishes the invariant. -/
theorem Inv.request {s : Trace} (h : Inv s) (now : ℤ) :
    Inv { s with
      tracker := (IdrTracker.request { s.tracker with state := .needIdr } now).1
      granted := s.granted || (IdrTracker.request { s.tracker with state := .needIdr } now).2 } := by
  obtain ⟨hstate, -, -, hasked⟩ := request_spec { s.tracker with state := .needIdr } now
  refine ⟨?_, ?_, ?_, h.newer, h.last, h.fresh⟩
  · intro _ _
    rcases hasked with hheld | hgranted
    · exact .inl hheld
    · exact .inr (by simp [hgranted])
  · intro hne
    exact absurd hstate hne
  · intro hwait
    rw [hstate] at hwait
    cases hwait

theorem sent_inv {s : Trace} (h : Inv s) {frameIndex : ℕ} {idr : Bool}
    (hturn : InTurn s.lastSent frameIndex idr) :
    Inv { s.observeSent frameIndex idr with
      tracker := s.tracker.onFrameSent frameIndex idr } := by
  cases idr with
  | true =>
    -- An IDR serves whatever asked for it and starts a new wait
    constructor <;> simp [Trace.observeSent, onFrameSent]
  | false =>
    -- A P frame is newer than the IDR: the last frame sent was
    have hnew : ∀ k ∈ s.idr, k < frameIndex := by
      intro k hk
      obtain ⟨i, b, hlast, hki, hb⟩ := h.last k hk
      rcases hturn (i, b) hlast with hlt | heq
      · exact lt_of_le_of_lt hki hlt
      · obtain ⟨rfl, rfl⟩ := Prod.mk.inj heq
        exact hb rfl
    have hnewer : ∀ k ∈ s.idr, ∀ f ∈ (s.observeSent frameIndex false).sentP, k < f := by
      intro k hk f hf
      rw [Trace.observeSent, if_pos (by simp [Option.mem_def.mp hk]), List.mem_cons] at hf
      rcases hf with rfl | hf
      · exact hnew k hk
      · exact h.newer k hk f hf
    have hlast : ∀ k ∈ s.idr, ∃ i b,
        some (frameIndex, false) = some (i, b) ∧ k ≤ i ∧ (b = false → k < i) := by
      intro k hk
      exact ⟨frameIndex, false, rfl, le_of_lt (hnew k hk), fun _ => hnew k hk⟩
    have hfresh : s.idr = none → (s.observeSent frameIndex false).sentP = [] := by
      intro hnone
      simpa [Trace.observeSent, hnone] using h.fresh hnone
    rcases onFrameSent_p_cases s.tracker frameIndex with ⟨hrec, heq⟩ | ⟨-, heq⟩
    · -- The watch starts: nothing was asked for in `idrReceived`
      rw [heq]
      exact ⟨by simp, fun _ => h.silent (by simp [hrec]), by simp, hnewer, hlast, hfresh⟩
    · rw [heq]
      exact ⟨h.asked, h.silent, h.waiting, hnewer, hlast, hfresh⟩

theorem step_inv (s : Trace) (c : Call) (s' : Trace) (h : Inv s) (hs : step s c = some s') :
    Inv s' := by
  cases c with
  | frameSent frameIndex idr =>
    simp only [step] at hs
    split at hs
    · cases hs
      exact sent_inv h ‹_›
    · cases hs
  | feedback f now =>
    simp only [step, Option.some.injEq] at hs
    subst hs
    rcases onFeedback_cases s.tracker f now with ⟨-, heq⟩ | ⟨hwait, -, -, heq⟩ | ⟨-, heq⟩
    · -- The feedback asks: the request is held or granted
      rw [heq]
      exact h.request now
    · -- The IDR is confirmed: nothing was asked for while it was outstanding
      rw [heq]
      have hquiet := h.silent (by simp [hwait])
      exact ⟨by simp, by simpa using hquiet, by simp, h.newer, h.last, h.fresh⟩
    · -- Ignored
      rw [heq]
      simpa using h
  | poll now =>
    simp only [step, Option.some.injEq] at hs
    subst hs
    rcases poll_cases s.tracker now with ⟨hp, heq⟩ | heq
    · -- Held means `needIdr`, and granting keeps the debt answered
      rw [heq]
      have hneed : s.tracker.state = .needIdr := by
        by_contra hne
        simp [(h.silent hne).1] at hp
      exact ⟨by simp [Trace.Answered], by simp [hneed], by simp [hneed], h.newer, h.last,
        h.fresh⟩
    · rw [heq]
      simpa using h

/-! ## Which losses are answered -/

/-- At one report: the loss is answered exactly when the tracker counts it. -/
theorem loss_answered_iff {s s' : Trace} (h : Inv s) {f : Feedback} {now : ℤ}
    (hs : step s (.feedback f now) = some s') (hlost : LossReport s (.feedback f now)) :
    s'.Answered ↔ Counts s.tracker f.frameIndex := by
  obtain ⟨hdec, hmem⟩ := hlost
  have hsome : s.idr.isSome := by
    rw [Option.isSome_iff_ne_none]
    intro hnone
    simp [h.fresh hnone] at hmem
  simp only [step, Option.some.injEq] at hs
  subst hs
  rcases onFeedback_cases s.tracker f now with ⟨hhear, heq⟩ | ⟨-, -, hne, -⟩ | ⟨hdeaf, heq⟩
  · -- Heard: the IDR is older than any P frame, so it is the running case
    obtain ⟨-, -, -, hasked⟩ := request_spec { s.tracker with state := .needIdr } now
    rw [heq]
    constructor
    · intro _
      rcases hhear.2 with ⟨hwait, hidx⟩ | hrun
      · have := h.newer s.tracker.idrId (h.waiting hwait) f.frameIndex hmem
        omega
      · exact .inr hrun
    · intro _
      rcases hasked with hheld | hgranted
      · exact .inl hheld
      · exact .inr (by simp [hgranted])
  · exact absurd hdec hne
  · -- Ignored: answered only if the tracker was already asking
    rw [heq]
    by_cases hneed : s.tracker.state = .needIdr
    · have := h.asked hneed hsome
      simp_all [Counts, Trace.Answered]
    · have hquiet := h.silent hneed
      have hdeaf' : ¬ Counts s.tracker f.frameIndex := by
        rintro (hn | hrun)
        · exact hneed hn
        · exact hdeaf ⟨hdec, .inr hrun⟩
      simp [Trace.Answered, hquiet, hdeaf']

/-- Over every run from a reset tracker: every reported loss of a P frame sent
since the last IDR is answered exactly when every such report finds the tracker
already asking, or watching frames at least as old as the lost one. -/
theorem losses_answered_iff (calls : List Call) :
    Runs.Along step LossAnswered {} calls ↔ Runs.Along step LossCounted {} calls := by
  refine Runs.along_iff step_inv ?_ calls {} init_inv
  intro s c s' h hs
  constructor
  · rintro hanswered f now rfl hlost
    exact (loss_answered_iff h hs hlost).mp (hanswered hlost)
  · intro hcounted hlost
    cases c with
    | feedback f now => exact (loss_answered_iff h hs hlost).mpr (hcounted f now rfl hlost)
    | frameSent _ _ => exact hlost.elim
    | poll _ => exact hlost.elim

/-- A P frame that follows its IDR before the IDR's feedback is back: its loss is
reported and nothing is asked for. -/
theorem loss_while_waiting_unanswered :
    ¬ Runs.Along step LossAnswered {}
      [.frameSent 1 true, .frameSent 1 true, .frameSent 2 false, .frameSent 2 false,
        .feedback { frameIndex := 2 } 1000000000] := by
  decide

end IdrTrace

end WivrnNx
