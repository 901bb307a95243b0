import WivrnNx.Intake.EncoderSteps

/-!
# The intake's accounts

What the intake owes, and what it has answered. A frame enters with a ticket; its answer
carries the same one, and takes it away.

- `live`, `tickets`: the frames somebody still works on, and what is still to be
  answered or already is;
- `Ledger`: what a call of the pipe loop or a step of the encoder thread may do to them;
- `encoderStep_ledger`: the encoder thread answers every frame it took.
-/

namespace WivrnNx.VideoIntake

open Ipc

/-- A frame and its answer carry the same ticket. -/
def ticket (frame : FrameReady) : ℕ × ℕ := (frame.frameId, frame.stagingIndex)
def doneTicket (done : FrameDone) : ℕ × ℕ := (done.frameId, done.stagingIndex)

/-- The frames that wait or are being encoded. -/
def live (i : VideoIntake) : Multiset FrameReady :=
  ↑i.pending.toList + ↑i.thread.frame?.toList

/-- The answers that nobody has fetched. -/
def answers (i : VideoIntake) : Multiset (ℕ × ℕ) := ↑(i.done.map doneTicket)

/-- Everything the intake still owes somebody. -/
def tickets (i : VideoIntake) : Multiset (ℕ × ℕ) := i.live.map ticket + i.answers

/-- What a step may do to the accounts: take in `new`, and lose a ticket only by
answering into a full `done_`. -/
structure Ledger (i i' : VideoIntake) (new : Multiset FrameReady) : Prop where
  live : i'.live ≤ i.live + new
  tickets : ∃ lost, i'.tickets + lost = i.tickets + new.map ticket ∧
    (i.done.length < maxDone → lost = 0)

@[simp] theorem pushDone_pending (i : VideoIntake) (frame : FrameReady) (flags : ℕ) :
    (i.pushDone frame flags).pending = i.pending := rfl

@[simp] theorem pushDone_thread (i : VideoIntake) (frame : FrameReady) (flags : ℕ) :
    (i.pushDone frame flags).thread = i.thread := rfl

/-- `push_done` answers one frame, at the cost of the oldest answer when full. -/
theorem pushDone_answers (i : VideoIntake) (frame : FrameReady) (flags : ℕ) :
    ∃ lost, (i.pushDone frame flags).answers + lost = i.answers + {ticket frame} ∧
      (i.done.length < maxDone → lost = 0) := by
  by_cases hfull : maxDone ≤ i.done.length
  · cases hdone : i.done with
    | nil => simp [hdone, maxDone] at hfull
    | cons oldest rest =>
      have hlong : ¬ (oldest :: rest).length < maxDone := by rw [← hdone]; omega
      refine ⟨{doneTicket oldest}, ?_, fun h => absurd h hlong⟩
      rw [hdone] at hfull
      simp only [answers, pushDone, hdone, if_pos hfull, List.tail_cons, List.map_append,
        List.map_cons, List.map_nil, ← Multiset.coe_add, ← Multiset.cons_coe, Multiset.coe_nil,
        ← Multiset.singleton_add, doneTicket, ticket]
      abel
  · refine ⟨0, ?_, fun _ => rfl⟩
    simp only [answers, pushDone, if_neg hfull, List.map_append, List.map_cons, List.map_nil,
      ← Multiset.coe_add, add_zero]
    rfl

/-- A step that keeps who waits, who is encoded and what is answered. -/
theorem Ledger.same {i i' : VideoIntake} (hpending : i'.pending = i.pending)
    (hthread : i'.thread.frame? = i.thread.frame?) (hdone : i'.done = i.done) :
    Ledger i i' 0 where
  live := by simp [VideoIntake.live, hpending, hthread]
  tickets := ⟨0, by simp [VideoIntake.tickets, VideoIntake.live, answers, hpending, hthread, hdone],
    fun _ => rfl⟩

/-- Answering one of the frames it worked on. -/
theorem Ledger.answered {i i' : VideoIntake} {frame : FrameReady} {flags : ℕ}
    (hlive : i.live = i'.live + {frame}) (hdone : i'.done = (i.pushDone frame flags).done) :
    Ledger i i' 0 where
  live := by rw [hlive, add_zero]; exact Multiset.le_add_right _ _
  tickets := by
    obtain ⟨lost, hlost, hroom⟩ := pushDone_answers i frame flags
    refine ⟨lost, ?_, hroom⟩
    have hanswers : i'.answers = (i.pushDone frame flags).answers := by simp [answers, hdone]
    simp only [VideoIntake.tickets, hlive, hanswers, Multiset.map_add, Multiset.map_singleton,
      Multiset.map_zero, add_zero]
    calc i'.live.map ticket + (i.pushDone frame flags).answers + lost
        = i'.live.map ticket + (i.answers + {ticket frame}) := by rw [add_assoc, hlost]
      _ = i'.live.map ticket + {ticket frame} + i.answers := by
          rw [add_comm i.answers, add_assoc]

/-- Moving the waiting frame to the encoder thread. -/
theorem takePending_ledger {i : VideoIntake} (hthread : i.thread.frame? = none) :
    Ledger i i.takePending 0 := by
  unfold takePending
  cases hpending : i.pending with
  | none => exact .same hpending.symm (by rw [hthread]; rfl) rfl
  | some frame =>
    have hlive : ({ i with pending := none, thread := .taken frame } : VideoIntake).live =
        i.live := by
      simp only [live, hpending, hthread]
      rfl
    exact ⟨by simp [hlive], 0, by simp [tickets, hlive, answers], fun _ => rfl⟩

theorem dropOther_ledger (i : VideoIntake) (config : StagingConfig) :
    Ledger i (i.dropOther config) 0 := by
  unfold dropOther
  cases hpending : i.pending with
  | none => exact .same rfl rfl rfl
  | some frame =>
    dsimp only
    split
    · exact .answered (by simp [live, hpending, add_comm]) rfl
    · exact .same rfl rfl rfl

theorem onStagingConfig_ledger (i : VideoIntake) (config : StagingConfig) :
    Ledger i (i.onStagingConfig config) 0 :=
  ⟨(dropOther_ledger i config).live, (dropOther_ledger i config).tickets⟩

theorem supersede_ledger (i : VideoIntake) :
    Ledger i { i.supersede with pending := none } 0 := by
  unfold supersede
  cases hpending : i.pending with
  | none => exact .same hpending.symm rfl rfl
  | some old => exact .answered (by simp [live, refuse, hpending, add_comm]) rfl

theorem refuse_ledger (i : VideoIntake) (frame : FrameReady) :
    Ledger i (i.refuse frame) {frame} := by
  obtain ⟨lost, hlost, hroom⟩ := pushDone_answers i frame doneDropped
  refine ⟨Multiset.le_add_right _ _, lost, ?_, hroom⟩
  calc i.live.map ticket + (i.pushDone frame doneDropped).answers + lost
      = i.live.map ticket + (i.answers + {ticket frame}) := by rw [add_assoc, hlost]
    _ = i.live.map ticket + i.answers + {ticket frame} := (add_assoc _ _ _).symm

theorem accept_ledger (i : VideoIntake) (frame : FrameReady) :
    Ledger i (i.accept frame) {frame} := by
  have hsup := supersede_ledger i
  have hwait : (i.accept frame).live =
      ({ i.supersede with pending := none } : VideoIntake).live + {frame} := by
    simp [live, accept, add_comm]
  refine ⟨?_, ?_⟩
  · rw [hwait]
    exact add_le_add_left (by simpa using hsup.live) _
  · obtain ⟨lost, hlost, hroom⟩ := hsup.tickets
    refine ⟨lost, ?_, hroom⟩
    simp only [Multiset.map_zero, add_zero] at hlost
    rw [Multiset.map_singleton, ← hlost]
    simp only [tickets, hwait, Multiset.map_add, Multiset.map_singleton]
    simp only [answers, accept]
    abel

/-- A frame the intake receives is answered or waits. -/
theorem onFrameReady_ledger (i : VideoIntake) (active : Bool) (frame : FrameReady) :
    Ledger i (i.onFrameReady active frame) {frame} := by
  have hcount : ∀ i', Ledger { i with framesSeen := i.framesSeen + 1 } i' {frame} →
      Ledger i i' {frame} := fun _ h => ⟨h.live, h.tickets⟩
  apply hcount
  simp only [onFrameReady]
  split
  · exact refuse_ledger _ frame
  · split
    · exact refuse_ledger _ frame
    · exact accept_ledger _ frame

/-- A fetched answer leaves the accounts. -/
theorem popDone_ledger {i i' : VideoIntake} {d : FrameDone} (h : i.popDone = some (d, i')) :
    i'.live = i.live ∧ i.tickets = i'.tickets + {doneTicket d} := by
  unfold popDone at h
  cases hdone : i.done with
  | nil => simp [hdone] at h
  | cons head rest =>
    simp only [hdone, Option.some.injEq, Prod.mk.injEq] at h
    rcases h with ⟨rfl, rfl⟩
    refine ⟨rfl, ?_⟩
    simp only [tickets, answers, live, hdone, List.map_cons, ← Multiset.cons_coe, add_assoc]
    rw [← Multiset.singleton_add, add_comm {doneTicket head}]

/-- What is waiting or answered goes with the shim; a frame that is being encoded
does not. -/
theorem onShimGone_ledger (i : VideoIntake) :
    i.onShimGone.live ≤ i.live ∧ i.onShimGone.tickets ≤ i.tickets := by
  have hlive : i.onShimGone.live ≤ i.live := by
    simp only [live, onShimGone, Option.toList_none, Multiset.coe_nil, zero_add]
    exact Multiset.le_add_left _ _
  refine ⟨hlive, ?_⟩
  simpa [tickets, answers, onShimGone] using
    (Multiset.map_le_map hlive).trans (Multiset.le_add_right _ _)

/-- The encoder thread answers every frame it took. -/
theorem encoderStep_ledger {i i' : VideoIntake} {a : EncoderAction}
    (h : i.encoderStep a = some i') : Ledger i i' 0 := by
  have hkeeps := concluded_keeps
  cases encoderStep_stepped h with
  | tear hthread => exact .same rfl (by rw [hthread]; rfl) rfl
  | wake hthread =>
    have htake := takePending_ledger (i := { i with stagingChanged := false })
      (by simp [hthread, EncoderThread.frame?])
    exact ⟨htake.live, htake.tickets⟩
  | relock hthread =>
    have htake := takePending_ledger (i := { i.shutdownEncoder with encoderGeneration := 0 })
      (by simp [shutdownEncoder, hthread, EncoderThread.frame?])
    exact ⟨htake.live, htake.tickets⟩
  | unstaged frame hthread => exact .answered (by simp [live, hthread, EncoderThread.frame?]) rfl
  | staged frame config hthread => exact .same rfl (by rw [hthread]; rfl) rfl
  | inactive frame config request hthread => exact .same rfl (by rw [hthread]; rfl) rfl
  | current frame config request hthread => exact .same rfl (by rw [hthread]; rfl) rfl
  | rebuild frame config request hthread => exact .same rfl (by rw [hthread]; rfl) rfl
  | opened frame config request found shared hthread =>
    exact .same rfl (by rw [hthread]; rfl) rfl
  | configured frame config request found machine hthread =>
    have hconfigured := configured_keeps i machine frame config request found
    exact .same hconfigured.1 (by rw [hconfigured.2.2, hthread]; rfl) hconfigured.2.1
  | acquired frame request sync encoder hthread =>
    exact .same (by simp) (by rw [hthread]; rfl) (by simp)
  | refused frame request sync encoder result hthread =>
    exact .same (by simp [hkeeps]) (by rw [(hkeeps _ _ _ _ _).2.2, hthread]; rfl)
      (by simp [hkeeps])
  | released frame forceIdr request hthread => exact .same rfl (by rw [hthread]; rfl) rfl
  | finished frame forceIdr request env hthread =>
    exact .same (by simp [hkeeps]) (by rw [(hkeeps _ _ _ _ _).2.2, hthread]; rfl)
      (by simp [hkeeps])
  | answered frame hthread => exact .answered (by simp [live, hthread, EncoderThread.frame?]) rfl
  | dropped frame hthread => exact .answered (by simp [live, hthread, EncoderThread.frame?]) rfl

end WivrnNx.VideoIntake
