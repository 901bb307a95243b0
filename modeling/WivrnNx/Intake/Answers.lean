import WivrnNx.Intake.Accounts
import WivrnNx.Lib.Runs

/-!
# Answers

The intake with a record of what it received, what it pushed and what was fetched
since the shim connected.

- `Connection`, `step`: the pipe loop's calls and the encoder thread, in any order;
- `answered_once`: within a connection every frame is answered once, by its own id
  and slot, while no answer is thrown out of `done_`;
- `fresh_of_idle_gone`, `late_answer`: an answer stays within its connection when
  the encoder thread had no frame as the shim went, and not otherwise.
-/

namespace WivrnNx

open Ipc VideoIntake

/-- The intake, with what happened since the shim connected. -/
structure Connection where
  intake : VideoIntake
  received : List FrameReady := []
  /-- The argument of every `push_done`, in order. -/
  pushed : List FrameDone := []
  /-- What `pop_done` returned. -/
  popped : List FrameDone := []

namespace Connection

/-- What may happen next. -/
inductive Action where
  | stagingConfig (config : StagingConfig)
  | frameReady (active : Bool) (frame : FrameReady)
  | popDone
  | encoder (a : EncoderAction)
  | shimGone

/-- The answer that `push_done` makes of a frame. -/
def doneFor (frame : FrameReady) (flags : ℕ) : FrameDone :=
  { frameId := frame.frameId, stagingIndex := frame.stagingIndex, flags := flags }

/-- The bounded queue: the oldest answer makes room. -/
def boundedPush (done : List FrameDone) (d : FrameDone) : List FrameDone :=
  (if maxDone ≤ done.length then done.tail else done) ++ [d]

/-- Which answers a step pushes. -/
def pushes (i : VideoIntake) : Action → List FrameDone
  | .stagingConfig config =>
    match i.pending with
    | some frame => if frame.generation ≠ config.generation then [doneFor frame doneDropped] else []
    | none => []
  | .frameReady active frame =>
    if ¬ i.names frame ∨ ¬ i.hasEncoder ∨ ¬ active then [doneFor frame doneDropped]
    else i.pending.toList.map (doneFor · doneDropped)
  | .encoder .readStaging =>
    match i.thread, i.staging with
    | .taken frame, none => [doneFor frame doneDropped]
    | _, _ => []
  | .encoder .answer =>
    match i.thread with
    | .answering frame true => [doneFor frame doneEncoded]
    | .answering frame false => [doneFor frame doneDropped]
    | _ => []
  | _ => []

/-- One step of a connection. -/
def step (c : Connection) (a : Action) : Option Connection :=
  let c' := { c with pushed := c.pushed ++ pushes c.intake a }
  match a with
  | .stagingConfig config => some { c' with intake := c.intake.onStagingConfig config }
  | .frameReady active frame =>
    some { c' with intake := c.intake.onFrameReady active frame
                   received := c.received ++ [frame] }
  | .popDone => c.intake.popDone.map fun (d, intake) =>
    { c' with intake := intake, popped := c.popped ++ [d] }
  | .encoder a => (c.intake.encoderStep a).map fun intake => { c' with intake := intake }
  -- The next connection begins
  | .shimGone => some { intake := c.intake.onShimGone }

/-- Nothing waits, nothing is encoded, nothing is unread. -/
structure Quiescent (i : VideoIntake) : Prop where
  pending : i.pending = none
  thread : i.thread.frame? = none
  done : i.done = []

/-- A connection begins. -/
def start (i : VideoIntake) : Connection := { intake := i }

/-! ## What is pushed -/

/-- The frames that are taken in by a step. -/
def takes : Action → List FrameReady
  | .frameReady _ frame => [frame]
  | _ => []

/-- What a step does to the accounts and to `done_`, in terms of what it pushes. -/
structure Pushes (i i' : VideoIntake) (new : List FrameReady) (answers : List FrameDone) :
    Prop where
  live : (i'.live.map ticket) + (↑(answers.map doneTicket) : Multiset (ℕ × ℕ)) =
    i.live.map ticket + (↑(new.map ticket) : Multiset (ℕ × ℕ))
  done : i'.done = answers.foldl boundedPush i.done

theorem Pushes.none {i i' : VideoIntake} (hlive : i'.live = i.live) (hdone : i'.done = i.done) :
    Pushes i i' [] [] :=
  ⟨by simp [hlive], by simp [hdone]⟩

theorem Pushes.one {i i' : VideoIntake} {frame : FrameReady} {flags : ℕ}
    (hlive : i.live = i'.live + {frame}) (hdone : i'.done = boundedPush i.done (doneFor frame flags)) :
    Pushes i i' [] [doneFor frame flags] :=
  ⟨by simp [hlive, doneFor, doneTicket, ticket], by simp [hdone]⟩

theorem takePending_live {i : VideoIntake} (h : i.thread.frame? = none) :
    i.takePending.live = i.live := by
  unfold takePending
  cases hpending : i.pending <;> simp only [live, hpending, h] <;> rfl

theorem live_of_thread {i i' : VideoIntake} (hpending : i'.pending = i.pending)
    (hthread : i'.thread.frame? = i.thread.frame?) : i'.live = i.live := by
  simp [live, hpending, hthread]

theorem onStagingConfig_pushes (i : VideoIntake) (config : StagingConfig) :
    Pushes i (i.onStagingConfig config) [] (pushes i (.stagingConfig config)) := by
  simp only [pushes, onStagingConfig, dropOther]
  cases hpending : i.pending with
  | none => exact .none (live_of_thread (by simp [hpending]) rfl) rfl
  | some frame =>
    dsimp only
    split
    · exact .one (by simp [live, hpending, add_comm]) rfl
    · exact .none (live_of_thread (by simp [hpending]) rfl) rfl

theorem onFrameReady_pushes (i : VideoIntake) (active : Bool) (frame : FrameReady) :
    Pushes i (i.onFrameReady active frame) [frame] (pushes i (.frameReady active frame)) := by
  have hrefused : ∀ i', i'.live = i.live →
      i'.done = boundedPush i.done (doneFor frame doneDropped) →
      Pushes i i' [frame] [doneFor frame doneDropped] := by
    intro i' hlive hdone
    exact ⟨by simp [hlive, doneFor, doneTicket, ticket], by simp [hdone]⟩
  simp only [pushes, onFrameReady]
  have hnames : ({ i with framesSeen := i.framesSeen + 1 } : VideoIntake).names frame =
      i.names frame := rfl
  rw [hnames]
  by_cases hno : i.names frame = true
  · by_cases hidle : ¬ i.hasEncoder = true ∨ ¬ active = true
    · simp only [hno, not_true_eq_false, false_or, if_false, if_pos hidle]
      exact hrefused _ rfl rfl
    · -- The frame waits, in place of the one before
      simp only [hno, not_true_eq_false, false_or, if_false, if_neg hidle]
      cases hpending : i.pending with
      | none =>
        refine ⟨?_, rfl⟩
        simp only [accept, supersede, live, hpending, Multiset.map_add, Option.toList_some,
          Option.toList_none, List.map_cons, List.map_nil, Multiset.coe_singleton,
          Multiset.coe_nil, Multiset.map_singleton, Multiset.map_zero]
        abel
      | some old =>
        refine ⟨?_, by simp [accept, supersede, refuse, pushDone, boundedPush, doneFor]⟩
        simp only [accept, supersede, live, hpending, refuse, pushDone_thread, Multiset.map_add,
          Option.toList_some, List.map_cons, List.map_nil, Multiset.coe_singleton,
          Multiset.map_singleton, doneFor, doneTicket, ticket]
        abel
  · simp only [hno, Bool.false_eq_true, not_false_eq_true, true_or, if_true]
    exact hrefused _ rfl rfl

theorem encoderStep_pushes {i i' : VideoIntake} {a : EncoderAction}
    (h : i.encoderStep a = some i') : Pushes i i' [] (pushes i (.encoder a)) := by
  have hkeeps := concluded_keeps
  cases encoderStep_stepped h with
  | tear hthread => exact .none (live_of_thread rfl (by rw [hthread]; rfl)) rfl
  | wake hthread =>
    exact .none (takePending_live (by simp [hthread, EncoderThread.frame?])) (by simp)
  | relock hthread =>
    have hlive := takePending_live (i := { i.shutdownEncoder with encoderGeneration := 0 })
      (by simp [shutdownEncoder, hthread, EncoderThread.frame?])
    exact .none hlive (by simp [shutdownEncoder])
  | unstaged frame hthread hstaging =>
    simp only [pushes, hthread, hstaging]
    exact .one (by simp [live, hthread, EncoderThread.frame?]) rfl
  | staged frame config hthread hstaging =>
    simp only [pushes, hthread, hstaging]
    exact .none (live_of_thread rfl (by rw [hthread]; rfl)) rfl
  | inactive frame config request hthread =>
    exact .none (live_of_thread rfl (by rw [hthread]; rfl)) rfl
  | current frame config request hthread =>
    exact .none (live_of_thread rfl (by rw [hthread]; rfl)) rfl
  | rebuild frame config request hthread =>
    exact .none (live_of_thread rfl (by rw [hthread]; rfl)) rfl
  | opened frame config request found shared hthread =>
    exact .none (live_of_thread rfl (by rw [hthread]; rfl)) rfl
  | configured frame config request found machine hthread =>
    rcases configured_keeps i machine frame config request found with ⟨hpending, hdone, hframe⟩
    exact .none (live_of_thread hpending (by rw [hframe, hthread]; rfl)) hdone
  | acquired frame request sync encoder hthread =>
    exact .none (live_of_thread (by simp) (by rw [hthread]; rfl)) (by simp)
  | refused frame request sync encoder result hthread =>
    exact .none (live_of_thread (by simp [hkeeps])
      (by rw [(hkeeps _ _ _ _ _).2.2, hthread]; rfl)) (by simp [hkeeps])
  | released frame forceIdr request hthread =>
    exact .none (live_of_thread rfl (by rw [hthread]; rfl)) rfl
  | finished frame forceIdr request env hthread =>
    exact .none (live_of_thread (by simp [hkeeps])
      (by rw [(hkeeps _ _ _ _ _).2.2, hthread]; rfl)) (by simp [hkeeps])
  | answered frame hthread =>
    simp only [pushes, hthread]
    exact .one (by simp [live, hthread, EncoderThread.frame?]) rfl
  | dropped frame hthread =>
    simp only [pushes, hthread]
    exact .one (by simp [live, hthread, EncoderThread.frame?]) rfl

/-! ## Within a connection -/

/-- The shim stays. -/
def Action.stays : Action → Bool
  | .shimGone => false
  | _ => true

/-- The shim stays, and at most eight answers are unread. -/
def Within (_ : Connection) (a : Action) (c' : Connection) : Prop :=
  a.stays = true ∧ c'.pushed.length ≤ c'.popped.length + maxDone

instance (c : Connection) (a : Action) (c' : Connection) : Decidable (Within c a c') :=
  inferInstanceAs (Decidable (_ ∧ _))

/-- Every frame that was received was answered, waits or is being encoded; and no
answer was lost. -/
structure AnsweredOnce (c : Connection) : Prop where
  balanced : (↑(c.received.map ticket) : Multiset (ℕ × ℕ)) =
    ↑(c.pushed.map doneTicket) + c.intake.live.map ticket
  unread : c.pushed = c.popped ++ c.intake.done
  /-- With nothing left to do, each frame has one answer, fetched or unread. -/
  idle : c.intake.pending = none → c.intake.thread.frame? = none → ∀ t,
    ((c.popped ++ c.intake.done).map doneTicket).count t = (c.received.map ticket).count t

/-- The two accounts give the third. -/
theorem AnsweredOnce.of {c : Connection} (hbalanced : (↑(c.received.map ticket) :
    Multiset (ℕ × ℕ)) = ↑(c.pushed.map doneTicket) + c.intake.live.map ticket)
    (hunread : c.pushed = c.popped ++ c.intake.done) : c.AnsweredOnce := by
  refine ⟨hbalanced, hunread, fun hpending hthread t => ?_⟩
  have hlive : c.intake.live = 0 := by simp [live, hpending, hthread]
  rw [hlive, Multiset.map_zero, add_zero, hunread] at hbalanced
  exact (Multiset.coe_eq_coe.mp hbalanced).symm.count_eq t

/-- A push into a queue that has room is at its end. -/
theorem boundedPush_room {done : List FrameDone} {d : FrameDone} (h : done.length < maxDone) :
    boundedPush done d = done ++ [d] := by
  rw [boundedPush, if_neg (by omega)]

/-- At most one answer is pushed in a step. -/
theorem pushes_length (i : VideoIntake) (a : Action) : (pushes i a).length ≤ 1 := by
  unfold pushes
  split
  · split
    · split <;> simp
    · simp
  · split
    · simp
    · cases i.pending <;> simp
  · split <;> simp
  · split <;> simp
  · simp

/-- With room for what is pushed, nothing is thrown out. -/
theorem pushes_kept {c : Connection} {i' : VideoIntake} {new : List FrameReady} {a : Action}
    (h : c.AnsweredOnce) (hp : Pushes c.intake i' new (pushes c.intake a))
    (hroom : (c.pushed ++ pushes c.intake a).length ≤ c.popped.length + maxDone) :
    ({ c with intake := i', received := c.received ++ new
              pushed := c.pushed ++ pushes c.intake a } : Connection).AnsweredOnce := by
  refine .of ?_ ?_
  · have hlive := hp.live
    simp only [List.map_append, ← Multiset.coe_add]
    rw [h.balanced, add_assoc, ← hlive]
    abel
  · have hlength := pushes_length c.intake a
    have hdone := hp.done
    dsimp only
    rw [h.unread, List.append_assoc, List.append_cancel_left_eq, hdone]
    match hpush : pushes c.intake a with
    | [] => simp
    | [d] =>
      rw [hpush, h.unread] at hroom
      simp only [List.length_append, List.length_singleton] at hroom
      exact (boundedPush_room (by omega)).symm
    | d :: e :: rest => simp [hpush] at hlength

theorem step_answered {c c' : Connection} {a : Action} (h : c.AnsweredOnce)
    (hwithin : Within c a c') (hstep : step c a = some c') : c'.AnsweredOnce := by
  obtain ⟨hstays, hroom⟩ := hwithin
  cases a with
  | stagingConfig config =>
    cases hstep
    have hkept := pushes_kept h (onStagingConfig_pushes c.intake config) hroom
    simpa using hkept
  | frameReady active frame =>
    cases hstep
    exact pushes_kept h (onFrameReady_pushes c.intake active frame) hroom
  | popDone =>
    obtain ⟨⟨d, intake⟩, hpop, rfl⟩ := Option.map_eq_some_iff.mp hstep
    -- The oldest unread answer is fetched
    have hhead : c.intake.done = d :: intake.done ∧ intake.live = c.intake.live := by
      unfold VideoIntake.popDone at hpop
      split at hpop
      · cases hpop
      · rename_i hdone
        cases hpop
        exact ⟨hdone, rfl⟩
    refine .of ?_ ?_
    · simpa [pushes, hhead.2] using h.balanced
    · simp [pushes, h.unread, hhead.1]
  | encoder a =>
    obtain ⟨intake, hintake, rfl⟩ := Option.map_eq_some_iff.mp hstep
    have hkept := pushes_kept h (encoderStep_pushes hintake) hroom
    simpa using hkept
  | shimGone => cases hstays

/-- Within one connection every frame gets exactly one answer, in whatever order
the pipe loop and the encoder thread take their steps. -/
theorem answered_once {i : VideoIntake} {as : List Action} {c : Connection} (hi : Quiescent i)
    (hwithin : Runs.Along step Within (start i) as)
    (hrun : Runs.run step (start i) as = some c) : c.AnsweredOnce := by
  have hstart : (start i).AnsweredOnce :=
    .of (by simp [start, live, hi.pending, hi.thread]) (by simp [start, hi.done])
  have hstep : ∀ c a c', AnsweredOnce c → Within c a c' → step c a = some c' → c'.AnsweredOnce :=
    fun c a c' h hw hs => step_answered h hw hs
  exact Runs.run_invariant_along hstep as _ _ hstart hwithin hrun

/-- A ring of three slots. -/
def ringOfThree : StagingConfig :=
  { generation := 1, width := 2880, height := 1600, dxgiFormat := 28, count := 3, handles := [] }

def firstFrame : FrameReady :=
  { frameId := 1, sampleTimeQpc := 0, generation := 1, stagingIndex := 0, pose := {}
    predictS := .val 0 }

/-- The first frame of a connection reaches the encoder thread. -/
def handOver : List Action :=
  [.stagingConfig ringOfThree, .frameReady true firstFrame, .encoder .wake]

/-- By then no client is there: the encoder thread answers it, and the answer is
fetched. -/
theorem answered_once_one_frame :
    ∃ c, Runs.run step (start {}) (handOver ++ [.encoder .readStaging,
      .encoder (.readRequest {}), .encoder .answer, .popDone]) = some c ∧ c.AnsweredOnce := by
  have hrun : (Runs.run step (start {}) (handOver ++ [.encoder .readStaging,
      .encoder (.readRequest {}), .encoder .answer, .popDone])).isSome = true := by
    decide +kernel
  obtain ⟨c, hc⟩ := Option.isSome_iff_exists.mp hrun
  exact ⟨c, hc, answered_once ⟨rfl, rfl, rfl⟩ (by decide +kernel) hc⟩

/-! ## Across connections -/

/-- The answers that were fetched in this connection are for frames that were
received in it, one each. -/
def Fresh (c : Connection) : Prop :=
  (↑(c.popped.map doneTicket) : Multiset (ℕ × ℕ)) ≤ ↑(c.received.map ticket)

/-- The shim goes while the encoder thread has no frame. -/
def IdleWhenGone (c : Connection) (a : Action) (_ : Connection) : Prop :=
  a.stays = false → c.intake.thread.frame? = none

instance (c : Connection) (a : Action) (c' : Connection) : Decidable (IdleWhenGone c a c') :=
  inferInstanceAs (Decidable (_ → _))

/-- What was fetched and what is still owed was received. -/
def Owes (c : Connection) : Prop :=
  (↑(c.popped.map doneTicket) : Multiset (ℕ × ℕ)) + c.intake.tickets ≤ ↑(c.received.map ticket)

theorem Owes.fresh {c : Connection} (h : c.Owes) : c.Fresh :=
  (Multiset.le_add_right _ _).trans h

/-- A step of the intake owes at most what was received with it. -/
theorem Owes.ledger {c c' : Connection} {new : List FrameReady} (h : c.Owes)
    (hledger : Ledger c.intake c'.intake ↑new) (hpopped : c'.popped = c.popped)
    (hreceived : c'.received = c.received ++ new) : c'.Owes := by
  obtain ⟨lost, hlost, -⟩ := hledger.tickets
  have hle : c'.intake.tickets ≤ c.intake.tickets + (↑(new.map ticket) : Multiset (ℕ × ℕ)) := by
    rw [Multiset.map_coe] at hlost
    exact hlost ▸ Multiset.le_add_right _ _
  unfold Owes
  rw [hpopped, hreceived, List.map_append, ← Multiset.coe_add]
  calc _ ≤ (↑(c.popped.map doneTicket) : Multiset (ℕ × ℕ)) +
        (c.intake.tickets + ↑(new.map ticket)) := add_le_add_right hle _
    _ = ↑(c.popped.map doneTicket) + c.intake.tickets + ↑(new.map ticket) := (add_assoc _ _ _).symm
    _ ≤ _ := add_le_add_left h _

theorem step_owes {c c' : Connection} {a : Action} (h : c.Owes) (hidle : IdleWhenGone c a c')
    (hstep : step c a = some c') : c'.Owes := by
  cases a with
  | stagingConfig config =>
    cases hstep
    exact h.ledger (onStagingConfig_ledger c.intake config) rfl (by simp)
  | frameReady active frame =>
    cases hstep
    exact h.ledger (onFrameReady_ledger c.intake active frame) rfl rfl
  | popDone =>
    obtain ⟨⟨d, intake⟩, hpop, rfl⟩ := Option.map_eq_some_iff.mp hstep
    have htickets := (popDone_ledger hpop).2
    unfold Owes at h ⊢
    rw [htickets] at h
    refine le_trans (le_of_eq ?_) h
    simp only [List.map_append, List.map_cons, List.map_nil, ← Multiset.coe_add,
      Multiset.coe_singleton]
    abel
  | encoder a =>
    obtain ⟨intake, hintake, rfl⟩ := Option.map_eq_some_iff.mp hstep
    exact h.ledger (encoderStep_ledger hintake) rfl (by simp)
  | shimGone =>
    cases hstep
    -- Nothing is owed any more: the queue is dropped and no frame is in flight
    have hthread := hidle rfl
    simp [Owes, onShimGone, VideoIntake.tickets, live, answers, hthread]

/-- As long as the encoder thread has no frame whenever the shim goes, no answer
reaches another connection than the one its frame came with. -/
theorem fresh_of_idle_gone {i : VideoIntake} (hi : Quiescent i) (as : List Action)
    (hidle : Runs.Along step IdleWhenGone (start i) as) :
    Runs.Along step (fun _ _ c' => c'.Fresh) (start i) as := by
  have hstart : (start i).Owes := by
    simp [Owes, start, VideoIntake.tickets, live, answers, hi.pending, hi.thread, hi.done]
  have hstep : ∀ c a c', Owes c → IdleWhenGone c a c' → step c a = some c' →
      c'.Owes ∧ c'.Fresh := fun c a c' h hg hs =>
    ⟨step_owes h hg hs, (step_owes h hg hs).fresh⟩
  exact Runs.along_imp hstep as _ hstart hidle

/-- The shim goes once the first frame is answered. -/
theorem fresh_of_idle_gone_one_frame :
    Runs.Along step (fun _ _ c' => c'.Fresh) (start {})
      (handOver ++ [.encoder .readStaging, .encoder (.readRequest {}), .encoder .answer,
        .shimGone, .popDone]) :=
  fresh_of_idle_gone ⟨rfl, rfl, rfl⟩ _ (by decide +kernel)

/-- The shim goes while the encoder thread has the first frame; its answer is
fetched by the next connection, which has not received any frame. -/
theorem late_answer :
    ∃ c, Runs.run step (start {})
      (handOver ++ [.shimGone, .encoder .readStaging, .popDone]) = some c ∧ ¬ c.Fresh := by
  have hrun : (Runs.run step (start {}) (handOver ++ [.shimGone, .encoder .readStaging,
      .popDone])).map (fun c => (c.popped.length, c.received.length)) = some (1, 0) := by
    decide +kernel
  obtain ⟨c, hc, hlengths⟩ := Option.map_eq_some_iff.mp hrun
  refine ⟨c, hc, fun hfresh => ?_⟩
  have hcard := Multiset.card_le_card hfresh
  simp only [Multiset.coe_card, List.length_map] at hcard
  simp only [Prod.mk.injEq] at hlengths
  omega

end Connection

end WivrnNx
