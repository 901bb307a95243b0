import WivrnNx.Intake.Accounts
import WivrnNx.Staging.System

/-!
# Accounts over the whole path

Every frame the shim hands over is somewhere until it is answered, and every
answer is somewhere until the shim reads it.

- `System.live`: the frames that some thread, queue or pipe still carries;
- `System.tickets`: those, and the answers on their way back;
- `Quiet`: what a step of any thread but the Present thread does to the accounts
  and to the ring.
-/

namespace WivrnNx.Staging

open Ipc VideoIntake

/-- The frame a message announces. -/
def frame? : ToHelper → Option FrameReady
  | .frameReady frame => some frame
  | _ => none

/-- The answer a message carries. -/
def done? : ToShim → Option FrameDone
  | .frameDone done => some done
  | _ => none

/-- The frames that a queue of messages carries. -/
def frames (messages : List ToHelper) : Multiset FrameReady := ↑(messages.filterMap frame?)

/-- The tickets that a queue of answers carries. -/
def answered (messages : List ToShim) : Multiset (ℕ × ℕ) :=
  ↑((messages.filterMap done?).map doneTicket)

@[simp] theorem frames_nil : frames [] = 0 := rfl

@[simp] theorem frames_cons (message : ToHelper) (rest : List ToHelper) :
    frames (message :: rest) = ↑(frame? message).toList + frames rest := by
  cases message <;> simp [frames, frame?, List.filterMap_cons]

@[simp] theorem frames_append (before after : List ToHelper) :
    frames (before ++ after) = frames before + frames after := by
  simp [frames]

theorem frames_tail_le (messages : List ToHelper) : frames messages.tail ≤ frames messages := by
  cases messages with
  | nil => exact le_rfl
  | cons message rest =>
    rw [List.tail_cons, frames_cons]
    exact Multiset.le_add_left _ _

@[simp] theorem answered_nil : answered [] = 0 := rfl

@[simp] theorem answered_cons (message : ToShim) (rest : List ToShim) :
    answered (message :: rest) = ↑((done? message).toList.map doneTicket) + answered rest := by
  cases message <;> simp [answered, done?, List.filterMap_cons]

@[simp] theorem answered_append (before after : List ToShim) :
    answered (before ++ after) = answered before + answered after := by
  simp [answered]

namespace System

/-- The frames on their way to an answer. -/
def live (s : System) : Multiset FrameReady :=
  ↑s.present.frame?.toList + frames s.pending + frames s.toHelper + s.intake.live

/-- The frames on their way, and the answers on their way back. -/
def tickets (s : System) : Multiset (ℕ × ℕ) :=
  s.live.map ticket + (answered s.toShim + s.intake.answers)

theorem ticket_mem {s : System} {frame : FrameReady} (h : frame ∈ s.live) :
    ticket frame ∈ s.tickets :=
  Multiset.mem_add.mpr (.inl (Multiset.mem_map_of_mem ticket h))

theorem live_eq {s s' : System} (hpresent : s'.present.frame? = s.present.frame?)
    (hpending : s'.pending = s.pending) (htoHelper : s'.toHelper = s.toHelper)
    (hintake : s'.intake = s.intake) : s'.live = s.live := by
  simp only [System.live, hpresent, hpending, htoHelper, hintake]

theorem live_of_present {s : System} {p : PresentThread} (h : p.frame? = s.present.frame?) :
    ({ s with present := p } : System).live = s.live :=
  live_eq h rfl rfl rfl

/-- The accounts place by place. -/
theorem tickets_eq (s : System) :
    s.tickets = (↑s.present.frame?.toList : Multiset FrameReady).map ticket +
      (frames s.pending).map ticket + (frames s.toHelper).map ticket + answered s.toShim +
        s.intake.tickets := by
  simp only [System.tickets, System.live, VideoIntake.tickets, Multiset.map_add]
  abel

/-! ## A session -/

/-- Both ends are in their session loops, on one pipe. -/
def linked (s : System) : Prop :=
  (s.ipc = .session ∨ s.ipc = .configured ∨ s.ipc = .announced) ∧
    (s.server = .handshake ∨ s.server = .flushing ∨ s.server = .serving) ∧
      s.shimOpen = true ∧ s.serverOpen = true

/-- Nothing a step meets makes it lose an answer: `done_` has room, and no answer
precedes the HmdConfig. -/
structure Orderly (s : System) : Prop where
  room : s.intake.done.length < maxDone
  config : s.gotConfig = true ∨ ∀ done rest, s.toShim ≠ .frameDone done :: rest

/-! ## What the other threads do -/

/-- What a step of another thread leaves of the Present thread's state. -/
structure SamePresent (s s' : System) : Prop where
  present : s'.present = s.present
  presents : s'.presents = s.presents
  frameId : s'.frameId = s.frameId
  contents : s'.contents = s.contents
  drawnBy : s'.drawnBy = s.drawnBy

/-- A step of a thread that is not the Present thread. No frame appears; the ring
is left alone, marked stale, or meets an answer that is thereby `spent`; and a
ticket is `lost` only when the session is. -/
structure Quiet (s s' : System) : Prop where
  same : SamePresent s s'
  live : s'.live ≤ s.live
  ledger : ∃ spent lost, s'.tickets + (spent + lost) = s.tickets ∧
    (s.linked → s'.linked → s.Orderly → lost = 0) ∧
    (spent = 0 ∧ (s'.ring = s.ring ∨ s'.ring = s.ring.markStale) ∨
      ∃ done, spent = {doneTicket done} ∧ s'.ring = (s.ring.onFrameDone done).1)

/-- A step that keeps all accounts. -/
theorem Quiet.kept {s s' : System} (hsame : SamePresent s s') (hlive : s'.live = s.live)
    (htickets : s'.tickets = s.tickets) (hring : s'.ring = s.ring ∨ s'.ring = s.ring.markStale) :
    Quiet s s' :=
  ⟨hsame, hlive.le, 0, 0, by simpa using htickets, fun _ _ _ => rfl, .inl ⟨rfl, hring⟩⟩

/-- A step that may lose something, but not within a session. -/
theorem Quiet.loses {s s' : System} (hsame : SamePresent s s') (hlive : s'.live ≤ s.live)
    (htickets : s'.tickets ≤ s.tickets) (hring : s'.ring = s.ring)
    (hdown : s.linked → s'.linked → False) : Quiet s s' := by
  obtain ⟨lost, hlost⟩ := Multiset.le_iff_exists_add.mp htickets
  exact ⟨hsame, hlive, 0, lost, by simpa using hlost.symm,
    fun hs hs' _ => (hdown hs hs').elim, .inl ⟨rfl, .inl hring⟩⟩

/-- A step of the intake, with `new` taken off the pipe for it. -/
theorem Quiet.intake {s s' : System} {new : Multiset FrameReady} (hsame : SamePresent s s')
    (hledger : Ledger s.intake s'.intake new) (hring : s'.ring = s.ring)
    (hpending : s'.pending = s.pending) (htoShim : s'.toShim = s.toShim)
    (htoHelper : frames s.toHelper = frames s'.toHelper + new) : Quiet s s' := by
  obtain ⟨lost, hlost, hroom⟩ := hledger.tickets
  refine ⟨hsame, ?_, 0, lost, ?_, fun _ _ ho => hroom ho.room, .inl ⟨rfl, .inl hring⟩⟩
  · simp only [System.live, hsame.present, hpending, htoHelper, add_assoc]
    have hintake := hledger.live
    rw [add_comm] at hintake
    gcongr
  · rw [tickets_eq, tickets_eq, hsame.present, hpending, htoShim, htoHelper, Multiset.map_add]
    calc _ = (↑s.present.frame?.toList : Multiset FrameReady).map ticket +
          (frames s.pending).map ticket + (frames s'.toHelper).map ticket + answered s.toShim +
            (s'.intake.tickets + lost) := by abel
      _ = _ := by rw [hlost]; abel

theorem handleToShim_quiet {s : System} {message : ToShim} {rest : List ToShim}
    (h : s.toShim = message :: rest) :
    Quiet s ({ s with toShim := rest }.handleToShim message) := by
  cases message with
  | hmdConfig =>
    exact .kept ⟨rfl, rfl, rfl, rfl, rfl⟩ rfl
      (by simp [System.tickets, handleToShim, h, done?, System.live]) (.inl rfl)
  | frameDone done =>
    have htickets : s.tickets = ({ s with toShim := rest } : System).tickets +
        {doneTicket done} := by
      simp only [System.tickets, h, answered_cons, done?, System.live]
      simp only [Option.toList_some, List.map_cons, List.map_nil, Multiset.coe_singleton]
      abel
    by_cases hconfig : s.gotConfig = true
    · -- The answer meets the ring, whether it frees a slot or not
      refine ⟨⟨?_, ?_, ?_, ?_, ?_⟩, ?_, {doneTicket done}, 0, ?_, fun _ _ _ => rfl,
        .inr ⟨done, rfl, ?_⟩⟩ <;> simp only [handleToShim, hconfig, if_true]
      · exact le_rfl
      · exact (add_zero ({doneTicket done} : Multiset (ℕ × ℕ))).symm ▸ htickets.symm
    · refine ⟨⟨?_, ?_, ?_, ?_, ?_⟩, ?_, 0, {doneTicket done}, ?_, ?_, .inl ⟨rfl, .inl ?_⟩⟩ <;>
        simp only [handleToShim, if_neg hconfig]
      · exact le_rfl
      · rw [zero_add]
        exact htickets.symm
      · intro _ _ ho
        exact ((ho.config.resolve_left hconfig) done rest h).elim

/-- Losing the queues of a pipe that is not part of a session. -/
theorem tickets_le_of_sub (s s' : System) (hpresent : s'.present = s.present)
    (hpending : frames s'.pending ≤ frames s.pending)
    (htoHelper : frames s'.toHelper ≤ frames s.toHelper)
    (htoShim : answered s'.toShim ≤ answered s.toShim) (hlive : s'.intake.live ≤ s.intake.live)
    (hintake : s'.intake.tickets ≤ s.intake.tickets) :
    s'.live ≤ s.live ∧ s'.tickets ≤ s.tickets := by
  refine ⟨?_, ?_⟩
  · simp only [System.live, hpresent]
    gcongr
  · rw [tickets_eq, tickets_eq, hpresent]
    gcongr

theorem ipcStep_quiet {s s' : System} {a : IpcAction} (h : s.ipcStep a = some s') :
    Quiet s s' := by
  cases a with
  | openPipe =>
    simp only [ipcStep] at h
    split at h
    · rename_i hipc hserver
      cases h
      have hle := tickets_le_of_sub s { s with
        ipc := .session, gotConfig := false, shimOpen := true, serverOpen := true
        server := .handshake, toHelper := [.shimHello], toShim := [] } rfl le_rfl
        (by simp [frame?]) (by simp) le_rfl le_rfl
      refine .loses ⟨rfl, rfl, rfl, rfl, rfl⟩ hle.1 hle.2 rfl ?_
      intro hs _
      simp [linked, hipc] at hs
    · cases h
  | flush ok =>
    simp only [ipcStep] at h
    split at h
    · rename_i message rest hipc hpending
      split_ifs at h
      · cases h
        refine .kept ⟨rfl, rfl, rfl, rfl, rfl⟩ ?_ ?_ (.inl rfl)
        · simp only [System.live, hpending, frames_cons, frames_append, frames_nil]
          abel
        · simp only [System.tickets, System.live, hpending, frames_cons, frames_append, frames_nil,
            Multiset.map_add]
          abel
      · cases h
        have hle := tickets_le_of_sub s { s with pending := rest, ipc := .ending }
          rfl (by simp [hpending]) le_rfl le_rfl le_rfl le_rfl
        refine .loses ⟨rfl, rfl, rfl, rfl, rfl⟩ hle.1 hle.2 rfl ?_
        intro _ hs'
        simp [linked] at hs'
    · cases h
  | read =>
    simp only [ipcStep] at h
    split at h
    · rename_i message rest hipc htoShim
      cases h
      exact handleToShim_quiet htoShim
    · cases h
  | storeConnected =>
    simp only [ipcStep] at h
    split at h <;> cases h
    exact .kept ⟨rfl, rfl, rfl, rfl, rfl⟩ rfl rfl (.inl rfl)
  | sessionReady =>
    simp only [ipcStep] at h
    split at h <;> cases h
    exact .kept ⟨rfl, rfl, rfl, rfl, rfl⟩ rfl rfl (.inl rfl)
  | fail =>
    simp only [ipcStep] at h
    split at h <;> cases h
    exact .kept ⟨rfl, rfl, rfl, rfl, rfl⟩ rfl rfl (.inl rfl)
  | closePipe =>
    simp only [ipcStep] at h
    split at h
    · rename_i hipc
      cases h
      have hle := tickets_le_of_sub s { s with
        shimOpen := false, toShim := [], ipc := .pipeClosed } rfl le_rfl le_rfl (by simp) le_rfl
        le_rfl
      refine .loses ⟨rfl, rfl, rfl, rfl, rfl⟩ hle.1 hle.2 rfl ?_
      intro hs _
      simp [linked, hipc] at hs
    · cases h
  | clearConnected =>
    simp only [ipcStep] at h
    split at h <;> cases h
    exact .kept ⟨rfl, rfl, rfl, rfl, rfl⟩ rfl rfl (.inl rfl)
  | dropPending =>
    simp only [ipcStep] at h
    split at h
    · rename_i hipc
      cases h
      have hle := tickets_le_of_sub s { s with pending := [], ipc := .dropped } rfl
        (by simp) le_rfl le_rfl le_rfl le_rfl
      refine .loses ⟨rfl, rfl, rfl, rfl, rfl⟩ hle.1 hle.2 rfl ?_
      intro hs _
      simp [linked, hipc] at hs
    · cases h
  | clearResend =>
    simp only [ipcStep] at h
    split at h <;> cases h
    exact .kept ⟨rfl, rfl, rfl, rfl, rfl⟩ rfl rfl (.inl rfl)
  | markStale =>
    simp only [ipcStep] at h
    split at h <;> cases h
    exact .kept ⟨rfl, rfl, rfl, rfl, rfl⟩ rfl rfl (.inr rfl)

theorem hapticStep_quiet {s s' : System} {a : HapticAction} (h : s.hapticStep a = some s') :
    Quiet s s' := by
  cases a with
  | check haptic =>
    simp only [hapticStep, Option.some.injEq] at h
    subst h
    split <;> exact .kept ⟨rfl, rfl, rfl, rfl, rfl⟩ rfl rfl (.inl rfl)
  | push alloc =>
    simp only [hapticStep] at h
    split at h
    · cases h
    · rename_i haptic rest _
      cases h
      have hframes : frames (IpcClient.queueHaptic s.pending haptic alloc).1 =
          frames s.pending := by
        rcases IpcClient.queueMessage_evictable s.pending (.haptic haptic) alloc with hq | hq
        · simp [IpcClient.queueHaptic, hq, frame?]
        · simp [IpcClient.queueHaptic, hq]
      refine .kept ⟨rfl, rfl, rfl, rfl, rfl⟩ ?_ ?_ (.inl rfl)
      · simp only [System.live, hframes]
      · simp only [System.tickets, System.live, hframes]

theorem handleToHelper_quiet {s : System} {message : ToHelper} {rest : List ToHelper}
    (h : s.toHelper = message :: rest) :
    Quiet s ({ s with toHelper := rest }.handleToHelper message) := by
  have hkept : ∀ s' : System, SamePresent s s' → s'.ring = s.ring → s'.pending = s.pending →
      s'.toShim = s.toShim → s'.intake = s.intake → frames s'.toHelper = frames s.toHelper →
      Quiet s s' := by
    intro s' hsame hring hpending htoShim hintake hframes
    refine .kept hsame ?_ ?_ (.inl hring)
    · simp only [System.live, hsame.present, hpending, hframes, hintake]
    · simp only [System.tickets, System.live, hsame.present, hpending, hframes, htoShim, hintake]
  cases message with
  | shimHello =>
    exact hkept _ ⟨rfl, rfl, rfl, rfl, rfl⟩ rfl rfl rfl rfl
      (by simp [handleToHelper, h, frame?])
  | haptic haptic =>
    exact hkept _ ⟨rfl, rfl, rfl, rfl, rfl⟩ rfl rfl rfl rfl
      (by simp [handleToHelper, h, frame?])
  | stagingConfig config =>
    exact .intake ⟨rfl, rfl, rfl, rfl, rfl⟩ (onStagingConfig_ledger s.intake config) rfl rfl rfl
      (by simp [handleToHelper, h, frame?])
  | frameReady frame =>
    exact .intake ⟨rfl, rfl, rfl, rfl, rfl⟩ (onFrameReady_ledger s.intake s.request.active frame)
      rfl rfl rfl (by simp [handleToHelper, h, frame?, add_comm])

theorem serverStep_quiet {s s' : System} {a : ServerAction} (h : s.serverStep a = some s') :
    Quiet s s' := by
  cases a with
  | handshake =>
    simp only [serverStep] at h
    split at h
    · rename_i rest hserver htoHelper
      split_ifs at h <;> cases h <;>
        exact .kept ⟨rfl, rfl, rfl, rfl, rfl⟩ (by simp [System.live, htoHelper, frame?])
          (by simp [System.tickets, System.live, htoHelper, frame?, done?]) (.inl rfl)
    · cases h
  | flush ok =>
    simp only [serverStep] at h
    split at h
    · split at h
      · cases h
        exact .kept ⟨rfl, rfl, rfl, rfl, rfl⟩ rfl rfl (.inl rfl)
      · rename_i done intake hpop
        obtain ⟨hlive, htickets⟩ := popDone_ledger hpop
        split_ifs at h
        · cases h
          refine .kept ⟨rfl, rfl, rfl, rfl, rfl⟩ (by simp only [System.live, hlive]) ?_ (.inl rfl)
          simp only [tickets_eq, htickets, answered_append, answered_cons, done?, answered_nil,
            Option.toList_some, List.map_cons, List.map_nil, Multiset.coe_singleton, add_zero]
          abel
        · cases h
          have hle := tickets_le_of_sub s
            { s with intake := intake, server := .ending } rfl le_rfl le_rfl le_rfl
            hlive.le (htickets ▸ Multiset.le_add_right _ _)
          refine .loses ⟨rfl, rfl, rfl, rfl, rfl⟩ hle.1 hle.2 rfl ?_
          intro _ hs'
          simp [linked] at hs'
    · cases h
  | receive =>
    simp only [serverStep] at h
    split at h
    · rename_i message rest hserver htoHelper
      cases h
      exact handleToHelper_quiet htoHelper
    · cases h
  | timeout =>
    simp only [serverStep] at h
    split at h <;> cases h
    exact .kept ⟨rfl, rfl, rfl, rfl, rfl⟩ rfl rfl (.inl rfl)
  | fail =>
    simp only [serverStep] at h
    split at h <;> cases h <;> exact .kept ⟨rfl, rfl, rfl, rfl, rfl⟩ rfl rfl (.inl rfl)
  | disconnect =>
    simp only [serverStep] at h
    split at h
    · rename_i hserver
      cases h
      have hle := tickets_le_of_sub s { s with
        serverOpen := false, toHelper := [], toShim := [], server := .gone } rfl le_rfl (by simp)
        (by simp) le_rfl le_rfl
      refine .loses ⟨rfl, rfl, rfl, rfl, rfl⟩ hle.1 hle.2 rfl ?_
      intro hs _
      simp [linked, hserver] at hs
    · cases h
  | shimGone =>
    simp only [serverStep] at h
    split at h
    · rename_i hserver
      cases h
      have hgone := onShimGone_ledger s.intake
      have hle := tickets_le_of_sub s
        { s with intake := s.intake.onShimGone, server := .waiting } rfl le_rfl le_rfl
        le_rfl hgone.1 hgone.2
      refine .loses ⟨rfl, rfl, rfl, rfl, rfl⟩ hle.1 hle.2 rfl ?_
      intro hs _
      simp [linked, hserver] at hs
    · cases h

theorem encoderStep_quiet {s s' : System} {a : EncoderAction} (h : s.encoderStep a = some s') :
    Quiet s s' := by
  unfold encoderStep at h
  split_ifs at h
  obtain ⟨intake, hintake, rfl⟩ := Option.map_eq_some_iff.mp h
  exact .intake ⟨rfl, rfl, rfl, rfl, rfl⟩ (encoderStep_ledger hintake) rfl rfl rfl (add_zero _).symm

theorem helperDies_quiet (s : System) : Quiet s s.helperDies := by
  have hle := tickets_le_of_sub s s.helperDies rfl le_rfl (by simp [helperDies])
    (by simp [helperDies]) (by simp [helperDies, VideoIntake.live, EncoderThread.frame?])
    (by simp [helperDies, VideoIntake.tickets, VideoIntake.live, answers, EncoderThread.frame?])
  refine .loses ⟨rfl, rfl, rfl, rfl, rfl⟩ hle.1 hle.2 rfl ?_
  intro _ hs'
  simp [linked, helperDies] at hs'

/-- Every step is the Present thread's or quiet. -/
theorem step_quiet {s s' : System} {a : Action} (h : s.step a = some s') :
    (∃ p, a = .present p) ∨ Quiet s s' := by
  cases a with
  | present p => exact .inl ⟨p, rfl⟩
  | ipc a => exact .inr (ipcStep_quiet h)
  | haptic a => exact .inr (hapticStep_quiet h)
  | server a => exact .inr (serverStep_quiet h)
  | encoder a => exact .inr (encoderStep_quiet h)
  | request request =>
    cases h
    exact .inr (.kept ⟨rfl, rfl, rfl, rfl, rfl⟩ rfl rfl (.inl rfl))
  | helperDies =>
    cases h
    exact .inr (helperDies_quiet s)

end System

end WivrnNx.Staging
