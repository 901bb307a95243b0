import WivrnNx.Shim.IpcClient
import WivrnNx.Shim.IpcSession
import WivrnNx.Lib.Runs

/-!
# The pipe client's thread and its callers

`IpcClient::thread_main` with `run_session` and `flush_outgoing`, and any number
of `queue_message` callers, one action per access that another thread can see.
A caller's check of `connected_` and its push are two actions; between them the
thread may end the session, drop the queue and open the next pipe. Sessions are
counted by the pipes opened, and each message carries the session whose
`connected_` its caller saw, which the code does not keep.
-/

namespace WivrnNx.IpcThread

open Ipc IpcClient

/-- A queued message, with the session in which it passed the check. -/
structure Queued where
  message : ToHelper
  session : ℕ
deriving DecidableEq, Repr

/-- The `evictable` that `queue_haptic`, `queue_staging_config` and `queue_frame_ready` pass. -/
def evictable : ToHelper → Bool
  | .stagingConfig _ => false
  | _ => true

/-- `queueMessage` on messages that carry their session. -/
def enqueue (pending : List Queued) (m : Queued) (alloc : Bool) : List Queued × Bool :=
  if maxPendingMessages ≤ pending.length then
    if evictable m.message then (pending, false)
    else if alloc then (pending.tail ++ [m], true) else (pending.tail, false)
  else if alloc then (pending ++ [m], true) else (pending, false)

/-- Without the sessions this is the code's queue. -/
theorem enqueue_messages (pending : List Queued) (m : Queued) (alloc : Bool) :
    (enqueue pending m alloc).1.map Queued.message =
        (queueMessage (pending.map Queued.message) m.message (evictable m.message) alloc).1 ∧
      (enqueue pending m alloc).2 =
        (queueMessage (pending.map Queued.message) m.message (evictable m.message) alloc).2 := by
  unfold enqueue queueMessage pushBack
  rw [List.length_map]
  cases alloc <;> split <;> try split
  all_goals simp

/-- Where the client thread is. -/
inductive Thread where
  /-- No pipe is open: before `open_pipe`, or the thread does not run. -/
  | waiting
  /-- `open_pipe` has succeeded and the ShimHello is next. -/
  | opened
  /-- At the top of `run_session`'s loop. -/
  | looping
  /-- Before the lock in `flush_outgoing`. -/
  | flushing
  /-- Past it, with the message it took. -/
  | sending (m : Queued)
  /-- In `pump_read`. -/
  | reading
  /-- `run_session` has returned. -/
  | closing
  /-- `connected_` is cleared, the queue is not yet. -/
  | cleared
deriving DecidableEq, Repr

/-- How `send_message` ends: a write that is cancelled too late may have gone out. -/
inductive Sent where
  | sent
  | failed (written : Bool)
deriving DecidableEq, Repr

structure Client where
  thread : Thread := .waiting
  /-- The pipes opened so far. Ghost. -/
  session : ℕ := 0
  /-- `run_session`'s locals and `connected_`. -/
  state : Session := {}
  pending : List Queued := []
  /-- The calls of `queue_message` between the check and the lock. -/
  calls : ℕ → Option Queued := fun _ => none
  /-- What went into a pipe, with the number of that pipe. Ghost. -/
  written : List (Queued × ℕ) := []

inductive Event where
  | openPipe
  | shimHello (sent : Bool)
  | loop (running keepAliveDue keepAliveSent : Bool)
  | flush
  | send (result : Sent)
  | read (result : ReadResult)
  /-- `connected_.store(false)` in `thread_main`. -/
  | clear
  /-- `drop_pending_messages` in `thread_main`. -/
  | drop
  /-- `drop_pending_messages` in `stop`, once the thread is joined. -/
  | stop
  /-- The check at the top of `queue_message`. -/
  | check (caller : ℕ) (message : ToHelper)
  /-- The rest of it. -/
  | push (caller : ℕ) (alloc : Bool)
deriving DecidableEq, Repr

/-- `run_session` returns. -/
def Client.leave (s : Client) : Client :=
  { s with thread := .closing, state := s.state.hangUp.1 }

/-- `run_session` goes on to `thread`, or returns. -/
def Client.next (s : Client) (goes : Bool) (thread : Thread) : Client :=
  if goes then { s with thread := thread } else s.leave

/-- `send_message` inside `flush_outgoing`. -/
def Client.sent (s : Client) (m : Queued) : Sent → Client
  | .sent => { s with written := s.written ++ [(m, s.session)], thread := .flushing }
  | .failed true => { s with written := s.written ++ [(m, s.session)] }.leave
  | .failed false => s.leave

def step (s : Client) : Event → Option Client
  | .openPipe =>
    if s.thread = .waiting then
      some { s with
        thread := .opened
        session := s.session + 1
        state := { connected := s.state.connected } }
    else none
  | .shimHello sent => if s.thread = .opened then some (s.next sent .looping) else none
  | .loop running due sent =>
    if s.thread = .looping then
      some (s.next (running && !(s.state.gotHelperHello && due && !sent)) .flushing)
    else none
  | .flush =>
    if s.thread = .flushing then
      match s.pending with
      | [] => some { s with thread := .reading }
      | m :: rest => some { s with thread := .sending m, pending := rest }
    else none
  | .send result =>
    match s.thread with
    | .sending m => some (s.sent m result)
    | _ => none
  | .read result =>
    if s.thread = .reading then
      let state := (handleRead s.state result).1
      some { s with state := state, thread := if state.ended then .closing else .looping }
    else none
  | .clear =>
    if s.thread = .closing then
      some { s with thread := .cleared, state := { s.state with connected := false } }
    else none
  | .drop => if s.thread = .cleared then some { s with thread := .waiting, pending := [] } else none
  | .stop => if s.thread = .waiting then some { s with pending := [] } else none
  | .check caller message =>
    if s.state.connected && (s.calls caller).isNone then
      some { s with calls := Function.update s.calls caller (some ⟨message, s.session⟩) }
    else none
  | .push caller alloc =>
    (s.calls caller).map fun m =>
      { s with
        pending := (enqueue s.pending m alloc).1
        calls := Function.update s.calls caller none }

/-! ## Late pushes -/

/-- Every queued message is one of this session, and every written one is one of the
session whose pipe took it. -/
structure Client.Current (s : Client) : Prop where
  pending : ∀ m ∈ s.pending, m.session = s.session
  waiting : s.thread = .waiting → s.pending = []
  sending : ∀ m, s.thread = .sending m → m.session = s.session
  written : ∀ e ∈ s.written, e.1.session = e.2

/-- A push that queues its message does so in the session of its check, before that
session's queue is dropped. -/
def InTime (s : Client) (e : Event) (_ : Client) : Prop :=
  match e with
  | .push caller alloc => ∀ m ∈ s.calls caller, (enqueue s.pending m alloc).2 = true →
      m.session = s.session ∧ s.thread ≠ .waiting
  | _ => True

instance (s : Client) (e : Event) (s' : Client) : Decidable (InTime s e s') := by
  cases e <;> unfold InTime <;> infer_instance

/-- What a push leaves in the queue was there, or is its message. -/
theorem mem_enqueue {pending : List Queued} {m x : Queued} {alloc : Bool}
    (h : x ∈ (enqueue pending m alloc).1) :
    x ∈ pending ∨ (x = m ∧ (enqueue pending m alloc).2 = true) := by
  have hpushed : ∀ q : List Queued, q ⊆ pending →
      x ∈ (if alloc then (q ++ [m], true) else (q, false)).1 →
      x ∈ pending ∨ (x = m ∧ (if alloc then (q ++ [m], true) else (q, false)).2 = true) := by
    intro q hq hx
    cases alloc with
    | false => exact .inl (hq hx)
    | true =>
      rcases List.mem_append.mp hx with hold | hnew
      · exact .inl (hq hold)
      · exact .inr ⟨List.mem_singleton.mp hnew, rfl⟩
  unfold enqueue at h ⊢
  split at h
  · split at h
    · exact .inl h
    · rename_i hfull hneeded
      rw [if_pos hfull, if_neg hneeded]
      exact hpushed _ (List.tail_subset pending) h
  · rename_i hroom
    rw [if_neg hroom]
    exact hpushed _ (List.Subset.refl pending) h

theorem enqueue_nil {m : Queued} {alloc : Bool} (h : (enqueue [] m alloc).2 ≠ true) :
    (enqueue [] m alloc).1 = [] := by
  cases alloc with
  | false => rfl
  | true => exact absurd rfl h

theorem Client.Current.leave {s : Client} (h : s.Current) : s.leave.Current :=
  ⟨h.pending, Thread.noConfusion, fun _ => Thread.noConfusion, h.written⟩

theorem Client.Current.next {s : Client} (h : s.Current) (goes : Bool) {thread : Thread}
    (hpipe : thread ≠ .waiting) (hfree : ∀ m, thread ≠ .sending m) :
    (s.next goes thread).Current := by
  cases goes with
  | true =>
    refine ⟨h.pending, fun ht => absurd ht hpipe, fun m ht => absurd ht (hfree m), h.written⟩
  | false => exact h.leave

theorem Client.Current.write {s : Client} (h : s.Current) {m : Queued}
    (hm : m.session = s.session) :
    ∀ e ∈ s.written ++ [(m, s.session)], e.1.session = e.2 := by
  intro e he
  rcases List.mem_append.mp he with hold | hnew
  · exact h.written e hold
  · rw [List.mem_singleton.mp hnew]
    exact hm

theorem step_current (s : Client) (e : Event) (s' : Client) (h : s.Current)
    (hin : InTime s e s') (hs : step s e = some s') : s'.Current := by
  cases e with
  | openPipe =>
    simp only [step, Option.ite_none_right_eq_some, Option.some.injEq] at hs
    obtain ⟨hthread, rfl⟩ := hs
    -- The queue was dropped with the last session
    have hnil := h.waiting hthread
    refine ⟨?_, Thread.noConfusion, fun _ => Thread.noConfusion, h.written⟩
    intro m hm
    change m ∈ s.pending at hm
    rw [hnil] at hm
    cases hm
  | shimHello sent =>
    simp only [step, Option.ite_none_right_eq_some, Option.some.injEq] at hs
    obtain ⟨-, rfl⟩ := hs
    exact h.next sent Thread.noConfusion fun _ => Thread.noConfusion
  | loop running due sent =>
    simp only [step, Option.ite_none_right_eq_some, Option.some.injEq] at hs
    obtain ⟨-, rfl⟩ := hs
    exact h.next _ Thread.noConfusion fun _ => Thread.noConfusion
  | flush =>
    simp only [step, Option.ite_none_right_eq_some] at hs
    obtain ⟨-, hs⟩ := hs
    cases hp : s.pending with
    | nil =>
      rw [hp] at hs
      cases hs
      exact ⟨List.forall_mem_nil _, Thread.noConfusion, fun _ => Thread.noConfusion, h.written⟩
    | cons m rest =>
      rw [hp] at hs
      cases hs
      have hall := h.pending
      rw [hp, List.forall_mem_cons] at hall
      refine ⟨hall.2, Thread.noConfusion, ?_, h.written⟩
      intro m' hm'
      cases hm'
      exact hall.1
  | send result =>
    simp only [step] at hs
    split at hs
    · rename_i m hthread
      cases hs
      have hwritten := h.write (h.sending m hthread)
      cases result with
      | sent => exact ⟨h.pending, Thread.noConfusion, fun _ => Thread.noConfusion, hwritten⟩
      | failed written =>
        cases written with
        | true => exact ⟨h.pending, Thread.noConfusion, fun _ => Thread.noConfusion, hwritten⟩
        | false => exact h.leave
    · cases hs
  | read result =>
    simp only [step, Option.ite_none_right_eq_some, Option.some.injEq] at hs
    obtain ⟨-, rfl⟩ := hs
    refine ⟨h.pending, ?_, ?_, h.written⟩
    · intro ht
      change (if _ then Thread.closing else Thread.looping) = _ at ht
      split at ht <;> cases ht
    · intro m ht
      change (if _ then Thread.closing else Thread.looping) = _ at ht
      split at ht <;> cases ht
  | clear =>
    simp only [step, Option.ite_none_right_eq_some, Option.some.injEq] at hs
    obtain ⟨-, rfl⟩ := hs
    exact ⟨h.pending, Thread.noConfusion, fun _ => Thread.noConfusion, h.written⟩
  | drop =>
    simp only [step, Option.ite_none_right_eq_some, Option.some.injEq] at hs
    obtain ⟨-, rfl⟩ := hs
    exact ⟨List.forall_mem_nil _, fun _ => rfl, fun _ => Thread.noConfusion, h.written⟩
  | stop =>
    simp only [step, Option.ite_none_right_eq_some, Option.some.injEq] at hs
    obtain ⟨-, rfl⟩ := hs
    exact ⟨List.forall_mem_nil _, fun _ => rfl, h.sending, h.written⟩
  | check caller message =>
    simp only [step, Option.ite_none_right_eq_some, Option.some.injEq] at hs
    obtain ⟨-, rfl⟩ := hs
    exact ⟨h.pending, h.waiting, h.sending, h.written⟩
  | push caller alloc =>
    obtain ⟨m, hm, rfl⟩ := Option.map_eq_some_iff.mp hs
    have hpush := hin m hm
    refine ⟨?_, ?_, h.sending, h.written⟩
    · intro x hx
      rcases mem_enqueue hx with hold | ⟨rfl, hqueued⟩
      · exact h.pending x hold
      · exact (hpush hqueued).1
    · intro hwaiting
      -- Between two sessions nothing may be queued
      change (enqueue s.pending m alloc).1 = []
      have hnil := h.waiting hwaiting
      rw [hnil] at hpush ⊢
      exact enqueue_nil fun hqueued => (hpush hqueued).2 hwaiting

theorem init_current : ({} : Client).Current := 
  ⟨List.forall_mem_nil _, fun _ => rfl, fun _ => Thread.noConfusion, List.forall_mem_nil _⟩

/-- In every run whose pushes are all in time, every message written in a session passed
its check in that session. -/
theorem written_in_session (es : List Event) {s : Client}
    (hin : Runs.Along step InTime {} es) (hrun : Runs.run step {} es = some s) :
    ∀ e ∈ s.written, e.1.session = e.2 :=
  (Runs.run_invariant_along step_current es _ s init_current hin hrun).written

/-! ## The thread's sessions -/

/-- Between `open_pipe` and `connected_`'s clearing. -/
def Thread.inSession : Thread → Prop
  | .waiting | .cleared => False
  | _ => True

/-- The session the thread is in is one of `runSession`'s, and outside of it `connected_` is
false. -/
structure Client.Sessions (s : Client) : Prop where
  inside : s.thread.inSession → ∃ ps, s.state = runSession ps
  live : s.thread.inSession → s.thread ≠ .closing → s.state.ended = false
  outside : ¬ s.thread.inSession → s.state.connected = false

theorem runSession_append (ps : List Pass) (p : Pass) :
    runSession (ps ++ [p]) = (pass (runSession ps) p).1 := by
  rw [runSession, after, List.foldl_append]
  rfl

theorem Client.Sessions.leave {s : Client} (h : s.Sessions) (hin : s.thread.inSession)
    (hlive : s.thread ≠ .closing) : s.leave.Sessions := by
  refine ⟨fun _ => ?_, fun _ hne => absurd rfl hne, fun hout => absurd trivial hout⟩
  obtain ⟨ps, hps⟩ := h.inside hin
  -- A pass that finds `running_` cleared
  refine ⟨ps ++ [{ running := false, read := .stopped }], ?_⟩
  rw [runSession_append, ← hps]
  change s.state.hangUp.1 = _
  simp [IpcClient.pass, h.live hin hlive]

theorem Client.Sessions.next {s : Client} (h : s.Sessions) (hin : s.thread.inSession)
    (hlive : s.thread ≠ .closing) (goes : Bool) {thread : Thread} (hthread : thread.inSession) :
    (s.next goes thread).Sessions := by
  cases goes with
  | true =>
    exact ⟨fun _ => h.inside hin, fun _ _ => h.live hin hlive, fun hout => absurd hthread hout⟩
  | false => exact h.leave hin hlive

theorem step_sessions (s : Client) (e : Event) (s' : Client) (h : s.Sessions)
    (hs : step s e = some s') : s'.Sessions := by
  cases e with
  | openPipe =>
    simp only [step, Option.ite_none_right_eq_some, Option.some.injEq] at hs
    obtain ⟨hthread, rfl⟩ := hs
    have hout : s.state.connected = false := h.outside (by rw [hthread]; exact id)
    refine ⟨fun _ => ⟨[], ?_⟩, fun _ _ => rfl, fun hout => absurd trivial hout⟩
    -- A session starts with `connected_` as the last one left it, which is cleared
    change ({ connected := s.state.connected } : Session) = {}
    rw [hout]
  | shimHello sent =>
    simp only [step, Option.ite_none_right_eq_some, Option.some.injEq] at hs
    obtain ⟨hthread, rfl⟩ := hs
    exact h.next (by rw [hthread]; trivial) (by rw [hthread]; exact Thread.noConfusion) sent trivial
  | loop running due sent =>
    simp only [step, Option.ite_none_right_eq_some, Option.some.injEq] at hs
    obtain ⟨hthread, rfl⟩ := hs
    exact h.next (by rw [hthread]; trivial) (by rw [hthread]; exact Thread.noConfusion) _ trivial
  | flush =>
    simp only [step, Option.ite_none_right_eq_some] at hs
    obtain ⟨hthread, hs⟩ := hs
    have hin : s.thread.inSession := by rw [hthread]; trivial
    have hlive : s.state.ended = false := h.live hin (by rw [hthread]; exact Thread.noConfusion)
    -- Sending leaves the session where it is, whether there is something to send or not
    split at hs <;> cases hs
    · exact ⟨fun _ => h.inside hin, fun _ _ => hlive, fun hout => absurd trivial hout⟩
    · exact ⟨fun _ => h.inside hin, fun _ _ => hlive, fun hout => absurd trivial hout⟩
  | send result =>
    simp only [step] at hs
    split at hs
    · rename_i m hthread
      cases hs
      have hin : s.thread.inSession := by rw [hthread]; trivial
      have hne : s.thread ≠ .closing := by rw [hthread]; exact Thread.noConfusion
      cases result with
      | sent =>
        exact ⟨fun _ => h.inside hin, fun _ _ => h.live hin hne, fun hout => absurd trivial hout⟩
      | failed written =>
        -- A failed write ends the session before the next message is read
        have hleft := h.leave hin hne
        cases written with
        | true => exact ⟨hleft.inside, hleft.live, hleft.outside⟩
        | false => exact hleft
    · cases hs
  | read result =>
    simp only [step, Option.ite_none_right_eq_some, Option.some.injEq] at hs
    obtain ⟨hthread, rfl⟩ := hs
    have hin : s.thread.inSession := by rw [hthread]; trivial
    have hlive : s.state.ended = false := h.live hin (by rw [hthread]; exact Thread.noConfusion)
    obtain ⟨ps, hps⟩ := h.inside hin
    -- One read is one pass of `run_session` more
    refine ⟨fun _ => ⟨ps ++ [{ read := result }], ?_⟩, ?_, ?_⟩
    · rw [runSession_append, ← hps]
      simp [IpcClient.pass, hlive]
    · intro _ hne
      cases hended : (handleRead s.state result).1.ended with
      | false => rfl
      | true =>
        rw [hended] at hne
        exact absurd rfl hne
    · intro hout
      refine absurd ?_ hout
      change (if _ then Thread.closing else Thread.looping).inSession
      split <;> trivial
  | clear =>
    simp only [step, Option.ite_none_right_eq_some, Option.some.injEq] at hs
    obtain ⟨-, rfl⟩ := hs
    exact ⟨False.elim, False.elim, fun _ => rfl⟩
  | drop =>
    simp only [step, Option.ite_none_right_eq_some, Option.some.injEq] at hs
    obtain ⟨hthread, rfl⟩ := hs
    exact ⟨False.elim, False.elim, fun _ => h.outside (by rw [hthread]; exact id)⟩
  | stop =>
    simp only [step, Option.ite_none_right_eq_some, Option.some.injEq] at hs
    obtain ⟨-, rfl⟩ := hs
    exact ⟨h.inside, h.live, h.outside⟩
  | check caller message =>
    simp only [step, Option.ite_none_right_eq_some, Option.some.injEq] at hs
    obtain ⟨-, rfl⟩ := hs
    exact ⟨h.inside, h.live, h.outside⟩
  | push caller alloc =>
    obtain ⟨m, -, rfl⟩ := Option.map_eq_some_iff.mp hs
    exact ⟨h.inside, h.live, h.outside⟩

/-- Every session of the thread is a run of `run_session`, and outside of one `connected_` is
false. -/
theorem run_sessions (es : List Event) {s : Client} (hrun : Runs.run step {} es = some s) :
    s.Sessions :=
  Runs.run_invariant step_sessions es _ s
    ⟨False.elim, False.elim, fun _ => rfl⟩ hrun

/-! ## A caller that is preempted after its check -/

def helloBytes : List UInt8 := [100, 0, 0, 0, 0x57, 0x4E, 0x58, 0x48, 3, 0, 0, 0]

def configBytes : List UInt8 := [101, 0, 0, 0] ++ List.replicate 104 0

/-- A pass of the loop that finds the queue empty. -/
def idlePass (read : ReadResult) : List Event := [.loop true false true, .flush, .read read]

/-- A session comes up. -/
def opening : List Event :=
  [.openPipe, .shimHello true] ++ idlePass (.message helloBytes) ++ idlePass (.message configBytes)

def frame : ToHelper := .frameReady { frameId := 9, generation := 1, stagingIndex := 2 }

/-- A frame that is queued and written in its session. -/
def promptRun : List Event :=
  opening ++ [.check 0 frame, .push 0 true, .loop true false true, .flush, .send .sent]

theorem written_in_session_prompt :
    ∃ s, Runs.run step {} promptRun = some s ∧ s.written = [(⟨frame, 1⟩, 1)] ∧
      ∀ e ∈ s.written, e.1.session = e.2 := by
  have hin : Runs.Along step InTime {} promptRun := by decide +kernel
  have hrun : (Runs.run step {} promptRun).map Client.written = some [(⟨frame, 1⟩, 1)] := by
    decide +kernel
  obtain ⟨s, hs, hwritten⟩ := Option.map_eq_some_iff.mp hrun
  exact ⟨s, hs, hwritten, written_in_session promptRun hin hs⟩

/-- The session ends while the caller is between its check and the lock, and the next one
opens. -/
def lateRun : List Event :=
  opening ++ [.check 0 frame] ++ idlePass .error ++
    [.clear, .drop, .push 0 true, .openPipe, .shimHello true, .loop true false true, .flush,
      .send .sent]

/-- The frame of the first session goes into the second session's pipe, ahead of its
handshake. -/
theorem late_frame_written :
    ∃ es s, Runs.run step {} es = some s ∧ ¬ ∀ e ∈ s.written, e.1.session = e.2 := by
  have hrun : (Runs.run step {} lateRun).map Client.written = some [(⟨frame, 1⟩, 2)] := by
    decide +kernel
  obtain ⟨s, hs, hwritten⟩ := Option.map_eq_some_iff.mp hrun
  refine ⟨lateRun, s, hs, ?_⟩
  rw [hwritten]
  decide

end WivrnNx.IpcThread
