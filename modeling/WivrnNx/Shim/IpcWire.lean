import WivrnNx.Session.InputState
import WivrnNx.Pipe.Server
import WivrnNx.Shim.IpcThread

/-!
# The shim's pipe client on bytes

The client thread of shim/src/ipc_client.cpp again, with what it puts into the pipe: the
messages of the queue as `queue_message` packed them, the ShimHello and the KeepAlives,
and the handle it holds while the pipe is open.

- `step`: one action per access that another thread or the helper can see;
- `refines`: without the bytes, and with what a float is worth, this is the thread of
  `IpcThread`.
-/

namespace WivrnNx.IpcWire

open IpcClient Wire
open PipeServer (Sent)

/-- The types that `queue_haptic`, `queue_staging_config` and `queue_frame_ready` queue. -/
def Queueable (t : MessageType) : Prop := t = .haptic ∨ t = .stagingConfig ∨ t = .frameReady

instance (t : MessageType) : Decidable (Queueable t) := by
  unfold Queueable
  infer_instance

/-- The `evictable` that they pass. -/
def evictable (m : Message) : Bool := m.type ≠ .stagingConfig

/-- `queue_message`, from the lock on. -/
def enqueue (pending : List Message) (m : Message) (alloc : Bool) : List Message :=
  let push (q : List Message) := if alloc then q ++ [m] else q
  if maxPendingMessages ≤ pending.length then
    if evictable m then pending else push pending.tail
  else push pending

/-- Where the client thread is. -/
inductive Thread where
  | waiting
  /-- `open_pipe` has succeeded and the ShimHello is next. -/
  | opened
  | looping
  | flushing
  | sending (m : Message)
  | reading
  /-- `run_session` has returned. -/
  | closing
  /-- Past `close_pipe`. -/
  | closed
  /-- `connected_` is cleared, the queue is not yet. -/
  | cleared

/-- The thread holds a handle of the pipe. -/
def Thread.open : Thread → Prop
  | .waiting | .closed | .cleared => False
  | _ => True

structure Client where
  thread : Thread := .waiting
  /-- `run_session`'s locals and `connected_`. -/
  state : Session := {}
  pending : List Message := []
  /-- The calls of `queue_message` between the check and the lock. -/
  calls : ℕ → Option Message := fun _ => none

inductive Event where
  | openPipe
  | shimHello (pid : UInt32) (result : Sent)
  /-- The top of the loop: `running_`, and a KeepAlive if one is due. -/
  | loop (running keepAliveDue : Bool) (timeQpc : UInt64) (result : Sent)
  | flush
  | send (result : Sent)
  | read (result : ReadResult)
  | closePipe
  /-- `connected_.store(false)` in `thread_main`. -/
  | clear
  /-- `drop_pending_messages` in `thread_main`. -/
  | drop
  /-- `drop_pending_messages` in `stop`, once the thread is joined. -/
  | stop
  /-- The check at the top of `queue_message`. -/
  | check (caller : ℕ) (m : Message)
  /-- The rest of it. -/
  | push (caller : ℕ) (alloc : Bool)

/-- What a step writes into the pipe, and the callbacks it runs. -/
structure Output where
  wrote : List Message := []
  callbacks : List Callback := []

/-- The ShimHello. -/
def hello (pid : UInt32) : Message :=
  ⟨.shimHello, ⟨PipeServer.shimMagic, PipeServer.protocolVersion, pid⟩⟩

/-- A KeepAlive. -/
def keepAlive (timeQpc : UInt64) : Message := ⟨.keepAlive, ⟨timeQpc⟩⟩

/-- `run_session` returns. -/
def Client.leave (s : Client) : Client :=
  { s with thread := .closing, state := s.state.hangUp.1 }

/-- After a write of `m`, on to `thread` or out. -/
def Client.wrote (s : Client) (m : Message) (r : Sent) (thread : Thread) : Client × Output :=
  (if r = .sent then { s with thread := thread } else s.leave,
    { wrote := if r.written then [m] else [] })

/-- The top of `run_session`'s loop. -/
def Client.loop (s : Client) (running due : Bool) (timeQpc : UInt64) (r : Sent) :
    Client × Output :=
  if !running then (s.leave, {})
  else if s.state.gotHelperHello && due then s.wrote (keepAlive timeQpc) r .flushing
  else ({ s with thread := .flushing }, {})

/-- What `pump_read` returned, and `handle_message` made of it. -/
def Client.read (s : Client) (r : ReadResult) : Client × Output :=
  let handled := handleRead s.state r
  ({ s with state := handled.1, thread := if handled.1.ended then .closing else .looping },
    { callbacks := handled.2 })

def step (s : Client) : Event → Option (Client × Output)
  | .openPipe =>
    match s.thread with
    | .waiting =>
      some ({ s with thread := .opened, state := { connected := s.state.connected } }, {})
    | _ => none
  | .shimHello pid r =>
    match s.thread with
    | .opened => some (s.wrote (hello pid) r .looping)
    | _ => none
  | .loop running due timeQpc r =>
    match s.thread with
    | .looping => some (s.loop running due timeQpc r)
    | _ => none
  | .flush =>
    match s.thread with
    | .flushing =>
      match s.pending with
      | [] => some ({ s with thread := .reading }, {})
      | m :: rest => some ({ s with thread := .sending m, pending := rest }, {})
    | _ => none
  | .send r =>
    match s.thread with
    | .sending m => some (s.wrote m r .flushing)
    | _ => none
  | .read r =>
    match s.thread with
    | .reading => some (s.read r)
    | _ => none
  | .closePipe =>
    match s.thread with
    | .closing => some ({ s with thread := .closed }, {})
    | _ => none
  | .clear =>
    match s.thread with
    | .closed =>
      some ({ s with thread := .cleared, state := { s.state with connected := false } }, {})
    | _ => none
  | .drop =>
    match s.thread with
    | .cleared => some ({ s with thread := .waiting, pending := [] }, {})
    | _ => none
  | .stop =>
    match s.thread with
    | .waiting => some ({ s with pending := [] }, {})
    | _ => none
  | .check caller m =>
    if s.state.connected && (s.calls caller).isNone && Queueable m.type then
      some ({ s with calls := Function.update s.calls caller (some m) }, {})
    else none
  | .push caller alloc =>
    (s.calls caller).map fun m =>
      ({ s with
        pending := enqueue s.pending m alloc
        calls := Function.update s.calls caller none }, {})

/-! ## Without the bytes -/

/-- A queued message with what its floats are worth, as the rest of the shim has it. -/
def toHelper : Message → Option Ipc.ToHelper
  | ⟨.haptic, h⟩ =>
    some (.haptic
      { device := h.device, durationS := Flt.ofBits h.durationS
        frequencyHz := Flt.ofBits h.frequencyHz, amplitude := Flt.ofBits h.amplitude })
  | ⟨.stagingConfig, c⟩ =>
    some (.stagingConfig
      { generation := c.generation.toNat, width := c.width, height := c.height
        dxgiFormat := c.dxgiFormat.toNat, count := c.count.toNat
        handles := List.ofFn fun i => (c.handles i).toNat })
  | ⟨.frameReady, f⟩ =>
    some (.frameReady
      { frameId := f.frameId.toNat, sampleTimeQpc := f.sampleTimeQpc.toNat
        generation := f.generation.toNat, stagingIndex := f.stagingIndex.toNat
        pose :=
          { qw := Flt.ofBits f.qw, qx := Flt.ofBits f.qx, qy := Flt.ofBits f.qy
            qz := Flt.ofBits f.qz, px := Flt.ofBits f.px, py := Flt.ofBits f.py
            pz := Flt.ofBits f.pz }
        predictS := Flt.ofBits f.predictS })
  | _ => none

theorem toHelper_queueable {m : Message} (h : Queueable m.type) : ∃ t, toHelper m = some t := by
  obtain ⟨t, content⟩ := m
  change t = _ ∨ t = _ ∨ t = _ at h
  rcases h with h | h | h <;> subst h
  · exact ⟨_, rfl⟩
  · exact ⟨_, rfl⟩
  · exact ⟨_, rfl⟩

theorem evictable_toHelper {m : Message} {t : Ipc.ToHelper} (h : toHelper m = some t) :
    IpcThread.evictable t = evictable m := by
  obtain ⟨type, content⟩ := m
  cases type
  case haptic =>
    cases h
    rfl
  case stagingConfig =>
    cases h
    rfl
  case frameReady =>
    cases h
    rfl
  all_goals cases h

/-- The abstract message of a queued one. -/
def Queued (m : Message) (q : IpcThread.Queued) : Prop := toHelper m = some q.message

/-- `closed` is still before `connected_` is cleared. -/
inductive SameThread : Thread → IpcThread.Thread → Prop where
  | waiting : SameThread .waiting .waiting
  | opened : SameThread .opened .opened
  | looping : SameThread .looping .looping
  | flushing : SameThread .flushing .flushing
  | sending {m : Message} {q : IpcThread.Queued} (h : Queued m q) :
    SameThread (.sending m) (.sending q)
  | reading : SameThread .reading .reading
  | closing : SameThread .closing .closing
  | closed : SameThread .closed .closing
  | cleared : SameThread .cleared .cleared

/-- The two threads are at the same place with the same queue. -/
structure Refines (c : Client) (a : IpcThread.Client) : Prop where
  thread : SameThread c.thread a.thread
  state : a.state = c.state
  pending : List.Forall₂ Queued c.pending a.pending
  calls : ∀ k, Option.Rel Queued (c.calls k) (a.calls k)

/-- How a write ends, for the thread of `IpcThread`. -/
def sentOf : Sent → IpcThread.Sent
  | .sent => .sent
  | .failed written => .failed written

/-- The action of `IpcThread` that a step is; closing the pipe is none. -/
def Event.abstract : Event → Option IpcThread.Event
  | .openPipe => some .openPipe
  | .shimHello _ r => some (.shimHello (r = .sent))
  | .loop running due _ r => some (.loop running due (r = .sent))
  | .flush => some .flush
  | .send r => some (.send (sentOf r))
  | .read r => some (.read r)
  | .closePipe => none
  | .clear => some .clear
  | .drop => some .drop
  | .stop => some .stop
  | .check caller m => (toHelper m).map (.check caller)
  | .push caller alloc => some (.push caller alloc)

theorem enqueue_refines {pending : List Message} {queue : List IpcThread.Queued} {m : Message}
    {q : IpcThread.Queued} (h : List.Forall₂ Queued pending queue) (hm : Queued m q)
    (alloc : Bool) :
    List.Forall₂ Queued (enqueue pending m alloc) (IpcThread.enqueue queue q alloc).1 := by
  have hpush : ∀ {p : List Message} {p' : List IpcThread.Queued}, List.Forall₂ Queued p p' →
      List.Forall₂ Queued (if alloc then p ++ [m] else p) (if alloc then p' ++ [q] else p') := by
    intro p p' hp
    cases alloc with
    | true => exact List.rel_append hp (.cons hm .nil)
    | false => exact hp
  have htail : List.Forall₂ Queued pending.tail queue.tail := by
    cases h with
    | nil => exact .nil
    | cons _ hrest => exact hrest
  unfold enqueue IpcThread.enqueue
  rw [evictable_toHelper hm, ← h.length_eq]
  dsimp only
  split
  · split
    · exact h
    · cases halloc : alloc <;> simpa [halloc] using hpush htail
  · cases halloc : alloc <;> simpa [halloc] using hpush h

theorem Refines.leave {c : Client} {a : IpcThread.Client} (h : Refines c a) :
    Refines c.leave a.leave :=
  ⟨.closing, by rw [Client.leave, IpcThread.Client.leave, h.state], h.pending, h.calls⟩

/-- A write of the loop, in a place where the other thread is told only whether it went out. -/
theorem Refines.wrote {c : Client} {a : IpcThread.Client} (h : Refines c a) (m : Message) (r : Sent)
    {thread : Thread} {there : IpcThread.Thread} (hthread : SameThread thread there) :
    Refines (c.wrote m r thread).1 (a.next (r = .sent) there) := by
  rw [Client.wrote, IpcThread.Client.next]
  by_cases hr : r = .sent
  · simp only [hr, if_true, decide_true]
    exact ⟨hthread, h.state, h.pending, h.calls⟩
  · simp only [hr, if_false, decide_false]
    exact h.leave

/-- `IpcThread`'s thread takes the step that its event stands for. -/
def Matched (c' : Client) (a : IpcThread.Client) (e : Event) : Prop :=
  (e.abstract = none ∧ Refines c' a) ∨
    ∃ e' a', e.abstract = some e' ∧ IpcThread.step a e' = some a' ∧ Refines c' a'

theorem Matched.of {c' : Client} {a a' : IpcThread.Client} {e : Event} {e' : IpcThread.Event}
    (he : e.abstract = some e') (hstep : IpcThread.step a e' = some a') (h : Refines c' a') :
    Matched c' a e := .inr ⟨e', a', he, hstep, h⟩

theorem loop_refines {c : Client} {a : IpcThread.Client} (h : Refines c a)
    (hthread : a.thread = .looping) (running due : Bool) (timeQpc : UInt64) (r : Sent) :
    Matched (c.loop running due timeQpc r).1 a (.loop running due timeQpc r) := by
  refine .of rfl (by rw [IpcThread.step, if_pos hthread]) ?_
  rw [h.state, Client.loop]
  cases running with
  | false => exact h.leave
  | true =>
    by_cases hdue : (c.state.gotHelperHello && due) = true
    · -- The KeepAlive decides
      have hgoes : (true && !(c.state.gotHelperHello && due && !decide (r = .sent))) =
          decide (r = .sent) := by
        rw [hdue]
        cases decide (r = .sent) <;> rfl
      rw [hgoes, hdue]
      exact h.wrote (keepAlive timeQpc) r .flushing
    · rw [Bool.not_eq_true] at hdue
      rw [hdue]
      exact ⟨.flushing, h.state, h.pending, h.calls⟩

theorem read_refines {c : Client} {a : IpcThread.Client} (h : Refines c a)
    (hthread : a.thread = .reading) (r : ReadResult) :
    Matched (c.read r).1 a (.read r) := by
  refine .of rfl (by rw [IpcThread.step, if_pos hthread]) ?_
  refine ⟨?_, by rw [h.state]; rfl, h.pending, h.calls⟩
  rw [Client.read, h.state]
  dsimp only
  split
  · exact .closing
  · exact .looping

theorem send_refines {c : Client} {a : IpcThread.Client} (h : Refines c a) {m : Message}
    {q : IpcThread.Queued} (hthread : a.thread = .sending q) (r : Sent) :
    Matched (c.wrote m r .flushing).1 a (.send r) := by
  refine .of rfl (by rw [IpcThread.step, hthread]) ?_
  cases r with
  | sent => exact ⟨.flushing, h.state, h.pending, h.calls⟩
  | failed written =>
    have hleft := h.leave
    cases written with
    | true => exact ⟨.closing, hleft.state, h.pending, h.calls⟩
    | false => exact hleft

theorem flush_refines {c : Client} {a : IpcThread.Client} (h : Refines c a)
    (hthread : a.thread = .flushing) {c' : Client} {out : Output}
    (hc : c.thread = .flushing) (hstep : step c .flush = some (c', out)) :
    Matched c' a .flush := by
  simp only [step, hc] at hstep
  have hpending := h.pending
  cases hp : c.pending with
  | nil =>
    rw [hp] at hpending hstep
    have hnil := List.forall₂_nil_left_iff.mp hpending
    cases hstep
    refine .of rfl (by rw [IpcThread.step, if_pos hthread, hnil]) ?_
    exact ⟨.reading, h.state, .nil, h.calls⟩
  | cons m rest =>
    rw [hp] at hpending hstep
    obtain ⟨q, queue, hm, hrest, hq⟩ := List.forall₂_cons_left_iff.mp hpending
    cases hstep
    refine .of rfl (by rw [IpcThread.step, if_pos hthread, hq]) ?_
    exact ⟨.sending hm, h.state, hrest, h.calls⟩

/-- `check` and `push` touch one caller. -/
theorem update_refines {calls : ℕ → Option Message} {calls' : ℕ → Option IpcThread.Queued}
    (h : ∀ k, Option.Rel Queued (calls k) (calls' k)) (caller : ℕ) {m : Option Message}
    {q : Option IpcThread.Queued} (hm : Option.Rel Queued m q) (k : ℕ) :
    Option.Rel Queued (Function.update calls caller m k) (Function.update calls' caller q k) := by
  by_cases hk : k = caller
  · rw [hk, Function.update_self, Function.update_self]
    exact hm
  · rw [Function.update_of_ne hk, Function.update_of_ne hk]
    exact h k

/-- A step of the thread on bytes is one of the thread without, or closes the pipe. -/
theorem step_refines {c : Client} {a : IpcThread.Client} (h : Refines c a) (e : Event)
    {c' : Client} {out : Output} (hstep : step c e = some (c', out)) : Matched c' a e := by
  have hsame := h.thread
  generalize hthere : a.thread = there at hsame
  cases e with
  | openPipe =>
    simp only [step] at hstep
    split at hstep
    · rename_i hthread
      rw [hthread] at hsame
      cases hsame
      cases hstep
      refine .of rfl (by rw [IpcThread.step, if_pos hthere]) ?_
      exact ⟨.opened, by rw [h.state], h.pending, h.calls⟩
    · cases hstep
  | shimHello pid r =>
    simp only [step] at hstep
    split at hstep
    · rename_i hthread
      rw [hthread] at hsame
      cases hsame
      cases hstep
      exact .of rfl (by rw [IpcThread.step, if_pos hthere]) (h.wrote (hello pid) r .looping)
    · cases hstep
  | loop running due timeQpc r =>
    simp only [step] at hstep
    split at hstep
    · rename_i hthread
      rw [hthread] at hsame
      cases hsame
      have hloop := loop_refines h hthere running due timeQpc r
      rw [Option.some.injEq] at hstep
      rwa [hstep] at hloop
    · cases hstep
  | flush =>
    have hstep' := hstep
    simp only [step] at hstep
    split at hstep
    · rename_i hthread
      rw [hthread] at hsame
      cases hsame
      exact flush_refines h hthere hthread hstep'
    · cases hstep
  | send r =>
    simp only [step] at hstep
    split at hstep
    · rename_i m hthread
      rw [hthread] at hsame
      cases hsame
      have hsend := send_refines (m := m) h hthere r
      rw [Option.some.injEq] at hstep
      rwa [hstep] at hsend
    · cases hstep
  | read r =>
    simp only [step] at hstep
    split at hstep
    · rename_i hthread
      rw [hthread] at hsame
      cases hsame
      have hread := read_refines h hthere r
      rw [Option.some.injEq] at hstep
      rwa [hstep] at hread
    · cases hstep
  | closePipe =>
    simp only [step] at hstep
    split at hstep
    · rename_i hthread
      rw [hthread] at hsame
      cases hsame
      cases hstep
      exact .inl ⟨rfl, by rw [hthere]; exact .closed, h.state, h.pending, h.calls⟩
    · cases hstep
  | clear =>
    simp only [step] at hstep
    split at hstep
    · rename_i hthread
      rw [hthread] at hsame
      cases hsame
      cases hstep
      refine .of rfl (by rw [IpcThread.step, if_pos hthere]) ?_
      exact ⟨.cleared, by rw [h.state], h.pending, h.calls⟩
    · cases hstep
  | drop =>
    simp only [step] at hstep
    split at hstep
    · rename_i hthread
      rw [hthread] at hsame
      cases hsame
      cases hstep
      refine .of rfl (by rw [IpcThread.step, if_pos hthere]) ?_
      exact ⟨.waiting, h.state, .nil, h.calls⟩
    · cases hstep
  | stop =>
    simp only [step] at hstep
    split at hstep
    · rename_i hthread
      rw [hthread] at hsame
      cases hsame
      cases hstep
      refine .of rfl (by rw [IpcThread.step, if_pos hthere]) ?_
      exact ⟨by rw [hthread, hthere]; exact .waiting, h.state, .nil, h.calls⟩
    · cases hstep
  | check caller m =>
    simp only [step] at hstep
    split at hstep
    · rename_i hguard
      simp only [Bool.and_eq_true, decide_eq_true_eq] at hguard
      obtain ⟨⟨hconnected, hfree⟩, hqueueable⟩ := hguard
      obtain ⟨t, ht⟩ := toHelper_queueable hqueueable
      cases hstep
      have hidle : (a.calls caller).isNone = true := by
        have hrel := h.calls caller
        rw [Option.isNone_iff_eq_none.mp hfree] at hrel
        cases hcall : a.calls caller with
        | none => rfl
        | some q =>
          rw [hcall] at hrel
          cases hrel
      have hmoved : IpcThread.step a (.check caller t) =
          some { a with calls := Function.update a.calls caller (some ⟨t, a.session⟩) } := by
        rw [IpcThread.step, if_pos]
        rw [h.state, hconnected, hidle]
        rfl
      refine .of (by rw [Event.abstract, ht]; rfl) hmoved ?_
      refine ⟨by rw [hthere]; exact hsame, h.state, h.pending, ?_⟩
      intro k
      have hqueued : Queued m ⟨t, a.session⟩ := ht
      exact update_refines h.calls caller (.some hqueued) k
    · cases hstep
  | push caller alloc =>
    obtain ⟨m, hm, heq⟩ := Option.map_eq_some_iff.mp hstep
    cases heq
    have hrel := h.calls caller
    rw [hm] at hrel
    cases hcall : a.calls caller with
    | none =>
      rw [hcall] at hrel
      cases hrel
    | some q =>
      rw [hcall] at hrel
      cases hrel with
      | some hq =>
        refine .of rfl (by rw [IpcThread.step, hcall]; rfl) ?_
        refine ⟨by rw [hthere]; exact hsame, h.state, enqueue_refines h.pending hq alloc, ?_⟩
        intro k
        exact update_refines h.calls caller .none k

/-- The step without what it puts out. -/
def move (c : Client) (e : Event) : Option Client := (step c e).map Prod.fst

/-- Every run of the thread on bytes is a run of the thread of `IpcThread`. -/
theorem run_refines (es : List Event) {c c' : Client} {a : IpcThread.Client} (h : Refines c a)
    (hrun : Runs.run move c es = some c') :
    ∃ a', Runs.run IpcThread.step a (es.filterMap Event.abstract) = some a' ∧ Refines c' a' := by
  induction es generalizing c a with
  | nil =>
    cases hrun
    exact ⟨a, rfl, h⟩
  | cons e es ih =>
    obtain ⟨m, hm, hrest⟩ := Runs.run_cons_some hrun
    obtain ⟨⟨m', out⟩, hstep, rfl⟩ := Option.map_eq_some_iff.mp hm
    rcases step_refines h e hstep with ⟨hnone, hsame⟩ | ⟨e', a', he, hmoved, hsame⟩
    · obtain ⟨b, hb, hfinal⟩ := ih hsame hrest
      exact ⟨b, by rw [List.filterMap_cons, hnone]; exact hb, hfinal⟩
    · obtain ⟨b, hb, hfinal⟩ := ih hsame hrest
      refine ⟨b, ?_, hfinal⟩
      rw [List.filterMap_cons, he]
      dsimp only
      rw [Runs.run_cons, hmoved]
      exact hb

end WivrnNx.IpcWire
