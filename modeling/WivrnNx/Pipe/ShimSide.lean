import WivrnNx.Pipe.Link

/-!
# The shim's side of the pipe

What the client thread's place in its session says of the pipe: that the hello is the first
thing in it, that only the contract's messages follow, and that the session's flags and
callbacks are those of the messages it took.

- `ShimInv`: the invariant of the client thread, its callers and the pipe;
- `client_shim`: every step of the client keeps it, as long as the helper keeps to the
  contract.
-/

namespace WivrnNx.PipeSession

open IpcClient Wire
open PipeServer (Sent Seen)

/-- The hello is the first thing that a session sends. -/
def Hailed : IpcWire.Thread → List Message → Prop
  | .opened, sent => sent = []
  | .looping, sent | .flushing, sent | .sending _, sent | .reading, sent => sent ≠ []
  | _, _ => True

structure ShimInv (client : IpcWire.Client) (link : Link) (callbacks : List Callback) : Prop where
  stream : ShimStream link.toHelper.sent
  pipe : client.thread.open ↔ link.clientUp = true
  told : client.thread.open → Told client.state link.toShim.taken
  live : client.thread.open → client.thread ≠ .closing → client.state.ended = false
  called : callbacks = heard link.toShim.taken
  hailed : Hailed client.thread link.toHelper.sent
  queue : ∀ m ∈ client.pending, PipeServer.FromShim m.type
  sending : ∀ m, client.thread = .sending m → PipeServer.FromShim m.type
  calls : ∀ k m, client.calls k = some m → PipeServer.FromShim m.type
  idle : client.thread = .waiting ∨ client.thread = .cleared → client.state.connected = false

/-- What the shim's side depends on of the pipe. -/
theorem ShimInv.same {client : IpcWire.Client} {link link' : Link} {callbacks : List Callback}
    (h : ShimInv client link callbacks) (hup : link'.clientUp = link.clientUp)
    (htaken : link'.toShim.taken = link.toShim.taken)
    (hsent : link'.toHelper.sent = link.toHelper.sent) : ShimInv client link' callbacks where
  stream := hsent ▸ h.stream
  pipe := hup ▸ h.pipe
  told := htaken ▸ h.told
  live := h.live
  called := htaken ▸ h.called
  hailed := hsent ▸ h.hailed
  queue := h.queue
  sending := h.sending
  calls := h.calls
  idle := h.idle

theorem Told.hangUp {s : Session} {taken : List Message} (h : Told s taken) :
    Told s.hangUp.1 taken := ⟨h.received, h.hello, h.config, h.connected⟩

/-- The pipe with some messages more. -/
abbrev Link.wrote (link : Link) (l : List Message) : Link :=
  { link with toHelper := link.toHelper.push l }

/-- `run_session` returns, with what its last write left in the pipe. -/
theorem ShimInv.leave {client : IpcWire.Client} {link : Link} {callbacks : List Callback}
    (h : ShimInv client link callbacks) (hopen : client.thread.open) {l : List Message}
    (hstream : ShimStream (link.toHelper.sent ++ l)) :
    ShimInv client.leave (link.wrote l) (callbacks ++ []) where
  stream := hstream
  pipe := ⟨fun _ => h.pipe.mp hopen, fun _ => trivial⟩
  told _ := (h.told hopen).hangUp
  live _ hne := absurd rfl hne
  called := by
    rw [List.append_nil]
    exact h.called
  hailed := trivial
  queue := h.queue
  sending _ := by
    intros
    contradiction
  calls := h.calls
  idle := by
    rintro (hthread | hthread)
    · cases hthread
    · cases hthread

/-- The thread goes on inside its session. -/
theorem ShimInv.on {client : IpcWire.Client} {link : Link} {callbacks : List Callback}
    (h : ShimInv client link callbacks) (hopen : client.thread.open)
    (hlive : client.thread ≠ .closing) {thread : IpcWire.Thread} {pending : List Message}
    {l : List Message} (hthere : thread.open) (hstream : ShimStream (link.toHelper.sent ++ l))
    (hailed : Hailed thread (link.toHelper.sent ++ l))
    (hqueue : ∀ m ∈ pending, PipeServer.FromShim m.type)
    (hsending : ∀ m, thread = .sending m → PipeServer.FromShim m.type) :
    ShimInv { client with thread := thread, pending := pending } (link.wrote l)
      (callbacks ++ []) where
  stream := hstream
  pipe := ⟨fun _ => h.pipe.mp hopen, fun _ => hthere⟩
  told _ := h.told hopen
  live _ _ := h.live hopen hlive
  called := by
    rw [List.append_nil]
    exact h.called
  hailed := hailed
  queue := hqueue
  sending := hsending
  calls := h.calls
  idle := by
    change thread = .waiting ∨ thread = .cleared → _
    rintro (hthread | hthread)
    · rw [hthread] at hthere
      exact absurd hthere id
    · rw [hthread] at hthere
      exact absurd hthere id

/-- A message goes into the pipe, or the write fails and the session is over. -/
theorem ShimInv.written {client : IpcWire.Client} {link : Link} {callbacks : List Callback}
    (h : ShimInv client link callbacks) (hopen : client.thread.open)
    (hlive : client.thread ≠ .closing) (m : Message) (r : Sent) (thread : IpcWire.Thread)
    (hthere : thread.open) (hfree : ∀ m, thread ≠ .sending m)
    (hstream : ShimStream (link.toHelper.sent ++ [m]))
    (hailed : Hailed thread (link.toHelper.sent ++ [m])) :
    ShimInv (client.wrote m r thread).1 (link.wrote (client.wrote m r thread).2.wrote)
      (callbacks ++ []) := by
  cases r with
  | sent =>
    exact h.on hopen hlive hthere hstream hailed h.queue fun x hx => absurd hx (hfree x)
  | failed written =>
    cases written with
    | true => exact h.leave hopen hstream
    | false =>
      refine h.leave hopen (l := []) ?_
      rw [List.append_nil]
      exact h.stream

/-- What does not concern the session: the queue and its callers. -/
theorem ShimInv.queued {client : IpcWire.Client} {link : Link} {callbacks : List Callback}
    (h : ShimInv client link callbacks) {pending : List Message} {calls : ℕ → Option Message}
    (hqueue : ∀ m ∈ pending, PipeServer.FromShim m.type)
    (hcalls : ∀ k m, calls k = some m → PipeServer.FromShim m.type) :
    ShimInv { client with pending := pending, calls := calls } (link.wrote [])
      (callbacks ++ []) where
  stream := by
    change ShimStream (link.toHelper.sent ++ [])
    rw [List.append_nil]
    exact h.stream
  pipe := h.pipe
  told := h.told
  live := h.live
  called := by
    rw [List.append_nil]
    exact h.called
  hailed := by
    change Hailed client.thread (link.toHelper.sent ++ [])
    rw [List.append_nil]
    exact h.hailed
  queue := hqueue
  sending := h.sending
  calls := hcalls
  idle := h.idle

theorem queueable_fromShim {t : MessageType} (h : IpcWire.Queueable t) : PipeServer.FromShim t :=
  .inr h

theorem mem_enqueue {pending : List Message} {m x : Message} {alloc : Bool}
    (h : x ∈ IpcWire.enqueue pending m alloc) : x ∈ pending ∨ x = m := by
  have hpush : ∀ q : List Message, q ⊆ pending → x ∈ (if alloc then q ++ [m] else q) →
      x ∈ pending ∨ x = m := by
    intro q hq hx
    split at hx
    · rcases List.mem_append.mp hx with hold | hnew
      · exact .inl (hq hold)
      · exact .inr (List.mem_singleton.mp hnew)
    · exact .inl (hq hx)
  unfold IpcWire.enqueue at h
  dsimp only at h
  split at h
  · split at h
    · exact .inl h
    · exact hpush _ (List.tail_subset pending) h
  · exact hpush _ (List.Subset.refl pending) h

/-- `pump_read` gave the next message of the helper, or something else. -/
theorem read_shim {client : IpcWire.Client} {link : Link} {callbacks : List Callback}
    (h : ShimInv client link callbacks) (hthread : client.thread = .reading) {m : Message}
    (hm : link.toShim.flight.head? = some m) (hstream : HelperStream link.toShim.sent) :
    ShimInv (client.read (.message (encode m))).1 { link with toShim := link.toShim.pop }
      (callbacks ++ (client.read (.message (encode m))).2.callbacks) ∧
        (client.read (.message (encode m))).1.state.ended = false := by
  have hopen : client.thread.open := by
    rw [hthread]
    trivial
  have hended := h.live hopen (by rw [hthread]; rintro ⟨⟩)
  obtain ⟨hgoes, htold, hheard⟩ := read_next (h.told hopen) hended
    (hstream.of_prefix (link.toShim.next_prefix hm))
  have htaken : link.toShim.pop.taken = link.toShim.taken ++ [m] := Channel.pop_taken _ hm
  have hafter : (client.read (.message (encode m))).1.thread = .looping := by
    change (if (handleRead client.state (.message (encode m))).1.ended then _ else _) = _
    rw [hgoes]
    rfl
  refine ⟨⟨h.stream, ?_, ?_, fun _ _ => hgoes, ?_, ?_, h.queue, ?_, h.calls, ?_⟩, hgoes⟩
  · rw [hafter]
    exact ⟨fun _ => h.pipe.mp hopen, fun _ => trivial⟩
  · intro _
    change Told _ link.toShim.pop.taken
    rw [htaken]
    exact htold
  · change callbacks ++ _ = heard link.toShim.pop.taken
    rw [htaken, hheard, h.called]
    rfl
  · rw [hafter]
    have hailed := h.hailed
    rw [hthread] at hailed
    exact hailed
  · intro x hx
    rw [hafter] at hx
    cases hx
  · rw [hafter]
    rintro (hx | hx)
    · cases hx
    · cases hx

theorem clientFinds_read {s : System} {r : ReadResult} {e : IpcWire.Event}
    (h : clientFinds s (.read r) = some e) :
    (∃ m, s.link.toShim.flight.head? = some m ∧ e = .read (.message (encode m))) ∨
      ((∀ data, r ≠ .message data) ∧ e = .read r) := by
  cases r with
  | message data =>
    rw [clientFinds] at h
    split at h
    · obtain ⟨m, hm, rfl⟩ := Option.map_eq_some_iff.mp h
      exact .inl ⟨m, hm, rfl⟩
    · cases h
  | timeout tooLong =>
    cases h
    exact .inr ⟨(by rintro _ ⟨⟩), rfl⟩
  | stopped =>
    cases h
    exact .inr ⟨(by rintro _ ⟨⟩), rfl⟩
  | error =>
    cases h
    exact .inr ⟨(by rintro _ ⟨⟩), rfl⟩
  | interrupted =>
    cases h
    exact .inr ⟨(by rintro _ ⟨⟩), rfl⟩

/-- A read without a message: the session goes on as it was, or ends. -/
theorem unread_shim {client : IpcWire.Client} {link : Link} {callbacks : List Callback}
    (h : ShimInv client link callbacks) (hthread : client.thread = .reading) {r : ReadResult}
    (hr : ∀ data, r ≠ .message data) :
    ShimInv (client.read r).1 (link.wrote []) (callbacks ++ []) ∧ (client.read r).2 = {} := by
  have hopen : client.thread.open := by
    rw [hthread]
    trivial
  have hlive : client.thread ≠ .closing := by
    rw [hthread]
    rintro ⟨⟩
  have hailed := h.hailed
  rw [hthread] at hailed
  have hstream : ShimStream (link.toHelper.sent ++ []) := by
    rw [List.append_nil]
    exact h.stream
  rcases handleRead_cases client.state r with ⟨data, rfl⟩ | hsame | hover
  · exact absurd rfl (hr data)
  · have hread : client.read r = ({ client with thread := .looping }, {}) := by
      rw [IpcWire.Client.read, hsame]
      dsimp only
      rw [h.live hopen hlive]
      rfl
    rw [hread]
    refine ⟨h.on hopen hlive trivial hstream ?_ h.queue (by intros; contradiction), rfl⟩
    rw [List.append_nil]
    exact hailed
  · have hread : client.read r = (client.leave, {}) := by
      rw [IpcWire.Client.read, hover]
      rfl
    rw [hread]
    exact ⟨h.leave hopen hstream, rfl⟩

theorem client_shim {s s' : System} {e e' : IpcWire.Event}
    (h : ShimInv s.client s.link s.callbacks) (hstream : HelperStream s.link.toShim.sent)
    (hfinds : clientFinds s e = some e') (hstep : clientStep s e' = some s') :
    ShimInv s'.client s'.link s'.callbacks := by
  unfold clientStep at hstep
  split at hstep
  · cases hstep
  · rename_i client out hclient
    cases hstep
    have hailed := h.hailed
    have hnil : ShimStream (s.link.toHelper.sent ++ []) := by
      rw [List.append_nil]
      exact h.stream
    -- Every event but these four is met as it is
    cases e with
    | openPipe =>
      obtain rfl : IpcWire.Event.openPipe = e' := by
        rw [clientFinds] at hfinds
        split at hfinds <;> cases hfinds
        rfl
      simp only [IpcWire.step] at hclient
      split at hclient
      · rename_i hthread
        cases hclient
        have hidle := h.idle (.inl hthread)
        refine ⟨trivial, ⟨fun _ => rfl, fun _ => trivial⟩, ?_, fun _ _ => rfl, rfl, rfl, h.queue,
          (by intros; contradiction), h.calls, ?_⟩
        · intro _
          exact ⟨rfl, rfl, rfl, hidle⟩
        · rintro (hx | hx)
          · cases hx
          · cases hx
      · cases hclient
    | shimHello pid r =>
      obtain rfl : IpcWire.Event.shimHello pid r = e' := by
        rw [clientFinds] at hfinds
        split at hfinds <;> cases hfinds
        rfl
      simp only [IpcWire.step] at hclient
      split at hclient
      · rename_i hthread
        rw [hthread] at hailed
        cases hclient
        have hsent : s.link.toHelper.sent = [] := hailed
        exact h.written (by rw [hthread]; trivial) (by rw [hthread]; rintro ⟨⟩) (IpcWire.hello pid) r
          .looping trivial (by rintro _ ⟨⟩) (by rw [hsent]; exact ⟨⟨pid, rfl⟩, List.forall_mem_nil _⟩)
          (by rw [hsent]; exact List.cons_ne_nil _ _)
      · cases hclient
    | loop running due timeQpc r =>
      obtain rfl : IpcWire.Event.loop running due timeQpc r = e' := by
        rw [clientFinds] at hfinds
        split at hfinds <;> cases hfinds
        rfl
      simp only [IpcWire.step] at hclient
      split at hclient
      · rename_i hthread
        rw [hthread] at hailed
        have hopen : s.client.thread.open := by
          rw [hthread]
          trivial
        have hlive : s.client.thread ≠ .closing := by
          rw [hthread]
          rintro ⟨⟩
        rw [Option.some.injEq, IpcWire.Client.loop] at hclient
        split at hclient
        · cases hclient
          exact h.leave hopen hnil
        · split at hclient
          · cases hclient
            exact h.written hopen hlive (IpcWire.keepAlive timeQpc) r .flushing trivial (by rintro _ ⟨⟩)
              (shim_append hailed h.stream (.inl rfl)) (List.append_ne_nil_of_left_ne_nil hailed _)
          · cases hclient
            exact h.on hopen hlive trivial hnil (List.append_ne_nil_of_left_ne_nil hailed _) h.queue
              (by intros; contradiction)
      · cases hclient
    | flush =>
      cases hfinds
      simp only [IpcWire.step] at hclient
      split at hclient
      · rename_i hthread
        rw [hthread] at hailed
        have hopen : s.client.thread.open := by
          rw [hthread]
          trivial
        have hlive : s.client.thread ≠ .closing := by
          rw [hthread]
          rintro ⟨⟩
        have hnot := List.append_ne_nil_of_left_ne_nil hailed []
        have hqueue := h.queue
        split at hclient
        · cases hclient
          exact h.on hopen hlive trivial hnil hnot hqueue (by intros; contradiction)
        · rename_i m rest hpending
          rw [hpending, List.forall_mem_cons] at hqueue
          cases hclient
          refine h.on hopen hlive trivial hnil hnot hqueue.2 ?_
          intro x hx
          cases hx
          exact hqueue.1
      · cases hclient
    | send r =>
      obtain rfl : IpcWire.Event.send r = e' := by
        rw [clientFinds] at hfinds
        split at hfinds <;> cases hfinds
        rfl
      simp only [IpcWire.step] at hclient
      split at hclient
      · rename_i m hthread
        rw [hthread] at hailed
        cases hclient
        exact h.written (by rw [hthread]; trivial) (by rw [hthread]; rintro ⟨⟩) m r .flushing trivial
          (by rintro _ ⟨⟩) (shim_append hailed h.stream (h.sending m hthread))
          (List.append_ne_nil_of_left_ne_nil hailed _)
      · cases hclient
    | read r =>
      rcases clientFinds_read hfinds with ⟨m, hm, rfl⟩ | ⟨hr, rfl⟩
      · simp only [IpcWire.step] at hclient
        split at hclient
        · rename_i hthread
          have hread := (read_shim h hthread hm hstream).1
          rw [Option.some.injEq] at hclient
          rw [hclient] at hread
          exact hread
        · cases hclient
      · simp only [IpcWire.step] at hclient
        split at hclient
        · rename_i hthread
          obtain ⟨hread, hout⟩ := unread_shim h hthread hr
          rw [Option.some.injEq] at hclient
          rw [hclient] at hread hout
          change out = {} at hout
          rw [hout]
          cases r with
          | message data => exact absurd rfl (hr data)
          | timeout tooLong => exact hread
          | stopped => exact hread
          | error => exact hread
          | interrupted => exact hread
        · cases hclient
    | closePipe =>
      cases hfinds
      simp only [IpcWire.step] at hclient
      split at hclient
      · cases hclient
        refine ⟨h.stream, ⟨(by intros; contradiction), (by intros; contradiction)⟩,
          (by intros; contradiction), (by intros; contradiction), ?_, trivial, h.queue,
          (by intros; contradiction), h.calls, ?_⟩
        · rw [List.append_nil]
          exact h.called
        · rintro (hx | hx)
          · cases hx
          · cases hx
      · cases hclient
    | clear =>
      cases hfinds
      simp only [IpcWire.step] at hclient
      split at hclient
      · rename_i hthread
        have hdown : ¬ s.link.clientUp = true := by
          rw [← h.pipe, hthread]
          exact id
        cases hclient
        refine ⟨hnil, ⟨(by intros; contradiction), fun hup => absurd hup hdown⟩,
          (by intros; contradiction), (by intros; contradiction), ?_, trivial, h.queue,
          (by intros; contradiction), h.calls, fun _ => rfl⟩
        rw [List.append_nil]
        exact h.called
      · cases hclient
    | drop =>
      cases hfinds
      simp only [IpcWire.step] at hclient
      split at hclient
      · rename_i hthread
        have hdown : ¬ s.link.clientUp = true := by
          rw [← h.pipe, hthread]
          exact id
        have hidle := h.idle (.inr hthread)
        cases hclient
        refine ⟨hnil, ⟨(by intros; contradiction), fun hup => absurd hup hdown⟩,
          (by intros; contradiction), (by intros; contradiction), ?_, trivial,
          List.forall_mem_nil _, (by intros; contradiction), h.calls, fun _ => hidle⟩
        rw [List.append_nil]
        exact h.called
      · cases hclient
    | stop =>
      cases hfinds
      simp only [IpcWire.step] at hclient
      split at hclient
      · cases hclient
        exact h.queued (List.forall_mem_nil _) h.calls
      · cases hclient
    | check caller m =>
      cases hfinds
      simp only [IpcWire.step] at hclient
      split at hclient
      · rename_i hguard
        simp only [Bool.and_eq_true, decide_eq_true_eq] at hguard
        cases hclient
        refine h.queued h.queue ?_
        intro k x hx
        by_cases hk : k = caller
        · rw [hk, Function.update_self, Option.some.injEq] at hx
          rw [← hx]
          exact queueable_fromShim hguard.2
        · rw [Function.update_of_ne hk] at hx
          exact h.calls k x hx
      · cases hclient
    | push caller alloc =>
      cases hfinds
      obtain ⟨m, hm, heq⟩ := Option.map_eq_some_iff.mp hclient
      cases heq
      refine h.queued ?_ ?_
      · intro x hx
        rcases mem_enqueue hx with hold | rfl
        · exact h.queue x hold
        · exact h.calls caller x hm
      · intro k x hx
        by_cases hk : k = caller
        · rw [hk, Function.update_self] at hx
          cases hx
        · rw [Function.update_of_ne hk] at hx
          exact h.calls k x hx

end WivrnNx.PipeSession
