import WivrnNx.Pipe.Link

/-!
# The helper's side of the pipe

What the server's place in its loops says of the pipe: how far the handshake is, that what
it wrote is what is in the pipe, and that what it read is what came out of it.

- `HelperInv`: the invariant of the server, the bridge and the pipe;
- `server_helper`: every step of the server keeps it.
-/

namespace WivrnNx.PipeSession

open IpcClient Wire
open PipeServer (Sent Seen)

/-- The server is serving the client that came last. -/
def Attached : PipeServer.Point → Prop
  | .waiting | .disconnected _ | .gone _ | .stopped => False
  | _ => True

theorem attached_over {p : PipeServer.Point} (h : Attached p) : p.over = false := by
  cases p with
  | waiting | gone keep | stopped => exact absurd h id
  | _ => rfl

theorem live_attached {p : PipeServer.Point} (h : p.Live) : Attached p := by
  cases p with
  | waiting | disconnected keep | gone keep | stopped => exact absurd h id
  | _ => trivial

/-- How far the handshake is, by where the server stands. -/
def Progress (v : PipeServer.Server) (sent : List Message) : Prop :=
  match v.point with
  | .shaking | .replying => sent = [] ∧ v.cursor.config = 0
  | .collecting true => sent = [PipeServer.reply] ∧ v.cursor.config = 0
  | .flushing true =>
    2 ≤ sent.length ∨
      (sent = [PipeServer.reply] ∧ ∃ config rest, v.pending = .hmdConfig config :: rest)
  | .collecting false | .flushing false | .popping | .answering _ | .reading => 2 ≤ sent.length
  | _ => True

structure HelperInv (relay : Relay) (seen : Seen) (link : Link) : Prop where
  watched : PipeServer.Inv seen
  bridge : relay.Inv
  cursor : (relay.consumers 0).cursor = seen.server.cursor
  stream : HelperStream link.toShim.sent
  progress : Progress seen.server link.toShim.sent
  attached : Attached seen.server.point → link.serverUp = true ∧
    seen.read = link.toHelper.taken.map encode ∧ seen.wrote = link.toShim.sent
  /-- A client that the server has not accepted yet. -/
  fresh : ¬ Attached seen.server.point → link.serverUp = true →
    link.toHelper.taken = [] ∧ link.toShim.sent = []

/-- What the helper's side depends on of the pipe. -/
theorem HelperInv.same {relay : Relay} {seen : Seen} {link link' : Link}
    (h : HelperInv relay seen link) (hup : link'.serverUp = link.serverUp)
    (htaken : link'.toHelper.taken = link.toHelper.taken)
    (hsent : link'.toShim.sent = link.toShim.sent) : HelperInv relay seen link' where
  watched := h.watched
  bridge := h.bridge
  cursor := h.cursor
  stream := hsent ▸ h.stream
  progress := hsent ▸ h.progress
  attached := by
    rw [hup, htaken, hsent]
    exact h.attached
  fresh := by
    rw [hup, htaken, hsent]
    exact h.fresh

theorem streamed_ofOutgoing (o : Outgoing) : Streamed (PipeServer.ofOutgoing o).type := by
  cases o with
  | hmdConfig config => exact .inl rfl
  | deviceAdd device => exact .inr (.inr (.inl rfl))
  | deviceRemove device => exact .inr (.inr (.inr (.inl rfl)))
  | poseUpdate pose => exact .inr (.inl rfl)
  | inputUpdate input => exact .inr (.inr (.inr (.inr (.inl rfl))))

/-- The haptics that the server pushes change nothing that it collects. -/
theorem bridged_calls (r : Relay) (calls : List PipeServer.Call) (hr : r.Inv) :
    let r' := calls.foldl (fun r call =>
      match call with
      | .pushHaptic h =>
        r.step (.pushHaptic
          { device := h.device, durationS := Flt.ofBits h.durationS
            frequencyHz := Flt.ofBits h.frequencyHz, amplitude := Flt.ofBits h.amplitude })
      | _ => r) r
    r'.Inv ∧ r'.consumers = r.consumers := by
  induction calls generalizing r with
  | nil => exact ⟨hr, rfl⟩
  | cons call calls ih =>
    cases call with
    | pushHaptic h => exact ih _ (Relay.step_inv r _ hr)
    | setVrserverPid pid => exact ih r hr
    | onStagingConfig config => exact ih r hr
    | onFrameReady frame => exact ih r hr
    | onShimGone => exact ih r hr

/-- A step of the attached server that leaves the bridge alone: what it wrote is in the pipe,
what it read is out of it. -/
theorem HelperInv.moved {relay relay' : Relay} {seen : Seen} {link link' : Link}
    (h : HelperInv relay seen link) (hattached : Attached seen.server.point)
    {server : PipeServer.Server} {read : List (List UInt8)} {out : PipeServer.Output}
    (hwatched : PipeServer.Inv (seen.after server read out)) (hrelay : relay'.Inv)
    (hconsumers : relay'.consumers = relay.consumers) (hcursor : server.cursor = seen.server.cursor)
    (hthere : Attached server.point) (hup : link'.serverUp = link.serverUp)
    (hread : link'.toHelper.taken.map encode = link.toHelper.taken.map encode ++ read)
    (hsent : link'.toShim.sent = link.toShim.sent ++ out.wrote)
    (hstream : HelperStream link'.toShim.sent) (hprogress : Progress server link'.toShim.sent) :
    HelperInv relay' (seen.after server read out) link' where
  watched := hwatched
  bridge := hrelay
  cursor := by
    rw [hconsumers, h.cursor]
    exact hcursor.symm
  stream := hstream
  progress := hprogress
  attached _ := by
    obtain ⟨hserver, hseen, hwrote⟩ := h.attached hattached
    refine ⟨hup.trans hserver, ?_, ?_⟩
    · rw [hread, ← hseen]
      rfl
    · rw [hsent, ← hwrote]
      rfl
  fresh hnot _ := absurd hthere hnot

/-- A step of the server with no client. -/
theorem HelperInv.alone {relay : Relay} {seen : Seen} {link : Link}
    (h : HelperInv relay seen link) (hattached : ¬ Attached seen.server.point)
    {server : PipeServer.Server} {out : PipeServer.Output}
    (hwatched : PipeServer.Inv (seen.after server [] out))
    (hcursor : server.cursor = seen.server.cursor) (hthere : ¬ Attached server.point) :
    HelperInv relay (seen.after server [] out) link where
  watched := hwatched
  bridge := h.bridge
  cursor := h.cursor.trans hcursor.symm
  stream := h.stream
  progress := by
    simp only [Seen.after]
    unfold Progress
    cases hpoint : server.point with
    | waiting => trivial
    | disconnected keep => trivial
    | gone keep => trivial
    | stopped => trivial
    | _ => exact absurd (by rw [hpoint]; trivial) hthere
  attached hnew := absurd hnew hthere
  fresh _ := h.fresh hattached

theorem serverFinds_read {s : System} {r : PipeServer.WaitResult} {e : PipeServer.Event}
    (h : serverFinds s (.read r) = some e) :
    (∃ m, s.link.toHelper.flight.head? = some m ∧ e = .read (.message (encode m))) ∨
      ((∀ data, r ≠ .message data) ∧ e = .read r) := by
  cases r with
  | message data =>
    obtain ⟨m, hm, rfl⟩ := Option.map_eq_some_iff.mp h
    exact .inl ⟨m, hm, rfl⟩
  | timeout =>
    cases h
    exact .inr ⟨nofun, rfl⟩
  | shutdown =>
    cases h
    exact .inr ⟨nofun, rfl⟩
  | error =>
    cases h
    exact .inr ⟨nofun, rfl⟩

/-- What a step of the server is seen as. -/
theorem watch_of_step {o : Seen} {e : PipeServer.Event} {server : PipeServer.Server}
    {out : PipeServer.Output} (h : PipeServer.step o.server e = some (server, out)) :
    PipeServer.watch o e = some (o.next e server out) := by
  rw [PipeServer.watch, h]

/-- A write, by how it ends. -/
theorem HelperInv.written {relay : Relay} {seen : Seen} {link : Link}
    (h : HelperInv relay seen link) (hattached : Attached seen.server.point) (m : Message) (r : Sent)
    {next : PipeServer.Server} (hcursor : next.cursor = seen.server.cursor)
    (hthere : Attached next.point)
    (hwatched : PipeServer.Inv
      (seen.after (seen.server.wrote m r next).1 [] (seen.server.wrote m r next).2))
    (hstream : HelperStream (link.toShim.sent ++ [m]))
    (hprogress : Progress next (link.toShim.sent ++ [m])) :
    HelperInv relay (seen.after (seen.server.wrote m r next).1 [] (seen.server.wrote m r next).2)
      { link with toShim := link.toShim.push (seen.server.wrote m r next).2.wrote } := by
  have hkept : HelperStream (link.toShim.sent ++ (seen.server.wrote m r next).2.wrote) := by
    simp only [PipeServer.Server.wrote]
    split
    · exact hstream
    · rw [List.append_nil]
      exact h.stream
  refine h.moved hattached hwatched h.bridge rfl ?_ ?_ rfl (List.append_nil _).symm rfl hkept ?_
  · simp only [PipeServer.Server.wrote]
    split
    · exact hcursor
    · rfl
  · simp only [PipeServer.Server.wrote]
    split
    · exact hthere
    · trivial
  · simp only [PipeServer.Server.wrote, Channel.push_sent]
    by_cases hr : r = .sent
    · rw [hr]
      exact hprogress
    · rw [if_neg hr]
      trivial

theorem progress_flushed {v : PipeServer.Server} {first : Bool} {sent : List Message}
    (h : 2 ≤ sent.length ∨
      (first = true ∧ sent = [PipeServer.reply] ∧ ∃ config rest, v.pending = .hmdConfig config :: rest)) :
    Progress (v.flushed first) sent := by
  unfold Progress PipeServer.Server.flushed
  dsimp only
  by_cases hpending : v.pending = []
  · rw [if_pos hpending]
    rcases h with hlength | ⟨-, -, config, rest, hc⟩
    · cases first
      · exact hlength
      · exact hlength
    · rw [hpending] at hc
      cases hc
  · rw [if_neg hpending]
    rcases h with hlength | ⟨hfirst, hsent⟩
    · cases first
      · exact hlength
      · exact .inl hlength
    · rw [hfirst]
      exact .inr hsent

theorem attached_flushed (v : PipeServer.Server) (first : Bool) :
    Attached (v.flushed first).point := by
  unfold PipeServer.Server.flushed
  dsimp only
  split
  · cases first
    · trivial
    · trivial
  · trivial

/-- A read of the server, whatever came. -/
theorem HelperInv.read {relay : Relay} {seen : Seen} {link : Link}
    (h : HelperInv relay seen link) (hattached : Attached seen.server.point)
    (r : PipeServer.WaitResult) {server : PipeServer.Server} {out : PipeServer.Output}
    (hwatched : PipeServer.Inv (seen.after server (PipeServer.Event.read r).data out))
    (hcursor : server.cursor = seen.server.cursor) (hthere : Attached server.point)
    (hwrote : out.wrote = []) (hprogress : Progress server link.toShim.sent)
    (hread : ∀ data, r = .message data →
      ∃ m, link.toHelper.flight.head? = some m ∧ data = encode m) :
    HelperInv (bridged relay (.read r) out) (seen.after server (PipeServer.Event.read r).data out)
      (link.served (.read r) out) := by
  obtain ⟨hrelay, hconsumers⟩ := bridged_calls relay out.calls h.bridge
  cases r with
  | message data =>
    obtain ⟨m, hm, rfl⟩ := hread data rfl
    refine h.moved hattached hwatched hrelay hconsumers hcursor hthere rfl ?_ rfl ?_ ?_
    · change link.toHelper.pop.taken.map encode = _
      rw [Channel.pop_taken _ hm, List.map_append]
      rfl
    · change HelperStream (link.toShim.sent ++ out.wrote)
      rw [hwrote, List.append_nil]
      exact h.stream
    · change Progress server (link.toShim.sent ++ out.wrote)
      rw [hwrote, List.append_nil]
      exact hprogress
  | timeout | shutdown | error =>
    refine h.moved hattached hwatched hrelay hconsumers hcursor hthere rfl
      (List.append_nil _).symm rfl ?_ ?_
    · change HelperStream (link.toShim.sent ++ out.wrote)
      rw [hwrote, List.append_nil]
      exact h.stream
    · change Progress server (link.toShim.sent ++ out.wrote)
      rw [hwrote, List.append_nil]
      exact hprogress

theorem shaken_spec (v : PipeServer.Server) (r : PipeServer.WaitResult) :
    (v.shaken r).1.cursor = v.cursor ∧ (v.shaken r).2.wrote = [] ∧
      ((v.shaken r).1.point = .replying ∨ (v.shaken r).1.point = .leaving true) := by
  unfold PipeServer.Server.shaken
  split
  · split
    · exact ⟨rfl, rfl, .inr rfl⟩
    · exact ⟨rfl, rfl, .inl rfl⟩
  · exact ⟨rfl, rfl, .inr rfl⟩

theorem served_spec (v : PipeServer.Server) (r : PipeServer.WaitResult) :
    (v.served r).1.cursor = v.cursor ∧ (v.served r).2.wrote = [] ∧
      ((v.served r).1.point = .collecting false ∨ ∃ keep, (v.served r).1.point = .leaving keep) := by
  unfold PipeServer.Server.served
  split
  · split
    · exact ⟨rfl, rfl, .inr ⟨true, rfl⟩⟩
    · exact ⟨rfl, rfl, .inl rfl⟩
  · exact ⟨rfl, rfl, .inl rfl⟩
  · exact ⟨rfl, rfl, .inr ⟨false, rfl⟩⟩
  · exact ⟨rfl, rfl, .inr ⟨true, rfl⟩⟩

/-- `wait_for_client` gave a client. -/
theorem connect_helper {relay : Relay} {seen : Seen} {link : Link} (h : HelperInv relay seen link)
    (hpoint : seen.server.point = .waiting) (hup : link.serverUp = true)
    (hwatched : PipeServer.Inv { server := { point := .shaking }, clients := seen.clients + 1 }) :
    HelperInv (relay.step (.start 0))
      { server := { point := .shaking }, clients := seen.clients + 1 }
      { link with toShim := link.toShim.push [] } := by
  obtain ⟨htaken, hsent⟩ := h.fresh (by rw [hpoint]; exact id) hup
  rw [Channel.push_nil]
  refine ⟨hwatched, Relay.step_inv relay _ h.bridge, ?_, h.stream, ⟨hsent, rfl⟩, ?_, ?_⟩
  · change (Function.update relay.consumers 0 {} 0).cursor = _
    rw [Function.update_self]
  · intro _
    refine ⟨hup, ?_, hsent.symm⟩
    rw [htaken]
    rfl
  · intro hnot
    exact absurd trivial hnot

/-- `collect`, and what the loop over `pending_` begins with. -/
theorem collect_helper {relay : Relay} {seen : Seen} {link : Link} (h : HelperInv relay seen link)
    {first : Bool} (hpoint : seen.server.point = .collecting first) {server : PipeServer.Server}
    (hserver : server = { seen.server with
      cursor := (relay.bridge.collect seen.server.cursor).1
      pending := (relay.bridge.collect seen.server.cursor).2 }.flushed first)
    (hwatched : PipeServer.Inv (seen.after server [] {})) :
    HelperInv (relay.step (.collect 0)) (seen.after server [] {})
      { link with toShim := link.toShim.push [] } := by
  have hattached : Attached seen.server.point := by
    rw [hpoint]
    trivial
  have hthere : Attached server.point := hserver ▸ attached_flushed _ first
  obtain ⟨hup, hread, hwrote⟩ := h.attached hattached
  have hprogress := h.progress
  rw [Channel.push_nil]
  refine ⟨hwatched, Relay.step_inv relay _ h.bridge, ?_, h.stream, ?_, ?_, ?_⟩
  · change (Function.update relay.consumers 0 (relay.collected (relay.consumers 0)) 0).cursor = _
    rw [Function.update_self, hserver]
    change (relay.bridge.collect (relay.consumers 0).cursor).1 = _
    rw [h.cursor]
    rfl
  · change Progress server link.toShim.sent
    rw [hserver]
    apply progress_flushed
    unfold Progress at hprogress
    rw [hpoint] at hprogress
    cases first with
    | false => exact .inl hprogress
    | true =>
      -- A fresh cursor has not seen the config, which goes first
      refine .inr ⟨rfl, hprogress.1, relay.bridge.config, ?_⟩
      have hone := h.bridge.configGen
      have hne : seen.server.cursor.config ≠ relay.bridge.configGen := by
        rw [hprogress.2]
        omega
      simp only [Bridge.collect, Bridge.collectConfig, if_pos hne]
      exact ⟨_, rfl⟩
  · intro _
    refine ⟨hup, ?_, ?_⟩
    · simp only [Seen.after, List.append_nil]
      exact hread
    · simp only [Seen.after, List.append_nil]
      exact hwrote
  · intro hnot
    exact absurd hthere hnot

/-- One message of `pending_`. -/
theorem send_helper {relay : Relay} {seen : Seen} {link : Link} (h : HelperInv relay seen link)
    {first : Bool} {o : Outgoing} {rest : List Outgoing}
    (hpoint : seen.server.point = .flushing first) (hpending : seen.server.pending = o :: rest)
    (r : Sent) {next : PipeServer.Server}
    (hnext : next = { seen.server with
      pending := rest, counters := seen.server.counters.sent o }.flushed first)
    (hwatched : PipeServer.Inv (seen.after (seen.server.wrote (PipeServer.ofOutgoing o) r next).1 []
      (seen.server.wrote (PipeServer.ofOutgoing o) r next).2)) :
    HelperInv relay (seen.after (seen.server.wrote (PipeServer.ofOutgoing o) r next).1 []
      (seen.server.wrote (PipeServer.ofOutgoing o) r next).2)
      { link with
        toShim := link.toShim.push (seen.server.wrote (PipeServer.ofOutgoing o) r next).2.wrote } := by
  have hattached : Attached seen.server.point := by
    rw [hpoint]
    trivial
  have hprogress := h.progress
  unfold Progress at hprogress
  rw [hpoint] at hprogress
  -- The config goes behind the hello, and everything else behind the config
  have hstream : HelperStream (link.toShim.sent ++ [PipeServer.ofOutgoing o]) ∧
      2 ≤ (link.toShim.sent ++ [PipeServer.ofOutgoing o]).length := by
    have hlong : 2 ≤ link.toShim.sent.length →
        HelperStream (link.toShim.sent ++ [PipeServer.ofOutgoing o]) ∧
          2 ≤ (link.toShim.sent ++ [PipeServer.ofOutgoing o]).length := by
      intro hlength
      refine ⟨streamed_append hlength h.stream (streamed_ofOutgoing o), ?_⟩
      rw [List.length_append]
      omega
    cases first with
    | false => exact hlong hprogress
    | true =>
      rcases hprogress with hlength | ⟨hsent, config, others, hconfig⟩
      · exact hlong hlength
      · rw [hpending, List.cons.injEq] at hconfig
        rw [hsent, hconfig.1]
        exact ⟨⟨rfl, rfl, List.forall_mem_nil _⟩, le_rfl⟩
  refine h.written hattached _ r ?_ ?_ hwatched hstream.1 ?_
  · rw [hnext]
    rfl
  · exact hnext ▸ attached_flushed _ first
  · rw [hnext]
    exact progress_flushed (.inl hstream.2)

theorem server_helper {s s' : System} {e e' : PipeServer.Event}
    (h : HelperInv s.relay s.seen s.link) (hfinds : serverFinds s e = some e')
    (hstep : serverStep s e' = some s') : HelperInv s'.relay s'.seen s'.link := by
  unfold serverStep at hstep
  split at hstep
  · cases hstep
  · rename_i server out hserver
    cases hstep
    have hwatched := PipeServer.step_inv _ e' _ h.watched (watch_of_step hserver)
    have hprogress := h.progress
    unfold Progress at hprogress
    cases e with
    | connect ok =>
      cases ok with
      | true =>
        rw [serverFinds] at hfinds
        split at hfinds
        · rename_i hup
          cases hfinds
          simp only [PipeServer.step] at hserver
          split at hserver
          · rename_i hpoint
            cases hserver
            exact connect_helper h hpoint hup hwatched
          · cases hserver
        · cases hfinds
      | false =>
        cases hfinds
        simp only [PipeServer.step] at hserver
        split at hserver
        · rename_i hpoint
          cases hserver
          exact (h.alone (by rw [hpoint]; exact id) hwatched rfl id).same rfl rfl (List.append_nil _)
        · cases hserver
    | read r =>
      have hread : ∀ data, e' = .read (.message data) →
          ∃ m, s.link.toHelper.flight.head? = some m ∧ data = encode m := by
        intro data hdata
        rcases serverFinds_read hfinds with ⟨m, hm, rfl⟩ | ⟨hnone, rfl⟩
        · cases hdata
          exact ⟨m, hm, rfl⟩
        · cases hdata
          exact absurd rfl (hnone data)
      obtain ⟨r', rfl⟩ : ∃ r', e' = .read r' := by
        rcases serverFinds_read hfinds with ⟨m, -, rfl⟩ | ⟨-, rfl⟩
        · exact ⟨_, rfl⟩
        · exact ⟨_, rfl⟩
      simp only [PipeServer.step] at hserver
      split at hserver
      · rename_i hpoint
        rw [hpoint] at hprogress
        obtain ⟨hcursor, hwrote, hafter⟩ := shaken_spec s.seen.server r'.checked
        rw [Option.some.injEq] at hserver
        rw [hserver] at hcursor hwrote hafter
        refine h.read (by rw [hpoint]; trivial) r' hwatched hcursor ?_ hwrote ?_ ?_
        · rcases hafter with hp | hp <;> rw [hp] <;> trivial
        · unfold Progress
          rcases hafter with hp | hp <;> rw [hp]
          · exact ⟨hprogress.1, by rw [hcursor]; exact hprogress.2⟩
          · trivial
        · intro data hdata
          exact hread data (by rw [hdata])
      · split at hserver
        · rename_i hpoint
          rw [hpoint] at hprogress
          obtain ⟨hcursor, hwrote, hafter⟩ := served_spec s.seen.server r'.checked
          rw [Option.some.injEq] at hserver
          rw [hserver] at hcursor hwrote hafter
          refine h.read (by rw [hpoint]; trivial) r' hwatched hcursor ?_ hwrote ?_ ?_
          · rcases hafter with hp | ⟨keep, hp⟩ <;> rw [hp] <;> trivial
          · unfold Progress
            rcases hafter with hp | ⟨keep, hp⟩ <;> rw [hp]
            · exact hprogress
            · trivial
          · intro data hdata
            exact hread data (by rw [hdata])
        · cases hserver
    | reply r =>
      obtain rfl : PipeServer.Event.reply r = e' := by
        rw [serverFinds] at hfinds
        split at hfinds <;> cases hfinds
        rfl
      simp only [PipeServer.step] at hserver
      split at hserver
      · rename_i hpoint
        rw [hpoint] at hprogress
        cases hserver
        have hsent : s.link.toShim.sent ++ [PipeServer.reply] = [PipeServer.reply] := by
          rw [hprogress.1]
          rfl
        refine h.written (by rw [hpoint]; trivial) PipeServer.reply r rfl trivial hwatched ?_ ?_
        · rw [hsent]
          exact ⟨rfl, trivial⟩
        · exact ⟨hsent, hprogress.2⟩
      · cases hserver
    | collect bridge =>
      cases hfinds
      simp only [PipeServer.step] at hserver
      split at hserver
      · rename_i first hpoint
        rw [Option.some.injEq, Prod.mk.injEq] at hserver
        obtain ⟨hserver, rfl⟩ := hserver
        exact collect_helper h hpoint hserver.symm hwatched
      · cases hserver
    | send r =>
      obtain rfl : PipeServer.Event.send r = e' := by
        rw [serverFinds] at hfinds
        split at hfinds <;> cases hfinds
        rfl
      simp only [PipeServer.step] at hserver
      split at hserver
      · rename_i first o rest hpoint hpending
        cases hserver
        exact send_helper h hpoint hpending r rfl hwatched
      · cases hserver
    | pop done =>
      cases hfinds
      simp only [PipeServer.step] at hserver
      split at hserver
      · rename_i hpoint
        rw [hpoint] at hprogress
        have hattached : Attached s.seen.server.point := by
          rw [hpoint]
          trivial
        have hpopped : server.cursor = s.seen.server.cursor ∧ out = {} ∧
            Attached server.point ∧ Progress server s.link.toShim.sent := by
          cases done with
          | none =>
            cases hserver
            exact ⟨rfl, rfl, trivial, hprogress⟩
          | some done =>
            cases hserver
            exact ⟨rfl, rfl, trivial, hprogress⟩
        obtain ⟨hcursor, rfl, hthere, hafter⟩ := hpopped
        refine h.moved hattached hwatched h.bridge rfl hcursor hthere rfl
          (List.append_nil _).symm rfl ?_ ?_
        · change HelperStream (s.link.toShim.sent ++ [])
          rw [List.append_nil]
          exact h.stream
        · change Progress server (s.link.toShim.sent ++ [])
          rw [List.append_nil]
          exact hafter
      · cases hserver
    | answer r =>
      obtain rfl : PipeServer.Event.answer r = e' := by
        rw [serverFinds] at hfinds
        split at hfinds <;> cases hfinds
        rfl
      simp only [PipeServer.step] at hserver
      split at hserver
      · rename_i done hpoint
        rw [hpoint] at hprogress
        cases hserver
        have hdone : Streamed (⟨.frameDone, done⟩ : Message).type :=
          .inr (.inr (.inr (.inr (.inr rfl))))
        refine h.written (by rw [hpoint]; trivial) _ r rfl trivial hwatched
          (streamed_append hprogress h.stream hdone) ?_
        change 2 ≤ (s.link.toShim.sent ++ [_]).length
        rw [List.length_append]
        exact Nat.le_add_right_of_le hprogress
      · cases hserver
    | disconnect =>
      cases hfinds
      simp only [PipeServer.step] at hserver
      split at hserver
      · cases hserver
        refine ⟨hwatched, h.bridge, h.cursor, h.stream, trivial, fun hnew => absurd hnew id, ?_⟩
        intro _ hup
        cases hup
      · cases hserver
    | shimGone =>
      cases hfinds
      simp only [PipeServer.step] at hserver
      split at hserver
      · rename_i keep hpoint
        cases hserver
        exact (h.alone (by rw [hpoint]; exact id) hwatched rfl id).same rfl rfl (List.append_nil _)
      · cases hserver
    | recheck shutdown =>
      cases hfinds
      simp only [PipeServer.step] at hserver
      split at hserver
      · rename_i keep hpoint
        cases hserver
        refine (h.alone (by rw [hpoint]; exact id) hwatched rfl ?_).same rfl rfl (List.append_nil _)
        cases keep && !shutdown
        · exact id
        · exact id
      · cases hserver

end WivrnNx.PipeSession
