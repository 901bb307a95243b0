import WivrnNx.Pipe.HelperSide
import WivrnNx.Pipe.ShimSide

/-!
# The two ends agree

Each side's invariant is kept by the other side's steps as well, so that both hold in every
run.

- `Inv`, `step_inv`: what holds between the two ends;
- `sessions_agree`: no end ever drops the other for what it sent, and both act on exactly
  what they were sent, in order.
-/

namespace WivrnNx.PipeSession

open IpcClient Wire
open PipeServer (Sent Seen)

theorem clientFinds_open {s : System} {e : IpcWire.Event} (h : clientFinds s e = some .openPipe) :
    s.link.serverUp = false := by
  cases e with
  | openPipe =>
    rw [clientFinds] at h
    split at h
    · cases h
    · rename_i hfree
      rw [Bool.or_eq_true, not_or] at hfree
      exact Bool.eq_false_iff.mpr hfree.2
  | read r =>
    rcases clientFinds_read h with ⟨m, -, hm⟩ | ⟨-, hr⟩
    · cases hm
    · cases hr
  | shimHello pid r =>
    rw [clientFinds] at h
    split at h <;> cases h
  | loop running due timeQpc r =>
    rw [clientFinds] at h
    split at h <;> cases h
  | send r =>
    rw [clientFinds] at h
    split at h <;> cases h
  | _ => cases h

/-- A new pipe, which the server has not accepted yet. -/
theorem HelperInv.opened {relay : Relay} {seen : Seen} {link : Link}
    (h : HelperInv relay seen link) (hfree : link.serverUp = false) :
    HelperInv relay seen { clientUp := true, serverUp := true } := by
  have haway : ¬ Attached seen.server.point := by
    intro hattached
    rw [(h.attached hattached).1] at hfree
    cases hfree
  refine ⟨h.watched, h.bridge, h.cursor, trivial, ?_, fun hnew => absurd hnew haway, ?_⟩
  · unfold Progress
    cases hpoint : seen.server.point with
    | waiting => trivial
    | disconnected keep => trivial
    | gone keep => trivial
    | stopped => trivial
    | _ => exact absurd (by rw [hpoint]; trivial) haway
  · intro _ _
    exact ⟨rfl, rfl⟩

/-- The invariant. -/
structure Inv (s : System) : Prop where
  helper : HelperInv s.relay s.seen s.link
  shim : ShimInv s.client s.link s.callbacks

/-- A step of the server does not touch what the shim's side depends on. -/
theorem served_same (l : Link) (e : PipeServer.Event) (out : PipeServer.Output) :
    (l.served e out).clientUp = l.clientUp ∧ (l.served e out).toShim.taken = l.toShim.taken ∧
      (l.served e out).toHelper.sent = l.toHelper.sent := by
  unfold Link.served
  split
  · exact ⟨rfl, rfl, rfl⟩
  · exact ⟨rfl, rfl, rfl⟩
  · exact ⟨rfl, rfl, rfl⟩

/-- A step of the client that opens no pipe does not touch what the helper's side depends on. -/
theorem called_same (l : Link) {e : IpcWire.Event} (he : e ≠ .openPipe) (out : IpcWire.Output) :
    (l.called e out).serverUp = l.serverUp ∧ (l.called e out).toHelper.taken = l.toHelper.taken ∧
      (l.called e out).toShim.sent = l.toShim.sent := by
  unfold Link.called
  split
  · exact absurd rfl he
  · exact ⟨rfl, rfl, rfl⟩
  · exact ⟨rfl, rfl, rfl⟩
  · exact ⟨rfl, rfl, rfl⟩

theorem produces_consumers (r : Relay) {a : Relay.Action} (h : produces a) :
    (r.step a).consumers = r.consumers := by
  cases a with
  | start k => cases h
  | collect k => cases h
  | popHaptic =>
    rw [Relay.step]
    split <;> rfl
  | _ => rfl

theorem step_inv (s : System) (a : Action) (s' : System) (h : Inv s) (hstep : step s a = some s') :
    Inv s' := by
  cases a with
  | produce a =>
    rw [step, Option.ite_none_right_eq_some] at hstep
    obtain ⟨hproduces, hstep⟩ := hstep
    cases hstep
    have hconsumers := produces_consumers s.relay hproduces
    refine ⟨?_, h.shim⟩
    exact ⟨h.helper.watched, Relay.step_inv _ a h.helper.bridge, hconsumers ▸ h.helper.cursor,
      h.helper.stream, h.helper.progress, h.helper.attached, h.helper.fresh⟩
  | server e =>
    obtain ⟨e', hfinds, hserver⟩ := Option.bind_eq_some_iff.mp hstep
    refine ⟨server_helper h.helper hfinds hserver, ?_⟩
    unfold serverStep at hserver
    split at hserver
    · cases hserver
    · rename_i server out _
      cases hserver
      obtain ⟨hup, htaken, hsent⟩ := served_same s.link e' out
      exact h.shim.same hup htaken hsent
  | client e =>
    obtain ⟨e', hfinds, hclient⟩ := Option.bind_eq_some_iff.mp hstep
    refine ⟨?_, client_shim h.shim h.helper.stream hfinds hclient⟩
    unfold clientStep at hclient
    split at hclient
    · cases hclient
    · rename_i client out hmoved
      cases hclient
      by_cases hopen : e' = .openPipe
      · subst hopen
        exact h.helper.opened (clientFinds_open hfinds)
      · obtain ⟨hup, htaken, hsent⟩ := called_same s.link hopen out
        exact h.helper.same hup htaken hsent

/-- A server that finds a message reads it, and stays with its client. -/
theorem server_keeps {s s' : System} (h : Inv s) {data : List UInt8}
    (hstep : step s (.server (.read (.message data))) = some s') : s'.seen.server.point.Live := by
  obtain ⟨e', hfinds, hserver⟩ := Option.bind_eq_some_iff.mp hstep
  obtain ⟨m, hm, rfl⟩ := Option.map_eq_some_iff.mp hfinds
  unfold serverStep at hserver
  split at hserver
  · cases hserver
  · rename_i server out hmoved
    cases hserver
    refine PipeServer.accepted_stays h.helper.watched (watch_of_step hmoved) ?_
    have hattached : Attached s.seen.server.point := by
      simp only [PipeServer.step] at hmoved
      split at hmoved
      · rename_i hpoint
        rw [hpoint]
        trivial
      · split at hmoved
        · rename_i hpoint
          rw [hpoint]
          trivial
        · cases hmoved
    change PipeServer.Accepted (s.seen.read ++ [encode m])
    rw [(h.helper.attached hattached).2.1]
    have hprefix := h.shim.stream.of_prefix (s.link.toHelper.next_prefix hm)
    simpa only [List.map_append, List.map_cons, List.map_nil] using accepted_stream hprefix

/-- So does a client. -/
theorem client_keeps {s s' : System} (h : Inv s) {data : List UInt8}
    (hstep : step s (.client (.read (.message data))) = some s') :
    s'.client.state.ended = false := by
  obtain ⟨e', hfinds, hclient⟩ := Option.bind_eq_some_iff.mp hstep
  rcases clientFinds_read hfinds with ⟨m, hm, rfl⟩ | ⟨hnone, -⟩
  · unfold clientStep at hclient
    split at hclient
    · cases hclient
    · rename_i client out hmoved
      cases hclient
      simp only [IpcWire.step] at hmoved
      split at hmoved
      · rename_i hthread
        have hgoes := (read_shim h.shim hthread hm h.helper.stream).2
        rw [Option.some.injEq] at hmoved
        rwa [hmoved] at hgoes
      · cases hmoved
  · exact absurd rfl (hnone data)

/-- What both ends can rely on. -/
structure Agree (s : System) : Prop where
  /-- The session's callbacks are those for what it took out of the pipe so far. -/
  heard : s.callbacks = heard s.link.toShim.taken
  /-- So are the helper's calls for what its server took. -/
  asked : Attached s.seen.server.point → s.seen.calls = asked s.link.toHelper.taken
  /-- What was put into the pipe is in the order of the contract. -/
  helper : HelperStream s.link.toShim.sent
  shim : ShimStream s.link.toHelper.sent
  wrote : Attached s.seen.server.point → s.seen.wrote = s.link.toShim.sent
  /-- No message ends the session that it is read in. -/
  serverKeeps : ∀ data s', step s (.server (.read (.message data))) = some s' →
    s'.seen.server.point.Live
  clientKeeps : ∀ data s', step s (.client (.read (.message data))) = some s' →
    s'.client.state.ended = false

theorem init_inv (config : HmdConfig) : Inv (init config) := by
  refine ⟨⟨PipeServer.init_inv, Relay.init_inv config, rfl, trivial, trivial, nofun, nofun⟩, ?_⟩
  exact ⟨trivial, ⟨nofun, nofun⟩, nofun, nofun, rfl, trivial, List.forall_mem_nil _, nofun, nofun,
    fun _ => rfl⟩

theorem Inv.agree {s : System} (h : Inv s) : Agree s where
  heard := h.shim.called
  asked := by
    intro hattached
    have hfarewell : s.seen.farewell = [] := by simp [Seen.farewell, attached_over hattached]
    rw [h.helper.watched.calls, hfarewell, List.append_nil, (h.helper.attached hattached).2.1]
    exact meaning_stream (h.shim.stream.of_prefix s.link.toHelper.taken_prefix)
  helper := h.helper.stream
  shim := h.shim.stream
  wrote hattached := (h.helper.attached hattached).2.2
  serverKeeps _ _ hstep := server_keeps h hstep
  clientKeeps _ _ hstep := client_keeps h hstep

/-- In every run of the two ends, whatever fails between them, neither drops the other for
what it sent, and each acts on exactly the messages that it took, in order and from the
handshake on. -/
theorem sessions_agree (config : HmdConfig) (as : List Action) (s : System)
    (h : Runs.run step (init config) as = some s) : Agree s :=
  (Runs.run_invariant step_inv as (init config) s (init_inv config) h).agree

/-- A session whose shim says hello, is told of a controller and sends a pulse. -/
def oneSession : List Action :=
  [.produce (.setPresent 1 true), .client .openPipe, .client (.shimHello 7 .sent),
    .server (.connect true), .server (.read (.message [])), .server (.reply .sent),
    .server (.collect (.make { eyeWidth := 0, eyeHeight := 0, refreshHz := 0 })),
    .server (.send .sent), .server (.send .sent),
    .client (.loop true false 0 .sent), .client .flush, .client (.read (.message [])),
    .client (.loop true false 0 .sent), .client .flush, .client (.read (.message [])),
    .client (.loop true false 0 .sent), .client .flush, .client (.read (.message [])),
    .client (.check 0 ⟨.haptic, ⟨1, 0, 0, 0⟩⟩), .client (.push 0 true),
    .client (.loop true true 5 .sent), .client .flush, .client (.send .sent),
    .server (.collect (.make { eyeWidth := 0, eyeHeight := 0, refreshHz := 0 })),
    .server (.pop none), .server (.read (.message [])),
    .server (.collect (.make { eyeWidth := 0, eyeHeight := 0, refreshHz := 0 })),
    .server (.pop none), .server (.read (.message []))]

theorem sessions_agree_one_session :
    ∃ s, Runs.run step (init { eyeWidth := 1440, eyeHeight := 1600, refreshHz := 0 }) oneSession =
      some s ∧ Agree s ∧
        (Runs.run step (init { eyeWidth := 1440, eyeHeight := 1600, refreshHz := 0 })
          oneSession).map (fun s => (s.callbacks.length, s.seen.calls)) =
            some (3, [.setVrserverPid 7, .pushHaptic ⟨1, 0, 0, 0⟩]) := by
  obtain ⟨s, hs⟩ : ∃ s, Runs.run step (init { eyeWidth := 1440, eyeHeight := 1600, refreshHz := 0 })
      oneSession = some s := Option.isSome_iff_exists.mp (by decide +kernel)
  exact ⟨s, hs, sessions_agree _ oneSession s hs, by decide +kernel⟩

end WivrnNx.PipeSession
