import WivrnNx.Lib.Lossy
import WivrnNx.Pipe.Agree

/-!
# Haptic pulses

From the events that vrserver hands to `RunFrame` (shim/src/driver_provider.cpp) through the
pipe client's queue, the pipe, the server and the bridge to the packets that
`Session::pump_haptics` (wivrn/session.cpp) sends to the headset, with everything else going
on between the two ends.

- `step`: `RunFrame`, `pump_haptics`, and the rest of the two processes;
- `underway`: the pulses that are somewhere between them, the oldest first;
- `step_left`: what each step keeps of them;
- `haptics_in_order`: what the headset gets.
-/

open scoped Numerals

namespace WivrnNx.Haptics

open PipeSession (Link)
open Wire (Message)

/-- `VREvent_t`, as far as `run_frame_impl` reads it. -/
inductive VREvent where
  | hapticVibration (containerHandle componentHandle : UInt64)
      (durationSeconds frequency amplitude : FloatBits)
  | other

/-- The handles that `owns_haptic` compares; 0 is the invalid one of either kind. -/
structure Handles where
  haptic : UInt64 := 0
  propContainer : UInt64 := 0

/-- `ControllerDevice::owns_haptic`. -/
def Handles.ownsHaptic (c : Handles) (containerHandle componentHandle : UInt64) : Bool :=
  (c.haptic ≠ 0 && componentHandle = c.haptic) ||
    (c.propContainer ≠ 0 && containerHandle = c.propContainer)

/-- The `ipc::Haptic` that `run_frame_impl` makes of an event, if it is one of a controller
that there is. -/
def hapticOf (left right : Option Handles) : VREvent → Option Wire.Haptic
  | .other => none
  | .hapticVibration container component duration frequency amplitude =>
    if left.any (·.ownsHaptic container component) then
      some ⟨leftController.byte, duration, frequency, amplitude⟩
    else if right.any (·.ownsHaptic container component) then
      some ⟨rightController.byte, duration, frequency, amplitude⟩
    else none

/-- The two haptic outputs of `wivrn::device_id`. -/
inductive HapticId where
  | leftControllerHaptic
  | rightControllerHaptic
deriving DecidableEq, Repr

/-- `to_headset::haptics`. -/
structure HapticsPacket where
  id : HapticId
  durationNs : ℤ
  frequency : ℚ
  amplitude : ℚ
deriving DecidableEq, Repr

/-- `std::clamp`. -/
def clamp (value low high : ℚ) : ℚ :=
  if value < low then low else if high < value then high else value

/-- The `switch` of `pump_haptics`. -/
def hapticId (device : UInt8) : Option HapticId :=
  if device = leftController.byte then some .leftControllerHaptic
  else if device = rightController.byte then some .rightControllerHaptic
  else none

/-- What `pump_haptics` sends for a pulse. The product of a float and 1e9 is exact in a
`double`: their odd parts have 24 and 21 bits. -/
def packet (haptic : Ipc.Haptic) : Option HapticsPacket :=
  match hapticId haptic.device with
  | none => none
  | some id =>
    match haptic.durationS, haptic.frequencyHz, haptic.amplitude with
    | .val duration, .val frequency, .val amplitude =>
      some { id := id
             durationNs := ⌊clamp (duration * 1000000000) 0 5000000000⌋
             frequency := frequency
             amplitude := clamp amplitude 0 1 }
    | _, _, _ => none

/-- The pulse that the server hands to the bridge for an `ipc::Haptic`. -/
def pulse (haptic : Wire.Haptic) : Ipc.Haptic where
  device := haptic.device
  durationS := Flt.ofBits haptic.durationS
  frequencyHz := Flt.ofBits haptic.frequencyHz
  amplitude := Flt.ofBits haptic.amplitude

/-! ## The two processes -/

structure System where
  pipe : PipeSession.System
  /-- The pulses that `RunFrame` found so far, and what `pump_haptics` sent. -/
  raised : List Wire.Haptic := []
  packets : List HapticsPacket := []

inductive Action where
  /-- `RunFrame` takes an event, with the handles that the controllers have then. -/
  | poll (event : VREvent) (left right : Option Handles)
  /-- A turn of `pump_haptics`; `send_control` may throw. -/
  | pump (sent : Bool)
  | pipe (a : PipeSession.Action)

/-- What the others do: `RunFrame` is caller 0 of `queue_message` and the only one that
queues pulses, and nobody else empties or fills the bridge's. -/
def others : PipeSession.Action → Bool
  | .produce (.pushHaptic _) | .produce .popHaptic => false
  | .client (.check caller m) => caller ≠ 0 && m.type ≠ .haptic
  | _ => true

/-- `run_frame_impl`'s loop, up to the lock in `queue_message`. -/
def System.poll (s : System) (event : VREvent) (left right : Option Handles) : System :=
  match hapticOf left right event with
  | none => s
  | some haptic =>
    { s with
      raised := s.raised ++ [haptic]
      -- Without a session `queue_haptic` returns at once
      pipe := (PipeSession.step s.pipe (.client (.check 0 ⟨.haptic, haptic⟩))).getD s.pipe }

/-- `pump_haptics`, once round its loop. -/
def System.pump (s : System) (sent : Bool) : System :=
  match s.pipe.relay.bridge.popHaptic with
  | none => s
  | some (haptic, _) =>
    { s with
      pipe := { s.pipe with relay := s.pipe.relay.step .popHaptic }
      packets := if sent then s.packets ++ (packet haptic).toList else s.packets }

def step (s : System) : Action → Option System
  | .poll event left right =>
    if (s.pipe.client.calls 0).isSome then none else some (s.poll event left right)
  | .pump sent => some (s.pump sent)
  | .pipe a =>
    if others a then (PipeSession.step s.pipe a).map fun pipe => { s with pipe := pipe } else none

def init (config : HmdConfig) : System := { pipe := PipeSession.init config }

/-! ## The pulses between them -/

/-- The pulse in a message. -/
def pulseIn : Message → Option Ipc.Haptic
  | ⟨.haptic, haptic⟩ => some (pulse haptic)
  | _ => none

/-- What the client thread took out of its queue. -/
def sending : IpcWire.Thread → List Message
  | .sending m => [m]
  | _ => []

/-- The messages on their way to the server, and the one that `RunFrame` is queueing. -/
def outgoing (client : IpcWire.Client) (link : Link) : List Message :=
  link.toHelper.flight ++ sending client.thread ++ client.pending ++ (client.calls 0).toList

def pulses (l : List Message) : List Ipc.Haptic := l.filterMap pulseIn

def underway (s : PipeSession.System) : List Ipc.Haptic :=
  s.relay.bridge.haptics ++ pulses (outgoing s.client s.link)

/-- What may lose a pulse in the shim, from the lock in `queue_message` on. -/
def ClientLoses (client : IpcWire.Client) (link : Link) : IpcWire.Event → Prop
  | .openPipe => link.toHelper.flight ≠ []
  | .send r => r.written = false
  | .drop | .stop => client.pending ≠ []
  | .push _ alloc => alloc = false ∨ IpcClient.maxPendingMessages ≤ client.pending.length
  | _ => False

/-- And in the helper, up to `pop_haptic`. -/
def LosesIn (s : PipeSession.System) : PipeSession.Action → Prop
  | .client e => ClientLoses s.client s.link e
  | .server (.read _) => Bridge.maxHaptics ≤ s.relay.bridge.haptics.length
  | .produce .onClientGone => s.relay.bridge.haptics ≠ []
  | _ => False

/-- The steps that may lose a pulse. -/
def Loses (s : System) : Action → Prop
  | .poll event left right =>
    (hapticOf left right event).isSome ∧ s.pipe.client.state.connected = false
  | .pump sent => sent = false
  | .pipe a => LosesIn s.pipe a

/-- Nobody but `RunFrame` is queueing a pulse. -/
def Alone (client : IpcWire.Client) : Prop :=
  ∀ caller m, caller ≠ 0 → client.calls caller = some m → pulseIn m = none

/-! ## The shim's side -/

section Shim

open Lossy (Left)

@[simp] theorem pulses_append (l m : List Message) : pulses (l ++ m) = pulses l ++ pulses m :=
  List.filterMap_append

theorem pulseIn_none {m : Message} (h : m.type ≠ .haptic) : pulseIn m = none := by
  obtain ⟨t, content⟩ := m
  cases t with
  | haptic => exact absurd rfl h
  | _ => rfl

/-- What is left of each of the four places is what is left of them. -/
theorem left_outgoing {lost : Prop} {client client' : IpcWire.Client} {link link' : Link}
    (hflight : Left lost (pulses link.toHelper.flight) (pulses link'.toHelper.flight))
    (hsending : Left lost (pulses (sending client.thread)) (pulses (sending client'.thread)))
    (hpending : Left lost (pulses client.pending) (pulses client'.pending))
    (hcalls : client'.calls 0 = client.calls 0) :
    Left lost (pulses (outgoing client link)) (pulses (outgoing client' link')) := by
  simp only [outgoing, pulses_append, hcalls]
  exact ((hflight.append hsending).append hpending).append (.same rfl)

/-- A write of a message that is no pulse. -/
theorem pulses_wrote {m : Message} (hm : pulseIn m = none) (flight : List Message) (written : Bool) :
    pulses (flight ++ if written then [m] else []) = pulses flight := by
  cases written with
  | true => simp [pulses, hm]
  | false => simp

/-- What `queue_message` does to the queue, as far as pulses go. -/
theorem left_enqueue (pending : List Message) (m : Message) (alloc : Bool) :
    Left (alloc = false ∨ IpcClient.maxPendingMessages ≤ pending.length)
      (pulses (pending ++ [m])) (pulses (IpcWire.enqueue pending m alloc)) := by
  have hpush : ∀ q : List Message, (if alloc then q ++ [m] else q).Sublist (q ++ [m]) := by
    intro q
    cases alloc with
    | true => exact List.Sublist.refl _
    | false => exact List.sublist_append_left q [m]
  have hsublist : (IpcWire.enqueue pending m alloc).Sublist (pending ++ [m]) := by
    unfold IpcWire.enqueue
    dsimp only
    by_cases hfull : IpcClient.maxPendingMessages ≤ pending.length
    · rw [if_pos hfull]
      split
      · exact List.sublist_append_left pending [m]
      · exact (hpush pending.tail).trans ((List.tail_sublist pending).append_right [m])
    · rw [if_neg hfull]
      exact hpush pending
  refine ⟨hsublist.filterMap pulseIn, ?_⟩
  intro hkeeps
  rw [not_or, Bool.not_eq_false] at hkeeps
  rw [IpcWire.enqueue, if_neg hkeeps.2]
  dsimp only
  rw [if_pos hkeeps.1]

theorem alone_update {client : IpcWire.Client} (h : Alone client) {caller : ℕ}
    {call : Option Message} (hcall : caller ≠ 0 → ∀ m, call = some m → pulseIn m = none) :
    ∀ caller' m, caller' ≠ 0 → Function.update client.calls caller call caller' = some m →
      pulseIn m = none := by
  intro caller' m hne hm
  by_cases hsame : caller' = caller
  · rw [hsame, Function.update_self] at hm
    exact hcall (hsame ▸ hne) m hm
  · rw [Function.update_of_ne hsame] at hm
    exact h caller' m hne hm

theorem alone_wrote {client : IpcWire.Client} (h : Alone client) (m : Message)
    (r : PipeServer.Sent) (thread : IpcWire.Thread) : Alone (client.wrote m r thread).1 := by
  unfold IpcWire.Client.wrote
  split
  · exact h
  · exact h

/-- A write of the client thread that is no pulse. -/
theorem left_wrote {lost : Prop} {client : IpcWire.Client} {link : Link} {m : Message}
    (r : PipeServer.Sent) {thread : IpcWire.Thread} (hm : pulseIn m = none)
    (hsending : sending client.thread = []) (hthread : sending thread = []) {e : IpcWire.Event}
    (hlink : ∀ out, link.called e out = { link with toHelper := link.toHelper.push out.wrote }) :
    Left lost (pulses (outgoing client link))
      (pulses (outgoing (client.wrote m r thread).1
        (link.called e (client.wrote m r thread).2))) := by
  have hnext : sending (client.wrote m r thread).1.thread = [] ∧
      (client.wrote m r thread).1.pending = client.pending ∧
      (client.wrote m r thread).1.calls = client.calls := by
    unfold IpcWire.Client.wrote
    split
    · exact ⟨hthread, rfl, rfl⟩
    · exact ⟨rfl, rfl, rfl⟩
  refine left_outgoing (.same ?_) (.same ?_) (.same ?_) ?_
  · rw [hlink]
    exact pulses_wrote hm link.toHelper.flight r.written
  · rw [hnext.1, hsending]
  · rw [hnext.2.1]
  · rw [hnext.2.2]

theorem client_left {client client' : IpcWire.Client} {link : Link} {e : IpcWire.Event}
    {out : IpcWire.Output} (halone : Alone client)
    (hothers : ∀ caller m, e = .check caller m → caller ≠ 0 ∧ pulseIn m = none)
    (hstep : IpcWire.step client e = some (client', out)) :
    Alone client' ∧ Left (ClientLoses client link e)
      (pulses (outgoing client link)) (pulses (outgoing client' (link.called e out))) := by
  cases e with
  | openPipe =>
    simp only [IpcWire.step] at hstep
    split at hstep
    · rename_i hthread
      cases hstep
      refine ⟨halone, left_outgoing ?_ (.same ?_) (.same rfl) rfl⟩
      · by_cases hflight : link.toHelper.flight = []
        · refine .same ?_
          rw [hflight]
          rfl
        · exact .dropped hflight (List.nil_sublist _)
      · rw [hthread]
        rfl
    · cases hstep
  | shimHello pid r =>
    simp only [IpcWire.step] at hstep
    split at hstep
    · rename_i hthread
      cases hstep
      exact ⟨alone_wrote halone (IpcWire.hello pid) r .looping,
        left_wrote r rfl (by rw [hthread]; rfl) rfl fun _ => rfl⟩
    · cases hstep
  | loop running due timeQpc r =>
    simp only [IpcWire.step] at hstep
    split at hstep
    · rename_i hthread
      have hsending : sending client.thread = [] := by rw [hthread]; rfl
      rw [Option.some.injEq, IpcWire.Client.loop] at hstep
      split at hstep
      · cases hstep
        exact ⟨halone, left_outgoing (.same (by simp [Link.called])) (.same (by rw [hsending]; rfl))
          (.same rfl) rfl⟩
      · split at hstep
        · cases hstep
          exact ⟨alone_wrote halone (IpcWire.keepAlive timeQpc) r .flushing,
            left_wrote r rfl hsending rfl fun _ => rfl⟩
        · cases hstep
          exact ⟨halone, left_outgoing (.same (by simp [Link.called]))
            (.same (by rw [hsending]; rfl)) (.same rfl) rfl⟩
    · cases hstep
  | flush =>
    simp only [IpcWire.step] at hstep
    split at hstep
    · rename_i hthread
      split at hstep
      · cases hstep
        exact ⟨halone, left_outgoing (.same (by simp [Link.called])) (.same (by rw [hthread]; rfl))
          (.same rfl) rfl⟩
      · rename_i m rest hpending
        cases hstep
        refine ⟨halone, .same ?_⟩
        -- From the front of the queue to the thread's hands
        simp [outgoing, hthread, hpending, sending, Link.called]
    · cases hstep
  | send r =>
    simp only [IpcWire.step] at hstep
    split at hstep
    · rename_i m hthread
      cases hstep
      refine ⟨alone_wrote halone m r .flushing, ?_⟩
      have hnext : sending (client.wrote m r .flushing).1.thread = [] ∧
          (client.wrote m r .flushing).1.pending = client.pending ∧
          (client.wrote m r .flushing).1.calls = client.calls := by
        unfold IpcWire.Client.wrote
        split
        · exact ⟨rfl, rfl, rfl⟩
        · exact ⟨rfl, rfl, rfl⟩
      -- From the thread's hands into the pipe, or nowhere
      have hbefore : outgoing client link =
          link.toHelper.flight ++ [m] ++ client.pending ++ (client.calls 0).toList := by
        rw [outgoing, hthread]
        rfl
      have hafter : outgoing (client.wrote m r .flushing).1
          (link.called (.send r) (client.wrote m r .flushing).2) =
            link.toHelper.flight ++ (if r.written then [m] else []) ++ client.pending ++
              (client.calls 0).toList := by
        rw [outgoing, hnext.1, hnext.2.1, hnext.2.2, List.append_nil]
        rfl
      change Left _ _ (pulses (outgoing (client.wrote m r .flushing).1
        (link.called (.send r) (client.wrote m r .flushing).2)))
      rw [hbefore, hafter]
      cases hwritten : r.written with
      | true => exact .same rfl
      | false =>
        refine .dropped hwritten (List.Sublist.filterMap pulseIn ?_)
        rw [if_neg Bool.false_ne_true, List.append_nil]
        exact ((List.sublist_append_left link.toHelper.flight [m]).append_right
          client.pending).append_right (client.calls 0).toList
    · cases hstep
  | read r =>
    simp only [IpcWire.step] at hstep
    split at hstep
    · rename_i hthread
      cases hstep
      refine ⟨halone, left_outgoing (.same ?_) (.same ?_) (.same rfl) rfl⟩
      · cases r with
        | message data => rfl
        | _ => simp [Link.called]
      · rw [hthread]
        dsimp only
        split
        · rfl
        · rfl
    · cases hstep
  | closePipe | clear =>
    simp only [IpcWire.step] at hstep
    split at hstep
    · rename_i hthread
      cases hstep
      exact ⟨halone, left_outgoing (.same (by simp [Link.called]))
        (.same (by simp [hthread, sending])) (.same rfl) rfl⟩
    · cases hstep
  | drop | stop =>
    simp only [IpcWire.step] at hstep
    split at hstep
    · rename_i hthread
      cases hstep
      refine ⟨halone, left_outgoing (.same (by simp [Link.called]))
        (.same (by simp [hthread, sending])) ?_ rfl⟩
      by_cases hpending : client.pending = []
      · exact .same (by rw [hpending])
      · exact .dropped hpending (List.nil_sublist _)
    · cases hstep
  | check caller m =>
    obtain ⟨hcaller, hm⟩ := hothers caller m rfl
    simp only [IpcWire.step] at hstep
    split at hstep
    · cases hstep
      refine ⟨?_, left_outgoing (.same (by simp [Link.called])) (.same rfl) (.same rfl) ?_⟩
      · refine alone_update halone fun _ m' hm' => ?_
        cases hm'
        exact hm
      · exact Function.update_of_ne (Ne.symm hcaller) _ _
    · cases hstep
  | push caller alloc =>
    simp only [IpcWire.step] at hstep
    obtain ⟨m, hm, hnext⟩ := Option.map_eq_some_iff.mp hstep
    cases hnext
    refine ⟨?_, ?_⟩
    · refine alone_update halone fun _ m' hm' => ?_
      cases hm'
    · have hqueued := left_enqueue client.pending m alloc
      by_cases hcaller : caller = 0
      · -- `RunFrame`'s own pulse goes to the end of the queue
        subst hcaller
        have hkept : Left (ClientLoses client link (.push 0 alloc))
            (pulses (link.toHelper.flight ++ sending client.thread))
            (pulses (link.toHelper.flight ++ sending client.thread)) := .same rfl
        simpa [outgoing, hm, Link.called] using hkept.append hqueued
      · rw [pulses_append] at hqueued
        have hno : pulses [m] = [] := by simp [pulses, halone caller m hcaller hm]
        rw [hno, List.append_nil] at hqueued
        exact left_outgoing (.same (by simp [Link.called])) (.same rfl) hqueued
          (Function.update_of_ne (Ne.symm hcaller) _ _)

end Shim

/-! ## The helper's side -/

section Helper

open Lossy (Left)
open PipeSession (asked)
open PipeServer (Call)

/-- The pulse that a call of the server hands to the bridge. -/
def pushedBy : Call → Option Ipc.Haptic
  | .pushHaptic haptic => some (pulse haptic)
  | _ => none

theorem pushedBy_callFor (m : Message) : (PipeServer.callFor m).bind pushedBy = pulseIn m := by
  obtain ⟨t, content⟩ := m
  cases t <;> rfl

/-- A message of a shim's stream asks for one thing more at most, for its pulse if it is one. -/
theorem asked_append {taken : List Message} {m : Message}
    (h : PipeSession.ShimStream (taken ++ [m])) :
    ∃ call : Option Call, asked (taken ++ [m]) = asked taken ++ call.toList ∧
      call.bind pushedBy = pulseIn m := by
  cases taken with
  | nil =>
    obtain ⟨⟨pid, rfl⟩, -⟩ := h
    exact ⟨some (.setVrserverPid pid), rfl, rfl⟩
  | cons hello rest =>
    obtain ⟨⟨pid, rfl⟩, -⟩ := h
    refine ⟨PipeServer.callFor m, ?_, pushedBy_callFor m⟩
    cases hcall : PipeServer.callFor m with
    | none => simp [IpcWire.hello, asked, hcall]
    | some call => simp [IpcWire.hello, asked, hcall]

/-- The same for what is called when the message is read. -/
theorem read_calls {s : PipeSession.System} (h : PipeSession.Inv s) {m : Message}
    (hm : s.link.toHelper.flight.head? = some m) {server : PipeServer.Server}
    {out : PipeServer.Output}
    (hserver : PipeServer.step s.seen.server (.read (.message (Wire.encode m))) = some (server, out)) :
    ∃ call : Option Call, out.calls = call.toList ∧ call.bind pushedBy = pulseIn m := by
  let e : PipeServer.Event := .read (.message (Wire.encode m))
  let s' : PipeSession.System :=
    { s with
      relay := PipeSession.bridged s.relay e out
      seen := s.seen.next e server out
      link := s.link.served e out }
  have hmoved : PipeSession.step s (.server (.read (.message []))) = some s' := by
    simp only [PipeSession.step, PipeSession.serverFinds, hm, Option.map_some, Option.bind_some,
      PipeSession.serverStep, hserver]
    rfl
  have hinv' := PipeSession.step_inv s _ s' h hmoved
  have hthere := PipeSession.live_attached (PipeSession.server_keeps h hmoved)
  have hattached : PipeSession.Attached s.seen.server.point := by
    simp only [PipeServer.step] at hserver
    split at hserver
    · rename_i hpoint
      rw [hpoint]
      trivial
    · split at hserver
      · rename_i hpoint
        rw [hpoint]
        trivial
      · cases hserver
  have hbefore := h.agree.asked hattached
  have hafter : s.seen.calls ++ out.calls = asked s.link.toHelper.pop.taken :=
    hinv'.agree.asked hthere
  obtain ⟨call, hcall, hpulse⟩ :=
    asked_append (h.shim.stream.of_prefix (s.link.toHelper.next_prefix hm))
  refine ⟨call, List.append_cancel_left (?_ : asked s.link.toHelper.taken ++ _ = _ ++ _), hpulse⟩
  rw [← hcall, ← hbefore, hafter, s.link.toHelper.pop_taken hm]

/-- Nothing else that the server does hands a pulse to the bridge. -/
theorem quiet_calls {v v' : PipeServer.Server} {e : PipeServer.Event} {out : PipeServer.Output}
    (hread : ∀ data, e ≠ .read (.message data)) (h : PipeServer.step v e = some (v', out)) :
    out.calls.filterMap pushedBy = [] := by
  cases e with
  | connect ok =>
    simp only [PipeServer.step] at h
    split at h
    · split at h <;> cases h <;> rfl
    · cases h
  | read r =>
    rcases PipeServer.checked_cases r with ⟨data, rfl, -⟩ | ⟨data, rfl, -⟩ | ⟨-, hr⟩
    · exact absurd rfl (hread data)
    · exact absurd rfl (hread data)
    · simp only [PipeServer.step] at h
      split at h
      · rcases hr with hr | hr | hr <;> rw [hr] at h <;> cases h <;> rfl
      · split at h
        · rcases hr with hr | hr | hr <;> rw [hr] at h <;> cases h <;> rfl
        · cases h
  | reply r | recheck shutdown | pop done =>
    simp only [PipeServer.step] at h
    split at h
    · first
        | (cases h; rfl)
        | (split at h <;> cases h <;> rfl)
    · cases h
  | collect bridge | answer r | disconnect | shimGone =>
    simp only [PipeServer.step] at h
    split at h
    · cases h
      rfl
    · cases h
  | send r =>
    simp only [PipeServer.step] at h
    split at h
    · cases h
      rfl
    · cases h

/-- `push_haptic`, as far as the queue goes. -/
def pushed (haptics : List Ipc.Haptic) (haptic : Ipc.Haptic) : List Ipc.Haptic :=
  (if Bridge.maxHaptics ≤ haptics.length then haptics.tail else haptics) ++ [haptic]

/-- What the calls of a step do to the bridge's queue. -/
theorem bridged_haptics (r : Relay) (e : PipeServer.Event) (out : PipeServer.Output) :
    (PipeSession.bridged r e out).bridge.haptics =
      (out.calls.filterMap pushedBy).foldl pushed r.bridge.haptics := by
  have hcalls : ∀ (calls : List Call) (r : Relay),
      (calls.foldl (fun r call =>
        match call with
        | .pushHaptic h => r.step (.pushHaptic (pulse h))
        | _ => r) r).bridge.haptics = (calls.filterMap pushedBy).foldl pushed r.bridge.haptics := by
    intro calls
    induction calls with
    | nil => exact fun _ => rfl
    | cons call calls ih =>
      intro r
      cases call with
      | pushHaptic h => exact ih (r.step (.pushHaptic (pulse h)))
      | _ => exact ih r
  have hstart : ∀ r' : Relay, r'.bridge = r.bridge →
      (out.calls.filterMap pushedBy).foldl pushed r'.bridge.haptics =
        (out.calls.filterMap pushedBy).foldl pushed r.bridge.haptics := by
    intro r' hr'
    rw [hr']
  refine (hcalls out.calls _).trans (hstart _ ?_)
  split <;> rfl

theorem left_pushed (haptics : List Ipc.Haptic) (haptic : Ipc.Haptic) :
    Left (Bridge.maxHaptics ≤ haptics.length) (haptics ++ [haptic]) (pushed haptics haptic) := by
  unfold pushed
  split
  · rename_i hfull
    exact .dropped hfull ((List.tail_sublist haptics).append_right [haptic])
  · exact .same rfl

/-- A read finds the oldest message; no other step of the server takes one. -/
theorem serverFinds_cases {s : PipeSession.System} {e e' : PipeServer.Event}
    (h : PipeSession.serverFinds s e = some e') :
    (∃ r m, e = .read r ∧ s.link.toHelper.flight.head? = some m ∧
      e' = .read (.message (Wire.encode m))) ∨ ∀ data, e' ≠ .read (.message data) := by
  cases e with
  | read r =>
    rcases PipeSession.serverFinds_read h with ⟨m, hm, he⟩ | ⟨hr, rfl⟩
    · exact .inl ⟨r, m, rfl, hm, he⟩
    · refine .inr fun data hdata => ?_
      cases hdata
      exact hr data rfl
  | connect ok =>
    refine .inr fun data hdata => ?_
    cases ok with
    | true =>
      rw [PipeSession.serverFinds, hdata] at h
      split at h <;> cases h
    | false =>
      rw [hdata] at h
      cases h
  | reply r | send r | answer r =>
    refine .inr fun data hdata => ?_
    rw [PipeSession.serverFinds, hdata] at h
    split at h <;> cases h
  | _ =>
    refine .inr fun data hdata => ?_
    rw [hdata] at h
    cases h

theorem served_toHelper (l : Link) {e : PipeServer.Event} (out : PipeServer.Output)
    (h : ∀ data, e ≠ .read (.message data)) : (l.served e out).toHelper = l.toHelper := by
  cases e with
  | read r =>
    cases r with
    | message data => exact absurd rfl (h data)
    | _ => rfl
  | _ => rfl

theorem server_left {s s' : PipeSession.System} {e e' : PipeServer.Event} (h : PipeSession.Inv s)
    (hfinds : PipeSession.serverFinds s e = some e')
    (hstep : PipeSession.serverStep s e' = some s') :
    s'.client = s.client ∧ Left (LosesIn s (.server e)) (underway s) (underway s') := by
  unfold PipeSession.serverStep at hstep
  split at hstep
  · cases hstep
  · rename_i server out hserver
    cases hstep
    refine ⟨rfl, ?_⟩
    change Left _ _ ((PipeSession.bridged s.relay e' out).bridge.haptics ++
      pulses (outgoing s.client (s.link.served e' out)))
    rw [bridged_haptics, underway]
    rcases serverFinds_cases hfinds with ⟨r, m, rfl, hm, rfl⟩ | hread
    · -- The oldest message goes from the pipe to the bridge, if it is a pulse
      obtain ⟨call, hcall, hpulse⟩ := read_calls h hm hserver
      obtain ⟨rest, hrest⟩ := List.head?_eq_some_iff.mp hm
      have hpushed : out.calls.filterMap pushedBy = (pulseIn m).toList := by
        rw [hcall, ← hpulse]
        cases call with
        | none => rfl
        | some call => cases hcall : pushedBy call <;> simp [hcall]
      have hflight : (s.link.served (.read (.message (Wire.encode m))) out).toHelper.flight =
          rest := by
        change s.link.toHelper.flight.drop 1 = rest
        rw [hrest]
        rfl
      have hbridge : Left (LosesIn s (.server (.read r)))
          (s.relay.bridge.haptics ++ pulses [m])
          ((pulseIn m).toList.foldl pushed s.relay.bridge.haptics) := by
        cases hpulse : pulseIn m with
        | none => exact .same (by simp [pulses, hpulse])
        | some haptic =>
          have hone : pulses [m] = [haptic] := by simp [pulses, hpulse]
          rw [hone]
          exact left_pushed s.relay.bridge.haptics haptic
      -- What comes behind it is as it was
      let behind : List Message :=
        rest ++ sending s.client.thread ++ s.client.pending ++ (s.client.calls 0).toList
      have hbehind : Left (LosesIn s (.server (.read r))) (pulses behind) (pulses behind) :=
        .same rfl
      have hsplit : s.relay.bridge.haptics ++ pulses (outgoing s.client s.link) =
          s.relay.bridge.haptics ++ pulses [m] ++ pulses behind := by
        rw [List.append_assoc, ← pulses_append, outgoing, hrest]
        rfl
      rw [hpushed, hsplit, outgoing, hflight]
      exact hbridge.append hbehind
    · rw [quiet_calls hread hserver]
      refine .same ?_
      simp only [outgoing, served_toHelper s.link out hread, List.foldl_nil]

/-- The other producers of the bridge. -/
theorem produced_left (s : PipeSession.System) {a : Relay.Action}
    (hothers : others (.produce a) = true) (hproduces : PipeSession.produces a = true) :
    Left (LosesIn s (.produce a)) s.relay.bridge.haptics (s.relay.step a).bridge.haptics := by
  cases a with
  | pushHaptic haptic => cases hothers
  | popHaptic => cases hothers
  | start k => cases hproduces
  | collect k => cases hproduces
  | onClientGone =>
    by_cases hempty : s.relay.bridge.haptics = []
    · exact .same (by rw [hempty]; rfl)
    · exact .dropped hempty (List.nil_sublist _)
  | setConfig config =>
    refine .same ?_
    change (s.relay.bridge.setConfig config).haptics = _
    unfold Bridge.setConfig
    split <;> rfl
  | setPose pose =>
    refine .same ?_
    change (s.relay.bridge.setPose pose).haptics = _
    unfold Bridge.setPose
    split <;> rfl
  | setInput input =>
    refine .same ?_
    change (s.relay.bridge.setInput input).haptics = _
    unfold Bridge.setInput
    split <;> rfl
  | setPresent device present =>
    refine .same ?_
    change (s.relay.bridge.setPresent device present).haptics = _
    unfold Bridge.setPresent
    split
    · rfl
    · split <;> rfl

end Helper

/-! ## From end to end -/

section Ends

open Lossy (Left)

/-- What holds between the steps. -/
structure Inv (s : System) : Prop where
  pipe : PipeSession.Inv s.pipe
  alone : Alone s.pipe.client

/-- A step of the client thread meets what it is, a read the next message. -/
theorem clientFinds_cases {s : PipeSession.System} {e e' : IpcWire.Event}
    (h : PipeSession.clientFinds s e = some e') :
    e' = e ∨ ∃ r r', e = .read r ∧ e' = .read r' := by
  cases e with
  | read r =>
    rcases PipeSession.clientFinds_read h with ⟨m, -, he⟩ | ⟨-, he⟩
    · exact .inr ⟨r, _, rfl, he⟩
    · exact .inl he
  | openPipe =>
    rw [PipeSession.clientFinds] at h
    split at h <;> cases h
    exact .inl rfl
  | shimHello pid r =>
    rw [PipeSession.clientFinds] at h
    split at h <;> cases h
    exact .inl rfl
  | loop running due timeQpc r =>
    rw [PipeSession.clientFinds] at h
    split at h <;> cases h
    exact .inl rfl
  | send r =>
    rw [PipeSession.clientFinds] at h
    split at h <;> cases h
    exact .inl rfl
  | _ =>
    cases h
    exact .inl rfl

/-- Any step of the two ends loses no pulse but where it is said to, adds none and lets none
overtake another. -/
theorem pipe_left {s s' : PipeSession.System} {a : PipeSession.Action} (h : PipeSession.Inv s)
    (halone : Alone s.client) (hothers : others a = true)
    (hstep : PipeSession.step s a = some s') :
    Alone s'.client ∧ Left (LosesIn s a) (underway s) (underway s') := by
  cases a with
  | produce a =>
    rw [PipeSession.step, Option.ite_none_right_eq_some] at hstep
    obtain ⟨hproduces, hstep⟩ := hstep
    cases hstep
    exact ⟨halone, (produced_left s hothers hproduces).append (.same rfl)⟩
  | server e =>
    obtain ⟨e', hfinds, hserver⟩ := Option.bind_eq_some_iff.mp hstep
    obtain ⟨hclient, hleft⟩ := server_left h hfinds hserver
    exact ⟨hclient ▸ halone, hleft⟩
  | client e =>
    obtain ⟨e', hfinds, hclient⟩ := Option.bind_eq_some_iff.mp hstep
    unfold PipeSession.clientStep at hclient
    split at hclient
    · cases hclient
    · rename_i client out hmoved
      cases hclient
      rcases clientFinds_cases hfinds with rfl | ⟨r, r', rfl, rfl⟩
      · have hchecks : ∀ caller m, e' = .check caller m → caller ≠ 0 ∧ pulseIn m = none := by
          rintro caller m rfl
          simp only [others, Bool.and_eq_true, decide_eq_true_eq] at hothers
          exact ⟨hothers.1, pulseIn_none hothers.2⟩
        obtain ⟨hkept, hleft⟩ := client_left halone hchecks hmoved
        exact ⟨hkept, (Left.same rfl).append hleft⟩
      · obtain ⟨hkept, hleft⟩ := client_left (e := .read r') halone (by rintro _ _ ⟨⟩) hmoved
        exact ⟨hkept, (Left.same rfl).append hleft⟩

/-- The packets for what vrserver raised. -/
def offered (s : System) : List HapticsPacket := (s.raised.map pulse).filterMap packet

/-- Those that were sent, and those that still may be. -/
def held (s : System) : List HapticsPacket := s.packets ++ (underway s.pipe).filterMap packet

/-- `queue_message` takes a pulse of `RunFrame` up to the lock while a session is connected. -/
theorem check_pulse (s : PipeSession.System) (haptic : Wire.Haptic)
    (hfree : s.client.calls 0 = none) :
    PipeSession.step s (.client (.check 0 ⟨.haptic, haptic⟩)) =
      if s.client.state.connected then
        some { s with client := { s.client with
          calls := Function.update s.client.calls 0 (some ⟨.haptic, haptic⟩) } }
      else none := by
  have hqueueable : IpcWire.Queueable .haptic := .inl rfl
  simp only [PipeSession.step, PipeSession.clientFinds, Option.bind_some, PipeSession.clientStep,
    IpcWire.step, hfree, Option.isNone_none, Bool.and_true, hqueueable, decide_true]
  cases s.client.state.connected with
  | false => rfl
  | true => simp [Link.called]

theorem poll_left {s : System} (h : Inv s) (event : VREvent) (left right : Option Handles)
    (hfree : s.pipe.client.calls 0 = none) :
    Inv (s.poll event left right) ∧ ∃ more,
      offered (s.poll event left right) = offered s ++ more ∧
        Left (Loses s (.poll event left right)) (held s ++ more) (held (s.poll event left right)) := by
  unfold System.poll
  split
  · exact ⟨h, [], (List.append_nil _).symm, .same (List.append_nil _).symm⟩
  · rename_i haptic hhaptic
    have hstep := check_pulse s.pipe haptic hfree
    have hoffered : ∀ pipe, offered { s with raised := s.raised ++ [haptic], pipe := pipe } =
        offered s ++ [pulse haptic].filterMap packet := by
      intro pipe
      rw [offered, List.map_append, List.filterMap_append]
      rfl
    cases hconnected : s.pipe.client.state.connected with
    | true =>
      rw [hconnected, if_pos rfl] at hstep
      rw [hstep]
      refine ⟨⟨PipeSession.step_inv s.pipe _ _ h.pipe hstep, ?_⟩, _, hoffered _, .same ?_⟩
      · exact alone_update h.alone fun hne => absurd rfl hne
      · -- It stands behind everything that is underway
        simp [held, underway, outgoing, hfree, pulses, pulseIn]
    | false =>
      rw [hconnected, if_neg Bool.false_ne_true] at hstep
      rw [hstep]
      refine ⟨⟨h.pipe, h.alone⟩, _, hoffered _,
        .dropped ⟨?_, hconnected⟩ (List.sublist_append_left _ _)⟩
      rw [hhaptic]
      rfl

theorem pump_left {s : System} (h : Inv s) (sent : Bool) :
    Inv (s.pump sent) ∧ offered (s.pump sent) = offered s ∧
      Left (Loses s (.pump sent)) (held s) (held (s.pump sent)) := by
  unfold System.pump
  split
  · exact ⟨h, rfl, .same rfl⟩
  · rename_i haptic bridge hpop
    have hinv : PipeSession.Inv { s.pipe with relay := s.pipe.relay.step .popHaptic } :=
      PipeSession.step_inv s.pipe (.produce .popHaptic) _ h.pipe rfl
    refine ⟨⟨hinv, h.alone⟩, rfl, ?_⟩
    have hqueue : s.pipe.relay.bridge.haptics =
        haptic :: (s.pipe.relay.step .popHaptic).bridge.haptics := by
      simp only [Relay.step, hpop]
      unfold Bridge.popHaptic at hpop
      split at hpop
      · cases hpop
      · rename_i hhaptics
        cases hpop
        exact hhaptics
    have hheld : held s = s.packets ++ ((packet haptic).toList ++
        (underway { s.pipe with relay := s.pipe.relay.step .popHaptic }).filterMap packet) := by
      rw [held, underway, hqueue]
      cases hpacket : packet haptic <;> simp [underway, hpacket]
    rw [hheld]
    cases sent with
    | true => exact .same (List.append_assoc _ _ _)
    | false =>
      exact .dropped rfl ((List.Sublist.refl s.packets).append (List.sublist_append_right _ _))

theorem steps_left : Lossy.Steps step Inv offered held (fun s a _ => Loses s a) := by
  intro s a s' h hstep
  cases a with
  | poll event left right =>
    rw [step] at hstep
    split at hstep
    · cases hstep
    · rename_i hfree
      cases hstep
      exact poll_left h event left right (Option.not_isSome_iff_eq_none.mp hfree)
  | pump sent =>
    cases hstep
    obtain ⟨hinv, hoffered, hleft⟩ := pump_left h sent
    refine ⟨hinv, [], ?_, ?_⟩
    · rw [hoffered, List.append_nil]
    · rw [List.append_nil]
      exact hleft
  | pipe a =>
    rw [step] at hstep
    split at hstep
    · rename_i hothers
      obtain ⟨pipe, hmoved, hnext⟩ := Option.map_eq_some_iff.mp hstep
      cases hnext
      obtain ⟨halone, hleft⟩ := pipe_left h.pipe h.alone hothers hmoved
      refine ⟨⟨PipeSession.step_inv s.pipe a pipe h.pipe hmoved, halone⟩, [],
        (List.append_nil _).symm, ?_⟩
      rw [List.append_nil]
      exact (Left.same rfl).append (hleft.filterMap packet)
    · cases hstep

/-- What the headset may be told. -/
def HapticsPacket.InRange (p : HapticsPacket) : Prop :=
  0 ≤ p.durationNs ∧ p.durationNs ≤ 5000000000 ∧ 0 ≤ p.amplitude ∧ p.amplitude ≤ 1

theorem clamp_mem (value : ℚ) {low high : ℚ} (h : low ≤ high) :
    low ≤ clamp value low high ∧ clamp value low high ≤ high := by
  unfold clamp
  split
  · exact ⟨le_refl low, h⟩
  · rename_i hlow
    split
    · exact ⟨h, le_refl high⟩
    · rename_i hhigh
      exact ⟨not_lt.mp hlow, not_lt.mp hhigh⟩

theorem packet_range {haptic : Ipc.Haptic} {p : HapticsPacket} (h : packet haptic = some p) :
    p.InRange := by
  unfold packet at h
  split at h
  · cases h
  · split at h
    · rename_i duration frequency amplitude _ _ _
      cases h
      obtain ⟨hzero, hmost⟩ := clamp_mem (duration * 1000000000) (by norm_num : (0 : ℚ) ≤ 5000000000)
      obtain ⟨hnone, hfull⟩ := clamp_mem amplitude (by norm_num : (0 : ℚ) ≤ 1)
      refine ⟨Int.floor_nonneg.mpr hzero, ?_, hnone, hfull⟩
      exact Int.floor_le_iff.mpr (lt_of_le_of_lt hmost (by norm_num))
    · cases h

theorem init_inv (config : HmdConfig) : Inv (init config) :=
  ⟨PipeSession.init_inv config, by rintro _ _ _ ⟨⟩⟩

/-- In every run of the two processes the headset is sent packets for the pulses that
vrserver raised, each at most once and in their order, and within what it is meant to be
sent; and if no step lost a pulse, those that are not sent yet are all still underway. -/
theorem haptics_in_order (config : HmdConfig) (as : List Action) (s : System)
    (h : Runs.run step (init config) as = some s) :
    s.packets.Sublist (offered s) ∧ (∀ p ∈ s.packets, p.InRange) ∧
      (Runs.Along step (fun s a _ => ¬ Loses s a) (init config) as →
        s.packets ++ (underway s.pipe).filterMap packet = offered s) := by
  have hsublist := Lossy.run_sublist steps_left (init_inv config) rfl h
  have hpackets : s.packets.Sublist (offered s) :=
    (List.sublist_append_left s.packets _).trans hsublist
  refine ⟨hpackets, ?_, fun hlost => Lossy.run_all steps_left (init_inv config) rfl hlost h⟩
  intro p hp
  obtain ⟨haptic, -, hhaptic⟩ := List.mem_filterMap.mp (hpackets.subset hp)
  exact packet_range hhaptic

/-- A session in which the left controller buzzes, twice as hard as it can. -/
def oneBuzz : List Action :=
  [.pipe (.client .openPipe), .pipe (.client (.shimHello 7 .sent)), .pipe (.server (.connect true)),
    .pipe (.server (.read (.message []))), .pipe (.server (.reply .sent)),
    .pipe (.server (.collect (.make { eyeWidth := 0, eyeHeight := 0, refreshHz := 0 }))),
    .pipe (.server (.send .sent)), .pipe (.client (.loop true false 0 .sent)),
    .pipe (.client .flush), .pipe (.client (.read (.message []))),
    .pipe (.client (.loop true false 0 .sent)), .pipe (.client .flush),
    .pipe (.client (.read (.message []))),
    .poll (.hapticVibration 5 9 0x3F000000 0x43200000 0x40000000) (some ⟨9, 5⟩) none,
    .pipe (.client (.push 0 true)), .pipe (.client (.loop true false 0 .sent)),
    .pipe (.client .flush), .pipe (.client (.send .sent)),
    .pipe (.server (.collect (.make { eyeWidth := 0, eyeHeight := 0, refreshHz := 0 }))),
    .pipe (.server (.pop none)), .pipe (.server (.read (.message []))), .pump true]

theorem haptics_in_order_one_buzz :
    ∃ s, Runs.run step (init { eyeWidth := 1440, eyeHeight := 1600, refreshHz := 0 }) oneBuzz =
      some s ∧ s.packets.Sublist (offered s) ∧
        (Runs.run step (init { eyeWidth := 1440, eyeHeight := 1600, refreshHz := 0 })
          oneBuzz).map System.packets =
            some [⟨.leftControllerHaptic, 500000000, 160, 1⟩] := by
  obtain ⟨s, hs⟩ : ∃ s, Runs.run step
      (init { eyeWidth := 1440, eyeHeight := 1600, refreshHz := 0 }) oneBuzz = some s :=
    Option.isSome_iff_exists.mp (by decide +kernel)
  exact ⟨s, hs, (haptics_in_order _ oneBuzz s hs).1, by decide +kernel⟩

end Ends

end WivrnNx.Haptics
