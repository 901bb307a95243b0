import WivrnNx.BridgeReplay
import WivrnNx.Lib.Channel
import WivrnNx.Shim.IpcWire

/-!
# Both ends of the pipe

The helper's `PipeServer` and the shim's `IpcClient` over one named pipe, with the bridge
that the one drains and everything that may go wrong between them: writes that fail before
or after they went out, reads that time out or fail, sessions that end on either side and
begin again, in any order. What the two loops do is `PipeServer.step` and `IpcWire.step`;
here is what they find.

- `Link`, `serverFinds`, `clientFinds`: the one instance of the pipe;
- `step`: either end, or a producer of the bridge;
- `ShimStream`, `HelperStream`: what the two ends put into it;
- `read_next`: what a session makes of the next message of a helper.
-/

namespace WivrnNx.PipeSession

open IpcClient Wire
open PipeServer (Sent Seen)

/-- The pipe. A disconnected instance takes the next client when both ends are gone. -/
structure Link where
  /-- The client holds a handle. -/
  clientUp : Bool := false
  /-- The server has not disconnected since the client came. -/
  serverUp : Bool := false
  toShim : Channel Message := .empty
  toHelper : Channel Message := .empty

structure System where
  /-- The bridge, and what its one consumer was handed. -/
  relay : Relay
  seen : Seen := {}
  client : IpcWire.Client := {}
  link : Link := {}
  /-- The callbacks that the client's newest session ran. -/
  callbacks : List Callback := []

inductive Action where
  | produce (a : Relay.Action)
  | server (e : PipeServer.Event)
  | client (e : IpcWire.Event)

/-- A write succeeds, or is cancelled too late, only while the other end is there. -/
def reaches (there : Bool) (r : Sent) : Bool := there || !r.written

/-- The event that the server meets: a read finds the oldest message, `collect` the bridge. -/
def serverFinds (s : System) : PipeServer.Event → Option PipeServer.Event
  | .connect true => if s.link.serverUp then some (.connect true) else none
  | .read (.message _) => s.link.toHelper.flight.head?.map fun m => .read (.message (encode m))
  | .collect _ => some (.collect s.relay.bridge)
  | .reply r => if reaches s.link.clientUp r then some (.reply r) else none
  | .send r => if reaches s.link.clientUp r then some (.send r) else none
  | .answer r => if reaches s.link.clientUp r then some (.answer r) else none
  | e => some e

/-- The event that the client meets. What was in flight when the server disconnected is lost. -/
def clientFinds (s : System) : IpcWire.Event → Option IpcWire.Event
  | .openPipe => if s.link.clientUp || s.link.serverUp then none else some .openPipe
  | .read (.message _) =>
    if s.link.serverUp then
      s.link.toShim.flight.head?.map fun m => .read (.message (encode m))
    else none
  | .shimHello pid r => if reaches s.link.serverUp r then some (.shimHello pid r) else none
  | .loop running due time r =>
    if reaches s.link.serverUp r then some (.loop running due time r) else none
  | .send r => if reaches s.link.serverUp r then some (.send r) else none
  | e => some e

/-- What a step of the server does to the pipe. -/
def Link.served (l : Link) (e : PipeServer.Event) (out : PipeServer.Output) : Link :=
  match e with
  | .read (.message _) => { l with toHelper := l.toHelper.pop, toShim := l.toShim.push out.wrote }
  | .disconnect => { l with serverUp := false }
  | _ => { l with toShim := l.toShim.push out.wrote }

/-- What a step of the client does to the pipe. -/
def Link.called (l : Link) (e : IpcWire.Event) (out : IpcWire.Output) : Link :=
  match e with
  | .openPipe => { clientUp := true, serverUp := true }
  | .read (.message _) => { l with toShim := l.toShim.pop }
  | .closePipe => { l with clientUp := false }
  | _ => { l with toHelper := l.toHelper.push out.wrote }

/-- What a step of the server does to the bridge: a client begins with a fresh cursor. -/
def bridged (r : Relay) (e : PipeServer.Event) (out : PipeServer.Output) : Relay :=
  let r := match e with
    | .connect true => r.step (.start 0)
    | .collect _ => r.step (.collect 0)
    | _ => r
  out.calls.foldl (fun r call =>
    match call with
    | .pushHaptic h =>
      r.step (.pushHaptic
        { device := h.device, durationS := Flt.ofBits h.durationS
          frequencyHz := Flt.ofBits h.frequencyHz, amplitude := Flt.ofBits h.amplitude })
    | _ => r) r

/-- What the producers of the bridge do; its consumer is the server. -/
def produces : Relay.Action → Bool
  | .start _ => false
  | .collect _ => false
  | _ => true

/-- A step of the server that met `e`. -/
def serverStep (s : System) (e : PipeServer.Event) : Option System :=
  match PipeServer.step s.seen.server e with
  | none => none
  | some (server, out) =>
    some { s with
      relay := bridged s.relay e out
      seen := s.seen.next e server out
      link := s.link.served e out }

/-- A step of the client that met `e`. -/
def clientStep (s : System) (e : IpcWire.Event) : Option System :=
  match IpcWire.step s.client e with
  | none => none
  | some (client, out) =>
    some { s with
      client := client
      link := s.link.called e out
      callbacks := match e with
        | .openPipe => []
        | _ => s.callbacks ++ out.callbacks }

def step (s : System) : Action → Option System
  | .produce a => if produces a then some { s with relay := s.relay.step a } else none
  | .server e => (serverFinds s e).bind (serverStep s)
  | .client e => (clientFinds s e).bind (clientStep s)

def init (config : HmdConfig) : System := { relay := .init config }

/-! ## What the ends send -/

/-- The types that a helper sends behind its config. -/
def Streamed (t : MessageType) : Prop :=
  t = .hmdConfig ∨ t = .poseUpdate ∨ t = .deviceAdd ∨ t = .deviceRemove ∨ t = .inputUpdate ∨
    t = .frameDone

/-- What a shim sends: its hello, and then only what the contract lets it. -/
def ShimStream : List Message → Prop
  | [] => True
  | m :: rest => (∃ pid, m = IpcWire.hello pid) ∧ ∀ x ∈ rest, PipeServer.FromShim x.type

/-- What a helper sends: its hello, the config, and then the rest. -/
def HelperStream : List Message → Prop
  | [] => True
  | m :: rest => m = PipeServer.reply ∧
    match rest with
    | [] => True
    | c :: rest => c.type = .hmdConfig ∧ ∀ x ∈ rest, Streamed x.type

/-- The callback for a message, with its struct in it. -/
def callbackOf : Message → Option Callback
  | ⟨.hmdConfig, c⟩ => some (.onConfig ⟨hmdConfig.put c, hmdConfig.length_put c⟩)
  | ⟨.poseUpdate, p⟩ => some (.onPose ⟨poseUpdate.put p, poseUpdate.length_put p⟩)
  | ⟨.deviceAdd, d⟩ => some (.onDeviceAdd ⟨device.put d, device.length_put d⟩)
  | ⟨.deviceRemove, d⟩ => some (.onDeviceRemove ⟨device.put d, device.length_put d⟩)
  | ⟨.inputUpdate, i⟩ => some (.onInput ⟨inputUpdate.put i, inputUpdate.length_put i⟩)
  | ⟨.frameDone, d⟩ => some (.onFrameDone ⟨frameDone.put d, frameDone.length_put d⟩)
  | _ => none

/-- What a client's messages have the helper do, from the pid of its hello on. -/
def asked : List Message → List PipeServer.Call
  | ⟨.shimHello, hello⟩ :: rest =>
    .setVrserverPid hello.vrserverPid :: rest.filterMap PipeServer.callFor
  | _ => []

/-- What a session runs for the messages it took: nothing for the hello, the config with the
session's being ready behind it, and one for each of the rest. -/
def heard : List Message → List Callback
  | [] => []
  | [_] => []
  | _ :: config :: rest =>
    (callbackOf config).toList ++ .onSessionReady :: rest.filterMap callbackOf

theorem streamed_append {m : Message} {l : List Message} (hl : 2 ≤ l.length)
    (h : HelperStream l) (hm : Streamed m.type) : HelperStream (l ++ [m]) := by
  match l, hl, h with
  | x :: c :: rest, _, h =>
    obtain ⟨hreply, hconfig, hrest⟩ := h
    refine ⟨hreply, hconfig, ?_⟩
    intro y hy
    rcases List.mem_append.mp hy with hold | hnew
    · exact hrest y hold
    · rw [List.mem_singleton.mp hnew]
      exact hm

theorem HelperStream.of_prefix {l l' : List Message} (h : HelperStream l) (hl : l' <+: l) :
    HelperStream l' := by
  obtain ⟨more, rfl⟩ := hl
  match l', h with
  | [], _ => trivial
  | [x], h => exact ⟨h.1, trivial⟩
  | x :: c :: rest, h =>
    exact ⟨h.1, h.2.1, fun y hy => h.2.2 y (List.mem_append_left more hy)⟩

theorem ShimStream.of_prefix {l l' : List Message} (h : ShimStream l) (hl : l' <+: l) :
    ShimStream l' := by
  obtain ⟨more, rfl⟩ := hl
  match l', h with
  | [], _ => trivial
  | x :: rest, h => exact ⟨h.1, fun y hy => h.2 y (List.mem_append_left more hy)⟩

theorem shim_append {m : Message} {l : List Message} (hl : l ≠ []) (h : ShimStream l)
    (hm : PipeServer.FromShim m.type) : ShimStream (l ++ [m]) := by
  match l, hl, h with
  | x :: rest, _, h =>
    refine ⟨h.1, ?_⟩
    intro y hy
    rcases List.mem_append.mp hy with hold | hnew
    · exact h.2 y hold
    · rw [List.mem_singleton.mp hnew]
      exact hm

/-- A server accepts what a shim sends. -/
theorem accepted_stream {l : List Message} (h : ShimStream l) :
    PipeServer.Accepted (l.map encode) := by
  match l, h with
  | [], _ => trivial
  | m :: rest, h =>
    obtain ⟨⟨pid, rfl⟩, hrest⟩ := h
    refine ⟨?_, ?_⟩
    · rw [PipeServer.helloOf, decode_encode]
      rfl
    · intro data hdata
      obtain ⟨x, hx, rfl⟩ := List.mem_map.mp hdata
      have hfrom := hrest x hx
      rintro (hrunt | ⟨t, htype, hwhy⟩)
      · rw [length_encode] at hrunt
        omega
      · rw [messageType_encode, Option.some.injEq] at htype
        subst htype
        rcases hwhy with hhello | ⟨-, hlength⟩
        · rw [hhello] at hfrom
          rcases hfrom with h | h | h | h <;> cases h
        · exact hlength (length_encode x)

theorem meaning_stream {l : List Message} (h : ShimStream l) :
    PipeServer.meaning (l.map encode) = asked l := by
  match l, h with
  | [], _ => rfl
  | m :: rest, h =>
    obtain ⟨⟨pid, rfl⟩, -⟩ := h
    have hcalls : ∀ x, PipeServer.callOf (encode x) = PipeServer.callFor x := by
      intro x
      rw [PipeServer.callOf, decode_encode]
      rfl
    have hhello : PipeServer.helloOf (encode (IpcWire.hello pid)) = some pid := by
      rw [PipeServer.helloOf, decode_encode]
      rfl
    rw [List.map_cons, PipeServer.meaning, hhello]
    dsimp only
    rw [List.filterMap_map]
    change _ = PipeServer.Call.setVrserverPid pid :: rest.filterMap PipeServer.callFor
    rw [show PipeServer.callOf ∘ encode = PipeServer.callFor from funext hcalls]

/-! ## What the client makes of it -/

theorem pod?_put {n : ℕ} {α : Type*} (p : Packed α) (a : α) (h : (p.put a).length = n) :
    pod? n (p.put a) = some ⟨p.put a, h⟩ := by
  rw [pod?, dif_pos h]

theorem handleMessage_type (s : Session) (m : Message) :
    handleMessage s (encode m) =
      match m.type with
      | .helperHello => helperHello s ((layout m.type).put m.content)
      | .hmdConfig => IpcClient.hmdConfig s ((layout m.type).put m.content)
      | .poseUpdate => streamed s 120 ((layout m.type).put m.content) .onPose
      | .deviceAdd => streamed s 4 ((layout m.type).put m.content) .onDeviceAdd
      | .deviceRemove => streamed s 4 ((layout m.type).put m.content) .onDeviceRemove
      | .inputUpdate => streamed s 36 ((layout m.type).put m.content) .onInput
      | .frameDone => streamed s 16 ((layout m.type).put m.content) .onFrameDone
      | _ => (s, []) := by
  have hlength : ¬ (encode m).length < 4 := by
    rw [length_encode]
    omega
  rw [handleMessage, if_neg hlength]
  dsimp only
  rw [messageType_encode, drop_encode]
  obtain ⟨t, content⟩ := m
  cases t <;> rfl

theorem handleMessage_reply (s : Session) :
    handleMessage s (encode PipeServer.reply) = ({ s with gotHelperHello := true }, []) := by
  rw [handleMessage_type]
  change IpcClient.helperHello s (Wire.helperHello.put ⟨PipeServer.helperMagic, 3⟩) = _
  have hpod : pod? 8 (Wire.helperHello.put ⟨PipeServer.helperMagic, 3⟩) = some ⟨_, _⟩ :=
    pod?_put _ _ (Wire.helperHello.length_put _)
  rw [IpcClient.helperHello, hpod]
  dsimp only
  rw [if_neg (by decide), if_neg (by decide)]

/-- Behind the hello a config is taken. -/
theorem handleMessage_config {s : Session} (hhello : s.gotHelperHello = true) (c : HmdConfig) :
    handleMessage s (encode ⟨.hmdConfig, c⟩) =
      ({ s with gotConfig := true }, (callbackOf ⟨.hmdConfig, c⟩).toList) := by
  rw [handleMessage_type]
  change IpcClient.hmdConfig s (Wire.hmdConfig.put c) = _
  have hpod : pod? 104 (Wire.hmdConfig.put c) = some ⟨_, _⟩ :=
    pod?_put _ _ (Wire.hmdConfig.length_put c)
  rw [IpcClient.hmdConfig, hhello, hpod]
  rfl

/-- And behind the config whatever a helper streams. -/
theorem handleMessage_streamed {s : Session} (hhello : s.gotHelperHello = true)
    (hconfig : s.gotConfig = true) {m : Message} (hm : Streamed m.type) :
    handleMessage s (encode m) = (s, (callbackOf m).toList) := by
  obtain ⟨t, content⟩ := m
  have hstreamed : ∀ {n : ℕ} {α : Type} (p : Packed α) (a : α) (h : (p.put a).length = n)
      (callback : Pod n → Callback),
      streamed s n (p.put a) callback = (s, [callback ⟨p.put a, h⟩]) := by
    intro n α p a h callback
    rw [streamed, hconfig, if_pos rfl, pod?_put p a h]
  change t = _ ∨ t = _ ∨ t = _ ∨ t = _ ∨ t = _ ∨ t = _ at hm
  rcases hm with h | h | h | h | h | h <;> subst h
  · rw [handleMessage_config hhello, ← hconfig]
  · rw [handleMessage_type]
    exact hstreamed Wire.poseUpdate content (Wire.poseUpdate.length_put content) .onPose
  · rw [handleMessage_type]
    exact hstreamed Wire.device content (Wire.device.length_put content) .onDeviceAdd
  · rw [handleMessage_type]
    exact hstreamed Wire.device content (Wire.device.length_put content) .onDeviceRemove
  · rw [handleMessage_type]
    exact hstreamed Wire.inputUpdate content (Wire.inputUpdate.length_put content) .onInput
  · rw [handleMessage_type]
    exact hstreamed Wire.frameDone content (Wire.frameDone.length_put content) .onFrameDone

/-- The session's flags are where the messages it took put them. -/
structure Told (s : Session) (taken : List Message) : Prop where
  received : s.received = taken.map encode
  hello : s.gotHelperHello = decide (1 ≤ taken.length)
  config : s.gotConfig = decide (2 ≤ taken.length)
  connected : s.connected = s.gotConfig

theorem heard_append {taken : List Message} (h : 2 ≤ taken.length) (m : Message) :
    heard (taken ++ [m]) = heard taken ++ (callbackOf m).toList := by
  match taken, h with
  | x :: c :: rest, _ =>
    simp only [heard, List.cons_append, List.filterMap_append, List.append_assoc]
    cases hcallback : callbackOf m <;> simp [hcallback]

/-- The next message of what a helper sends: it is taken, and runs its callback. -/
theorem read_next {s : Session} {taken : List Message} {m : Message} (h : Told s taken)
    (hended : s.ended = false) (hstream : HelperStream (taken ++ [m])) :
    (handleRead s (.message (encode m))).1.ended = false ∧
      Told (handleRead s (.message (encode m))).1 (taken ++ [m]) ∧
        heard (taken ++ [m]) = heard taken ++ (handleRead s (.message (encode m))).2 := by
  have hreceived : s.received ++ [encode m] = (taken ++ [m]).map encode := by
    rw [h.received, List.map_append]
    rfl
  match taken, h, hstream with
  | [], h, hstream =>
    -- The hello
    have hm : m = PipeServer.reply := hstream.1
    subst hm
    have hconfig : s.gotConfig = false := h.config
    have hread : handleRead s (.message (encode PipeServer.reply)) =
        ({ s with received := s.received ++ [encode PipeServer.reply], gotHelperHello := true },
          []) := by
      rw [handleRead, handleMessage_reply, announce]
      simp [hconfig]
    rw [hread]
    exact ⟨hended, ⟨hreceived, rfl, hconfig, h.connected⟩, rfl⟩
  | [x], h, hstream =>
    -- The config, which makes the session ready
    obtain ⟨t, c⟩ := m
    have ht : t = .hmdConfig := hstream.2.1
    subst ht
    have hconnected : s.connected = false := h.connected.trans h.config
    have hread : handleRead s (.message (encode ⟨.hmdConfig, c⟩)) =
        ({ s with
            received := s.received ++ [encode ⟨.hmdConfig, c⟩], gotConfig := true
            connected := true },
          (callbackOf ⟨.hmdConfig, c⟩).toList ++ [.onSessionReady]) := by
      rw [handleRead, handleMessage_config (by exact h.hello), announce]
      simp [hended, hconnected]
    rw [hread]
    exact ⟨hended, ⟨hreceived, h.hello, rfl, rfl⟩, rfl⟩
  | x :: y :: rest, h, hstream =>
    have hlength : 2 ≤ (x :: y :: rest).length := by simp
    have hhello : s.gotHelperHello = true := h.hello.trans (decide_eq_true (by omega))
    have hconfig : s.gotConfig = true := h.config.trans (decide_eq_true hlength)
    have hm : Streamed m.type := hstream.2.2 m (List.mem_append_right rest (List.mem_singleton_self m))
    have hread : handleRead s (.message (encode m)) =
        ({ s with received := s.received ++ [encode m] }, (callbackOf m).toList) := by
      rw [handleRead, handleMessage_streamed (by exact hhello) (by exact hconfig) hm, announce]
      simp [h.connected, hconfig]
    rw [hread]
    refine ⟨hended, ⟨hreceived, ?_, ?_, h.connected⟩, heard_append hlength m⟩
    · exact hhello.trans (decide_eq_true (by simp)).symm
    · exact hconfig.trans (decide_eq_true (by simp)).symm

end WivrnNx.PipeSession
