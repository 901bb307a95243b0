import WivrnNx.Wire
import WivrnNx.Lib.Runs

/-!
# The helper's end of the pipe

`PipeServer::run` (helper/src/pipe_server.cpp) on bytes: the accept loop with `handshake`
and `serve`, one event per call into the system, the bridge or the intake. What a client
sends is anything; what a read, a write or a wait ends with is the world's choice.

- `shake`, `handleMessage`: what the two readers make of a message;
- `step`: the loop;
- `calls_gated`: whatever a client sends, the bridge and the intake are called exactly for
  what the contract says of it, and nothing is written before a good hello.
-/

namespace WivrnNx.PipeServer

open IpcClient Wire

/-- `kShimMagic`. -/
def shimMagic : UInt32 := 0x53584E57

/-- `kHelperMagic`, as it goes out. -/
def helperMagic : UInt32 := 0x48584E57

/-- `kProtocolVersion`. -/
def protocolVersion : UInt32 := 3

/-- `PipeServer::WaitResult`, with what a finished read left in `msg_`. -/
inductive WaitResult where
  | message (data : List UInt8)
  | timeout
  | shutdown
  | error
deriving DecidableEq, Repr

/-- The end of `wait_for_message`: a message without a type is an error. -/
def WaitResult.checked : WaitResult → WaitResult
  | .message data => if data.length < 4 then .error else .message data
  | r => r

/-- How `send_message` ends: a write that is cancelled too late may have gone out. -/
inductive Sent where
  | sent
  | failed (written : Bool)
deriving DecidableEq, Repr

/-- Whether the message is in the pipe. -/
def Sent.written : Sent → Bool
  | .sent => true
  | .failed written => written

/-- What the server calls on the bridge and on the intake. -/
inductive Call where
  | setVrserverPid (pid : UInt32)
  | pushHaptic (haptic : Wire.Haptic)
  | onStagingConfig (config : Wire.StagingConfig)
  | onFrameReady (frame : Wire.FrameReady)
  | onShimGone
deriving DecidableEq

/-- The counters, zero again for every client. -/
structure Counters where
  posesSent : ℕ := 0
  inputsSent : ℕ := 0
  framesReadySeen : ℕ := 0
  framesDoneSent : ℕ := 0
  stagingConfigsSeen : ℕ := 0
  keepalivesSeen : ℕ := 0
  hapticsSeen : ℕ := 0
  unknownSeen : ℕ := 0
deriving DecidableEq, Repr

/-- The checks of `handshake`: the pid of a hello that passes them. -/
def shake (data : List UInt8) : Option UInt32 :=
  if messageType (uint32 data) ≠ some .shimHello ∨ data.length ≠ 4 + Wire.shimHello.size then none
  else
    let hello := Wire.shimHello.get (data.drop 4)
    if hello.magic ≠ shimMagic then none
    else if hello.version ≠ protocolVersion then none
    else some hello.vrserverPid

/-- `handle_message`, `none` where it returns false. -/
def handleMessage (c : Counters) (data : List UInt8) : Option (Counters × List Call) :=
  let payload := data.drop 4
  match messageType (uint32 data) with
  | some .keepAlive =>
    if payload.length ≠ Wire.keepAlive.size then none
    else some ({ c with keepalivesSeen := c.keepalivesSeen + 1 }, [])
  | some .haptic =>
    if payload.length ≠ Wire.haptic.size then none
    else
      some ({ c with hapticsSeen := c.hapticsSeen + 1 }, [.pushHaptic (Wire.haptic.get payload)])
  | some .stagingConfig =>
    if payload.length ≠ Wire.stagingConfig.size then none
    else
      some ({ c with stagingConfigsSeen := c.stagingConfigsSeen + 1 },
        [.onStagingConfig (Wire.stagingConfig.get payload)])
  | some .frameReady =>
    if payload.length ≠ Wire.frameReady.size then none
    else
      some ({ c with framesReadySeen := c.framesReadySeen + 1 },
        [.onFrameReady (Wire.frameReady.get payload)])
  -- A second one
  | some .shimHello => none
  | _ => some ({ c with unknownSeen := c.unknownSeen + 1 }, [])

/-- `Outgoing`, as the message that `send_message` makes of it. -/
def ofOutgoing : Outgoing → Message
  | .hmdConfig config => ⟨.hmdConfig, config⟩
  | .deviceAdd device => ⟨.deviceAdd, device⟩
  | .deviceRemove device => ⟨.deviceRemove, device⟩
  | .poseUpdate pose => ⟨.poseUpdate, pose⟩
  | .inputUpdate input => ⟨.inputUpdate, input⟩

/-- The counting in `flush_bridge`. -/
def Counters.sent (c : Counters) : Outgoing → Counters
  | .poseUpdate _ => { c with posesSent := c.posesSent + 1 }
  | .inputUpdate _ => { c with inputsSent := c.inputsSent + 1 }
  | _ => c

/-- The HelperHello. -/
def reply : Message := ⟨.helperHello, ⟨helperMagic, protocolVersion⟩⟩

/-- Where `run` is. -/
inductive Point where
  /-- In `wait_for_client`. -/
  | waiting
  /-- `handshake`: in `wait_for_message`. -/
  | shaking
  /-- `handshake`: the HelperHello is next. -/
  | replying
  /-- `flush_bridge`, before `collect`; the flag is whether `handshake` called it. -/
  | collecting (first : Bool)
  /-- `flush_bridge`, in its loop. -/
  | flushing (first : Bool)
  /-- `flush_frame_done`, before `pop_done`. -/
  | popping
  /-- `flush_frame_done`, with what it popped. -/
  | answering (done : Wire.FrameDone)
  /-- `serve`: in `wait_for_message`. -/
  | reading
  /-- `handshake` or `serve` has returned; the flag is `keep_running`. -/
  | leaving (keep : Bool)
  /-- Past `disconnect_client`. -/
  | disconnected (keep : Bool)
  /-- Past `on_shim_gone`. -/
  | gone (keep : Bool)
  /-- `run` has returned. -/
  | stopped
deriving DecidableEq

structure Server where
  point : Point := .waiting
  cursor : Bridge.Cursor := {}
  pending : List Outgoing := []
  counters : Counters := {}

inductive Event where
  | connect (ok : Bool)
  | read (result : WaitResult)
  | reply (result : Sent)
  /-- `bridge_.collect`, and the bridge it finds. -/
  | collect (bridge : Bridge)
  | send (result : Sent)
  /-- `video_.pop_done`, and what it gives. -/
  | pop (done : Option Wire.FrameDone)
  | answer (result : Sent)
  | disconnect
  | shimGone
  /-- The look at the shutdown event at the end of `run`'s loop. -/
  | recheck (shutdown : Bool)

/-- What a step does to the others. -/
structure Output where
  wrote : List Message := []
  calls : List Call := []

/-- After a write of `m`, on to `next` or out. -/
def Server.wrote (s : Server) (m : Message) (r : Sent) (next : Server) : Server × Output :=
  (if r = .sent then next else { s with point := .leaving true },
    { wrote := if r.written then [m] else [] })

/-- The `switch` of `handshake`. -/
def Server.shaken (s : Server) : WaitResult → Server × Output
  | .message data =>
    match shake data with
    | none => ({ s with point := .leaving true }, {})
    | some pid => ({ s with point := .replying }, { calls := [.setVrserverPid pid] })
  | _ => ({ s with point := .leaving true }, {})

/-- The `switch` of `serve`. -/
def Server.served (s : Server) : WaitResult → Server × Output
  | .message data =>
    match handleMessage s.counters data with
    | none => ({ s with point := .leaving true }, {})
    | some (counters, calls) =>
      ({ s with point := .collecting false, counters := counters }, { calls := calls })
  | .timeout => ({ s with point := .collecting false }, {})
  | .shutdown => ({ s with point := .leaving false }, {})
  | .error => ({ s with point := .leaving true }, {})

/-- The loop of `flush_bridge`, and where its callers go on behind it. -/
def Server.flushed (s : Server) (first : Bool) : Server :=
  { s with
    point := if s.pending = [] then (if first then .collecting false else .popping)
      else .flushing first }

def step (s : Server) : Event → Option (Server × Output)
  | .connect ok =>
    if s.point = .waiting then
      if ok then some ({ point := .shaking }, {}) else some ({ s with point := .stopped }, {})
    else none
  | .read result =>
    if s.point = .shaking then some (s.shaken result.checked)
    else if s.point = .reading then some (s.served result.checked)
    else none
  | .reply result =>
    if s.point = .replying then
      some (s.wrote PipeServer.reply result { s with point := .collecting true })
    else none
  | .collect bridge =>
    match s.point with
    | .collecting first =>
      some ({ s with cursor := (bridge.collect s.cursor).1
                     pending := (bridge.collect s.cursor).2 }.flushed first, {})
    | _ => none
  | .send result =>
    match s.point, s.pending with
    | .flushing first, m :: rest =>
      some (s.wrote (ofOutgoing m) result
        ({ s with pending := rest, counters := s.counters.sent m }.flushed first))
    | _, _ => none
  | .pop done =>
    if s.point = .popping then
      match done with
      | none => some ({ s with point := .reading }, {})
      | some done => some ({ s with point := .answering done }, {})
    else none
  | .answer result =>
    match s.point with
    | .answering done =>
      some (s.wrote ⟨.frameDone, done⟩ result
        { s with
          point := .popping
          counters := { s.counters with framesDoneSent := s.counters.framesDoneSent + 1 } })
    | _ => none
  | .disconnect =>
    match s.point with
    | .leaving keep => some ({ s with point := .disconnected keep }, {})
    | _ => none
  | .shimGone =>
    match s.point with
    | .disconnected keep => some ({ s with point := .gone keep }, { calls := [.onShimGone] })
    | _ => none
  | .recheck shutdown =>
    match s.point with
    | .gone keep =>
      some ({ s with point := if keep && !shutdown then .waiting else .stopped }, {})
    | _ => none

/-! ## What the contract says of a client -/

/-- The pid of a ShimHello of this protocol. -/
def helloOf (data : List UInt8) : Option UInt32 :=
  match decode data with
  | some ⟨.shimHello, hello⟩ =>
    if hello.magic = shimMagic ∧ hello.version = protocolVersion then some hello.vrserverPid
    else none
  | _ => none

/-- What a message behind the hello asks for. -/
def callFor : Message → Option Call
  | ⟨.haptic, haptic⟩ => some (.pushHaptic haptic)
  | ⟨.stagingConfig, config⟩ => some (.onStagingConfig config)
  | ⟨.frameReady, frame⟩ => some (.onFrameReady frame)
  | _ => none

/-- The same for the bytes of one. -/
def callOf (data : List UInt8) : Option Call := (decode data).bind callFor

/-- The types that a shim may send behind its hello. -/
def FromShim (t : MessageType) : Prop :=
  t = .keepAlive ∨ t = .haptic ∨ t = .stagingConfig ∨ t = .frameReady

/-- A message behind the hello that a client is dropped for. -/
def Refused (data : List UInt8) : Prop :=
  data.length < 4 ∨ ∃ t, messageType (uint32 data) = some t ∧
    (t = .shimHello ∨ (FromShim t ∧ data.length ≠ 4 + structSize t))

/-- What the messages of one client ask for, in order. -/
def meaning : List (List UInt8) → List Call
  | [] => []
  | hello :: rest =>
    match helloOf hello with
    | none => []
    | some pid => .setVrserverPid pid :: rest.filterMap callOf

/-- The messages begin with a good hello and hold nothing to be dropped for. -/
def Accepted : List (List UInt8) → Prop
  | [] => True
  | hello :: rest => (helloOf hello).isSome ∧ ∀ data ∈ rest, ¬ Refused data

theorem uint32_runt {data : List UInt8} (h : data.length < 4) : messageType (uint32 data) = none := by
  match data, h with
  | [], _ => rfl
  | [_], _ => rfl
  | [_, _], _ => rfl
  | [_, _, _], _ => rfl

theorem shake_eq (data : List UInt8) : shake data = helloOf data := by
  unfold shake helloOf
  by_cases h : messageType (uint32 data) ≠ some .shimHello ∨
      data.length ≠ 4 + Wire.shimHello.size
  · rw [if_pos h]
    split
    · rename_i hello hdecode
      obtain ⟨htype, hlength, -⟩ := decode_some hdecode
      rcases h with hne | hne
      · exact absurd htype hne
      · exact absurd hlength hne
    · rfl
  · rw [if_neg h]
    rw [not_or, not_not, not_not] at h
    rw [decode_eq h.1 h.2]
    change (if (Wire.shimHello.get (data.drop 4)).magic ≠ shimMagic then none else
      if (Wire.shimHello.get (data.drop 4)).version ≠ protocolVersion then none else _) =
        if (Wire.shimHello.get (data.drop 4)).magic = shimMagic ∧
          (Wire.shimHello.get (data.drop 4)).version = protocolVersion then _ else none
    by_cases hmagic : (Wire.shimHello.get (data.drop 4)).magic = shimMagic
    · by_cases hversion : (Wire.shimHello.get (data.drop 4)).version = protocolVersion
      · simp only [hmagic, hversion, ne_eq, not_true_eq_false, if_false, and_self, if_true]
        rfl
      · simp only [hmagic, hversion, ne_eq, not_true_eq_false, if_false, not_false_eq_true,
          if_true, and_false]
    · simp only [hmagic, ne_eq, not_false_eq_true, if_true, false_and, if_false]

theorem refused_iff {data : List UInt8} {t : MessageType} (h : 4 ≤ data.length)
    (htype : messageType (uint32 data) = some t) :
    Refused data ↔ t = .shimHello ∨ (FromShim t ∧ data.length ≠ 4 + structSize t) := by
  constructor
  · rintro (hrunt | ⟨t', htype', hwhy⟩)
    · omega
    · rw [htype, Option.some.injEq] at htype'
      rwa [htype']
  · intro hwhy
    exact .inr ⟨t, htype, hwhy⟩

/-- A message of the shim behind the check of its size. -/
theorem sized_cases {data : List UInt8} {t : MessageType} (h : 4 ≤ data.length)
    (htype : messageType (uint32 data) = some t) (hfrom : FromShim t) {ρ : Type} (taken : ρ) :
    (Refused data ∧ (if (data.drop 4).length ≠ (layout t).size then none else some taken) = none) ∨
      (¬ Refused data ∧ decode data = some ⟨t, (layout t).get (data.drop 4)⟩ ∧
        (if (data.drop 4).length ≠ (layout t).size then none else some taken) = some taken) := by
  have hhello : t ≠ .shimHello := by
    rintro rfl
    rcases hfrom with h | h | h | h <;> cases h
  rw [refused_iff h htype, List.length_drop, layout_size]
  by_cases hlength : data.length = 4 + structSize t
  · have hsize : data.length - 4 = structSize t := by omega
    refine .inr ⟨?_, decode_eq htype hlength, ?_⟩
    · rintro (heq | ⟨-, hne⟩)
      · exact hhello heq
      · exact hne hlength
    · rw [if_neg (by rw [hsize]; exact not_not.mpr rfl)]
  · refine .inl ⟨.inr ⟨hfrom, hlength⟩, ?_⟩
    have hsize : data.length - 4 ≠ structSize t := by omega
    rw [if_pos hsize]

theorem callFor_other {m : Message} (h : ¬ FromShim m.type) : callFor m = none := by
  obtain ⟨t, content⟩ := m
  cases t
  case haptic => exact absurd (.inr (.inl rfl)) h
  case stagingConfig => exact absurd (.inr (.inr (.inl rfl))) h
  case frameReady => exact absurd (.inr (.inr (.inr rfl))) h
  all_goals rfl

theorem callOf_other {data : List UInt8} (h : ∀ t, messageType (uint32 data) = some t → ¬ FromShim t) :
    callOf data = none := by
  unfold callOf
  cases hdecode : decode data with
  | none => rfl
  | some m => exact callFor_other (h _ (decode_some hdecode).1)

/-- `handle_message` drops the client exactly for the refused messages, and else calls what
the message asks for. -/
theorem handleMessage_cases (c : Counters) {data : List UInt8} (h : 4 ≤ data.length) :
    (Refused data ∧ handleMessage c data = none) ∨
      (¬ Refused data ∧ ∃ c', handleMessage c data = some (c', (callOf data).toList)) := by
  cases htype : messageType (uint32 data) with
  | none =>
    have hcall : callOf data = none := by
      apply callOf_other
      intro t ht
      rw [htype] at ht
      cases ht
    refine .inr ⟨?_, { c with unknownSeen := c.unknownSeen + 1 }, ?_⟩
    · rintro (hrunt | ⟨t, ht, -⟩)
      · omega
      · rw [htype] at ht
        cases ht
    · rw [hcall, handleMessage, htype]
      rfl
  | some t =>
    by_cases hfrom : FromShim t
    · -- A type of the shim: the check of its size decides
      have htaken := fun taken : Counters × List Call => sized_cases h htype hfrom taken
      rcases hfrom with rfl | rfl | rfl | rfl
      all_goals rcases htaken _ with ⟨hr, heq⟩ | ⟨hr, hdecode, heq⟩
      all_goals
        first
        | exact .inl ⟨hr, by rw [handleMessage, htype]; exact heq⟩
        | exact .inr ⟨hr, _, by rw [handleMessage, htype, callOf, hdecode]; exact heq⟩
    · have hcall : callOf data = none := by
        apply callOf_other
        intro t' ht'
        rw [htype, Option.some.injEq] at ht'
        rwa [← ht']
      rw [refused_iff h htype, hcall]
      by_cases hhello : t = .shimHello
      · subst hhello
        exact .inl ⟨.inl rfl, by rw [handleMessage, htype]⟩
      · -- One of the helper's own types: only counted
        refine .inr ⟨?_, { c with unknownSeen := c.unknownSeen + 1 }, ?_⟩
        · rintro (heq | ⟨hyes, -⟩)
          · exact hhello heq
          · exact hfrom hyes
        · rw [handleMessage, htype]
          cases t
          case shimHello => exact absurd rfl hhello
          case keepAlive => exact absurd (.inl rfl) hfrom
          case haptic => exact absurd (.inr (.inl rfl)) hfrom
          case stagingConfig => exact absurd (.inr (.inr (.inl rfl))) hfrom
          case frameReady => exact absurd (.inr (.inr (.inr rfl))) hfrom
          all_goals rfl

/-! ## One client after another -/

/-- The server, with what it read from, wrote to and called for its newest client. -/
structure Seen where
  server : Server := {}
  clients : ℕ := 0
  read : List (List UInt8) := []
  wrote : List Message := []
  calls : List Call := []

/-- What a read hands to the session. -/
def Event.data : Event → List (List UInt8)
  | .read (.message data) => [data]
  | _ => []

/-- The same client, after a step that read and put out something. -/
def Seen.after (o : Seen) (server : Server) (read : List (List UInt8)) (out : Output) : Seen :=
  { o with
    server := server
    read := o.read ++ read
    wrote := o.wrote ++ out.wrote
    calls := o.calls ++ out.calls }

/-- A step as it is seen: a new client is seen from its start. -/
def Seen.next (o : Seen) (e : Event) (server : Server) (out : Output) : Seen :=
  match e with
  | .connect true => { server := server, clients := o.clients + 1 }
  | _ => o.after server e.data out

def watch (o : Seen) (e : Event) : Option Seen :=
  match step o.server e with
  | none => none
  | some (server, out) => some (o.next e server out)

/-- Between `wait_for_client` and the return of `handshake` or `serve`. -/
def Point.Live : Point → Prop
  | .shaking | .replying | .collecting _ | .flushing _ | .popping | .answering _ | .reading => True
  | _ => False

/-- Behind `on_shim_gone`, and before the next client. -/
def Point.over : Point → Bool
  | .waiting | .gone _ | .stopped => true
  | _ => false

/-- What is still called when the client is gone. -/
def Seen.farewell (o : Seen) : List Call :=
  if o.server.point.over && o.clients ≠ 0 then [.onShimGone] else []

/-- A good hello and what followed it. -/
def Greeted (read : List (List UInt8)) : Prop :=
  ∃ hello rest pid, read = hello :: rest ∧ helloOf hello = some pid

/-- The invariant. -/
structure Inv (o : Seen) : Prop where
  calls : o.calls = meaning o.read ++ o.farewell
  /-- Nothing was read before the handshake, and a live client behind it is greeted. -/
  fresh : o.server.point = .shaking → o.read = [] ∧ o.wrote = []
  live : o.server.point.Live → o.server.point ≠ .shaking → Greeted o.read
  accepted : o.server.point.Live → Accepted o.read
  wrote : o.wrote ≠ [] → Greeted o.read
  unseen : o.clients = 0 → o.server.point.over = true ∧ o.read = []

theorem meaning_append {read : List (List UInt8)} (h : Greeted read) (data : List UInt8) :
    meaning (read ++ [data]) = meaning read ++ (callOf data).toList := by
  obtain ⟨hello, rest, pid, rfl, hhello⟩ := h
  rw [List.cons_append, meaning, meaning, hhello]
  dsimp only
  rw [List.filterMap_append, List.cons_append]
  cases hcall : callOf data <;> simp [hcall]

theorem Greeted.append {read : List (List UInt8)} (h : Greeted read) (more : List (List UInt8)) :
    Greeted (read ++ more) := by
  obtain ⟨hello, rest, pid, rfl, hhello⟩ := h
  exact ⟨hello, rest ++ more, pid, rfl, hhello⟩

theorem accepted_append {read : List (List UInt8)} (h : Greeted read) (data : List UInt8) :
    Accepted (read ++ [data]) ↔ Accepted read ∧ ¬ Refused data := by
  obtain ⟨hello, rest, pid, rfl, hhello⟩ := h
  rw [List.cons_append, Accepted, Accepted]
  simp only [List.mem_append, List.mem_singleton]
  constructor
  · intro h
    exact ⟨⟨h.1, fun d hd => h.2 d (.inl hd)⟩, h.2 data (.inr rfl)⟩
  · rintro ⟨h, hdata⟩
    refine ⟨h.1, ?_⟩
    rintro d (hd | rfl)
    · exact h.2 d hd
    · exact hdata

theorem refused_callOf {data : List UInt8} (h : Refused data) : callOf data = none := by
  rcases h with hrunt | ⟨t, htype, hhello | ⟨-, hlength⟩⟩
  · apply callOf_other
    intro t ht
    rw [uint32_runt hrunt] at ht
    cases ht
  · apply callOf_other
    intro t' ht' hfrom
    rw [htype, Option.some.injEq] at ht'
    subst hhello ht'
    rcases hfrom with h | h | h | h <;> cases h
  · have hdecode : decode data = none := by
      rw [decode, htype]
      dsimp only
      rw [if_neg (by rwa [layout_size])]
    rw [callOf, hdecode]
    rfl

/-- A step that reads nothing, calls nothing and writes only to a greeted client. -/
theorem Inv.moved {o : Seen} (h : Inv o) (server : Server) (out : Output)
    (hover : o.server.point.over = server.point.over)
    (hlive : server.point.Live → o.server.point.Live ∧ o.server.point ≠ .shaking)
    (hshaking : server.point ≠ .shaking) (hwrote : out.wrote ≠ [] → Greeted o.read)
    (hcalls : out.calls = []) : Inv (o.after server [] out) where
  calls := by
    have hsame : (o.after server [] out).farewell = o.farewell := by
      rw [Seen.farewell, Seen.farewell, hover]
      rfl
    simp only [Seen.after, hcalls, List.append_nil]
    rw [h.calls, ← hsame]
    rfl
  fresh hpoint := absurd hpoint hshaking
  live hnew _ := (h.live (hlive hnew).1 (hlive hnew).2).append []
  accepted hnew := by
    simpa only [Seen.after, List.append_nil] using h.accepted (hlive hnew).1
  wrote hne := by
    simp only [Seen.after, List.append_nil] at hne ⊢
    by_cases hold : o.wrote = []
    · rw [hold, List.nil_append] at hne
      exact hwrote hne
    · exact h.wrote hold
  unseen hnone := by
    obtain ⟨hbefore, hread⟩ := h.unseen hnone
    exact ⟨hover ▸ hbefore, by simp only [Seen.after, hread, List.append_nil]⟩

/-- A client that is met is one that was connected. -/
theorem Inv.met {o : Seen} (h : Inv o) (hpoint : o.server.point.over = false) : o.clients ≠ 0 := by
  intro hnone
  rw [(h.unseen hnone).1] at hpoint
  cases hpoint

/-- A message that the loop of `serve` was given. -/
theorem Inv.served {o : Seen} (h : Inv o) (hpoint : o.server.point = .reading) (server : Server)
    (data : List UInt8) (calls : List Call) (hcalls : calls = (callOf data).toList)
    (hover : server.point.over = false) (hshaking : server.point ≠ .shaking)
    (haccepted : server.point.Live → ¬ Refused data) :
    Inv (o.after server [data] { calls := calls }) := by
  have hlive : o.server.point.Live := by
    rw [hpoint]
    trivial
  have hgreeted : Greeted o.read := h.live hlive (by rw [hpoint]; nofun)
  have hclients := h.met (by rw [hpoint]; rfl)
  have hbefore : o.farewell = [] := by simp [Seen.farewell, hpoint, Point.over]
  have hbehind : (o.after server [data] { calls := calls }).farewell = [] := by
    simp [Seen.farewell, Seen.after, hover]
  refine ⟨?_, fun hnew => absurd hnew hshaking, fun _ _ => hgreeted.append [data], ?_, ?_,
    fun hnone => absurd hnone hclients⟩
  · rw [hbehind, List.append_nil]
    simp only [Seen.after]
    rw [h.calls, hbefore, List.append_nil, meaning_append hgreeted, hcalls]
  · intro hnew
    exact (accepted_append hgreeted data).mpr ⟨h.accepted hlive, haccepted hnew⟩
  · intro _
    exact hgreeted.append [data]

/-- What the handshake makes of a message that it was given. -/
theorem Inv.shaken {o : Seen} (h : Inv o) (hpoint : o.server.point = .shaking)
    (data : List UInt8) :
    Inv (o.after (o.server.shaken (.message data)).1 [data] (o.server.shaken (.message data)).2) := by
  obtain ⟨hread, hwrote⟩ := h.fresh hpoint
  have hclients := h.met (by rw [hpoint]; rfl)
  have hcalls := h.calls
  rw [hread, Seen.farewell, hpoint] at hcalls
  rw [Server.shaken, shake_eq, Seen.after, hread, hwrote, hcalls]
  cases hhello : helloOf data with
  | none =>
    refine ⟨?_, nofun, nofun, nofun, nofun, fun hnone => absurd hnone hclients⟩
    simp [meaning, hhello, Seen.farewell, Point.over]
  | some pid =>
    have hgreeted : Greeted [data] := ⟨data, [], pid, rfl, hhello⟩
    refine ⟨?_, nofun, fun _ _ => hgreeted, fun _ => ⟨?_, nofun⟩, nofun,
      fun hnone => absurd hnone hclients⟩
    · simp [meaning, hhello, Seen.farewell, Point.over]
    · rw [hhello]
      rfl

theorem helloOf_runt {data : List UInt8} (h : data.length < 4) : helloOf data = none := by
  rw [helloOf, decode, uint32_runt h]

/-- A handshake that ends before its message, or with one that has no type. -/
theorem Inv.dropped {o : Seen} (h : Inv o) (hpoint : o.server.point = .shaking)
    (data : List (List UInt8)) (hdata : meaning data = []) :
    Inv (o.after { o.server with point := .leaving true } data {}) := by
  obtain ⟨hread, hwrote⟩ := h.fresh hpoint
  have hclients := h.met (by rw [hpoint]; rfl)
  have hcalls := h.calls
  rw [hread, Seen.farewell, hpoint] at hcalls
  rw [Seen.after, hread, hwrote, hcalls]
  refine ⟨?_, nofun, nofun, nofun, nofun, fun hnone => absurd hnone hclients⟩
  rw [List.nil_append, hdata]
  simp [meaning, Seen.farewell, Point.over]

theorem checked_cases (r : WaitResult) :
    (∃ data, r = .message data ∧ 4 ≤ data.length ∧ r.checked = .message data) ∨
      (∃ data, r = .message data ∧ data.length < 4 ∧ r.checked = .error) ∨
      (Event.read r).data = [] ∧
        (r.checked = .timeout ∨ r.checked = .shutdown ∨ r.checked = .error) := by
  cases r with
  | message data =>
    rw [WaitResult.checked]
    split
    · rename_i hrunt
      exact .inr (.inl ⟨data, rfl, hrunt, rfl⟩)
    · rename_i hlength
      exact .inl ⟨data, rfl, Nat.not_lt.mp hlength, rfl⟩
  | timeout => exact .inr (.inr ⟨rfl, .inl rfl⟩)
  | shutdown => exact .inr (.inr ⟨rfl, .inr (.inl rfl)⟩)
  | error => exact .inr (.inr ⟨rfl, .inr (.inr rfl)⟩)

/-- A read in the handshake. -/
theorem shaken_inv {o : Seen} (h : Inv o) (hpoint : o.server.point = .shaking) (r : WaitResult) :
    Inv (o.after (o.server.shaken r.checked).1 (Event.read r).data
      (o.server.shaken r.checked).2) := by
  rcases checked_cases r with ⟨data, rfl, -, hchecked⟩ | ⟨data, rfl, hrunt, hchecked⟩ |
    ⟨hdata, hchecked⟩
  · rw [hchecked]
    exact h.shaken hpoint data
  · rw [hchecked]
    refine h.dropped hpoint [data] ?_
    rw [meaning, helloOf_runt hrunt]
  · rw [hdata]
    rcases hchecked with hc | hc | hc <;> rw [hc] <;> exact h.dropped hpoint [] rfl

/-- A read in the loop of `serve`. -/
theorem served_inv {o : Seen} (h : Inv o) (hpoint : o.server.point = .reading) (r : WaitResult) :
    Inv (o.after (o.server.served r.checked).1 (Event.read r).data
      (o.server.served r.checked).2) := by
  rcases checked_cases r with ⟨data, rfl, hlength, hchecked⟩ | ⟨data, rfl, hrunt, hchecked⟩ |
    ⟨hdata, hchecked⟩
  · rw [hchecked]
    rcases handleMessage_cases o.server.counters hlength with ⟨hrefused, heq⟩ |
      ⟨haccepted, counters, heq⟩
    · simp only [Server.served, heq]
      exact h.served hpoint _ data [] (by rw [refused_callOf hrefused]; rfl) rfl nofun nofun
    · simp only [Server.served, heq]
      exact h.served hpoint _ data _ rfl rfl nofun (fun _ => haccepted)
  · rw [hchecked]
    exact h.served hpoint _ data [] (by rw [refused_callOf (.inl hrunt)]; rfl) rfl nofun nofun
  · rw [hdata]
    have hstay : o.server.point.Live ∧ o.server.point ≠ .shaking := by
      rw [hpoint]
      exact ⟨trivial, nofun⟩
    rcases hchecked with hc | hc | hc <;> rw [hc] <;>
      exact h.moved _ {} (by rw [hpoint]; rfl) (fun _ => hstay) nofun (fun hne => absurd rfl hne) rfl

/-- A write to a greeted client, however it ends. -/
theorem Inv.written {o : Seen} (h : Inv o) (hlive : o.server.point.Live)
    (hshaking : o.server.point ≠ .shaking) (hover : o.server.point.over = false) (m : Message)
    (r : Sent) (next : Server) (hnext : next.point.over = false) (hthere : next.point ≠ .shaking) :
    Inv (o.after (o.server.wrote m r next).1 [] (o.server.wrote m r next).2) := by
  refine h.moved _ _ ?_ (fun _ => ⟨hlive, hshaking⟩) ?_ (fun _ => h.live hlive hshaking) rfl
  · rw [hover, Server.wrote]
    split
    · exact hnext.symm
    · rfl
  · rw [Server.wrote]
    split
    · exact hthere
    · nofun

theorem flushed_point (s : Server) (first : Bool) :
    (s.flushed first).point.over = false ∧ (s.flushed first).point ≠ .shaking := by
  rw [Server.flushed]
  dsimp only
  split
  · cases first
    · exact ⟨rfl, nofun⟩
    · exact ⟨rfl, nofun⟩
  · exact ⟨rfl, nofun⟩

theorem step_inv (o : Seen) (e : Event) (o' : Seen) (h : Inv o) (hstep : watch o e = some o') :
    Inv o' := by
  unfold watch at hstep
  cases e with
  | connect ok =>
    simp only [step] at hstep
    by_cases hpoint : o.server.point = .waiting
    · cases ok with
      | true =>
        simp only [hpoint, if_true, Option.some.injEq] at hstep
        subst hstep
        exact ⟨rfl, fun _ => ⟨rfl, rfl⟩, fun _ hne => absurd rfl hne, fun _ => trivial,
          fun hne => absurd rfl hne, nofun⟩
      | false =>
        simp only [hpoint, if_true, Bool.false_eq_true, if_false, Option.some.injEq] at hstep
        subst hstep
        exact h.moved _ {} (by rw [hpoint]; rfl) nofun nofun (fun hne => absurd rfl hne) rfl
    · simp only [hpoint, if_false] at hstep
      cases hstep
  | read r =>
    simp only [step] at hstep
    by_cases hpoint : o.server.point = .shaking
    · simp only [hpoint, if_true, Option.some.injEq] at hstep
      subst hstep
      exact shaken_inv h hpoint r
    · by_cases hreading : o.server.point = .reading
      · simp only [hreading, reduceCtorEq, if_false, if_true, Option.some.injEq] at hstep
        subst hstep
        exact served_inv h hreading r
      · simp only [hpoint, hreading, if_false] at hstep
        cases hstep
  | reply r =>
    simp only [step] at hstep
    by_cases hpoint : o.server.point = .replying
    · simp only [hpoint, if_true, Option.some.injEq] at hstep
      subst hstep
      refine h.written ?_ ?_ ?_ PipeServer.reply r _ rfl nofun <;> rw [hpoint]
      · trivial
      · nofun
      · rfl
    · simp only [hpoint, if_false] at hstep
      cases hstep
  | collect bridge =>
    simp only [step] at hstep
    split at hstep
    · cases hstep
    · rename_i server out hcollect
      split at hcollect
      · rename_i first hpoint
        cases hcollect
        cases hstep
        obtain ⟨hover, hshaking⟩ := flushed_point { o.server with
          cursor := (bridge.collect o.server.cursor).1
          pending := (bridge.collect o.server.cursor).2 } first
        refine h.moved _ {} ?_ (fun _ => ?_) hshaking (fun hne => absurd rfl hne) rfl
        · rw [hover, hpoint]
          rfl
        · rw [hpoint]
          exact ⟨trivial, nofun⟩
      · cases hcollect
  | send r =>
    simp only [step] at hstep
    split at hstep
    · cases hstep
    · rename_i server out hsend
      split at hsend
      · rename_i first m rest hpoint hpending
        cases hsend
        cases hstep
        obtain ⟨hover, hshaking⟩ := flushed_point { o.server with
          pending := rest, counters := o.server.counters.sent m } first
        refine h.written ?_ ?_ ?_ (ofOutgoing m) r _ hover hshaking <;> rw [hpoint]
        · trivial
        · nofun
        · rfl
      · cases hsend
  | pop done =>
    simp only [step] at hstep
    by_cases hpoint : o.server.point = .popping
    · have hstay : o.server.point.Live ∧ o.server.point ≠ .shaking := by
        rw [hpoint]
        exact ⟨trivial, nofun⟩
      cases done with
      | none =>
        simp only [hpoint, if_true, Option.some.injEq] at hstep
        subst hstep
        exact h.moved _ {} (by rw [hpoint]; rfl) (fun _ => hstay) nofun
          (fun hne => absurd rfl hne) rfl
      | some done =>
        simp only [hpoint, if_true, Option.some.injEq] at hstep
        subst hstep
        exact h.moved _ {} (by rw [hpoint]; rfl) (fun _ => hstay) nofun
          (fun hne => absurd rfl hne) rfl
    · simp only [hpoint, if_false] at hstep
      cases hstep
  | answer r =>
    simp only [step] at hstep
    split at hstep
    · cases hstep
    · rename_i server out hanswer
      split at hanswer
      · rename_i done hpoint
        cases hanswer
        cases hstep
        refine h.written ?_ ?_ ?_ ⟨.frameDone, done⟩ r _ rfl nofun <;> rw [hpoint]
        · trivial
        · nofun
        · rfl
      · cases hanswer
  | disconnect =>
    simp only [step] at hstep
    split at hstep
    · cases hstep
    · rename_i server out hleave
      split at hleave
      · rename_i keep hpoint
        cases hleave
        cases hstep
        exact h.moved _ {} (by rw [hpoint]; rfl) nofun nofun (fun hne => absurd rfl hne) rfl
      · cases hleave
  | shimGone =>
    simp only [step] at hstep
    split at hstep
    · cases hstep
    · rename_i server out hgone
      split at hgone
      · rename_i keep hpoint
        cases hgone
        cases hstep
        -- The farewell, once for each client
        have hclients := h.met (by rw [hpoint]; rfl)
        have hcalls := h.calls
        rw [Seen.farewell, hpoint] at hcalls
        refine ⟨?_, nofun, nofun, nofun, ?_, fun hnone => absurd hnone hclients⟩
        · simp only [Seen.next, Seen.after, Seen.farewell, Point.over, Event.data, List.append_nil,
            hcalls]
          simp [hclients]
        · intro hne
          simp only [Seen.next, Seen.after, List.append_nil] at hne
          exact (h.wrote hne).append _
      · cases hgone
  | recheck shutdown =>
    simp only [step] at hstep
    split at hstep
    · cases hstep
    · rename_i server out hcheck
      split at hcheck
      · rename_i keep hpoint
        cases hcheck
        cases hstep
        refine h.moved _ {} ?_ ?_ ?_ (fun hne => absurd rfl hne) rfl <;>
          cases keep && !shutdown <;> simp [hpoint, Point.over, Point.Live]
      · cases hcheck

theorem init_inv : Inv {} :=
  ⟨rfl, nofun, nofun, nofun, fun hne => absurd rfl hne, fun _ => ⟨rfl, rfl⟩⟩

/-- An accepted message does not end the client that sent it. -/
theorem accepted_stays {o o' : Seen} (h : Inv o) {data : List UInt8}
    (hstep : watch o (.read (.message data)) = some o') (haccepted : Accepted o'.read) :
    o'.server.point.Live := by
  simp only [watch, step] at hstep
  by_cases hpoint : o.server.point = .shaking
  · simp only [hpoint, if_true, Option.some.injEq] at hstep
    subst hstep
    obtain ⟨hread, -⟩ := h.fresh hpoint
    simp only [Seen.next, Seen.after, hread, Event.data, List.nil_append, Accepted] at haccepted
    have hlength : ¬ data.length < 4 := by
      intro hrunt
      rw [helloOf_runt hrunt] at haccepted
      cases haccepted.1
    obtain ⟨pid, hpid⟩ := Option.isSome_iff_exists.mp haccepted.1
    simp only [WaitResult.checked, hlength, if_false, Seen.next, Seen.after, Server.shaken, shake_eq,
      hpid]
    trivial
  · by_cases hreading : o.server.point = .reading
    · simp only [hreading, reduceCtorEq, if_false, if_true, Option.some.injEq] at hstep
      subst hstep
      have hgreeted : Greeted o.read := by
        apply h.live
        · rw [hreading]
          trivial
        · rw [hreading]
          nofun
      have hnot : ¬ Refused data := ((accepted_append hgreeted data).mp haccepted).2
      have hlength : ¬ data.length < 4 := fun hrunt => hnot (.inl hrunt)
      simp only [WaitResult.checked, hlength, if_false, Seen.next, Seen.after, Server.served]
      rcases handleMessage_cases o.server.counters (Nat.not_lt.mp hlength) with ⟨hrefused, -⟩ |
        ⟨-, counters, heq⟩
      · exact absurd hrefused hnot
      · rw [heq]
        trivial
    · simp only [hpoint, hreading, if_false] at hstep
      cases hstep

/-- What the intake and the bridge were called for is what the contract says of the messages
read, and the goodbye when the client is gone; nothing was written before a good hello; and
of the messages, exactly the refused ones end the client. -/
theorem calls_gated (es : List Event) (o : Seen) (h : Runs.run watch {} es = some o) :
    o.calls = meaning o.read ++ o.farewell ∧ (o.wrote ≠ [] → Greeted o.read) ∧
      (o.server.point.Live → Accepted o.read) ∧
      ∀ data o', watch o (.read (.message data)) = some o' →
        (o'.server.point.Live ↔ Accepted o'.read) := by
  have hinv : Inv o := Runs.run_invariant step_inv es {} o init_inv h
  refine ⟨hinv.calls, hinv.wrote, hinv.accepted, ?_⟩
  intro data o' hstep
  have hinv' := step_inv o (.read (.message data)) o' hinv hstep
  exact ⟨hinv'.accepted, accepted_stays hinv hstep⟩

/-- A shim that says hello and sends a pulse. -/
def onePulse : List Event :=
  [.connect true, .read (.message (encode ⟨.shimHello, ⟨shimMagic, protocolVersion, 7⟩⟩)),
    .reply .sent, .collect (.make { eyeWidth := 1440, eyeHeight := 1600, refreshHz := 0 }),
    .send .sent, .collect (.make { eyeWidth := 1440, eyeHeight := 1600, refreshHz := 0 }),
    .pop none, .read (.message (encode ⟨.haptic, ⟨1, 0, 0, 0⟩⟩))]

theorem calls_gated_one_pulse : ∃ o, Runs.run watch {} onePulse = some o ∧
    o.calls = meaning o.read ++ o.farewell ∧
      (Runs.run watch {} onePulse).map Seen.calls =
        some [.setVrserverPid 7, .pushHaptic ⟨1, 0, 0, 0⟩] := by
  obtain ⟨o, ho⟩ : ∃ o, Runs.run watch {} onePulse = some o :=
    Option.isSome_iff_exists.mp (by decide)
  exact ⟨o, ho, (calls_gated onePulse o ho).1, by decide⟩

end WivrnNx.PipeServer
