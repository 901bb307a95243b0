import Mathlib.Data.Vector.Defs
import Mathlib.Tactic

/-!
# One session of the shim's pipe client

`IpcClient::handle_message` and `IpcClient::run_session` (shim/src/ipc_client.cpp).
A pipe message is a list of bytes, and a payload is the bytes that `memcpy` puts
into the packed struct. One pass of `run_session`'s loop takes what the world
answers: whether `running_` still holds, whether a KeepAlive was due and went
out, whether `flush_outgoing` succeeded, and what `pump_read` returned. The
callbacks are all set, as `driver_provider.cpp` sets them.
-/

namespace WivrnNx.IpcClient

/-- The bytes of a packed struct of size `n`. -/
abbrev Pod (n : ℕ) := List.Vector UInt8 n

/-- The size check and the `memcpy` after it. -/
def pod? (n : ℕ) (payload : List UInt8) : Option (Pod n) :=
  if h : payload.length = n then some ⟨payload, h⟩ else none

/-- `memcpy` into a little-endian `uint32_t`. -/
def uint32 : List UInt8 → ℕ
  | a :: b :: c :: d :: _ =>
    a.toNat + 2 ^ 8 * b.toNat + 2 ^ 16 * c.toNat + 2 ^ 24 * d.toNat
  | _ => 0

/-- `kHelperMagic`. -/
def helperMagic : ℕ := 0x48584E57

/-- `kProtocolVersion`. -/
def protocolVersion : ℕ := 3

/-- `ipc::MessageType`. -/
inductive MessageType where
  | shimHello
  | keepAlive
  | haptic
  | helperHello
  | hmdConfig
  | poseUpdate
  | deviceAdd
  | deviceRemove
  | inputUpdate
  | stagingConfig
  | frameReady
  | frameDone
deriving DecidableEq, Repr

/-- `static_cast<ipc::MessageType>`, `none` outside the enumeration. -/
def messageType : ℕ → Option MessageType
  | 1 => some .shimHello
  | 2 => some .keepAlive
  | 3 => some .haptic
  | 100 => some .helperHello
  | 101 => some .hmdConfig
  | 102 => some .poseUpdate
  | 103 => some .deviceAdd
  | 104 => some .deviceRemove
  | 105 => some .inputUpdate
  | 200 => some .stagingConfig
  | 201 => some .frameReady
  | 202 => some .frameDone
  | _ => none

/-- `IpcCallbacks`, without the `on_disconnect` of `thread_main`. -/
inductive Callback where
  | onConfig (config : Pod 104)
  | onPose (pose : Pod 120)
  | onDeviceAdd (add : Pod 4)
  | onDeviceRemove (remove : Pod 4)
  | onInput (input : Pod 36)
  | onFrameDone (done : Pod 16)
  | onSessionReady
deriving DecidableEq

/-- The locals of `run_session` and `connected_`. -/
structure Session where
  gotHelperHello : Bool := false
  gotConfig : Bool := false
  connected : Bool := false
  /-- `run_session` has returned. -/
  ended : Bool := false
  /-- The messages handed to `handle_message`. Ghost. -/
  received : List (List UInt8) := []
deriving DecidableEq

/-- `return false`. -/
def Session.hangUp (s : Session) : Session × List Callback := ({ s with ended := true }, [])

/-- The cases of `handle_message` that only count once the config is there. -/
def streamed (s : Session) (n : ℕ) (payload : List UInt8) (callback : Pod n → Callback) :
    Session × List Callback :=
  if s.gotConfig then
    match pod? n payload with
    | none => s.hangUp
    | some pod => (s, [callback pod])
  else (s, [])

/-- `case helper_hello`. -/
def helperHello (s : Session) (payload : List UInt8) : Session × List Callback :=
  match pod? 8 payload with
  | none => s.hangUp
  | some hello =>
    if uint32 hello.toList ≠ helperMagic then s.hangUp
    else if uint32 (hello.toList.drop 4) ≠ protocolVersion then s.hangUp
    else ({ s with gotHelperHello := true }, [])

/-- `case hmd_config`. -/
def hmdConfig (s : Session) (payload : List UInt8) : Session × List Callback :=
  if !s.gotHelperHello then s.hangUp
  else
    match pod? 104 payload with
    | none => s.hangUp
    | some config => ({ s with gotConfig := true }, [.onConfig config])

/-- `handle_message`; the session has ended where the source returns false. -/
def handleMessage (s : Session) (data : List UInt8) : Session × List Callback :=
  if data.length < 4 then s.hangUp
  else
    let payload := data.drop 4
    match messageType (uint32 data) with
    | some .helperHello => helperHello s payload
    | some .hmdConfig => hmdConfig s payload
    | some .poseUpdate => streamed s 120 payload .onPose
    | some .deviceAdd => streamed s 4 payload .onDeviceAdd
    | some .deviceRemove => streamed s 4 payload .onDeviceRemove
    | some .inputUpdate => streamed s 36 payload .onInput
    | some .frameDone => streamed s 16 payload .onFrameDone
    -- The shim's own types and unknown ones alike
    | _ => (s, [])

/-- `IpcClient::ReadResult`; a timeout knows whether the handshake took too long. -/
inductive ReadResult where
  | message (data : List UInt8)
  | timeout (tooLong : Bool)
  | stopped
  | error
  | interrupted
deriving DecidableEq, Repr

/-- After a message that `handle_message` took: `connected_` and `on_session_ready`. -/
def announce (handled : Session × List Callback) : Session × List Callback :=
  let s := handled.1
  if !s.ended && (s.gotConfig && !s.connected) then
    ({ s with connected := true }, handled.2 ++ [.onSessionReady])
  else handled

/-- The `switch` over `pump_read`. -/
def handleRead (s : Session) : ReadResult → Session × List Callback
  | .message data => announce (handleMessage { s with received := s.received ++ [data] } data)
  | .timeout tooLong => if !s.gotConfig && tooLong then s.hangUp else (s, [])
  | .interrupted => (s, [])
  | .stopped => s.hangUp
  | .error => s.hangUp

/-- What one pass of the loop meets. -/
structure Pass where
  running : Bool := true
  keepAliveDue : Bool := false
  keepAliveSent : Bool := true
  flushed : Bool := true
  read : ReadResult
deriving DecidableEq

/-- One pass of `run_session`'s loop. -/
def pass (s : Session) (p : Pass) : Session × List Callback :=
  if s.ended then (s, [])
  else if !p.running then s.hangUp
  else if s.gotHelperHello && p.keepAliveDue && !p.keepAliveSent then s.hangUp
  else if !p.flushed then s.hangUp
  else handleRead s p.read

/-- The session after some passes. -/
def after (s : Session) (ps : List Pass) : Session := ps.foldl (fun s p => (pass s p).1) s

/-- The callbacks that some passes run, in order. -/
def callbacks (s : Session) : List Pass → List Callback
  | [] => []
  | p :: ps => (pass s p).2 ++ callbacks (pass s p).1 ps

/-- `run_session` once the ShimHello is out: `connected_` is false, as `thread_main`
leaves it after every session. -/
def runSession (ps : List Pass) : Session := after {} ps

/-! ## What the contract calls a handshake -/

/-- The payload size of the helper's types. -/
def payloadSize : MessageType → Option ℕ
  | .helperHello => some 8
  | .hmdConfig => some 104
  | .poseUpdate => some 120
  | .deviceAdd => some 4
  | .deviceRemove => some 4
  | .inputUpdate => some 36
  | .frameDone => some 16
  | _ => none

def GoodHello (data : List UInt8) : Prop :=
  messageType (uint32 data) = some .helperHello ∧ data.length = 4 + 8 ∧
    uint32 (data.drop 4) = helperMagic ∧ uint32 (data.drop 8) = protocolVersion

def GoodConfig (data : List UInt8) : Prop :=
  messageType (uint32 data) = some .hmdConfig ∧ data.length = 4 + 104

/-- A hello and a config after it. -/
def Shaken (received : List (List UInt8)) : Prop :=
  ∃ hello config, GoodHello hello ∧ GoodConfig config ∧ [hello, config].Sublist received

/-- A message of one of the helper's types, with the wrong size. -/
def Missized (data : List UInt8) : Prop :=
  ∃ t n, messageType (uint32 data) = some t ∧ payloadSize t = some n ∧ data.length ≠ 4 + n

/-- A message that ends the session it comes in, after `received`. -/
def Refused (received : List (List UInt8)) (data : List UInt8) : Prop :=
  data.length < 4 ∨
  (messageType (uint32 data) = some .helperHello ∧ ¬ GoodHello data) ∨
  (messageType (uint32 data) = some .hmdConfig ∧
    ((∀ hello ∈ received, ¬ GoodHello hello) ∨ ¬ GoodConfig data)) ∨
  (Shaken received ∧ Missized data)

/-- A message of none of the helper's types. -/
def Unknown (data : List UInt8) : Prop :=
  4 ≤ data.length ∧ ∀ t, messageType (uint32 data) = some t → payloadSize t = none

/-- The type and the payload of the message that a callback answers. -/
def Callback.answers : Callback → Option (MessageType × List UInt8)
  | .onConfig config => some (.hmdConfig, config.toList)
  | .onPose pose => some (.poseUpdate, pose.toList)
  | .onDeviceAdd add => some (.deviceAdd, add.toList)
  | .onDeviceRemove remove => some (.deviceRemove, remove.toList)
  | .onInput input => some (.inputUpdate, input.toList)
  | .onFrameDone done => some (.frameDone, done.toList)
  | .onSessionReady => none

/-- The callback is the one for this message, with its payload. -/
def Callback.For (c : Callback) (data : List UInt8) : Prop :=
  ∃ t n, c.answers = some (t, data.drop 4) ∧ messageType (uint32 data) = some t ∧
    payloadSize t = some n ∧ data.length = 4 + n

/-! ## What a message does -/

/-- What a message does, with the guards under which it does it. -/
inductive Handled (s : Session) (data : List UInt8) : Session × List Callback → Prop where
  | runt (h : data.length < 4) : Handled s data s.hangUp
  | badHello (h : messageType (uint32 data) = some .helperHello) (hbad : ¬ GoodHello data) :
    Handled s data s.hangUp
  | hello (h : GoodHello data) : Handled s data ({ s with gotHelperHello := true }, [])
  | badConfig (h : messageType (uint32 data) = some .hmdConfig)
    (hbad : s.gotHelperHello = false ∨ ¬ GoodConfig data) : Handled s data s.hangUp
  | config (c : Callback) (hhello : s.gotHelperHello = true) (h : GoodConfig data)
    (hfor : c.For data) : Handled s data ({ s with gotConfig := true }, [c])
  | missized (hconfig : s.gotConfig = true) (h : Missized data) : Handled s data s.hangUp
  | called (c : Callback) (hconfig : s.gotConfig = true) (hfor : c.For data)
    (hother : messageType (uint32 data) ≠ some .hmdConfig)
    (hother' : messageType (uint32 data) ≠ some .helperHello) : Handled s data (s, [c])
  | early (hconfig : s.gotConfig = false) (hlength : 4 ≤ data.length) (t : MessageType)
    (h : messageType (uint32 data) = some t) (hother : t ≠ .hmdConfig ∧ t ≠ .helperHello) :
    Handled s data (s, [])
  | unknown (h : Unknown data) : Handled s data (s, [])

theorem pod?_some {n : ℕ} {payload : List UInt8} {pod : Pod n} (h : pod? n payload = some pod) :
    pod.toList = payload ∧ payload.length = n := by
  unfold pod? at h
  split at h
  · cases h
    exact ⟨rfl, ‹_›⟩
  · cases h

theorem pod?_none {n : ℕ} {payload : List UInt8} (h : pod? n payload = none) :
    payload.length ≠ n := by
  unfold pod? at h
  split at h
  · cases h
  · assumption

theorem streamed_handled {s : Session} {data : List UInt8} {t : MessageType} {n : ℕ}
    {callback : Pod n → Callback} (hlength : 4 ≤ data.length)
    (htype : messageType (uint32 data) = some t) (hsize : payloadSize t = some n)
    (hother : t ≠ .hmdConfig ∧ t ≠ .helperHello)
    (hanswers : ∀ pod, (callback pod).answers = some (t, pod.toList)) :
    Handled s data (streamed s n (data.drop 4) callback) := by
  unfold streamed
  split
  · rename_i hconfig
    cases hpod : pod? n (data.drop 4) with
    | none =>
      refine .missized hconfig ⟨t, n, htype, hsize, ?_⟩
      have hne := pod?_none hpod
      rw [List.length_drop] at hne
      omega
    | some pod =>
      obtain ⟨hbytes, hn⟩ := pod?_some hpod
      rw [List.length_drop] at hn
      refine .called (callback pod) hconfig ⟨t, n, ?_, htype, hsize, by omega⟩ ?_ ?_
      · rw [hanswers, hbytes]
      · rw [htype]
        exact fun h => hother.1 (Option.some.inj h)
      · rw [htype]
        exact fun h => hother.2 (Option.some.inj h)
  · rename_i hconfig
    exact .early (by simpa using hconfig) hlength t htype hother

theorem helperHello_handled {s : Session} {data : List UInt8} (hlength : 4 ≤ data.length)
    (htype : messageType (uint32 data) = some .helperHello) :
    Handled s data (helperHello s (data.drop 4)) := by
  unfold helperHello
  cases hpod : pod? 8 (data.drop 4) with
  | none =>
    refine .badHello htype fun hgood => pod?_none hpod ?_
    rw [List.length_drop, hgood.2.1]
  | some hello =>
    obtain ⟨hbytes, hn⟩ := pod?_some hpod
    rw [List.length_drop] at hn
    simp only [hbytes, List.drop_drop]
    split
    · rename_i hmagic
      exact .badHello htype fun hgood => hmagic hgood.2.2.1
    · rename_i hmagic
      split
      · rename_i hversion
        exact .badHello htype fun hgood => hversion hgood.2.2.2
      · rename_i hversion
        exact .hello ⟨htype, by omega, not_not.mp hmagic, not_not.mp hversion⟩

theorem hmdConfig_handled {s : Session} {data : List UInt8} (hlength : 4 ≤ data.length)
    (htype : messageType (uint32 data) = some .hmdConfig) :
    Handled s data (hmdConfig s (data.drop 4)) := by
  unfold hmdConfig
  split
  · rename_i hhello
    exact .badConfig htype (.inl (by simpa using hhello))
  · rename_i hhello
    cases hpod : pod? 104 (data.drop 4) with
    | none =>
      refine .badConfig htype (.inr fun hgood => pod?_none hpod ?_)
      rw [List.length_drop, hgood.2]
    | some config =>
      obtain ⟨hbytes, hn⟩ := pod?_some hpod
      rw [List.length_drop] at hn
      refine .config (.onConfig config) (by simpa using hhello) ⟨htype, by omega⟩
        ⟨.hmdConfig, 104, ?_, htype, rfl, by omega⟩
      rw [Callback.answers, hbytes]

theorem handleMessage_handled (s : Session) (data : List UInt8) :
    Handled s data (handleMessage s data) := by
  unfold handleMessage
  split
  · rename_i hrunt
    exact .runt hrunt
  · rename_i hlength
    rw [Nat.not_lt] at hlength
    dsimp only
    split
    · rename_i htype
      exact helperHello_handled hlength htype
    · rename_i htype
      exact hmdConfig_handled hlength htype
    · rename_i htype
      exact streamed_handled hlength htype rfl ⟨nofun, nofun⟩ fun _ => rfl
    · rename_i htype
      exact streamed_handled hlength htype rfl ⟨nofun, nofun⟩ fun _ => rfl
    · rename_i htype
      exact streamed_handled hlength htype rfl ⟨nofun, nofun⟩ fun _ => rfl
    · rename_i htype
      exact streamed_handled hlength htype rfl ⟨nofun, nofun⟩ fun _ => rfl
    · rename_i htype
      exact streamed_handled hlength htype rfl ⟨nofun, nofun⟩ fun _ => rfl
    · rename_i h1 h2 h3 h4 h5 h6 h7
      -- None of the seven cases
      refine .unknown ⟨hlength, ?_⟩
      intro t ht
      cases t <;> first | rfl | contradiction

/-! ## The two flags -/

variable {s : Session} {data : List UInt8} {r : Session × List Callback}

theorem GoodHello.not_missized (h : GoodHello data) : ¬ Missized data := by
  rintro ⟨t, n, htype, hsize, hne⟩
  rw [h.1, Option.some.injEq] at htype
  subst htype
  cases hsize
  exact hne h.2.1

theorem GoodConfig.not_missized (h : GoodConfig data) : ¬ Missized data := by
  rintro ⟨t, n, htype, hsize, hne⟩
  rw [h.1, Option.some.injEq] at htype
  subst htype
  cases hsize
  exact hne h.2

theorem GoodHello.not_config (h : GoodHello data) : ¬ GoodConfig data := by
  intro hconfig
  have htype := hconfig.1
  rw [h.1] at htype
  cases htype

/-- A message sets `got_helper_hello` exactly if it is a good hello, and `got_config`
exactly if it is a good config that found the hello. -/
theorem Handled.flags (h : Handled s data r) :
    (r.1.gotHelperHello = true ↔ s.gotHelperHello = true ∨ GoodHello data) ∧
      (r.1.gotConfig = true ↔
        s.gotConfig = true ∨ (s.gotHelperHello = true ∧ GoodConfig data)) := by
  cases h with
  | runt h =>
    -- Too short to be either
    have hhello : ¬ GoodHello data := fun hgood => by
      have := hgood.2.1
      omega
    have hconfig : ¬ GoodConfig data := fun hgood => by
      have := hgood.2
      omega
    simp [Session.hangUp, hhello, hconfig]
  | badHello h hbad =>
    have hconfig : ¬ GoodConfig data := fun hgood => by
      rw [hgood.1] at h
      cases h
    simp [Session.hangUp, hbad, hconfig]
  -- The hello is no config, so `got_config` stays
  | hello h => simp [h, h.not_config]
  | badConfig h hbad =>
    have hhello : ¬ GoodHello data := fun hgood => by
      rw [hgood.1] at h
      cases h
    have hconfig : ¬ (s.gotHelperHello = true ∧ GoodConfig data) := by
      rintro ⟨hgot, hgood⟩
      -- Either it came before the hello, or it is not well formed
      rcases hbad with hnot | hnot
      · rw [hgot] at hnot
        cases hnot
      · exact hnot hgood
    simp [Session.hangUp, hhello, hconfig]
  | config c hhello h =>
    have hnot : ¬ GoodHello data := fun hgood => hgood.not_config h
    simp [hhello, h]
  | missized hconfig h =>
    have hhello : ¬ GoodHello data := fun hgood => hgood.not_missized h
    simp [Session.hangUp, hconfig, hhello]
  | called c hconfig hfor hother hother' =>
    have hhello : ¬ GoodHello data := fun hgood => hother' hgood.1
    simp [hconfig, hhello]
  | early hconfig hlength t h hother =>
    have hhello : ¬ GoodHello data := fun hgood => by
      rw [hgood.1, Option.some.injEq] at h
      exact hother.2 h.symm
    have hgood : ¬ GoodConfig data := fun hgood => by
      rw [hgood.1, Option.some.injEq] at h
      exact hother.1 h.symm
    simp [hhello, hgood]
  | unknown h =>
    have hhello : ¬ GoodHello data := fun hgood => by
      have := h.2 _ hgood.1
      cases this
    have hgood : ¬ GoodConfig data := fun hgood => by
      have := h.2 _ hgood.1
      cases this
    simp [hhello, hgood]

/-- `connected_` and what was received are not `handle_message`'s to change. -/
theorem Handled.keeps (h : Handled s data r) :
    r.1.connected = s.connected ∧ r.1.received = s.received := by
  cases h <;> exact ⟨rfl, rfl⟩

/-- A refused message gets no callback. -/
theorem Handled.refused (h : Handled s data r) (hended : s.ended = false)
    (hr : r.1.ended = true) : r = s.hangUp := by
  cases h <;> first | rfl | (rw [hended] at hr; cases hr)

/-- The handshake as the session's flags have it. -/
structure Gated (s : Session) : Prop where
  hello : s.gotHelperHello = true ↔ ∃ hello ∈ s.received, GoodHello hello
  config : s.gotConfig = true ↔ Shaken s.received
  connected : s.connected = s.gotConfig

theorem shaken_append (received : List (List UInt8)) (data : List UInt8) :
    Shaken (received ++ [data]) ↔
      Shaken received ∨ ((∃ hello ∈ received, GoodHello hello) ∧ GoodConfig data) := by
  constructor
  · rintro ⟨hello, config, hhello, hconfig, hsub⟩
    obtain ⟨l₁, l₂, heq, h₁, h₂⟩ := List.sublist_append_iff.mp hsub
    -- The last message is the config, the hello or neither
    rcases List.sublist_singleton.mp h₂ with rfl | rfl
    · rw [List.append_nil] at heq
      subst heq
      exact .inl ⟨hello, config, hhello, hconfig, h₁⟩
    · have hcut : [hello] ++ [config] = l₁ ++ [data] := heq
      obtain ⟨rfl, hdata⟩ := List.append_inj' hcut rfl
      cases hdata
      exact .inr ⟨⟨hello, List.singleton_sublist.mp h₁, hhello⟩, hconfig⟩
  · rintro (⟨hello, config, hhello, hconfig, hsub⟩ | ⟨⟨hello, hmem, hhello⟩, hconfig⟩)
    · exact ⟨hello, config, hhello, hconfig, hsub.trans (List.sublist_append_left _ _)⟩
    · exact ⟨hello, data, hhello, hconfig,
        (List.singleton_sublist.mpr hmem).append (List.Sublist.refl [data])⟩

theorem announce_flags (r : Session × List Callback) :
    (announce r).1.gotHelperHello = r.1.gotHelperHello ∧
      (announce r).1.gotConfig = r.1.gotConfig ∧ (announce r).1.received = r.1.received ∧
      (announce r).1.ended = r.1.ended := by
  unfold announce
  dsimp only
  split <;> exact ⟨rfl, rfl, rfl, rfl⟩

/-- The message as `handle_message` finds it noted. -/
def Session.note (s : Session) (data : List UInt8) : Session :=
  { s with received := s.received ++ [data] }

theorem message_gated {s : Session} (data : List UInt8) (h : Gated s) (hended : s.ended = false) :
    Gated (handleRead s (.message data)).1 := by
  have hstep := handleMessage_handled (s.note data) data
  obtain ⟨hhello, hconfig⟩ := hstep.flags
  obtain ⟨hconnected, hreceived⟩ := hstep.keeps
  have hann := announce_flags (handleMessage (s.note data) data)
  change Gated (announce (handleMessage (s.note data) data)).1
  refine ⟨?_, ?_, ?_⟩
  · rw [hann.1, hann.2.2.1, hhello, hreceived]
    change s.gotHelperHello = true ∨ _ ↔ ∃ hello ∈ s.received ++ [data], GoodHello hello
    rw [h.hello]
    simp only [List.mem_append, List.mem_singleton]
    constructor
    · rintro (⟨hello, hmem, hgood⟩ | hgood)
      · exact ⟨hello, .inl hmem, hgood⟩
      · exact ⟨data, .inr rfl, hgood⟩
    · rintro ⟨hello, hmem | rfl, hgood⟩
      · exact .inl ⟨hello, hmem, hgood⟩
      · exact .inr hgood
  · rw [hann.2.1, hann.2.2.1, hconfig, hreceived]
    change s.gotConfig = true ∨ (s.gotHelperHello = true ∧ _) ↔ Shaken (s.received ++ [data])
    rw [shaken_append, h.config, h.hello]
  · rw [hann.2.1]
    unfold announce
    dsimp only
    split
    · rename_i hnew
      simp only [Bool.and_eq_true] at hnew
      exact hnew.2.1.symm
    · -- A message that ended the session left `got_config` as it was
      rename_i hold
      rw [hconnected]
      change s.connected = _
      cases hr : (handleMessage (s.note data) data).1.ended with
      | true =>
        rw [hstep.refused hended hr]
        exact h.connected
      | false =>
        rw [hr] at hold
        simp only [Bool.not_false, Bool.true_and, Bool.and_eq_true, Bool.not_eq_true'] at hold
        have hmono : s.gotConfig = true → (handleMessage (s.note data) data).1.gotConfig = true :=
          fun hc => hconfig.mpr (.inl hc)
        rw [hconnected] at hold
        change ¬ (_ ∧ s.connected = false) at hold
        rw [h.connected] at hold ⊢
        cases hc : s.gotConfig with
        | true => rw [hmono hc]
        | false =>
          rw [hc] at hold
          simpa using hold

/-! ## The passes of a session -/

/-- The pass gets as far as `pump_read`. -/
def Pass.Reads (p : Pass) (s : Session) : Prop :=
  s.ended = false ∧ p.running = true ∧
    (s.gotHelperHello && p.keepAliveDue && !p.keepAliveSent) = false ∧ p.flushed = true

theorem Pass.Reads.pass_eq {p : Pass} {s : Session} (h : p.Reads s) :
    pass s p = handleRead s p.read := by
  obtain ⟨hended, hrunning, hkept, hflushed⟩ := h
  simp [pass, hended, hrunning, hkept, hflushed]

/-- A pass reads, or runs no callback and leaves the handshake as it is. -/
theorem pass_cases (s : Session) (p : Pass) :
    (s.ended = true ∧ pass s p = (s, [])) ∨ pass s p = s.hangUp ∨ p.Reads s := by
  cases hended : s.ended with
  | true => exact .inl ⟨rfl, by simp [pass, hended]⟩
  | false =>
    by_cases hrunning : p.running = true
    · by_cases hkept : (s.gotHelperHello && p.keepAliveDue && !p.keepAliveSent) = true
      · exact .inr (.inl (by simp [pass, hended, hrunning, hkept]))
      · by_cases hflushed : p.flushed = true
        · exact .inr (.inr ⟨hended, hrunning, by simpa using hkept, hflushed⟩)
        · exact .inr (.inl (by simp [pass, hended, hflushed]))
    · exact .inr (.inl (by simp [pass, hended, hrunning]))

/-- A read that is no message, or one. -/
theorem handleRead_cases (s : Session) (read : ReadResult) :
    (∃ data, read = .message data) ∨ handleRead s read = (s, []) ∨
      handleRead s read = s.hangUp := by
  cases read with
  | message data => exact .inl ⟨data, rfl⟩
  | timeout tooLong =>
    simp only [handleRead]
    split
    · exact .inr (.inr rfl)
    · exact .inr (.inl rfl)
  | stopped => exact .inr (.inr rfl)
  | error => exact .inr (.inr rfl)
  | interrupted => exact .inr (.inl rfl)

theorem Gated.hangUp {s : Session} (h : Gated s) : Gated s.hangUp.1 :=
  ⟨h.hello, h.config, h.connected⟩

theorem pass_gated {s : Session} (p : Pass) (h : Gated s) : Gated (pass s p).1 := by
  rcases pass_cases s p with ⟨-, hp⟩ | hp | hreads
  · rw [hp]
    exact h
  · rw [hp]
    exact h.hangUp
  · rw [hreads.pass_eq]
    rcases handleRead_cases s p.read with ⟨data, hdata⟩ | hread | hread
    · rw [hdata]
      exact message_gated data h hreads.1
    · rw [hread]
      exact h
    · rw [hread]
      exact h.hangUp

theorem init_gated : Gated {} := by
  refine ⟨by simp, ?_, rfl⟩
  constructor
  · intro h
    cases h
  · rintro ⟨hello, config, -, -, hsub⟩
    cases hsub

theorem after_gated (ps : List Pass) {s : Session} (h : Gated s) : Gated (after s ps) := by
  induction ps generalizing s with
  | nil => exact h
  | cons p ps ih => exact ih (pass_gated p h)

theorem runSession_gated (ps : List Pass) : Gated (runSession ps) := after_gated ps init_gated

/-! ## Callbacks -/

/-- What a callback has to wait for. -/
def Callback.Allowed (received : List (List UInt8)) : Callback → Prop
  | .onConfig _ => ∃ hello ∈ received, GoodHello hello
  | _ => Shaken received

theorem Callback.For.not_ready {c : Callback} {data : List UInt8} (h : c.For data) :
    c ≠ .onSessionReady := by
  rintro rfl
  obtain ⟨t, n, hanswers, -⟩ := h
  cases hanswers

theorem Handled.calls {s : Session} {data : List UInt8} {r : Session × List Callback}
    (h : Handled (s.note data) data r) (hgated : Gated s) :
    ∀ c ∈ r.2, c.For data ∧ c.Allowed s.received := by
  intro c hc
  cases h with
  | config c' hhello hgood hfor =>
    rw [List.mem_singleton] at hc
    subst hc
    have hallowed := hgated.hello.mp hhello
    refine ⟨hfor, ?_⟩
    obtain ⟨t, n, hanswers, htype, -⟩ := hfor
    rw [hgood.1, Option.some.injEq] at htype
    subst htype
    cases c <;> simp_all [Callback.answers, Callback.Allowed]
  | called c' hconfig hfor hother hother' =>
    rw [List.mem_singleton] at hc
    subst hc
    have hallowed := hgated.config.mp hconfig
    refine ⟨hfor, ?_⟩
    obtain ⟨t, n, hanswers, htype, -⟩ := hfor
    cases c with
    | onConfig config =>
      have ht : t = .hmdConfig := (congrArg Prod.fst (Option.some.inj hanswers)).symm
      exact absurd (ht ▸ htype) hother
    | _ => exact hallowed
  | _ => cases hc

theorem pass_calls {s : Session} (p : Pass) (h : Gated s) :
    ∀ c ∈ (pass s p).2, c ≠ .onSessionReady →
      ∃ data, p.read = .message data ∧ c.For data ∧ c.Allowed s.received := by
  intro c hc hready
  rcases pass_cases s p with ⟨-, hp⟩ | hp | hreads
  · rw [hp] at hc
    cases hc
  · rw [hp] at hc
    cases hc
  · rw [hreads.pass_eq] at hc
    rcases handleRead_cases s p.read with ⟨data, hdata⟩ | hread | hread
    · rw [hdata] at hc
      change c ∈ (announce (handleMessage (s.note data) data)).2 at hc
      have hmem : c ∈ (handleMessage (s.note data) data).2 := by
        unfold announce at hc
        dsimp only at hc
        split at hc
        · rcases List.mem_append.mp hc with hmem | hlast
          · exact hmem
          · exact absurd (List.mem_singleton.mp hlast) hready
        · exact hc
      obtain ⟨hfor, hallowed⟩ := (handleMessage_handled _ data).calls h c hmem
      exact ⟨data, hdata, hfor, hallowed⟩
    · rw [hread] at hc
      cases hc
    · rw [hread] at hc
      cases hc

/-- `on_session_ready` runs in the pass in which `connected_` becomes true, once. -/
theorem pass_ready (s : Session) (p : Pass) (h : Gated s) :
    (s.connected = true → (pass s p).1.connected = true) ∧
      (pass s p).2.count .onSessionReady =
        (if (pass s p).1.connected then 1 else 0) - (if s.connected then 1 else 0) := by
  rcases pass_cases s p with ⟨-, hp⟩ | hp | hreads
  · -- The session is over already
    simp [hp]
  · simp [hp, Session.hangUp]
  · rw [hreads.pass_eq]
    rcases handleRead_cases s p.read with ⟨data, hdata⟩ | hread | hread
    · rw [hdata]
      have hstep := handleMessage_handled (s.note data) data
      have hconnected : (handleMessage (s.note data) data).1.connected = s.connected :=
        hstep.keeps.1
      -- Only `announce` calls `on_session_ready`, never `handle_message`
      have hnone : (handleMessage (s.note data) data).2.count .onSessionReady = 0 := by
        rw [List.count_eq_zero]
        intro hmem
        exact (hstep.calls h _ hmem).1.not_ready rfl
      change (_ → (announce (handleMessage (s.note data) data)).1.connected = true) ∧
        (announce (handleMessage (s.note data) data)).2.count .onSessionReady =
          (if (announce (handleMessage (s.note data) data)).1.connected then 1 else 0) - _
      unfold announce
      dsimp only
      -- It is announced once: `connected_` is false before and true behind
      split
      · rename_i hnew
        simp only [Bool.and_eq_true, Bool.not_eq_true', hconnected] at hnew
        simp [List.count_append, hnone, hnew.2.2]
      · simp [hnone, hconnected]
    · simp [hread]
    · simp [hread, Session.hangUp]

theorem callbacks_ready (ps : List Pass) (s : Session) (h : Gated s) :
    (s.connected = true → (after s ps).connected = true) ∧
    (callbacks s ps).count .onSessionReady =
      (if (after s ps).connected then 1 else 0) - (if s.connected then 1 else 0) := by
  induction ps generalizing s with
  | nil =>
    refine ⟨id, ?_⟩
    change 0 = (if s.connected then 1 else 0) - _
    omega
  | cons p ps ih =>
    obtain ⟨hmono, hcount⟩ := ih (pass s p).1 (pass_gated p h)
    obtain ⟨hstep, hready⟩ := pass_ready s p h
    rw [callbacks, List.count_append, hcount, hready]
    change (_ → (after (pass s p).1 ps).connected = true) ∧
      _ = (if (after (pass s p).1 ps).connected then 1 else 0) - _
    refine ⟨fun hs => hmono (hstep hs), ?_⟩
    cases hs : s.connected <;> cases hp : (pass s p).1.connected <;> simp_all

theorem pass_ended {s : Session} (h : s.ended = true) (p : Pass) : pass s p = (s, []) := by
  simp [pass, h]

/-- A session that has ended runs no callback any more. -/
theorem callbacks_ended {s : Session} (h : s.ended = true) (ps : List Pass) :
    callbacks s ps = [] := by
  induction ps with
  | nil => rfl
  | cons p ps ih => rw [callbacks, pass_ended h, ih, List.nil_append]

theorem Callback.For.not_missized {c : Callback} {data : List UInt8} (h : c.For data) :
    ¬ Missized data := by
  rintro ⟨t', n', htype', hsize', hne⟩
  obtain ⟨t, n, -, htype, hsize, hlength⟩ := h
  rw [htype, Option.some.injEq] at htype'
  subst htype'
  rw [hsize, Option.some.injEq] at hsize'
  omega

theorem Unknown.not_missized {data : List UInt8} (h : Unknown data) : ¬ Missized data := by
  rintro ⟨t, n, htype, hsize, -⟩
  rw [h.2 t htype] at hsize
  cases hsize

/-- What ends the session, by what the session's flags say. -/
theorem Gated.refused {s : Session} {data : List UInt8} (h : Gated s)
    (hrefused : Refused s.received data) :
    data.length < 4 ∨
      (messageType (uint32 data) = some .helperHello ∧ ¬ GoodHello data) ∨
      (messageType (uint32 data) = some .hmdConfig ∧
        (s.gotHelperHello = false ∨ ¬ GoodConfig data)) ∨
      (s.gotConfig = true ∧ Missized data) := by
  rcases hrefused with hrunt | hhello | ⟨htype, hnone | hbad⟩ | ⟨hshaken, hsize⟩
  · exact .inl hrunt
  · exact .inr (.inl hhello)
  · refine .inr (.inr (.inl ⟨htype, .inl ?_⟩))
    rw [← Bool.not_eq_true, h.hello]
    rintro ⟨hello, hmem, hgood⟩
    exact hnone hello hmem hgood
  · exact .inr (.inr (.inl ⟨htype, .inr hbad⟩))
  · exact .inr (.inr (.inr ⟨h.config.mpr hshaken, hsize⟩))

theorem handleMessage_refused {s : Session} {data : List UInt8} (h : Gated s)
    (hrefused : Refused s.received data) :
    handleMessage (s.note data) data = (s.note data).hangUp := by
  have hstep := handleMessage_handled (s.note data) data
  have hwhy := h.refused hrefused
  generalize handleMessage (s.note data) data = r at hstep
  -- A message that is handled otherwise has nothing wrong with it
  cases hstep with
  | runt | badHello | badConfig | missized => rfl
  | hello hgood =>
    rcases hwhy with hrunt | ⟨-, hbad⟩ | ⟨htype, -⟩ | ⟨-, hsize⟩
    · have := hgood.2.1
      omega
    · exact absurd hgood hbad
    · rw [hgood.1] at htype
      cases htype
    · exact absurd hsize hgood.not_missized
  | config c hhello hgood hfor =>
    rcases hwhy with hrunt | ⟨htype, -⟩ | ⟨-, hnone | hbad⟩ | ⟨-, hsize⟩
    · have := hgood.2
      omega
    · rw [hgood.1] at htype
      cases htype
    · change s.gotHelperHello = true at hhello
      rw [hnone] at hhello
      cases hhello
    · exact absurd hgood hbad
    · exact absurd hsize hgood.not_missized
  | called c hconfig hfor hother hother' =>
    rcases hwhy with hrunt | ⟨htype, -⟩ | ⟨htype, -⟩ | ⟨-, hsize⟩
    · obtain ⟨t, n, -, -, -, hlength⟩ := hfor
      omega
    · exact absurd htype hother'
    · exact absurd htype hother
    · exact absurd hsize hfor.not_missized
  | early hconfig hlength t ht hother =>
    rcases hwhy with hrunt | ⟨htype, -⟩ | ⟨htype, -⟩ | ⟨hgot, -⟩
    · omega
    · exact absurd (Option.some.inj (ht.symm.trans htype)) hother.2
    · exact absurd (Option.some.inj (ht.symm.trans htype)) hother.1
    · change s.gotConfig = false at hconfig
      rw [hgot] at hconfig
      cases hconfig
  | unknown hunknown =>
    rcases hwhy with hrunt | ⟨htype, -⟩ | ⟨htype, -⟩ | ⟨-, hsize⟩
    · have := hunknown.1
      omega
    · cases hunknown.2 _ htype
    · cases hunknown.2 _ htype
    · exact absurd hsize hunknown.not_missized

theorem handleMessage_unknown {s : Session} {data : List UInt8} (hunknown : Unknown data) :
    handleMessage s data = (s, []) := by
  have hstep := handleMessage_handled s data
  generalize handleMessage s data = r at hstep
  cases hstep with
  | runt hrunt =>
    have := hunknown.1
    omega
  | badHello htype => cases hunknown.2 _ htype
  | badConfig htype => cases hunknown.2 _ htype
  | hello hgood => cases hunknown.2 _ hgood.1
  | config c hhello hgood => cases hunknown.2 _ hgood.1
  | missized hconfig hsize => exact absurd hsize hunknown.not_missized
  | called c hconfig hfor =>
    obtain ⟨t, n, -, htype, hsize, -⟩ := hfor
    rw [hunknown.2 t htype] at hsize
    cases hsize
  | early | unknown => rfl

/-- A session runs no callback before its handshake, becomes connected and says so once with
it, ends at the first refused message, and does not notice unknown ones. -/
theorem session_gated (ps : List Pass) (p : Pass) :
    let s := runSession ps
    (∀ c ∈ (pass s p).2, c ≠ .onSessionReady →
      ∃ data, p.read = .message data ∧ c.For data ∧ c.Allowed s.received) ∧
    (s.connected = true ↔ Shaken s.received) ∧
    (.onSessionReady ∈ (pass s p).2 ↔ s.connected = false ∧ (pass s p).1.connected = true) ∧
    (callbacks {} ps).count .onSessionReady = (if s.connected then 1 else 0) ∧
    (∀ data, p.Reads s → p.read = .message data → Refused s.received data →
      (pass s p).2 = [] ∧ (pass s p).1.ended = true ∧
        ∀ later, callbacks (pass s p).1 later = []) ∧
    (∀ data, p.Reads s → p.read = .message data → Unknown data →
      pass s p = (s.note data, [])) := by
  intro s
  have hgated : Gated s := runSession_gated ps
  refine ⟨pass_calls p hgated, ?_, ?_, ?_, ?_, ?_⟩
  · rw [hgated.connected]
    exact hgated.config
  · -- `on_session_ready` is counted, and `connected_` only ever set
    obtain ⟨hmono, hcount⟩ := pass_ready s p hgated
    rw [← List.count_pos_iff, hcount]
    cases hs : s.connected with
    | true => simp [hmono hs]
    | false => cases hp : (pass s p).1.connected <;> simp
  · exact (callbacks_ready ps {} init_gated).2
  · -- A refused message hangs up, and nothing is called after that
    intro data hreads hdata hrefused
    have hend : pass s p = (s.note data).hangUp := by
      rw [hreads.pass_eq, hdata]
      change announce (handleMessage (s.note data) data) = _
      rw [handleMessage_refused hgated hrefused]
      rfl
    rw [hend]
    exact ⟨rfl, rfl, callbacks_ended rfl⟩
  · -- An unknown message is only noted
    intro data hreads hdata hunknown
    rw [hreads.pass_eq, hdata]
    change announce (handleMessage (s.note data) data) = _
    rw [handleMessage_unknown hunknown]
    unfold announce
    change (if (!s.ended && (s.gotConfig && !s.connected)) = true then _ else _) = _
    rw [hgated.connected]
    simp

end WivrnNx.IpcClient
