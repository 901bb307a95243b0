import WivrnNx.Lib.KeyLock
import WivrnNx.Lib.Runs
import WivrnNx.Shim.FrameStaging
import WivrnNx.Shim.IpcClient
import WivrnNx.VideoIntake

/-!
# The staging path: two processes, one ring

The shim's Present thread and IPC thread (direct_mode.cpp, ipc_client.cpp), the
pipe, the helper's pipe loop and encoder thread (pipe_server.cpp,
video_intake.cpp), and the textures they share, within one vrserver process and
for any number of helper sessions.

- Each step is what one thread does between two looks at something another thread
  can touch: a lock section, an atomic, a keyed mutex, one end of the pipe.
- Taking a message from one end of the pipe and acting on it is one step, and so
  is taking one from the outgoing queue and writing it: nobody else sees the
  message in between.
- A keyed mutex is a key-passing lock; an acquire may also time out. A helper
  that dies while it holds one leaves it abandoned, that is, free.
- A handle value names a texture while it is open. Windows hands out any value
  that is not, so one that was closed can come back.
- What else may happen is left open: any step may fail, the session may ask the
  encoder for anything, and haptics come from any number of callers.
-/

namespace WivrnNx.Staging

open Ipc

/-- The two processes that acquire the keyed mutexes. -/
inductive Process where
  | shim | helper
deriving DecidableEq, Repr

/-- A keyed mutex. -/
abbrev KeyedMutex := KeyLock Process ℕ

/-- What a staging texture shows: for each half, the Present that drew it. -/
structure Picture where
  left : Option ℕ := none
  right : Option ℕ := none
deriving DecidableEq, Repr

/-- What `Present` was called with: the ring it needs, and the frame's labels. -/
structure Snapshot where
  width : UInt32 := 2880
  height : UInt32 := 1600
  format : ℕ := 28
  qpc : ℕ := 0
  pose : Pose := {}
  predictS : Flt := .val 0
deriving DecidableEq, Repr

/-- Where the Present thread is. -/
inductive PresentThread where
  | idle
  /-- A helper was connected. -/
  | checked (snap : Snapshot)
  /-- The ring does not match: it is about to be created. -/
  | building (snap : Snapshot)
  | created (snap : Snapshot)
  /-- The ring matches: `resend_config_` is looked at next. -/
  | matched (snap : Snapshot)
  /-- In `send_staging_config`, up to the push. -/
  | announcing (snap : Snapshot)
  | described (snap : Snapshot) (config : StagingConfig)
  | queueing (snap : Snapshot) (config : StagingConfig)
  /-- About to acquire a slot. -/
  | ready (snap : Snapshot)
  /-- Holds slot `index`, with `eyes` of the two copied. -/
  | leased (snap : Snapshot) (index eyes : ℕ)
  /-- The slot is the helper's, its `FrameReady` still in hand. -/
  | sent (frame : FrameReady)
  | pushing (frame : FrameReady)
  | refused (frame : FrameReady)
deriving DecidableEq, Repr

/-- The `FrameReady` in the Present thread's hand. -/
def PresentThread.frame? : PresentThread → Option FrameReady
  | .sent frame | .pushing frame | .refused frame => some frame
  | _ => none

/-- Where the shim's IPC thread is. -/
inductive IpcThread where
  | closed
  /-- In `run_session`'s loop. -/
  | session
  /-- The HmdConfig was handled; `connected_` is set next, then the callback. -/
  | configured
  | announced
  /-- `run_session` returned: the four steps of `thread_main` that follow. -/
  | ending
  | pipeClosed
  | disconnected
  | dropped
  | cleared
deriving DecidableEq, Repr

/-- Where the helper's pipe loop is. -/
inductive ServerThread where
  | waiting
  | handshake
  /-- In `flush_frame_done`. -/
  | flushing
  /-- In `wait_for_message`. -/
  | serving
  | ending
  /-- Disconnected; `on_shim_gone` is next. -/
  | gone
deriving DecidableEq, Repr

/-- The state of both processes. -/
structure System where
  /- The shim. -/
  ring : FrameStagingRing := {}
  ringAttempts : ℕ := 0
  resendConfig : Bool := false
  /-- `present_count_`. -/
  presents : ℕ := 0
  /-- `frame_id_`: the last one given out. -/
  frameId : ℕ := 0
  present : PresentThread := .idle
  connected : Bool := false
  pending : List ToHelper := []
  /-- Haptics whose caller has passed the `connected_` check. -/
  haptics : List Haptic := []
  ipc : IpcThread := .closed
  gotConfig : Bool := false
  /- The pipe. -/
  shimOpen : Bool := false
  serverOpen : Bool := false
  toHelper : List ToHelper := []
  toShim : List ToShim := []
  /- The helper. -/
  server : ServerThread := .waiting
  intake : VideoIntake := {}
  request : VideoRequest := {}
  /- Windows and the GPU. -/
  handles : Handle → Option SharedTexture := fun _ => none
  mutexes : TextureId → KeyedMutex := fun _ => .free 0
  contents : TextureId → Picture := fun _ => {}
  /-- The Present that drew a frame, by its id. -/
  drawnBy : ℕ → Option ℕ := fun _ => none

namespace System

/-- `kMaxRingAttempts`. -/
def maxRingAttempts : ℕ := 3

/-- `kStagingSlots`. -/
def stagingSlots : ℕ := 3

/-- The texture of slot `index` of the current ring. -/
def texture (s : System) (index : ℕ) : TextureId := ⟨s.ring.generation, index⟩

/-! ## The Present thread -/

/-- What the Present thread does next, with what it meets. -/
inductive PresentAction where
  | begin (snap : Snapshot)
  /-- No device, no eye textures, nothing that can be copied. -/
  | drop
  | look
  | create (d3d : ℕ → SlotCreate)
  | clearResend
  | exchangeResend
  | describe
  | checkConfig
  | pushConfig (alloc : Bool)
  | acquire (sync : ℕ → Bool)
  | copyEye
  | release
  | returnSlot
  | checkFrame
  | pushFrame (alloc : Bool)
  | markStale
  /-- The component shuts down: not while the device lock is held. -/
  | destroy

/-- Destroying a ring gives back what the shim still holds of it. -/
def destroyMutexes (s : System) : TextureId → KeyedMutex := fun t =>
  if t.generation = s.ring.generation ∧ (s.ring.slots t.index).leased ∧
      (s.ring.slots t.index).mutex then (s.mutexes t).release .shim 0
  else s.mutexes t

/-- Destroying a ring closes its handles. -/
def closeHandles (s : System) : Handle → Option SharedTexture := fun handle =>
  if (List.range FrameStagingRing.maxSlots).any fun i => (s.ring.slots i).handle = some handle then
    none
  else s.handles handle

/-- The handles of a new ring name its textures. -/
def openHandles (handles : Handle → Option SharedTexture) (ring : FrameStagingRing) :
    Handle → Option SharedTexture := fun handle =>
  match (List.range ring.count).find? fun i => (ring.slots i).handle = some handle with
  | none => handles handle
  | some i => some ⟨⟨ring.generation, i⟩, ⟨ring.width, ring.height, ring.format⟩⟩

/-- `create`, as `transport_frame_locked` calls it. Without a picture size it
refuses before it touches the ring there is. -/
def createRing (s : System) (snap : Snapshot) (d3d : ℕ → SlotCreate) : System :=
  if snap.width = 0 ∨ snap.height = 0 then
    { s with ringAttempts := s.ringAttempts + 1, present := .idle }
  else match s.ring.create true snap.width snap.height snap.format stagingSlots d3d with
  | (ring, false) =>
    { s with ring := ring, ringAttempts := s.ringAttempts + 1, mutexes := s.destroyMutexes
             handles := s.closeHandles, present := .idle }
  | (ring, true) =>
    { s with ring := ring, ringAttempts := 0, mutexes := s.destroyMutexes
             handles := openHandles s.closeHandles ring, present := .created snap }

/-- Whether the shim's `AcquireSync` comes through, with key 0 or with key 1. -/
def comes (s : System) (sync : ℕ → Bool) (i : ℕ) : Bool :=
  sync i && (((s.mutexes (s.texture i)).acquire .shim 0).isSome ||
    ((s.mutexes (s.texture i)).acquire .shim 1).isSome)

/-- `acquire_slot`. -/
def acquireSlot (s : System) (snap : Snapshot) (sync : ℕ → Bool) : System :=
  match s.ring.acquireSlot (s.comes sync) with
  | (_, none) => { s with present := .idle }
  | (ring, some index) =>
    { s with ring := ring, present := .leased snap index 0
             mutexes := Function.update s.mutexes (s.texture index) (.held .shim) }

/-- One `CopySubresourceRegion`: the left half first. -/
def drawEye (s : System) (index eyes : ℕ) : TextureId → Picture :=
  let picture := s.contents (s.texture index)
  Function.update s.contents (s.texture index)
    (if eyes = 0 then { picture with left := some s.presents }
     else { picture with right := some s.presents })

/-- The `FrameReady` of the slot that is released now. Only this thread changes
the ring's generation. -/
def readyFrame (s : System) (snap : Snapshot) (index : ℕ) : FrameReady :=
  { frameId := s.frameId + 1, sampleTimeQpc := snap.qpc, generation := s.ring.generation
    stagingIndex := index, pose := snap.pose, predictS := snap.predictS }

/-- The keyed mutex when the Present thread gives up a lease. -/
def unlockLease (s : System) (index key : ℕ) : TextureId → KeyedMutex :=
  if s.ring.leaseValid index then
    Function.update s.mutexes (s.texture index) ((s.mutexes (s.texture index)).release .shim key)
  else s.mutexes

/-- `release_to_helper`, with the frame id it takes. -/
def releaseSlot (s : System) (snap : Snapshot) (index : ℕ) : System :=
  { s with ring := s.ring.releaseToHelper index (s.frameId + 1), frameId := s.frameId + 1
           mutexes := s.unlockLease index 1
           drawnBy := Function.update s.drawnBy (s.frameId + 1) (some s.presents)
           present := .sent (s.readyFrame snap index) }

/-- One step of the Present thread. -/
def presentStep (s : System) : PresentAction → Option System
  | .begin snap =>
    match s.present with
    | .idle =>
      some { s with presents := s.presents + 1
                    present := if s.connected then .checked snap else .idle }
    | _ => none
  | .drop =>
    match s.present with
    | .checked _ => some { s with present := .idle }
    | _ => none
  | .look =>
    match s.present with
    | .checked snap =>
      if s.ring.matchesGeometry snap.width snap.height snap.format then
        some { s with present := .matched snap }
      else if maxRingAttempts ≤ s.ringAttempts then some { s with present := .idle }
      else some { s with present := .building snap }
    | _ => none
  | .create d3d =>
    match s.present with
    | .building snap => some (s.createRing snap d3d)
    | _ => none
  | .clearResend =>
    match s.present with
    | .created snap => some { s with resendConfig := false, present := .announcing snap }
    | _ => none
  | .exchangeResend =>
    match s.present with
    | .matched snap =>
      some { s with resendConfig := false
                    present := if s.resendConfig then .announcing snap else .ready snap }
    | _ => none
  | .describe =>
    match s.present with
    | .announcing snap =>
      match s.ring.describe with
      | none => some { s with present := .ready snap }
      | some config => some { s with present := .described snap config }
    | _ => none
  | .checkConfig =>
    match s.present with
    | .described snap config =>
      some { s with present := if s.connected then .queueing snap config else .ready snap }
    | _ => none
  | .pushConfig alloc =>
    match s.present with
    | .queueing snap config =>
      some { s with pending := (IpcClient.queueStagingConfig s.pending config alloc).1
                    present := .ready snap }
    | _ => none
  | .acquire sync =>
    match s.present with
    | .ready snap => some (s.acquireSlot snap sync)
    | _ => none
  | .copyEye =>
    match s.present with
    | .leased snap index eyes =>
      if eyes < 2 then
        some { s with contents := s.drawEye index eyes, present := .leased snap index (eyes + 1) }
      else none
    | _ => none
  | .release =>
    match s.present with
    | .leased snap index 2 => some (s.releaseSlot snap index)
    | _ => none
  | .returnSlot =>
    match s.present with
    | .leased _ index _ =>
      some { s with ring := s.ring.returnSlot index, mutexes := s.unlockLease index 0
                    present := .idle }
    | _ => none
  | .checkFrame =>
    match s.present with
    | .sent frame =>
      some { s with present := if s.connected then .pushing frame else .refused frame }
    | _ => none
  | .pushFrame alloc =>
    match s.present with
    | .pushing frame =>
      match IpcClient.queueFrameReady s.pending frame alloc with
      | (_, false) => some { s with present := .refused frame }
      | (pending, true) => some { s with pending := pending, present := .idle }
    | _ => none
  | .markStale =>
    match s.present with
    | .refused _ => some { s with ring := s.ring.markStale, present := .idle }
    | _ => none
  | .destroy =>
    match s.present with
    | .idle | .sent _ | .pushing _ | .refused _ =>
      some { s with ring := s.ring.destroyLocked, mutexes := s.destroyMutexes
                    handles := s.closeHandles }
    | _ => none

/-! ## The IPC thread and the haptics -/

/-- What the IPC thread does next. -/
inductive IpcAction where
  | openPipe
  /-- `ok` is whether the write went through. -/
  | flush (ok : Bool)
  | read
  | storeConnected
  | sessionReady
  /-- An error, a timeout or a message that ends the session. -/
  | fail
  | closePipe
  | clearConnected
  | dropPending
  | clearResend
  | markStale

/-- `handle_message`, for the two messages of the video path. -/
def handleToShim (s : System) : ToShim → System
  | .hmdConfig =>
    { s with gotConfig := true, ipc := if s.connected then .session else .configured }
  | .frameDone done =>
    -- Before the HmdConfig there is no session, so nothing to free
    if s.gotConfig then { s with ring := (s.ring.onFrameDone done).1 } else s

/-- One step of the IPC thread. -/
def ipcStep (s : System) : IpcAction → Option System
  | .openPipe =>
    match s.ipc, s.server with
    | .closed, .waiting =>
      some { s with ipc := .session, gotConfig := false, shimOpen := true, serverOpen := true
                    server := .handshake, toHelper := [.shimHello], toShim := [] }
    | _, _ => none
  | .flush ok =>
    match s.ipc, s.pending with
    | .session, message :: rest =>
      if s.serverOpen ∧ ok then some { s with pending := rest, toHelper := s.toHelper ++ [message] }
      -- The message is lost with the session
      else some { s with pending := rest, ipc := .ending }
    | _, _ => none
  | .read =>
    match s.ipc, s.toShim with
    | .session, message :: rest => some ({ s with toShim := rest }.handleToShim message)
    | _, _ => none
  | .storeConnected =>
    match s.ipc with
    | .configured => some { s with connected := true, ipc := .announced }
    | _ => none
  | .sessionReady =>
    match s.ipc with
    | .announced => some { s with resendConfig := true, ipc := .session }
    | _ => none
  | .fail =>
    match s.ipc with
    | .session => some { s with ipc := .ending }
    | _ => none
  | .closePipe =>
    match s.ipc with
    | .ending => some { s with shimOpen := false, toShim := [], ipc := .pipeClosed }
    | _ => none
  | .clearConnected =>
    match s.ipc with
    | .pipeClosed => some { s with connected := false, ipc := .disconnected }
    | _ => none
  | .dropPending =>
    match s.ipc with
    | .disconnected => some { s with pending := [], ipc := .dropped }
    | _ => none
  | .clearResend =>
    match s.ipc with
    | .dropped => some { s with resendConfig := false, ipc := .cleared }
    | _ => none
  | .markStale =>
    match s.ipc with
    | .cleared => some { s with ring := s.ring.markStale, ipc := .closed }
    | _ => none

/-- A caller of `queue_haptic`: the check, then the push. -/
inductive HapticAction where
  | check (haptic : Haptic)
  | push (alloc : Bool)

def hapticStep (s : System) : HapticAction → Option System
  | .check haptic =>
    some (if s.connected then { s with haptics := s.haptics ++ [haptic] } else s)
  | .push alloc =>
    match s.haptics with
    | [] => none
    | haptic :: rest =>
      some { s with haptics := rest
                    pending := (IpcClient.queueHaptic s.pending haptic alloc).1 }

/-! ## The helper -/

/-- What the helper's pipe loop does next. -/
inductive ServerAction where
  | handshake
  /-- `ok` is whether the write went through. -/
  | flush (ok : Bool)
  | receive
  | timeout
  | fail
  | disconnect
  | shimGone

/-- `handle_message`. -/
def handleToHelper (s : System) : ToHelper → System
  -- An unexpected second hello drops the client
  | .shimHello => { s with server := .ending }
  | .haptic _ => { s with server := .flushing }
  | .stagingConfig config =>
    { s with intake := s.intake.onStagingConfig config, server := .flushing }
  | .frameReady frame =>
    { s with intake := s.intake.onFrameReady s.request.active frame, server := .flushing }

/-- One step of the helper's pipe loop. -/
def serverStep (s : System) : ServerAction → Option System
  | .handshake =>
    match s.server, s.toHelper with
    | .handshake, .shimHello :: rest =>
      if s.shimOpen then
        some { s with toHelper := rest, toShim := s.toShim ++ [.hmdConfig], server := .flushing }
      else some { s with toHelper := rest, server := .ending }
    | _, _ => none
  | .flush ok =>
    match s.server with
    | .flushing =>
      match s.intake.popDone with
      | none => some { s with server := .serving }
      | some (done, intake) =>
        if s.shimOpen ∧ ok then
          some { s with intake := intake, toShim := s.toShim ++ [.frameDone done] }
        -- The answer is lost with the session
        else some { s with intake := intake, server := .ending }
    | _ => none
  | .receive =>
    match s.server, s.toHelper with
    | .serving, message :: rest => some ({ s with toHelper := rest }.handleToHelper message)
    | _, _ => none
  | .timeout =>
    match s.server with
    | .serving => some { s with server := .flushing }
    | _ => none
  | .fail =>
    match s.server with
    | .handshake | .flushing | .serving => some { s with server := .ending }
    | _ => none
  | .disconnect =>
    match s.server with
    | .ending =>
      some { s with serverOpen := false, toHelper := [], toShim := [], server := .gone }
    | _ => none
  | .shimGone =>
    match s.server with
    | .gone => some { s with intake := s.intake.onShimGone, server := .waiting }
    | _ => none

/-- The textures whose keyed mutex the helper's stage holds. -/
def heldTextures (i : VideoIntake) : List TextureId :=
  (List.range i.encoder.stage.held.length).filterMap fun k =>
    if i.encoder.stage.held[k]? = some true then i.textures[k]? else none

/-- The keyed mutexes when the stage's `held` flags change: `AcquireSync(1)` for
what is held now, `ReleaseSync(0)` for what no longer is. -/
def moveMutexes (mutexes : TextureId → KeyedMutex) (before after : List TextureId) :
    TextureId → KeyedMutex := fun t =>
  if t ∈ after then if t ∈ before then mutexes t else .held .helper
  else if t ∈ before then (mutexes t).release .helper 0
  else mutexes t

/-- The texture that `encode` is about to acquire. -/
def target (i : VideoIntake) : Option TextureId :=
  match i.thread with
  | .encoding frame _ => i.textures[frame.stagingIndex]?
  | _ => none

/-- `AcquireSync(1)` on the texture `encode` wants can come through. -/
def targetFree (s : System) : Bool :=
  match target s.intake with
  | none => false
  | some t => ((s.mutexes t).acquire .helper 1).isSome

/-- What the handle that `open_ring` duplicates next names at this moment. -/
def lookup (s : System) : Option SharedTexture :=
  match s.intake.thread with
  | .opening _ config _ found => (config.handles[found.length]?).bind s.handles
  | _ => none

/-- The encoder thread meets what is there: the request, what the handle names
(or a refusal), the keyed mutex (or a timeout). -/
def meets (s : System) : VideoIntake.EncoderAction → Bool
  | .readRequest request => request = s.request
  | .openSlot shared => shared = none ∨ shared = s.lookup
  | .acquire sync => sync = true → s.targetFree = true
  | _ => true

/-- One step of the encoder thread. -/
def encoderStep (s : System) (a : VideoIntake.EncoderAction) : Option System :=
  if s.meets a then
    (s.intake.encoderStep a).map fun intake =>
      { s with intake := intake
               mutexes := moveMutexes s.mutexes (heldTextures s.intake) (heldTextures intake) }
  else none

/-- The helper process dies and is started again. -/
def helperDies (s : System) : System :=
  { s with serverOpen := false, toHelper := [], toShim := [], server := .waiting
           intake := { hasEncoder := s.intake.hasEncoder }
           mutexes := moveMutexes s.mutexes (heldTextures s.intake) [] }

/-! ## Runs -/

/-- The steps of the whole system. -/
inductive Action where
  | present (a : PresentAction)
  | ipc (a : IpcAction)
  | haptic (a : HapticAction)
  | server (a : ServerAction)
  | encoder (a : VideoIntake.EncoderAction)
  /-- The session asks the encoder for something else. -/
  | request (request : VideoRequest)
  | helperDies

def step (s : System) : Action → Option System
  | .present a => s.presentStep a
  | .ipc a => s.ipcStep a
  | .haptic a => s.hapticStep a
  | .server a => s.serverStep a
  | .encoder a => s.encoderStep a
  | .request request => some { s with request := request }
  | .helperDies => some s.helperDies

/-- Both processes as they start: no ring, no session, no client. `hasEncoder` is
false in a build that cannot encode. -/
def init (hasEncoder : Bool) : System := { intake := { hasEncoder := hasEncoder } }

/-! ## What a session begins with -/

/-- A session comes up, as far as `connected_`. -/
def connecting : List Action :=
  [.ipc .openPipe, .server .handshake, .ipc .read, .ipc .storeConnected]

/-- The callback sets `resend_config_`. -/
def connect : List Action := connecting ++ [.ipc .sessionReady]

/-- D3D gives every ring the same handle values: those of the ring before are
closed by then. -/
def sameHandles (i : ℕ) : SlotCreate := { sharedHandle := some (10 + i) }

/-- A Present that finds no usable ring: it creates one, announces it and sends a
frame. -/
def firstPresent : List Action :=
  [.present (.begin {}), .present .look, .present (.create sameHandles), .present .clearResend,
    .present .describe, .present .checkConfig, .present (.pushConfig true),
    .present (.acquire fun _ => true), .present .copyEye, .present .copyEye, .present .release,
    .present .checkFrame, .present (.pushFrame true)]

end System

end WivrnNx.Staging
