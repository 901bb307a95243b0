import WivrnNx.Bridge
import WivrnNx.Session.InputState
import WivrnNx.Session.PoseHistory
import WivrnNx.Session.Transport

/-!
# One headset after the other

`run_wivrn_server` lets headsets in, one at a time, and makes a `Session` of each; a
session ends in its destructor, or in its constructor if the handshake fails. What it
leaves behind is what it put into the bridge to the shim (devices, poses, the view
configuration) and into the bridge to the encoder. A packet is one step here: of what its
handler touches, the other threads write only the queues.
-/

namespace WivrnNx.ServerLoop

open Ipc

/-- What `publish_config` has of the floating point unit. -/
structure ConfigMath where
  tan : FloatBits → FloatBits
  /-- `std::abs(a - b)`. -/
  distance : FloatBits → FloatBits → FloatBits

structure Fov where
  angleLeft : FloatBits
  angleRight : FloatBits
  angleUp : FloatBits
  angleDown : FloatBits
deriving DecidableEq, Repr

/-- `tracking::view`: an eye as the headset has it. -/
structure View where
  x : FloatBits
  y : FloatBits
  z : FloatBits
  w : FloatBits
  positionX : FloatBits
  positionY : FloatBits
  positionZ : FloatBits
  fov : Fov
deriving DecidableEq, Repr

/-- What a `headset_info_packet` says of the display and the decoder. -/
structure Info where
  renderEyeWidth : UInt32
  renderEyeHeight : UInt32
  fov : Fin 2 → Fov
  preferredRefreshRate : FloatBits
  availableRefreshRates : List FloatBits
  supportedCodecs : List ClientCodec
  standbyFreeze : Bool

/-- The part of a `Session` that its packets to the bridges are made of. -/
structure Session where
  info : Option Info := none
  refreshHz : FloatBits := 0x42B40000
  views : Option (Fin 2 → View) := none
  sanitizers : Device → PoseSanitizer := fun _ => {}
  standbyFreeze : Bool := true

inductive Phase
  /-- `accept_connection`. -/
  | waiting
  /-- The constructor: `handshake`. -/
  | handshake
  | running
  /-- In the destructor, before `on_client_gone`. -/
  | closing
  /-- In the destructor, before `clear_client`. -/
  | gone
  /-- Back in `run_wivrn_server`, before its own `clear_client`. -/
  | left
deriving DecidableEq, Repr

structure State where
  phase : Phase
  session : Session
  bridge : Bridge
  video : VideoBridge

/-- The nominal distance of the eyes, and half of it to either side. -/
def nominalIpd : FloatBits := 0x3D810625
def nominalOffset (eye : Fin 2) : FloatBits := if eye = 0 then 0xBD010625 else 0x3D010625

/-- `make_hmd_config`: what the shim gets before any headset came. -/
def makeHmdConfig : HmdConfig where
  eyeWidth := 2160
  eyeHeight := 2160
  refreshHz := 0x42B40000
  ipdM := nominalIpd
  projLeft := (0xBF800000, 0xBF800000)
  projRight := (0x3F800000, 0x3F800000)
  projTop := (0xBF800000, 0xBF800000)
  projBottom := (0x3F800000, 0x3F800000)
  eyeToHeadQ _ := ![0x3F800000, 0, 0, 0]
  eyeToHeadP eye := ![nominalOffset eye, 0, 0]

/-- As `main` sets it up. -/
def init (bitrateBps codec : ℕ) (adaptive : Bool) : State where
  phase := .waiting
  session := {}
  bridge := .make makeHmdConfig
  video := ({} : VideoBridge).setPrefs bitrateBps codec adaptive

/-! ## The view configuration -/

def aboveOne (rate : FloatBits) : Bool := (Flt.ofBits rate).aboveOne

def isFinite (m : FloatMath) (bits : FloatBits) : Bool := m.isFinite (Flt.ofBits bits)

/-- `std::max_element`. -/
def maxRate (first : FloatBits) (rates : List FloatBits) : FloatBits :=
  rates.foldl (fun best rate => if (Flt.ofBits best).lt (Flt.ofBits rate) then rate else best) first

/-- The rate that `on_headset_info` settles on. -/
def refreshRate (info : Info) : FloatBits :=
  if aboveOne info.preferredRefreshRate then info.preferredRefreshRate
  else
    match info.availableRefreshRates with
    | [] => 0x42B40000
    | first :: rest => maxRate first rest

/-- The configuration that `publish_config` puts together. -/
def configOf (f : ConfigMath) (info : Info) (refreshHz : FloatBits)
    (views : Option (Fin 2 → View)) : HmdConfig :=
  let fov := fun eye =>
    match views with
    | some views => (views eye).fov
    | none => info.fov eye
  let edges := fun (angle : Fov → FloatBits) => (f.tan (angle (fov 0)), f.tan (angle (fov 1)))
  { eyeWidth := info.renderEyeWidth
    eyeHeight := info.renderEyeHeight
    refreshHz := refreshHz
    ipdM :=
      match views with
      | some views => f.distance (views 1).positionX (views 0).positionX
      | none => nominalIpd
    projLeft := edges Fov.angleLeft
    projRight := edges Fov.angleRight
    projTop := edges Fov.angleDown
    projBottom := edges Fov.angleUp
    eyeToHeadQ := fun eye =>
      match views with
      | some views => ![(views eye).w, (views eye).x, (views eye).y, (views eye).z]
      | none => ![0x3F800000, 0, 0, 0]
    eyeToHeadP := fun eye =>
      match views with
      | some views => ![(views eye).positionX, (views eye).positionY, (views eye).positionZ]
      | none => ![nominalOffset eye, 0, 0] }

/-- The four edges of one eye. -/
def saneEdges (m : FloatMath) (left right top bottom : FloatBits) : Bool :=
  isFinite m left && isFinite m right && isFinite m top && isFinite m bottom &&
    (Flt.ofBits left).lt (Flt.ofBits right) && (Flt.ofBits top).lt (Flt.ofBits bottom)

/-- `sane`. -/
def sane (m : FloatMath) (c : HmdConfig) : Bool :=
  c.eyeWidth ≠ 0 && c.eyeHeight ≠ 0 && isFinite m c.refreshHz &&
    saneEdges m c.projLeft.1 c.projRight.1 c.projTop.1 c.projBottom.1 &&
    saneEdges m c.projLeft.2 c.projRight.2 c.projTop.2 c.projBottom.2

def publishConfig (f : ConfigMath) (m : FloatMath) (s : State) : State :=
  match s.session.info with
  | none => s
  | some info =>
    let config := configOf f info s.session.refreshHz s.session.views
    if sane m config then { s with bridge := s.bridge.setConfig config } else s

/-- `publish_video_request`. -/
def publishVideoRequest (s : State) : State :=
  match s.session.info with
  | none => s
  | some info =>
    let allowed := Transport.allowedCodecs { supportedCodecs := info.supportedCodecs }
    { s with
      video := s.video.setClient (Flt.ofBits s.session.refreshHz) allowed.1 allowed.2 }

/-! ## Packets -/

/-- `on_headset_info`; what it does for the transport is not seen here. -/
def onHeadsetInfo (f : ConfigMath) (m : FloatMath) (s : State) (info : Info) : State :=
  publishVideoRequest (publishConfig f m
    { s with session := { s.session with
        info := some info
        refreshHz := refreshRate info
        standbyFreeze := info.standbyFreeze } })

/-- A rate that the headset asks for by itself. -/
def setRefreshRate (f : ConfigMath) (m : FloatMath) (s : State) (rate : FloatBits) : State :=
  publishVideoRequest
    (publishConfig f m { s with session := { s.session with refreshHz := rate } })

def onSettings (f : ConfigMath) (m : FloatMath) (s : State) (standbyFreeze : Bool)
    (preferred : FloatBits) : State :=
  let s := { s with session := { s.session with standbyFreeze := standbyFreeze } }
  if aboveOne preferred && !(Flt.ofBits preferred).beq (Flt.ofBits s.session.refreshHz) then
    setRefreshRate f m s preferred
  else s

/-- The handler of `refresh_rate_changed`. -/
def onRefreshRate (f : ConfigMath) (m : FloatMath) (s : State) (rate : FloatBits) : State :=
  if aboveOne rate then setRefreshRate f m s rate else s

def usableView (m : FloatMath) (v : View) : Bool :=
  isValidOrientation m ⟨Flt.ofBits v.x, Flt.ofBits v.y, Flt.ofBits v.z, Flt.ofBits v.w⟩ &&
    isFiniteVec m ⟨Flt.ofBits v.positionX, Flt.ofBits v.positionY, Flt.ofBits v.positionZ⟩

/-- The views of a tracking packet. -/
def onViews (f : ConfigMath) (m : FloatMath) (s : State) (views : Fin 2 → View) : State :=
  if s.session.views = some views then s
  else if usableView m (views 0) && usableView m (views 1) then
    publishConfig f m { s with session := { s.session with views := some views } }
  else s

/-- A pose for the shim; `bits` is a float's conversion to the double that goes out. -/
def poseUpdate (bits : Flt → DoubleBits) (timeQpc : UInt64) (i : Device)
    (r : PoseSanitizer.Result) : PoseUpdate where
  timeQpc := timeQpc
  device := i.byte
  connected := if r.usable then 1 else 0
  qw := bits r.orientation.w
  qx := bits r.orientation.x
  qy := bits r.orientation.y
  qz := bits r.orientation.z
  px := bits r.position.x
  py := bits r.position.y
  pz := bits r.position.z
  vx := bits r.linearVelocity.x
  vy := bits r.linearVelocity.y
  vz := bits r.linearVelocity.z
  wx := bits r.angularVelocity.x
  wy := bits r.angularVelocity.y
  wz := bits r.angularVelocity.z

/-- What `on_tracking` does with one result. -/
def publishPose (bits : Flt → DoubleBits) (timeQpc : UInt64) (b : Bridge)
    (e : Device × PoseSanitizer.Result) : Bridge :=
  let b := b.setPose (poseUpdate bits timeQpc e.1 e.2)
  if e.2.usable then b.setPresent e.1.byte true else b

def onTracking (f : ConfigMath) (m : FloatMath) (bits : Flt → DoubleBits) (s : State)
    (tracking : Tracking) (views : Fin 2 → View) (timeQpc : UInt64) : State :=
  let s := onViews f m s views
  let r := WivrnNx.onTracking m s.session.sanitizers tracking s.session.standbyFreeze
  { s with
    session := { s.session with sanitizers := r.1 }
    bridge := r.2.foldl (publishPose bits timeQpc) s.bridge }

/-! ## Steps -/

inductive Packet
  | headsetInfo (info : Info)
  | settings (standbyFreeze : Bool) (preferred : FloatBits)
  | refreshRate (rate : FloatBits)
  | tracking (tracking : Tracking) (views : Fin 2 → View) (timeQpc : UInt64)
  | input (input : InputUpdate)

/-- What else the session's loop does with the bridges. -/
inductive Chore
  | popHaptic
  | setBitrate (bps : ℕ)
  | requestIdr
  | takeFrames

inductive Action
  | accept
  /-- The last packet of the handshake. -/
  | handshakeInfo (info : Info)
  | run
  /-- The constructor throws. -/
  | refuse
  | packet (p : Packet)
  | chore (c : Chore)
  /-- The loop returns, or something in it throws. -/
  | stop
  | clientGone
  | clearClient
  | serverClear
  /-- The other threads: the pipe server and the encoder. -/
  | pushHaptic (haptic : Haptic)
  | pushFrames (frames : List EncodedFrame)
  | publishStream (info : EncoderStreamInfo) (valid : Bool)

def onPacket (f : ConfigMath) (m : FloatMath) (bits : Flt → DoubleBits) (s : State) :
    Packet → State
  | .headsetInfo info => onHeadsetInfo f m s info
  | .settings standbyFreeze preferred => onSettings f m s standbyFreeze preferred
  | .refreshRate rate => onRefreshRate f m s rate
  | .tracking tracking views timeQpc => onTracking f m bits s tracking views timeQpc
  | .input input => { s with bridge := s.bridge.setInput input }

def onChore (s : State) : Chore → State
  | .popHaptic =>
    match s.bridge.popHaptic with
    | none => s
    | some (_, bridge) => { s with bridge := bridge }
  | .setBitrate bps => { s with video := s.video.setBitrate bps }
  | .requestIdr => { s with video := s.video.requestIdr }
  | .takeFrames => { s with video := s.video.takeFrames.1 }

def step (f : ConfigMath) (m : FloatMath) (bits : Flt → DoubleBits) (s : State) :
    Action → Option State
  | .accept =>
    if s.phase = .waiting then some { s with phase := .handshake, session := {} } else none
  | .handshakeInfo info =>
    if s.phase = .handshake ∧ s.session.info.isNone then some (onHeadsetInfo f m s info)
    else none
  | .run =>
    if s.phase = .handshake ∧ s.session.info.isSome then some { s with phase := .running }
    else none
  | .refuse => if s.phase = .handshake then some { s with phase := .left } else none
  | .packet p => if s.phase = .running then some (onPacket f m bits s p) else none
  | .chore c => if s.phase = .running then some (onChore s c) else none
  | .stop => if s.phase = .running then some { s with phase := .closing } else none
  | .clientGone =>
    if s.phase = .closing then some { s with phase := .gone, bridge := s.bridge.onClientGone }
    else none
  | .clearClient =>
    if s.phase = .gone then some { s with phase := .left, video := s.video.clearClient }
    else none
  | .serverClear =>
    if s.phase = .left then some { s with phase := .waiting, video := s.video.clearClient }
    else none
  | .pushHaptic haptic => some { s with bridge := s.bridge.pushHaptic haptic }
  | .pushFrames frames => some { s with video := s.video.pushFrames frames }
  | .publishStream info valid => some { s with video := s.video.publishStream info valid }

/-! ## Devices -/

/-- A sanitizer that has had what a pose needs. -/
def usable (s : PoseSanitizer) : Bool := s.haveOrientation && s.havePosition

/-- The shim is to see just these devices, with their poses connected. -/
def Shows (b : Bridge) (shown : Device → Bool) : Prop :=
  ∀ i, b.present i = shown i ∧ (b.pose i).connected = if shown i then 1 else 0

section Devices

variable {m : FloatMath} {bits : Flt → DoubleBits} {b : Bridge} {shown : Device → Bool}

theorem sanitize_usable (s : PoseSanitizer) (pose : DevicePose) (timestamp : ℤ) (freeze : Bool) :
    (s.sanitize m pose timestamp freeze).2.usable = usable (s.sanitize m pose timestamp freeze).1 ∧
      (usable s = true → usable (s.sanitize m pose timestamp freeze).1 = true) := by
  unfold PoseSanitizer.sanitize
  split
  · exact ⟨rfl, fun h => h⟩
  · refine ⟨rfl, fun h => ?_⟩
    simp only [usable, Bool.and_eq_true] at h ⊢
    rw [h.1, h.2]
    simp

theorem setPose_shows (bits : Flt → DoubleBits) (h : Shows b shown) (i : Device)
    (r : PoseSanitizer.Result) (timeQpc : UInt64) :
    let b' := b.setPose (poseUpdate bits timeQpc i r)
    b'.present = b.present ∧
      ∀ j, (b'.pose j).connected = if Function.update shown i r.usable j then 1 else 0 := by
  have hset : b.setPose (poseUpdate bits timeQpc i r) =
      { b with
        pose := Function.update b.pose i (poseUpdate bits timeQpc i r)
        poseGen := Function.update b.poseGen i (b.poseGen i + 1)
        posesReceived := b.posesReceived + 1 } := by
    simp only [Bridge.setPose, show (poseUpdate bits timeQpc i r).device = i.byte from rfl,
      Bridge.deviceIndex_byte]
  rw [hset]
  refine ⟨rfl, fun j => ?_⟩
  by_cases hj : j = i
  · rw [hj, Function.update_self]
    show (Function.update b.pose i (poseUpdate bits timeQpc i r) i).connected = _
    rw [Function.update_self]
    rfl
  · rw [Function.update_of_ne hj]
    show (Function.update b.pose i (poseUpdate bits timeQpc i r) j).connected = _
    rw [Function.update_of_ne hj]
    exact (h j).2

/-- A device that was shown stays so; nothing else is said of it in a session. -/
theorem publishPose_shows (bits : Flt → DoubleBits) (h : Shows b shown) (i : Device)
    (r : PoseSanitizer.Result) (timeQpc : UInt64) (hkeeps : shown i = true → r.usable = true) :
    Shows (publishPose bits timeQpc b (i, r)) (Function.update shown i r.usable) := by
  obtain ⟨hpresent, hconnected⟩ := setPose_shows bits h i r timeQpc
  unfold publishPose
  dsimp only at hpresent hconnected ⊢
  cases hr : r.usable with
  | false =>
    have hnot : shown i = false := by
      rw [← Bool.not_eq_true]
      intro hshown
      rw [hkeeps hshown] at hr
      cases hr
    rw [if_neg (by decide)]
    rw [hr] at hconnected
    refine fun j => ⟨?_, hconnected j⟩
    rw [hpresent, (h j).1]
    by_cases hj : j = i
    · rw [hj, Function.update_self, hnot]
    · rw [Function.update_of_ne hj]
  | true =>
    rw [if_pos rfl]
    rw [hr] at hconnected
    simp only [Bridge.setPresent, Bridge.deviceIndex_byte]
    split
    · rename_i hsame
      refine fun j => ⟨?_, hconnected j⟩
      by_cases hj : j = i
      · rw [hj, Function.update_self]
        exact hsame
      · rw [Function.update_of_ne hj, hpresent, (h j).1]
    · refine fun j => ⟨?_, hconnected j⟩
      by_cases hj : j = i
      · rw [hj, Function.update_self]
        exact Function.update_self (β := fun _ => Bool) i true _
      · rw [Function.update_of_ne hj, ← (h j).1, ← hpresent]
        exact Function.update_of_ne (β := fun _ => Bool) hj true _

theorem onPoses_shows (bits : Flt → DoubleBits) (timeQpc : UInt64)
    (poses : List (TrackingDevice × PoseSample)) (s : Device → PoseSanitizer) (b : Bridge) (h : Shows b fun i => usable (s i)) :
    Shows ((onPoses m s poses).2.foldl (publishPose bits timeQpc) b)
      fun i => usable ((onPoses m s poses).1 i) := by
  induction poses generalizing s b with
  | nil => exact h
  | cons p rest ih =>
    obtain ⟨id, x⟩ := p
    unfold onPoses
    cases hdevice : ipcDeviceFor id with
    | none => exact ih s b h
    | some i =>
      obtain ⟨hr, hmono⟩ := sanitize_usable (m := m) (s i) x.pose x.productionTimestamp x.freeze
      have hkeeps : usable (s i) = true →
          ((s i).sanitize m x.pose x.productionTimestamp x.freeze).2.usable = true := by
        intro hi
        rw [hr]
        exact hmono hi
      have hnext := publishPose_shows bits h i _ timeQpc hkeeps
      refine ih _ _ fun j => ?_
      obtain ⟨hpresent, hconnected⟩ := hnext j
      have hupdate : Function.update (fun i => usable (s i)) i
          ((s i).sanitize m x.pose x.productionTimestamp x.freeze).2.usable j =
          usable (Function.update s i
            ((s i).sanitize m x.pose x.productionTimestamp x.freeze).1 j) := by
        by_cases hj : j = i
        · rw [hj, Function.update_self, Function.update_self, hr]
        · rw [Function.update_of_ne hj, Function.update_of_ne hj]
      rw [hupdate] at hpresent hconnected
      exact ⟨hpresent, hconnected⟩

end Devices

/-! ## The invariant -/

def Live (p : Phase) : Prop := p = .running ∨ p = .closing

instance (p : Phase) : Decidable (Live p) := inferInstanceAs (Decidable (p = _ ∨ p = _))

/-- The devices that the shim is to see. -/
def shown (s : State) (i : Device) : Bool :=
  decide (Live s.phase) && usable (s.session.sanitizers i)

structure Inv (f : ConfigMath) (m : FloatMath) (s : State) : Prop where
  devices : Shows s.bridge (shown s)
  fresh : s.phase = .handshake → ∀ i, usable (s.session.sanitizers i) = false
  queue : s.video.request.active = false → s.video.frames = []
  quiet : s.phase = .waiting ∨ (s.phase = .handshake ∧ s.session.info = none) →
    s.video.request.active = false
  config : sane m s.bridge.config = true
  current : ∀ info, s.session.info = some info →
    sane m (configOf f info s.session.refreshHz s.session.views) = true →
    s.bridge.config = configOf f info s.session.refreshHz s.session.views

section Steps

variable {f : ConfigMath} {m : FloatMath} {bits : Flt → DoubleBits} {s s' : State}

theorem makeHmdConfig_sane (m : FloatMath) : sane m makeHmdConfig = true := by
  have hfinite : ∀ bits : FloatBits, (∃ q, Flt.ofBits bits = .val q) → isFinite m bits = true := by
    intro bits hbits
    exact (m.isFinite_iff _).mpr hbits
  have hrate := hfinite 0x42B40000 ⟨_, rfl⟩
  have hleft := hfinite 0xBF800000 ⟨_, rfl⟩
  have hright := hfinite 0x3F800000 ⟨_, rfl⟩
  have horder : (Flt.ofBits 0xBF800000).lt (Flt.ofBits 0x3F800000) = true := by decide +kernel
  simp only [sane, saneEdges, makeHmdConfig, hrate, hleft, hright, horder]
  decide

theorem init_inv (bitrateBps codec : ℕ) (adaptive : Bool) :
    Inv f m (init bitrateBps codec adaptive) where
  devices i := ⟨rfl, rfl⟩
  fresh h := by cases h
  queue _ := rfl
  quiet _ := rfl
  config := makeHmdConfig_sane m
  current _ h := by cases h

/-- What a new configuration leaves as it was. -/
theorem publishConfig_keeps (f : ConfigMath) (m : FloatMath) (s : State) :
    (publishConfig f m s).phase = s.phase ∧ (publishConfig f m s).session = s.session ∧
      (publishConfig f m s).video = s.video ∧
      (publishConfig f m s).bridge.present = s.bridge.present ∧
      (publishConfig f m s).bridge.pose = s.bridge.pose := by
  unfold publishConfig
  split
  · exact ⟨rfl, rfl, rfl, rfl, rfl⟩
  · dsimp only
    split
    · unfold Bridge.setConfig
      dsimp only
      split
      · exact ⟨rfl, rfl, rfl, rfl, rfl⟩
      · exact ⟨rfl, rfl, rfl, rfl, rfl⟩
    · exact ⟨rfl, rfl, rfl, rfl, rfl⟩

theorem setConfig_config (b : Bridge) (c : HmdConfig) : (b.setConfig c).config = c := by
  unfold Bridge.setConfig
  split
  · assumption
  · rfl

/-- A new configuration is published if it is sane, and else the last one stands. -/
theorem publishConfig_inv {s₁ : State} (h : Inv f m s) (hphase : s₁.phase = s.phase)
    (hsanitizers : s₁.session.sanitizers = s.session.sanitizers) (hbridge : s₁.bridge = s.bridge)
    (hvideo : s₁.video = s.video)
    (hinfo : s₁.session.info = none → s.session.info = none) :
    Inv f m (publishConfig f m s₁) := by
  obtain ⟨hphase', hsession', hvideo', hpresent', hpose'⟩ := publishConfig_keeps f m s₁
  have hshown : shown (publishConfig f m s₁) = shown s := by
    funext i
    rw [shown, shown, hphase', hsession', hphase, hsanitizers]
  refine ⟨?_, ?_, ?_, ?_, ?_, ?_⟩
  · rw [hshown]
    intro i
    rw [hpresent', hpose', hbridge]
    exact h.devices i
  · rw [hphase', hsession', hphase, hsanitizers]
    exact h.fresh
  · rw [hvideo', hvideo]
    exact h.queue
  · rw [hphase', hsession', hvideo', hphase, hvideo]
    intro hquiet
    exact h.quiet (hquiet.imp_right fun hq => ⟨hq.1, hinfo hq.2⟩)
  · have hlast := h.config
    rw [← hbridge] at hlast
    unfold publishConfig
    split
    · exact hlast
    · dsimp only
      split
      · rename_i hsane
        rw [setConfig_config]
        exact hsane
      · exact hlast
  · intro info hsome hsane
    rw [hsession'] at hsome hsane ⊢
    simp only [publishConfig, hsome]
    rw [if_pos hsane]
    exact setConfig_config _ _

theorem publishVideoRequest_inv (hphase : s.phase ≠ .waiting) (h : Inv f m s) :
    Inv f m (publishVideoRequest s) := by
  unfold publishVideoRequest
  split
  · exact h
  · rename_i info hinfo
    refine ⟨h.devices, h.fresh, ?_, ?_, h.config, h.current⟩
    · intro hactive
      cases hactive
    · rintro (hwaiting | ⟨-, hnone⟩)
      · exact absurd hwaiting hphase
      · cases hinfo.symm.trans hnone

theorem setRefreshRate_inv (h : Inv f m s) (hphase : s.phase ≠ .waiting)
    (rate : FloatBits) : Inv f m (setRefreshRate f m s rate) := by
  refine publishVideoRequest_inv ?_ (publishConfig_inv h rfl rfl rfl rfl id)
  rw [(publishConfig_keeps f m _).1]
  exact hphase

theorem onHeadsetInfo_inv (hphase : s.phase ≠ .waiting) (h : Inv f m s) (info : Info) :
    Inv f m (onHeadsetInfo f m s info) := by
  refine publishVideoRequest_inv ?_ (publishConfig_inv h rfl rfl rfl rfl (by rintro ⟨⟩))
  rw [(publishConfig_keeps f m _).1]
  exact hphase

theorem onSettings_inv (hphase : s.phase ≠ .waiting) (h : Inv f m s) (standbyFreeze : Bool)
    (preferred : FloatBits) : Inv f m (onSettings f m s standbyFreeze preferred) := by
  have hfreeze : Inv f m
      { s with session := { s.session with standbyFreeze := standbyFreeze } } :=
    ⟨h.devices, h.fresh, h.queue, h.quiet, h.config, h.current⟩
  unfold onSettings
  dsimp only
  split
  · exact setRefreshRate_inv hfreeze hphase preferred
  · exact hfreeze

theorem onViews_spec (h : Inv f m s) (views : Fin 2 → View) :
    Inv f m (onViews f m s views) ∧ (onViews f m s views).phase = s.phase ∧
      (onViews f m s views).session.sanitizers = s.session.sanitizers := by
  unfold onViews
  split
  · exact ⟨h, rfl, rfl⟩
  · split
    · obtain ⟨hphase, hsession, -⟩ := publishConfig_keeps f m
        { s with session := { s.session with views := some views } }
      refine ⟨publishConfig_inv h rfl rfl rfl rfl id, hphase, ?_⟩
      rw [hsession]
    · exact ⟨h, rfl, rfl⟩

theorem setPose_config (b : Bridge) (pose : PoseUpdate) : (b.setPose pose).config = b.config := by
  unfold Bridge.setPose
  split <;> rfl

theorem setPresent_config (b : Bridge) (device : UInt8) (present : Bool) :
    (b.setPresent device present).config = b.config := by
  unfold Bridge.setPresent
  split
  · rfl
  · split <;> rfl

theorem foldl_publishPose_keeps (bits : Flt → DoubleBits) (timeQpc : UInt64)
    (rs : List (Device × PoseSanitizer.Result)) (b : Bridge) : (rs.foldl (publishPose bits timeQpc) b).config = b.config := by
  induction rs generalizing b with
  | nil => rfl
  | cons e rs ih =>
    rw [List.foldl_cons, ih]
    unfold publishPose
    dsimp only
    split
    · rw [setPresent_config, setPose_config]
    · exact setPose_config b _

theorem onTracking_inv (hphase : s.phase = .running) (h : Inv f m s) (tracking : Tracking)
    (views : Fin 2 → View) (timeQpc : UInt64) :
    Inv f m (onTracking f m bits s tracking views timeQpc) := by
  obtain ⟨h, hphase', -⟩ := onViews_spec h views
  rw [hphase] at hphase'
  have hlive : decide (Live (onViews f m s views).phase) = true := decide_eq_true (.inl hphase')
  have hdevices : Shows (onViews f m s views).bridge
      fun i => usable ((onViews f m s views).session.sanitizers i) := by
    intro i
    have hi := h.devices i
    rw [shown, hlive, Bool.true_and] at hi
    exact hi
  have hconfig := foldl_publishPose_keeps bits timeQpc
    (WivrnNx.onTracking m (onViews f m s views).session.sanitizers tracking
      (onViews f m s views).session.standbyFreeze).2 (onViews f m s views).bridge
  refine ⟨?_, ?_, h.queue, ?_, ?_, ?_⟩
  · intro i
    have hi := onPoses_shows (m := m) bits timeQpc
      (tracking.samples (onViews f m s views).session.standbyFreeze) _ _ hdevices i
    rw [shown]
    show _ = (decide (Live (onViews f m s views).phase) && _) ∧ _ = if
      (decide (Live (onViews f m s views).phase) && _) = true then 1 else 0
    rw [hlive, Bool.true_and]
    exact hi
  · intro hhandshake
    cases hphase'.symm.trans hhandshake
  · intro hquiet
    rcases hquiet with hwaiting | ⟨hhandshake, -⟩
    · cases hphase'.symm.trans hwaiting
    · cases hphase'.symm.trans hhandshake
  · show sane m (List.foldl _ _ _ : Bridge).config = true
    rw [hconfig]
    exact h.config
  · intro info hinfo hsane
    exact hconfig.trans (h.current info hinfo hsane)

/-- A step of the session that neither the devices nor the configuration notice. -/
theorem keeps_inv {bridge : Bridge} {video : VideoBridge} (h : Inv f m s)
    (hpresent : bridge.present = s.bridge.present) (hpose : bridge.pose = s.bridge.pose)
    (hconfig : bridge.config = s.bridge.config)
    (hactive : video.request.active = s.video.request.active)
    (hqueue : video.request.active = false → video.frames = []) :
    Inv f m { s with bridge := bridge, video := video } := by
  refine ⟨?_, h.fresh, hqueue, ?_, ?_, ?_⟩
  · intro i
    show bridge.present i = _ ∧ (bridge.pose i).connected = _
    rw [hpresent, hpose]
    exact h.devices i
  · intro hquiet
    exact hactive.trans (h.quiet hquiet)
  · show sane m bridge.config = true
    rw [hconfig]
    exact h.config
  · intro info hinfo hsane
    exact hconfig.trans (h.current info hinfo hsane)

theorem onChore_inv (h : Inv f m s) (c : Chore) : Inv f m (onChore s c) := by
  cases c with
  | popHaptic =>
    unfold onChore Bridge.popHaptic
    cases s.bridge.haptics with
    | nil => exact h
    | cons haptic rest => exact keeps_inv h rfl rfl rfl rfl h.queue
  | setBitrate bps =>
    refine keeps_inv h rfl rfl rfl ?_ ?_
    · unfold VideoBridge.setBitrate
      split <;> rfl
    · unfold VideoBridge.setBitrate
      split
      · exact h.queue
      · exact h.queue
  | requestIdr => exact keeps_inv h rfl rfl rfl rfl h.queue
  | takeFrames => exact keeps_inv h rfl rfl rfl rfl fun _ => rfl

theorem clearClient_spec (v : VideoBridge) (h : v.request.active = false → v.frames = []) :
    v.clearClient.request.active = false ∧ v.clearClient.frames = [] := by
  unfold VideoBridge.clearClient
  split
  · rename_i hinactive
    rw [Bool.not_eq_true] at hinactive
    exact ⟨hinactive, h hinactive⟩
  · exact ⟨rfl, rfl⟩

theorem onPacket_inv (hphase : s.phase = .running) (h : Inv f m s) (p : Packet) :
    Inv f m (onPacket f m bits s p) := by
  have hnot : s.phase ≠ .waiting := by
    rw [hphase]
    decide
  cases p with
  | headsetInfo info => exact onHeadsetInfo_inv hnot h info
  | settings standbyFreeze preferred => exact onSettings_inv hnot h standbyFreeze preferred
  | refreshRate rate =>
    unfold onPacket onRefreshRate
    dsimp only
    split
    · exact setRefreshRate_inv h hnot rate
    · exact h
  | tracking tracking views timeQpc => exact onTracking_inv hphase h tracking views timeQpc
  | input input =>
    unfold onPacket Bridge.setInput
    dsimp only
    split
    · exact h
    · exact keeps_inv h rfl rfl rfl rfl h.queue

theorem step_inv (a : Action) (h : Inv f m s) (hstep : step f m bits s a = some s') :
    Inv f m s' := by
  have hhidden : ¬ Live s.phase →
      ∀ i, s.bridge.present i = false ∧ (s.bridge.pose i).connected = 0 := by
    intro hlive i
    have hi := h.devices i
    rw [shown, decide_eq_false hlive] at hi
    exact hi
  cases a with
  | accept =>
    -- A new session starts from nothing
    simp only [step, Option.ite_none_right_eq_some, Option.some.injEq] at hstep
    obtain ⟨hphase, rfl⟩ := hstep
    have hlive : ¬ Live s.phase := by
      rw [hphase]
      decide
    exact ⟨hhidden hlive, fun _ _ => rfl, h.queue, fun _ => h.quiet (.inl hphase), h.config,
      by rintro _ ⟨⟩⟩
  | handshakeInfo info =>
    simp only [step, Option.ite_none_right_eq_some, Option.some.injEq] at hstep
    obtain ⟨⟨hphase, -⟩, rfl⟩ := hstep
    refine onHeadsetInfo_inv ?_ h info
    rw [hphase]
    decide
  | run =>
    simp only [step, Option.ite_none_right_eq_some, Option.some.injEq] at hstep
    obtain ⟨⟨hphase, -⟩, rfl⟩ := hstep
    have hlive : ¬ Live s.phase := by
      rw [hphase]
      decide
    refine ⟨?_, by rintro ⟨⟩, h.queue, ?_, h.config, h.current⟩
    · intro i
      have hfresh := h.fresh hphase i
      show _ = (_ && usable (s.session.sanitizers i)) ∧ _ = if
        (_ && usable (s.session.sanitizers i)) = true then 1 else 0
      rw [hfresh, Bool.and_false]
      exact hhidden hlive i
    · rintro (hwaiting | ⟨hhandshake, -⟩)
      · cases hwaiting
      · cases hhandshake
  | refuse =>
    simp only [step, Option.ite_none_right_eq_some, Option.some.injEq] at hstep
    obtain ⟨hphase, rfl⟩ := hstep
    have hlive : ¬ Live s.phase := by
      rw [hphase]
      decide
    refine ⟨hhidden hlive, by rintro ⟨⟩, h.queue, ?_, h.config, h.current⟩
    rintro (hwaiting | ⟨hhandshake, -⟩)
    · cases hwaiting
    · cases hhandshake
  | packet p =>
    simp only [step, Option.ite_none_right_eq_some, Option.some.injEq] at hstep
    obtain ⟨hphase, rfl⟩ := hstep
    exact onPacket_inv hphase h p
  | chore c =>
    simp only [step, Option.ite_none_right_eq_some, Option.some.injEq] at hstep
    obtain ⟨-, rfl⟩ := hstep
    exact onChore_inv h c
  | stop =>
    simp only [step, Option.ite_none_right_eq_some, Option.some.injEq] at hstep
    obtain ⟨hphase, rfl⟩ := hstep
    refine ⟨?_, by rintro ⟨⟩, h.queue, ?_, h.config, h.current⟩
    · have hlive : decide (Live s.phase) = true := decide_eq_true (.inl hphase)
      intro i
      have hi := h.devices i
      rw [shown, hlive] at hi
      exact hi
    · rintro (hwaiting | ⟨hhandshake, -⟩)
      · cases hwaiting
      · cases hhandshake
  | clientGone =>
    simp only [step, Option.ite_none_right_eq_some, Option.some.injEq] at hstep
    obtain ⟨hphase, rfl⟩ := hstep
    refine ⟨fun i => ⟨rfl, ?_⟩, by rintro ⟨⟩, h.queue, ?_, h.config, h.current⟩
    · show (if (s.bridge.pose i).connected ≠ 0 then { s.bridge.pose i with connected := 0 }
        else s.bridge.pose i).connected = 0
      split
      · rfl
      · rename_i hzero
        exact not_not.mp hzero
    · rintro (hwaiting | ⟨hhandshake, -⟩)
      · cases hwaiting
      · cases hhandshake
  | clearClient =>
    simp only [step, Option.ite_none_right_eq_some, Option.some.injEq] at hstep
    obtain ⟨hphase, rfl⟩ := hstep
    have hlive : ¬ Live s.phase := by
      rw [hphase]
      decide
    obtain ⟨hinactive, hempty⟩ := clearClient_spec s.video h.queue
    exact ⟨hhidden hlive, by rintro ⟨⟩, fun _ => hempty, fun _ => hinactive, h.config, h.current⟩
  | serverClear =>
    simp only [step, Option.ite_none_right_eq_some, Option.some.injEq] at hstep
    obtain ⟨hphase, rfl⟩ := hstep
    have hlive : ¬ Live s.phase := by
      rw [hphase]
      decide
    obtain ⟨hinactive, hempty⟩ := clearClient_spec s.video h.queue
    exact ⟨hhidden hlive, by rintro ⟨⟩, fun _ => hempty, fun _ => hinactive, h.config, h.current⟩
  | pushHaptic haptic =>
    cases hstep
    exact keeps_inv h rfl rfl rfl rfl h.queue
  | pushFrames frames =>
    cases hstep
    have hrequest := VideoBridge.pushFrames_request s.video frames
    refine keeps_inv h rfl rfl rfl (by rw [hrequest]) ?_
    intro hinactive
    rw [hrequest] at hinactive
    rw [VideoBridge.pushFrames_frames, if_pos (.inr (by rw [hinactive]; decide))]
    exact h.queue hinactive
  | publishStream info valid =>
    cases hstep
    have hrequest := VideoBridge.publishStream_request s.video info valid
    refine keeps_inv h rfl rfl rfl (by rw [hrequest]) ?_
    rw [hrequest, VideoBridge.publishStream_frames]
    exact h.queue

end Steps

/-- What the bridges show of the headsets, at any time. -/
structure Sound (f : ConfigMath) (m : FloatMath) (s : State) : Prop where
  /-- Just the devices of the headset that is on, and of them those with a pose. -/
  devices : ∀ i, s.bridge.present i = shown s i ∧
    (s.bridge.pose i).connected = if shown s i then 1 else 0
  /-- With no headset on, or none that got through the handshake, no video is wanted and
  none is kept. -/
  video : s.phase = .waiting ∨ (s.phase = .handshake ∧ s.session.info = none) →
    s.video.request.active = false ∧ s.video.frames = []
  /-- The shim is never given a configuration that is not sane. -/
  config : sane m s.bridge.config = true
  /-- It has the one of the headset's last words, unless those make none that is sane. -/
  current : ∀ info, s.session.info = some info →
    sane m (configOf f info s.session.refreshHz s.session.views) = true →
    s.bridge.config = configOf f info s.session.refreshHz s.session.views

/-- Whatever the headsets send, one after the other, and wherever their sessions end. -/
theorem sessions_leave_nothing (f : ConfigMath) (m : FloatMath) (bits : Flt → DoubleBits)
    (bitrateBps codec : ℕ) (adaptive : Bool) (as : List Action) (s : State)
    (h : Runs.run (step f m bits) (init bitrateBps codec adaptive) as = some s) :
    Sound f m s := by
  have hinv : Inv f m s := Runs.run_invariant (fun _ a _ => step_inv a) as _ s
    (init_inv bitrateBps codec adaptive) h
  exact ⟨hinv.devices, fun hquiet => ⟨hinv.quiet hquiet, hinv.queue (hinv.quiet hquiet)⟩,
    hinv.config, hinv.current⟩

/-- A headset comes, is refused after it said what it is, and comes again; its head is seen. -/
def twoVisits : List Action :=
  let fov : Fov := ⟨0xBF800000, 0x3F800000, 0x3F800000, 0xBF800000⟩
  let info : Info :=
    { renderEyeWidth := 2160, renderEyeHeight := 2160, fov := fun _ => fov
      preferredRefreshRate := 0x42900000, availableRefreshRates := [], supportedCodecs := [.h265]
      standbyFreeze := true }
  let pose : DevicePose :=
    { orientation := ⟨.val 0, .val 0, .val 0, .val 1⟩, position := ⟨.val 0, .val 1, .val 0⟩
      orientationValid := true, positionValid := true, orientationTracked := true
      positionTracked := true }
  let view : View := ⟨0, 0, 0, 0x3F800000, 0, 0, 0, fov⟩
  [.accept, .handshakeInfo info, .refuse, .serverClear, .accept, .handshakeInfo info, .run,
    .packet (.tracking ⟨5, [(.head, pose)]⟩ (fun _ => view) 7)]

theorem sessions_leave_nothing_two_visits :
    ∃ s, Runs.run (step ⟨id, fun a _ => a⟩ PoseSanitizer.exactMath fun _ => 0)
        (init 50000000 0 true) twoVisits = some s ∧
      s.bridge.present 0 = true ∧ s.bridge.config.refreshHz = 0x42900000 ∧
      Sound ⟨id, fun a _ => a⟩ PoseSanitizer.exactMath s := by
  have hrun : ((Runs.run (step ⟨id, fun a _ => a⟩ PoseSanitizer.exactMath fun _ => 0)
      (init 50000000 0 true) twoVisits).map fun s => (s.bridge.present 0, s.bridge.config.refreshHz)) =
        some (true, 0x42900000) := by decide +kernel
  obtain ⟨s, hs, hseen⟩ := Option.map_eq_some_iff.mp hrun
  rw [Prod.mk.injEq] at hseen
  exact ⟨s, hs, hseen.1, hseen.2, sessions_leave_nothing _ _ _ _ _ _ twoVisits s hs⟩

end WivrnNx.ServerLoop
