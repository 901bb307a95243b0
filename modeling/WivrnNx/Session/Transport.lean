import WivrnNx.Bitrate.Control
import WivrnNx.Lib.Runs
import WivrnNx.Session.IdrTracker
import WivrnNx.Session.ShardPacer
import WivrnNx.VideoBridge

/-!
# The transport settings of a session

The packet handlers of wivrn/session.cpp that touch the bitrate: `on_headset_info`,
`on_settings`, `on_feedback` and the handlers of `wifi_state` and
`refresh_rate_changed`. The bitrate exists in three copies: the controller's, the
share of it that the encoder gets while parity shards go out too, and the bridge's,
which the encoder thread reads.

- `Follows`: the bridge has the controller's bitrate, times the share;
- `bitrate_followed_iff`: that holds after every handler exactly when each change of
  the refresh rate comes with one of the bitrate or finds it at the ceiling.
-/

namespace WivrnNx

/-- `wivrn::video_codec`, of which this build produces two. -/
inductive ClientCodec where
  | h264 | h265 | other
deriving DecidableEq, Repr

/-- `from_headset::settings_changed`. -/
structure SettingsChanged where
  preferredRefreshRate : Flt := .val 0
  standbyFreeze : Bool := false
  bitrateAuto : Bool := true
  radioAware : Bool := true
  bitrateControl : Option BitrateMode := none
  smoothPacing : Bool := true
  fec : Bool := true
deriving DecidableEq, Repr

/-- `from_headset::headset_info_packet`. -/
structure HeadsetInfo where
  settings : SettingsChanged := {}
  availableRefreshRates : List Flt := []
  supportedCodecs : List ClientCodec := []
deriving DecidableEq, Repr

/-- The transport part of a `Session`, with the bridge. -/
structure Transport where
  bridge : VideoBridge := {}
  bitrate : BitrateController := {}
  info : HeadsetInfo := {}
  refreshHz : Flt := .val 90
  standbyFreeze : Bool := false
  pacingEnabled : Bool := true
  pacingWindow : ℚ := 2 / 5
  pacingSlot : PacingSlot := {}
  fecEnabled : Bool := false
  hasStreamSocket : Bool := true
  idr : IdrTracker := {}
  idrRequests : ℕ := 0
  discardedPackets : ℕ := 0

/-- What the handlers are called with. A time is the clock they read. -/
inductive TransportEvent where
  | headsetInfo (info : HeadsetInfo)
  | settingsChanged (settings : SettingsChanged)
  | feedback (feedback : Feedback) (now : ℤ)
  | wifiState (valid : Bool) (rssiDbm linkSpeedMbps : ℤ) (now : ℤ)
  | refreshRateChanged (refreshHz : Flt)
  /-- `finish_video_frame` books a frame between two packets. -/
  | frameBytes (frameIndex streamIndex bytes : ℕ) (now : ℤ)
deriving DecidableEq, Repr

namespace Transport

open BitrateController

/-! ## The handlers -/

/-- `frame_period_ns`. -/
def framePeriodNs (t : Transport) : ℤ :=
  match t.refreshHz with
  | .val q => if 1 < q then ⌊1000000000 / q⌋ else 0
  | _ => 0

/-- `std::max_element`, with a float's `<`. -/
def maxRate (first : Flt) (rates : List Flt) : Flt :=
  rates.foldl (fun best rate => if best.lt rate then rate else best) first

/-- The codecs the encoder may produce: whatever the client can decode, and H.264
when it named none of them. -/
def allowedCodecs (info : HeadsetInfo) : Bool × Bool :=
  let h265 := info.supportedCodecs.contains .h265
  let h264 := info.supportedCodecs.contains .h264
  if ¬ h265 ∧ ¬ h264 then (false, true) else (h265, h264)

/-- `publish_video_request`. -/
def publishVideoRequest (t : Transport) : Transport :=
  let allowed := allowedCodecs t.info
  { t with bridge := t.bridge.setClient t.refreshHz allowed.1 allowed.2 }

/-- What the encoder gets of the link while `fec` is on; `share` is
`fec::data_share` of the group size. -/
def dataShare (share : ℚ) (fec : Bool) : ℚ := if fec then share else 1

/-- `apply_bitrate`. -/
def applyBitrate (share : ℚ) (t : Transport) (bitrateBps : Option ℕ) : Transport :=
  match bitrateBps with
  | none => t
  | some bps =>
    if bps = 0 then t
    else { t with bridge := t.bridge.setBitrate (trunc (bps * dataShare share t.fecEnabled)) }

/-- What an operation of the controller returned is applied. -/
def adopt (share : ℚ) (t : Transport) (r : BitrateController × Option ℕ) : Transport :=
  applyBitrate share { t with bitrate := r.1 } r.2

/-- The pacing window that the controller is told of: 0 when the shards are not
paced. -/
def windowInForce (t : Transport) (pacing : Bool) : ℚ :=
  if pacing then min t.pacingWindow ShardPacer.maxWindow else 0

/-- `configure_transport`. -/
def configureTransport (share : ℚ) (t : Transport) : Transport :=
  let settings := t.info.settings
  let adaptive := t.bridge.prefAdaptive
  let pacing := adaptive && settings.smoothPacing
  let configured := t.bitrate.configure { enabled := adaptive } t.bridge.prefBitrateBps
    settings.bitrateAuto settings.radioAware settings.bitrateControl
  let t :=
    { t with
      bitrate := configured.setPacingWindow (t.windowInForce pacing)
      pacingEnabled := pacing
      pacingSlot := t.pacingSlot.reset
      fecEnabled := adaptive && settings.fec && t.hasStreamSocket }
  applyBitrate share t (some t.bitrate.bitrate)

/-- `on_headset_info`. -/
def onHeadsetInfo (share : ℚ) (t : Transport) (info : HeadsetInfo) : Transport :=
  let preferred := info.settings.preferredRefreshRate
  let refreshHz :=
    if preferred.aboveOne then preferred
    else
      match info.availableRefreshRates with
      | [] => .val 90
      | first :: rest => maxRate first rest
  configureTransport share { t with
    info := info, refreshHz := refreshHz,
    standbyFreeze := info.settings.standbyFreeze }.publishVideoRequest

/-- The refresh rate part of `on_settings`: a different frame rate is a different
encoder. -/
def newRefreshRate (t : Transport) (settings : SettingsChanged) : Bool :=
  settings.preferredRefreshRate.aboveOne && !settings.preferredRefreshRate.beq t.refreshHz

def setRefreshRate (t : Transport) (refreshHz : Flt) : Transport :=
  { t with refreshHz := refreshHz }.publishVideoRequest

/-- The pacing part of `on_settings`. -/
def setPacing (t : Transport) (pacing : Bool) : Transport :=
  if pacing = t.pacingEnabled then t
  else
    { t with
      pacingEnabled := pacing
      pacingSlot := t.pacingSlot.reset
      bitrate := t.bitrate.setPacingWindow (t.windowInForce pacing) }

/-- The parity part of `on_settings`: the encoder's share of the link changes with it. -/
def setFec (share : ℚ) (t : Transport) (fec : Bool) : Transport :=
  if fec = t.fecEnabled then t
  else applyBitrate share { t with fecEnabled := fec } (some t.bitrate.bitrate)

/-- `on_settings`, up to the transport switches. -/
def settingsRefresh (t : Transport) (settings : SettingsChanged) : Transport :=
  let t := { t with standbyFreeze := settings.standbyFreeze }
  let t :=
    if t.newRefreshRate settings then t.setRefreshRate settings.preferredRefreshRate else t
  { t with info := { t.info with settings := settings } }

/-- The controller's switches in `on_settings`; `adaptive` is false while
`--no-adaptive` is in force. -/
def settingsControl (share : ℚ) (t : Transport) (settings : SettingsChanged)
    (adaptive : Bool) : Transport :=
  let t := { t with bitrate := t.bitrate.setRadioAware (adaptive && settings.radioAware) }
  let t := t.adopt share (t.bitrate.setClientEnabled (adaptive && settings.bitrateAuto))
  t.adopt share (t.bitrate.setClientMode settings.bitrateControl)

/-- The switches for pacing and parity in `on_settings`. -/
def settingsPacing (share : ℚ) (t : Transport) (settings : SettingsChanged)
    (adaptive : Bool) : Transport :=
  (t.setPacing (adaptive && settings.smoothPacing)).setFec share
    (adaptive && settings.fec && t.hasStreamSocket)

/-- `on_settings`. -/
def onSettings (share : ℚ) (t : Transport) (settings : SettingsChanged) : Transport :=
  ((t.settingsRefresh settings).settingsControl share settings t.bridge.prefAdaptive).settingsPacing
    share settings t.bridge.prefAdaptive

/-- `on_feedback`. -/
def onFeedback (share : ℚ) (t : Transport) (feedback : Feedback) (now : ℤ) : Transport :=
  let r := t.idr.onFeedback feedback now
  let t := { t with idr := r.1 }
  let t :=
    if r.2 then { t with bridge := t.bridge.requestIdr, idrRequests := t.idrRequests + 1 } else t
  t.adopt share (t.bitrate.onFeedback feedback t.framePeriodNs true now)

/-- One event. -/
def step (share : ℚ) (t : Transport) : TransportEvent → Option Transport
  | .headsetInfo info => some (t.onHeadsetInfo share info)
  | .settingsChanged settings => some (t.onSettings share settings)
  | .feedback feedback now => some (t.onFeedback share feedback now)
  | .wifiState valid rssiDbm linkSpeedMbps now =>
    some (if valid then t.adopt share (t.bitrate.onWifiState rssiDbm linkSpeedMbps now)
      else { t with discardedPackets := t.discardedPackets + 1 })
  | .refreshRateChanged hz => some (if hz.aboveOne then t.setRefreshRate hz else t)
  | .frameBytes frameIndex streamIndex bytes now =>
    some { t with bitrate := t.bitrate.onFrameBytes frameIndex streamIndex bytes now }

/-! ## Following -/

/-- What the encoder is to be asked for. -/
def scaled (share : ℚ) (t : Transport) : ℕ :=
  trunc (t.bitrate.bitrate * dataShare share t.fecEnabled)

/-- The encoder has been asked for the controller's bitrate, times the share. -/
def Follows (share : ℚ) (t : Transport) : Prop :=
  scaled share t ≠ 0 → t.bridge.request.bitrateBps = scaled share t

instance (share : ℚ) (t : Transport) : Decidable (Follows share t) :=
  inferInstanceAs (Decidable (scaled share t ≠ 0 → t.bridge.request.bitrateBps = scaled share t))

/-- The controller's bitrate, times the share, is the ceiling. -/
def AtCeiling (share : ℚ) (t : Transport) : Prop :=
  scaled share t ≠ 0 → t.bridge.prefBitrateBps = scaled share t

instance (share : ℚ) (t : Transport) : Decidable (AtCeiling share t) :=
  inferInstanceAs (Decidable (scaled share t ≠ 0 → t.bridge.prefBitrateBps = scaled share t))

/-- `on_settings` comes with a change of the bitrate or of the share. -/
def Reapplies (t : Transport) (settings : SettingsChanged) : Prop :=
  (t.bridge.prefAdaptive && settings.bitrateAuto) ≠ t.bitrate.clientEnabled ∨
    settings.bitrateControl.getD t.bitrate.conf.control ≠ t.bitrate.mode ∨
      (t.bridge.prefAdaptive && settings.fec && t.hasStreamSocket) ≠ t.fecEnabled

/-- A change of the refresh rate comes with one of the bitrate, or finds it at the
ceiling. -/
def RefreshKept (share : ℚ) (t : Transport) (e : TransportEvent) (_ : Transport) : Prop :=
  match e with
  | .refreshRateChanged hz => hz.aboveOne = true → AtCeiling share t
  | .settingsChanged settings =>
    t.newRefreshRate settings = true → ¬ Reapplies t settings → AtCeiling share t
  | _ => True

/-- A session with a client and a ceiling, which the controller has too. -/
structure Up (t : Transport) : Prop where
  active : t.bridge.request.active = true
  ceiling : t.bitrate.ceiling = t.bridge.prefBitrateBps
  positive : 0 < t.bridge.prefBitrateBps

/-! ## Each handler -/

/-- What is applied is followed. -/
theorem applyBitrate_follows (share : ℚ) {t : Transport} (h : t.bridge.request.active = true) :
    Follows share (applyBitrate share t (some t.bitrate.bitrate)) := by
  intro hne
  simp only [applyBitrate] at hne ⊢
  split
  · rename_i hzero
    simp [scaled, hzero, trunc] at hne
  · rename_i hpos
    rw [if_neg hpos] at hne
    have hvalue : trunc (t.bitrate.bitrate * dataShare share t.fecEnabled) ≠ 0 := hne
    change (t.bridge.setBitrate _).request.bitrateBps = trunc _
    unfold VideoBridge.setBitrate
    split
    · rename_i hskip
      rcases hskip with hactive | hzero | hsame
      · exact absurd h hactive
      · exact absurd hzero hvalue
      · exact hsame.symm
    · rfl

/-- Applying a bitrate touches the bitrate of the request only. -/
theorem applyBitrate_keeps (share : ℚ) (t : Transport) (b : Option ℕ) :
    let t' := applyBitrate share t b
    t'.bridge.request.active = t.bridge.request.active ∧
      t'.bridge.prefBitrateBps = t.bridge.prefBitrateBps ∧
      t'.bridge.prefAdaptive = t.bridge.prefAdaptive ∧ t'.bitrate = t.bitrate ∧
      t'.fecEnabled = t.fecEnabled ∧ t'.hasStreamSocket = t.hasStreamSocket ∧
      t'.pacingEnabled = t.pacingEnabled := by
  simp only [applyBitrate]
  split
  · simp
  · split
    · simp
    · simp only [VideoBridge.setBitrate]
      split <;> simp

theorem Up.applyBitrate {share : ℚ} {t : Transport} (h : Up t) (b : Option ℕ) :
    Up (applyBitrate share t b) := by
  rcases applyBitrate_keeps share t b with ⟨hactive, hpref, -, hbitrate, -⟩
  exact ⟨hactive.trans h.active, by rw [hbitrate, hpref]; exact h.ceiling,
    by rw [hpref]; exact h.positive⟩

/-- An operation of the controller, adopted: what it returned is followed; when it
returned nothing, nothing has changed. -/
theorem adopt_spec (share : ℚ) {t : Transport} {r : BitrateController × Option ℕ} (h : Up t)
    (hdecides : r.1.bitrate = r.2.getD t.bitrate.bitrate)
    (hceiling : r.1.ceiling = t.bitrate.ceiling) :
    Up (t.adopt share r) ∧ (r.2 ≠ none → Follows share (t.adopt share r)) ∧
      (r.2 = none → (t.adopt share r).bridge = t.bridge ∧
        scaled share (t.adopt share r) = scaled share t) := by
  have hup : Up { t with bitrate := r.1 } := ⟨h.active, hceiling.trans h.ceiling, h.positive⟩
  refine ⟨hup.applyBitrate r.2, ?_, ?_⟩
  · intro hsome
    cases hr : r.2 with
    | none => exact absurd hr hsome
    | some b =>
      have hb : b = r.1.bitrate := by
        rw [hdecides, hr]
        rfl
      rw [adopt, hr, hb]
      exact applyBitrate_follows share h.active
  · intro hnone
    rw [hnone] at hdecides
    rw [adopt, hnone]
    refine ⟨rfl, ?_⟩
    change trunc (r.1.bitrate * _) = trunc (t.bitrate.bitrate * _)
    rw [hdecides]
    rfl

/-- So following is what it was, unless a bitrate was returned. -/
theorem adopt_follows_iff (share : ℚ) {t : Transport} {r : BitrateController × Option ℕ}
    (h : Up t) (hdecides : r.1.bitrate = r.2.getD t.bitrate.bitrate)
    (hceiling : r.1.ceiling = t.bitrate.ceiling) :
    Follows share (t.adopt share r) ↔ r.2 ≠ none ∨ Follows share t := by
  rcases adopt_spec share h hdecides hceiling with ⟨-, hsome, hnone⟩
  by_cases hr : r.2 = none
  · rcases hnone hr with ⟨hbridge, hscaled⟩
    simp only [Follows, hbridge, hscaled, hr, ne_eq, not_true_eq_false, false_or]
  · simp only [hsome hr, hr, ne_eq, not_false_eq_true, true_or]

/-- So following is kept by the controller's own decisions. -/
theorem adopt_follows (share : ℚ) {t : Transport} {r : BitrateController × Option ℕ} (h : Up t)
    (hdecides : Decides t.bitrate r) (hfollows : Follows share t) :
    Up (t.adopt share r) ∧ Follows share (t.adopt share r) := by
  have hceiling : r.1.ceiling = t.bitrate.ceiling :=
    congrArg BitrateController.Settings.ceiling hdecides.settings
  refine ⟨(adopt_spec share h hdecides.reports hceiling).1, ?_⟩
  exact (adopt_follows_iff share h hdecides.reports hceiling).mpr (.inr hfollows)

/-- `set_client` puts the ceiling into the request. -/
theorem setRefreshRate_follows_iff (share : ℚ) {t : Transport} (h : Up t) (hz : Flt) :
    Up (t.setRefreshRate hz) ∧ (Follows share (t.setRefreshRate hz) ↔ AtCeiling share t) :=
  ⟨⟨rfl, h.ceiling, h.positive⟩, Iff.rfl⟩

theorem setFec_follows_iff (share : ℚ) {t : Transport} (h : Up t) (fec : Bool) :
    Up (t.setFec share fec) ∧
      (Follows share (t.setFec share fec) ↔ fec ≠ t.fecEnabled ∨ Follows share t) := by
  unfold setFec
  split
  · rename_i hsame
    exact ⟨h, by simp [hsame]⟩
  · rename_i hchanged
    have hup : Up { t with fecEnabled := fec } := ⟨h.active, h.ceiling, h.positive⟩
    have hfollows : Follows share
        (Transport.applyBitrate share { t with fecEnabled := fec } (some t.bitrate.bitrate)) :=
      applyBitrate_follows share (t := { t with fecEnabled := fec }) h.active
    refine ⟨hup.applyBitrate _, ?_⟩
    simp only [hfollows, hchanged, ne_eq, not_false_eq_true, true_or]

theorem setPacing_follows_iff (share : ℚ) {t : Transport} (h : Up t) (pacing : Bool) :
    Up (t.setPacing pacing) ∧ (Follows share (t.setPacing pacing) ↔ Follows share t) ∧
      (t.setPacing pacing).fecEnabled = t.fecEnabled ∧
      (t.setPacing pacing).hasStreamSocket = t.hasStreamSocket := by
  unfold setPacing
  split
  · exact ⟨h, Iff.rfl, rfl, rfl⟩
  · exact ⟨⟨h.active, h.ceiling, h.positive⟩, Iff.rfl, rfl, rfl⟩

/-- `set_radio_aware` leaves the rest of the settings and the bitrate alone. -/
theorem setRadioAware_keeps (c : BitrateController) (enabled : Bool) :
    let c' := c.setRadioAware enabled
    c'.bitrate = c.bitrate ∧ c'.ceiling = c.ceiling ∧ c'.conf = c.conf ∧
      c'.clientMode = c.clientMode ∧ c'.clientEnabled = c.clientEnabled := by
  simp only [setRadioAware]
  split <;> exact ⟨rfl, rfl, rfl, rfl, rfl⟩

/-- Adopting an operation's result changes the controller and the request only. -/
theorem adopt_keeps (share : ℚ) (t : Transport) (r : BitrateController × Option ℕ) :
    (t.adopt share r).bitrate = r.1 ∧ (t.adopt share r).fecEnabled = t.fecEnabled ∧
      (t.adopt share r).hasStreamSocket = t.hasStreamSocket := by
  rcases applyBitrate_keeps share { t with bitrate := r.1 } r.2 with
    ⟨-, -, -, hbitrate, hfec, hstream, -⟩
  exact ⟨hbitrate, hfec, hstream⟩

/-- The headset's switch, applied. -/
theorem clientEnabled_follows_iff (share : ℚ) {t : Transport} (h : Up t) (enabled : Bool) :
    let t' := t.adopt share (t.bitrate.setClientEnabled enabled)
    Up t' ∧ (Follows share t' ↔ enabled ≠ t.bitrate.clientEnabled ∨ Follows share t) ∧
      t'.bitrate.conf = t.bitrate.conf ∧ t'.bitrate.clientMode = t.bitrate.clientMode := by
  have hpositive : t.bitrate.ceiling ≠ 0 := by
    rw [h.ceiling]
    exact h.positive.ne'
  rcases setClientEnabled_spec hpositive enabled with
    ⟨hdecides, hceiling, hconf, hmode, hreturns⟩
  rcases adopt_keeps share t (t.bitrate.setClientEnabled enabled) with ⟨hbitrate, -⟩
  refine ⟨(adopt_spec share h hdecides hceiling).1, ?_, ?_, ?_⟩
  · rw [adopt_follows_iff share h hdecides hceiling, hreturns]
  · rw [hbitrate, hconf]
  · rw [hbitrate, hmode]

/-- The headset's selector, applied. -/
theorem clientMode_follows_iff (share : ℚ) {t : Transport} (h : Up t)
    (m : Option BitrateMode) :
    let t' := t.adopt share (t.bitrate.setClientMode m)
    Up t' ∧ (Follows share t' ↔
      m.getD t.bitrate.conf.control ≠ t.bitrate.mode ∨ Follows share t) := by
  have hpositive : t.bitrate.ceiling ≠ 0 := by
    rw [h.ceiling]
    exact h.positive.ne'
  rcases setClientMode_spec hpositive m with ⟨hdecides, hceiling, hreturns⟩
  refine ⟨(adopt_spec share h hdecides hceiling).1, ?_⟩
  rw [adopt_follows_iff share h hdecides hceiling, hreturns]

/-- The controller's switches: following is restored by a change of either. -/
theorem settingsControl_follows_iff (share : ℚ) {t : Transport} (h : Up t)
    (settings : SettingsChanged) (adaptive : Bool) :
    let t' := t.settingsControl share settings adaptive
    Up t' ∧ (Follows share t' ↔
      ((adaptive && settings.bitrateAuto) ≠ t.bitrate.clientEnabled ∨
        settings.bitrateControl.getD t.bitrate.conf.control ≠ t.bitrate.mode) ∨
          Follows share t) ∧
      t'.fecEnabled = t.fecEnabled ∧ t'.hasStreamSocket = t.hasStreamSocket := by
  rcases setRadioAware_keeps t.bitrate (adaptive && settings.radioAware) with
    ⟨hbitrate, hceiling, hconf, hmode, henabled⟩
  simp only [settingsControl]
  generalize t.bitrate.setRadioAware (adaptive && settings.radioAware) = c at *
  have hup : Up { t with bitrate := c } := ⟨h.active, hceiling.trans h.ceiling, h.positive⟩
  have hfollows : Follows share { t with bitrate := c } ↔ Follows share t := by
    simp only [Follows, scaled, hbitrate]
  rcases clientEnabled_follows_iff share hup (adaptive && settings.bitrateAuto) with
    ⟨hup₂, hfollows₂, hconf₂, hmode₂⟩
  rcases adopt_keeps share { t with bitrate := c }
    (c.setClientEnabled (adaptive && settings.bitrateAuto)) with ⟨-, hfec₂, hstream₂⟩
  simp only at hup₂ hfollows₂ hconf₂ hmode₂ hfec₂ hstream₂
  generalize ({ t with bitrate := c } : Transport).adopt share
    (c.setClientEnabled (adaptive && settings.bitrateAuto)) = t₂ at *
  rcases clientMode_follows_iff share hup₂ settings.bitrateControl with ⟨hup₃, hfollows₃⟩
  rcases adopt_keeps share t₂ (t₂.bitrate.setClientMode settings.bitrateControl) with
    ⟨-, hfec₃, hstream₃⟩
  have hlaw : t₂.bitrate.mode = t.bitrate.mode := by
    simp only [BitrateController.mode, hconf₂, hmode₂, hconf, hmode]
  refine ⟨hup₃, ?_, hfec₃.trans hfec₂, hstream₃.trans hstream₂⟩
  rw [hfollows₃, hfollows₂, hfollows, hconf₂, hconf, hlaw, henabled, ← or_assoc]
  exact or_congr_left or_comm

theorem settingsPacing_follows_iff (share : ℚ) {t : Transport} (h : Up t)
    (settings : SettingsChanged) (adaptive : Bool) :
    let t' := t.settingsPacing share settings adaptive
    Up t' ∧ (Follows share t' ↔
      (adaptive && settings.fec && t.hasStreamSocket) ≠ t.fecEnabled ∨ Follows share t) := by
  rcases setPacing_follows_iff share h (adaptive && settings.smoothPacing) with
    ⟨hup, hiff, hfec, -⟩
  rcases setFec_follows_iff share hup (adaptive && settings.fec && t.hasStreamSocket) with
    ⟨hup', hiff'⟩
  refine ⟨hup', ?_⟩
  rw [settingsPacing, hiff', hiff, hfec]

/-- A new refresh rate in `on_settings` puts the ceiling into the request. -/
theorem settingsRefresh_follows_iff (share : ℚ) {t : Transport} (h : Up t)
    (hfollows : Follows share t) (settings : SettingsChanged) :
    let t' := t.settingsRefresh settings
    Up t' ∧ (Follows share t' ↔ (t.newRefreshRate settings = true → AtCeiling share t)) ∧
      t'.bitrate = t.bitrate ∧ t'.fecEnabled = t.fecEnabled ∧
      t'.hasStreamSocket = t.hasStreamSocket := by
  have hfrozen : Up { t with standbyFreeze := settings.standbyFreeze } :=
    ⟨h.active, h.ceiling, h.positive⟩
  have hnew : ({ t with standbyFreeze := settings.standbyFreeze } : Transport).newRefreshRate
      settings = t.newRefreshRate settings := rfl
  simp only [settingsRefresh, hnew]
  split
  · rename_i hchanged
    rcases setRefreshRate_follows_iff share hfrozen settings.preferredRefreshRate with
      ⟨hup, hiff⟩
    refine ⟨⟨hup.active, hup.ceiling, hup.positive⟩, ?_, rfl, rfl, rfl⟩
    simp only [hchanged, forall_const]
    exact hiff
  · rename_i hsame
    refine ⟨⟨h.active, h.ceiling, h.positive⟩, ?_, rfl, rfl, rfl⟩
    simp only [hsame, Bool.false_eq_true, false_imp_iff, iff_true]
    exact hfollows

/-- `on_settings`: a new refresh rate loses the bitrate, and the switches may correct
it. -/
theorem onSettings_follows_iff (share : ℚ) {t : Transport} (h : Up t)
    (hfollows : Follows share t) (settings : SettingsChanged) :
    Up (t.onSettings share settings) ∧ (Follows share (t.onSettings share settings) ↔
      (t.newRefreshRate settings = true → ¬ Reapplies t settings → AtCeiling share t)) := by
  rcases settingsRefresh_follows_iff share h hfollows settings with
    ⟨hup₁, hiff₁, hbitrate₁, hfec₁, hstream₁⟩
  rcases settingsControl_follows_iff share hup₁ settings t.bridge.prefAdaptive with
    ⟨hup₂, hiff₂, hfec₂, hstream₂⟩
  rcases settingsPacing_follows_iff share hup₂ settings t.bridge.prefAdaptive with
    ⟨hup₃, hiff₃⟩
  rw [onSettings]
  refine ⟨hup₃, ?_⟩
  rw [hiff₃, hiff₂, hiff₁, hfec₂, hfec₁, hstream₂, hstream₁, hbitrate₁, Reapplies]
  -- Any of the three changes makes up for the lost bitrate
  constructor
  · rintro (hfec | (hauto | hcontrol) | hceiling) hnew hnone
    · exact (hnone (.inr (.inr hfec))).elim
    · exact (hnone (.inl hauto)).elim
    · exact (hnone (.inr (.inl hcontrol))).elim
    · exact hceiling hnew
  · intro hkept
    by_contra hnone
    rw [not_or, not_or, not_or] at hnone
    obtain ⟨hfec, ⟨hauto, hcontrol⟩, hceiling⟩ := hnone
    refine hceiling fun hnew => hkept hnew ?_
    rintro (h | h | h)
    · exact hauto h
    · exact hcontrol h
    · exact hfec h

/-- `on_headset_info`: the ceiling, into both the controller and the request, and the
share applied. -/
theorem onHeadsetInfo_follows (share : ℚ) {t : Transport} (h : 0 < t.bridge.prefBitrateBps)
    (info : HeadsetInfo) :
    Up (t.onHeadsetInfo share info) ∧ Follows share (t.onHeadsetInfo share info) := by
  simp only [onHeadsetInfo, configureTransport]
  refine ⟨Up.applyBitrate ?_ _, applyBitrate_follows share ?_⟩
  · exact ⟨rfl, rfl, h⟩
  · rfl

theorem onFeedback_follows (share : ℚ) {t : Transport} (h : Up t) (hfollows : Follows share t)
    (feedback : Feedback) (now : ℤ) :
    Up (t.onFeedback share feedback now) ∧ Follows share (t.onFeedback share feedback now) := by
  simp only [Transport.onFeedback]
  split
  · exact adopt_follows share (t := { t with
      idr := (t.idr.onFeedback feedback now).1, bridge := t.bridge.requestIdr,
      idrRequests := t.idrRequests + 1 })
      ⟨h.active, h.ceiling, h.positive⟩ (onFeedback_decides _ _ _ _ _) hfollows
  · exact adopt_follows share (t := { t with idr := (t.idr.onFeedback feedback now).1 })
      ⟨h.active, h.ceiling, h.positive⟩ (onFeedback_decides _ _ _ _ _) hfollows

/-- Each event keeps the session up; following survives it exactly when the condition
on refresh rates is met. -/
theorem step_follows_iff (share : ℚ) (t : Transport) (e : TransportEvent) (t' : Transport)
    (h : Up t) (hfollows : Follows share t) (hs : step share t e = some t') :
    Up t' ∧ (Follows share t' ↔ RefreshKept share t e t') := by
  cases e with
  | headsetInfo info =>
    cases hs
    rcases onHeadsetInfo_follows share h.positive info with ⟨hup, hf⟩
    exact ⟨hup, iff_of_true hf trivial⟩
  | settingsChanged settings =>
    cases hs
    exact onSettings_follows_iff share h hfollows settings
  | feedback feedback now =>
    cases hs
    rcases onFeedback_follows share h hfollows feedback now with ⟨hup, hf⟩
    exact ⟨hup, iff_of_true hf trivial⟩
  | wifiState valid rssiDbm linkSpeedMbps now =>
    cases hs
    cases valid with
    | true =>
      rcases adopt_follows share h (onWifiState_decides t.bitrate rssiDbm linkSpeedMbps now)
        hfollows with ⟨hup, hf⟩
      exact ⟨hup, iff_of_true hf trivial⟩
    | false => exact ⟨⟨h.active, h.ceiling, h.positive⟩, iff_of_true hfollows trivial⟩
  | refreshRateChanged hz =>
    cases hs
    by_cases habove : hz.aboveOne = true
    · rcases setRefreshRate_follows_iff share h hz with ⟨hup, hiff⟩
      simp only [RefreshKept, habove, forall_const]
      exact ⟨hup, hiff⟩
    · simp only [RefreshKept, habove, Bool.false_eq_true, false_imp_iff, iff_true]
      exact ⟨h, hfollows⟩
  | frameBytes frameIndex streamIndex bytes now =>
    cases hs
    have hcore := onFrameBytes_core t.bitrate frameIndex streamIndex bytes now
    have hbitrate := bitrate_of_core hcore
    have hceiling := congrArg BitrateController.Settings.ceiling (settings_of_core hcore)
    refine ⟨⟨h.active, hceiling.trans h.ceiling, h.positive⟩, iff_of_true ?_ trivial⟩
    intro hne
    simp only [scaled, hbitrate] at hne ⊢
    exact hfollows hne

/-! ## Runs -/

/-- The bitrate requested from the encoder is the controller's, times the share, after
every handler from the first headset info on, exactly when every new refresh rate
comes with a change of the bitrate or finds it at the ceiling. -/
theorem bitrate_followed_iff (share : ℚ) (t : Transport) (h : 0 < t.bridge.prefBitrateBps)
    (info : HeadsetInfo) (es : List TransportEvent) :
    (Follows share (t.onHeadsetInfo share info) ∧
      Runs.Along (step share) (fun _ _ t' => Follows share t') (t.onHeadsetInfo share info) es) ↔
    Runs.Along (step share) (RefreshKept share) (t.onHeadsetInfo share info) es := by
  rcases onHeadsetInfo_follows share h info with ⟨hup, hfollows⟩
  have hiff := Runs.along_after_iff (step_follows_iff share) es _ hup hfollows
  rw [hiff]
  exact and_iff_right hfollows

/-- Without parity the share is everything, so a new refresh rate changes nothing. -/
theorem bitrate_followed_without_fec :
    Follows (8 / 9) (({} : Transport).onHeadsetInfo (8 / 9) { settings := { fec := false } }) ∧
      Runs.Along (step (8 / 9)) (fun _ _ t' => Follows (8 / 9) t')
        (({} : Transport).onHeadsetInfo (8 / 9) { settings := { fec := false } })
        [.refreshRateChanged (.val 72), .wifiState true (-60) 400 1] := by
  refine (bitrate_followed_iff (8 / 9) {} (by decide) _ _).mpr ?_
  refine ⟨fun _ => ?_, trivial, trivial⟩
  decide +kernel

/-- With parity on, the encoder has 8/9 of the ceiling until the headset asks for
another refresh rate: then it has all of it. -/
theorem bitrate_lost_at_72_hz :
    ¬ (Follows (8 / 9) (({} : Transport).onHeadsetInfo (8 / 9) {}) ∧
      Runs.Along (step (8 / 9)) (fun _ _ t' => Follows (8 / 9) t')
        (({} : Transport).onHeadsetInfo (8 / 9) {}) [.refreshRateChanged (.val 72)]) := by
  decide +kernel

end Transport

end WivrnNx
