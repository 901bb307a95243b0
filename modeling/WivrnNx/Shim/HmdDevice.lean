import WivrnNx.Bridge
import WivrnNx.Lib.Runs

/-!
# The headset's config on its way to vrserver

`HmdDevice` (shim/src/hmd_device.cpp): `set_config` on the IPC thread, and on
vrserver's own thread `consume_registration_request`, `registration_failed`,
`Activate`, `push_pending_geometry` and `Deactivate`. An access to `config_` or to one
of the atomics is one step. The host interfaces are there, and vrserver activates
a device that `TrackedDeviceAdded` has answered true for and no other, as
openvr_driver.h has it. The float arithmetic on the way to the host is left out: what
the host gets is named by the fields it is computed from.
-/

namespace WivrnNx

/-- What `apply_display_geometry` hands to the host. -/
structure DisplayGeometry where
  eyeToHeadQ : Fin 2 → Fin 4 → FloatBits
  eyeToHeadP : Fin 2 → Fin 3 → FloatBits
  projLeft : FloatBits × FloatBits
  projRight : FloatBits × FloatBits
  projTop : FloatBits × FloatBits
  projBottom : FloatBits × FloatBits
deriving DecidableEq

/-- What `apply_runtime_properties` and `Activate` write of the config. -/
structure RuntimeProperties where
  refreshHz : FloatBits
  ipdM : FloatBits
deriving DecidableEq

def HmdConfig.displayGeometry (c : HmdConfig) : DisplayGeometry where
  eyeToHeadQ := c.eyeToHeadQ
  eyeToHeadP := c.eyeToHeadP
  projLeft := c.projLeft
  projRight := c.projRight
  projTop := c.projTop
  projBottom := c.projBottom

def HmdConfig.runtimeProperties (c : HmdConfig) : RuntimeProperties where
  refreshHz := c.refreshHz
  ipdM := c.ipdM

/-- Where the IPC thread is in `set_config`. -/
inductive ConfigThread where
  | idle
  /-- `config_` is stored, `registered_` not yet read. -/
  | stored
  /-- It read true: the flags are next. -/
  | live
  | flagged
  /-- It read false: the registration is wanted. -/
  | fresh
deriving DecidableEq

/-- Where vrserver's thread is in the device. -/
inductive HostThread where
  | idle
  /-- `consume_registration_request` found `registered_` false. -/
  | consuming
  | consumed
  /-- In `TrackedDeviceAdded`. -/
  | adding
  /-- In `registration_failed`. -/
  | failing
  | failed
  /-- In `Activate`, before the copy of the config. -/
  | activating
  | copied (config : HmdConfig)
  | written
  | activated
  /-- In `push_pending_geometry`, past the check. -/
  | pushing
  | exchanged (geometry : Bool)
  | pending (geometry properties : Bool)
  | applying (geometry properties : Bool) (config : HmdConfig)
  | applyingGeometry (geometry : Bool) (config : HmdConfig)
deriving DecidableEq

/-- `HmdDevice`, with what the host was given last. -/
structure HmdDevice where
  config : HmdConfig
  objectId : Option ℕ := none
  propContainer : Option ℕ := none
  registrationWanted : Bool := false
  registered : Bool := false
  activated : Bool := false
  geometryDirty : Bool := false
  propertiesDirty : Bool := false
  ipc : ConfigThread := .idle
  vrserver : HostThread := .idle
  geometry : Option DisplayGeometry := none
  properties : Option RuntimeProperties := none
  /-- `TrackedDeviceAdded` has answered true. -/
  added : Bool := false
  /-- The calls of `TrackedDeviceAdded`. -/
  requests : ℕ := 0
deriving DecidableEq

namespace HmdDevice

/-- The steps of `set_config`. -/
inductive ConfigEvent where
  | setConfig (config : HmdConfig)
  | readRegistered
  | storeProperties
  | storeGeometry
  | storeWanted
deriving DecidableEq

/-- Those of `consume_registration_request`, `TrackedDeviceAdded` and `registration_failed`. -/
inductive RegisterEvent where
  | consume
  | exchangeWanted
  | storeRegistered
  | trackedDeviceAdded (answer : Bool)
  | clearRegistered
  | storeWanted
deriving DecidableEq

/-- Those of `Activate`, and `Deactivate`. -/
inductive ActivateEvent where
  | activate (objectId container : ℕ)
  | copyConfig
  | writeProperties
  | storeActivated
  | storeGeometry
  | deactivate
deriving DecidableEq

/-- Those of `push_pending_geometry`. -/
inductive PushEvent where
  | push
  | exchangeGeometry
  | exchangeProperties
  | copyConfig
  | applyProperties
  | applyGeometry
deriving DecidableEq

inductive Event where
  | config (e : ConfigEvent)
  | register (e : RegisterEvent)
  | activate (e : ActivateEvent)
  | push (e : PushEvent)
deriving DecidableEq

/-- `set_config`. -/
def configStep (s : HmdDevice) : ConfigEvent → Option HmdDevice
  | .setConfig config =>
    if s.ipc = .idle then some { s with config := config, ipc := .stored } else none
  | .readRegistered =>
    if s.ipc = .stored then some { s with ipc := if s.registered then .live else .fresh } else none
  | .storeProperties =>
    if s.ipc = .live then some { s with propertiesDirty := true, ipc := .flagged } else none
  | .storeGeometry =>
    if s.ipc = .flagged then some { s with geometryDirty := true, ipc := .idle } else none
  | .storeWanted =>
    if s.ipc = .fresh then some { s with registrationWanted := true, ipc := .idle } else none

/-- `register_pending_devices`, as far as the headset goes. -/
def registerStep (s : HmdDevice) : RegisterEvent → Option HmdDevice
  | .consume =>
    if s.vrserver = .idle then
      some { s with vrserver := if s.registered then .idle else .consuming }
    else none
  | .exchangeWanted =>
    if s.vrserver = .consuming then
      some { s with
        registrationWanted := false
        vrserver := if s.registrationWanted then .consumed else .idle }
    else none
  | .storeRegistered =>
    if s.vrserver = .consumed then
      some { s with registered := true, requests := s.requests + 1, vrserver := .adding }
    else none
  | .trackedDeviceAdded answer =>
    if s.vrserver = .adding then
      some { s with added := answer, vrserver := if answer then .idle else .failing }
    else none
  | .clearRegistered =>
    if s.vrserver = .failing then some { s with registered := false, vrserver := .failed } else none
  | .storeWanted =>
    if s.vrserver = .failed then some { s with registrationWanted := true, vrserver := .idle }
    else none

def activateStep (s : HmdDevice) : ActivateEvent → Option HmdDevice
  | .activate objectId container =>
    if s.vrserver = .idle ∧ s.added then
      some { s with
        objectId := some objectId
        propContainer := some container
        vrserver := .activating }
    else none
  | .copyConfig =>
    if s.vrserver = .activating then some { s with vrserver := .copied s.config } else none
  | .writeProperties =>
    match s.vrserver with
    | .copied config =>
      some { s with properties := some config.runtimeProperties, vrserver := .written }
    | _ => none
  | .storeActivated =>
    if s.vrserver = .written then some { s with activated := true, vrserver := .activated }
    else none
  | .storeGeometry =>
    if s.vrserver = .activated then some { s with geometryDirty := true, vrserver := .idle }
    else none
  | .deactivate =>
    if s.vrserver = .idle then
      some { s with activated := false, objectId := none, propContainer := none }
    else none

/-- `push_pending_geometry`. -/
def pushStep (s : HmdDevice) : PushEvent → Option HmdDevice
  | .push =>
    if s.vrserver = .idle then
      some { s with vrserver := if s.activated then .pushing else .idle }
    else none
  | .exchangeGeometry =>
    if s.vrserver = .pushing then
      some { s with geometryDirty := false, vrserver := .exchanged s.geometryDirty }
    else none
  | .exchangeProperties =>
    match s.vrserver with
    | .exchanged geometry =>
      some { s with
        propertiesDirty := false
        vrserver := if geometry || s.propertiesDirty then .pending geometry s.propertiesDirty
          else .idle }
    | _ => none
  | .copyConfig =>
    match s.vrserver with
    | .pending geometry properties =>
      some { s with vrserver := .applying geometry properties s.config }
    | _ => none
  | .applyProperties =>
    match s.vrserver with
    | .applying geometry properties config =>
      some { s with
        properties :=
          if properties && s.propContainer.isSome then some config.runtimeProperties
          else s.properties
        vrserver := .applyingGeometry geometry config }
    | _ => none
  | .applyGeometry =>
    match s.vrserver with
    | .applyingGeometry geometry config =>
      some { s with
        geometry :=
          if geometry && s.objectId.isSome then some config.displayGeometry else s.geometry
        vrserver := .idle }
    | _ => none

/-- One step of either thread. -/
def step (s : HmdDevice) : Event → Option HmdDevice
  | .config e => s.configStep e
  | .register e => s.registerStep e
  | .activate e => s.activateStep e
  | .push e => s.pushStep e

end HmdDevice

/-! ## What is still owed to the host -/

/-- Between the first look at `registered_` and the host's answer taken to its end. -/
def HostThread.registering : HostThread → Bool
  | .consuming | .consumed | .adding | .failing | .failed => true
  | _ => false

/-- Inside `Activate`. -/
def HostThread.activating? : HostThread → Bool
  | .activating | .copied _ | .written | .activated => true
  | _ => false

/-- Inside `push_pending_geometry`. -/
def HostThread.pushing? : HostThread → Bool
  | .pushing | .exchanged _ | .pending _ _ | .applying _ _ _ | .applyingGeometry _ _ => true
  | _ => false

namespace HmdDevice

/-- The geometry that the host has once vrserver's thread is through. -/
def geometryOutcome (s : HmdDevice) : Option DisplayGeometry :=
  match s.vrserver with
  -- It marks the geometry, or is about to copy the config
  | .activated | .exchanged true | .pending true _ => some s.config.displayGeometry
  | .applying true _ config | .applyingGeometry true config => some config.displayGeometry
  | _ => s.geometry

/-- The same for the properties. -/
def propertiesOutcome (s : HmdDevice) : Option RuntimeProperties :=
  match s.vrserver with
  | .activating | .pending _ true => some s.config.runtimeProperties
  | .copied config | .applying _ true config => some config.runtimeProperties
  | _ => s.properties

/-- The geometry is marked, or `set_config` is about to mark it. -/
def geometryOwed (s : HmdDevice) : Prop :=
  s.geometryDirty = true ∨ s.ipc = .stored ∨ s.ipc = .live ∨ s.ipc = .flagged

def propertiesOwed (s : HmdDevice) : Prop :=
  s.propertiesDirty = true ∨ s.ipc = .stored ∨ s.ipc = .live

/-- What the host has will be the config's, or is owed to it. -/
structure Refreshing (s : HmdDevice) : Prop where
  /-- From `TrackedDeviceAdded` on `registered_` is set. -/
  registered : s.vrserver = .adding ∨ s.added = true → s.registered = true
  once : s.added = true → s.vrserver.registering = false
  added : s.activated = true ∨ s.vrserver.activating? = true → s.added = true
  pushing : s.vrserver.pushing? = true → s.activated = true
  handles : s.activated = true ∨ s.vrserver.activating? = true →
    s.objectId.isSome = true ∧ s.propContainer.isSome = true
  geometry : s.activated = true →
    s.geometryOutcome = some s.config.displayGeometry ∨ s.geometryOwed
  properties : s.activated = true ∨ s.vrserver.activating? = true →
    s.propertiesOutcome = some s.config.runtimeProperties ∨ s.propertiesOwed

/-- Before the host has taken the device nothing is owed to it. -/
theorem Refreshing.unadded {s : HmdDevice} (h : s.Refreshing) (hadded : s.added = false) :
    s.activated = false ∧ s.vrserver.activating? = false ∧ s.vrserver.pushing? = false := by
  have hactivated : s.activated = false := by
    by_contra hactivated
    have := h.added (.inl (by simpa using hactivated))
    rw [hadded] at this
    cases this
  refine ⟨hactivated, ?_, ?_⟩
  · by_contra hactivating
    have := h.added (.inr (by simpa using hactivating))
    rw [hadded] at this
    cases this
  · by_contra hpushing
    have := h.pushing (by simpa using hpushing)
    rw [hactivated] at this
    cases this

/-- While the thread registers the device the host does not have it. -/
theorem Refreshing.registering {s : HmdDevice} (h : s.Refreshing)
    (hthread : s.vrserver.registering = true) : s.added = false ∧ s.activated = false := by
  have hadded : s.added = false := by
    by_contra hadded
    have := h.once (by simpa using hadded)
    rw [hthread] at this
    cases this
  exact ⟨hadded, (h.unadded hadded).1⟩

/-- Without an activated device only the registration is left to state. -/
theorem Refreshing.idle {s : HmdDevice}
    (hregistered : s.vrserver = .adding ∨ s.added = true → s.registered = true)
    (honce : s.added = true → s.vrserver.registering = false) (hactivated : s.activated = false)
    (hactivating : s.vrserver.activating? = false) (hpushing : s.vrserver.pushing? = false) :
    s.Refreshing := by
  have hnot : ¬ (s.activated = true ∨ s.vrserver.activating? = true) := by
    rw [hactivated, hactivating]
    simp
  refine ⟨hregistered, honce, fun hup => absurd hup hnot, ?_, fun hup => absurd hup hnot,
    fun hup => absurd (.inl hup) hnot, fun hup => absurd hup hnot⟩
  intro hpush
  rw [hpushing] at hpush
  cases hpush

/-! ## The IPC thread -/

theorem configStep_refreshing {s s' : HmdDevice} {e : ConfigEvent} (h : s.Refreshing)
    (hs : s.configStep e = some s') : s'.Refreshing := by
  cases e with
  | setConfig config =>
    simp only [configStep, Option.ite_none_right_eq_some, Option.some.injEq] at hs
    obtain ⟨-, rfl⟩ := hs
    -- Everything is owed until `set_config` has seen to it
    exact ⟨h.registered, h.once, h.added, h.pushing, h.handles,
      fun _ => .inr (.inr (.inl rfl)), fun _ => .inr (.inr (.inl rfl))⟩
  | readRegistered =>
    simp only [configStep, Option.ite_none_right_eq_some, Option.some.injEq] at hs
    obtain ⟨-, rfl⟩ := hs
    by_cases hregistered : s.registered = true
    · rw [if_pos hregistered]
      exact ⟨h.registered, h.once, h.added, h.pushing, h.handles,
        fun _ => .inr (.inr (.inr (.inl rfl))), fun _ => .inr (.inr (.inr rfl))⟩
    · -- `Activate` is still to come, and will copy this config
      have hadded : s.added = false := by
        by_contra hadded
        exact hregistered (h.registered (.inr (by simpa using hadded)))
      obtain ⟨hactivated, hactivating, hpushing⟩ := h.unadded hadded
      exact .idle h.registered h.once hactivated hactivating hpushing
  | storeProperties =>
    simp only [configStep, Option.ite_none_right_eq_some, Option.some.injEq] at hs
    obtain ⟨-, rfl⟩ := hs
    exact ⟨h.registered, h.once, h.added, h.pushing, h.handles,
      fun _ => .inr (.inr (.inr (.inr rfl))), fun _ => .inr (.inl rfl)⟩
  | storeGeometry =>
    simp only [configStep, Option.ite_none_right_eq_some, Option.some.injEq] at hs
    obtain ⟨hipc, rfl⟩ := hs
    refine ⟨h.registered, h.once, h.added, h.pushing, h.handles, fun _ => .inr (.inl rfl), ?_⟩
    intro hup
    refine (h.properties hup).imp_right fun howed => .inl ?_
    simpa [propertiesOwed, hipc] using howed
  | storeWanted =>
    simp only [configStep, Option.ite_none_right_eq_some, Option.some.injEq] at hs
    obtain ⟨hipc, rfl⟩ := hs
    refine ⟨h.registered, h.once, h.added, h.pushing, h.handles, ?_, ?_⟩
    · intro hup
      refine (h.geometry hup).imp_right fun howed => .inl ?_
      simpa [geometryOwed, hipc] using howed
    · intro hup
      refine (h.properties hup).imp_right fun howed => .inl ?_
      simpa [propertiesOwed, hipc] using howed

/-! ## vrserver's thread -/

theorem registerStep_refreshing {s s' : HmdDevice} {e : RegisterEvent} (h : s.Refreshing)
    (hs : s.registerStep e = some s') : s'.Refreshing := by
  cases e with
  | consume =>
    simp only [registerStep, Option.ite_none_right_eq_some, Option.some.injEq] at hs
    obtain ⟨hthread, rfl⟩ := hs
    by_cases hregistered : s.registered = true
    · rw [if_pos hregistered, ← hthread]
      exact h
    · rw [if_neg hregistered]
      -- Not registered: the host does not have the device
      have hadded : ¬ s.added = true := fun hadded => hregistered (h.registered (.inr hadded))
      obtain ⟨hactivated, -⟩ := h.unadded (by simpa using hadded)
      refine .idle ?_ (fun hup => absurd hup hadded) hactivated rfl rfl
      rintro (hup | hup)
      · cases hup
      · exact absurd hup hadded
  | exchangeWanted =>
    simp only [registerStep, Option.ite_none_right_eq_some, Option.some.injEq] at hs
    obtain ⟨hthread, rfl⟩ := hs
    obtain ⟨hadded, hactivated⟩ := h.registering (by rw [hthread]; rfl)
    refine .idle ?_ ?_ hactivated ?_ ?_ <;> cases s.registrationWanted <;> simp [hadded] <;> rfl
  | storeRegistered =>
    simp only [registerStep, Option.ite_none_right_eq_some, Option.some.injEq] at hs
    obtain ⟨hthread, rfl⟩ := hs
    obtain ⟨hadded, hactivated⟩ := h.registering (by rw [hthread]; rfl)
    -- `registered_` is set before `TrackedDeviceAdded` is called
    refine .idle (fun _ => rfl) ?_ hactivated rfl rfl
    intro hup
    change s.added = true at hup
    rw [hadded] at hup
    cases hup
  | trackedDeviceAdded answer =>
    simp only [registerStep, Option.ite_none_right_eq_some, Option.some.injEq] at hs
    obtain ⟨hthread, rfl⟩ := hs
    obtain ⟨-, hactivated⟩ := h.registering (by rw [hthread]; rfl)
    have hregistered := h.registered (.inl hthread)
    cases answer with
    -- Taken, it will be activated; refused, it is offered again
    | true => exact .idle (fun _ => hregistered) (fun _ => rfl) hactivated rfl rfl
    | false => exact .idle (fun _ => hregistered) (fun hup => by cases hup) hactivated rfl rfl
  | clearRegistered =>
    simp only [registerStep, Option.ite_none_right_eq_some, Option.some.injEq] at hs
    obtain ⟨hthread, rfl⟩ := hs
    obtain ⟨hadded, hactivated⟩ := h.registering (by rw [hthread]; rfl)
    exact .idle (by simp [hadded]) (by simp [hadded]) hactivated rfl rfl
  | storeWanted =>
    simp only [registerStep, Option.ite_none_right_eq_some, Option.some.injEq] at hs
    obtain ⟨hthread, rfl⟩ := hs
    obtain ⟨hadded, hactivated⟩ := h.registering (by rw [hthread]; rfl)
    exact .idle (by simp [hadded]) (by simp [hadded]) hactivated rfl rfl

/-- A step inside `Activate`: what it has to show. -/
theorem Refreshing.activate {s s' : HmdDevice} (h : s.Refreshing) (hadded : s.added = true)
    (hsame : s'.registered = s.registered ∧ s'.added = s.added)
    (hthread : s'.vrserver.registering = false ∧ s'.vrserver.pushing? = false)
    (hhandles : s'.objectId.isSome = true ∧ s'.propContainer.isSome = true)
    (hgeometry : s'.activated = true →
      s'.geometryOutcome = some s'.config.displayGeometry ∨ s'.geometryOwed)
    (hproperties : s'.propertiesOutcome = some s'.config.runtimeProperties ∨ s'.propertiesOwed) :
    s'.Refreshing := by
  obtain ⟨hregistered, hadded'⟩ := hsame
  refine ⟨fun _ => ?_, fun _ => hthread.1, fun _ => ?_, fun hpushing => ?_, fun _ => hhandles,
    hgeometry, fun _ => hproperties⟩
  · rw [hregistered]
    exact h.registered (.inr hadded)
  · rw [hadded']
    exact hadded
  · rw [hthread.2] at hpushing
    cases hpushing

/-- What holds inside `Activate`, for the thread where it is. -/
theorem Refreshing.activates {s : HmdDevice} (h : s.Refreshing) {thread : HostThread}
    (hthread : s.vrserver = thread) (hactivating : thread.activating? = true) :
    s.added = true ∧ (s.objectId.isSome = true ∧ s.propContainer.isSome = true) ∧
      (s.activated = true → ({ s with vrserver := thread } : HmdDevice).geometryOutcome =
        some s.config.displayGeometry ∨ s.geometryOwed) ∧
      (({ s with vrserver := thread } : HmdDevice).propertiesOutcome =
        some s.config.runtimeProperties ∨ s.propertiesOwed) := by
  subst hthread
  exact ⟨h.added (.inr hactivating), h.handles (.inr hactivating), h.geometry,
    h.properties (.inr hactivating)⟩

theorem activateStep_refreshing {s s' : HmdDevice} {e : ActivateEvent} (h : s.Refreshing)
    (hs : s.activateStep e = some s') : s'.Refreshing := by
  cases e with
  | activate objectId container =>
    simp only [activateStep, Option.ite_none_right_eq_some, Option.some.injEq] at hs
    obtain ⟨⟨hthread, hadded⟩, rfl⟩ := hs
    have hgeometry := h.geometry
    rw [geometryOutcome, hthread] at hgeometry
    exact h.activate hadded ⟨rfl, rfl⟩ ⟨rfl, rfl⟩ ⟨rfl, rfl⟩ hgeometry (.inl rfl)
  | copyConfig =>
    simp only [activateStep, Option.ite_none_right_eq_some, Option.some.injEq] at hs
    obtain ⟨hthread, rfl⟩ := hs
    obtain ⟨hadded, hhandles, hgeometry, -⟩ := h.activates hthread rfl
    exact h.activate hadded ⟨rfl, rfl⟩ ⟨rfl, rfl⟩ hhandles hgeometry (.inl rfl)
  | writeProperties =>
    simp only [activateStep] at hs
    split at hs
    · rename_i config hthread
      cases hs
      obtain ⟨hadded, hhandles, hgeometry, hproperties⟩ := h.activates hthread rfl
      exact h.activate hadded ⟨rfl, rfl⟩ ⟨rfl, rfl⟩ hhandles hgeometry hproperties
    · cases hs
  | storeActivated =>
    simp only [activateStep, Option.ite_none_right_eq_some, Option.some.injEq] at hs
    obtain ⟨hthread, rfl⟩ := hs
    obtain ⟨hadded, hhandles, -, hproperties⟩ := h.activates hthread rfl
    exact h.activate hadded ⟨rfl, rfl⟩ ⟨rfl, rfl⟩ hhandles (fun _ => .inl rfl) hproperties
  | storeGeometry =>
    simp only [activateStep, Option.ite_none_right_eq_some, Option.some.injEq] at hs
    obtain ⟨hthread, rfl⟩ := hs
    obtain ⟨hadded, hhandles, -, hproperties⟩ := h.activates hthread rfl
    exact h.activate hadded ⟨rfl, rfl⟩ ⟨rfl, rfl⟩ hhandles (fun _ => .inr (.inl rfl)) hproperties
  | deactivate =>
    simp only [activateStep, Option.ite_none_right_eq_some, Option.some.injEq] at hs
    obtain ⟨hthread, rfl⟩ := hs
    refine .idle h.registered h.once rfl ?_ ?_
    · rw [hthread]
      rfl
    · rw [hthread]
      rfl

/-- A step inside `push_pending_geometry`: what it has to show. -/
theorem Refreshing.push {s s' : HmdDevice} (h : s.Refreshing) (hup : s.activated = true)
    (hsame : s'.registered = s.registered ∧ s'.added = s.added ∧ s'.activated = s.activated ∧
      s'.objectId = s.objectId ∧ s'.propContainer = s.propContainer)
    (hthread : s'.vrserver.registering = false ∧ s'.vrserver.activating? = false)
    (hgeometry : s'.geometryOutcome = some s'.config.displayGeometry ∨ s'.geometryOwed)
    (hproperties : s'.propertiesOutcome = some s'.config.runtimeProperties ∨ s'.propertiesOwed) :
    s'.Refreshing := by
  obtain ⟨hregistered, hadded, hactivated, hobject, hcontainer⟩ := hsame
  have hin := h.added (.inl hup)
  refine ⟨fun _ => ?_, fun _ => hthread.1, fun _ => ?_, fun _ => ?_, fun _ => ?_,
    fun _ => hgeometry, fun _ => hproperties⟩
  · rw [hregistered]
    exact h.registered (.inr hin)
  · rw [hadded]
    exact hin
  · rw [hactivated]
    exact hup
  · rw [hobject, hcontainer]
    exact h.handles (.inl hup)

/-- What holds inside it, for the thread where it is. -/
theorem Refreshing.pushes {s : HmdDevice} (h : s.Refreshing) {thread : HostThread}
    (hthread : s.vrserver = thread) (hpushing : thread.pushing? = true) :
    s.activated = true ∧
      (({ s with vrserver := thread } : HmdDevice).geometryOutcome =
        some s.config.displayGeometry ∨ s.geometryOwed) ∧
      (({ s with vrserver := thread } : HmdDevice).propertiesOutcome =
        some s.config.runtimeProperties ∨ s.propertiesOwed) := by
  subst hthread
  have hup := h.pushing hpushing
  exact ⟨hup, h.geometry hup, h.properties (.inl hup)⟩

theorem pushStep_refreshing {s s' : HmdDevice} {e : PushEvent} (h : s.Refreshing)
    (hs : s.pushStep e = some s') : s'.Refreshing := by
  cases e with
  | push =>
    simp only [pushStep, Option.ite_none_right_eq_some, Option.some.injEq] at hs
    obtain ⟨hthread, rfl⟩ := hs
    by_cases hup : s.activated = true
    · rw [if_pos hup]
      have hgeometry := h.geometry hup
      have hproperties := h.properties (.inl hup)
      rw [geometryOutcome, hthread] at hgeometry
      rw [propertiesOutcome, hthread] at hproperties
      exact h.push hup ⟨rfl, rfl, rfl, rfl, rfl⟩ ⟨rfl, rfl⟩ hgeometry hproperties
    · rw [if_neg hup, ← hthread]
      exact h
  | exchangeGeometry =>
    simp only [pushStep, Option.ite_none_right_eq_some, Option.some.injEq] at hs
    obtain ⟨hthread, rfl⟩ := hs
    obtain ⟨hup, hgeometry, hproperties⟩ := h.pushes hthread rfl
    refine h.push hup ⟨rfl, rfl, rfl, rfl, rfl⟩ ⟨rfl, rfl⟩ ?_ hproperties
    -- A mark that is taken off is carried along
    cases hdirty : s.geometryDirty with
    | true => exact .inl rfl
    | false =>
      refine hgeometry.imp_right fun howed => .inr ?_
      simpa [geometryOwed, hdirty] using howed
  | exchangeProperties =>
    simp only [pushStep] at hs
    split at hs
    · rename_i geometry hthread
      cases hs
      obtain ⟨hup, hgeometry, hproperties⟩ := h.pushes hthread rfl
      have hkept : s.propertiesDirty = false →
          s.properties = some s.config.runtimeProperties ∨
            (s.ipc = .stored ∨ s.ipc = .live) := by
        intro hdirty
        refine hproperties.imp_right fun howed => ?_
        simpa [propertiesOwed, hdirty] using howed
      cases geometry <;> cases hdirty : s.propertiesDirty
      · exact h.push hup ⟨rfl, rfl, rfl, rfl, rfl⟩ ⟨rfl, rfl⟩ hgeometry
          ((hkept hdirty).imp_right .inr)
      · exact h.push hup ⟨rfl, rfl, rfl, rfl, rfl⟩ ⟨rfl, rfl⟩ hgeometry (.inl rfl)
      · exact h.push hup ⟨rfl, rfl, rfl, rfl, rfl⟩ ⟨rfl, rfl⟩ (.inl rfl)
          ((hkept hdirty).imp_right .inr)
      · exact h.push hup ⟨rfl, rfl, rfl, rfl, rfl⟩ ⟨rfl, rfl⟩ (.inl rfl) (.inl rfl)
    · cases hs
  | copyConfig =>
    simp only [pushStep] at hs
    split at hs
    · rename_i geometry properties hthread
      cases hs
      obtain ⟨hup, hgeometry, hproperties⟩ := h.pushes hthread rfl
      cases geometry <;> cases properties <;>
        exact h.push hup ⟨rfl, rfl, rfl, rfl, rfl⟩ ⟨rfl, rfl⟩ hgeometry hproperties
    · cases hs
  | applyProperties =>
    simp only [pushStep] at hs
    split at hs
    · rename_i geometry properties config hthread
      cases hs
      obtain ⟨hup, hgeometry, hproperties⟩ := h.pushes hthread rfl
      have hcontainer := (h.handles (.inl hup)).2
      rw [hcontainer]
      cases geometry <;> cases properties <;>
        exact h.push hup ⟨rfl, rfl, rfl, rfl, rfl⟩ ⟨rfl, rfl⟩ hgeometry hproperties
    · cases hs
  | applyGeometry =>
    simp only [pushStep] at hs
    split at hs
    · rename_i geometry config hthread
      cases hs
      obtain ⟨hup, hgeometry, hproperties⟩ := h.pushes hthread rfl
      have hobject := (h.handles (.inl hup)).1
      rw [hobject]
      cases geometry <;>
        exact h.push hup ⟨rfl, rfl, rfl, rfl, rfl⟩ ⟨rfl, rfl⟩ hgeometry hproperties
    · cases hs

/-! ## Runs -/

theorem step_refreshing (s : HmdDevice) (e : Event) (s' : HmdDevice) (h : s.Refreshing)
    (hs : step s e = some s') : s'.Refreshing := by
  cases e with
  | config e => exact configStep_refreshing h hs
  | register e => exact registerStep_refreshing h hs
  | activate e => exact activateStep_refreshing h hs
  | push e => exact pushStep_refreshing h hs

/-- The device as it is built, with `default_config()`. -/
def make (config : HmdConfig) : HmdDevice := { config := config }

theorem make_refreshing (config : HmdConfig) : (make config).Refreshing :=
  .idle (by rintro (h | h) <;> cases h) (fun h => by cases h) rfl rfl rfl

/-- A device that the host has is not offered to it again. -/
theorem step_offered {s s' : HmdDevice} {e : Event} (h : s.Refreshing) (hadded : s.added = true)
    (hs : step s e = some s') : s'.added = true ∧ s'.requests = s.requests := by
  have hthread := h.once hadded
  cases e with
  | config e =>
    cases e with
    | _ =>
      simp only [step, configStep, Option.ite_none_right_eq_some, Option.some.injEq] at hs
      obtain ⟨-, rfl⟩ := hs
      exact ⟨hadded, rfl⟩
  | register e =>
    cases e with
    | consume =>
      simp only [step, registerStep, Option.ite_none_right_eq_some, Option.some.injEq] at hs
      obtain ⟨-, rfl⟩ := hs
      exact ⟨hadded, rfl⟩
    -- The thread would have to be registering the device
    | exchangeWanted | storeRegistered | trackedDeviceAdded | clearRegistered | storeWanted =>
      simp only [step, registerStep, Option.ite_none_right_eq_some, Option.some.injEq] at hs
      rw [hs.1] at hthread
      cases hthread
  | activate e =>
    cases e with
    | writeProperties =>
      simp only [step, activateStep] at hs
      split at hs <;> cases hs
      exact ⟨hadded, rfl⟩
    | _ =>
      simp only [step, activateStep, Option.ite_none_right_eq_some, Option.some.injEq] at hs
      obtain ⟨-, rfl⟩ := hs
      exact ⟨hadded, rfl⟩
  | push e =>
    cases e with
    | push | exchangeGeometry =>
      simp only [step, pushStep, Option.ite_none_right_eq_some, Option.some.injEq] at hs
      obtain ⟨-, rfl⟩ := hs
      exact ⟨hadded, rfl⟩
    | _ =>
      simp only [step, pushStep] at hs
      split at hs <;> cases hs
      exact ⟨hadded, rfl⟩

/-- In every state of every run: an activated device with nothing marked and nothing under way
has given the host the current config, and after `TrackedDeviceAdded` has answered true it is
not called again. -/
theorem refreshed (config : HmdConfig) (es : List Event) {s : HmdDevice}
    (hrun : Runs.run step (make config) es = some s) :
    (s.activated = true → s.geometryDirty = false → s.propertiesDirty = false → s.ipc = .idle →
      s.vrserver = .idle → s.geometry = some s.config.displayGeometry ∧
        s.properties = some s.config.runtimeProperties) ∧
    (s.added = true → ∀ later s', Runs.run step s later = some s' → s'.requests = s.requests) := by
  have h : s.Refreshing := Runs.run_invariant step_refreshing es _ s (make_refreshing config) hrun
  refine ⟨?_, ?_⟩
  · intro hup hgeometry hproperties hipc hthread
    constructor
    · rcases h.geometry hup with hsame | howed
      · rw [geometryOutcome, hthread] at hsame
        exact hsame
      · simp [geometryOwed, hgeometry, hipc] at howed
    · rcases h.properties (.inl hup) with hsame | howed
      · rw [propertiesOutcome, hthread] at hsame
        exact hsame
      · simp [propertiesOwed, hproperties, hipc] at howed
  · intro hadded later s' hlater
    have hkeeps : ∀ x e x', (x.Refreshing ∧ x.added = true ∧ x.requests = s.requests) →
        step x e = some x' →
        x'.Refreshing ∧ x'.added = true ∧ x'.requests = s.requests := by
      rintro x e x' ⟨hx, hxadded, hxrequests⟩ hstep
      obtain ⟨hadded', hrequests'⟩ := step_offered hx hxadded hstep
      exact ⟨step_refreshing x e x' hx hstep, hadded', hrequests'.trans hxrequests⟩
    exact (Runs.run_invariant hkeeps later s s' ⟨h, hadded, rfl⟩ hlater).2.2

def quest (refreshHz : FloatBits) : HmdConfig :=
  { eyeWidth := 1920, eyeHeight := 1920, refreshHz := refreshHz }

/-- A second config between `Activate`'s copy and its stores. -/
def duringActivate : List Event :=
  [.config (.setConfig (quest 90)), .config .readRegistered, .config .storeWanted,
    .register .consume, .register .exchangeWanted, .register .storeRegistered,
    .register (.trackedDeviceAdded true), .activate (.activate 0 1), .activate .copyConfig,
    .config (.setConfig (quest 120)), .activate .writeProperties, .config .readRegistered,
    .config .storeProperties, .activate .storeActivated, .activate .storeGeometry,
    .config .storeGeometry, .push .push, .push .exchangeGeometry, .push .exchangeProperties,
    .push .copyConfig, .push .applyProperties, .push .applyGeometry]

theorem refreshed_during_activate :
    ∃ s, Runs.run step (make (quest 90)) duringActivate = some s ∧
      s.properties = some (quest 120).runtimeProperties := by
  have hrun : (Runs.run step (make (quest 90)) duringActivate).map (fun s =>
      (s.config, s.activated, s.geometryDirty, s.propertiesDirty, s.ipc, s.vrserver)) =
        some (quest 120, true, false, false, .idle, .idle) := by
    decide +kernel
  obtain ⟨s, hs, hseen⟩ := Option.map_eq_some_iff.mp hrun
  simp only [Prod.mk.injEq] at hseen
  obtain ⟨hconfig, hup, hgeometry, hproperties, hipc, hthread⟩ := hseen
  refine ⟨s, hs, ?_⟩
  rw [← hconfig]
  exact ((refreshed (quest 90) duringActivate hs).1 hup hgeometry hproperties hipc hthread).2

end HmdDevice

end WivrnNx
