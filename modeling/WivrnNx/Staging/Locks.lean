import WivrnNx.Intake.EncoderSteps
import WivrnNx.Staging.System

/-!
# Who holds a keyed mutex

The helper holds a keyed mutex exactly while `encode` is between its acquire and
its release, and then only the one of the frame's slot.

- `Steady`: the stage's `held` flags say where the encoder thread is;
- `encoderStep_holds`: only an acquire that came through leaves a slot held;
- `Locked`, `LocksKept`: the helper holds what its stage says it does, and no step
  of another thread takes a mutex from the Present thread.
-/

namespace WivrnNx

namespace D3D11Stage

/-- No slot of the stage is held. -/
def Idle (s : D3D11Stage) : Prop := ∀ k : ℕ, s.held[k]? ≠ some true

theorem closeRing_idle (s : D3D11Stage) : s.closeRing.Idle := by
  intro k
  simp [closeRing]

/-- A ring is opened, or not, with nothing held. -/
theorem openRing_idle (s : D3D11Stage) (config : Ipc.StagingConfig) (device1 process : Bool)
    (slots : ℕ → SlotOpen) : (s.openRing config device1 process slots).1.Idle := by
  simp only [openRing]
  split
  · intro k
    simp [List.getElem?_replicate]
  · exact closeRing_idle s

/-- `release` gives back the one slot that was held. -/
theorem release_idle {s : D3D11Stage} {index : ℕ}
    (h : ∀ k : ℕ, s.held[k]? = some true → k = index) : (s.release index).Idle := by
  intro k hk
  unfold release at hk
  split at hk
  · by_cases hki : index = k
    · simp [List.getElem?_set, hki] at hk
    · rw [List.getElem?_set_ne hki] at hk
      exact hki (h k hk).symm
  · rename_i hnot
    exact hnot (h k hk ▸ hk)

end D3D11Stage

namespace AmfVideoEncoder

theorem shutdown_idle (e : AmfVideoEncoder) : e.shutdown.stage.Idle :=
  D3D11Stage.closeRing_idle e.stage

theorem configure_idle (e : AmfVideoEncoder) (machine : Machine) (staging : Ipc.StagingConfig)
    (config : EncoderConfig) : (e.configure machine staging config).1.stage.Idle := by
  simp only [configure]
  split
  · exact e.shutdown_idle
  · split
    · exact e.shutdown_idle
    · split
      · exact e.shutdown_idle
      · have hopen := D3D11Stage.openRing_idle { e.shutdown.stage with device := true } staging
          machine.device1 machine.openProcess machine.slots
        split
        · rename_i stage hstage
          simpa [hstage] using hopen
        · rename_i stage hstage
          rw [hstage] at hopen
          split
          · exact hopen
          · split
            · exact shutdown_idle _
            · split
              · exact shutdown_idle _
              · exact hopen

@[simp] theorem setBitrate_stage (e : AmfVideoEncoder) (bps : ℕ) :
    (e.setBitrate bps).stage = e.stage := by
  unfold setBitrate
  split <;> rfl

/-- The rest of a call does not touch the stage. -/
theorem encodeRest_stage (e : AmfVideoEncoder) (frame : Ipc.FrameReady) (forceIdr : Bool)
    (env : EncodeEnv) : (e.encodeRest frame forceIdr env).1.stage = e.stage := by
  simp only [encodeRest, finish]
  split
  · rfl
  · split <;> rfl

/-- A call that gets past the acquire holds the frame's slot. -/
theorem encodeAcquire_none {e e' : AmfVideoEncoder} {frame : Ipc.FrameReady} {sync : Bool}
    (h : e.encodeAcquire frame sync = (e', none)) :
    e.stage.generation = frame.generation ∧ sync = true ∧
      e.stage.held[frame.stagingIndex]? = some false ∧
      e'.stage.held = e.stage.held.set frame.stagingIndex true := by
  unfold encodeAcquire at h
  split at h
  · cases h
  · split at h
    · cases h
    · rename_i hgen
      split at h
      · cases h
      · rename_i stage hacquire
        cases h
        obtain ⟨hheld, hsync, hstage⟩ := D3D11Stage.acquire_true hacquire
        exact ⟨(not_not.mp hgen).symm, hsync, hheld, by simp [hstage]⟩

/-- A call that ends at the acquire holds nothing new. -/
theorem encodeAcquire_some {e e' : AmfVideoEncoder} {frame : Ipc.FrameReady} {sync : Bool}
    {result : EncodeResult} (h : e.encodeAcquire frame sync = (e', some result)) :
    e'.stage.held = e.stage.held := by
  unfold encodeAcquire at h
  split at h
  · cases h
    rfl
  · split at h
    · cases h
      rfl
    · split at h
      · rename_i stage hacquire
        cases h
        exact (D3D11Stage.acquire_false hacquire).1
      · cases h

end AmfVideoEncoder

namespace VideoIntake

/-- Nothing is held, and `encode` is not between its acquire and its release. -/
structure Apart (i : VideoIntake) : Prop where
  thread : ∀ frame forceIdr request, i.thread ≠ .holding frame forceIdr request
  idle : i.encoder.stage.Idle

/-- `encode` holds the slot of `frame`, and no other. -/
def HoldsFor (i : VideoIntake) (frame : Ipc.FrameReady) : Prop :=
  (∃ forceIdr request, i.thread = .holding frame forceIdr request) ∧
    ∀ k : ℕ, i.encoder.stage.held[k]? = some true ↔ frame.stagingIndex = k

/-- The stage's `held` flags say where the encoder thread is. -/
def Steady (i : VideoIntake) : Prop := i.Apart ∨ ∃ frame, i.HoldsFor frame

theorem Steady.apart {i : VideoIntake} (hs : i.Steady)
    (h : ∀ frame forceIdr request, i.thread ≠ .holding frame forceIdr request) : i.Apart := by
  rcases hs with hapart | ⟨frame, ⟨forceIdr, request, hthread⟩, -⟩
  · exact hapart
  · exact (h frame forceIdr request hthread).elim

theorem Steady.holdsFor {i : VideoIntake} (hs : i.Steady) {frame : Ipc.FrameReady}
    {forceIdr : Bool} {request : VideoRequest} (h : i.thread = .holding frame forceIdr request) :
    i.HoldsFor frame := by
  rcases hs with hapart | ⟨frame', ⟨forceIdr', request', hthread⟩, hheld⟩
  · exact (hapart.thread frame forceIdr request h).elim
  · rw [h] at hthread
    cases hthread
    exact ⟨⟨forceIdr, request, h⟩, hheld⟩

theorem takePending_apart {i : VideoIntake} (h : i.encoder.stage.Idle) : i.takePending.Apart := by
  refine ⟨?_, by rwa [takePending_encoder]⟩
  rcases i.takePending_thread with hthread | ⟨frame, hthread⟩
  · simp [hthread]
  · simp [hthread]

@[simp] theorem retune_stage (i : VideoIntake) (request : VideoRequest) :
    (i.retune request).encoder.stage = i.encoder.stage := by
  unfold retune
  split <;> simp

@[simp] theorem retune_ready (i : VideoIntake) (request : VideoRequest) :
    (i.retune request).encoder.ready = i.encoder.ready := by
  unfold retune AmfVideoEncoder.setBitrate
  split
  · split <;> rfl
  · rfl

@[simp] theorem retune_textures (i : VideoIntake) (request : VideoRequest) :
    (i.retune request).textures = i.textures := by
  unfold retune
  split <;> rfl

theorem concluded_apart {i : VideoIntake} {frame : Ipc.FrameReady} {forceIdr : Bool}
    {request : VideoRequest} {result : EncodeResult} (h : i.encoder.stage.Idle) :
    (i.concluded frame forceIdr request result).Apart := by
  cases result with
  | ok => exact ⟨by simp [concluded], h⟩
  | dropped => exact ⟨by simp [concluded], h⟩
  | fatal => exact ⟨by simp [concluded], AmfVideoEncoder.shutdown_idle i.encoder⟩

theorem configured_apart (i : VideoIntake) (machine : Machine) (frame : Ipc.FrameReady)
    (config : Ipc.StagingConfig) (request : VideoRequest) (found : List (Option SharedTexture)) :
    (i.configured machine frame config request found).Apart := by
  have hidle := i.encoder.configure_idle (openedMachine machine found) config
    (encoderConfig request)
  unfold configured
  split
  · rename_i encoder hconfigure
    rw [hconfigure] at hidle
    exact ⟨by simp, hidle⟩
  · rename_i encoder hconfigure
    rw [hconfigure] at hidle
    exact ⟨by simp, hidle⟩

/-- Only an acquire that came through leaves a slot held: the frame's, of a stage
that is open for its generation. -/
theorem encoderStep_holds {i i' : VideoIntake} {a : EncoderAction} (hs : i.Steady)
    (h : i.encoderStep a = some i') :
    i'.Apart ∨ ∃ frame request, a = .acquire true ∧ i.thread = .encoding frame request ∧
      i.encoder.stage.generation = frame.generation ∧ i'.textures = i.textures ∧
      i'.HoldsFor frame := by
  -- Away from `holding`, nothing is held
  have hidle : (∀ frame forceIdr request, i.thread ≠ .holding frame forceIdr request) →
      i.encoder.stage.Idle := fun hthread => (hs.apart hthread).idle
  cases encoderStep_stepped h with
  | tear hthread => exact .inl ⟨by simp, hidle (by simp [hthread])⟩
  | wake hthread => exact .inl (takePending_apart (hidle (by simp [hthread])))
  | relock => exact .inl (takePending_apart (AmfVideoEncoder.shutdown_idle i.encoder))
  | unstaged frame hthread => exact .inl ⟨by simp, hidle (by simp [hthread])⟩
  | staged frame config hthread => exact .inl ⟨by simp, hidle (by simp [hthread])⟩
  | inactive frame config request hthread => exact .inl ⟨by simp, hidle (by simp [hthread])⟩
  | current frame config request hthread => exact .inl ⟨by simp, hidle (by simp [hthread])⟩
  | rebuild => exact .inl ⟨by simp, AmfVideoEncoder.shutdown_idle i.encoder⟩
  | opened frame config request found shared hthread =>
    exact .inl ⟨by simp, hidle (by simp [hthread])⟩
  | configured frame config request found machine =>
    exact .inl (configured_apart i machine frame config request found)
  | acquired frame request sync encoder hthread hacquire =>
    have hbefore := hidle (by simp [hthread])
    obtain ⟨hgen, hsync, hfree, hheld⟩ := AmfVideoEncoder.encodeAcquire_none hacquire
    rw [retune_stage] at hgen hfree hheld
    subst hsync
    refine .inr ⟨frame, request, rfl, hthread, hgen, retune_textures i request,
      ⟨_, _, rfl⟩, fun k => ?_⟩
    rw [hheld]
    by_cases hki : frame.stagingIndex = k
    · rw [hki] at hfree ⊢
      simp [List.getElem?_set_self (List.getElem?_eq_some_iff.mp hfree).1]
    · rw [List.getElem?_set_ne hki]
      exact ⟨fun hk => (hbefore k hk).elim, fun hk => (hki hk).elim⟩
  | refused frame request sync encoder result hthread hacquire =>
    have hbefore := hidle (by simp [hthread])
    have hheld := AmfVideoEncoder.encodeAcquire_some hacquire
    rw [retune_stage] at hheld
    exact .inl (concluded_apart fun k => by simpa [hheld] using hbefore k)
  | released frame forceIdr request hthread =>
    have hheld := (hs.holdsFor hthread).2
    exact .inl ⟨by simp, D3D11Stage.release_idle fun k hk => ((hheld k).mp hk).symm⟩
  | finished frame forceIdr request env hthread =>
    have hbefore := hidle (by simp [hthread])
    refine .inl (concluded_apart fun k => ?_)
    simpa [AmfVideoEncoder.encodeRest_stage] using hbefore k
  | answered frame hthread => exact .inl ⟨by simp, hidle (by simp [hthread])⟩
  | dropped frame hthread => exact .inl ⟨by simp, hidle (by simp [hthread])⟩

theorem encoderStep_steady {i i' : VideoIntake} {a : EncoderAction} (hs : i.Steady)
    (h : i.encoderStep a = some i') : i'.Steady := by
  rcases encoderStep_holds hs h with hapart | ⟨frame, _, _, _, _, _, hholds⟩
  · exact .inl hapart
  · exact .inr ⟨frame, hholds⟩

/-- The pipe loop's functions leave the encoder thread and its encoder alone. -/
structure SameEncoder (i i' : VideoIntake) : Prop where
  thread : i'.thread = i.thread
  encoder : i'.encoder = i.encoder
  textures : i'.textures = i.textures

theorem SameEncoder.of_eq {i i' : VideoIntake} (h : i' = i) : SameEncoder i i' := by
  subst h
  exact ⟨rfl, rfl, rfl⟩

theorem SameEncoder.steady {i i' : VideoIntake} (h : SameEncoder i i') (hs : i.Steady) :
    i'.Steady := by
  simpa only [Steady, HoldsFor, h.thread, h.encoder] using
    hs.imp (fun ha => ⟨h.thread ▸ ha.thread, h.encoder ▸ ha.idle⟩) id

theorem onStagingConfig_encoder (i : VideoIntake) (config : Ipc.StagingConfig) :
    SameEncoder i (i.onStagingConfig config) := by
  unfold onStagingConfig dropOther
  split
  · exact ⟨rfl, rfl, rfl⟩
  · split <;> exact ⟨rfl, rfl, rfl⟩

theorem onFrameReady_encoder (i : VideoIntake) (active : Bool) (frame : Ipc.FrameReady) :
    SameEncoder i (i.onFrameReady active frame) := by
  simp only [onFrameReady]
  split
  · exact ⟨rfl, rfl, rfl⟩
  · split
    · exact ⟨rfl, rfl, rfl⟩
    · simp only [accept, supersede]
      split <;> exact ⟨rfl, rfl, rfl⟩

theorem popDone_encoder {i i' : VideoIntake} {d : Ipc.FrameDone}
    (h : i.popDone = some (d, i')) : SameEncoder i i' := by
  unfold popDone at h
  split at h
  · cases h
  · cases h
    exact ⟨rfl, rfl, rfl⟩

end VideoIntake

namespace Staging.System

open Ipc VideoIntake

/-! ## The keyed mutexes -/

theorem mem_heldTextures {i : VideoIntake} {t : TextureId} :
    t ∈ heldTextures i ↔
      ∃ k : ℕ, i.encoder.stage.held[k]? = some true ∧ i.textures[k]? = some t := by
  simp only [heldTextures, List.mem_filterMap, List.mem_range]
  constructor
  · rintro ⟨k, _, hk⟩
    split at hk
    · exact ⟨k, ‹_›, hk⟩
    · cases hk
  · rintro ⟨k, hheld, ht⟩
    exact ⟨k, (List.getElem?_eq_some_iff.mp hheld).1, by rw [if_pos hheld, ht]⟩

theorem heldTextures_apart {i : VideoIntake} (h : i.Apart) (t : TextureId) :
    t ∉ heldTextures i := by
  rw [mem_heldTextures]
  rintro ⟨k, hk, -⟩
  exact h.idle k hk

theorem heldTextures_holdsFor {i : VideoIntake} {frame : FrameReady} (h : i.HoldsFor frame)
    (t : TextureId) : t ∈ heldTextures i ↔ i.textures[frame.stagingIndex]? = some t := by
  rw [mem_heldTextures]
  constructor
  · rintro ⟨k, hk, ht⟩
    rwa [(h.2 k).mp hk]
  · intro ht
    exact ⟨_, (h.2 _).mpr rfl, ht⟩

theorem SameEncoder.heldTextures {i i' : VideoIntake} (h : SameEncoder i i') :
    heldTextures i' = heldTextures i := by
  simp only [System.heldTextures, h.encoder, h.textures]

/-- The keyed mutexes as the helper sees them: it holds what its stage says it
does. -/
structure Locked (s : System) : Prop where
  steady : s.intake.Steady
  helper : ∀ t ∈ heldTextures s.intake, (s.mutexes t).Holds .helper

/-- Moving mutexes takes none from the shim, as long as the new ones were free. -/
theorem moveMutexes_shim {mutexes : TextureId → KeyedMutex} {before after : List TextureId}
    (hfree : ∀ t ∈ after, t ∉ before → ¬ (mutexes t).Holds .shim) {t : TextureId}
    (ht : (mutexes t).Holds .shim) : (moveMutexes mutexes before after t).Holds .shim := by
  unfold moveMutexes
  split
  · split
    · exact ht
    · exact (hfree t ‹_› ‹_› ht).elim
  · split
    · exact ht.release (by decide)
    · exact ht

/-- After moving mutexes the helper holds the new list. -/
theorem moveMutexes_helper {mutexes : TextureId → KeyedMutex} {before after : List TextureId}
    (hbefore : ∀ t ∈ before, (mutexes t).Holds .helper) {t : TextureId} (ht : t ∈ after) :
    (moveMutexes mutexes before after t).Holds .helper := by
  unfold moveMutexes
  rw [if_pos ht]
  split
  · exact hbefore t ‹_›
  · rfl

/-- What a step of another thread than the Present thread does to the mutexes. -/
structure LocksKept (s s' : System) : Prop where
  locked : s'.Locked
  shim : ∀ t, (s.mutexes t).Holds .shim → (s'.mutexes t).Holds .shim

theorem LocksKept.same {s s' : System} (h : s.Locked) (hintake : SameEncoder s.intake s'.intake)
    (hmutexes : s'.mutexes = s.mutexes) : LocksKept s s' where
  locked := ⟨hintake.steady h.steady, by
    rw [SameEncoder.heldTextures hintake, hmutexes]
    exact h.helper⟩
  shim t ht := hmutexes ▸ ht

theorem encoderStep_locks {s s' : System} {a : EncoderAction} (hl : s.Locked)
    (h : s.encoderStep a = some s') : LocksKept s s' := by
  unfold encoderStep at h
  split_ifs at h with hmeets
  obtain ⟨intake, hintake, rfl⟩ := Option.map_eq_some_iff.mp h
  refine ⟨⟨encoderStep_steady hl.steady hintake, fun t ht => moveMutexes_helper hl.helper ht⟩,
    fun t ht => moveMutexes_shim ?_ ht⟩
  -- What is held now and was not before was acquired by this very step
  intro t' hafter hbefore hshim
  rcases encoderStep_holds hl.steady hintake with
    hapart | ⟨frame, request, ha, hthread, -, htex, hholds⟩
  · exact heldTextures_apart hapart t' hafter
  · rw [heldTextures_holdsFor hholds, htex] at hafter
    subst ha
    have hfree : s.targetFree = true := by simpa [meets] using hmeets
    simp only [targetFree, target, hthread, hafter, hshim.acquire_none] at hfree
    cases hfree

/-! ## Steps that do not touch the encoder -/

theorem ipcStep_same {s s' : System} {a : IpcAction} (h : s.ipcStep a = some s') :
    s'.intake = s.intake ∧ s'.mutexes = s.mutexes := by
  cases a with
  | flush ok =>
    simp only [ipcStep] at h
    split at h
    · split_ifs at h <;> cases h <;> exact ⟨rfl, rfl⟩
    · cases h
  | read =>
    simp only [ipcStep] at h
    split at h
    · rename_i message rest _ _
      cases h
      cases message with
      | hmdConfig => exact ⟨rfl, rfl⟩
      | frameDone done =>
        simp only [handleToShim]
        split <;> exact ⟨rfl, rfl⟩
    · cases h
  | _ =>
    simp only [ipcStep] at h
    split at h <;> cases h
    exact ⟨rfl, rfl⟩

theorem hapticStep_same {s s' : System} {a : HapticAction} (h : s.hapticStep a = some s') :
    s'.intake = s.intake ∧ s'.mutexes = s.mutexes := by
  cases a with
  | check haptic =>
    simp only [hapticStep, Option.some.injEq] at h
    subst h
    split <;> exact ⟨rfl, rfl⟩
  | push alloc =>
    simp only [hapticStep] at h
    split at h <;> cases h
    exact ⟨rfl, rfl⟩

theorem serverStep_same {s s' : System} {a : ServerAction} (h : s.serverStep a = some s') :
    SameEncoder s.intake s'.intake ∧ s'.mutexes = s.mutexes := by
  cases a with
  | handshake =>
    simp only [serverStep] at h
    split at h
    · split_ifs at h <;> cases h <;> exact ⟨⟨rfl, rfl, rfl⟩, rfl⟩
    · cases h
  | flush ok =>
    simp only [serverStep] at h
    split at h
    · split at h
      · cases h
        exact ⟨⟨rfl, rfl, rfl⟩, rfl⟩
      · rename_i done intake hpop
        split_ifs at h <;> cases h <;> exact ⟨popDone_encoder hpop, rfl⟩
    · cases h
  | receive =>
    simp only [serverStep] at h
    split at h
    · rename_i message rest _ _
      cases h
      cases message with
      | shimHello => exact ⟨⟨rfl, rfl, rfl⟩, rfl⟩
      | haptic haptic => exact ⟨⟨rfl, rfl, rfl⟩, rfl⟩
      | stagingConfig config => exact ⟨onStagingConfig_encoder s.intake config, rfl⟩
      | frameReady frame => exact ⟨onFrameReady_encoder s.intake s.request.active frame, rfl⟩
    · cases h
  | fail =>
    simp only [serverStep] at h
    split at h <;> cases h <;> exact ⟨⟨rfl, rfl, rfl⟩, rfl⟩
  | _ =>
    simp only [serverStep] at h
    split at h <;> cases h
    exact ⟨⟨rfl, rfl, rfl⟩, rfl⟩

/-- What a dead helper held is abandoned, and the new one holds nothing. -/
theorem helperDies_locks (s : System) : LocksKept s s.helperDies := by
  have hapart : s.helperDies.intake.Apart :=
    ⟨by simp [helperDies], by intro k; simp [helperDies]⟩
  refine ⟨⟨.inl hapart, fun t ht => (heldTextures_apart hapart t ht).elim⟩, fun t ht => ?_⟩
  have hnone : ∀ t ∈ ([] : List TextureId), t ∉ heldTextures s.intake →
      ¬ (s.mutexes t).Holds .shim := by simp
  exact moveMutexes_shim hnone ht

end Staging.System

end WivrnNx
