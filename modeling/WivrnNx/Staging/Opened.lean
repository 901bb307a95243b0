import WivrnNx.Staging.PresentSteps

/-!
# What the helper's stage has open

If every handle names, when `open_ring` duplicates it, the texture that the shim
announced under it, then the stage's slots are that ring's, slot by slot.

- `NamesAnnounced`: what a lookup must find, unless Windows refuses;
- `Opened`: what the stage has open, and what `open_ring` has found so far;
- `step_opened`: every step keeps it.
-/

namespace WivrnNx

namespace AmfVideoEncoder

/-- A call leaves the stage what it is: at most a `held` flag changes. -/
structure SameRing (e e' : AmfVideoEncoder) : Prop where
  ready : e'.ready = e.ready
  generation : e'.stage.generation = e.stage.generation
  length : e'.stage.held.length = e.stage.held.length

theorem encodeAcquire_sameRing (e : AmfVideoEncoder) (frame : Ipc.FrameReady) (sync : Bool) :
    SameRing e (e.encodeAcquire frame sync).1 := by
  unfold encodeAcquire
  split
  · exact ⟨rfl, rfl, rfl⟩
  · split
    · exact ⟨rfl, rfl, rfl⟩
    · split
      · rename_i stage hacquire
        obtain ⟨hheld, hgeneration⟩ := D3D11Stage.acquire_false hacquire
        exact ⟨rfl, hgeneration, by simp [hheld]⟩
      · rename_i stage hacquire
        obtain ⟨-, -, rfl⟩ := D3D11Stage.acquire_true hacquire
        exact ⟨rfl, rfl, by simp⟩

theorem encodeRelease_sameRing (e : AmfVideoEncoder) (frame : Ipc.FrameReady) :
    SameRing e (e.encodeRelease frame) := by
  unfold encodeRelease D3D11Stage.release
  split <;> exact ⟨rfl, rfl, by simp⟩

theorem encodeRest_sameRing (e : AmfVideoEncoder) (frame : Ipc.FrameReady) (forceIdr : Bool)
    (env : EncodeEnv) : SameRing e (e.encodeRest frame forceIdr env).1 := by
  have hstage := e.encodeRest_stage frame forceIdr env
  refine ⟨?_, by rw [hstage], by rw [hstage]⟩
  simp only [encodeRest, finish]
  split
  · rfl
  · split <;> rfl

/-- A configured encoder has exactly the announced slots open, all of them. -/
theorem configure_opened {e e' : AmfVideoEncoder} {machine : Machine} {staging : Ipc.StagingConfig}
    {config : EncoderConfig} (h : e.configure machine staging config = (e', true)) :
    e'.stage.generation = staging.generation ∧ e'.stage.held.length = staging.count ∧
      ∀ k < staging.count, D3D11Stage.slotOpens staging (machine.slots k) = true := by
  simp only [configure] at h
  split at h
  · cases h
  · split at h
    · cases h
    · split at h
      · cases h
      · split at h
        · cases h
        · rename_i stage hopen
          have hslots : ∀ k < staging.count,
              D3D11Stage.slotOpens staging (machine.slots k) = true := by
            simp only [D3D11Stage.openRing] at hopen
            split at hopen
            · rename_i hok
              simpa using hok.2.2.2.2
            · cases hopen
          obtain ⟨-, hheld, hgeneration⟩ := D3D11Stage.openRing_true hopen
          split at h
          · cases h
          · split at h
            · cases h
            · split at h
              · cases h
              · cases h
                exact ⟨hgeneration, by simp [hheld], hslots⟩

/-- An encoder that could not be configured is not ready. -/
theorem configure_refused {e e' : AmfVideoEncoder} {machine : Machine} {staging : Ipc.StagingConfig}
    {config : EncoderConfig} (h : e.configure machine staging config = (e', false)) :
    e'.ready = false := by
  simp only [configure] at h
  split at h
  · cases h
    rfl
  · split at h
    · cases h
      rfl
    · split at h
      · cases h
        rfl
      · split at h
        · cases h
          rfl
        · split at h
          · cases h
            rfl
          · split at h
            · cases h
              rfl
            · split at h
              · cases h
                rfl
              · cases h

end AmfVideoEncoder

namespace VideoIntake

open Ipc

/-- What `open_ring` found, and what the encoder has open, are the announced slots. -/
structure Opened (i : VideoIntake) : Prop where
  found : ∀ frame config request found, i.thread = .opening frame config request found →
    ∀ (k : ℕ) (shared : SharedTexture), found[k]? = some (some shared) →
      shared.id = ⟨config.generation, k⟩
  ready : i.encoder.ready = true → ∀ k < i.encoder.stage.held.length,
    i.textures[k]? = some ⟨i.encoder.stage.generation, k⟩

/-- What a lookup finds is the announced slot, unless Windows refuses. -/
def NamesAnnounced (i : VideoIntake) (shared : SharedTexture) : Prop :=
  ∀ frame config request found, i.thread = .opening frame config request found →
    shared.id = ⟨config.generation, found.length⟩

theorem Opened.kept {i i' : VideoIntake} (h : i.Opened)
    (hthread : ∀ frame config request found, i'.thread ≠ .opening frame config request found)
    (hring : AmfVideoEncoder.SameRing i.encoder i'.encoder)
    (htextures : i'.textures = i.textures) : i'.Opened where
  found frame config request found hopening := (hthread _ _ _ _ hopening).elim
  ready hready k hk := by
    rw [hring.length] at hk
    rw [htextures, hring.generation]
    exact h.ready (hring.ready ▸ hready) k hk

/-- A shut down encoder has nothing open. -/
theorem Opened.shut {i : VideoIntake} (hready : i.encoder.ready = false)
    (hthread : ∀ frame config request found, i.thread = .opening frame config request found →
      found = []) : i.Opened where
  found frame config request found hopening k shared hk := by
    rw [hthread _ _ _ _ hopening] at hk
    simp at hk
  ready h := by simp [hready] at h

theorem filterMap_ids {found : List (Option SharedTexture)} (h : ∀ o ∈ found, o.isSome) (k : ℕ) :
    (found.filterMap (Option.map SharedTexture.id))[k]? =
      (found[k]?).join.map SharedTexture.id := by
  induction found generalizing k with
  | nil => simp
  | cons o rest ih =>
    obtain ⟨shared, rfl⟩ := Option.isSome_iff_exists.mp (h o (by simp))
    cases k with
    | zero => simp
    | succ k => simpa using ih (fun o ho => h o (by simp [ho])) k

/-- A ring of which every slot opened is the announced one, slot by slot. -/
theorem configured_opened {i : VideoIntake} {machine : Machine} {frame : FrameReady}
    {config : StagingConfig} {request : VideoRequest} {found : List (Option SharedTexture)}
    (hlength : found.length = config.count)
    (hfound : ∀ (k : ℕ) (shared : SharedTexture), found[k]? = some (some shared) →
      shared.id = ⟨config.generation, k⟩) :
    (i.configured machine frame config request found).Opened := by
  unfold configured
  split
  · rename_i encoder hconfigure
    exact .shut (AmfVideoEncoder.configure_refused hconfigure) (by simp)
  · rename_i encoder hconfigure
    obtain ⟨hgeneration, hheld, hslots⟩ := AmfVideoEncoder.configure_opened hconfigure
    have hopen : ∀ k < config.count, ∃ shared, found[k]? = some (some shared) := by
      intro k hk
      have hslot := of_decide_eq_true (hslots k hk)
      cases hjoin : (found[k]?).join with
      | none => simp [openedMachine, hjoin] at hslot
      | some shared => exact ⟨shared, Option.join_eq_some_iff.mp hjoin⟩
    have hall : ∀ o ∈ found, o.isSome := by
      intro o ho
      obtain ⟨k, hk, rfl⟩ := List.getElem_of_mem ho
      obtain ⟨shared, hshared⟩ := hopen k (by omega)
      rw [List.getElem?_eq_getElem hk] at hshared
      simp [Option.some.inj hshared]
    refine ⟨by simp, fun _ k hk => ?_⟩
    obtain ⟨shared, hshared⟩ := hopen k (hheld ▸ hk)
    dsimp only
    rw [filterMap_ids hall, hshared, hgeneration]
    simp [hfound k shared hshared]

theorem concluded_opened {i : VideoIntake} (h : ∀ thread : EncoderThread,
    (∀ frame config request found, thread ≠ .opening frame config request found) →
      ({ i with thread := thread } : VideoIntake).Opened)
    (frame : FrameReady) (forceIdr : Bool) (request : VideoRequest) (result : EncodeResult) :
    (i.concluded frame forceIdr request result).Opened := by
  cases result with
  | ok =>
    have hok := h (.answering frame true) (by simp)
    exact ⟨hok.found, hok.ready⟩
  | dropped => exact h (.answering frame false) (by simp)
  | fatal => exact .shut rfl (by simp [concluded, shutdownEncoder])

theorem takePending_opened {i : VideoIntake} (h : ∀ thread : EncoderThread,
    (∀ frame config request found, thread ≠ .opening frame config request found) →
      ({ i with thread := thread } : VideoIntake).Opened) : i.takePending.Opened := by
  unfold takePending
  split
  · exact h .waiting (by simp)
  · rename_i frame _
    have htaken := h (.taken frame) (by simp)
    exact ⟨htaken.found, htaken.ready⟩

theorem retune_sameRing (i : VideoIntake) (request : VideoRequest) :
    AmfVideoEncoder.SameRing i.encoder (i.retune request).encoder :=
  ⟨retune_ready i request, by rw [retune_stage], by rw [retune_stage]⟩

/-- The acquire of a retuned encoder leaves the ring as it was. -/
theorem acquired_sameRing (i : VideoIntake) (request : VideoRequest) (frame : FrameReady)
    (sync : Bool) : AmfVideoEncoder.SameRing i.encoder
      ((i.retune request).encoder.encodeAcquire frame sync).1 := by
  have hring := (i.retune request).encoder.encodeAcquire_sameRing frame sync
  have hretune := retune_sameRing i request
  exact ⟨hring.ready.trans hretune.ready, hring.generation.trans hretune.generation,
    hring.length.trans hretune.length⟩

/-- A step of the encoder thread, if what it looks up is what was announced. -/
theorem encoderStep_opened {i i' : VideoIntake} {a : EncoderAction} (hi : i.Opened)
    (hnames : ∀ shared, a = .openSlot (some shared) → i.NamesAnnounced shared)
    (h : i.encoderStep a = some i') : i'.Opened := by
  -- With another place than `opening`, the thread does not matter
  have helse : ∀ thread : EncoderThread,
      (∀ frame config request found, thread ≠ .opening frame config request found) →
        ({ i with thread := thread } : VideoIntake).Opened := fun thread hthread =>
    hi.kept hthread ⟨rfl, rfl, rfl⟩ rfl
  have hshut : ∀ thread : EncoderThread,
      (∀ frame config request found, thread ≠ .opening frame config request found) →
        ({ i.shutdownEncoder with encoderGeneration := 0, thread := thread } :
          VideoIntake).Opened := fun thread hthread =>
    .shut rfl fun _ _ _ _ hopening => (hthread _ _ _ _ hopening).elim
  cases encoderStep_stepped h with
  | tear => exact hi.kept (by simp) ⟨rfl, rfl, rfl⟩ rfl
  | wake =>
    refine takePending_opened fun thread hthread => ?_
    exact hi.kept hthread ⟨rfl, rfl, rfl⟩ rfl
  | relock => exact takePending_opened hshut
  | unstaged => exact hi.kept (by simp) ⟨rfl, rfl, rfl⟩ rfl
  | staged => exact helse _ (by simp)
  | inactive => exact helse _ (by simp)
  | current => exact helse _ (by simp)
  | rebuild =>
    refine .shut rfl ?_
    rintro _ _ _ _ hopening
    cases hopening
    rfl
  | opened frame config request found shared hthread =>
    refine ⟨?_, hi.ready⟩
    rintro _ _ _ _ hopening k shared' hk
    cases hopening
    by_cases hlt : k < found.length
    · rw [List.getElem?_append_left hlt] at hk
      exact hi.found _ _ _ _ hthread k shared' hk
    · rw [List.getElem?_append_right (by omega)] at hk
      obtain ⟨hk', heq⟩ := List.getElem?_eq_some_iff.mp hk
      simp only [List.length_singleton] at hk'
      obtain rfl : k = found.length := by omega
      simp only [Nat.sub_self, List.getElem_cons_zero] at heq
      exact hnames shared' (by rw [heq]) _ _ _ _ hthread
  | configured frame config request found machine hthread hlength =>
    exact configured_opened hlength (hi.found _ _ _ _ hthread)
  | acquired frame request sync encoder hthread hacquire =>
    have hring := acquired_sameRing i request frame sync
    rw [hacquire] at hring
    exact hi.kept (by simp) hring (retune_textures i request)
  | refused frame request sync encoder result hthread hacquire =>
    have hring := acquired_sameRing i request frame sync
    rw [hacquire] at hring
    refine concluded_opened (fun thread hthread' => ?_) _ _ _ _
    exact hi.kept hthread' hring (retune_textures i request)
  | released => exact hi.kept (by simp) (i.encoder.encodeRelease_sameRing _) rfl
  | finished frame forceIdr request env =>
    refine concluded_opened (fun thread hthread' => ?_) _ _ _ _
    exact hi.kept hthread' (i.encoder.encodeRest_sameRing frame forceIdr env) rfl
  | answered => exact hi.kept (by simp) ⟨rfl, rfl, rfl⟩ rfl
  | dropped => exact hi.kept (by simp) ⟨rfl, rfl, rfl⟩ rfl

theorem SameEncoder.opened {i i' : VideoIntake} (h : SameEncoder i i') (hi : i.Opened) :
    i'.Opened where
  found frame config request found hopening :=
    hi.found frame config request found (h.thread ▸ hopening)
  ready := by
    rw [h.encoder, h.textures]
    exact hi.ready

end VideoIntake

namespace Staging.System

open VideoIntake

/-- When a handle is duplicated, it names the slot that the shim announced under
it, or Windows refuses. -/
def LooksUpAnnounced (s : System) : Action → Prop
  | .encoder (.openSlot (some shared)) => s.intake.NamesAnnounced shared
  | _ => True

theorem step_opened {s s' : System} {a : Action} (ho : s.intake.Opened)
    (hlooks : s.LooksUpAnnounced a) (h : s.step a = some s') : s'.intake.Opened := by
  cases a with
  | present a => rwa [(presentStep_only h).intake]
  | ipc a => rwa [(ipcStep_same h).1]
  | haptic a => rwa [(hapticStep_same h).1]
  | server a => exact (serverStep_same h).1.opened ho
  | encoder a =>
    simp only [step, encoderStep] at h
    split_ifs at h
    obtain ⟨intake, hintake, rfl⟩ := Option.map_eq_some_iff.mp h
    refine encoderStep_opened ho ?_ hintake
    rintro shared rfl
    exact hlooks
  | request request =>
    cases h
    exact ho
  | helperDies =>
    cases h
    exact .shut rfl (by simp [System.helperDies])

end Staging.System

end WivrnNx
