import WivrnNx.Staging.Opened

/-!
# Slot integrity

Whether the shim ever writes a slot that the helper holds, and whether the helper
ever acquires a slot that shows something else than the frame it encodes.

- `SlotIntegrity`: neither happens in this state;
- `OpensAnnounced`: what an acquire that comes through must find behind the stage's
  slot, namely the texture the ring announced there;
- `slot_integrity_iff`: along every run, the one holds after every step exactly
  when the other does at every step, and it does if the lookups are right;
- `handle_value_reused`: a run in which a handle value comes back as a texture of
  the next ring before the helper has duplicated it.
-/

namespace WivrnNx.Staging.System

open Ipc VideoIntake

/-- Nobody's slot is written under him, and what the helper acquired for a frame
is what the shim drew for it. -/
structure SlotIntegrity (s : System) : Prop where
  writes : ∀ i eyes, s.present.lease? = some (i, eyes) → s.texture i ∉ heldTextures s.intake
  reads : ∀ frame forceIdr request, s.intake.thread = .holding frame forceIdr request →
    ∃ t, s.intake.textures[frame.stagingIndex]? = some t ∧ s.Shows t frame

/-- `encode` gets as far as the keyed mutex of the frame's slot. -/
def Reaches (i : VideoIntake) (frame : FrameReady) : Prop :=
  i.encoder.ready = true ∧ frame.generation = i.encoder.stage.generation ∧
    i.encoder.stage.held[frame.stagingIndex]? = some false

/-- When the acquire comes through, the texture that `open_ring` found behind the
frame's slot is the one the shim announced there. -/
def OpensAnnounced (s : System) : Action → Prop
  | .encoder (.acquire true) => ∀ frame request, s.intake.thread = .encoding frame request →
      Reaches s.intake frame → s.intake.textures[frame.stagingIndex]? = some (textureOf frame)
  | _ => True

/-! ## One step -/

/-- The frame in the encoder thread's hand is on its way. -/
theorem live_of_thread {s : System} {frame : FrameReady}
    (h : s.intake.thread.frame? = some frame) : frame ∈ s.live := by
  refine Multiset.mem_add.mpr (.inr (Multiset.mem_add.mpr (.inr ?_)))
  simp [h]

/-- A picture is on one texture only, so what shows a frame on its way is the
texture it was drawn on. -/
theorem shows_iff {s : System} (hd : s.Drawn) {frame : FrameReady} (hlive : frame ∈ s.live)
    {t : TextureId} : s.Shows t frame ↔ t = textureOf frame := by
  obtain ⟨n, hn, hpicture⟩ := hd.live frame hlive
  constructor
  · rintro ⟨n', hn', hpicture'⟩
    rw [hn] at hn'
    cases hn'
    exact hd.once t (textureOf frame) n (by rw [hpicture']) (by rw [hpicture])
  · rintro rfl
    exact ⟨n, hn, hpicture⟩

/-- In a reachable state, slot integrity is a matter of what was opened. -/
theorem slotIntegrity_iff_opened {s : System} (hi : s.Inv) :
    s.SlotIntegrity ↔ ∀ frame forceIdr request,
      s.intake.thread = .holding frame forceIdr request →
        s.intake.textures[frame.stagingIndex]? = some (textureOf frame) := by
  constructor
  · intro h frame forceIdr request hthread
    obtain ⟨t, ht, hshows⟩ := h.reads frame forceIdr request hthread
    have hlive : frame ∈ s.live := live_of_thread (by rw [hthread]; rfl)
    rw [ht, (shows_iff hi.drawn hlive).mp hshows]
  · intro h
    refine ⟨?_, fun frame forceIdr request hthread => ?_⟩
    · -- Writes: one keyed mutex has one holder
      intro i eyes hlease hheld
      have hshim := hi.leases.shim i eyes hlease
      have hhelper := hi.leases.locked.helper _ hheld
      exact absurd (hshim.unique hhelper) (by decide)
    · have hlive : frame ∈ s.live := live_of_thread (by rw [hthread]; rfl)
      exact ⟨_, h frame forceIdr request hthread, (shows_iff hi.drawn hlive).mpr rfl⟩

/-- A step that leaves the encoder alone leaves integrity alone. -/
theorem SlotIntegrity.same {s s' : System} (hi : s.Inv) (hi' : s'.Inv) (h : s.SlotIntegrity)
    (hsame : SameEncoder s.intake s'.intake) : s'.SlotIntegrity := by
  rw [slotIntegrity_iff_opened hi'] at *
  intro frame forceIdr request hthread
  rw [hsame.textures]
  exact (slotIntegrity_iff_opened hi).mp h frame forceIdr request (hsame.thread ▸ hthread)

/-- An acquire whose keyed mutex comes through succeeds exactly when `encode`
reaches it. -/
theorem encodeAcquire_reaches {i : VideoIntake} {frame : FrameReady} (request : VideoRequest)
    (h : Reaches i frame) :
    ∃ encoder, (i.retune request).encoder.encodeAcquire frame true = (encoder, none) := by
  obtain ⟨hready, hgen, hheld⟩ := h
  simp [AmfVideoEncoder.encodeAcquire, D3D11Stage.acquire, hready, hgen, hheld]

theorem encoderStep_integrity {s s' : System} {a : EncoderAction} (hi : s.Inv)
    (h : s.encoderStep a = some s') : s'.SlotIntegrity ↔ s.OpensAnnounced (.encoder a) := by
  rw [slotIntegrity_iff_opened (step_inv (a := .encoder a) hi h)]
  unfold encoderStep at h
  split_ifs at h
  obtain ⟨intake, hintake, rfl⟩ := Option.map_eq_some_iff.mp h
  rcases encoderStep_holds hi.leases.locked.steady hintake with
    hapart | ⟨frame, request, rfl, hthread, -, htextures, hholds⟩
  · -- Nothing is held afterwards, so the acquire, if it was one, did not come through
    refine ⟨fun _ => ?_, fun _ frame forceIdr request hholding =>
      (hapart.thread frame forceIdr request hholding).elim⟩
    unfold OpensAnnounced
    split
    · rename_i ha
      cases ha
      intro frame request hthread hreaches
      obtain ⟨encoder, hacquire⟩ := encodeAcquire_reaches request hreaches
      simp only [VideoIntake.encoderStep, hthread, hacquire, Option.some.injEq] at hintake
      subst hintake
      exact (hapart.thread frame _ request rfl).elim
    · trivial
  · obtain ⟨⟨forceIdr', request', hholding⟩, hheld⟩ := hholds
    constructor
    · intro hopened frame' request'' hthread' _
      rw [hthread] at hthread'
      cases hthread'
      have htexture := hopened frame forceIdr' request' hholding
      rwa [htextures] at htexture
    · intro hannounced frame' forceIdr'' request'' hholding'
      rw [hholding] at hholding'
      cases hholding'
      rw [htextures]
      refine hannounced frame request hthread ?_
      -- The step went through, so `encode` reached the keyed mutex
      simp only [VideoIntake.encoderStep, hthread] at hintake
      split at hintake
      · rename_i encoder hacquire
        obtain ⟨hgen, -, hfree, -⟩ := AmfVideoEncoder.encodeAcquire_none hacquire
        rw [retune_stage] at hgen hfree
        refine ⟨?_, hgen.symm, hfree⟩
        by_contra hready
        simp [AmfVideoEncoder.encodeAcquire, hready] at hacquire
      · cases hintake
        cases ‹EncodeResult› <;> cases hholding

theorem step_integrity {s s' : System} {a : Action} (hi : s.Inv) (hf : s.SlotIntegrity)
    (h : s.step a = some s') : s'.SlotIntegrity ↔ s.OpensAnnounced a := by
  have hi' := step_inv hi h
  have hsame : SameEncoder s.intake s'.intake → s.OpensAnnounced a →
      (s'.SlotIntegrity ↔ s.OpensAnnounced a) := fun hsame ha =>
    iff_of_true (hf.same hi hi' hsame) ha
  cases a with
  | present a => exact hsame (.of_eq (presentStep_only h).intake) trivial
  | ipc a => exact hsame (.of_eq (ipcStep_same h).1) trivial
  | haptic a => exact hsame (.of_eq (hapticStep_same h).1) trivial
  | server a => exact hsame (serverStep_same h).1 trivial
  | encoder a => exact encoderStep_integrity hi h
  | request request =>
    cases h
    exact hsame (.of_eq rfl) trivial
  | helperDies =>
    cases h
    refine iff_of_true ((slotIntegrity_iff_opened hi').mpr ?_) trivial
    intro frame forceIdr request hthread
    simp [System.helperDies] at hthread

/-! ## Runs -/

/-- What was opened under the announced handles is what an acquire finds. -/
theorem opensAnnounced_of_opened {s : System} (ho : s.intake.Opened) (a : Action) :
    s.OpensAnnounced a := by
  unfold OpensAnnounced
  split
  · intro frame request _ ⟨hready, hgen, hheld⟩
    have hlt := (List.getElem?_eq_some_iff.mp hheld).1
    rw [ho.ready hready frame.stagingIndex hlt, textureOf, hgen]
  · trivial

/-- Along every run, slot integrity holds after every step exactly when every
acquire that comes through finds the announced texture; and it does as long as a
handle still names that texture when the helper duplicates it. -/
theorem slot_integrity_iff (hasEncoder : Bool) (as : List Action) :
    (Runs.Along step (fun _ _ s' => s'.SlotIntegrity) (init hasEncoder) as ↔
      Runs.Along step (fun s a _ => s.OpensAnnounced a) (init hasEncoder) as) ∧
    (Runs.Along step (fun s a _ => s.LooksUpAnnounced a) (init hasEncoder) as →
      Runs.Along step (fun _ _ s' => s'.SlotIntegrity) (init hasEncoder) as) := by
  have hstep : ∀ s a s', Inv s → s.SlotIntegrity → step s a = some s' →
      Inv s' ∧ (s'.SlotIntegrity ↔ s.OpensAnnounced a) := fun s a s' hi hf h =>
    ⟨step_inv hi h, step_integrity hi hf h⟩
  have hfirst : (init hasEncoder).SlotIntegrity :=
    ⟨by simp [init, PresentThread.lease?], by simp [init]⟩
  have hiff := Runs.along_after_iff hstep as (init hasEncoder) (init_inv hasEncoder) hfirst
  refine ⟨hiff, fun hlooks => hiff.mpr ?_⟩
  have hopened : ∀ s a s', s.intake.Opened → s.LooksUpAnnounced a → step s a = some s' →
      s'.intake.Opened ∧ s.OpensAnnounced a := fun s a s' ho hl h =>
    ⟨step_opened ho hl h, opensAnnounced_of_opened ho a⟩
  have hshut : (init hasEncoder).intake.Opened := .shut rfl (by simp [init])
  exact Runs.along_imp hopened as _ hshut hlooks

/-! ## A handle value that comes back -/

section HandleReuse

/-- The pipe loop reads the config and the frame. -/
def deliver : List Action :=
  [.ipc (.flush true), .ipc (.flush true), .server (.flush true), .server .receive,
    .server (.flush true), .server .receive]

/-- The session is lost on both sides. -/
def loseSession : List Action :=
  [.server .fail, .server .disconnect, .server .shimGone, .ipc .fail, .ipc .closePipe,
    .ipc .clearConnected, .ipc .dropPending, .ipc .clearResend, .ipc .markStale]

/-- What slot `i` of the second ring is. -/
def secondRing (i : ℕ) : SharedTexture := ⟨⟨2, i⟩, ⟨2880, 1600, 28⟩⟩

def ringConfig : StagingConfig :=
  { generation := 1, width := 2880, height := 1600, dxgiFormat := 28, count := 3
    handles := [10, 11, 12] }

/-- The encoder thread has copied the first ring's config when the session is
lost. It duplicates the handles after the next session's first Present, when
their values name the second ring's textures, and acquires the first slot. -/
def reusedHandles : List Action :=
  .request { active := true } :: connect ++ firstPresent ++ deliver ++
    [.encoder .wake, .encoder .readStaging, .encoder (.readRequest { active := true })] ++
    loseSession ++ connect ++ firstPresent ++
    [.encoder (.openSlot (some (secondRing 0))), .encoder (.openSlot (some (secondRing 1))),
      .encoder (.openSlot (some (secondRing 2))), .encoder (.configure (.good ringConfig)),
      .encoder (.acquire true)]

/-- The slot that `encode` holds shows another Present's picture. -/
def misread (s : System) : Bool :=
  match s.intake.thread with
  | .holding frame _ _ =>
    match s.intake.textures[frame.stagingIndex]? with
    | some t => (s.contents t).left ≠ s.drawnBy frame.frameId
    | none => false
  | _ => false

theorem not_slotIntegrity_of_misread {s : System} (h : misread s = true) :
    ¬ s.SlotIntegrity := by
  intro hs
  unfold misread at h
  split at h
  · rename_i frame forceIdr request hthread
    obtain ⟨t, ht, n, hn, hpicture⟩ := hs.reads frame forceIdr request hthread
    simp [ht, hn, hpicture] at h
  · cases h

/-- The acquire for the first frame comes through on the second ring's slot, which
shows the second Present. -/
theorem handle_value_reused :
    ∃ s, Runs.run step (init true) reusedHandles = some s ∧ ¬ s.SlotIntegrity := by
  have hrun : (Runs.run step (init true) reusedHandles).map misread = some true := by
    decide +kernel
  obtain ⟨s, hs, hmisread⟩ := Option.map_eq_some_iff.mp hrun
  exact ⟨s, hs, not_slotIntegrity_of_misread hmisread⟩

end HandleReuse

end WivrnNx.Staging.System
