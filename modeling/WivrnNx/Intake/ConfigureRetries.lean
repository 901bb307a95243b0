import WivrnNx.Intake.EncoderUse

/-!
# A refused configuration

`ensure_encoder` records the generations it has failed for, so as not to open the ring and
the components again on every frame: the next StagingConfig is to try again. Its early
return asks for `encoder_ready_` first, which a failure leaves false.

- `Retries`: bridge and intake, with the generations that `configure` has refused since the
  last StagingConfig;
- `NotRetried` and `Untried`: no call repeats a refusal; no frame would make it;
- `not_retried_iff`: the one holds along a run exactly when the other does;
- `retried_on_next_frame`: the frame after a failure calls `configure` again.
-/

namespace WivrnNx

open Ipc

/-- The generations of the ring and of the parameters that `configure` is called for. -/
def EncoderThread.configuring? : EncoderThread → Option (ℕ × ℕ)
  | .opening _ config request _ => some (config.generation, request.configGeneration)
  | _ => none

/-- The bridge and the intake, and what `configure` has refused since the shim's last
message about its ring. -/
structure Retries where
  core : KeyRequests := {}
  refused : List (ℕ × ℕ) := []
deriving DecidableEq, Repr

namespace Retries

open KeyRequests

/-- What an event makes of the refusals. -/
def refusedAfter (s : Retries) : Event → List (ℕ × ℕ)
  | .stagingConfig _ | .shimGone => []
  | .configure (_, false) => s.core.intake.thread.configuring?.toList ++ s.refused
  | _ => s.refused

def step (s : Retries) (e : Event) : Option Retries :=
  (KeyRequests.step s.core e).map fun core => { core := core, refused := s.refusedAfter e }

/-- `configure` is not called for what it has refused. `ensure_encoder` calls it where it
has read the request. -/
def NotRetried (s : Retries) (e : Event) (s' : Retries) : Prop :=
  e = .readRequest → ∀ p ∈ s'.core.intake.thread.configuring?, p ∉ s.refused

instance (s : Retries) (e : Event) (s' : Retries) : Decidable (NotRetried s e s') :=
  decidable_of_iff (e = .readRequest → s'.core.intake.thread.configuring?.all (· ∉ s.refused))
    (by simp [NotRetried, Option.all_eq_true])

/-- No frame is taken up, with a client active, for the generations of a refusal. -/
def Untried (s : Retries) (e : Event) (_ : Retries) : Prop :=
  e = .readRequest → s.core.bridge.request.active = true → ∀ frame config,
    s.core.intake.thread = .staged frame config →
      (config.generation, s.core.bridge.request.configGeneration) ∉ s.refused

/-! ## Invariant -/

/-- Nothing that is ready, or being configured, was refused since the ring was announced. -/
structure Inv (s : Retries) : Prop where
  ready : s.core.intake.encoderReady = true →
    (s.core.intake.encoderGeneration, s.core.intake.encoderConfigGeneration) ∉ s.refused
  opening : ∀ p ∈ s.core.intake.thread.configuring?,
    p ∉ s.refused ∧ s.core.intake.encoderReady = false

/-- A step that keeps the encoder's record, or shuts it down, and calls nothing new. -/
theorem Inv.kept {s s' : Retries} (h : s.Inv)
    (hready : s'.core.intake.encoderReady = true → s.core.intake.encoderReady = true ∧
      s'.core.intake.encoderGeneration = s.core.intake.encoderGeneration ∧
      s'.core.intake.encoderConfigGeneration = s.core.intake.encoderConfigGeneration)
    (hopening : ∀ p ∈ s'.core.intake.thread.configuring?,
      p ∈ s.core.intake.thread.configuring?)
    (hrefused : ∀ p ∈ s'.refused, p ∈ s.refused) : s'.Inv := by
  constructor
  · intro hr hmem
    rcases hready hr with ⟨hbefore, hgeneration, hconfig⟩
    rw [hgeneration, hconfig] at hmem
    exact h.ready hbefore (hrefused _ hmem)
  · intro p hp
    rcases h.opening p (hopening p hp) with ⟨hnot, hidle⟩
    refine ⟨fun hmem => hnot (hrefused p hmem), ?_⟩
    by_contra hr
    rw [(hready (by simpa using hr)).1] at hidle
    cases hidle

theorem Inv.same {s s' : Retries} (h : s.Inv)
    (hsame : EncoderUse.SameEncoder s.core.intake s'.core.intake)
    (hopening : ∀ p ∈ s'.core.intake.thread.configuring?,
      p ∈ s.core.intake.thread.configuring?)
    (hrefused : ∀ p ∈ s'.refused, p ∈ s.refused) : s'.Inv := by
  refine h.kept ?_ hopening hrefused
  intro hr
  exact ⟨hsame.ready.symm.trans hr, hsame.generation, hsame.configGeneration⟩

/-- A step of another thread; a message about the ring forgets the refusals. -/
theorem Inv.elsewhere {s : Retries} (h : s.Inv) {core : KeyRequests} {refused : List (ℕ × ℕ)}
    (hsame : EncoderUse.SameEncoder s.core.intake core.intake)
    (hthread : core.intake.thread = s.core.intake.thread)
    (hrefused : ∀ p ∈ refused, p ∈ s.refused) :
    ({ core := core, refused := refused } : Retries).Inv := by
  refine h.same hsame ?_ hrefused
  intro p hp
  rw [← hthread]
  exact hp

theorem takePending_configuring? (i : VideoIntake) :
    i.takePending.thread.configuring? = none := by
  rcases i.takePending_thread with hthread | ⟨frame, hthread⟩
  · rw [hthread]
    rfl
  · rw [hthread]
    rfl

/-- A step of the encoder thread that `configure` does not answer. -/
theorem thread_inv {s : Retries} (h : s.Inv) {a : VideoIntake.EncoderAction} {i : VideoIntake}
    (hown : a.calls = false) (hs : s.core.intake.Stepped a i)
    (hnew : ∀ request, a = .readRequest request →
      ∀ p ∈ i.thread.configuring?, p ∉ s.refused) :
    ({ s with core := { s.core with intake := i } } : Retries).Inv := by
  cases hs with
  | tear | unstaged | staged | inactive | answered | dropped | current =>
    refine h.same ⟨rfl, rfl, rfl, rfl, rfl⟩ ?_ (fun _ hp => hp)
    intro p hp
    cases hp
  | wake =>
    have hsame := EncoderUse.takePending_same { s.core.intake with stagingChanged := false }
    refine h.same ⟨hsame.ready, hsame.generation, hsame.configGeneration, hsame.bitrateSeen,
      hsame.info⟩ ?_ (fun _ hp => hp)
    intro p hp
    cases (takePending_configuring? _).symm.trans hp
  | relock =>
    constructor
    · intro hr
      cases (VideoIntake.takePending_encoderReady _).symm.trans hr
    · intro p hp
      cases (takePending_configuring? _).symm.trans hp
  | rebuild frame config request =>
    constructor
    · intro hr
      cases hr
    · exact fun p hp => ⟨hnew request rfl p hp, rfl⟩
  | opened frame config request found shared hthread =>
    refine h.same ⟨rfl, rfl, rfl, rfl, rfl⟩ ?_ (fun _ hp => hp)
    intro p hp
    rw [hthread]
    exact hp
  -- These are the steps with a call into the encoder
  | configured | acquired | refused | released | finished => cases hown

/-- `configure` has answered, for a pair that was not refused before. -/
theorem configure_inv {s : Retries} (h : s.Inv) {core : KeyRequests}
    {answer : AmfVideoEncoder × Bool}
    (hs : KeyRequests.step s.core (.configure answer) = some core) :
    ({ core := core, refused := s.refusedAfter (.configure answer) } : Retries).Inv := by
  simp only [KeyRequests.step] at hs
  split at hs
  · rename_i frame config request found hthread
    rcases h.opening (config.generation, request.configGeneration) (by rw [hthread]; rfl) with
      ⟨hnot, hidle⟩
    cases hs
    rcases answer with ⟨encoder, ok⟩
    cases ok with
    | false =>
      constructor
      · intro hr
        cases hidle.symm.trans hr
      · intro p hp
        cases hp
    | true =>
      constructor
      · exact fun _ => hnot
      · intro p hp
        cases hp
  · cases hs

/-- Inside `encode` nothing is configured. -/
theorem encode_inv {s : Retries} (h : s.Inv) {core : KeyRequests} {e : Event}
    (hcall : (∃ encoder, e = .encode encoder) ∨ (∃ encoder, e = .release encoder) ∨
      ∃ encoder result, e = .returned encoder result)
    (hs : KeyRequests.step s.core e = some core) :
    ({ core := core, refused := s.refused } : Retries).Inv := by
  have hconclude : ∀ encoder frame forceIdr request result, ({
      core := s.core.conclude encoder frame forceIdr request result
      refused := s.refused } : Retries).Inv := by
    intro encoder frame forceIdr request result
    refine h.kept ?_ ?_ (fun _ hp => hp)
    · intro hr
      cases result with
      | ok => exact ⟨hr, rfl, rfl⟩
      | dropped => exact ⟨hr, rfl, rfl⟩
      | fatal => cases hr
    · intro p hp
      cases result <;> cases hp
  rcases hcall with ⟨encoder, rfl⟩ | ⟨encoder, rfl⟩ | ⟨encoder, result, rfl⟩
  · simp only [KeyRequests.step] at hs
    split at hs
    · cases hs
      refine h.kept ?_ ?_ (fun _ hp => hp)
      · intro hr
        simp only [VideoIntake.retune] at hr ⊢
        split
        · rename_i hmoved
          rw [if_pos hmoved] at hr
          exact ⟨hr, rfl, rfl⟩
        · rename_i hseen
          rw [if_neg hseen] at hr
          exact ⟨hr, rfl, rfl⟩
      · intro p hp
        cases hp
    · cases hs
  · simp only [KeyRequests.step] at hs
    split at hs
    · cases hs
      refine h.kept (fun hr => ⟨hr, rfl, rfl⟩) ?_ (fun _ hp => hp)
      intro p hp
      cases hp
    · cases hs
  · simp only [KeyRequests.step] at hs
    split at hs
    · cases hs
      exact hconclude _ _ _ _ _
    · cases hs
      exact hconclude _ _ _ _ _
    · cases hs

theorem step_inv {s s' : Retries} {e : Event} (h : s.Inv) (hnew : NotRetried s e s')
    (hs : step s e = some s') : s'.Inv := by
  rcases Option.map_eq_some_iff.mp hs with ⟨core, hcore, rfl⟩
  cases e with
  | setPrefs | setClient | clearClient | setBitrate | requestIdr =>
    cases hcore
    exact h.elsewhere ⟨rfl, rfl, rfl, rfl, rfl⟩ rfl (fun _ hp => hp)
  | stagingConfig config =>
    cases hcore
    exact h.elsewhere (EncoderUse.onStagingConfig_same _ config)
      (onStagingConfig_thread _ config).2 (by simp [refusedAfter])
  | frameReady frame =>
    cases hcore
    exact h.elsewhere (EncoderUse.onFrameReady_same _ _ frame) (onFrameReady_thread _ _ frame).2
      (fun _ hp => hp)
  | shimGone =>
    cases hcore
    exact h.elsewhere ⟨rfl, rfl, rfl, rfl, rfl⟩ rfl (by simp [refusedAfter])
  | popDone =>
    rcases Option.map_eq_some_iff.mp hcore with ⟨⟨d, i⟩, hpop, rfl⟩
    unfold VideoIntake.popDone at hpop
    split at hpop
    · cases hpop
    · cases hpop
      exact h.elsewhere ⟨rfl, rfl, rfl, rfl, rfl⟩ rfl (fun _ hp => hp)
  | wake | relock | readStaging | openSlot | answer =>
    rcases EncoderUse.thread_stepped hcore with ⟨i, hi, rfl⟩
    exact thread_inv h rfl hi nofun
  | readRequest =>
    rcases EncoderUse.thread_stepped hcore with ⟨i, hi, rfl⟩
    exact thread_inv h rfl hi fun _ _ p hp => hnew rfl p hp
  | configure answer => exact configure_inv h hcore
  | encode encoder => exact encode_inv h (.inl ⟨encoder, rfl⟩) hcore
  | release encoder => exact encode_inv h (.inr (.inl ⟨encoder, rfl⟩)) hcore
  | returned encoder result => exact encode_inv h (.inr (.inr ⟨encoder, result, rfl⟩)) hcore

theorem init_inv : ({} : Retries).Inv := by
  constructor
  · intro hr
    cases hr
  · intro p hp
    cases hp

/-! ## When a refusal is repeated -/

/-- At the copy of the request: without a frame to try it for, nothing is tried again. -/
theorem notRetried_of_untried {s s' : Retries} {e : Event} (hs : step s e = some s')
    (hnone : Untried s e s') : NotRetried s e s' := by
  rintro rfl p hp
  rcases Option.map_eq_some_iff.mp hs with ⟨core, hcore, rfl⟩
  rcases EncoderUse.thread_stepped hcore with ⟨i, hi, rfl⟩
  cases hi with
  | inactive => cases hp
  | current => cases hp
  | rebuild frame config _ hthread hactive =>
    cases hp
    exact hnone rfl hactive frame config hthread

/-- And a frame that is there is tried: no encoder is ready for what was refused. -/
theorem untried_of_notRetried {s s' : Retries} {e : Event} (h : s.Inv)
    (hs : step s e = some s') (hnot : NotRetried s e s') : Untried s e s' := by
  rintro rfl hactive frame config hthread
  rcases Option.map_eq_some_iff.mp hs with ⟨core, hcore, rfl⟩
  rcases EncoderUse.thread_stepped hcore with ⟨i, hi, rfl⟩
  cases hi with
  | inactive frame' config' _ _ hinactive =>
    rw [hactive] at hinactive
    cases hinactive
  | current frame' config' _ hthread' _ hcurrent =>
    simp only [VideoIntake.upToDate, Bool.decide_and, Bool.and_eq_true, decide_eq_true_eq]
      at hcurrent
    rw [hthread] at hthread'
    cases hthread'
    have hready := h.ready hcurrent.1
    rw [hcurrent.2.1, hcurrent.2.2] at hready
    exact hready
  | rebuild frame' config' _ hthread' =>
    rw [hthread] at hthread'
    cases hthread'
    exact hnot rfl _ rfl

/-- Over every run: `configure` is never called again for what it has refused exactly when
no frame is taken up for it, with a client active, before the shim's next message about
its ring. -/
theorem not_retried_iff (es : List Event) :
    Runs.Along step NotRetried {} es ↔ Runs.Along step Untried {} es := by
  have hkept : ∀ (s : Retries) (e : Event) (s' : Retries), s.Inv → NotRetried s e s' →
      step s e = some s' → s'.Inv ∧ Untried s e s' := by
    intro s e s' h hnot hs
    exact ⟨step_inv h hnot hs, untried_of_notRetried h hs hnot⟩
  have hquiet : ∀ (s : Retries) (e : Event) (s' : Retries), s.Inv → Untried s e s' →
      step s e = some s' → s'.Inv ∧ NotRetried s e s' := by
    intro s e s' h hnone hs
    have hnot := notRetried_of_untried hs hnone
    exact ⟨step_inv h hnot hs, hnot⟩
  constructor
  · exact Runs.along_imp hkept es _ init_inv
  · exact Runs.along_imp hquiet es _ init_inv

/-- A client, a ring, and a frame for which `configure` fails; then the next frame. -/
def refusedTwice : List Event :=
  [.setClient (.val 90) true true, .stagingConfig ring,
    .frameReady { frameId := 1, generation := 1, stagingIndex := 0 }, .wake, .readStaging,
    .readRequest, .openSlot none, .configure ({}, false), .answer,
    .frameReady { frameId := 2, generation := 1, stagingIndex := 0 }, .wake, .readStaging,
    .readRequest]

theorem retried_on_next_frame : ¬ Runs.Along step NotRetried {} refusedTwice := by
  decide +kernel

end Retries

end WivrnNx
