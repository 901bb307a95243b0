import WivrnNx.Intake.FreshEncoder
import WivrnNx.Lib.Runs

/-!
# Key-frame requests across the hand-off

The counter `idr_generation` that the session thread moves (`VideoBridge`), and
`encode_one`, which copies the request, calls the encoder and keeps what it served
in `idr_seen_` (helper/src/video_intake.cpp). The encoder is the interface that
`VideoIntake` holds: `configure` and `encode` answer anything and leave any encoder
behind, so `encoderStep` with the components' own answers is one way among these
(`encoderStep_handed`). The stream description and the queue of encoded frames are
left out: the hand-off reads neither.
-/

namespace WivrnNx

open Ipc

namespace VideoIntake

/-- `ensure_encoder` once `configure` gave this answer. -/
def ensured (i : VideoIntake) (answer : AmfVideoEncoder × Bool) (frame : FrameReady)
    (config : StagingConfig) (request : VideoRequest) (found : List (Option SharedTexture)) :
    VideoIntake :=
  match answer with
  | (encoder, false) =>
    { i with encoder := encoder, encoderConfigGeneration := request.configGeneration
             encoderGeneration := config.generation, thread := .answering frame false }
  | (encoder, true) =>
    { i with encoder := encoder, encoderReady := true, encoderGeneration := config.generation
             encoderConfigGeneration := request.configGeneration
             idrSeen := 0, bitrateSeen := request.bitrateGeneration
             textures := found.filterMap (Option.map SharedTexture.id)
             thread := .encoding frame request }

theorem configured_ensured (i : VideoIntake) (machine : Machine) (frame : FrameReady)
    (config : StagingConfig) (request : VideoRequest) (found : List (Option SharedTexture)) :
    i.configured machine frame config request found =
      i.ensured (i.encoder.configure (openedMachine machine found) config (encoderConfig request))
        frame config request found := by
  unfold configured ensured
  rfl

end VideoIntake

/-- The call of `encode` that the thread is in: `force_idr` and the request it copied. -/
def EncoderThread.calling? : EncoderThread → Option (Bool × VideoRequest)
  | .holding _ forceIdr request | .released _ forceIdr request => some (forceIdr, request)
  | _ => none

/-- A call of `encode` that has returned. -/
structure EncodeCall where
  /-- `idr_generation` in the request that was copied for it. -/
  snapshot : ℕ
  forced : Bool
  result : EncodeResult
  /-- The encoder, by how many were configured. -/
  encoder : ℕ
  /-- `idr_generation` when it returned. -/
  asked : ℕ
  /-- `idr_seen_` after it returned. -/
  seen : ℕ
deriving DecidableEq, Repr

/-- The bridge and the intake, with the calls of `encode` so far as ghosts. -/
structure KeyRequests where
  bridge : VideoBridge := {}
  intake : VideoIntake := {}
  encoders : ℕ := 0
  calls : List EncodeCall := []
deriving DecidableEq, Repr

namespace KeyRequests

inductive Event where
  | setPrefs (bitrateBps codec : ℕ) (adaptive : Bool)
  | setClient (refreshHz : Flt) (allowH265 allowH264 : Bool)
  | clearClient
  | setBitrate (bitrateBps : ℕ)
  | requestIdr
  | stagingConfig (config : StagingConfig)
  | frameReady (frame : FrameReady)
  | shimGone
  | popDone
  | wake
  | relock
  | readStaging
  /-- The copy of the request. -/
  | readRequest
  | openSlot (shared : Option SharedTexture)
  | configure (answer : AmfVideoEncoder × Bool)
  /-- `encode` is called. -/
  | encode (encoder : AmfVideoEncoder)
  | release (encoder : AmfVideoEncoder)
  /-- `encode` returns. -/
  | returned (encoder : AmfVideoEncoder) (result : EncodeResult)
  | answer
deriving DecidableEq, Repr

/-- A step of the encoder thread that calls nothing of the encoder's. -/
def thread (s : KeyRequests) (a : VideoIntake.EncoderAction) : Option KeyRequests :=
  (s.intake.encoderStep a).map fun i => { s with intake := i }

/-- `encode` has returned to `encode_one`. -/
def conclude (s : KeyRequests) (encoder : AmfVideoEncoder) (frame : FrameReady) (forceIdr : Bool)
    (request : VideoRequest) (result : EncodeResult) : KeyRequests :=
  let i := ({ s.intake with encoder := encoder } : VideoIntake).concluded frame forceIdr request
    result
  { s with
    intake := i
    calls := s.calls ++ [{ snapshot := request.idrGeneration, forced := forceIdr, result := result
                           encoder := s.encoders, asked := s.bridge.request.idrGeneration
                           seen := i.idrSeen }] }

def step (s : KeyRequests) : Event → Option KeyRequests
  | .setPrefs bitrateBps codec adaptive =>
    some { s with bridge := s.bridge.setPrefs bitrateBps codec adaptive }
  | .setClient refreshHz allowH265 allowH264 =>
    some { s with bridge := s.bridge.setClient refreshHz allowH265 allowH264 }
  | .clearClient => some { s with bridge := s.bridge.clearClient }
  | .setBitrate bitrateBps => some { s with bridge := s.bridge.setBitrate bitrateBps }
  | .requestIdr => some { s with bridge := s.bridge.requestIdr }
  | .stagingConfig config => some { s with intake := s.intake.onStagingConfig config }
  | .frameReady frame =>
    some { s with intake := s.intake.onFrameReady s.bridge.request.active frame }
  | .shimGone => some { s with intake := s.intake.onShimGone }
  | .popDone => s.intake.popDone.map fun popped => { s with intake := popped.2 }
  | .wake => s.thread .wake
  | .relock => s.thread .relock
  | .readStaging => s.thread .readStaging
  | .readRequest => s.thread (.readRequest s.bridge.request)
  | .openSlot shared => s.thread (.openSlot shared)
  | .configure answer =>
    match s.intake.thread with
    | .opening frame config request found =>
      some { s with
        intake := s.intake.ensured answer frame config request found
        encoders := if answer.2 then s.encoders + 1 else s.encoders }
    | _ => none
  | .encode encoder =>
    match s.intake.thread with
    | .encoding frame request =>
      some { s with intake := { s.intake.retune request with
        encoder := encoder
        thread := .holding frame (request.idrGeneration ≠ s.intake.idrSeen) request } }
    | _ => none
  | .release encoder =>
    match s.intake.thread with
    | .holding frame forceIdr request =>
      some { s with intake := { s.intake with
        encoder := encoder
        thread := .released frame forceIdr request } }
    | _ => none
  | .returned encoder result =>
    match s.intake.thread with
    | .holding frame forceIdr request | .released frame forceIdr request =>
      some (s.conclude encoder frame forceIdr request result)
    | _ => none
  | .answer => s.thread .answer

end KeyRequests

/-! ## What is served -/

/-- A call that answered `ok`, of this encoder for this generation. -/
def EncodeCall.Served (c : EncodeCall) (encoder snapshot : ℕ) : Prop :=
  c.result = .ok ∧ c.encoder = encoder ∧ c.snapshot = snapshot

/-- The encoder itself is called. -/
def VideoIntake.EncoderAction.calls : VideoIntake.EncoderAction → Bool
  | .configure _ | .acquire _ | .release | .finish _ => true
  | _ => false

theorem calling?_request? {t : EncoderThread} {force : Bool} {r : VideoRequest}
    (h : t.calling? = some (force, r)) : t.request? = some r := by
  cases t <;> simp_all [EncoderThread.calling?, EncoderThread.request?]

/-- A step that calls nothing of the encoder's does not move `idr_seen_`, and works on the
request it worked on or on the one it has just read. -/
theorem stepped_keeps {i i' : VideoIntake} {a : VideoIntake.EncoderAction} (h : i.Stepped a i')
    (hown : a.calls = false) :
    i'.idrSeen = i.idrSeen ∧ i'.thread.calling? = none ∧
      ∀ r, i'.thread.request? = some r →
        i.thread.request? = some r ∨ (a = .readRequest r ∧ r.active = true) := by
  cases h with
  | tear | unstaged | staged | inactive | answered | dropped => exact ⟨rfl, rfl, nofun⟩
  -- A frame is taken up without a request, which is read later
  | wake | relock =>
    refine ⟨VideoIntake.takePending_idrSeen _, ?_, ?_⟩
    · rcases VideoIntake.takePending_thread _ with ht | ⟨frame, ht⟩
      · rw [ht]
        rfl
      · rw [ht]
        rfl
    · intro r hr
      rw [(VideoIntake.takePending_idle _).1] at hr
      cases hr
  -- The request is the one just read
  | current frame config request hthread hactive =>
    refine ⟨rfl, rfl, ?_⟩
    intro r hr
    cases hr
    exact .inr ⟨rfl, hactive⟩
  | rebuild frame config request hthread hactive =>
    refine ⟨rfl, rfl, ?_⟩
    intro r hr
    cases hr
    exact .inr ⟨rfl, hactive⟩
  | opened frame config request found shared hthread =>
    refine ⟨rfl, rfl, ?_⟩
    intro r hr
    rw [hthread]
    exact .inl hr
  -- These are the steps with a call into the encoder
  | configured | acquired | refused | released | finished => cases hown

namespace KeyRequests

/-- The requests and what was served of them. -/
structure Handed (s : KeyRequests) : Prop where
  active : s.bridge.request.active = true → 0 < s.bridge.request.idrGeneration
  bound : s.intake.idrSeen ≤ s.bridge.request.idrGeneration
  /-- The request being worked on asks for a key frame, and no later one is served yet. -/
  asked : ∀ r, s.intake.thread.request? = some r → 0 < r.idrGeneration ∧
    r.idrGeneration ≤ s.bridge.request.idrGeneration ∧ s.intake.idrSeen ≤ r.idrGeneration
  /-- A call that forces nothing repeats what is served. -/
  plain : ∀ r, s.intake.thread.calling? = some (false, r) → r.idrGeneration = s.intake.idrSeen
  /-- This encoder has served `idr_seen_`, or nothing. -/
  seen : s.intake.idrSeen = 0 ∨
    ∃ b ∈ s.calls, EncodeCall.Served b s.encoders s.intake.idrSeen
  /-- A call that forced nothing had one before it, by the same encoder for the same request. -/
  kept : ∀ (n : ℕ) (c : EncodeCall), s.calls[n]? = some c → c.result = .ok → c.forced = false →
    ∃ m b, m < n ∧ s.calls[m]? = some b ∧ EncodeCall.Served b c.encoder c.snapshot
  late : ∀ c ∈ s.calls, c.seen ≤ c.snapshot ∧ c.snapshot ≤ c.asked

/-- A step of the encoder thread that does not move `idr_seen_`. -/
theorem handed_thread {s : KeyRequests} {i : VideoIntake} (h : s.Handed)
    (hseen : i.idrSeen = s.intake.idrSeen)
    (hasked : ∀ r, i.thread.request? = some r →
      s.intake.thread.request? = some r ∨ (r = s.bridge.request ∧ r.active = true))
    (hcalling : i.thread.calling? = s.intake.thread.calling? ∨ i.thread.calling? = none) :
    ({ s with intake := i } : KeyRequests).Handed := by
  refine ⟨h.active, ?_, ?_, ?_, ?_, h.kept, h.late⟩
  · change i.idrSeen ≤ _
    rw [hseen]
    exact h.bound
  · intro r hr
    change 0 < r.idrGeneration ∧ _ ∧ i.idrSeen ≤ _
    rw [hseen]
    rcases hasked r hr with hbefore | ⟨rfl, hactive⟩
    · exact h.asked r hbefore
    · exact ⟨h.active hactive, le_refl _, h.bound⟩
  · intro r hr
    change r.idrGeneration = i.idrSeen
    rw [hseen]
    change i.thread.calling? = _ at hr
    rcases hcalling with hsame | hnone
    · exact h.plain r (hsame ▸ hr)
    · rw [hnone] at hr
      cases hr
  · change i.idrSeen = 0 ∨ ∃ b ∈ s.calls, EncodeCall.Served b s.encoders i.idrSeen
    rw [hseen]
    exact h.seen

/-- The bridge moves on: its generation only grows. -/
theorem handed_bridge {s : KeyRequests} {b : VideoBridge} (h : s.Handed)
    (hgrows : s.bridge.request.idrGeneration ≤ b.request.idrGeneration)
    (hactive : b.request.active = true → 0 < b.request.idrGeneration) :
    ({ s with bridge := b } : KeyRequests).Handed where
  active := hactive
  bound := h.bound.trans hgrows
  asked := fun r hr => ⟨(h.asked r hr).1, (h.asked r hr).2.1.trans hgrows, (h.asked r hr).2.2⟩
  plain := h.plain
  seen := h.seen
  kept := h.kept
  late := h.late

theorem setClient_asks (b : VideoBridge) (hz : Flt) (h265 h264 : Bool)
    (h : b.request.active = true → 0 < b.request.idrGeneration) :
    0 < (b.setClient hz h265 h264).request.idrGeneration := by
  unfold VideoBridge.setClient
  dsimp only
  split
  · exact Nat.succ_pos _
  · rename_i hchanged
    refine h ?_
    by_contra hinactive
    exact hchanged (by simp [VideoBridge.clientChanged, hinactive])

theorem setBitrate_same (b : VideoBridge) (bps : ℕ) :
    (b.setBitrate bps).request.idrGeneration = b.request.idrGeneration ∧
      (b.setBitrate bps).request.active = b.request.active := by
  unfold VideoBridge.setBitrate
  split <;> exact ⟨rfl, rfl⟩

theorem clearClient_same (b : VideoBridge) :
    b.clearClient.request.idrGeneration = b.request.idrGeneration ∧
      b.clearClient.request.active = false := by
  unfold VideoBridge.clearClient
  split
  · rename_i hinactive
    exact ⟨rfl, by simpa using hinactive⟩
  · exact ⟨rfl, rfl⟩

/-- `encode` returns, whatever it says. -/
theorem handed_conclude {s : KeyRequests} {encoder : AmfVideoEncoder} {frame : FrameReady}
    {forceIdr : Bool} {request : VideoRequest} {result : EncodeResult} (h : s.Handed)
    (hcalling : s.intake.thread.calling? = some (forceIdr, request)) :
    (s.conclude encoder frame forceIdr request result).Handed := by
  obtain ⟨hpos, hread, hseen⟩ := h.asked request (calling?_request? hcalling)
  let i := ({ s.intake with encoder := encoder } : VideoIntake).concluded frame forceIdr request
    result
  have hthread : i.thread = .answering frame (result = .ok) :=
    (VideoIntake.concluded_cases _ _ _ _ _).1
  let call : EncodeCall :=
    { snapshot := request.idrGeneration, forced := forceIdr, result := result
      encoder := s.encoders, asked := s.bridge.request.idrGeneration, seen := i.idrSeen }
  -- `idr_seen_` moves to the snapshot, or not at all
  have hmoved : (i.idrSeen = request.idrGeneration ∧ result = .ok) ∨
      i.idrSeen = s.intake.idrSeen := by
    by_cases hok : result = .ok
    · subst hok
      cases forceIdr with
      | true => exact .inl ⟨rfl, rfl⟩
      | false => exact .inr rfl
    · exact .inr ((VideoIntake.concluded_cases _ _ _ _ _).2.2.1 hok)
  have hle : i.idrSeen ≤ request.idrGeneration := by
    rcases hmoved with ⟨hnow, -⟩ | hsame
    · exact hnow.le
    · rw [hsame]
      exact hseen
  refine ⟨h.active, hle.trans hread, ?_, ?_, ?_, ?_, ?_⟩
  · intro r hr
    change i.thread.request? = some r at hr
    rw [hthread] at hr
    cases hr
  · intro r hr
    change i.thread.calling? = some (false, r) at hr
    rw [hthread] at hr
    cases hr
  · change i.idrSeen = 0 ∨ ∃ b ∈ s.calls ++ [call], EncodeCall.Served b s.encoders i.idrSeen
    rcases hmoved with ⟨hnow, hok⟩ | hsame
    · exact .inr ⟨call, by simp, hok, rfl, hnow.symm⟩
    · rw [hsame]
      rcases h.seen with hzero | ⟨b, hb, hserved⟩
      · exact .inl hzero
      · exact .inr ⟨b, List.mem_append_left _ hb, hserved⟩
  · intro n c hc hok hforced
    change (s.calls ++ [call])[n]? = some c at hc
    rcases Nat.lt_or_ge n s.calls.length with hold | hnew
    · rw [List.getElem?_append_left hold] at hc
      obtain ⟨m, b, hm, hb, hserved⟩ := h.kept n c hc hok hforced
      refine ⟨m, b, hm, ?_, hserved⟩
      exact (List.getElem?_append_left (hm.trans hold)).trans hb
    · -- The new call: it forced nothing because its request is the one served last
      rw [List.getElem?_append_right hnew, List.getElem?_singleton] at hc
      split at hc
      · rename_i hlast
        cases hc
        change forceIdr = false at hforced
        rw [hforced] at hcalling
        have hsame := h.plain request hcalling
        rcases h.seen with hzero | ⟨b, hb, hserved⟩
        · omega
        · obtain ⟨m, hm, hbm⟩ := List.getElem_of_mem hb
          refine ⟨m, b, by omega, ?_, ?_⟩
          · change (s.calls ++ [call])[m]? = some b
            rw [List.getElem?_append_left hm, List.getElem?_eq_getElem hm, hbm]
          · change EncodeCall.Served b s.encoders request.idrGeneration
            rw [hsame]
            exact hserved
      · cases hc
  · intro c hc
    rcases List.mem_append.mp hc with hold | hnew
    · exact h.late c hold
    · rw [List.mem_singleton.mp hnew]
      exact ⟨hle, hread⟩

theorem handed_own {s s' : KeyRequests} {a : VideoIntake.EncoderAction} (h : s.Handed)
    (hown : a.calls = false) (hread : ∀ r, a = .readRequest r → r = s.bridge.request)
    (hs : s.thread a = some s') : s'.Handed := by
  obtain ⟨i, hi, rfl⟩ := Option.map_eq_some_iff.mp hs
  obtain ⟨hseen, hcalling, hasked⟩ :=
    stepped_keeps (VideoIntake.encoderStep_stepped hi) hown
  refine handed_thread h hseen ?_ (.inr hcalling)
  intro r hr
  rcases hasked r hr with hbefore | ⟨hnow, hactive⟩
  · exact .inl hbefore
  · exact .inr ⟨hread r hnow, hactive⟩

theorem onStagingConfig_thread (i : VideoIntake) (config : StagingConfig) :
    (i.onStagingConfig config).idrSeen = i.idrSeen ∧
      (i.onStagingConfig config).thread = i.thread := by
  unfold VideoIntake.onStagingConfig VideoIntake.dropOther
  split
  · exact ⟨rfl, rfl⟩
  · split <;> exact ⟨rfl, rfl⟩

theorem onFrameReady_thread (i : VideoIntake) (active : Bool) (frame : FrameReady) :
    (i.onFrameReady active frame).idrSeen = i.idrSeen ∧
      (i.onFrameReady active frame).thread = i.thread := by
  have hsupersede : ∀ i : VideoIntake,
      i.supersede.idrSeen = i.idrSeen ∧ i.supersede.thread = i.thread := by
    intro i
    unfold VideoIntake.supersede
    split <;> exact ⟨rfl, rfl⟩
  unfold VideoIntake.onFrameReady
  dsimp only
  split
  · exact ⟨rfl, rfl⟩
  · split
    · exact ⟨rfl, rfl⟩
    · exact hsupersede _

/-- A step of the pipe loop. -/
theorem handed_pipe {s : KeyRequests} {i : VideoIntake} (h : s.Handed)
    (hseen : i.idrSeen = s.intake.idrSeen) (hthread : i.thread = s.intake.thread) :
    ({ s with intake := i } : KeyRequests).Handed := by
  refine handed_thread h hseen ?_ (.inl (by rw [hthread]))
  intro r hr
  rw [hthread] at hr
  exact .inl hr

theorem step_handed (s : KeyRequests) (e : Event) (s' : KeyRequests) (h : s.Handed)
    (hs : step s e = some s') : s'.Handed := by
  cases e with
  | setPrefs bitrateBps codec adaptive =>
    cases hs
    exact handed_bridge h (le_refl _) h.active
  | setClient refreshHz allowH265 allowH264 =>
    cases hs
    exact handed_bridge h (s.bridge.setClient_generations refreshHz allowH265 allowH264).2
      fun _ => setClient_asks s.bridge refreshHz allowH265 allowH264 h.active
  | clearClient =>
    cases hs
    obtain ⟨hsame, hinactive⟩ := clearClient_same s.bridge
    refine handed_bridge h hsame.ge ?_
    intro hactive
    rw [hinactive] at hactive
    cases hactive
  | setBitrate bitrateBps =>
    cases hs
    obtain ⟨hsame, hactive⟩ := setBitrate_same s.bridge bitrateBps
    refine handed_bridge h hsame.ge ?_
    rw [hsame, hactive]
    exact h.active
  | requestIdr =>
    cases hs
    exact handed_bridge h (Nat.le_succ _) fun _ => Nat.succ_pos _
  | stagingConfig config =>
    cases hs
    obtain ⟨hseen, hthread⟩ := onStagingConfig_thread s.intake config
    exact handed_pipe h hseen hthread
  | frameReady frame =>
    cases hs
    obtain ⟨hseen, hthread⟩ := onFrameReady_thread s.intake s.bridge.request.active frame
    exact handed_pipe h hseen hthread
  | shimGone =>
    cases hs
    exact handed_pipe h rfl rfl
  | popDone =>
    obtain ⟨popped, hpop, rfl⟩ := Option.map_eq_some_iff.mp hs
    unfold VideoIntake.popDone at hpop
    split at hpop
    · cases hpop
    · cases hpop
      exact handed_pipe h rfl rfl
  | wake => exact handed_own h rfl (fun _ hr => by cases hr) hs
  | relock => exact handed_own h rfl (fun _ hr => by cases hr) hs
  | readStaging => exact handed_own h rfl (fun _ hr => by cases hr) hs
  | readRequest =>
    refine handed_own h rfl ?_ hs
    intro r hr
    cases hr
    rfl
  | openSlot shared => exact handed_own h rfl (fun _ hr => by cases hr) hs
  | configure answer =>
    simp only [step] at hs
    split at hs
    · rename_i frame config request found hthread
      cases hs
      have hrequest := h.asked request (by rw [hthread]; rfl)
      rcases answer with ⟨encoder, up⟩
      cases up with
      | false =>
        refine handed_thread h rfl ?_ (.inr rfl)
        intro r hr
        cases hr
      | true =>
        -- `idr_seen_ = 0`: the new encoder has served nothing
        refine ⟨h.active, Nat.zero_le _, ?_, ?_, .inl rfl, h.kept, h.late⟩
        · intro r hr
          cases hr
          exact ⟨hrequest.1, hrequest.2.1, Nat.zero_le _⟩
        · intro r hr
          cases hr
    · cases hs
  | encode encoder =>
    simp only [step] at hs
    split at hs
    · rename_i frame request hthread
      cases hs
      have hseen := s.intake.retune_idrSeen request
      have hrequest := h.asked request (by rw [hthread]; rfl)
      refine ⟨h.active, ?_, ?_, ?_, ?_, h.kept, h.late⟩
      · change (s.intake.retune request).idrSeen ≤ _
        rw [hseen]
        exact h.bound
      · intro r hr
        cases hr
        change _ ∧ _ ∧ (s.intake.retune request).idrSeen ≤ _
        rw [hseen]
        exact hrequest
      · intro r hr
        change some (decide (request.idrGeneration ≠ s.intake.idrSeen), request) =
          some (false, r) at hr
        rw [Option.some.injEq, Prod.mk.injEq, decide_eq_false_iff_not, not_not] at hr
        obtain ⟨heq, rfl⟩ := hr
        change _ = (s.intake.retune request).idrSeen
        rw [hseen]
        exact heq
      · change (s.intake.retune request).idrSeen = 0 ∨
          ∃ b ∈ s.calls, EncodeCall.Served b s.encoders (s.intake.retune request).idrSeen
        rw [hseen]
        exact h.seen
    · cases hs
  | release encoder =>
    simp only [step] at hs
    split at hs
    · rename_i frame forceIdr request hthread
      cases hs
      refine handed_thread h rfl ?_ (.inl ?_)
      · intro r hr
        rw [hthread]
        exact .inl hr
      · rw [hthread]
        rfl
    · cases hs
  | returned encoder result =>
    simp only [step] at hs
    split at hs
    · rename_i frame forceIdr request hthread
      cases hs
      exact handed_conclude h (by rw [hthread]; rfl)
    · rename_i frame forceIdr request hthread
      cases hs
      exact handed_conclude h (by rw [hthread]; rfl)
    · cases hs
  | answer => exact handed_own h rfl (fun _ hr => by cases hr) hs

theorem init_handed : ({} : KeyRequests).Handed := by
  refine ⟨?_, le_refl _, ?_, ?_, .inl rfl, ?_, ?_⟩
  · intro h
    cases h
  · intro r hr
    cases hr
  · intro r hr
    cases hr
  · intro n c hc
    cases hc
  · intro c hc
    cases hc

/-- After every increment the first `ok` call that has it in its snapshot forces a key frame, a
call never marks an increment served that came after its snapshot, and the first `ok` call of
every encoder forces one. -/
theorem requests_served (es : List Event) {s : KeyRequests}
    (hrun : Runs.run step {} es = some s) :
    (∀ (generation n : ℕ) (c : EncodeCall), 0 < generation → s.calls[n]? = some c →
      c.result = .ok → generation ≤ c.snapshot →
      (∀ (m : ℕ) (b : EncodeCall), m < n → s.calls[m]? = some b → b.result = .ok →
        b.snapshot < generation) → c.forced = true) ∧
    (∀ c ∈ s.calls, ∀ generation, c.snapshot < generation → generation ≤ c.asked →
      c.seen < generation) ∧
    (∀ (n : ℕ) (c : EncodeCall), s.calls[n]? = some c → c.result = .ok →
      (∀ (m : ℕ) (b : EncodeCall), m < n → s.calls[m]? = some b → b.result = .ok →
        b.encoder ≠ c.encoder) → c.forced = true) := by
  have h : s.Handed := Runs.run_invariant step_handed es _ s init_handed hrun
  refine ⟨?_, ?_, ?_⟩
  · intro generation n c _ hc hok hle hfirst
    by_contra hforced
    obtain ⟨m, b, hm, hb, hbok, -, hbc⟩ := h.kept n c hc hok (by simpa using hforced)
    have hlt := hfirst m b hm hb hbok
    omega
  · intro c hc generation hlate _
    exact lt_of_le_of_lt (h.late c hc).1 hlate
  · intro n c hc hok hfirst
    by_contra hforced
    obtain ⟨m, b, hm, hb, hbok, hbe, -⟩ := h.kept n c hc hok (by simpa using hforced)
    exact hfirst m b hm hb hbok hbe

/-! ## A request during a call -/

def ring : StagingConfig :=
  { generation := 1, width := 3840, height := 1080, dxgiFormat := 87, count := 1, handles := [8] }

/-- One frame through `encode_one`, with an encoder that is up. -/
def oneFrame (frameId : ℕ) (within : List Event) (result : EncodeResult) : List Event :=
  [.frameReady { frameId := frameId, generation := 1, stagingIndex := 0 }, .wake, .readStaging,
    .readRequest, .encode {}] ++ within ++ [.returned {} result, .answer]

/-- The first frame brings the encoder up; the headset asks for a key frame while the second
is encoded, and the third call fails. -/
def askedWithin : List Event :=
  [.setClient (.val 90) true true, .stagingConfig ring,
    .frameReady { frameId := 1, generation := 1, stagingIndex := 0 }, .wake, .readStaging,
    .readRequest, .openSlot none, .configure ({}, true), .encode {}, .release {},
    .returned {} .ok, .answer] ++
  oneFrame 2 [.requestIdr] .ok ++ oneFrame 3 [] .dropped ++ oneFrame 4 [] .ok

theorem requests_served_asked :
    ∃ s, Runs.run step {} askedWithin = some s ∧
      s.calls.map (fun c => (c.snapshot, c.forced, c.seen)) =
        [(1, true, 1), (1, false, 1), (2, true, 1), (2, true, 2)] ∧
      ∀ c ∈ s.calls, ∀ generation, c.snapshot < generation → generation ≤ c.asked →
        c.seen < generation := by
  have hrun : (Runs.run step {} askedWithin).map (fun s =>
      s.calls.map fun c => (c.snapshot, c.forced, c.seen)) =
        some [(1, true, 1), (1, false, 1), (2, true, 1), (2, true, 2)] := by
    decide +kernel
  obtain ⟨s, hs, hcalls⟩ := Option.map_eq_some_iff.mp hrun
  exact ⟨s, hs, hcalls, (requests_served askedWithin hs).2.1⟩

/-! ## The components' own answers -/

/-- The calls of the encoder that a step makes, with what the components answer. -/
def answers (i : VideoIntake) : VideoIntake.EncoderAction → List Event
  | .wake => [.wake]
  | .relock => [.relock]
  | .readStaging => [.readStaging]
  | .readRequest _ => [.readRequest]
  | .openSlot shared => [.openSlot shared]
  | .configure machine =>
    match i.thread with
    | .opening _ config request found =>
      [.configure (i.encoder.configure (VideoIntake.openedMachine machine found) config
        (VideoIntake.encoderConfig request))]
    | _ => []
  | .acquire sync =>
    match i.thread with
    | .encoding frame request =>
      match (i.retune request).encoder.encodeAcquire frame sync with
      | (encoder, none) => [.encode encoder]
      | (encoder, some result) => [.encode encoder, .returned encoder result]
    | _ => []
  | .release =>
    match i.thread with
    | .holding frame _ _ => [.release (i.encoder.encodeRelease frame)]
    | _ => []
  | .finish env =>
    match i.thread with
    | .released frame forceIdr _ =>
      [.returned (i.encoder.encodeRest frame forceIdr env).1
        (i.encoder.encodeRest frame forceIdr env).2.1]
    | _ => []
  | .answer => [.answer]

theorem run_own {s : KeyRequests} {i : VideoIntake} {e : Event} {a : VideoIntake.EncoderAction}
    (hstep : step s e = s.thread a) (h : s.intake.encoderStep a = some i) :
    Runs.run step s [e] = some { s with intake := i } := by
  rw [Runs.run_cons, hstep, thread, h]
  rfl

/-- The intake with the encoder's components is one of these: what its thread does is a run
of the same steps. -/
theorem encoderStep_handed {s : KeyRequests} {i : VideoIntake} {a : VideoIntake.EncoderAction}
    (hread : ∀ r, a = .readRequest r → r = s.bridge.request)
    (h : s.intake.encoderStep a = some i) :
    ∃ s', Runs.run step s (answers s.intake a) = some s' ∧ s'.intake = i ∧
      s'.bridge = s.bridge := by
  have hstepped := VideoIntake.encoderStep_stepped h
  -- A step without a call is one of the thread's own, the others answer their call
  cases a with
  | wake => exact ⟨_, run_own rfl h, rfl, rfl⟩
  | relock => exact ⟨_, run_own rfl h, rfl, rfl⟩
  | readStaging => exact ⟨_, run_own rfl h, rfl, rfl⟩
  | readRequest request =>
    have hrequest := hread request rfl
    subst hrequest
    exact ⟨_, run_own rfl h, rfl, rfl⟩
  | openSlot shared => exact ⟨_, run_own rfl h, rfl, rfl⟩
  | configure machine =>
    cases hstepped with
    | configured frame config request found _ hthread =>
      rw [VideoIntake.configured_ensured]
      simp only [answers, hthread, Runs.run, step, Option.bind_some]
      exact ⟨_, rfl, rfl, rfl⟩
  | acquire sync =>
    cases hstepped with
    | acquired frame request _ encoder hthread hencode =>
      simp only [answers, hthread, hencode, Runs.run, step, Option.bind_some]
      exact ⟨_, rfl, rfl, rfl⟩
    | refused frame request _ encoder result hthread hencode =>
      simp only [answers, hthread, hencode, Runs.run, step, Option.bind_some]
      refine ⟨_, rfl, ?_, rfl⟩
      cases result <;> rfl
  | release =>
    cases hstepped with
    | released frame forceIdr request hthread =>
      simp only [answers, hthread, Runs.run, step, Option.bind_some]
      exact ⟨_, rfl, rfl, rfl⟩
  | finish env =>
    cases hstepped with
    | finished frame forceIdr request _ hthread =>
      simp only [answers, hthread, Runs.run, step, Option.bind_some]
      exact ⟨_, rfl, rfl, rfl⟩
  | answer => exact ⟨_, run_own rfl h, rfl, rfl⟩

end KeyRequests

end WivrnNx
