import WivrnNx.Encoder.AmfVideoEncoder
import WivrnNx.Encoder.StageRing

/-!
# What the encoder holds

`AmfVideoEncoder` with the two `AmfStreamEncoder`s and the `AmfContext` that it owns
(encoder/amf_video_encoder.cpp, encoder/amf_encoder.cpp), as custody of the objects of
the AMF runtime and of the stage. The calls come with what the runtime answers.

- `encoder_custody`: over any calls nothing is used or given back that is not held, no
  surface, buffer or lock outlives the frame it is for, and `shutdown` leaves nothing.
-/

namespace WivrnNx.EncoderCustody

open Custody Ipc StageRing

/-- `AmfStreamEncoder`; `context` is the one of the `AmfContext` that it was opened on. -/
structure StreamEncoder where
  component : Option ℕ := none
  context : Option ℕ := none
  codec : VideoCodec := .h265
  bitrateBps : ℕ := 0

/-- `AmfVideoEncoder`. -/
structure Encoder where
  stage : Stage := {}
  context : Option ℕ := none
  left : StreamEncoder := {}
  right : StreamEncoder := {}
  ready : Bool := false
  bitrateBps : ℕ := 0

/-! ## The context and the components -/

structure ContextAnswer where
  /-- The runtime could be loaded. -/
  loaded : Bool := true
  /-- `CreateContext`. -/
  context : Option ℕ
  /-- `InitDX11`. -/
  initialized : Bool := true

/-- `AmfContext::init`, on a device. -/
def contextInit (a : ContextAnswer) (device : Option ℕ) : Option ℕ × List (Effect Resource) :=
  if !a.loaded then (none, [])
  else
    match a.context with
    | none => (none, [])
    | some c =>
      let begun := .take (.amf c) :: .use (.amf c) ::
        device.toList.map fun d => .use (.device d)
      if a.initialized then (some c, begun)
      else (none, begun ++ [.use (.amf c), .give (.amf c)])

/-- `AmfContext::terminate`. -/
def contextTerminate (context : Option ℕ) : List (Effect Resource) :=
  match context with
  | none => []
  | some c => [.use (.amf c), .give (.amf c)]

structure ComponentAnswer where
  /-- `CreateComponent`. -/
  component : Option ℕ
  /-- `GetCaps`. -/
  caps : Option ℕ := none
  initialized : Bool := true

/-- `create_component`, with the properties that `configure_h265` or `configure_h264` sets. -/
def createComponent (context : ℕ) (a : ComponentAnswer) : Option ℕ × List (Effect Resource) :=
  match a.component with
  | none => (none, [.use (.amf context)])
  | some k =>
    let configured := [.use (.amf context), .take (.amf k), .use (.amf k)] ++
      ((match a.caps with
        | none => []
        | some caps => [.take (.amf caps), .use (.amf caps), .give (.amf caps)]) ++
      [.use (.amf k)])
    if a.initialized then (some k, configured)
    else (none, configured ++ [.use (.amf k), .give (.amf k)])

/-- `close`. -/
def close (e : StreamEncoder) : StreamEncoder × List (Effect Resource) :=
  ({ e with component := none, context := none },
    match e.component with
    | none => []
    | some k => [.use (.amf k), .give (.amf k)])

/-- The rest of `open`, on a closed encoder. -/
def openCodecs (e : StreamEncoder) (context : Option ℕ) (params : AmfEncodeParams)
    (a : VideoCodec → ComponentAnswer) : StreamEncoder × List (Effect Resource) × Bool :=
  match context with
  | none => (e, [], false)
  | some c =>
    let e := { e with bitrateBps := params.bitrateBps }
    let first := if params.allowH265 then createComponent c (a .h265) else (none, [])
    match first.1 with
    | some k =>
      ({ e with component := some k, context := some c, codec := .h265 }, first.2, true)
    | none =>
      let second := if params.allowH264 then createComponent c (a .h264) else (none, [])
      match second.1 with
      | some k =>
        ({ e with component := some k, context := some c, codec := .h264 },
          first.2 ++ second.2, true)
      | none => (e, first.2 ++ second.2, false)

/-- `open`. -/
def openEncoder (e : StreamEncoder) (context : Option ℕ) (params : AmfEncodeParams)
    (a : VideoCodec → ComponentAnswer) : StreamEncoder × List (Effect Resource) × Bool :=
  let closed := close e
  let opened := openCodecs closed.1 context params a
  (opened.1, closed.2 ++ opened.2.1, opened.2.2)

/-- `set_bitrate` of a component. -/
def setEyeBitrate (e : StreamEncoder) (bitrateBps : ℕ) : StreamEncoder × List (Effect Resource) :=
  match e.component with
  | none => (e, [])
  | some k =>
    if bitrateBps = 0 ∨ bitrateBps = e.bitrateBps then (e, [])
    else ({ e with bitrateBps := bitrateBps }, [.use (.amf k)])

/-! ## Frames -/

structure SurfaceAnswer where
  /-- `AllocSurface`. -/
  surface : Option ℕ
  /-- `GetPlaneAt` and `GetNative` give a texture. -/
  native : Bool := true
  submitInput : SubmitInput := .ok

/-- A texture out of the ring may only be read under the lock of its slot. -/
def reads (s : Stage) (index source : ℕ) : List (Effect Resource) :=
  .use (.texture source) :: (s.slots index).toList.map fun slot => .use (.lock slot.mutex)

/-- `copy_region` into a surface, from the texture of slot `index`. -/
def copyRegion (s : Stage) (index source : ℕ) (native : Bool) : List (Effect Resource) × Bool :=
  match s.context with
  | none => ([], false)
  | some d => if native then (.use (.context d) :: reads s index source, true) else ([], false)

/-- `submit`, of a picture in slot `index`. -/
def submit (e : StreamEncoder) (s : Stage) (index source : ℕ) (a : SurfaceAnswer) :
    List (Effect Resource) × EncodeResult :=
  match e.component, e.context with
  | some k, some c =>
    match a.surface with
    | none => ([.use (.amf c)], .fatal)
    | some f =>
      let (copied, ok) := copyRegion s index source a.native
      if !ok then
        (.use (.amf c) :: .take (.amf f) :: ((.use (.amf f) :: copied) ++ [.give (.amf f)]),
          .dropped)
      else
        (.use (.amf c) :: .take (.amf f) ::
            ((.use (.amf f) :: (copied ++ [.use (.amf f), .use (.amf k)])) ++ [.give (.amf f)]),
          match a.submitInput with
          | .ok | .needMoreInput => .ok
          | .inputFull => .dropped
          | .failed => .fatal)
  | _, _ => ([], .fatal)

/-- One round of the poll loop. -/
inductive PollAnswer
  /-- The data, and the buffer that it is. -/
  | output (data : ℕ) (buffer : Option ℕ) (empty : Bool)
  | notYet (expired : Bool)
  | failed

/-- `retrieve`. -/
def retrieve (e : StreamEncoder) : List PollAnswer → List (Effect Resource) × EncodeResult
  | [] => ([], .dropped)
  | poll :: polls =>
    match e.component with
    | none => ([], .fatal)
    | some k =>
      match poll with
      | .failed => ([.use (.amf k)], .fatal)
      | .notYet true => ([.use (.amf k)], .dropped)
      | .notYet false =>
        let r := retrieve e polls
        (.use (.amf k) :: r.1, r.2)
      | .output data none _ =>
        (.use (.amf k) :: .take (.amf data) :: ([.use (.amf data)] ++ [.give (.amf data)]), .fatal)
      | .output data (some buffer) empty =>
        -- The smart pointer lets go of the buffer at the end of the scope
        (.use (.amf k) :: [.take (.amf data), .use (.amf data), .take (.amf buffer),
            .use (.amf data), .use (.amf buffer), .give (.amf data), .give (.amf buffer)],
          if empty then .dropped else .ok)

/-! ## Both eyes -/

/-- `AmfVideoEncoder::shutdown`. -/
def shutdown (e : Encoder) : Encoder × List (Effect Resource) :=
  let left := close e.left
  let right := close e.right
  let ring := closeRing e.stage
  let device := destroyDevice ring.1
  ({ stage := device.1, left := left.1, right := right.1 },
    left.2 ++ (right.2 ++ (contextTerminate e.context ++ (ring.2 ++ device.2))))

structure ConfigureAnswer where
  device : DeviceAnswer
  ring : RingAnswer
  context : ContextAnswer
  /-- Per eye. -/
  components : ℕ → VideoCodec → ComponentAnswer

/-- The loop over the eyes in `configure`, and what follows it. -/
def openEyes (e : Encoder) (params : AmfEncodeParams) (bitrateBps : ℕ)
    (a : ℕ → VideoCodec → ComponentAnswer) : Encoder × List (Effect Resource) × Bool :=
  let (left, openedLeft, okLeft) := openEncoder e.left e.context params (a 0)
  let e := { e with left := left }
  if !okLeft then
    let (e, down) := shutdown e
    (e, openedLeft ++ down, false)
  else
    let (right, openedRight, okRight) := openEncoder e.right e.context params (a 1)
    let e := { e with right := right }
    if !okRight || left.codec != right.codec then
      let (e, down) := shutdown e
      (e, openedLeft ++ (openedRight ++ down), false)
    else
      ({ e with ready := true, bitrateBps := bitrateBps }, openedLeft ++ openedRight, true)

/-- `configure`, once the old encoder is shut down and the geometry is accepted. -/
def configureOpen (e : Encoder) (staging : StagingConfig) (config : EncoderConfig)
    (a : ConfigureAnswer) : Encoder × List (Effect Resource) × Bool :=
  let (stage, created, ok) := createDevice e.stage a.device
  let e := { e with stage := stage }
  if !ok then (e, created, false)
  else
    let (stage, opened, ok) := openRing e.stage staging a.ring
    let e := { e with stage := stage }
    if !ok then (e, created ++ opened, false)
    else
      let (context, begun) := contextInit a.context e.stage.device
      let e := { e with context := context }
      if context.isNone then (e, created ++ (opened ++ begun), false)
      else
        let (e, eyes, ok) :=
          openEyes e (AmfVideoEncoder.params staging config) config.bitrateBps a.components
        (e, created ++ (opened ++ (begun ++ eyes)), ok)

/-- `configure`. -/
def configure (e : Encoder) (staging : StagingConfig) (config : EncoderConfig)
    (a : ConfigureAnswer) : Encoder × List (Effect Resource) × Bool :=
  let (e, down) := shutdown e
  if amfSurfaceFormatForDxgi staging.dxgiFormat = .unknown then (e, down, false)
  else if AmfVideoEncoder.eyeWidth staging = 0 ∨ AmfVideoEncoder.eyeHeight staging = 0 then
    (e, down, false)
  else
    let (e, opened, ok) := configureOpen e staging config a
    (e, down ++ opened, ok)

/-- `set_bitrate`. -/
def setBitrate (e : Encoder) (bitrateBps : ℕ) : Encoder × List (Effect Resource) :=
  if ¬ e.ready ∨ bitrateBps = 0 ∨ bitrateBps = e.bitrateBps then (e, [])
  else
    let left := setEyeBitrate e.left (bitrateBps / kStreamCount)
    let right := setEyeBitrate e.right (bitrateBps / kStreamCount)
    ({ e with left := left.1, right := right.1, bitrateBps := bitrateBps }, left.2 ++ right.2)

structure EyeAnswer where
  surface : SurfaceAnswer
  polls : List PollAnswer

structure EncodeAnswer where
  sync : Sync
  left : EyeAnswer
  right : EyeAnswer

/-- An eye is only polled if its picture was accepted. -/
def retrieveEye (e : StreamEncoder) (submitted : EncodeResult) (polls : List PollAnswer) :
    List (Effect Resource) × EncodeResult :=
  if submitted = .ok then retrieve e polls else ([], submitted)

/-- `flush`. -/
def flush (s : Stage) : List (Effect Resource) := s.context.toList.map fun d => .use (.context d)

/-- What `encode` makes of the two eyes' results. -/
def joined (left right : EncodeResult) : EncodeResult :=
  if left = .fatal ∨ right = .fatal then .fatal
  else if left = .ok ∧ right = .ok then .ok
  else .dropped

/-- `encode`. -/
def encode (e : Encoder) (frame : FrameReady) (a : EncodeAnswer) :
    Encoder × List (Effect Resource) × EncodeResult :=
  if !e.ready then (e, [], .fatal)
  else if frame.generation ≠ e.stage.generation then (e, [], .dropped)
  else
    match acquire e.stage frame.stagingIndex a.sync with
    | (stage, acquired, none) => ({ e with stage := stage }, acquired, .dropped)
    | (stage, acquired, some source) =>
      let left := submit e.left stage frame.stagingIndex source a.left.surface
      let right := submit e.right stage frame.stagingIndex source a.right.surface
      let (released, given) := release stage frame.stagingIndex
      let gotLeft := retrieveEye e.left left.2 a.left.polls
      let gotRight := retrieveEye e.right right.2 a.right.polls
      ({ e with stage := released },
        acquired ++ ((left.1 ++ (right.1 ++ flush stage)) ++ (given ++ (gotLeft.1 ++ gotRight.1))),
        joined gotLeft.2 gotRight.2)

inductive Op
  | configure (staging : StagingConfig) (config : EncoderConfig) (a : ConfigureAnswer)
  | setBitrate (bitrateBps : ℕ)
  | shutdown
  | encode (frame : FrameReady) (forceIdr : Bool) (a : EncodeAnswer)

def step (e : Encoder) : Op → Encoder × List (Effect Resource)
  | .configure staging config a =>
    let r := configure e staging config a
    (r.1, r.2.1)
  | .setBitrate bitrateBps => setBitrate e bitrateBps
  | .shutdown => shutdown e
  | .encode frame _ a =>
    let r := encode e frame a
    (r.1, r.2.1)

/-! ## Custody -/

/-- What the fields know of. -/
def owns (e : Encoder) : Multiset Resource :=
  StageRing.optional .amf e.left.component +
    (StageRing.optional .amf e.right.component +
      (StageRing.optional .amf e.context + StageRing.owns e.stage))

/-- An open component was made by the context that is there. -/
structure Bound (context : Option ℕ) (e : StreamEncoder) : Prop where
  same : e.component.isSome = true → e.context = context
  alive : e.component.isSome = true → context.isSome = true

structure Inv (e : Encoder) : Prop where
  stage : StageRing.Inv e.stage
  /-- Between two calls no slot is held. -/
  fresh : Fresh e.stage
  left : Bound e.context e.left
  right : Bound e.context e.right
  ready : e.ready = true → e.left.component.isSome = true ∧ e.right.component.isSome = true

section Custody

variable {e : Encoder} {eye : StreamEncoder} {p : Multiset Resource} {context : Option ℕ}

theorem Bound.closed (h : eye.component = none) : Bound context eye :=
  ⟨by rw [h]; rintro ⟨⟩, by rw [h]; rintro ⟨⟩⟩

theorem amf_none (p : Multiset Resource) : StageRing.optional .amf none + p = p := zero_add p

theorem amf_some (k : ℕ) (p : Multiset Resource) :
    StageRing.optional .amf (some k) + p = .amf k ::ₘ p := Multiset.singleton_add _ _

theorem amf_mem {x : Option ℕ} {c : ℕ} (h : x = some c) : .amf c ∈ StageRing.optional .amf x := by
  rw [h]
  exact Multiset.mem_singleton_self _

theorem close_turns (eye : StreamEncoder) :
    Turns (StageRing.optional .amf eye.component) (close eye).2
      (StageRing.optional .amf (close eye).1.component) := by
  unfold close
  cases eye.component with
  | none => exact Turns.nil
  | some k => exact (Turns.use (Multiset.mem_singleton_self _)).append (Turns.give (p := 0))

theorem contextTerminate_turns (context : Option ℕ) :
    Turns (StageRing.optional .amf context) (contextTerminate context) 0 := by
  unfold contextTerminate
  cases context with
  | none => exact Turns.nil
  | some c => exact (Turns.use (Multiset.mem_singleton_self _)).append (Turns.give (p := 0))

theorem contextInit_turns (a : ContextAnswer) {device : Option ℕ}
    (h : ∀ d, device = some d → .device d ∈ p) :
    Turns p (contextInit a device).2 (StageRing.optional .amf (contextInit a device).1 + p) := by
  unfold contextInit
  split
  · rw [amf_none]
    exact Turns.nil
  · split
    · rw [amf_none]
      exact Turns.nil
    · rename_i c _
      have hself : .amf c ∈ Resource.amf c ::ₘ p := Multiset.mem_cons_self _ _
      have hdevice : Turns (Resource.amf c ::ₘ p) (device.toList.map fun d => .use (.device d))
          (.amf c ::ₘ p) := by
        cases hd : device with
        | none => exact Turns.nil
        | some d => exact Turns.use (Multiset.mem_cons_of_mem (h d hd))
      have hbegun := (Turns.take (a := Resource.amf c) (p := p)).append
        ((Turns.use hself).append hdevice)
      dsimp only
      split
      · rw [amf_some]
        exact hbegun
      · rw [amf_none]
        exact hbegun.append ((Turns.use hself).append Turns.give)

/-- Another component, or no trace of it. -/
theorem createComponent_turns {c : ℕ} (a : ComponentAnswer) (hc : .amf c ∈ p) :
    Turns p (createComponent c a).2 (StageRing.optional .amf (createComponent c a).1 + p) := by
  unfold createComponent
  split
  · rw [amf_none]
    exact Turns.use hc
  · rename_i k _
    have hself : .amf k ∈ Resource.amf k ::ₘ p := Multiset.mem_cons_self _ _
    have hmade : Turns p [.use (.amf c), .take (.amf k), .use (.amf k)] (.amf k ::ₘ p) :=
      (Turns.use hc).append (Turns.take.append (Turns.use hself))
    have hcaps : Turns (Resource.amf k ::ₘ p) (match a.caps with
        | none => []
        | some caps => [.take (.amf caps), .use (.amf caps), .give (.amf caps)])
        (.amf k ::ₘ p) := by
      cases a.caps with
      | none => exact Turns.nil
      | some caps => exact (Turns.use (Multiset.mem_cons_self _ _)).around
    have hconfigured := hmade.append (hcaps.append (Turns.use hself))
    dsimp only
    split
    · rw [amf_some]
      exact hconfigured
    · rw [amf_none]
      exact hconfigured.append ((Turns.use hself).append Turns.give)

structure Opening (context : Option ℕ) (p : Multiset Resource) (e : StreamEncoder)
    (r : StreamEncoder × List (Effect Resource) × Bool) : Prop where
  turns : Turns (StageRing.optional .amf e.component + p) r.2.1
    (StageRing.optional .amf r.1.component + p)
  bound : Bound context r.1
  ok : r.2.2 = r.1.component.isSome

theorem openCodecs_opening (params : AmfEncodeParams) (a : VideoCodec → ComponentAnswer)
    (hclosed : eye.component = none) (hcontext : ∀ c, context = some c → .amf c ∈ p) :
    Opening context p eye (openCodecs eye context params a) := by
  have hfirst : ∀ c, context = some c → ∀ (allowed : Bool) (codec : VideoCodec),
      Turns p (if allowed then createComponent c (a codec) else (none, [])).2
        (StageRing.optional .amf
          (if allowed then createComponent c (a codec) else (none, [])).1 + p) := by
    intro c hc allowed codec
    cases allowed with
    | false => rw [if_neg Bool.false_ne_true, amf_none]; exact Turns.nil
    | true => exact createComponent_turns (a codec) (hcontext c hc)
  have hnothing : StageRing.optional .amf eye.component + p = p := by rw [hclosed, amf_none]
  cases hctx : context with
  | none => exact ⟨Turns.nil, .closed hclosed, by rw [openCodecs, hclosed]; rfl⟩
  | some c =>
    have h265 := hfirst c hctx params.allowH265 .h265
    have h264 := hfirst c hctx params.allowH264 .h264
    unfold openCodecs
    dsimp only
    generalize (if params.allowH265 = true then createComponent c (a .h265) else (none, [])) =
      first at h265 ⊢
    generalize (if params.allowH264 = true then createComponent c (a .h264) else (none, [])) =
      second at h264 ⊢
    obtain ⟨x, es⟩ := first
    obtain ⟨y, fs⟩ := second
    cases x with
    | some k =>
      refine ⟨?_, ⟨fun _ => rfl, fun _ => rfl⟩, rfl⟩
      rw [hnothing]
      exact h265
    | none =>
      rw [amf_none] at h265
      cases y with
      | some k =>
        refine ⟨?_, ⟨fun _ => rfl, fun _ => rfl⟩, rfl⟩
        rw [hnothing]
        exact h265.append h264
      | none =>
        refine ⟨?_, .closed hclosed, by dsimp only; rw [hclosed]; rfl⟩
        dsimp only
        rw [amf_none] at h264
        rw [hnothing]
        exact h265.append h264

theorem openEncoder_opening (eye : StreamEncoder) (params : AmfEncodeParams)
    (a : VideoCodec → ComponentAnswer) (hcontext : ∀ c, context = some c → .amf c ∈ p) :
    Opening context p eye (openEncoder eye context params a) := by
  have hclosed : (close eye).1.component = none := rfl
  have hopened := openCodecs_opening params a hclosed hcontext
  exact ⟨((close_turns eye).frame p).append hopened.turns, hopened.bound, hopened.ok⟩

/-! ## One frame -/

theorem submit_turns {s : Stage} {index source : ℕ} (a : SurfaceAnswer)
    (hk : ∀ k, eye.component = some k → .amf k ∈ p) (hbound : Bound context eye)
    (hcontext : ∀ c, context = some c → .amf c ∈ p) (hd : ∀ d, s.context = some d → .context d ∈ p)
    (hreads : Turns p (reads s index source) p) :
    Turns p (submit eye s index source a).1 p := by
  have hcopied : Turns p (copyRegion s index source a.native).1 p := by
    unfold copyRegion
    cases hctx : s.context with
    | none => exact Turns.nil
    | some d =>
      dsimp only
      split
      · exact (Turns.use (hd d hctx)).append hreads
      · exact Turns.nil
  unfold submit
  split
  · rename_i k c hcomponent hctx
    have hc : .amf c ∈ p := by
      refine hcontext c ?_
      rw [← hbound.same (by rw [hcomponent]; rfl)]
      exact hctx
    split
    · exact Turns.use hc
    · rename_i f _
      have hf : .amf f ∈ Resource.amf f ::ₘ p := Multiset.mem_cons_self _ _
      have hfilled := (Turns.use hf).append (hcopied.frame_cons (.amf f))
      generalize copyRegion s index source a.native = r at hfilled ⊢
      obtain ⟨copied, ok⟩ := r
      dsimp only at hfilled ⊢
      split
      · exact (Turns.use hc).append hfilled.around
      · have hsubmitted := (Turns.use hf).append
          (Turns.use (Multiset.mem_cons_of_mem (hk k hcomponent)))
        exact (Turns.use hc).append (hfilled.append hsubmitted).around
  · exact Turns.nil

theorem retrieve_turns (polls : List PollAnswer)
    (hk : ∀ k, eye.component = some k → .amf k ∈ p) : Turns p (retrieve eye polls).1 p := by
  induction polls with
  | nil => exact Turns.nil
  | cons poll polls ih =>
    unfold retrieve
    split
    · exact Turns.nil
    · rename_i k hcomponent
      have hpolled : Turns p [.use (.amf k)] p := Turns.use (hk k hcomponent)
      split
      · exact hpolled
      · exact hpolled
      · exact hpolled.append ih
      · exact hpolled.append (Turns.use (Multiset.mem_cons_self _ _)).around
      · rename_i data buffer empty
        refine hpolled.append ?_
        have hdata : .amf data ∈ Resource.amf data ::ₘ p := Multiset.mem_cons_self _ _
        have hbuffer := Multiset.mem_cons_self (Resource.amf buffer) (.amf data ::ₘ p)
        have hread := (Turns.use (Multiset.mem_cons_of_mem hdata)).append (Turns.use hbuffer)
        have hgiven : Turns (Resource.amf buffer ::ₘ .amf data ::ₘ p)
            [.give (.amf data), .give (.amf buffer)] p := by
          rw [Multiset.cons_swap]
          exact Turns.give.append Turns.give
        exact Turns.take.append ((Turns.use hdata).append
          (Turns.take.append (hread.append hgiven)))

theorem retrieveEye_turns (submitted : EncodeResult) (polls : List PollAnswer)
    (hk : ∀ k, eye.component = some k → .amf k ∈ p) :
    Turns p (retrieveEye eye submitted polls).1 p := by
  unfold retrieveEye
  split
  · exact retrieve_turns polls hk
  · exact Turns.nil

theorem setEyeBitrate_turns (bitrateBps : ℕ) (hk : ∀ k, eye.component = some k → .amf k ∈ p) :
    Turns p (setEyeBitrate eye bitrateBps).2 p ∧
      (setEyeBitrate eye bitrateBps).1.component = eye.component ∧
      (setEyeBitrate eye bitrateBps).1.context = eye.context := by
  unfold setEyeBitrate
  split
  · exact ⟨Turns.nil, rfl, rfl⟩
  · rename_i k hcomponent
    split
    · exact ⟨Turns.nil, rfl, rfl⟩
    · exact ⟨Turns.use (hk k hcomponent), rfl, rfl⟩

/-! ## The slots -/

/-- The stage is as free as the rest of the helper thinks it is. -/
theorem fresh_of_held {s : Stage} (h : StageRing.Inv s) (hfree : true ∉ (abs s).held) :
    Fresh s := by
  intro i slot hslot
  have hget := abs_held h hslot
  rw [← Bool.not_eq_true]
  intro hheld
  rw [hheld] at hget
  exact hfree (List.mem_of_getElem? hget)

theorem held_of_fresh {s : Stage} (hfresh : Fresh s) : true ∉ (abs s).held := by
  rw [abs_held_of_fresh hfresh]
  intro hmem
  cases List.eq_of_mem_replicate hmem

theorem openRing_free (d : D3D11Stage) (config : StagingConfig) (device1 process : Bool)
    (slots : ℕ → SlotOpen) : true ∉ (d.openRing config device1 process slots).1.held := by
  unfold D3D11Stage.openRing
  dsimp only
  split
  · intro hmem
    cases List.eq_of_mem_replicate hmem
  · exact List.not_mem_nil

/-- An acquire and its release leave every slot as it was. -/
theorem acquire_release {d d' : D3D11Stage} {index : ℕ} {sync : Bool}
    (h : d.acquire index sync = (d', true)) : d'.release index = d := by
  obtain ⟨hheld, -, rfl⟩ := D3D11Stage.acquire_true h
  have hlt : index < d.held.length := (List.getElem?_eq_some_iff.mp hheld).choose
  have hsame : (d.held.set index true).set index false = d.held := by
    rw [List.set_set]
    refine List.ext_getElem? fun i => ?_
    rw [List.getElem?_set]
    split
    · rename_i hi
      rw [← hi, hheld]
    · rfl
  unfold D3D11Stage.release
  dsimp only
  rw [List.getElem?_set_self hlt, if_pos rfl, hsame]

/-! ## What each call keeps -/

structure Keeps (e : Encoder) (e' : Encoder) (es : List (Effect Resource)) : Prop where
  inv : Inv e'
  turns : Turns (owns e) es (owns e')

theorem Keeps.trans {e₁ e₂ e₃ : Encoder} {es fs : List (Effect Resource)} (h : Keeps e₁ e₂ es)
    (h' : Keeps e₂ e₃ fs) : Keeps e₁ e₃ (es ++ fs) := ⟨h'.inv, h.turns.append h'.turns⟩

theorem owns_left {k : ℕ} (h : e.left.component = some k) : .amf k ∈ owns e :=
  Multiset.mem_add.mpr (.inl (amf_mem h))

theorem owns_right {k : ℕ} (h : e.right.component = some k) : .amf k ∈ owns e :=
  Multiset.mem_add.mpr (.inr (Multiset.mem_add.mpr (.inl (amf_mem h))))

theorem owns_stage {r : Resource} (h : r ∈ StageRing.owns e.stage) : r ∈ owns e :=
  Multiset.mem_add.mpr (.inr (Multiset.mem_add.mpr (.inr (Multiset.mem_add.mpr (.inr h)))))

theorem owns_context {c : ℕ} (h : e.context = some c) : .amf c ∈ owns e :=
  Multiset.mem_add.mpr (.inr (Multiset.mem_add.mpr (.inr (Multiset.mem_add.mpr (.inl
    (amf_mem h))))))

theorem stage_device {s : Stage} {d : ℕ} (h : s.device = some d) :
    .device d ∈ StageRing.owns s := by
  rw [StageRing.owns, h]
  exact Multiset.mem_add.mpr (.inl (Multiset.mem_add.mpr (.inr (Multiset.mem_singleton_self _))))

theorem stage_context {s : Stage} {d : ℕ} (h : s.context = some d) :
    .context d ∈ StageRing.owns s := by
  rw [StageRing.owns, h]
  exact Multiset.mem_add.mpr (.inl (Multiset.mem_add.mpr (.inl (Multiset.mem_singleton_self _))))

/-- A call of the stage, as one of the encoder. -/
theorem stage_turns {s' : Stage} {es : List (Effect Resource)}
    (h : Turns (StageRing.owns e.stage) es (StageRing.owns s')) :
    Turns (owns e) es (owns { e with stage := s' }) :=
  ((h.frame_left _).frame_left _).frame_left _

theorem shutdown_spec (h : StageRing.Inv e.stage) :
    Keeps e (shutdown e).1 (shutdown e).2 ∧ owns (shutdown e).1 = 0 := by
  have hnothing : owns (shutdown e).1 = 0 := by
    show 0 + (0 + (0 + StageRing.owns (destroyDevice (closeRing e.stage).1).1)) = 0
    rw [owns_destroyed, zero_add, zero_add, zero_add]
  obtain ⟨hclosed, hfresh⟩ := closeRing_inv h
  refine ⟨⟨⟨⟨hclosed.bound, hclosed.open_iff, rfl⟩, hfresh, .closed rfl, .closed rfl,
    by rintro ⟨⟩⟩, ?_⟩, hnothing⟩
  rw [hnothing]
  have hleft := (close_turns e.left).frame
    (StageRing.optional .amf e.right.component +
      (StageRing.optional .amf e.context + StageRing.owns e.stage))
  have hright := (close_turns e.right).frame
    (StageRing.optional .amf e.context + StageRing.owns e.stage)
  have hcontext := (contextTerminate_turns e.context).frame (StageRing.owns e.stage)
  have hdown := (closeRing_turns (s := e.stage)).append
    (destroyDevice_turns (s := (closeRing e.stage).1))
  rw [owns_destroyed] at hdown
  rw [show (close e.left).1.component = none from rfl, amf_none] at hleft
  rw [show (close e.right).1.component = none from rfl, amf_none] at hright
  rw [zero_add] at hcontext
  exact hleft.append (hright.append (hcontext.append hdown))

/-- The loop over the eyes leaves both open, or nothing at all. -/
theorem openEyes_spec (h : Inv e) (hready : e.ready = false) (params : AmfEncodeParams)
    (bitrateBps : ℕ) (a : ℕ → VideoCodec → ComponentAnswer) :
    Keeps e (openEyes e params bitrateBps a).1 (openEyes e params bitrateBps a).2.1 := by
  have hcontext : ∀ c, e.context = some c →
      .amf c ∈ StageRing.optional .amf e.context + StageRing.owns e.stage :=
    fun c hc => Multiset.mem_add.mpr (.inl (amf_mem hc))
  have hleft := openEncoder_opening
    (p := StageRing.optional .amf e.right.component +
      (StageRing.optional .amf e.context + StageRing.owns e.stage)) e.left params (a 0)
    fun c hc => Multiset.mem_add.mpr (.inr (hcontext c hc))
  have hright := openEncoder_opening e.right params (a 1) hcontext
  unfold openEyes
  generalize openEncoder e.left e.context params (a 0) = opened at hleft ⊢
  obtain ⟨left, openedLeft, okLeft⟩ := opened
  have hone : Inv { e with left := left } :=
    ⟨h.stage, h.fresh, hleft.bound, h.right, by rw [hready]; rintro ⟨⟩⟩
  dsimp only
  split
  · exact Keeps.trans ⟨hone, hleft.turns⟩ (shutdown_spec hone.stage).1
  · rename_i hokLeft
    have hleftOpen : left.component.isSome = true := by
      rw [← hleft.ok]
      simpa using hokLeft
    generalize openEncoder e.right e.context params (a 1) = opened at hright ⊢
    obtain ⟨right, openedRight, okRight⟩ := opened
    have htwo : Inv { e with left := left, right := right } :=
      ⟨h.stage, h.fresh, hleft.bound, hright.bound, by rw [hready]; rintro ⟨⟩⟩
    have hturns := hleft.turns.append
      (hright.turns.frame_left (StageRing.optional .amf left.component))
    dsimp only
    split
    · have hdown := hturns.append (shutdown_spec htwo.stage).1.turns
      rw [List.append_assoc] at hdown
      exact ⟨(shutdown_spec htwo.stage).1.inv, hdown⟩
    · rename_i hok
      have hrightOpen : right.component.isSome = true := by
        rw [← hright.ok]
        cases okRight with
        | true => rfl
        | false => exact absurd rfl hok
      exact ⟨⟨h.stage, h.fresh, hleft.bound, hright.bound, fun _ => ⟨hleftOpen, hrightOpen⟩⟩,
        hturns⟩

theorem configureOpen_spec (h : Inv e) (hready : e.ready = false)
    (hleft : e.left.component = none) (hright : e.right.component = none)
    (hnone : e.context = none) (staging : StagingConfig) (config : EncoderConfig)
    (a : ConfigureAnswer) :
    Keeps e (configureOpen e staging config a).1 (configureOpen e staging config a).2.1 := by
  have hstage : ∀ (s : Stage) (context : Option ℕ), StageRing.Inv s → Fresh s →
      Inv { e with stage := s, context := context } := fun s context hs hfresh =>
    ⟨hs, hfresh, .closed hleft, .closed hright, by rw [hready]; rintro ⟨⟩⟩
  have hcreated := createDevice_turns a.device h.stage
  have hinv := createDevice_inv h.stage a.device
  have hfresh : Fresh (createDevice e.stage a.device).1 := by
    refine fresh_of_held hinv ?_
    rw [createDevice_abs]
    exact held_of_fresh h.fresh
  unfold configureOpen
  generalize createDevice e.stage a.device = created at hcreated hinv hfresh ⊢
  obtain ⟨s₁, es₁, ok₁⟩ := created
  have hone : Keeps e { e with stage := s₁ } es₁ :=
    ⟨hstage s₁ e.context hinv hfresh, stage_turns hcreated⟩
  dsimp only at hinv ⊢
  split
  · exact hone
  · have hring := openRing_opened hinv staging a.ring
    have hfree : Fresh (openRing s₁ staging a.ring).1 := by
      refine fresh_of_held hring.inv ?_
      rw [show abs (openRing s₁ staging a.ring).1 = _ from (congrArg Prod.fst hring.agrees).symm]
      exact openRing_free _ _ _ _ _
    generalize openRing s₁ staging a.ring = opened at hring hfree ⊢
    obtain ⟨s₂, es₂, ok₂⟩ := opened
    have htwo : Keeps e { e with stage := s₂ } (es₁ ++ es₂) :=
      hone.trans ⟨hstage s₂ e.context hring.inv hfree,
        stage_turns (e := { e with stage := s₁ }) hring.turns⟩
    dsimp only at hring hfree ⊢
    split
    · exact htwo
    · have hinit := contextInit_turns a.context fun d (hd : s₂.device = some d) => stage_device hd
      generalize contextInit a.context s₂.device = r at hinit ⊢
      obtain ⟨context, begun⟩ := r
      have hthree : Keeps e { e with stage := s₂, context := context } ((es₁ ++ es₂) ++ begun) := by
        refine htwo.trans ⟨hstage s₂ context hring.inv hfree, ?_⟩
        have hbare : owns { e with stage := s₂ } =
            StageRing.optional .amf e.left.component +
              (StageRing.optional .amf e.right.component + StageRing.owns s₂) := by
          simp only [owns, hnone, amf_none]
        rw [hbare]
        exact (hinit.frame_left _).frame_left _
      rw [List.append_assoc] at hthree
      dsimp only
      split
      · exact hthree
      · have heyes := openEyes_spec hthree.inv hready (AmfVideoEncoder.params staging config)
          config.bitrateBps a.components
        generalize openEyes _ _ _ _ = r at heyes ⊢
        obtain ⟨e', eyes, ok⟩ := r
        have hall := hthree.trans heyes
        rw [List.append_assoc, List.append_assoc] at hall
        exact hall

theorem configure_spec (h : Inv e) (staging : StagingConfig) (config : EncoderConfig)
    (a : ConfigureAnswer) :
    Keeps e (configure e staging config a).1 (configure e staging config a).2.1 := by
  have hdown := (shutdown_spec h.stage).1
  unfold configure
  dsimp only
  split
  · exact hdown
  · split
    · exact hdown
    · exact hdown.trans (configureOpen_spec hdown.inv rfl rfl rfl rfl staging config a)

theorem setBitrate_spec (h : Inv e) (bitrateBps : ℕ) :
    Keeps e (setBitrate e bitrateBps).1 (setBitrate e bitrateBps).2 := by
  unfold setBitrate
  split
  · exact ⟨h, Turns.nil⟩
  · obtain ⟨hleft, hleftOpen, hleftContext⟩ := setEyeBitrate_turns (bitrateBps / kStreamCount)
      (fun k hk => owns_left (e := e) hk)
    obtain ⟨hright, hrightOpen, hrightContext⟩ := setEyeBitrate_turns (bitrateBps / kStreamCount)
      (fun k hk => owns_right (e := e) hk)
    generalize setEyeBitrate e.left (bitrateBps / kStreamCount) = left at *
    generalize setEyeBitrate e.right (bitrateBps / kStreamCount) = right at *
    refine ⟨⟨h.stage, h.fresh, ?_, ?_, ?_⟩, ?_⟩
    · exact ⟨by rw [hleftOpen, hleftContext]; exact h.left.same,
        by rw [hleftOpen]; exact h.left.alive⟩
    · exact ⟨by rw [hrightOpen, hrightContext]; exact h.right.same,
        by rw [hrightOpen]; exact h.right.alive⟩
    · dsimp only
      rw [hleftOpen, hrightOpen]
      exact h.ready
    · have howns : owns { e with left := left.1, right := right.1, bitrateBps := bitrateBps } =
          owns e := by
        rw [owns, hleftOpen, hrightOpen, owns]
      rw [howns]
      exact hleft.append hright

/-- The texture is read only under its lock, and the slot is back after the call. -/
theorem encode_spec (h : Inv e) (frame : FrameReady) (a : EncodeAnswer) :
    Keeps e (encode e frame a).1 (encode e frame a).2.1 := by
  have hacquired := acquire_acquired h.stage frame.stagingIndex a.sync
  unfold encode
  split
  · exact ⟨h, Turns.nil⟩
  · split
    · exact ⟨h, Turns.nil⟩
    · generalize acquire e.stage frame.stagingIndex a.sync = r at hacquired ⊢
      obtain ⟨s, es, texture⟩ := r
      have hagrees := hacquired.agrees
      have hturns := stage_turns hacquired.turns
      cases texture with
      | none =>
        refine ⟨⟨hacquired.inv, fresh_of_held hacquired.inv ?_, h.left, h.right, h.ready⟩, hturns⟩
        rw [(D3D11Stage.acquire_false hagrees).1]
        exact held_of_fresh h.fresh
      | some source =>
        obtain ⟨slot, hslot, hsource, htexture, hlock⟩ := hacquired.alive source rfl
        obtain ⟨hinv, hreleased, habs⟩ := release_spec hacquired.inv frame.stagingIndex
        have hback : abs (release s frame.stagingIndex).1 = abs e.stage :=
          habs.symm.trans (acquire_release hagrees)
        dsimp only at hslot htexture hlock hturns ⊢
        generalize he' : ({ e with stage := s } : Encoder) = e' at hturns
        have hstage : e'.stage = s := by rw [← he']
        have hreads : Turns (owns e') (reads s frame.stagingIndex source) (owns e') := by
          rw [reads, hslot]
          refine (Turns.use (owns_stage ?_)).append (Turns.use (owns_stage ?_))
          · rw [hstage]
            exact htexture
          · rw [hstage]
            exact hlock
        have hd : ∀ d, s.context = some d → .context d ∈ owns e' := by
          intro d hd
          refine owns_stage ?_
          rw [hstage]
          exact stage_context hd
        have hleft : ∀ k, e.left.component = some k → .amf k ∈ owns e' := by
          rw [← he']
          exact fun k hk => owns_left hk
        have hright : ∀ k, e.right.component = some k → .amf k ∈ owns e' := by
          rw [← he']
          exact fun k hk => owns_right hk
        have hcontext : ∀ c, e.context = some c → .amf c ∈ owns e' := by
          rw [← he']
          exact fun c hc => owns_context hc
        have hflush : Turns (owns e') (flush s) (owns e') := by
          unfold flush
          cases hctx : s.context with
          | none => exact Turns.nil
          | some d => exact Turns.use (hd d hctx)
        have hsubmitted := (submit_turns a.left.surface hleft h.left hcontext hd hreads).append
          ((submit_turns a.right.surface hright h.right hcontext hd hreads).append hflush)
        have hgot : Turns (owns { e with stage := (release s frame.stagingIndex).1 })
            ((retrieveEye e.left _ a.left.polls).1 ++ (retrieveEye e.right _ a.right.polls).1)
            (owns { e with stage := (release s frame.stagingIndex).1 }) :=
          (retrieveEye_turns (submit e.left s frame.stagingIndex source a.left.surface).2
              a.left.polls fun k hk => owns_left hk).append
            (retrieveEye_turns (submit e.right s frame.stagingIndex source a.right.surface).2
              a.right.polls fun k hk => owns_right hk)
        refine ⟨⟨hinv, fresh_of_held hinv ?_, h.left, h.right, h.ready⟩, ?_⟩
        · rw [hback]
          exact held_of_fresh h.fresh
        · refine hturns.append (hsubmitted.append (Turns.append ?_ hgot))
          rw [← he']
          exact stage_turns (e := { e with stage := s }) hreleased

theorem step_spec (h : Inv e) (op : Op) : Keeps e (step e op).1 (step e op).2 := by
  cases op with
  | configure staging config a => exact configure_spec h staging config a
  | setBitrate bitrateBps => exact setBitrate_spec h bitrateBps
  | shutdown => exact (shutdown_spec h.stage).1
  | encode frame forceIdr a => exact encode_spec h frame a

/-! ## The encoder of the rest of the helper -/

end Custody

def ComponentAnswer.created (a : ComponentAnswer) : Bool := a.component.isSome && a.initialized

/-- What the rest of the helper is told of the answers. -/
def ConfigureAnswer.machine (a : ConfigureAnswer) : Machine where
  createDevice := a.device.device.isSome
  device1 := a.ring.device1.isSome
  openProcess := a.ring.process.isSome
  slots i := (a.ring.slots i).slotOpen
  contextInit := a.context.loaded && (a.context.context.isSome && a.context.initialized)
  createComponent i codec := (a.components i codec).created

def PollAnswer.poll : PollAnswer → Poll
  | .output _ buffer _ => .output buffer.isSome
  | .notYet expired => .notYet expired
  | .failed => .failed

def EyeAnswer.env (a : EyeAnswer) : EyeEnv where
  submit :=
    { allocSurface := a.surface.surface.isSome, fill := a.surface.native
      submitInput := a.surface.submitInput }
  polls := a.polls.map PollAnswer.poll

def EncodeAnswer.env (a : EncodeAnswer) : EncodeEnv where
  sync := a.sync = .acquired
  left := a.left.env
  right := a.right.env

/-- The same call on the encoder without objects. -/
def seenStep (d : AmfVideoEncoder) : Op → AmfVideoEncoder
  | .configure staging config a => (d.configure a.machine staging config).1
  | .setBitrate bitrateBps => d.setBitrate bitrateBps
  | .shutdown => d.shutdown
  | .encode frame forceIdr a => (d.encode frame forceIdr a.env).1

structure SeenEye (d : AmfStreamEncoder) (e : StreamEncoder) : Prop where
  component : d.component.isSome = e.component.isSome
  codec : e.component.isSome = true → d.codec = e.codec
  bitrateBps : e.component.isSome = true → d.params.bitrateBps = e.bitrateBps

/-- All of it but the queues in the components. -/
structure Seen (d : AmfVideoEncoder) (e : Encoder) : Prop where
  stage : d.stage = abs e.stage
  context : d.context = e.context.isSome
  left : SeenEye d.left e.left
  right : SeenEye d.right e.right
  ready : d.ready = e.ready
  bitrateBps : d.bitrateBps = e.bitrateBps

section Seen

variable {d : AmfVideoEncoder} {e : Encoder} {context : Option ℕ}

theorem SeenEye.closed {d : AmfStreamEncoder} {e : StreamEncoder} (hd : d.component = none)
    (he : e.component = none) : SeenEye d e :=
  ⟨by rw [hd, he]; rfl, by rw [he]; rintro ⟨⟩, by rw [he]; rintro ⟨⟩⟩

theorem contextInit_isSome (a : ContextAnswer) (device : Option ℕ) :
    (contextInit a device).1.isSome = (a.loaded && (a.context.isSome && a.initialized)) := by
  unfold contextInit
  cases a.loaded with
  | false => rfl
  | true =>
    cases a.context with
    | none => rfl
    | some c => cases a.initialized <;> rfl

theorem createComponent_isSome (c : ℕ) (a : ComponentAnswer) :
    (createComponent c a).1.isSome = a.created := by
  unfold createComponent ComponentAnswer.created
  cases a.component with
  | none => rfl
  | some k => cases a.initialized <;> rfl

/-- Both models open the same codec. -/
theorem openEncoder_seen (eye : StreamEncoder) (hcontext : context.isSome = true)
    (params : AmfEncodeParams) (a : VideoCodec → ComponentAnswer) {create : VideoCodec → Bool}
    (hcreate : ∀ codec, create codec = (a codec).created) :
    SeenEye (AmfStreamEncoder.openComponent params create).1
        (openEncoder eye context params a).1 ∧
      (AmfStreamEncoder.openComponent params create).2 =
        (openEncoder eye context params a).2.2 := by
  obtain ⟨c, rfl⟩ := Option.isSome_iff_exists.mp hcontext
  have hcreated : ∀ codec, create codec = (createComponent c (a codec)).1.isSome := by
    intro codec
    rw [hcreate, createComponent_isSome]
  have h265 := hcreated .h265
  have h264 := hcreated .h264
  unfold AmfStreamEncoder.openComponent openEncoder openCodecs
  dsimp only
  rw [h265, h264]
  generalize createComponent c (a .h265) = first
  generalize createComponent c (a .h264) = second
  obtain ⟨x, es⟩ := first
  obtain ⟨y, fs⟩ := second
  cases params.allowH265 <;> cases params.allowH264 <;> cases x <;> cases y <;>
    exact ⟨⟨rfl, by simp [close], by simp [close]⟩, rfl⟩

theorem shutdown_seen (h : d.stage = abs e.stage) : Seen d.shutdown (shutdown e).1 := by
  refine ⟨?_, rfl, .closed rfl rfl, .closed rfl rfl, rfl, rfl⟩
  unfold AmfVideoEncoder.shutdown
  rw [h]
  rfl

theorem createDevice_ok (s : Stage) (a : DeviceAnswer) :
    (createDevice s a).2.2 = (s.device.isSome || a.device.isSome) := by
  unfold createDevice
  split
  · rename_i hdevice
    rw [hdevice]
    rfl
  · rename_i hdevice
    rw [Bool.eq_false_iff.mpr hdevice, Bool.false_or]
    dsimp only
    split
    · rename_i hrefused
      rw [hrefused]
      rfl
    · rename_i hcreated
      rw [hcreated]
      rfl

/-- The eyes are opened or the encoder is shut down, as the other one is. -/
theorem openEyes_seen (h : Seen d e) (hcontext : e.context.isSome = true)
    (params : AmfEncodeParams) (bitrateBps : ℕ) (info : EncoderStreamInfo)
    (a : ℕ → VideoCodec → ComponentAnswer) :
    let left := AmfStreamEncoder.openComponent params fun codec => (a 0 codec).created
    let right := AmfStreamEncoder.openComponent params fun codec => (a 1 codec).created
    let d' := { d with left := left.1, right := right.1 }
    let r := if ¬ left.2 ∨ ¬ right.2 then (d'.shutdown, false)
      else if left.1.codec ≠ right.1.codec then (d'.shutdown, false)
      else ({ d' with info := info, ready := true, bitrateBps := bitrateBps, framesEncoded := 0,
                      framesDropped := 0 }, true)
    Seen r.1 (openEyes e params bitrateBps a).1 ∧ r.2 = (openEyes e params bitrateBps a).2.2 := by
  obtain ⟨hleft, hokLeft⟩ := openEncoder_seen e.left hcontext params (a 0) fun _ => rfl
  obtain ⟨hright, hokRight⟩ := openEncoder_seen e.right hcontext params (a 1) fun _ => rfl
  have hopenLeft := (openEncoder_opening (p := StageRing.optional .amf e.context) e.left params
    (a 0) fun c hc => amf_mem hc).ok
  have hopenRight := (openEncoder_opening (p := StageRing.optional .amf e.context) e.right params
    (a 1) fun c hc => amf_mem hc).ok
  unfold openEyes
  dsimp only
  generalize AmfStreamEncoder.openComponent params (fun codec => (a 0 codec).created) = left at *
  generalize AmfStreamEncoder.openComponent params (fun codec => (a 1 codec).created) = right at *
  generalize openEncoder e.left e.context params (a 0) = opened at *
  generalize openEncoder e.right e.context params (a 1) = opened' at *
  obtain ⟨left', es, okLeft⟩ := opened
  obtain ⟨right', fs, okRight⟩ := opened'
  rw [hokLeft, hokRight]
  dsimp only at *
  cases okLeft with
  | false =>
    rw [if_pos (.inl Bool.false_ne_true)]
    exact ⟨shutdown_seen h.stage, rfl⟩
  | true =>
    cases okRight with
    | false =>
      rw [if_pos (.inr Bool.false_ne_true)]
      exact ⟨shutdown_seen h.stage, rfl⟩
    | true =>
      rw [if_neg (by simp), hleft.codec hopenLeft.symm, hright.codec hopenRight.symm]
      by_cases hcodec : left'.codec = right'.codec
      · rw [if_neg (not_not.mpr hcodec), if_neg (by simp), if_neg (by simp [hcodec])]
        exact ⟨⟨h.stage, h.context, hleft, hright, rfl, rfl⟩, rfl⟩
      · rw [if_pos hcodec, if_neg (by simp), if_pos (by simp [hcodec])]
        exact ⟨shutdown_seen h.stage, rfl⟩

theorem configure_seen (h : Seen d e) (hinv : Inv e) (staging : StagingConfig)
    (config : EncoderConfig) (a : ConfigureAnswer) :
    Seen (d.configure a.machine staging config).1 (configure e staging config a).1 ∧
      (d.configure a.machine staging config).2 = (configure e staging config a).2.2 := by
  have hdown := shutdown_seen h.stage
  have hkept := (shutdown_spec hinv.stage).1.inv
  unfold AmfVideoEncoder.configure configure
  dsimp only
  split
  · exact ⟨hdown, rfl⟩
  · split
    · exact ⟨hdown, rfl⟩
    · have hcreated := createDevice_abs (shutdown e).1.stage a.device
      have hok : (createDevice (shutdown e).1.stage a.device).2.2 = a.device.device.isSome :=
        createDevice_ok _ _
      have hsinv := createDevice_inv hkept.stage a.device
      unfold configureOpen
      dsimp only
      generalize createDevice (shutdown e).1.stage a.device = created at hcreated hok hsinv ⊢
      obtain ⟨s₁, es₁, ok₁⟩ := created
      dsimp only at hcreated hok hsinv ⊢
      rw [show a.machine.createDevice = ok₁ from hok.symm]
      rw [← hok, ← hdown.stage] at hcreated
      cases ok₁ with
      | false =>
        refine ⟨⟨?_, rfl, .closed rfl rfl, .closed rfl rfl, rfl, rfl⟩, rfl⟩
        exact hcreated.symm
      | true =>
        have hring := (openRing_opened hsinv staging a.ring).agrees
        rw [Bool.or_true] at hcreated
        rw [hcreated] at hring
        rw [if_neg (not_not.mpr rfl), if_neg (by simp),
          show a.machine.device1 = a.ring.device1.isSome from rfl,
          show a.machine.openProcess = a.ring.process.isSome from rfl,
          show a.machine.slots = fun i => (a.ring.slots i).slotOpen from rfl, hring]
        generalize openRing s₁ staging a.ring = opened
        obtain ⟨s₂, es₂, ok₂⟩ := opened
        cases ok₂ with
        | false => exact ⟨⟨rfl, rfl, .closed rfl rfl, .closed rfl rfl, rfl, rfl⟩, rfl⟩
        | true =>
          have hcontext := contextInit_isSome a.context s₂.device
          dsimp only
          rw [show a.machine.contextInit = _ from hcontext.symm,
            if_neg (show ¬ (!true) = true by simp)]
          generalize contextInit a.context s₂.device = r
          obtain ⟨context, begun⟩ := r
          cases context with
          | none => exact ⟨⟨rfl, rfl, .closed rfl rfl, .closed rfl rfl, rfl, rfl⟩, rfl⟩
          | some c =>
            exact openEyes_seen
              (d := { d.shutdown with stage := abs s₂, context := true })
              (e := { (shutdown e).1 with stage := s₂, context := some c })
              ⟨rfl, rfl, .closed rfl rfl, .closed rfl rfl, rfl, rfl⟩ rfl
              (AmfVideoEncoder.params staging config) config.bitrateBps _ a.components

theorem setBitrate_seen (h : Seen d e) (bitrateBps : ℕ) :
    Seen (d.setBitrate bitrateBps) (setBitrate e bitrateBps).1 := by
  have heye : ∀ {d : AmfStreamEncoder} {e : StreamEncoder}, SeenEye d e → ∀ b,
      SeenEye (d.setBitrate b) (setEyeBitrate e b).1 := by
    intro d e h b
    have hopen := h.component
    unfold AmfStreamEncoder.setBitrate setEyeBitrate
    cases hcomponent : e.component with
    | none =>
      rw [hcomponent, Option.isSome_none, Option.isSome_eq_false_iff, Option.isNone_iff_eq_none]
        at hopen
      rw [if_pos (.inl hopen)]
      exact h
    | some k =>
      have hsome : e.component.isSome = true := by rw [hcomponent]; rfl
      rw [hsome] at hopen
      have hnot : d.component ≠ none := Option.isSome_iff_ne_none.mp hopen
      rw [← h.bitrateBps hsome]
      simp only [hnot, false_or]
      split
      · exact h
      · exact ⟨hopen, fun _ => h.codec hsome, fun _ => rfl⟩
  have hready := h.ready
  have hbitrate := h.bitrateBps
  unfold AmfVideoEncoder.setBitrate setBitrate
  rw [← hready, ← hbitrate]
  split
  · exact h
  · exact ⟨h.stage, h.context, heye h.left _, heye h.right _, rfl, rfl⟩

/-- A picture goes in and one comes out, and the component stays what it is. -/
theorem encodeEye_same (d : AmfStreamEncoder) (frame : FrameReady) (forceIdr : Bool)
    (env : EyeEnv) : ∃ component, component.isSome = d.component.isSome ∧
      (AmfVideoEncoder.encodeEye d frame forceIdr env).1 = { d with component := component } := by
  have hretrieved : ∀ d' : AmfStreamEncoder, ∀ polls, ∃ component,
      component.isSome = d'.component.isSome ∧
        (d'.retrieve polls).1 = { d' with component := component } := by
    intro d' polls
    obtain ⟨hsame, -⟩ | ⟨out, rest, hcomponent, htaken, -⟩ := d'.retrieve_cases polls
    · exact ⟨d'.component, rfl, hsame⟩
    · exact ⟨some rest, by rw [hcomponent]; rfl, htaken⟩
  have hsubmitted : ∃ component, component.isSome = d.component.isSome ∧
      (d.submit frame forceIdr env.submit).1 = { d with component := component } := by
    obtain ⟨queue, hcomponent, htaken⟩ | ⟨hsame, -⟩ := d.submit_cases frame forceIdr env.submit
    · exact ⟨_, by rw [hcomponent]; rfl, congrArg Prod.fst htaken⟩
    · exact ⟨d.component, rfl, hsame⟩
  obtain ⟨component, hsome, hd'⟩ := hsubmitted
  unfold AmfVideoEncoder.encodeEye AmfVideoEncoder.retrieveEye
  dsimp only
  split
  · obtain ⟨component', hsome', hd''⟩ := hretrieved (d.submit frame forceIdr env.submit).1 env.polls
    refine ⟨component', ?_, ?_⟩
    · rw [hsome', hd', ← hsome]
    · rw [hd'', hd']
  · exact ⟨component, hsome, hd'⟩

theorem encodeEye_seen {d : AmfStreamEncoder} {e : StreamEncoder} (h : SeenEye d e)
    (frame : FrameReady) (forceIdr : Bool) (env : EyeEnv) :
    SeenEye (AmfVideoEncoder.encodeEye d frame forceIdr env).1 e := by
  obtain ⟨component, hsome, hd⟩ := encodeEye_same d frame forceIdr env
  rw [hd]
  exact ⟨hsome.trans h.component, h.codec, h.bitrateBps⟩

theorem finish_seen (h : Seen d e)
    {gotL gotR : AmfStreamEncoder × EncodeResult × Option AmfOutput} (hleft : SeenEye gotL.1 e.left)
    (hright : SeenEye gotR.1 e.right) : Seen (d.finish gotL gotR).1 e := by
  unfold AmfVideoEncoder.finish
  dsimp only
  split
  · exact ⟨h.stage, h.context, hleft, hright, h.ready, h.bitrateBps⟩
  · split
    · exact ⟨h.stage, h.context, hleft, hright, h.ready, h.bitrateBps⟩
    · exact ⟨h.stage, h.context, hleft, hright, h.ready, h.bitrateBps⟩

theorem encode_seen (h : Seen d e) (hinv : Inv e) (frame : FrameReady) (forceIdr : Bool)
    (a : EncodeAnswer) :
    Seen (d.encode frame forceIdr a.env).1 (encode e frame a).1 := by
  have hacquired := acquire_acquired hinv.stage frame.stagingIndex a.sync
  show Seen (d.encodeOutputs frame forceIdr a.env).1 _
  unfold AmfVideoEncoder.encodeOutputs encode
  rw [h.ready, h.stage]
  cases hready : e.ready with
  | false => exact h
  | true =>
    have hnot : ¬ ¬ true = true := by simp
    rw [if_neg hnot, if_neg (show ¬ (!true) = true by simp)]
    rw [show (abs e.stage).generation = e.stage.generation from rfl]
    split
    · exact h
    · rw [show a.env.sync = decide (a.sync = .acquired) from rfl, hacquired.agrees]
      generalize acquire e.stage frame.stagingIndex a.sync = r at hacquired ⊢
      obtain ⟨s, es, texture⟩ := r
      cases texture with
      | none => exact ⟨rfl, h.context, h.left, h.right, rfl, h.bitrateBps⟩
      | some source =>
        obtain ⟨-, -, habs⟩ := release_spec hacquired.inv frame.stagingIndex
        have hleft := encodeEye_seen h.left frame forceIdr a.env.left
        have hright := encodeEye_seen h.right frame forceIdr a.env.right
        refine finish_seen ?_ hleft hright
        exact ⟨habs, h.context, h.left, h.right, rfl, h.bitrateBps⟩

theorem step_seen (h : Seen d e) (hinv : Inv e) (op : Op) :
    Seen (seenStep d op) (step e op).1 := by
  cases op with
  | configure staging config a => exact (configure_seen h hinv staging config a).1
  | setBitrate bitrateBps => exact setBitrate_seen h bitrateBps
  | shutdown => exact shutdown_seen h.stage
  | encode frame forceIdr a => exact encode_seen h hinv frame forceIdr a

theorem trace_seen (ops : List Op) (h : Seen d e) (hinv : Inv e) :
    Seen (ops.foldl seenStep d) (trace step e ops).1 := by
  induction ops generalizing d e with
  | nil => exact h
  | cons op ops ih => exact ih (step_seen h hinv op) (step_spec hinv op).inv

end Seen

structure Held (ops : List Op) (e : Encoder) (es : List (Effect Resource)) : Prop where
  /-- Nothing was used or given back that was not held, and the fields know of all that is. -/
  turns : Turns 0 es (owns e)
  /-- After a `shutdown` nothing is held. -/
  down : Turns 0 (es ++ (shutdown e).2) 0
  /-- Between two calls every slot is the shim's. -/
  fresh : ∀ i slot, e.stage.slots i = some slot → slot.held = false
  /-- An encoder that is ready has both components, on the context that is there. -/
  ready : e.ready = true → ∃ c left right, e.context = some c ∧
    e.left.component = some left ∧ e.left.context = some c ∧
    e.right.component = some right ∧ e.right.context = some c
  /-- The rest of the helper has the same encoder. -/
  seen : Seen (ops.foldl seenStep {}) e
  configured : ∀ staging config a, ((ops.foldl seenStep {}).configure a.machine staging config).2 =
    (configure e staging config a).2.2

/-- Whatever is called, in whatever order, and wherever it fails. -/
theorem encoder_custody (ops : List Op) :
    Held ops (trace step {} ops).1 (trace step {} ops).2 := by
  have hempty : Inv {} :=
    ⟨⟨Nat.zero_le 3, fun i => iff_of_false Bool.false_ne_true (Nat.not_lt_zero i), rfl⟩,
      by rintro _ _ ⟨⟩, .closed rfl, .closed rfl, by rintro ⟨⟩⟩
  have hseen₀ : Seen {} {} := ⟨rfl, rfl, .closed rfl rfl, .closed rfl rfl, rfl, rfl⟩
  have hstep : ∀ e op, Inv e →
      Inv (step e op).1 ∧ Turns (owns e) (step e op).2 (owns (step e op).1) :=
    fun e op h => ⟨(step_spec h op).inv, (step_spec h op).turns⟩
  obtain ⟨hinv, hturns⟩ := trace_turns hstep ops {} hempty
  have hseen := trace_seen ops hseen₀ hempty
  have hstart : owns {} = 0 := by
    show 0 + (0 + (0 + StageRing.owns {})) = 0
    rw [show StageRing.owns {} = 0 from owns_destroyed {}, zero_add, zero_add, zero_add]
  rw [hstart] at hturns
  generalize trace step {} ops = r at hinv hturns hseen
  obtain ⟨e, es⟩ := r
  obtain ⟨hdown, hnothing⟩ := shutdown_spec hinv.stage
  refine ⟨hturns, ?_, hinv.fresh, ?_, hseen, fun staging config a =>
    (configure_seen hseen hinv staging config a).2⟩
  · have hall := hturns.append hdown.turns
    rw [hnothing] at hall
    exact hall
  · intro hready
    obtain ⟨hleft, hright⟩ := hinv.ready hready
    obtain ⟨left, hl⟩ := Option.isSome_iff_exists.mp hleft
    obtain ⟨right, hr⟩ := Option.isSome_iff_exists.mp hright
    obtain ⟨c, hc⟩ := Option.isSome_iff_exists.mp (hinv.left.alive hleft)
    exact ⟨c, left, right, hc, hl, (hinv.left.same hleft).trans hc, hr,
      (hinv.right.same hright).trans hc⟩

end WivrnNx.EncoderCustody
