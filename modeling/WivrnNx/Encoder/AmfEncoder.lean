import WivrnNx.Encoder.VideoEncoder

/-!
# One AMF encode component

`AmfStreamEncoder` (encoder/amf_encoder.cpp). The AMF runtime is not part of the
repository: a component is a FIFO that emits exactly one output for each input
it accepted, in order, after an arbitrary delay. An output remembers the frame
its picture was copied from (`source`), which the code cannot see; this is what
the labels put on it are compared with.
-/

namespace WivrnNx

open Ipc

/-- The `AMF_SURFACE_FORMAT`s a staging texture can be encoded as. -/
inductive AmfSurfaceFormat where
  | unknown | rgba | bgra
deriving DecidableEq, Repr

/-- `amf_surface_format_for_dxgi`: the 8-bit packed layouts, in their UNORM, SRGB
and TYPELESS spellings. -/
def amfSurfaceFormatForDxgi (dxgiFormat : ℕ) : AmfSurfaceFormat :=
  if dxgiFormat = 28 ∨ dxgiFormat = 29 ∨ dxgiFormat = 27 then .rgba
  else if dxgiFormat = 87 ∨ dxgiFormat = 91 ∨ dxgiFormat = 90 then .bgra
  else .unknown

/-- `AmfEncodeParams`, for one eye. -/
structure AmfEncodeParams where
  width : UInt32 := 0
  height : UInt32 := 0
  refreshHz : Flt := .val 90
  bitrateBps : ℕ := 50000000
  surfaceFormat : AmfSurfaceFormat := .unknown
  allowH265 : Bool := true
  allowH264 : Bool := true
  pollTimeoutMs : ℕ := 40
deriving DecidableEq, Repr

/-- The output an accepted input will give. -/
structure AmfOutput where
  source : FrameReady
  idr : Bool
  data : List UInt8
deriving DecidableEq, Repr

/-- What the runtime answers to `SubmitInput`. -/
inductive SubmitInput where
  | ok | needMoreInput | inputFull | failed
deriving DecidableEq, Repr

/-- What one submit meets: the surface allocation, the copy callback, the
component's answer and the output it will make of the picture (`idr`: it decides
for a key frame of its own accord, as on its first input). -/
structure SubmitEnv where
  allocSurface : Bool := true
  fill : Bool := true
  submitInput : SubmitInput := .ok
  idr : Bool := false
  data : List UInt8 := [0]
deriving DecidableEq, Repr

/-- One round of the poll loop: the head of the FIFO is handed out (as a buffer,
or as something else), nothing is there yet (`expired`: the frame's budget is
spent), or `QueryOutput` failed. -/
inductive Poll where
  | output (isBuffer : Bool)
  | notYet (expired : Bool)
  | failed
deriving DecidableEq, Repr

/-- `AmfStreamEncoder`: the component when it is open, as the outputs it owes. -/
structure AmfStreamEncoder where
  component : Option (List AmfOutput) := none
  codec : VideoCodec := .h265
  params : AmfEncodeParams := {}
deriving DecidableEq, Repr

namespace AmfStreamEncoder

/-- The outputs still inside the component. -/
def inside (e : AmfStreamEncoder) : List AmfOutput := e.component.getD []

/-- `open`: HEVC first, H.264 as the fallback. `create` says which components the
driver builds. -/
def openComponent (params : AmfEncodeParams) (create : VideoCodec → Bool) :
    AmfStreamEncoder × Bool :=
  if params.allowH265 ∧ create .h265 then
    ({ component := some [], codec := .h265, params := params }, true)
  else if params.allowH264 ∧ create .h264 then
    ({ component := some [], codec := .h264, params := params }, true)
  else ({ params := params }, false)

def close (e : AmfStreamEncoder) : AmfStreamEncoder := { e with component := none }

/-- `set_bitrate`: the running component is retuned, its queue stays. -/
def setBitrate (e : AmfStreamEncoder) (bitrateBps : ℕ) : AmfStreamEncoder :=
  if e.component = none ∨ bitrateBps = 0 ∨ bitrateBps = e.params.bitrateBps then e
  else { e with params := { e.params with bitrateBps := bitrateBps } }

/-- The output the component will make of `frame`: a forced key frame is one. -/
def outputOf (frame : FrameReady) (forceIdr : Bool) (env : SubmitEnv) : AmfOutput :=
  { source := frame, idr := forceIdr || env.idr, data := env.data }

/-- `submit`: copies the eye of `frame` into a new surface and hands it in. -/
def submit (e : AmfStreamEncoder) (frame : FrameReady) (forceIdr : Bool) (env : SubmitEnv) :
    AmfStreamEncoder × EncodeResult :=
  match e.component with
  | none => (e, .fatal)
  | some queue =>
    if ¬ env.allocSurface then (e, .fatal)
    else if ¬ env.fill then (e, .dropped)
    else
      match env.submitInput with
      -- Nothing was consumed: the previous frame is still inside the encoder
      | .inputFull => (e, .dropped)
      | .failed => (e, .fatal)
      | .ok | .needMoreInput =>
        ({ e with component := some (queue ++ [outputOf frame forceIdr env]) }, .ok)

/-- `retrieve`: polls until an output is there, the budget is spent or the query
fails. Whatever is at the head comes out, whichever frame it was made from. -/
def retrieve (e : AmfStreamEncoder) : List Poll → AmfStreamEncoder × EncodeResult × Option AmfOutput
  | [] => (e, .dropped, none)
  | poll :: polls =>
    match e.component with
    | none => (e, .fatal, none)
    | some queue =>
      match poll, queue with
      | .failed, _ => (e, .fatal, none)
      | .notYet true, _ => (e, .dropped, none)
      | .notYet false, _ => retrieve e polls
      | .output _, [] => retrieve e polls
      | .output isBuffer, out :: rest =>
        let e' := { e with component := some rest }
        if ¬ isBuffer then (e', .fatal, none)
        -- An empty buffer is an output like any other, but nothing can be sent
        else if out.data = [] then (e', .dropped, none)
        else (e', .ok, some out)

/-! ## What submit and retrieve do to the FIFO -/

/-- A submit either queues this frame's output and answers `ok`, or leaves the
encoder alone and does not. -/
theorem submit_cases (e : AmfStreamEncoder) (frame : FrameReady) (forceIdr : Bool)
    (env : SubmitEnv) :
    (∃ queue, e.component = some queue ∧
      e.submit frame forceIdr env =
        ({ e with component := some (queue ++ [outputOf frame forceIdr env]) }, .ok)) ∨
    ((e.submit frame forceIdr env).1 = e ∧ (e.submit frame forceIdr env).2 ≠ .ok) := by
  unfold submit
  split
  · exact .inr ⟨rfl, by simp⟩
  · rename_i queue _
    split
    · exact .inr ⟨rfl, by simp⟩
    · split
      · exact .inr ⟨rfl, by simp⟩
      · split
        · exact .inr ⟨rfl, by simp⟩
        · exact .inr ⟨rfl, by simp⟩
        · exact .inl ⟨queue, ‹_›, rfl⟩
        · exact .inl ⟨queue, ‹_›, rfl⟩

/-- A retrieve takes the head of the FIFO or nothing, and answers `ok` only with
the head in hand. -/
theorem retrieve_cases (e : AmfStreamEncoder) (polls : List Poll) :
    ((e.retrieve polls).1 = e ∧ (e.retrieve polls).2.1 ≠ .ok) ∨
    ∃ out rest, e.component = some (out :: rest) ∧
      (e.retrieve polls).1 = { e with component := some rest } ∧
      ((e.retrieve polls).2.1 ≠ .ok ∨
        (e.retrieve polls).2 = (.ok, some out)) := by
  induction polls with
  | nil => exact .inl ⟨rfl, by simp [retrieve]⟩
  | cons poll polls ih =>
    cases hc : e.component with
    | none => exact .inl (by simp [retrieve, hc])
    | some queue =>
      cases poll with
      | failed => exact .inl (by simp [retrieve, hc])
      | notYet expired =>
        cases expired with
        | true => exact .inl (by simp [retrieve, hc])
        | false => simpa [retrieve, hc] using ih
      | output isBuffer =>
        cases queue with
        | nil => simpa [retrieve, hc] using ih
        | cons out rest =>
          refine .inr ⟨out, rest, rfl, ?_⟩
          by_cases hb : isBuffer = true
          · by_cases hd : out.data = [] <;> simp [retrieve, hc, hb, hd]
          · simp [retrieve, hc, hb]

/-- Only an `ok` retrieve has an output in hand. -/
theorem retrieve_none_of_not_ok {e : AmfStreamEncoder} {polls : List Poll}
    (h : (e.retrieve polls).2.1 ≠ .ok) : (e.retrieve polls).2.2 = none := by
  induction polls with
  | nil => rfl
  | cons poll polls ih =>
    cases hc : e.component with
    | none => simp [retrieve, hc]
    | some queue =>
      cases poll with
      | failed => simp [retrieve, hc]
      | notYet expired => cases expired <;> simp_all [retrieve]
      | output isBuffer =>
        cases queue with
        | nil => simp_all [retrieve]
        | cons out rest =>
          simp only [retrieve, hc] at h ⊢
          split_ifs at h ⊢ <;> simp_all

end AmfStreamEncoder

end WivrnNx
