import WivrnNx.Encoder.Labels
import WivrnNx.Intake.EncoderSteps

/-!
# The encoder that a new client gets

`set_client` moves `config_generation`: no encoder is up to date then, and the next look at
the request ends in a new one. It starts with `idr_seen_ = 0`, so every call forces a key
frame until one has answered `ok`.

- `stepped_request`, `stepped_remembers`: what a step does to the request the thread works
  on, and to what it remembers of those it has served;
- `Behind`: the encoder thread has not read a configuration as new as this;
- `Served`: no key frame it has served was asked for after this;
- `Owing`: all it can hand out is key frames;
- `stepped_behind`, `read_owing`, `stepped_owing`: the one, until the request is read, then
  the other, until a call answers `ok`.
-/

namespace WivrnNx

open Ipc

/-- The request that the encoder thread works on. -/
def EncoderThread.request? : EncoderThread → Option VideoRequest
  | .opening _ _ request _ | .encoding _ request | .holding _ _ request
  | .released _ _ request => some request
  | _ => none

/-- `force_idr`, once it is decided. -/
def EncoderThread.forceIdr? : EncoderThread → Option Bool
  | .holding _ forceIdr _ | .released _ forceIdr _ => some forceIdr
  | _ => none

/-- The encoder is about to `encode`. -/
def EncoderThread.isEncoding : EncoderThread → Bool
  | .encoding _ _ => true
  | _ => false

/-! ## Key frames inside a component -/

namespace AmfStreamEncoder

/-- The component holds nothing but key frames. -/
def Keyed (e : AmfStreamEncoder) : Prop := ∀ out ∈ e.inside, out.idr = true

theorem keyed_of_nil {e : AmfStreamEncoder} (h : e.inside = []) : e.Keyed := by
  intro out hout
  rw [h] at hout
  cases hout

/-- What comes out has bytes. -/
theorem retrieve_data {e : AmfStreamEncoder} {polls : List Poll} {out : AmfOutput}
    (h : (e.retrieve polls).2.2 = some out) : out.data ≠ [] := by
  induction polls with
  | nil => cases h
  | cons poll polls ih =>
    cases hc : e.component with
    | none =>
      simp only [retrieve, hc] at h
      cases h
    | some queue =>
      simp only [retrieve, hc] at h
      split at h
      · cases h
      · cases h
      · exact ih h
      · exact ih h
      · split at h
        · cases h
        · split at h
          · cases h
          · rename_i hdata
            cases h
            exact hdata

end AmfStreamEncoder

namespace AmfVideoEncoder

open AmfStreamEncoder

/-- What an eye's share of a call leaves inside was there, or is the frame's own picture. -/
theorem encodeEye_inside (e : AmfStreamEncoder) (frame : FrameReady) (forceIdr : Bool)
    (env : EyeEnv) :
    List.Sublist (encodeEye e frame forceIdr env).1.inside
      (e.inside ++ [outputOf frame forceIdr env.submit]) := by
  rcases submit_cases e frame forceIdr env.submit with ⟨queue, hq, heq⟩ | ⟨hsame, hne⟩
  · have hinside : e.inside = queue := by simp [inside, hq]
    simp only [encodeEye, heq, retrieveEye]
    rw [hinside]
    rcases retrieve_cases { e with component := some (queue ++ [outputOf frame forceIdr env.submit]) }
      env.polls with ⟨hkept, -⟩ | ⟨head, rest, hcons, hrest, -⟩
    · rw [hkept]
      exact List.Sublist.refl _
    · rw [hrest, Option.some.inj hcons]
      exact List.sublist_cons_self head rest
  · -- Not accepted: the component is as it was
    have hkept : (encodeEye e frame forceIdr env).1 = e := by
      simp only [encodeEye]
      cases hs : (e.submit frame forceIdr env.submit).2 with
      | ok => exact absurd hs hne
      | dropped => exact hsame
      | fatal => exact hsame
    rw [hkept]
    exact List.sublist_append_left _ _

/-- A forced call leaves only key frames inside, if there were no others. -/
theorem encodeEye_keyed {e : AmfStreamEncoder} (h : e.Keyed) (frame : FrameReady) (env : EyeEnv) :
    (encodeEye e frame true env).1.Keyed ∧
      ∀ out, (encodeEye e frame true env).2.2 = some out → out.idr = true := by
  have hall : ∀ out ∈ e.inside ++ [outputOf frame true env.submit], out.idr = true := by
    intro out hout
    rcases List.mem_append.mp hout with hold | hnew
    · exact h out hold
    · rw [List.mem_singleton.mp hnew]
      rfl
  refine ⟨?_, ?_⟩
  · intro out hout
    exact hall out ((encodeEye_inside e frame true env).subset hout)
  · intro out hout
    refine hall out ?_
    rw [encodeEye_some hout]
    exact List.mem_cons_self

/-- An eye's output has bytes. -/
theorem encodeEye_data {e : AmfStreamEncoder} {frame : FrameReady} {forceIdr : Bool}
    {env : EyeEnv} {out : AmfOutput} (h : (encodeEye e frame forceIdr env).2.2 = some out) :
    out.data ≠ [] := by
  simp only [encodeEye, retrieveEye] at h
  split at h
  · exact retrieve_data h
  · cases h

/-- What a forced call leaves and hands out, from components that hold only key frames. -/
theorem encodeRest_keyed {e : AmfVideoEncoder} (hleft : e.left.Keyed) (hright : e.right.Keyed)
    (frame : FrameReady) (env : EncodeEnv) :
    (e.encodeRest frame true env).1.left.Keyed ∧ (e.encodeRest frame true env).1.right.Keyed ∧
      ∀ f ∈ labelled frame (e.encodeRest frame true env).2.2, f.idr = true := by
  have hl := encodeEye_keyed hleft frame env.left
  have hr := encodeEye_keyed hright frame env.right
  rcases finish_cases e (encodeEye e.left frame true env.left) (encodeEye e.right frame true env.right)
    with ⟨hkeptL, hkeptR, hout⟩
  unfold encodeRest
  refine ⟨?_, ?_, ?_⟩
  · rw [hkeptL]
    exact hl.1
  · rw [hkeptR]
    exact hr.1
  · intro f hf
    rcases hout with ⟨outL, outR, hgotL, hgotR, hok⟩ | ⟨-, hnone⟩
    · rw [hok] at hf
      rcases List.mem_pair.mp hf with rfl | rfl
      · exact hl.2 outL hgotL
      · exact hr.2 outR hgotR
    · rw [hnone] at hf
      cases hf

/-- What a call hands out has bytes, and goes out on the two streams. -/
theorem encodeRest_frames (e : AmfVideoEncoder) (frame : FrameReady) (forceIdr : Bool)
    (env : EncodeEnv) :
    (∀ f ∈ labelled frame (e.encodeRest frame forceIdr env).2.2, f.data ≠ []) ∧
      (labelled frame (e.encodeRest frame forceIdr env).2.2 = [] ∨
        (labelled frame (e.encodeRest frame forceIdr env).2.2).map EncodedFrame.streamIndex =
          [0, 1]) := by
  rcases (finish_cases e (encodeEye e.left frame forceIdr env.left)
    (encodeEye e.right frame forceIdr env.right)).2.2 with
    ⟨outL, outR, hgotL, hgotR, hok⟩ | ⟨-, hnone⟩
  · unfold encodeRest
    rw [hok]
    refine ⟨?_, .inr rfl⟩
    intro f hf
    rcases List.mem_pair.mp hf with rfl | rfl
    · exact encodeEye_data hgotL
    · exact encodeEye_data hgotR
  · unfold encodeRest
    rw [hnone]
    refine ⟨?_, .inl rfl⟩
    intro f hf
    cases hf

/-- Nothing is inside the components that `configure` leaves, whatever it answered. -/
theorem configure_inside (e : AmfVideoEncoder) (machine : Machine) (staging : StagingConfig)
    (config : EncoderConfig) :
    (e.configure machine staging config).1.left.inside = [] ∧
      (e.configure machine staging config).1.right.inside = [] := by
  cases hanswer : (e.configure machine staging config).2 with
  | true =>
    rcases configure_drained hanswer with ⟨hleft, hright⟩
    exact ⟨hleft, hright⟩
  | false =>
    unfold configure at hanswer ⊢
    dsimp only at hanswer ⊢
    split
    · exact ⟨rfl, rfl⟩
    · split
      · exact ⟨rfl, rfl⟩
      · split
        · exact ⟨rfl, rfl⟩
        · split
          · exact ⟨rfl, rfl⟩
          · split
            · exact ⟨rfl, rfl⟩
            · split
              · exact ⟨rfl, rfl⟩
              · split
                · exact ⟨rfl, rfl⟩
                · simp_all

end AmfVideoEncoder

namespace VideoIntake

open AmfStreamEncoder (keyed_of_nil)

/-! ## Before the request is read -/

/-- The encoder, and the request that the thread works on, are of an older configuration
than `generation`. -/
structure Behind (i : VideoIntake) (generation : ℕ) : Prop where
  ready : i.encoderReady = true → i.encoderConfigGeneration < generation
  asked : ∀ request, i.thread.request? = some request → request.configGeneration < generation

theorem Behind.mono {i : VideoIntake} {m n : ℕ} (h : i.Behind m) (hle : m ≤ n) : i.Behind n where
  ready := fun hready => lt_of_lt_of_le (h.ready hready) hle
  asked := fun request hrequest => lt_of_lt_of_le (h.asked request hrequest) hle

/-- A step that keeps the encoder and its request. -/
theorem Behind.same {i i' : VideoIntake} {n : ℕ} (h : i.Behind n)
    (hready : i'.encoderReady = true → i.encoderReady = true ∧
      i'.encoderConfigGeneration = i.encoderConfigGeneration)
    (hasked : ∀ request, i'.thread.request? = some request →
      i.thread.request? = some request) : i'.Behind n where
  ready := by
    intro hr
    rw [(hready hr).2]
    exact h.ready (hready hr).1
  asked := fun request hrequest => h.asked request (hasked request hrequest)

theorem takePending_idle (i : VideoIntake) : i.takePending.thread.request? = none ∧
    i.takePending.thread.forceIdr? = none ∧ i.takePending.thread.isEncoding = false := by
  rcases i.takePending_thread with hthread | ⟨frame, hthread⟩
  · rw [hthread]
    exact ⟨rfl, rfl, rfl⟩
  · rw [hthread]
    exact ⟨rfl, rfl, rfl⟩

/-- The request that the thread works on is the one it worked on, or has just been read. -/
theorem stepped_request {i i' : VideoIntake} {a : EncoderAction} (h : i.Stepped a i')
    {request : VideoRequest} (hrequest : i'.thread.request? = some request) :
    i.thread.request? = some request ∨ a = .readRequest request := by
  cases h with
  | tear | unstaged | staged | inactive | answered | dropped => cases hrequest
  | wake | relock =>
    rw [(takePending_idle _).1] at hrequest
    cases hrequest
  | current | rebuild =>
    cases hrequest
    exact .inr rfl
  | opened frame config r found shared hthread =>
    rw [hthread]
    exact .inl hrequest
  | configured frame config r found machine hthread =>
    rw [hthread]
    unfold configured at hrequest
    split at hrequest
    · cases hrequest
    · exact .inl hrequest
  | acquired frame r sync encoder hthread =>
    rw [hthread]
    exact .inl hrequest
  | refused =>
    rw [(concluded_cases _ _ _ _ _).1] at hrequest
    cases hrequest
  | released frame forceIdr r hthread =>
    rw [hthread]
    exact .inl hrequest
  | finished =>
    rw [(concluded_cases _ _ _ _ _).1] at hrequest
    cases hrequest

/-- What the thread remembers of the requests it has served: the configuration of the
encoder that is ready, and the last key frame. -/
structure Remembers (i i' : VideoIntake) : Prop where
  config : i'.encoderReady = true →
    (i.encoderReady = true ∧ i'.encoderConfigGeneration = i.encoderConfigGeneration) ∨
      ∃ request, i.thread.request? = some request ∧
        i'.encoderConfigGeneration = request.configGeneration
  seen : i'.idrSeen = i.idrSeen ∨ i'.idrSeen = 0 ∨
    ∃ frame request, i.thread = .released frame true request ∧
      i'.thread = .answering frame true ∧ i'.idrSeen = request.idrGeneration

/-- A step that keeps the encoder. -/
theorem Remembers.same {i i' : VideoIntake}
    (hconfig : i'.encoderReady = true → i.encoderReady = true ∧
      i'.encoderConfigGeneration = i.encoderConfigGeneration)
    (hseen : i'.idrSeen = i.idrSeen) : Remembers i i' where
  config := fun hready => .inl (hconfig hready)
  seen := .inl hseen

theorem stepped_remembers {i i' : VideoIntake} {a : EncoderAction} (h : i.Stepped a i') :
    Remembers i i' := by
  cases h with
  | tear | unstaged | staged | inactive | current | opened | released | answered | dropped =>
    exact .same (fun hready => ⟨hready, rfl⟩) rfl
  | wake =>
    refine .same ?_ (takePending_idrSeen _)
    intro hr
    rw [takePending_encoderReady] at hr
    exact ⟨hr, takePending_encoderConfigGeneration _⟩
  | relock =>
    refine .same ?_ (takePending_idrSeen _)
    intro hr
    rw [takePending_encoderReady] at hr
    cases hr
  | rebuild =>
    refine .same ?_ rfl
    intro hr
    cases hr
  | configured frame config request found machine hthread =>
    have hasked : i.thread.request? = some request := by
      rw [hthread]
      rfl
    unfold configured
    split
    · exact ⟨fun _ => .inr ⟨request, hasked, rfl⟩, .inl rfl⟩
    · exact ⟨fun _ => .inr ⟨request, hasked, rfl⟩, .inr (.inl rfl)⟩
  | acquired frame request sync encoder hthread =>
    refine .same ?_ (i.retune_idrSeen request)
    intro hr
    exact ⟨(i.retune_encoderReady request).symm.trans hr, i.retune_encoderConfigGeneration request⟩
  | refused frame request sync encoder result hthread hencode =>
    have hne := (encodeAcquire_cases (i.retune request).encoder frame sync).2.2.2
    rw [hencode] at hne
    rcases ({ i.retune request with encoder := encoder } : VideoIntake).concluded_cases frame
      (request.idrGeneration ≠ i.idrSeen) request result with ⟨-, hconfig, hseen, hencoder⟩
    refine .same ?_ ((hseen fun hok => hne (congrArg some hok)).trans (i.retune_idrSeen request))
    intro hr
    rcases hencoder with ⟨-, hsame⟩ | ⟨-, hshut⟩
    · rw [hsame] at hr
      exact ⟨(i.retune_encoderReady request).symm.trans hr,
        hconfig.trans (i.retune_encoderConfigGeneration request)⟩
    · rw [hshut] at hr
      cases hr
  | finished frame forceIdr request env hthread =>
    rcases ({ i with encoder := (i.encoder.encodeRest frame forceIdr env).1 } :
      VideoIntake).concluded_cases frame forceIdr request
        (i.encoder.encodeRest frame forceIdr env).2.1 with ⟨hanswer, hconfig, hseen, hencoder⟩
    refine ⟨?_, ?_⟩
    · intro hr
      rcases hencoder with ⟨-, hsame⟩ | ⟨-, hshut⟩
      · rw [hsame] at hr
        exact .inl ⟨hr, hconfig⟩
      · rw [hshut] at hr
        cases hr
    · by_cases hok : (i.encoder.encodeRest frame forceIdr env).2.1 = .ok
      · -- `idr_seen_` moves only when the call forced a key frame
        rw [hanswer, hok]
        cases forceIdr with
        | false => exact .inl rfl
        | true => exact .inr (.inr ⟨frame, request, hthread, rfl, rfl⟩)
      · exact .inl (hseen hok)

/-- Only a look at the request brings in a newer configuration. -/
theorem stepped_behind {i i' : VideoIntake} {a : EncoderAction} {n : ℕ} (h : i.Stepped a i')
    (hbehind : i.Behind n) (hread : ∀ request, a = .readRequest request →
      request.configGeneration < n) : i'.Behind n := by
  refine ⟨?_, ?_⟩
  · intro hready
    rcases (stepped_remembers h).config hready with ⟨hbefore, hsame⟩ | ⟨request, hasked, hsame⟩
    · rw [hsame]
      exact hbehind.ready hbefore
    · rw [hsame]
      exact hbehind.asked request hasked
  · intro request hrequest
    rcases stepped_request h hrequest with hbefore | hnow
    · exact hbehind.asked request hbefore
    · exact hread request hnow

/-- No key frame that was served, or is being, was asked for after `generation`. -/
structure Served (i : VideoIntake) (generation : ℕ) : Prop where
  seen : i.idrSeen ≤ generation
  asked : ∀ request, i.thread.request? = some request → request.idrGeneration ≤ generation

theorem Served.mono {i i' : VideoIntake} {m n : ℕ} (h : i.Served m) (hle : m ≤ n)
    (hseen : i'.idrSeen = i.idrSeen) (hthread : i'.thread = i.thread) : i'.Served n where
  seen := by
    rw [hseen]
    exact h.seen.trans hle
  asked := by
    rw [hthread]
    exact fun request hrequest => (h.asked request hrequest).trans hle

theorem stepped_served {i i' : VideoIntake} {a : EncoderAction} {n : ℕ} (h : i.Stepped a i')
    (hserved : i.Served n) (hread : ∀ request, a = .readRequest request →
      request.idrGeneration ≤ n) : i'.Served n := by
  refine ⟨?_, ?_⟩
  · rcases (stepped_remembers h).seen with hsame | hzero | ⟨frame, request, hthread, -, hnow⟩
    · rw [hsame]
      exact hserved.seen
    · rw [hzero]
      exact Nat.zero_le n
    · rw [hnow]
      refine hserved.asked request ?_
      rw [hthread]
      rfl
  · intro request hrequest
    rcases stepped_request h hrequest with hbefore | hnow
    · exact hserved.asked request hbefore
    · exact hread request hnow

/-! ## Until a call has answered `ok` -/

/-- What the encoder thread is about to hand out is a key frame: both components hold only
key frames, and every call forces one. -/
structure Owing (i : VideoIntake) : Prop where
  left : i.encoder.left.Keyed
  right : i.encoder.right.Keyed
  seen : i.encoderReady = true → i.idrSeen = 0
  ready : i.thread.isEncoding = true → i.encoderReady = true
  forced : i.thread.forceIdr? ≠ some false
  asked : ∀ request, i.thread.request? = some request → request.idrGeneration ≠ 0

/-- The encoder has been shut down: it holds nothing, and is not ready. -/
theorem Owing.shut {i : VideoIntake} (hencoder : ∃ e : AmfVideoEncoder, i.encoder = e.shutdown)
    (hready : i.encoderReady = false) (hthread : i.thread.isEncoding = false)
    (hforced : i.thread.forceIdr? = none)
    (hasked : ∀ request, i.thread.request? = some request → request.idrGeneration ≠ 0) :
    i.Owing := by
  rcases hencoder with ⟨e, he⟩
  refine ⟨?_, ?_, ?_, ?_, ?_, hasked⟩
  · rw [he]
    exact keyed_of_nil rfl
  · rw [he]
    exact keyed_of_nil rfl
  · intro hr
    rw [hready] at hr
    cases hr
  · intro hencoding
    rw [hthread] at hencoding
    cases hencoding
  · rw [hforced]
    simp

/-- A step that keeps what the components hold, and does not decide against a key frame. -/
theorem Owing.same {i i' : VideoIntake} (h : i.Owing)
    (hleft : i'.encoder.left.inside = i.encoder.left.inside)
    (hright : i'.encoder.right.inside = i.encoder.right.inside)
    (hready : i'.encoderReady = i.encoderReady) (hseen : i'.idrSeen = i.idrSeen)
    (hencoding : i'.thread.isEncoding = true → i.encoderReady = true)
    (hforced : i'.thread.forceIdr? ≠ some false)
    (hasked : ∀ request, i'.thread.request? = some request → request.idrGeneration ≠ 0) :
    i'.Owing := by
  refine ⟨?_, ?_, ?_, ?_, hforced, hasked⟩
  · intro out hout
    rw [hleft] at hout
    exact h.left out hout
  · intro out hout
    rw [hright] at hout
    exact h.right out hout
  · rw [hready, hseen]
    exact h.seen
  · rw [hready]
    exact hencoding

/-- The first look at a newer configuration ends in a new encoder. -/
theorem read_owing {i i' : VideoIntake} {request : VideoRequest}
    (h : i.Stepped (.readRequest request) i') (hbehind : i.Behind request.configGeneration)
    (hactive : request.active = true) (hidr : request.idrGeneration ≠ 0) : i'.Owing := by
  cases h with
  | inactive frame config _ hthread hinactive =>
    rw [hactive] at hinactive
    cases hinactive
  | current frame config _ hthread _ hcurrent =>
    simp only [upToDate, Bool.decide_and, Bool.and_eq_true, decide_eq_true_eq] at hcurrent
    have hlt := hbehind.ready hcurrent.1
    rw [hcurrent.2.2] at hlt
    exact absurd hlt (lt_irrefl _)
  | rebuild frame config =>
    refine .shut ⟨i.encoder, rfl⟩ rfl rfl rfl ?_
    intro r hr
    cases hr
    exact hidr

/-- After a call that did not answer `ok`. -/
theorem Owing.concluded {i : VideoIntake} (hleft : i.encoder.left.Keyed)
    (hright : i.encoder.right.Keyed) (hseen : i.encoderReady = true → i.idrSeen = 0)
    (frame : FrameReady) (forceIdr : Bool) (request : VideoRequest) {result : EncodeResult}
    (hne : result ≠ .ok) : (i.concluded frame forceIdr request result).Owing := by
  rcases i.concluded_cases frame forceIdr request result with ⟨hthread, -, hkept, hencoder⟩
  have hidle : (i.concluded frame forceIdr request result).thread.isEncoding = false ∧
      (i.concluded frame forceIdr request result).thread.forceIdr? = none ∧
      (i.concluded frame forceIdr request result).thread.request? = none := by
    rw [hthread]
    exact ⟨rfl, rfl, rfl⟩
  rcases hencoder with ⟨hsame, hready⟩ | ⟨hshut, hready⟩
  · refine ⟨by rw [hsame]; exact hleft, by rw [hsame]; exact hright, ?_, ?_, ?_, ?_⟩
    · rw [hready, hkept hne]
      exact hseen
    · intro hencoding
      rw [hidle.1] at hencoding
      cases hencoding
    · rw [hidle.2.1]
      simp
    · intro r hr
      rw [hidle.2.2] at hr
      cases hr
  · refine .shut ⟨i.encoder, hshut⟩ hready hidle.1 hidle.2.1 ?_
    intro r hr
    rw [hidle.2.2] at hr
    cases hr

/-- Until a call answers `ok`, only key frames can come. -/
theorem stepped_owing {i i' : VideoIntake} {a : EncoderAction} (h : i.Stepped a i')
    (howing : i.Owing) (hread : ∀ request, a = .readRequest request → request.idrGeneration ≠ 0)
    (hquiet : ∀ frame, i'.thread = .answering frame true → i.thread = .answering frame true) :
    i'.Owing := by
  cases h with
  | tear | unstaged | staged | inactive | answered | dropped =>
    refine howing.same rfl rfl rfl rfl ?_ (by simp [EncoderThread.forceIdr?]) ?_
    · intro hencoding
      cases hencoding
    · intro r hr
      cases hr
  | wake hthread =>
    rcases ({ i with stagingChanged := false } : VideoIntake).takePending_idle with
      ⟨hnone, hforced, hencoding⟩
    refine howing.same (by rw [takePending_encoder]) (by rw [takePending_encoder])
      (takePending_encoderReady _) (takePending_idrSeen _) ?_ ?_ ?_
    · intro h
      rw [hencoding] at h
      cases h
    · rw [hforced]
      simp
    · intro r hr
      rw [hnone] at hr
      cases hr
  | relock hthread =>
    rcases ({ i.shutdownEncoder with encoderGeneration := 0 } : VideoIntake).takePending_idle with
      ⟨hnone, hforced, hencoding⟩
    refine .shut ⟨i.encoder, takePending_encoder _⟩ (takePending_encoderReady _) hencoding hforced ?_
    intro r hr
    rw [hnone] at hr
    cases hr
  | current frame config request hthread hactive hcurrent =>
    simp only [upToDate, Bool.decide_and, Bool.and_eq_true, decide_eq_true_eq] at hcurrent
    refine howing.same rfl rfl rfl rfl (fun _ => hcurrent.1) (by simp [EncoderThread.forceIdr?]) ?_
    intro r hr
    cases hr
    exact hread request rfl
  | rebuild frame config request =>
    refine .shut ⟨i.encoder, rfl⟩ rfl rfl rfl ?_
    intro r hr
    cases hr
    exact hread request rfl
  | opened frame config request found shared hthread =>
    refine howing.same rfl rfl rfl rfl ?_ (by simp [EncoderThread.forceIdr?]) ?_
    · intro hencoding
      cases hencoding
    · intro r hr
      refine howing.asked r ?_
      rw [hthread]
      exact hr
  | configured frame config request found machine hthread =>
    have hasked : request.idrGeneration ≠ 0 := by
      refine howing.asked request ?_
      rw [hthread]
      rfl
    have hinside := AmfVideoEncoder.configure_inside i.encoder (openedMachine machine found) config
      (encoderConfig request)
    unfold configured
    split
    · rename_i encoder hconfigure
      rw [hconfigure] at hinside
      refine ⟨keyed_of_nil hinside.1, keyed_of_nil hinside.2, howing.seen, ?_,
        by simp [EncoderThread.forceIdr?], ?_⟩
      · intro hencoding
        cases hencoding
      · intro r hr
        cases hr
    · rename_i encoder hconfigure
      rw [hconfigure] at hinside
      refine ⟨keyed_of_nil hinside.1, keyed_of_nil hinside.2, fun _ => rfl, fun _ => rfl,
        by simp [EncoderThread.forceIdr?], ?_⟩
      intro r hr
      cases hr
      exact hasked
  | acquired frame request sync encoder hthread hencode =>
    have hasked : request.idrGeneration ≠ 0 := by
      refine howing.asked request ?_
      rw [hthread]
      rfl
    have hready : i.encoderReady = true := by
      refine howing.ready ?_
      rw [hthread]
      rfl
    have hkept := encodeAcquire_cases (i.retune request).encoder frame sync
    rw [hencode] at hkept
    rcases i.retune_encoder request with ⟨hleft, hright, -⟩
    refine howing.same ?_ ?_ (i.retune_encoderReady request) (i.retune_idrSeen request) ?_ ?_ ?_
    · rw [hkept.1, hleft]
    · rw [hkept.2.1, hright]
    · intro hencoding
      cases hencoding
    · -- `idr_seen_` is still 0, and the request is not
      rw [howing.seen hready]
      simp [EncoderThread.forceIdr?, hasked]
    · intro r hr
      cases hr
      exact hasked
  | refused frame request sync encoder result hthread hencode =>
    have hkept := encodeAcquire_cases (i.retune request).encoder frame sync
    rw [hencode] at hkept
    rcases i.retune_encoder request with ⟨hleft, hright, -⟩
    refine Owing.concluded ?_ ?_ ?_ _ _ _ ?_
    · intro out hout
      change out ∈ encoder.left.inside at hout
      rw [hkept.1, hleft] at hout
      exact howing.left out hout
    · intro out hout
      change out ∈ encoder.right.inside at hout
      rw [hkept.2.1, hright] at hout
      exact howing.right out hout
    · change (i.retune request).encoderReady = true → (i.retune request).idrSeen = 0
      rw [retune_encoderReady, retune_idrSeen]
      exact howing.seen
    · intro hok
      exact hkept.2.2.2 (congrArg some hok)
  | released frame forceIdr request hthread =>
    have hforced : (EncoderThread.released frame forceIdr request).forceIdr? ≠ some false := by
      have hsame : i.thread.forceIdr? = some forceIdr := by
        rw [hthread]
        rfl
      have hbefore := howing.forced
      rw [hsame] at hbefore
      exact hbefore
    refine howing.same rfl rfl rfl rfl ?_ hforced ?_
    · intro hencoding
      cases hencoding
    · intro r hr
      refine howing.asked r ?_
      rw [hthread]
      exact hr
  | finished frame forceIdr request env hthread =>
    have hforced : forceIdr = true := by
      have hbefore := howing.forced
      rw [hthread] at hbefore
      simpa [EncoderThread.forceIdr?] using hbefore
    have hkeyed := AmfVideoEncoder.encodeRest_keyed howing.left howing.right frame env
    rw [← hforced] at hkeyed
    refine Owing.concluded ?_ ?_ ?_ _ _ _ ?_
    · exact hkeyed.1
    · exact hkeyed.2.1
    · exact howing.seen
    · intro hok
      have hanswer := hquiet frame (by rw [hok]; rfl)
      rw [hthread] at hanswer
      cases hanswer

end VideoIntake

end WivrnNx
