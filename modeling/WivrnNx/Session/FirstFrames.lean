import WivrnNx.Session.ClientFrames
import WivrnNx.Session.EyePairs

/-!
# What a session's first frames are

A client that has just been given an encoder has never seen a parameter set, so the first
frame it gets has to carry one. The encoder makes sure of that (`Owing`); what is between
it and the socket may still lose the frame.

- `firstOf`: a stream's first frame in a queue;
- `Fresh`: a forced key frame, for a request read after the session's `set_client`;
- `pump_firstOf`, `push_firstOf`: what keeps a stream's first frame where it is;
- `fresh_of_kept`: while nothing loses it, what a session hands over first is fresh;
- `late_first_frame`: a session that starts on the frame after it.
-/

namespace WivrnNx

open Ipc Video

namespace Traced

/-- The first frame of stream `i`. -/
def firstOf (i : ℕ) (ts : List Traced) : Option Traced :=
  ts.find? fun t => t.frame.streamIndex = i

@[simp] theorem firstOf_nil (i : ℕ) : firstOf i [] = none := rfl

@[simp] theorem firstOf_append (i : ℕ) (xs ys : List Traced) :
    firstOf i (xs ++ ys) = (firstOf i xs).or (firstOf i ys) :=
  List.find?_append

/-- A stream that has a first frame has it still when more come. -/
theorem firstOf_append_some {i : ℕ} {xs : List Traced} {t : Traced} (h : firstOf i xs = some t)
    (ys : List Traced) : firstOf i (xs ++ ys) = some t := by
  rw [firstOf_append, h]
  rfl

theorem firstOf_mem {i : ℕ} {ts : List Traced} {t : Traced} (h : firstOf i ts = some t) :
    t ∈ ts ∧ t.frame.streamIndex = i := by
  refine ⟨List.mem_of_find?_eq_some h, ?_⟩
  simpa using List.find?_some h

/-- What a pump hands over whole, when it does not lose the stream's first frame. -/
theorem firstOf_zip {i : ℕ} :
    ∀ (ts : List Traced) (es : List (EncodedFrame × Bool)), frames ts = es.map Prod.fst →
      (∀ t, firstOf i ts = some t → (t.frame, false) ∉ es) →
      firstOf i ((ts.zip es).filterMap fun p => if p.2.2 then some p.1 else none) =
        firstOf i ts := by
  intro ts
  induction ts with
  | nil =>
    intro es _ _
    rfl
  | cons t ts ih =>
    intro es h hkept
    cases es with
    | nil => cases h
    | cons e es =>
      have hcons : t.frame :: frames ts = e.1 :: es.map Prod.fst := h
      rw [List.cons.injEq] at hcons
      rcases e with ⟨f, whole⟩
      by_cases hstream : t.frame.streamIndex = i
      · -- The stream's first frame: it was handed over whole
        have hfirst : firstOf i (t :: ts) = some t := by simp [firstOf, hstream]
        cases whole with
        | false =>
          refine absurd ?_ (hkept t hfirst)
          rw [hcons.1]
          exact List.mem_cons_self
        | true => simp [firstOf, hstream]
      · have hlater : firstOf i (t :: ts) = firstOf i ts := by simp [firstOf, hstream]
        have hrest := ih es hcons.2 fun t' ht' hlost =>
          hkept t' (hlater.trans ht') (List.mem_cons_of_mem _ hlost)
        rw [hlater, ← hrest]
        cases whole with
        | false => simp
        | true => simp [firstOf, hstream]

/-- A trim behind the protected entries does not touch a first frame among them. -/
theorem enqueue_firstOf {V T G : Type*} {v : Video V T G} {queued taken : List Traced} {i : ℕ}
    (hprotected : v.protectedEntries ≤ queued.length)
    (hkept : (queued ++ taken).length ≤ maxVideoQueued ∨
      (firstOf i (queued.take v.protectedEntries)).isSome) :
    firstOf i (enqueue v queued taken) = firstOf i (queued ++ taken) := by
  rcases hkept with hfits | hsome
  · rw [enqueue_fits hfits]
  · rcases Option.isSome_iff_exists.mp hsome with ⟨t, ht⟩
    have hbefore : firstOf i (enqueue v queued taken) = some t := by
      rw [← List.take_append_drop v.protectedEntries (enqueue v queued taken),
        enqueue_take hprotected taken]
      exact firstOf_append_some ht _
    have hqueued : firstOf i queued = some t := by
      rw [← List.take_append_drop v.protectedEntries queued]
      exact firstOf_append_some ht _
    rw [hbefore, firstOf_append_some hqueued]

end Traced

namespace VideoPath

open Traced

variable {V T G P : Type*}

/-! ## The property and its condition -/

/-- A forced key frame, by a call whose request was read with `client` clients come. -/
structure Fresh (client : ℕ) (t : Traced) : Prop where
  idr : t.frame.idr = true
  forced : t.origin.forceIdr = true
  client : t.origin.client = client

/-- On each stream, what the session handed over first is fresh. -/
def StartsFresh (s : VideoPath V T G) : Prop :=
  ∀ i t, firstOf i s.finished = some t → Fresh s.client t

/-- A push comes from a call whose request was read since the client came; and when the
bridge overflows, each stream has handed over a frame or has one in the session's queue. -/
def PushKept (s : VideoPath V T G) (a : VideoIntake.EncoderAction) : Prop :=
  s.pushedTraced a ≠ [] → s.bridge.request.active = true → s.snapshotClient = s.client ∧
    ((s.bridged ++ s.pushedTraced a).length ≤ VideoBridge.maxQueued ∨
      ∀ i < kStreamCount, (firstOf i (s.finished ++ s.queued)).isSome)

/-- A pump finds, for each stream, that a frame was handed over already; or that there is
no trim or the first frame is under way, and that sending the first frame does not throw. -/
def PumpKept (s : VideoPath V T G) (env : PumpEnv V T) : Prop :=
  ∀ i < kStreamCount, (firstOf i s.finished).isSome ∨
    (((s.queued ++ s.bridged).length ≤ maxVideoQueued ∨
        (firstOf i (s.queued.take s.video.protectedEntries)).isSome) ∧
      ∀ t ∈ firstOf i (s.queued ++ s.bridged), ∀ k < t.frame.data.length,
        env.throws t.frame k = false)

/-- No stream's first frame is lost, and none comes from before the client. -/
def Kept (s : VideoPath V T G) (e : Event V T G) (_ : VideoPath V T G) : Prop :=
  (∀ a ∈ e.action?, s.PushKept a) ∧ ∀ env ∈ e.env?, s.PumpKept env

instance (s : VideoPath V T G) (a : VideoIntake.EncoderAction) : Decidable (s.PushKept a) :=
  inferInstanceAs (Decidable (_ → _ → _))

instance (s : VideoPath V T G) (env : PumpEnv V T) : Decidable (s.PumpKept env) :=
  inferInstanceAs (Decidable (∀ i < _, _))

instance (s : VideoPath V T G) (e : Event V T G) (s' : VideoPath V T G) :
    Decidable (Kept s e s') :=
  inferInstanceAs (Decidable (_ ∧ _))

/-! ## The invariant -/

/-- How far the encoder thread and the queues are with the session's first frames. -/
inductive Phase (s : VideoPath V T G) : Prop where
  /-- The encoder thread has not looked at the request since the client came. -/
  | behind (hnone : s.trail = []) (hsnapshot : s.snapshotClient < s.client)
      (hbehind : s.intake.Behind s.bridge.request.configGeneration)
  /-- It has, and nothing has come of it yet. -/
  | owing (hnone : s.trail = []) (hsnapshot : s.snapshotClient = s.client)
      (howing : s.intake.Owing)
  | started (hfirst : ∀ i < kStreamCount, ∃ t, firstOf i s.trail = some t ∧ Fresh s.client t)

/-- The invariant. -/
structure Starting (s : VideoPath V T G) : Prop where
  running : s.Running
  configured : s.intake.Behind (s.bridge.request.configGeneration + 1)
  snapshot : s.snapshotClient ≤ s.client
  phase : s.session ≠ .away → s.Phase

/-- What is first on its stream is what was handed over first. -/
theorem Starting.startsFresh {s : VideoPath V T G} (h : s.Starting) : s.StartsFresh := by
  intro i t ht
  have htrail : firstOf i s.trail = some t := by
    rw [trail, List.append_assoc]
    exact firstOf_append_some ht _
  have hsome : s.trail ≠ [] := by
    intro hnone
    rw [hnone] at htrail
    cases htrail
  have hpresent : s.session ≠ .away := fun haway => hsome (h.running.away haway)
  cases h.phase hpresent with
  | behind hnone => exact absurd hnone hsome
  | owing hnone => exact absurd hnone hsome
  | started hfirst =>
    rcases firstOf_mem htrail with ⟨hmem, hstream⟩
    have hlt := h.running.streams t hmem
    rw [hstream] at hlt
    rcases hfirst i hlt with ⟨t', ht', hfresh⟩
    rw [htrail] at ht'
    cases ht'
    exact hfresh

/-! ## A pump -/

/-- A pump that loses no first frame leaves every stream's where it is in line. -/
theorem pump_firstOf (w : WireFormat V T G P) {s : VideoPath V T G} (htracks : s.Tracks)
    (hwaits : ∀ t ∈ s.queued ++ s.bridged, t.frame.data ≠ []) (env : PumpEnv V T)
    (view : Foveation → EncodedFrame → V) (hkept : s.PumpKept env) {i : ℕ} (hi : i < kStreamCount) :
    firstOf i (s.pump w env view).trail = firstOf i s.trail := by
  set env' : PumpEnv V T := { env with viewInfo := view s.foveation }
  set r := pumpVideo w env' s.video s.bridge
  have hafter : (s.pump w env view).trail = s.finished ++
      (Traced.finishedBy s.waiting r.1 r.2.2 ++ Traced.queuedAfter s.waiting r.1) := by
    change (s.finished ++ _) ++ _ ++ [] = _
    rw [List.append_nil, List.append_assoc]
    rfl
  rw [hafter, trail, List.append_assoc]
  rcases hkept i hi with hsettled | ⟨htrim, hthrows⟩
  · rcases Option.isSome_iff_exists.mp hsettled with ⟨t, ht⟩
    rw [firstOf_append_some ht, firstOf_append_some ht]
  · have hwaiting : firstOf i s.waiting = firstOf i (s.queued ++ s.bridged) :=
      Traced.enqueue_firstOf htracks.protected_le htrim
    have hzip : firstOf i (Traced.finishedBy s.waiting r.1 r.2.2) =
        firstOf i (s.waiting.take (Traced.gone s.waiting r.1)) := by
      refine Traced.firstOf_zip _ _ (htracks.pumped env view).left ?_
      intro t ht hlost
      have hfirst : firstOf i (s.queued ++ s.bridged) = some t := by
        rw [← hwaiting, ← List.take_append_drop (Traced.gone s.waiting r.1) s.waiting]
        exact firstOf_append_some ht _
      rcases Traced.pumpVideo_lost w env' htracks.head s.bridge hlost with hnil | ⟨k, hk, hthrew⟩
      · exact hwaits t (firstOf_mem hfirst).1 hnil
      · have hquiet := hthrows t hfirst k hk
        have hboth : env.throws t.frame k = true := hthrew
        rw [hquiet] at hboth
        cases hboth
    rw [firstOf_append, firstOf_append, hzip, Traced.queuedAfter, ← firstOf_append,
      List.take_append_drop, hwaiting, ← firstOf_append]

/-! ## A push -/

/-- While the encoder owes a key frame, what is pushed is a forced one. -/
theorem pushed_owing {i : VideoIntake} (h : i.Owing) (a : VideoIntake.EncoderAction)
    (hpush : (pushed i a).1 ≠ []) : (pushed i a).2 = true ∧ ∀ f ∈ (pushed i a).1, f.idr = true := by
  rcases pushed_released hpush with ⟨frame, forceIdr, request, env, hthread, -, hpushed⟩
  have hforced : forceIdr = true := by
    have hbefore := h.forced
    rw [hthread] at hbefore
    simpa [EncoderThread.forceIdr?] using hbefore
  rw [hpushed, hforced]
  exact ⟨rfl, (AmfVideoEncoder.encodeRest_keyed h.left h.right frame env).2.2⟩

/-- A push of anything is some first frame of every stream. -/
theorem pushedTraced_firstOf {s : VideoPath V T G} {a : VideoIntake.EncoderAction}
    (h : s.pushedTraced a ≠ []) {i : ℕ} (hi : i < kStreamCount) :
    ∃ t, firstOf i (s.pushedTraced a) = some t := by
  rcases pushed_every_stream (fun hnone => h ((s.pushedTraced_eq_nil a).mpr hnone)) hi with
    ⟨f, hf, hstream⟩
  refine Option.isSome_iff_exists.mp ?_
  rw [firstOf, List.find?_isSome]
  exact ⟨⟨f, s.origin (pushed s.intake a).2⟩, List.mem_map_of_mem hf, by simpa using hstream⟩

/-- A push that loses no first frame leaves every stream's where it is. -/
theorem push_firstOf {s : VideoPath V T G} {a : VideoIntake.EncoderAction}
    (hactive : s.bridge.request.active = true) (hpush : s.pushedTraced a ≠ [])
    (hkept : s.PushKept a) {i : ℕ} (hi : i < kStreamCount) {t : Traced}
    (ht : firstOf i s.trail = some t) (i' : VideoIntake) :
    firstOf i (s.encoded a i').trail = some t := by
  change firstOf i (s.finished ++ s.queued ++ Traced.push s.bridge s.bridged (s.pushedTraced a)) = _
  rcases (hkept hpush hactive).2 with hfits | hsettled
  · rw [Traced.push_fits hactive hfits, ← List.append_assoc]
    exact firstOf_append_some ht _
  · rcases Option.isSome_iff_exists.mp (hsettled i hi) with ⟨t', ht'⟩
    rw [trail, firstOf_append_some ht'] at ht
    rw [firstOf_append_some ht', ht]

/-! ## One event -/

/-- Only a look at the request moves what was seen of the clients. -/
theorem snapshotAfter_cases (s : VideoPath V T G) (a : VideoIntake.EncoderAction) :
    (∃ request, a = .readRequest request ∧ s.snapshotAfter a = s.client) ∨
      (∀ request, a ≠ .readRequest request) ∧ s.snapshotAfter a = s.snapshotClient := by
  cases a with
  | readRequest request => exact .inl ⟨request, rfl, rfl⟩
  | wake | relock | readStaging | openSlot | configure | acquire | release | finish | answer =>
    exact .inr ⟨fun request => by simp, rfl⟩

/-- The first push of a session is both streams' first frame. -/
theorem first_push {s : VideoPath V T G} {a : VideoIntake.EncoderAction} (i' : VideoIntake)
    (hactive : s.bridge.request.active = true) (hnone : s.trail = [])
    (hpush : s.pushedTraced a ≠ []) {i : ℕ} (hi : i < kStreamCount) :
    ∃ t ∈ s.pushedTraced a, firstOf i (s.encoded a i').trail = some t := by
  rcases pushedTraced_firstOf hpush hi with ⟨t, ht⟩
  rcases List.append_eq_nil_iff.mp hnone with ⟨hfront, hbridged⟩
  have hlength : (s.bridged ++ s.pushedTraced a).length ≤ VideoBridge.maxQueued := by
    have hframes : (s.pushedTraced a).length = (pushed s.intake a).1.length := List.length_map _
    rw [hbridged, List.nil_append, hframes]
    rcases (pushed_frames s.intake a).2 with hnothing | hpair
    · rw [hnothing]
      decide
    · have htwo := congrArg List.length hpair
      rw [List.length_map] at htwo
      rw [htwo]
      decide
  refine ⟨t, (firstOf_mem ht).1, ?_⟩
  change firstOf i (s.finished ++ s.queued ++ Traced.push s.bridge s.bridged (s.pushedTraced a)) = _
  rw [Traced.push_fits hactive hlength, hfront, hbridged]
  exact ht

/-- A step of the encoder thread. -/
theorem encoded_starting {s : VideoPath V T G} {a : VideoIntake.EncoderAction} {i' : VideoIntake}
    (h : s.Starting) (hreads : reads s.bridge a = true) (hstep : s.intake.Stepped a i')
    (hkept : s.PushKept a) (hrunning : (s.encoded a i').Running) : (s.encoded a i').Starting := by
  have hrequest : (s.encoded a i').bridge.request = s.bridge.request :=
    VideoBridge.pushFrames_request _ _
  have hread : ∀ request, a = .readRequest request → request = s.bridge.request := by
    rintro request rfl
    simpa [reads] using hreads
  have hsnapshot := s.snapshotAfter_cases a
  refine ⟨hrunning, ?_, ?_, ?_⟩
  · rw [hrequest]
    refine VideoIntake.stepped_behind hstep h.configured ?_
    intro request hr
    rw [hread request hr]
    exact Nat.lt_succ_self _
  · change s.snapshotAfter a ≤ s.client
    rcases hsnapshot with ⟨-, -, hnow⟩ | ⟨-, hsame⟩
    · rw [hnow]
    · rw [hsame]
      exact h.snapshot
  · intro hpresent
    have hactive : s.bridge.request.active = true := h.running.active.mpr hpresent
    by_cases hpush : s.pushedTraced a = []
    · have hsame : (s.encoded a i').trail = s.trail := by
        change s.finished ++ s.queued ++ Traced.push s.bridge s.bridged (s.pushedTraced a) = _
        rw [hpush, push_nil]
        rfl
      cases h.phase hpresent with
      | behind hnone hlt hbehind =>
        rcases hsnapshot with ⟨request, rfl, hnow⟩ | ⟨hother, hsnap⟩
        · have hcurrent := hread request rfl
          refine .owing (hsame.trans hnone) hnow (VideoIntake.read_owing hstep ?_ ?_ ?_)
          · rw [hcurrent]
            exact hbehind
          · rw [hcurrent]
            exact hactive
          · rw [hcurrent]
            exact h.running.asked hactive
        · refine .behind (hsame.trans hnone) ?_ ?_
          · change s.snapshotAfter a < s.client
            rw [hsnap]
            exact hlt
          · rw [hrequest]
            exact VideoIntake.stepped_behind hstep hbehind fun request hr =>
              absurd hr (hother request)
      | owing hnone hsnap howing =>
        refine .owing (hsame.trans hnone) ?_ (VideoIntake.stepped_owing hstep howing ?_ ?_)
        · rcases hsnapshot with ⟨-, -, hnow⟩ | ⟨-, hold⟩
          · exact hnow
          · exact hold.trans hsnap
        · intro request hr
          rw [hread request hr]
          exact h.running.asked hactive
        · intro frame hanswer
          exact absurd hanswer (stepped_quiet hstep ((s.pushedTraced_eq_nil a).mp hpush) frame)
      | started hfirst =>
        refine .started ?_
        rw [hsame]
        exact hfirst
    · have hnow := (hkept hpush hactive).1
      cases h.phase hpresent with
      | behind hnone hlt =>
        rw [hnow] at hlt
        exact absurd hlt (lt_irrefl _)
      | owing hnone hsnap howing =>
        refine .started ?_
        intro i hi
        rcases first_push i' hactive hnone hpush hi with ⟨t, hmem, ht⟩
        rcases pushedTraced_mem hmem with ⟨hframe, horigin⟩
        rcases pushed_owing howing a fun hnothing =>
          hpush ((s.pushedTraced_eq_nil a).mpr hnothing) with ⟨hforced, hidr⟩
        refine ⟨t, ht, hidr t.frame hframe, ?_, ?_⟩
        · rw [horigin]
          exact hforced
        · rw [horigin]
          exact hnow
      | started hfirst =>
        refine .started ?_
        intro i hi
        rcases hfirst i hi with ⟨t, ht, hfresh⟩
        exact ⟨t, push_firstOf hactive hpush hkept hi ht i', hfresh⟩

/-- The encoder thread is where it was. -/
theorem Same.behind {s s' : VideoPath V T G} (h : Same s s') {m n : ℕ}
    (hbehind : s.intake.Behind m) (hle : m ≤ n) : s'.intake.Behind n := by
  refine (hbehind.same ?_ ?_).mono hle
  · intro hready
    rw [h.encoderReady] at hready
    exact ⟨hready, h.encoderConfigGeneration⟩
  · intro request hrequest
    rw [h.thread] at hrequest
    exact hrequest

theorem Same.owing {s s' : VideoPath V T G} (h : Same s s') (howing : s.intake.Owing) :
    s'.intake.Owing := by
  refine howing.same (by rw [h.encoder]) (by rw [h.encoder]) h.encoderReady h.idrSeen ?_ ?_ ?_
  · rw [h.thread]
    exact howing.ready
  · rw [h.thread]
    exact howing.forced
  · rw [h.thread]
    exact howing.asked

theorem Same.starting {s s' : VideoPath V T G} (hsame : Same s s') (h : s.Starting)
    (hrunning : s'.Running) : s'.Starting := by
  refine ⟨hrunning, ?_, ?_, ?_⟩
  · exact hsame.behind h.configured (Nat.succ_le_succ hsame.configGeneration)
  · rw [hsame.client, hsame.snapshotClient]
    exact h.snapshot
  · intro hpresent
    cases h.phase fun haway => hpresent (hsame.away.mpr haway) with
    | behind hnone hsnap hbehind =>
      refine .behind (hsame.trail.trans hnone) ?_ (hsame.behind hbehind hsame.configGeneration)
      rw [hsame.client, hsame.snapshotClient]
      exact hsnap
    | owing hnone hsnap howing =>
      refine .owing (hsame.trail.trans hnone) ?_ (hsame.owing howing)
      rw [hsame.client, hsame.snapshotClient]
      exact hsnap
    | started hfirst =>
      refine .started ?_
      rw [hsame.trail, hsame.client]
      exact hfirst

/-- A client that comes finds an encoder of an older configuration. -/
theorem connect_starting {s : VideoPath V T G} (h : s.Starting) (haway : s.session = .away)
    (sender : PacedSender V T G) (hz : Flt) (h265 h264 : Bool)
    (htracks : (s.connect sender hz h265 h264).Tracks) :
    (s.connect sender hz h265 h264).Starting := by
  rcases connect_running h.running haway sender hz h265 h264 htracks with
    ⟨hrunning, htrail, hgeneration⟩
  refine ⟨hrunning, ?_, ?_, ?_⟩
  · rw [hgeneration]
    exact h.configured.mono (Nat.le_succ _)
  · exact le_trans h.snapshot (Nat.le_succ _)
  · intro _
    refine .behind htrail (Nat.lt_succ_of_le h.snapshot) ?_
    rw [hgeneration]
    exact h.configured

/-- A pump that loses no first frame. -/
theorem pump_starting {w : WireFormat V T G P} {s : VideoPath V T G} (h : s.Starting)
    (hpresent : s.session ≠ .away) (env : PumpEnv V T) (view : Foveation → EncodedFrame → V)
    (hkept : s.PumpKept env) (hrunning : (s.pump w env view).Running) :
    (s.pump w env view).Starting := by
  have htrail := (pump_trail w s env view).1
  have hnone : s.trail = [] → (s.pump w env view).trail = [] := by
    intro hempty
    refine List.eq_nil_iff_forall_not_mem.mpr ?_
    intro t ht
    have hmem := htrail t ht
    rw [hempty] at hmem
    cases hmem
  refine ⟨hrunning, h.configured, h.snapshot, ?_⟩
  intro _
  cases h.phase hpresent with
  | behind hempty hsnap hbehind => exact .behind (hnone hempty) hsnap hbehind
  | owing hempty hsnap howing => exact .owing (hnone hempty) hsnap howing
  | started hfirst =>
    refine .started ?_
    intro i hi
    rcases hfirst i hi with ⟨t, ht, hfresh⟩
    exact ⟨t, (pump_firstOf w h.running.tracks h.running.waits env view hkept hi).trans ht, hfresh⟩

theorem disconnect_starting {s : VideoPath V T G} (h : s.Starting) (hpresent : s.session ≠ .away)
    (htracks : s.disconnect.Tracks) : s.disconnect.Starting := by
  rcases disconnect_running h.running hpresent htracks with ⟨hrunning, hrequest, -⟩
  refine ⟨hrunning, ?_, h.snapshot, ?_⟩
  · rw [hrequest]
    exact h.configured
  · intro hne
    exact absurd rfl hne

theorem init_starting (hasEncoder : Bool) (sender : PacedSender V T G) :
    (init hasEncoder sender).Starting := by
  refine ⟨init_running hasEncoder sender, ⟨?_, ?_⟩, le_refl _, ?_⟩
  · intro hready
    cases hready
  · intro request hrequest
    cases hrequest
  · intro hne
    exact absurd rfl hne

theorem step_starting {w : WireFormat V T G P} (s : VideoPath V T G) (e : Event V T G)
    (s' : VideoPath V T G) (h : s.Starting) (hkept : Kept s e s') (hs : step w s e = some s') :
    s'.Starting := by
  have hrunning := step_running h.running hs
  cases step_handled h.running.active hs with
  | same _ _ _ hsame => exact hsame.starting h hrunning
  | encoder a i' hreads hstep => exact encoded_starting h hreads hstep (hkept.1 a rfl) hrunning
  | pump env view hpresent => exact pump_starting h hpresent env view (hkept.2 env rfl) hrunning
  | connect sender hz h265 h264 haway =>
    exact connect_starting h haway sender hz h265 h264 hrunning.tracks
  | disconnect hpresent => exact disconnect_starting h hpresent hrunning.tracks

/-- In every run that loses no stream's first frame and pushes nothing from before the
client, each session's first frame on each stream is a forced key frame of its own. -/
theorem fresh_of_kept (w : WireFormat V T G P) (hasEncoder : Bool) (sender : PacedSender V T G)
    (es : List (Event V T G)) {s : VideoPath V T G}
    (hkept : Runs.Along (step w) Kept (init hasEncoder sender) es)
    (hrun : Runs.run (step w) (init hasEncoder sender) es = some s) : s.StartsFresh :=
  (Runs.run_invariant_along step_starting es _ s (init_starting hasEncoder sender) hkept
    hrun).startsFresh

/-! ## Frames before the session drains -/

open Pacing

/-- A pump that finds everything due. -/
def drain : Event Unit Unit Unit :=
  .pump { now := 5, viewInfo := fun _ => (), timingInfo := fun _ => () } fun _ _ => ()

/-- What an observer sees of the frames handed over: index, stream, key frame or not, and
whether its call forced one. -/
def sent (s : VideoPath Unit Unit Unit) : List (ℕ × ℕ × Bool × Bool) :=
  s.finished.map fun t => (t.frame.frameId, t.frame.streamIndex, t.frame.idr, t.origin.forceIdr)

/-- One frame, encoded and handed over. -/
def firstFrameRun : List (Event Unit Unit Unit) :=
  arriving idleSender ++ presenting 1 1 ++ configuring (ringOf 1 64 32) (requestOf 1) ++ encoding ++
    [.look, .ask, drain]

theorem fresh_of_kept_one_frame :
    ∃ s, Runs.run (step burstWire) (init true idleSender) firstFrameRun = some s ∧
      s.sent = [(1, 0, true, true), (1, 1, true, true)] ∧ s.StartsFresh := by
  have hkept : Runs.Along (step burstWire) Kept (init true idleSender) firstFrameRun := by
    decide +kernel
  have hrun : (Runs.run (step burstWire) (init true idleSender) firstFrameRun).map sent =
      some [(1, 0, true, true), (1, 1, true, true)] := by
    decide +kernel
  rcases Option.map_eq_some_iff.mp hrun with ⟨s, hs, hsent⟩
  exact ⟨s, hs, hsent, fresh_of_kept burstWire true idleSender firstFrameRun hkept hs⟩

/-- A frame for the encoder that is there. -/
def another (frameId idrs : ℕ) : List (Event V T G) :=
  presenting frameId 1 ++
    [.encoder .readStaging, .encoder (.readRequest (requestOf idrs))] ++ encoding

/-- Three frames are encoded while the session is still in its constructor. -/
def lateRun : List (Event Unit Unit Unit) :=
  [.connect idleSender (.val 90) true true, .stagingConfig (ringOf 1 64 32)] ++ presenting 1 1 ++
    configuring (ringOf 1 64 32) (requestOf 1) ++ encoding ++ another 2 1 ++ another 3 1 ++
    [.setup 1600 1760 .h265, .look, .ask, drain]

/-- The bridge has dropped the key frame: the session starts on the frame after it. -/
theorem late_first_frame :
    ∃ es s, Runs.run (step burstWire) (init true idleSender) es = some s ∧ ¬ s.StartsFresh := by
  have hrun : (Runs.run (step burstWire) (init true idleSender) lateRun).map sent =
      some [(2, 0, false, false), (2, 1, false, false), (3, 0, false, false),
        (3, 1, false, false)] := by
    decide +kernel
  rcases Option.map_eq_some_iff.mp hrun with ⟨s, hs, hsent⟩
  refine ⟨lateRun, s, hs, ?_⟩
  intro hfresh
  cases hfinished : s.finished with
  | nil =>
    rw [sent, hfinished] at hsent
    cases hsent
  | cons t ts =>
    rw [sent, hfinished, List.map_cons, List.cons.injEq, Prod.mk.injEq, Prod.mk.injEq,
      Prod.mk.injEq] at hsent
    have hfirst : firstOf 0 s.finished = some t := by
      rw [hfinished, firstOf, List.find?_cons_of_pos]
      simpa using hsent.1.2.1
    have hidr := (hfresh 0 t hfirst).idr
    rw [hsent.1.2.2.1] at hidr
    cases hidr

end VideoPath

end WivrnNx
