import WivrnNx.Session.EyePairs
import WivrnNx.Session.FirstFrames

/-!
# Lost outputs and the key frames they ask for

No reference frame but the last is kept, so an output that does not reach the sockets makes
every P frame of its stream behind it undecodable until the next key frame. Outputs are
lost in four places: with their pair in `encode`, in the bridge, in the session's queue
and to an exception. None of them tells the tracker.

- `Recovery`: the video path, and for each output when it was made and what became of it;
- `Recovers`: a later key frame was handed over or waits, or one is owed;
- `Kept`: the losses that leave a request standing or a later key frame waiting;
- `recovers_of_kept`: while there are no others, every stream recovers;
- `overflow_unanswered`: the bridge drops a frame, and nobody asks.
-/

namespace WivrnNx

open Ipc Video

/-- An output of the encoder: its stream, and the step of the encoder thread that made it. -/
structure Made where
  stream : ℕ
  number : ℕ
deriving DecidableEq, Repr

/-- A frame that waits, and the step that made it. -/
structure Dated where
  traced : Traced
  number : ℕ
deriving DecidableEq, Repr

namespace Dated

def made (d : Dated) : Made := ⟨d.traced.frame.streamIndex, d.number⟩

/-- A key frame that makes up for the loss of `o`. -/
def Covers (d : Dated) (o : Made) : Prop :=
  d.made.stream = o.stream ∧ d.traced.frame.idr = true ∧ o.number < d.number

instance (d : Dated) (o : Made) : Decidable (d.Covers o) := inferInstanceAs (Decidable (_ ∧ _))

/-- For each of `xs` there is a later key frame of its stream in `ys`. -/
def Followed (xs ys : List Dated) : Prop := ∀ d ∈ xs, ∃ d' ∈ ys, d'.Covers d.made

instance (xs ys : List Dated) : Decidable (Followed xs ys) :=
  inferInstanceAs (Decidable (∀ d ∈ xs, ∃ d' ∈ ys, d'.Covers d.made))

/-- What makes up for a key frame makes up for all that it made up for. -/
theorem Covers.trans {d d' : Dated} {o : Made} (h : d'.Covers d.made) (ho : d.Covers o) :
    d'.Covers o :=
  ⟨h.1.trans ho.1, h.2.1, lt_trans ho.2.2 h.2.2⟩

/-- The frames of a list. -/
def undated (ds : List Dated) : List Traced := ds.map traced

@[simp] theorem undated_append (xs ys : List Dated) :
    undated (xs ++ ys) = undated xs ++ undated ys := List.map_append

end Dated

/-- The video path, and what has become of the encoder's outputs in this session. -/
structure Recovery (V T G : Type*) where
  path : VideoPath V T G
  /-- How many steps the encoder thread has taken. -/
  number : ℕ := 0
  /-- What is on the bridge and in the session's queue. -/
  bridged : List Dated := []
  queued : List Dated := []
  /-- The outputs that never reached the sockets whole. -/
  lost : List Made := []
  /-- The key frames handed over whole. -/
  keys : List Made := []

namespace Recovery

open VideoPath Dated

variable {V T G P : Type*}

/-! ## What becomes of the outputs -/

/-- The streams whose output a call took from its component and then threw away. -/
def discarded (i : VideoIntake) : VideoIntake.EncoderAction → List ℕ
  | .finish env =>
    match i.thread with
    | .released frame forceIdr _ =>
      if (i.encoder.encodeRest frame forceIdr env).2.2.isSome then []
      else
        (if (AmfVideoEncoder.encodeEye i.encoder.left frame forceIdr env.left).2.2.isSome
          then [0] else []) ++
        (if (AmfVideoEncoder.encodeEye i.encoder.right frame forceIdr env.right).2.2.isSome
          then [1] else [])
    | _ => []
  | _ => []

/-- How many frames `push_frames` drops. -/
def overflow (p : VideoPath V T G) (a : VideoIntake.EncoderAction) : ℕ :=
  (p.bridged ++ p.pushedTraced a).length -
    (Traced.push p.bridge p.bridged (p.pushedTraced a)).length

/-- How many frames `pump_video` trims. -/
def trimmed (p : VideoPath V T G) : ℕ := (p.queued ++ p.bridged).length - p.waiting.length

/-- The frames that a step pushes. -/
def dated (s : Recovery V T G) (a : VideoIntake.EncoderAction) : List Dated :=
  (s.path.pushedTraced a).map fun t => ⟨t, s.number⟩

/-- What the push drops, and what it leaves on the bridge. -/
def dropped (s : Recovery V T G) (a : VideoIntake.EncoderAction) : List Dated :=
  (s.bridged ++ s.dated a).take (overflow s.path a)

def bridgedAfter (s : Recovery V T G) (a : VideoIntake.EncoderAction) : List Dated :=
  (s.bridged ++ s.dated a).drop (overflow s.path a)

/-- A step of the encoder thread, for a client. -/
def encoded (s : Recovery V T G) (a : VideoIntake.EncoderAction) (path : VideoPath V T G) :
    Recovery V T G :=
  { s with
    path := path, number := s.number + 1, bridged := s.bridgedAfter a
    lost := s.lost ++ (s.dropped a).map made ++
      (discarded s.path.intake a).map fun i => ⟨i, s.number⟩ }

/-- What the trim drops: the frames behind the protected entry. -/
def cut (s : Recovery V T G) : List Dated :=
  ((s.queued ++ s.bridged).drop s.path.video.protectedEntries).take (trimmed s.path)

/-- What waits once the trim is over. -/
def waiting (s : Recovery V T G) : List Dated :=
  let all := s.queued ++ s.bridged
  all.take s.path.video.protectedEntries ++
    all.drop (s.path.video.protectedEntries + trimmed s.path)

/-- The frames that leave the session's queue in a pump, each with whether it was handed
over whole. -/
def leaving (w : WireFormat V T G P) (s : Recovery V T G) (env : PumpEnv V T)
    (view : Foveation → EncodedFrame → V) : List (Dated × EncodedFrame × Bool) :=
  let r := pumpVideo w { env with viewInfo := view s.path.foveation } s.path.video s.path.bridge
  (s.waiting.take (Traced.gone s.path.waiting r.1)).zip (Traced.ends r.2.2)

/-- `pump_video`. -/
def pumped (w : WireFormat V T G P) (s : Recovery V T G) (env : PumpEnv V T)
    (view : Foveation → EncodedFrame → V) : Recovery V T G :=
  let path := s.path.pump w env view
  { s with
    path := path, bridged := []
    queued := s.waiting.drop (Traced.gone s.path.waiting path.video)
    lost := s.lost ++ s.cut.map made ++
      (s.leaving w env view).filterMap fun l => if l.2.2 then none else some l.1.made
    keys := s.keys ++ (s.leaving w env view).filterMap fun l =>
      if l.2.2 ∧ l.1.traced.frame.idr then some l.1.made else none }

/-- What an event makes of the account, once the path is at `path`. -/
def after (w : WireFormat V T G P) (s : Recovery V T G) (path : VideoPath V T G) :
    Event V T G → Recovery V T G
  | .encoder a =>
    if s.path.bridge.request.active then s.encoded a path
    else { s with path := path, number := s.number + 1 }
  | .pump env view => s.pumped w env view
  | .connect _ _ _ _ => { path := path, number := s.number }
  | .disconnect => { path := path, number := s.number }
  | _ => { s with path := path }

/-- One event. -/
def step (w : WireFormat V T G P) (s : Recovery V T G) (e : Event V T G) :
    Option (Recovery V T G) :=
  (s.path.step w e).map fun path => s.after w path e

/-- Before any client. -/
def init (hasEncoder : Bool) (sender : PacedSender V T G) : Recovery V T G :=
  { path := VideoPath.init hasEncoder sender }

/-! ## The property and its condition -/

/-- The encoder thread has still to serve a request for a key frame. -/
def Unread (p : VideoPath V T G) : Prop :=
  p.bridge.request.idrGeneration ≠ p.intake.idrSeen

/-- A later key frame of the stream was handed over, or waits to be. -/
def MadeUp (s : Recovery V T G) (o : Made) : Prop :=
  (∃ k ∈ s.keys, k.stream = o.stream ∧ o.number < k.number) ∨
    ∃ d ∈ s.queued ++ s.bridged, d.Covers o

/-- A lost output is made up for, or a key frame is owed: the encoder thread has not served
the last request, or the tracker holds one back. -/
def Recovers (s : Recovery V T G) (o : Made) : Prop :=
  s.MadeUp o ∨ Unread s.path ∨ s.path.video.idr.pending = true

/-- Nothing is left to be made up for. -/
def Settled (s : Recovery V T G) : Prop := ∀ o ∈ s.lost, s.MadeUp o

/-- A call that forces a key frame and brings something. -/
def Forced (i : VideoIntake) (a : VideoIntake.EncoderAction) : Prop :=
  (pushed i a).1 ≠ [] ∧ (pushed i a).2 = true

/-- The output that comes out next is a key frame, if there is one inside. -/
def NextIsKey (e : AmfStreamEncoder) : Prop := ∀ out ∈ e.inside.head?, out.idr = true

/-- The call finds no P frame ahead of its own in a component, and its push keeps what it
brings. -/
def Serves (p : VideoPath V T G) (a : VideoIntake.EncoderAction) : Prop :=
  overflow p a ≤ p.bridged.length ∧ NextIsKey p.intake.encoder.left ∧
    NextIsKey p.intake.encoder.right

/-- A step of the encoder thread that leaves nothing unanswered, unless the tracker holds a
request. A forced call brings what it was forced for, or there is nothing left to make up
for; what the push drops has a later key frame on the bridge, or a request stays unread;
what `encode` throws away is thrown away while one is unread. -/
def CallKept (s : Recovery V T G) (a : VideoIntake.EncoderAction) : Prop :=
  s.path.video.idr.pending = true ∨
    ((Forced s.path.intake a → s.Settled ∨ Serves s.path a) ∧
      ((Unread s.path ∧ ¬ Forced s.path.intake a) ∨ Followed (s.dropped a) (s.bridgedAfter a)) ∧
      (discarded s.path.intake a ≠ [] → Unread s.path))

/-- No send of the frame throws. -/
def Spared (env : PumpEnv V T) (f : EncodedFrame) : Prop :=
  ∀ k < f.data.length, env.throws f k = false

instance (env : PumpEnv V T) (f : EncodedFrame) : Decidable (Spared env f) :=
  inferInstanceAs (Decidable (∀ k < f.data.length, _))

/-- A pump that leaves nothing unanswered, unless a request is unread. Either the tracker
holds one and no older key frame is there to take it back, or there is nothing left to make
up for and what is trimmed or may be aborted has a later key frame that is neither. -/
def PumpKept (s : Recovery V T G) (env : PumpEnv V T) : Prop :=
  Unread s.path ∨
    (s.path.video.idr.pending = true ∧ ∀ d ∈ s.queued ++ s.bridged, d.traced.frame.idr = false) ∨
    (s.Settled ∧
      Followed (s.cut ++ s.waiting.filter fun d => ¬ Spared env d.traced.frame)
        (s.waiting.filter fun d => Spared env d.traced.frame))

/-- No step loses the last thing that a key frame could still come from. -/
def Kept (s : Recovery V T G) (e : Event V T G) (_ : Recovery V T G) : Prop :=
  (∀ a ∈ e.action?, s.path.bridge.request.active = true → s.CallKept a) ∧
    ∀ env ∈ e.env?, s.PumpKept env

instance (p : VideoPath V T G) : Decidable (Unread p) := inferInstanceAs (Decidable (_ ≠ _))

instance (s : Recovery V T G) (o : Made) : Decidable (s.MadeUp o) :=
  inferInstanceAs (Decidable ((∃ k ∈ s.keys, _) ∨ ∃ d ∈ s.queued ++ s.bridged, _))

instance (s : Recovery V T G) (o : Made) : Decidable (s.Recovers o) :=
  inferInstanceAs (Decidable (_ ∨ _ ∨ _))

instance (s : Recovery V T G) : Decidable s.Settled :=
  inferInstanceAs (Decidable (∀ o ∈ s.lost, s.MadeUp o))

instance (i : VideoIntake) (a : VideoIntake.EncoderAction) : Decidable (Forced i a) :=
  inferInstanceAs (Decidable (_ ∧ _))

instance (e : AmfStreamEncoder) : Decidable (NextIsKey e) :=
  inferInstanceAs (Decidable (∀ out ∈ e.inside.head?, _))

instance (p : VideoPath V T G) (a : VideoIntake.EncoderAction) : Decidable (Serves p a) :=
  inferInstanceAs (Decidable (_ ∧ _ ∧ _))

instance (s : Recovery V T G) (a : VideoIntake.EncoderAction) : Decidable (s.CallKept a) :=
  inferInstanceAs (Decidable (_ ∨ _))

instance (s : Recovery V T G) (env : PumpEnv V T) : Decidable (s.PumpKept env) :=
  inferInstanceAs (Decidable (_ ∨ _ ∨ _))

instance (s : Recovery V T G) (e : Event V T G) (s' : Recovery V T G) :
    Decidable (Kept s e s') :=
  inferInstanceAs (Decidable (_ ∧ _))

/-! ## The account follows the queues -/

theorem undated_length (ds : List Dated) : (undated ds).length = ds.length := List.length_map _

theorem undated_dated (s : Recovery V T G) (a : VideoIntake.EncoderAction) :
    undated (s.dated a) = s.path.pushedTraced a := by
  simp [undated, dated, Function.comp_def]

/-- With a client, a push drops what is in front. -/
theorem push_eq_drop {p : VideoPath V T G} (hactive : p.bridge.request.active = true)
    (a : VideoIntake.EncoderAction) : Traced.push p.bridge p.bridged (p.pushedTraced a) =
      (p.bridged ++ p.pushedTraced a).drop (overflow p a) := by
  refine List.suffix_iff_eq_drop.mp ?_
  unfold Traced.push
  split
  · rename_i hnone
    rcases hnone with hnone | hinactive
    · rw [hnone, List.append_nil]
    · exact absurd hactive hinactive
  · have hsuffix : DropGroups.trimAt Traced.frameId 0 VideoBridge.maxQueued
        (p.bridged ++ p.pushedTraced a) <:+ p.bridged ++ p.pushedTraced a :=
      DropGroups.trimAt_drop_suffix Traced.frameId (Nat.zero_le _)
    exact hsuffix

/-- The trim drops what is behind the protected entry. -/
theorem waiting_eq {p : VideoPath V T G} (h : p.Tracks) : p.waiting =
    (p.queued ++ p.bridged).take p.video.protectedEntries ++
      (p.queued ++ p.bridged).drop (p.video.protectedEntries + trimmed p) := by
  have hprotected := h.protected_le
  have htake := Traced.enqueue_take hprotected p.bridged
  have hdrop := Traced.enqueue_drop hprotected p.bridged
  rw [← List.drop_append_of_le_length hprotected] at hdrop
  have hfront : p.waiting.take p.video.protectedEntries =
      (p.queued ++ p.bridged).take p.video.protectedEntries := by
    rw [List.take_append_of_le_length hprotected]
    exact htake
  have hlong : p.video.protectedEntries ≤ p.waiting.length := by
    have hlength := congrArg List.length hfront
    rw [List.length_take, List.length_take, List.length_append] at hlength
    omega
  have hshort : p.waiting.length ≤ (p.queued ++ p.bridged).length :=
    (Traced.enqueue_sublist p.video p.queued p.bridged).length_le
  have hback : p.waiting.drop p.video.protectedEntries =
      (p.queued ++ p.bridged).drop (p.video.protectedEntries + trimmed p) := by
    refine (List.suffix_iff_eq_drop.mp hdrop).trans ?_
    rw [List.drop_drop]
    congr 1
    change _ + (_ - (p.waiting.drop _).length) = _
    rw [List.length_drop, List.length_drop, trimmed]
    omega
  rw [← hfront, ← hback, List.take_append_drop]

/-- The invariant of the account, whatever is lost. -/
structure Accounted (s : Recovery V T G) : Prop where
  running : s.path.Running
  bridged : undated s.bridged = s.path.bridged
  queued : undated s.queued = s.path.queued
  dates : ∀ d ∈ s.queued ++ s.bridged, d.number < s.number
  losses : ∀ o ∈ s.lost, o.stream < kStreamCount ∧ o.number < s.number
  away : s.path.session = .away → s.lost = []

theorem Accounted.waiting {s : Recovery V T G} (h : s.Accounted) :
    undated s.waiting = s.path.waiting := by
  rw [waiting_eq h.running.tracks, ← h.queued, ← h.bridged]
  simp [Recovery.waiting, undated]

/-- A frame that waits belongs to one of the two streams. -/
theorem Accounted.stream {s : Recovery V T G} (h : s.Accounted) {d : Dated}
    (hd : d ∈ s.queued ++ s.bridged) : d.made.stream < kStreamCount ∧ d.made.number < s.number := by
  refine ⟨?_, h.dates d hd⟩
  refine h.running.streams d.traced ?_
  rw [trail, List.append_assoc, ← h.queued, ← h.bridged, ← undated_append]
  exact List.mem_append_right _ (List.mem_map_of_mem hd)

theorem waiting_mem {s : Recovery V T G} {d : Dated} (h : d ∈ s.waiting) :
    d ∈ s.queued ++ s.bridged := by
  rcases List.mem_append.mp h with hfront | hback
  · exact List.mem_of_mem_take hfront
  · exact List.mem_of_mem_drop hback

theorem discarded_stream (i : VideoIntake) (a : VideoIntake.EncoderAction) :
    ∀ k ∈ discarded i a, k < kStreamCount := by
  intro k hk
  unfold discarded at hk
  split at hk
  · split at hk
    · split at hk
      · cases hk
      · rcases List.mem_append.mp hk with hleft | hright
        · split at hleft
          · rw [List.mem_singleton.mp hleft]
            decide
          · cases hleft
        · split at hright
          · rw [List.mem_singleton.mp hright]
            decide
          · cases hright
    · cases hk
  · cases hk

/-- A frame just pushed is of one of the two streams, and of this step. -/
theorem dated_mem {s : Recovery V T G} {a : VideoIntake.EncoderAction} {d : Dated}
    (hd : d ∈ s.dated a) : d.number = s.number ∧ d.traced ∈ s.path.pushedTraced a ∧
      d.made.stream < kStreamCount := by
  rcases List.mem_map.mp hd with ⟨t, ht, rfl⟩
  exact ⟨rfl, ht, pushed_stream (pushedTraced_mem ht).1⟩

/-- A step of the encoder thread, for a client. -/
theorem encoded_accounted {s : Recovery V T G} (h : s.Accounted)
    (hactive : s.path.bridge.request.active = true) (a : VideoIntake.EncoderAction)
    (i' : VideoIntake) (hrunning : (s.path.encoded a i').Running) :
    (s.encoded a (s.path.encoded a i')).Accounted := by
  have hall : ∀ d ∈ s.bridged ++ s.dated a,
      d.made.stream < kStreamCount ∧ d.number < s.number + 1 := by
    intro d hd
    rcases List.mem_append.mp hd with hold | hnew
    · rcases h.stream (List.mem_append_right _ hold) with ⟨hstream, hlt⟩
      exact ⟨hstream, Nat.lt_succ_of_lt hlt⟩
    · rcases dated_mem hnew with ⟨hnumber, -, hstream⟩
      rw [hnumber]
      exact ⟨hstream, Nat.lt_succ_self _⟩
  refine ⟨hrunning, ?_, h.queued, ?_, ?_, ?_⟩
  · change undated (s.bridgedAfter a) =
      Traced.push s.path.bridge s.path.bridged (s.path.pushedTraced a)
    rw [push_eq_drop hactive, bridgedAfter, undated, List.map_drop]
    change ((undated (s.bridged ++ s.dated a)).drop _) = _
    rw [undated_append, h.bridged, undated_dated]
  · intro d hd
    rcases List.mem_append.mp hd with hq | hb
    · exact Nat.lt_succ_of_lt (h.dates d (List.mem_append_left _ hq))
    · exact (hall d (List.mem_of_mem_drop hb)).2
  · intro o ho
    rcases List.mem_append.mp ho with hfront | hdiscarded
    · rcases List.mem_append.mp hfront with hold | hdropped
      · rcases h.losses o hold with ⟨hstream, hlt⟩
        exact ⟨hstream, Nat.lt_succ_of_lt hlt⟩
      · rcases List.mem_map.mp hdropped with ⟨d, hd, rfl⟩
        exact hall d (List.mem_of_mem_take hd)
    · rcases List.mem_map.mp hdiscarded with ⟨k, hk, rfl⟩
      exact ⟨discarded_stream _ _ k hk, Nat.lt_succ_self _⟩
  · intro haway
    exact absurd haway (h.running.active.mp hactive)

/-- What left the session's queue was waiting. -/
theorem leaving_mem {w : WireFormat V T G P} {s : Recovery V T G} {env : PumpEnv V T}
    {view : Foveation → EncodedFrame → V} {l : Dated × EncodedFrame × Bool}
    (hl : l ∈ s.leaving w env view) : l.1 ∈ s.waiting :=
  List.mem_of_mem_take (List.of_mem_zip hl).1

/-- A pump. -/
theorem pumped_accounted {w : WireFormat V T G P} {s : Recovery V T G} (h : s.Accounted)
    (env : PumpEnv V T) (view : Foveation → EncodedFrame → V)
    (hrunning : (s.path.pump w env view).Running) : (s.pumped w env view).Accounted := by
  refine ⟨hrunning, rfl, ?_, ?_, ?_, ?_⟩
  · change undated (s.waiting.drop _) = Traced.queuedAfter s.path.waiting _
    rw [undated, List.map_drop]
    change (undated s.waiting).drop _ = _
    rw [h.waiting]
    rfl
  · intro d hd
    have hempty : (s.pumped w env view).bridged = [] := rfl
    rw [hempty, List.append_nil] at hd
    exact h.dates d (waiting_mem (List.mem_of_mem_drop hd))
  · intro o ho
    rcases List.mem_append.mp ho with hfront | haborted
    · rcases List.mem_append.mp hfront with hold | htrimmed
      · exact h.losses o hold
      · rcases List.mem_map.mp htrimmed with ⟨d, hd, rfl⟩
        exact h.stream (List.mem_of_mem_drop (List.mem_of_mem_take hd))
    · rcases List.mem_filterMap.mp haborted with ⟨l, hl, hsome⟩
      split at hsome
      · cases hsome
      · cases hsome
        exact h.stream (waiting_mem (leaving_mem hl))
  · intro haway
    cases haway

/-- A client that comes or goes leaves nothing of the session before. -/
theorem empty_accounted {p : VideoPath V T G} (hrunning : p.Running) (hbridged : p.bridged = [])
    (hqueued : p.queued = []) (n : ℕ) : ({ path := p, number := n } : Recovery V T G).Accounted := by
  refine ⟨hrunning, hbridged.symm, hqueued.symm, ?_, ?_, fun _ => rfl⟩
  · intro d hd
    cases hd
  · intro o ho
    cases ho

theorem init_accounted (hasEncoder : Bool) (sender : PacedSender V T G) :
    (init hasEncoder sender).Accounted :=
  empty_accounted (init_running hasEncoder sender) rfl rfl 0

/-- The account is kept in every run, whatever is lost. -/
theorem step_accounted {w : WireFormat V T G P} {s s' : Recovery V T G} {e : Event V T G}
    (h : s.Accounted) (hs : step w s e = some s') : s'.Accounted := by
  rcases Option.map_eq_some_iff.mp hs with ⟨path, hpath, rfl⟩
  have hrunning := step_running h.running hpath
  cases step_handled h.running.active hpath with
  | same _ _ he hsame =>
    have hafter : s.after w path e = { s with path := path } := by
      cases e <;> first | rfl | cases he
    rw [hafter]
    refine ⟨hrunning, h.bridged.trans hsame.bridged.symm, h.queued.trans hsame.queued.symm, h.dates,
      h.losses, ?_⟩
    intro haway
    exact h.away (hsame.away.mp haway)
  | encoder a i' =>
    change (if s.path.bridge.request.active = true then _ else _ : Recovery V T G).Accounted
    split
    · rename_i hactive
      exact encoded_accounted h hactive a i' hrunning
    · rename_i hinactive
      have hkept : (s.path.encoded a i').bridged = s.path.bridged := if_pos (.inr hinactive)
      refine ⟨hrunning, h.bridged.trans hkept.symm, h.queued, ?_, ?_, h.away⟩
      · intro d hd
        exact Nat.lt_succ_of_lt (h.dates d hd)
      · intro o ho
        exact ⟨(h.losses o ho).1, Nat.lt_succ_of_lt (h.losses o ho).2⟩
  | pump env view hpresent => exact pumped_accounted h env view hrunning
  | connect sender hz h265 h264 haway =>
    have htrail := (connect_running h.running haway sender hz h265 h264 hrunning.tracks).2.1
    exact empty_accounted hrunning (List.append_eq_nil_iff.mp htrail).2 rfl _
  | disconnect hpresent =>
    exact empty_accounted hrunning
      (disconnect_running h.running hpresent hrunning.tracks).2.2 rfl _

/-! ## What a step leaves of the debt -/

/-- The invariant. -/
structure Recovering (s : Recovery V T G) : Prop where
  accounted : s.Accounted
  served : s.path.intake.Served s.path.bridge.request.idrGeneration
  shaking : s.path.session = .shaking → s.path.video.idr.pending = false
  recovers : ∀ o ∈ s.lost, s.Recovers o

/-- A forced call whose components hold no older P frame hands out key frames. -/
theorem encodeEye_key {e : AmfStreamEncoder} (h : NextIsKey e) {frame : FrameReady} {env : EyeEnv}
    {out : AmfOutput} (hout : (AmfVideoEncoder.encodeEye e frame true env).2.2 = some out) :
    out.idr = true := by
  have hhead := AmfVideoEncoder.encodeEye_some hout
  cases hinside : e.inside with
  | nil =>
    rw [hinside, List.nil_append, List.cons.injEq] at hhead
    rw [← hhead.1]
    rfl
  | cons first rest =>
    rw [hinside, List.cons_append, List.cons.injEq] at hhead
    rw [← hhead.1]
    refine h first ?_
    rw [hinside]
    rfl

/-- What such a call pushes is key frames. -/
theorem forced_push {i : VideoIntake} {a : VideoIntake.EncoderAction} (hforced : Forced i a)
    (hleft : NextIsKey i.encoder.left) (hright : NextIsKey i.encoder.right) :
    ∀ f ∈ (pushed i a).1, f.idr = true := by
  rcases hforced with ⟨hpush, hforced⟩
  rcases pushed_released hpush with ⟨frame, forceIdr, request, env, hthread, rfl, hpushed⟩
  rw [hpushed] at hforced ⊢
  have hforce : forceIdr = true := hforced
  rw [hforce]
  intro f hf
  rcases (AmfVideoEncoder.finish_cases i.encoder
    (AmfVideoEncoder.encodeEye i.encoder.left frame true env.left)
    (AmfVideoEncoder.encodeEye i.encoder.right frame true env.right)).2.2 with
    ⟨outL, outR, hL, hR, hok⟩ | ⟨-, hnone⟩
  · unfold AmfVideoEncoder.encodeRest at hf
    rw [hok] at hf
    rcases List.mem_pair.mp hf with rfl | rfl
    · exact encodeEye_key hleft hL
    · exact encodeEye_key hright hR
  · unfold AmfVideoEncoder.encodeRest at hf
    rw [hnone] at hf
    cases hf

/-- A call that pushes throws nothing away. -/
theorem discarded_of_pushed {i : VideoIntake} {a : VideoIntake.EncoderAction}
    (h : (pushed i a).1 ≠ []) : discarded i a = [] := by
  rcases pushed_released h with ⟨frame, forceIdr, request, env, hthread, rfl, hpushed⟩
  rw [hpushed] at h
  simp only [discarded, hthread]
  cases hout : (i.encoder.encodeRest frame forceIdr env).2.2 with
  | some outs => rfl
  | none =>
    rw [hout] at h
    exact absurd rfl h

/-- A request that is unread stays so, but for the push of a forced call. -/
theorem unread_kept {p : VideoPath V T G} {a : VideoIntake.EncoderAction} {i' : VideoIntake}
    (hstep : p.intake.Stepped a i') (hasked : p.bridge.request.idrGeneration ≠ 0)
    (hpush : ¬ Forced p.intake a) (h : Unread p) : Unread (p.encoded a i') := by
  have hrequest : (p.encoded a i').bridge.request = p.bridge.request :=
    VideoBridge.pushFrames_request _ _
  have hseen : (p.encoded a i').intake.idrSeen = i'.idrSeen := rfl
  rw [Unread, hrequest, hseen]
  rcases stepped_seen hstep with hsame | hzero | hforced
  · rw [hsame]
    exact h
  · rw [hzero]
    exact hasked
  · exact absurd hforced hpush

/-- What was made up for still is, if what the push drops is followed. -/
theorem MadeUp.encoded {s : Recovery V T G} {o : Made} (h : s.MadeUp o)
    {a : VideoIntake.EncoderAction} (path : VideoPath V T G)
    (hfollowed : Followed (s.dropped a) (s.bridgedAfter a)) : (s.encoded a path).MadeUp o := by
  rcases h with hkey | ⟨d, hd, hcovers⟩
  · exact .inl hkey
  · rcases List.mem_append.mp hd with hq | hb
    · exact .inr ⟨d, List.mem_append_left _ hq, hcovers⟩
    · have hall : d ∈ s.dropped a ++ s.bridgedAfter a := by
        rw [dropped, bridgedAfter, List.take_append_drop]
        exact List.mem_append_left _ hb
      rcases List.mem_append.mp hall with hgone | hstays
      · rcases hfollowed d hgone with ⟨d', hd', hafter⟩
        exact .inr ⟨d', List.mem_append_right _ hd', hafter.trans hcovers⟩
      · exact .inr ⟨d, List.mem_append_right _ hstays, hcovers⟩

/-- The push of a forced call that serves: a key frame of every stream, behind all that was
lost before. -/
theorem serves_madeUp {s : Recovery V T G} {a : VideoIntake.EncoderAction}
    (path : VideoPath V T G) (hforced : Forced s.path.intake a) (hserves : Serves s.path a)
    (hbridged : undated s.bridged = s.path.bridged) {o : Made} (hstream : o.stream < kStreamCount)
    (hnumber : o.number < s.number) : (s.encoded a path).MadeUp o := by
  rcases hserves with ⟨hroom, hleft, hright⟩
  rcases pushed_every_stream hforced.1 hstream with ⟨f, hf, hsame⟩
  have hroom' : overflow s.path a ≤ s.bridged.length := by
    rw [← undated_length, hbridged]
    exact hroom
  refine .inr ⟨⟨⟨f, s.path.origin (pushed s.path.intake a).2⟩, s.number⟩, ?_, hsame,
    forced_push hforced hleft hright f hf, hnumber⟩
  refine List.mem_append_right _ ?_
  change _ ∈ (s.bridged ++ s.dated a).drop (overflow s.path a)
  rw [List.drop_append_of_le_length hroom']
  exact List.mem_append_right _ (List.mem_map_of_mem (List.mem_map_of_mem hf))

/-- A step of the encoder thread. -/
theorem encoded_recovers {s : Recovery V T G} (h : s.Recovering)
    (hactive : s.path.bridge.request.active = true) {a : VideoIntake.EncoderAction}
    {i' : VideoIntake} (hstep : s.path.intake.Stepped a i') (hkept : s.CallKept a) :
    ∀ o ∈ (s.encoded a (s.path.encoded a i')).lost,
      (s.encoded a (s.path.encoded a i')).Recovers o := by
  intro o ho
  rcases hkept with hheld | ⟨hserves, hdropped, hdiscarded⟩
  · -- The encoder thread leaves the tracker alone
    exact .inr (.inr hheld)
  by_cases hpending : s.path.video.idr.pending = true
  · exact .inr (.inr hpending)
  by_cases hforced : Forced s.path.intake a
  · -- The request is read: all that is lost has to be made up for
    have hfollowed := hdropped.resolve_left fun hquiet => hquiet.2 hforced
    refine .inl ?_
    rcases List.mem_append.mp ho with hfront | hthrown
    · rcases List.mem_append.mp hfront with hold | hgone
      · rcases hserves hforced with hsettled | hserves
        · exact (hsettled o hold).encoded _ hfollowed
        · rcases h.accounted.losses o hold with ⟨hstream, hnumber⟩
          exact serves_madeUp _ hforced hserves h.accounted.bridged hstream hnumber
      · rcases List.mem_map.mp hgone with ⟨d, hd, rfl⟩
        rcases hfollowed d hd with ⟨d', hd', hcovers⟩
        exact .inr ⟨d', List.mem_append_right _ hd', hcovers⟩
    · rw [discarded_of_pushed hforced.1] at hthrown
      cases hthrown
  · have hafter := unread_kept hstep (h.accounted.running.asked hactive) hforced
    by_cases hunread : Unread s.path
    · exact .inr (.inl (hafter hunread))
    · -- Nothing is owed: what is lost now is followed
      have hfollowed := hdropped.resolve_left fun hquiet => hunread hquiet.1
      refine .inl ?_
      rcases List.mem_append.mp ho with hfront | hthrown
      · rcases List.mem_append.mp hfront with hold | hgone
        · rcases h.recovers o hold with hmade | howed | howed
          · exact hmade.encoded _ hfollowed
          · exact absurd howed hunread
          · exact absurd howed hpending
        · rcases List.mem_map.mp hgone with ⟨d, hd, rfl⟩
          rcases hfollowed d hd with ⟨d', hd', hcovers⟩
          exact .inr ⟨d', List.mem_append_right _ hd', hcovers⟩
      · have hnothing : discarded s.path.intake a = [] := by
          by_contra hsome
          exact hunread (hdiscarded hsome)
        rw [hnothing] at hthrown
        cases hthrown

/-! ## What a pump leaves of the debt -/

/-- Two lists with the same images, side by side. -/
theorem zip_agrees {α β γ : Type*} {f : α → γ} {g : β → γ} {xs : List α} {ys : List β}
    (h : xs.map f = ys.map g) :
    (∀ l ∈ xs.zip ys, f l.1 = g l.2) ∧ ∀ x ∈ xs, ∃ y, (x, y) ∈ xs.zip ys := by
  have hlength : xs.length = ys.length := by simpa using congrArg List.length h
  have hfst := List.map_fst_zip hlength.le
  have hsnd := List.map_snd_zip hlength.ge
  refine ⟨?_, ?_⟩
  · refine List.map_inj_left.mp ?_
    calc (xs.zip ys).map (fun l => f l.1)
        = ((xs.zip ys).map Prod.fst).map f := by rw [List.map_map]; rfl
      _ = xs.map f := by rw [hfst]
      _ = ys.map g := h
      _ = ((xs.zip ys).map Prod.snd).map g := by rw [hsnd]
      _ = (xs.zip ys).map (fun l => g l.2) := by rw [List.map_map]; rfl
  · intro x hx
    rw [← hfst] at hx
    rcases List.mem_map.mp hx with ⟨⟨x', y⟩, hl, rfl⟩
    exact ⟨y, hl⟩

/-- The frames that leave the queue are those that the pump came to an end with. -/
theorem Accounted.left {s : Recovery V T G} (h : s.Accounted) (w : WireFormat V T G P)
    (env : PumpEnv V T) (view : Foveation → EncodedFrame → V) :
    (s.waiting.take (Traced.gone s.path.waiting (s.path.pump w env view).video)).map
        (fun d => d.traced.frame) =
      (Traced.ends (pumpVideo w { env with viewInfo := view s.path.foveation } s.path.video
        s.path.bridge).2.2).map Prod.fst := by
  have hleft := (h.running.tracks.pumped (w := w) env view).left
  calc _ = Traced.frames ((undated s.waiting).take
          (Traced.gone s.path.waiting (s.path.pump w env view).video)) := by
        rw [undated, ← List.map_take, Traced.frames, List.map_map]
        rfl
    _ = _ := by
        rw [h.waiting]
        exact hleft

/-- A frame whose sending does not throw is handed over whole. -/
theorem leaving_whole {w : WireFormat V T G P} {s : Recovery V T G} (h : s.Accounted)
    {env : PumpEnv V T} {view : Foveation → EncodedFrame → V} {l : Dated × EncodedFrame × Bool}
    (hl : l ∈ s.leaving w env view) (hspared : Spared env l.1.traced.frame) : l.2.2 = true := by
  rcases l with ⟨d, f, whole⟩
  cases whole with
  | true => rfl
  | false =>
    have hsame : d.traced.frame = f := (zip_agrees (h.left w env view)).1 _ hl
    have hwaits : d.traced ∈ s.path.queued ++ s.path.bridged := by
      rw [← h.queued, ← h.bridged, ← undated_append]
      exact List.mem_map_of_mem (waiting_mem (leaving_mem hl))
    rcases Traced.pumpVideo_lost w _ h.running.tracks.head s.path.bridge (List.of_mem_zip hl).2 with
      hnil | ⟨k, hk, hthrew⟩
    · rw [← hsame] at hnil
      exact absurd hnil (h.running.waits d.traced hwaits)
    · rw [← hsame] at hk hthrew
      have hquiet := hspared k hk
      have hboth : env.throws d.traced.frame k = true := hthrew
      rw [hquiet] at hboth
      cases hboth

/-- A key frame that waits, and that no exception hits, is handed over or still waits. -/
theorem spared_madeUp {w : WireFormat V T G P} {s : Recovery V T G} (h : s.Accounted)
    {env : PumpEnv V T} {view : Foveation → EncodedFrame → V} {d : Dated} {o : Made}
    (hd : d ∈ s.waiting.filter fun d => Spared env d.traced.frame) (hcovers : d.Covers o) :
    (s.pumped w env view).MadeUp o := by
  rcases List.mem_filter.mp hd with ⟨hwaits, hspared⟩
  rw [decide_eq_true_eq] at hspared
  rw [← List.take_append_drop (Traced.gone s.path.waiting (s.path.pump w env view).video)
    s.waiting] at hwaits
  rcases List.mem_append.mp hwaits with hgone | hstays
  · rcases (zip_agrees (h.left w env view)).2 d hgone with ⟨l, hl⟩
    refine .inl ⟨d.made, List.mem_append_right _ ?_, hcovers.1, hcovers.2.2⟩
    refine List.mem_filterMap.mpr ⟨(d, l), hl, ?_⟩
    exact if_pos ⟨leaving_whole h hl hspared, hcovers.2.1⟩
  · exact .inr ⟨d, List.mem_append_left _ hstays, hcovers⟩

/-- What waited is cut by the trim, or waits on. -/
theorem cut_or_waiting {s : Recovery V T G} {d : Dated} (hd : d ∈ s.queued ++ s.bridged) :
    d ∈ s.cut ∨ d ∈ s.waiting := by
  rw [← List.take_append_drop s.path.video.protectedEntries (s.queued ++ s.bridged)] at hd
  rcases List.mem_append.mp hd with hhead | htail
  · exact .inr (List.mem_append_left _ hhead)
  · rw [← List.take_append_drop (trimmed s.path) (List.drop _ _)] at htail
    rcases List.mem_append.mp htail with hcut | hrest
    · exact .inl hcut
    · rw [List.drop_drop] at hrest
      exact .inr (List.mem_append_right _ hrest)

/-- What was made up for still is, if what is trimmed or may be aborted is followed. -/
theorem MadeUp.pumped {w : WireFormat V T G P} {s : Recovery V T G} (h : s.Accounted) {o : Made}
    (hmade : s.MadeUp o) {env : PumpEnv V T} {view : Foveation → EncodedFrame → V}
    (hfollowed : Followed (s.cut ++ s.waiting.filter fun d => ¬ Spared env d.traced.frame)
      (s.waiting.filter fun d => Spared env d.traced.frame)) :
    (s.pumped w env view).MadeUp o := by
  rcases hmade with ⟨k, hk, hk'⟩ | ⟨d, hd, hcovers⟩
  · exact .inl ⟨k, List.mem_append_left _ hk, hk'⟩
  · rcases cut_or_waiting hd with hcut | hwaits
    · rcases hfollowed d (List.mem_append_left _ hcut) with ⟨d', hd', hafter⟩
      exact spared_madeUp h hd' (hafter.trans hcovers)
    · by_cases hspared : Spared env d.traced.frame
      · exact spared_madeUp h (List.mem_filter.mpr ⟨hwaits, decide_eq_true hspared⟩) hcovers
      · have hrisked : d ∈ s.waiting.filter fun d => ¬ Spared env d.traced.frame :=
          List.mem_filter.mpr ⟨hwaits, decide_eq_true hspared⟩
        rcases hfollowed d (List.mem_append_right _ hrisked) with ⟨d', hd', hafter⟩
        exact spared_madeUp h hd' (hafter.trans hcovers)

/-- A pump. -/
theorem pumped_recovers {w : WireFormat V T G P} {s : Recovery V T G} (h : s.Accounted)
    {env : PumpEnv V T} (view : Foveation → EncodedFrame → V) (hkept : s.PumpKept env) :
    ∀ o ∈ (s.pumped w env view).lost, (s.pumped w env view).Recovers o := by
  intro o ho
  rcases hkept with hunread | ⟨hheld, hnone⟩ | ⟨hsettled, hfollowed⟩
  · -- A pump leaves the request and the encoder thread alone
    exact .inr (.inl hunread)
  · -- Nothing that is handed over takes the tracker's request back
    refine .inr (.inr (Traced.pumpVideo_pending w _ s.path.bridge ?_ hheld))
    intro f hf
    rw [← h.running.tracks.waiting, ← h.waiting] at hf
    rcases List.mem_map.mp hf with ⟨t, ht, rfl⟩
    rcases List.mem_map.mp ht with ⟨d, hd, rfl⟩
    exact hnone d (waiting_mem hd)
  · refine .inl ?_
    rcases List.mem_append.mp ho with hfront | haborted
    · rcases List.mem_append.mp hfront with hold | hcut
      · exact (hsettled o hold).pumped h hfollowed
      · rcases List.mem_map.mp hcut with ⟨d, hd, rfl⟩
        rcases hfollowed d (List.mem_append_left _ hd) with ⟨d', hd', hcovers⟩
        exact spared_madeUp h hd' hcovers
    · rcases List.mem_filterMap.mp haborted with ⟨l, hl, hsome⟩
      split at hsome
      · cases hsome
      · rename_i hpart
        cases hsome
        have hthrows : ¬ Spared env l.1.traced.frame := fun hspared =>
          hpart (leaving_whole h hl hspared)
        have hrisked : l.1 ∈ s.waiting.filter fun d => ¬ Spared env d.traced.frame :=
          List.mem_filter.mpr ⟨leaving_mem hl, decide_eq_true hthrows⟩
        rcases hfollowed l.1 (List.mem_append_right _ hrisked) with ⟨d', hd', hcovers⟩
        exact spared_madeUp h hd' hcovers

/-! ## Every run -/

/-- An event that moves no frame. -/
theorem same_recovering {s : Recovery V T G} (h : s.Recovering) {path : VideoPath V T G}
    (hsame : Same s.path path) (haccounted : ({ s with path := path } : Recovery V T G).Accounted) :
    ({ s with path := path } : Recovery V T G).Recovering := by
  refine ⟨haccounted, h.served.mono hsame.idrGeneration hsame.idrSeen hsame.thread, ?_, ?_⟩
  · intro hshaking
    rcases hsame.shaking hshaking with ⟨hbefore, hidr⟩
    rw [hidr]
    exact h.shaking hbefore
  · intro o ho
    rcases h.recovers o ho with hmade | hunread | hheld
    · exact .inl hmade
    · refine .inr (.inl ?_)
      have hseen := h.served.seen
      have hgrows := hsame.idrGeneration
      change path.bridge.request.idrGeneration ≠ path.intake.idrSeen
      rw [hsame.idrSeen]
      rw [Unread] at hunread
      omega
    · -- A held request is made, or still held
      have hpresent : s.path.session ≠ .shaking := by
        intro hshaking
        rw [h.shaking hshaking] at hheld
        cases hheld
      rcases hsame.held hpresent hheld with hstill | hmade
      · exact .inr (.inr hstill)
      · refine .inr (.inl ?_)
        have hseen := h.served.seen
        change path.bridge.request.idrGeneration ≠ path.intake.idrSeen
        rw [hsame.idrSeen]
        omega

theorem init_recovering (hasEncoder : Bool) (sender : PacedSender V T G) :
    (init hasEncoder sender).Recovering := by
  refine ⟨init_accounted hasEncoder sender, ⟨le_refl _, ?_⟩, fun _ => rfl, ?_⟩
  · intro request hrequest
    cases hrequest
  · intro o ho
    cases ho

/-- A client that comes or goes starts the account over. -/
theorem empty_recovering {p : VideoPath V T G} {n : ℕ}
    (haccounted : ({ path := p, number := n } : Recovery V T G).Accounted)
    (hserved : p.intake.Served p.bridge.request.idrGeneration)
    (hshaking : p.session = .shaking → p.video.idr.pending = false) :
    ({ path := p, number := n } : Recovery V T G).Recovering := by
  refine ⟨haccounted, hserved, hshaking, ?_⟩
  intro o ho
  cases ho

theorem step_recovering {w : WireFormat V T G P} (s : Recovery V T G) (e : Event V T G)
    (s' : Recovery V T G) (h : s.Recovering) (hkept : Kept s e s') (hs : step w s e = some s') :
    s'.Recovering := by
  have haccounted := step_accounted h.accounted hs
  rcases Option.map_eq_some_iff.mp hs with ⟨path, hpath, rfl⟩
  cases step_handled h.accounted.running.active hpath with
  | same _ _ he hsame =>
    have hafter : s.after w path e = { s with path := path } := by
      cases e <;> first | rfl | cases he
    rw [hafter] at haccounted ⊢
    exact same_recovering h hsame haccounted
  | encoder a i' hreads hstep =>
    have hserved : i'.Served (s.path.encoded a i').bridge.request.idrGeneration := by
      have hrequest : (s.path.encoded a i').bridge.request = s.path.bridge.request :=
        VideoBridge.pushFrames_request _ _
      rw [hrequest]
      refine VideoIntake.stepped_served hstep h.served ?_
      rintro request rfl
      have hread : request = s.path.bridge.request := by simpa [reads] using hreads
      rw [hread]
    change (if s.path.bridge.request.active = true then _ else _ : Recovery V T G).Accounted
      at haccounted
    change (if s.path.bridge.request.active = true then _ else _ : Recovery V T G).Recovering
    split
    · rename_i hactive
      rw [if_pos hactive] at haccounted
      exact ⟨haccounted, hserved, h.shaking,
        encoded_recovers h hactive hstep (hkept.1 a rfl hactive)⟩
    · -- Without a client nothing has been lost
      rename_i hinactive
      rw [if_neg hinactive] at haccounted
      refine ⟨haccounted, hserved, h.shaking, ?_⟩
      have haway : s.path.session = .away := by
        by_contra hpresent
        exact hinactive (h.accounted.running.active.mpr hpresent)
      intro o ho
      have hnone : s.lost = [] := h.accounted.away haway
      change o ∈ s.lost at ho
      rw [hnone] at ho
      cases ho
  | pump env view hpresent =>
    refine ⟨haccounted, h.served, ?_, pumped_recovers h.accounted view (hkept.2 env rfl)⟩
    intro hshaking
    cases hshaking
  | connect sender hz h265 h264 haway =>
    refine empty_recovering haccounted ?_ fun _ => rfl
    exact h.served.mono (s.path.bridge.setClient_generations hz h265 h264).2 rfl rfl
  | disconnect hpresent =>
    have htracks := step_tracks h.accounted.running.tracks hpath
    rcases disconnect_running h.accounted.running hpresent htracks with ⟨-, hrequest, -⟩
    refine empty_recovering haccounted ?_ ?_
    · rw [hrequest]
      exact h.served
    · intro hshaking
      cases hshaking

/-- In every run whose steps leave no loss unanswered, every lost output is made up for by a
later key frame of its stream, or one is owed. -/
theorem recovers_of_kept (w : WireFormat V T G P) (hasEncoder : Bool) (sender : PacedSender V T G)
    (es : List (Event V T G)) {s : Recovery V T G}
    (hkept : Runs.Along (step w) Kept (init hasEncoder sender) es)
    (hrun : Runs.run (step w) (init hasEncoder sender) es = some s) : ∀ o ∈ s.lost, s.Recovers o :=
  (Runs.run_invariant_along step_recovering es _ s (init_recovering hasEncoder sender) hkept
    hrun).recovers

/-! ## Three frames between two pumps -/

open Pacing

/-- The session has its key frame of the stream description. -/
def describedRun : List (Event Unit Unit Unit) := firstFrameRun ++ another 2 2 ++ [.look, drain]

/-- The headset asks for a key frame before the bridge overflows. -/
def askedRun : List (Event Unit Unit Unit) :=
  describedRun ++ another 3 2 ++ another 4 2 ++ presenting 5 1 ++
    [.encoder .readStaging, .encoder (.readRequest (requestOf 2)),
      .feedback { frameIndex := 2 } 0] ++ encoding ++ another 6 3 ++ [.look, drain]

theorem recovers_of_kept_asked :
    ∃ s, Runs.run (step burstWire) (init true idleSender) askedRun = some s ∧
      s.lost = [⟨0, 21⟩, ⟨1, 21⟩, ⟨0, 28⟩, ⟨1, 28⟩] ∧ ∀ o ∈ s.lost, s.Recovers o := by
  have hkept : Runs.Along (step burstWire) Kept (init true idleSender) askedRun := by
    decide +kernel
  have hrun : (Runs.run (step burstWire) (init true idleSender) askedRun).map lost =
      some [⟨0, 21⟩, ⟨1, 21⟩, ⟨0, 28⟩, ⟨1, 28⟩] := by
    decide +kernel
  rcases Option.map_eq_some_iff.mp hrun with ⟨s, hs, hlost⟩
  exact ⟨s, hs, hlost, recovers_of_kept burstWire true idleSender askedRun hkept hs⟩

/-- Nobody asks. -/
def quietRun : List (Event Unit Unit Unit) :=
  describedRun ++ another 3 2 ++ another 4 2 ++ another 5 2 ++ [.look, drain]

/-- The bridge has dropped a frame and the session has gone on to the next: no key frame is
on its way, and nobody owes one. -/
theorem overflow_unanswered :
    ∃ es s, Runs.run (step burstWire) (init true idleSender) es = some s ∧
      s.path.session ≠ .away ∧ ∃ o ∈ s.lost, ¬ s.Recovers o := by
  have hrun : (Runs.run (step burstWire) (init true idleSender) quietRun).map (fun s =>
      (s.path.session, s.lost.filter fun o => ¬ s.Recovers o)) =
      some (.looping, [⟨0, 21⟩, ⟨1, 21⟩]) := by
    decide +kernel
  rcases Option.map_eq_some_iff.mp hrun with ⟨s, hs, hseen⟩
  rw [Prod.mk.injEq] at hseen
  refine ⟨quietRun, s, hs, ?_, ⟨0, 21⟩, ?_⟩
  · rw [hseen.1]
    exact SessionThread.noConfusion
  · have hmem : (⟨0, 21⟩ : Made) ∈ s.lost.filter fun o => ¬ s.Recovers o := by
      rw [hseen.2]
      exact List.mem_cons_self
    rcases List.mem_filter.mp hmem with ⟨hlost, hnot⟩
    exact ⟨hlost, of_decide_eq_true hnot⟩

end Recovery

end WivrnNx
