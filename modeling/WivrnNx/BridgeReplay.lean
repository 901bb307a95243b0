import WivrnNx.Bridge
import WivrnNx.Lib.Runs
import WivrnNx.Lib.Versioned

/-!
# What the bridge's consumers know

Any number of cursors collect from one bridge while producers change it. What a
consumer was handed is replayed on the bridge's first state.

- `View`, `replay`: the state a consumer puts together from its messages;
- `Relay`, `step`: producers and consumers in any order;
- `bridge_converges`: a consumer's view is the bridge as it was at its last
  collect, but for the presence of the HMD, which is never announced.
-/

namespace WivrnNx

open Ipc

/-- What a consumer knows of the bridge. -/
structure View where
  config : HmdConfig
  pose : Device → PoseUpdate
  input : Device → InputUpdate
  present : Device → Bool

namespace View

/-- The last value of each kind and device wins. -/
def apply (v : View) : Outgoing → View
  | .hmdConfig config => { v with config := config }
  | .deviceAdd device =>
    match deviceIndex device with
    | none => v
    | some i => { v with present := Function.update v.present i true }
  | .deviceRemove device =>
    match deviceIndex device with
    | none => v
    | some i => { v with present := Function.update v.present i false }
  | .poseUpdate pose =>
    match deviceIndex pose.device with
    | none => v
    | some i => { v with pose := Function.update v.pose i pose }
  | .inputUpdate input =>
    match deviceIndex input.device with
    | none => v
    | some i => { v with input := Function.update v.input i input }

/-- Replays messages in order. -/
def replay (v : View) (messages : List Outgoing) : View := messages.foldl apply v

end View

/-- The state of the bridge, as a view. -/
def Bridge.view (b : Bridge) : View :=
  { config := b.config, pose := b.pose, input := b.input, present := b.present }

/-- One consumer, with what it was handed and the bridge at its last collect. -/
structure Consumer where
  cursor : Bridge.Cursor := {}
  batches : List (List Outgoing) := []
  asOf : Option View := none
  /-- The last collect came after `on_client_gone`, with no `set_pose` or
  `set_present` between them. -/
  afterGone : Bool := false

/-- The bridge and its consumers. -/
structure Relay where
  initial : HmdConfig
  bridge : Bridge
  consumers : ℕ → Consumer := fun _ => {}
  /-- `on_client_gone` was called, and neither `set_pose` nor `set_present` since. -/
  gone : Bool := false

namespace Relay

inductive Action where
  | setConfig (config : HmdConfig)
  | setPose (pose : PoseUpdate)
  | setInput (input : InputUpdate)
  | setPresent (device : UInt8) (present : Bool)
  | onClientGone
  | pushHaptic (haptic : Haptic)
  | popHaptic
  /-- Consumer `k` starts with a fresh cursor. -/
  | start (k : ℕ)
  | collect (k : ℕ)

/-- What `collect` does to a consumer. -/
def collected (s : Relay) (c : Consumer) : Consumer :=
  { cursor := (s.bridge.collect c.cursor).1
    batches := c.batches ++ [(s.bridge.collect c.cursor).2]
    asOf := some s.bridge.view
    afterGone := s.gone }

def step (s : Relay) : Action → Relay
  | .setConfig config => { s with bridge := s.bridge.setConfig config }
  | .setPose pose => { s with bridge := s.bridge.setPose pose, gone := false }
  | .setInput input => { s with bridge := s.bridge.setInput input }
  | .setPresent device present =>
    { s with bridge := s.bridge.setPresent device present, gone := false }
  | .onClientGone => { s with bridge := s.bridge.onClientGone, gone := true }
  | .pushHaptic haptic => { s with bridge := s.bridge.pushHaptic haptic }
  | .popHaptic =>
    match s.bridge.popHaptic with
    | none => s
    | some (_, bridge) => { s with bridge := bridge }
  | .start k => { s with consumers := Function.update s.consumers k {} }
  | .collect k =>
    { s with consumers := Function.update s.consumers k (s.collected (s.consumers k)) }

def init (config : HmdConfig) : Relay := { initial := config, bridge := .make config }

/-- The view that a consumer's messages add up to. -/
def known (s : Relay) (c : Consumer) : View :=
  (Bridge.make s.initial).view.replay c.batches.flatten

end Relay

/-! ## Replaying one batch -/

namespace View

theorem replay_append (v : View) (before after : List Outgoing) :
    v.replay (before ++ after) = (v.replay before).replay after := by
  simp [replay]

end View

namespace Bridge

/-- The poses and inputs are stored at their own device. -/
structure Indexed (b : Bridge) : Prop where
  pose : ∀ i, (b.pose i).device = i.byte
  input : ∀ i, (b.input i).device = i.byte

theorem replay_config (b : Bridge) (c : Cursor) (v : View) :
    v.replay (b.collectConfig c) =
      { v with config := if c.config = b.configGen then v.config else b.config } := by
  unfold collectConfig
  by_cases h : c.config = b.configGen <;> simp [h, View.replay, View.apply]

/-- A loop over devices that sends a message for each one that is out of date, for
any array of the view: `get` and `set` are its projection and its update. -/
theorem replay_devices {β : Type} (get : View → Device → β) (set : View → (Device → β) → View)
    (hget : ∀ v f, get (set v f) = f) (hset : ∀ v f g, set (set v f) g = set v g)
    (hself : ∀ v, set v (get v) = v) (value : Device → β) (same : Device → Prop)
    [DecidablePred same] (messages : Device → List Outgoing)
    (hsame : ∀ i, same i → messages i = [])
    (hone : ∀ v i, ¬ same i →
      v.replay (messages i) = set v (Function.update (get v) i (value i)))
    (l : List Device) (v : View) :
    v.replay (l.flatMap messages) =
      set v fun i => if i ∈ l ∧ ¬ same i then value i else get v i := by
  induction l generalizing v with
  | nil => simp [View.replay, hself]
  | cons a l ih =>
    rw [List.flatMap_cons, View.replay_append, ih]
    by_cases ha : same a
    · -- The first device is up to date already
      rw [hsame a ha]
      refine congrArg (set v) (funext fun i => ?_)
      by_cases hia : i = a
      · subst hia
        simp [ha, View.replay]
      · simp [hia, View.replay]
    · rw [hone v a ha, hget, hset]
      refine congrArg (set v) (funext fun i => ?_)
      by_cases hia : i = a
      · subst hia
        simp [ha]
      · simp [hia]

theorem replay_presence (b : Bridge) (c : Cursor) (l : List Device) (v : View) :
    v.replay (l.flatMap (b.collectPresence c)) =
      { v with
        present := fun i =>
          if i ∈ l ∧ c.presence i ≠ b.presenceGen i then b.present i else v.present i } := by
  refine replay_devices View.present (fun v f => { v with present := f }) (fun _ _ => rfl)
    (fun _ _ _ => rfl) (fun _ => rfl) b.present (fun i => c.presence i = b.presenceGen i)
    (b.collectPresence c) (fun i h => if_pos h) (fun v i h => ?_) l v
  rw [collectPresence, if_neg h]
  cases hpresent : b.present i <;> simp [View.replay, View.apply]

theorem replay_pose (b : Bridge) (hb : b.Indexed) (c : Cursor) (l : List Device) (v : View) :
    v.replay (l.flatMap (b.collectPose c)) =
      { v with
        pose := fun i =>
          if i ∈ l ∧ c.pose i ≠ b.poseGen i then b.pose i else v.pose i } := by
  refine replay_devices View.pose (fun v f => { v with pose := f }) (fun _ _ => rfl)
    (fun _ _ _ => rfl) (fun _ => rfl) b.pose (fun i => c.pose i = b.poseGen i)
    (b.collectPose c) (fun i h => if_pos h) (fun v i h => ?_) l v
  rw [collectPose, if_neg h]
  simp [View.replay, View.apply, hb.pose]

theorem replay_input (b : Bridge) (hb : b.Indexed) (c : Cursor) (l : List Device) (v : View) :
    v.replay (l.flatMap (b.collectInput c)) =
      { v with
        input := fun i =>
          if i ∈ l ∧ c.input i ≠ b.inputGen i then b.input i else v.input i } := by
  refine replay_devices View.input (fun v f => { v with input := f }) (fun _ _ => rfl)
    (fun _ _ _ => rfl) (fun _ => rfl) b.input (fun i => c.input i = b.inputGen i)
    (b.collectInput c) (fun i h => if_pos h) (fun v i h => ?_) l v
  rw [collectInput, if_neg h]
  simp [View.replay, View.apply, hb.input]

/-- What a batch leaves in a view that had `v`. -/
theorem replay_collect (b : Bridge) (hb : b.Indexed) (c : Cursor) (v : View) :
    v.replay (b.collect c).2 =
      { config := if c.config = b.configGen then v.config else b.config
        pose := fun i => if c.pose i = b.poseGen i then v.pose i else b.pose i
        input := fun i => if c.input i = b.inputGen i then v.input i else b.input i
        present := fun i =>
          if i ∈ controllers then
            if c.presence i = b.presenceGen i then v.present i else b.present i
          else v.present i } := by
  have hall : ∀ i : Device, i ∈ devices := by decide
  simp only [collect, View.replay_append, replay_config, replay_presence, replay_pose b hb,
    replay_input b hb, hall, true_and, ne_eq, ite_not]
  congr 1
  funext i
  by_cases hi : i ∈ controllers <;> simp [hi]

end Bridge

namespace Bridge

/-! ## What a producer does -/

/-- Each item and its generation, together. -/
def configCell (b : Bridge) : Versioned HmdConfig := ⟨b.config, b.configGen⟩
def poseCell (b : Bridge) (i : Device) : Versioned PoseUpdate := ⟨b.pose i, b.poseGen i⟩
def inputCell (b : Bridge) (i : Device) : Versioned InputUpdate := ⟨b.input i, b.inputGen i⟩
def presenceCell (b : Bridge) (i : Device) : Versioned Bool := ⟨b.present i, b.presenceGen i⟩

/-- A producer changes no item without its generation. -/
structure Evolves (b b' : Bridge) : Prop where
  config : b.configCell.Moves b'.configCell
  pose : ∀ i, (b.poseCell i).Moves (b'.poseCell i)
  input : ∀ i, (b.inputCell i).Moves (b'.inputCell i)
  presence : ∀ i, (b.presenceCell i).Moves (b'.presenceCell i)
  indexed : b.Indexed → b'.Indexed

theorem Evolves.refl (b : Bridge) : b.Evolves b :=
  ⟨.inl rfl, fun _ => .inl rfl, fun _ => .inl rfl, fun _ => .inl rfl, id⟩

theorem setConfig_evolves (b : Bridge) (config : HmdConfig) : b.Evolves (b.setConfig config) := by
  unfold setConfig
  split
  · exact .refl b
  · exact ⟨.inr rfl, fun _ => .inl rfl, fun _ => .inl rfl, fun _ => .inl rfl,
      fun hb => ⟨hb.pose, hb.input⟩⟩

theorem setPose_evolves (b : Bridge) (pose : PoseUpdate) : b.Evolves (b.setPose pose) := by
  unfold setPose
  split
  · exact .refl b
  · rename_i i hi
    refine ⟨.inl rfl, fun j => ?_, fun _ => .inl rfl, fun _ => .inl rfl, fun hb => ⟨fun j => ?_,
      hb.input⟩⟩ <;> by_cases hj : j = i
    · subst hj
      exact .inr (by simp [poseCell])
    · exact .inl (by simp [poseCell, hj])
    · subst hj
      simpa using deviceIndex_some hi
    · simpa [hj] using hb.pose j

theorem setInput_evolves (b : Bridge) (input : InputUpdate) : b.Evolves (b.setInput input) := by
  unfold setInput
  split
  · exact .refl b
  · rename_i i hi
    refine ⟨.inl rfl, fun _ => .inl rfl, fun j => ?_, fun _ => .inl rfl, fun hb => ⟨hb.pose,
      fun j => ?_⟩⟩ <;> by_cases hj : j = i
    · subst hj
      exact .inr (by simp [inputCell])
    · exact .inl (by simp [inputCell, hj])
    · subst hj
      simpa using deviceIndex_some hi
    · simpa [hj] using hb.input j

theorem setPresent_evolves (b : Bridge) (device : UInt8) (present : Bool) :
    b.Evolves (b.setPresent device present) := by
  unfold setPresent
  split
  · exact .refl b
  · rename_i i _
    split
    · exact .refl b
    · refine ⟨.inl rfl, fun _ => .inl rfl, fun _ => .inl rfl, fun j => ?_, fun hb => ⟨hb.pose,
        hb.input⟩⟩
      by_cases hj : j = i
      · subst hj
        exact .inr (by simp [presenceCell])
      · exact .inl (by simp [presenceCell, hj])

theorem onClientGone_evolves (b : Bridge) : b.Evolves b.onClientGone := by
  refine ⟨.inl rfl, fun i => ?_, fun _ => .inl rfl, fun i => ?_, fun hb => ⟨fun i => ?_,
    hb.input⟩⟩
  · by_cases h : (b.pose i).connected = 0
    · exact .inl (by simp [poseCell, onClientGone, h])
    · exact .inr (by simp [poseCell, onClientGone, h])
  · by_cases h : b.present i = true
    · exact .inr (by simp [presenceCell, onClientGone, h])
    · exact .inl (by simp [presenceCell, onClientGone, h])
  · simp only [onClientGone]
    split <;> exact hb.pose i

/-- After `on_client_gone` nothing is present and nothing connected. -/
structure Gone (b : Bridge) : Prop where
  present : ∀ i, b.present i = false
  connected : ∀ i, (b.pose i).connected = 0

theorem onClientGone_gone (b : Bridge) : b.onClientGone.Gone := by
  refine ⟨fun _ => rfl, fun i => ?_⟩
  simp only [onClientGone]
  split
  · rfl
  · exact not_not.mp ‹_›

end Bridge

namespace Relay

open Bridge

/-! ## What a consumer's view is to the bridge -/

/-- The view is current wherever the cursor says so, and the HMD is not in it. -/
structure Follows (b : Bridge) (c : Cursor) (v : View) : Prop where
  config : b.configCell.Tracks c.config v.config
  pose : ∀ i, (b.poseCell i).Tracks (c.pose i) (v.pose i)
  input : ∀ i, (b.inputCell i).Tracks (c.input i) (v.input i)
  presence : ∀ i ∈ controllers, (b.presenceCell i).Tracks (c.presence i) (v.present i)
  hmd : v.present 0 = false

theorem Follows.evolves {b b' : Bridge} {c : Cursor} {v : View} (h : Follows b c v)
    (he : b.Evolves b') : Follows b' c v where
  config := h.config.moves he.config
  pose i := (h.pose i).moves (he.pose i)
  input i := (h.input i).moves (he.input i)
  presence i hi := (h.presence i hi).moves (he.presence i)
  hmd := h.hmd

/-- A collected view is the bridge's, but for the HMD's presence. -/
theorem replay_collected {b : Bridge} (hb : b.Indexed) {c : Cursor} {v : View}
    (h : Follows b c v) :
    v.replay (b.collect c).2 =
      { config := b.config, pose := b.pose, input := b.input
        present := fun i => if i ∈ controllers then b.present i else v.present i } := by
  rw [replay_collect b hb]
  have hconfig : (if c.config = b.configGen then v.config else b.config) = b.config :=
    h.config.read
  have hpose : ∀ i, (if c.pose i = b.poseGen i then v.pose i else b.pose i) = b.pose i :=
    fun i => (h.pose i).read
  have hinput : ∀ i, (if c.input i = b.inputGen i then v.input i else b.input i) = b.input i :=
    fun i => (h.input i).read
  simp only [hconfig, hpose, hinput]
  congr 1
  funext i
  by_cases hi : i ∈ controllers
  · have hpresence : (if c.presence i = b.presenceGen i then v.present i else b.present i) =
        b.present i := (h.presence i hi).read
    simp only [hi, if_true, hpresence]
  · simp only [hi, if_false]

theorem Follows.collected {b : Bridge} (hb : b.Indexed) {c : Cursor} {v : View}
    (h : Follows b c v) : Follows b (b.collect c).1 (v.replay (b.collect c).2) := by
  rw [replay_collected hb h]
  refine ⟨Versioned.Tracks.self _, fun i => .self _, fun i => .self _, fun i hi => ?_, ?_⟩
  · simpa [collect, hi, presenceCell] using Versioned.Tracks.self (b.presenceCell i)
  · simpa [controllers] using h.hmd

/-! ## Every consumer -/

/-- What the bridge promises a consumer about what it was handed. -/
structure Converged (s : Relay) (c : Consumer) : Prop where
  /-- Its view is the bridge as of its last collect. -/
  view : ∀ v, c.asOf = some v → (s.known c).config = v.config ∧ (s.known c).pose = v.pose ∧
    (s.known c).input = v.input ∧ ∀ i ∈ controllers, (s.known c).present i = v.present i
  hmd : (s.known c).present 0 = false
  /-- Its first batch begins with the config. -/
  first : ∀ batch, c.batches.head? = some batch → ∃ config rest, batch = .hmdConfig config :: rest
  gone : c.afterGone = true → ∀ i,
    (s.known c).present i = false ∧ ((s.known c).pose i).connected = 0

/-- The invariant of one consumer. -/
structure ConsumerInv (s : Relay) (c : Consumer) : Prop where
  follows : Follows s.bridge c.cursor (s.known c)
  fresh : c.batches = [] → c.cursor.config = 0
  converged : s.Converged c

/-- The invariant of the relay. -/
structure Inv (s : Relay) : Prop where
  indexed : s.bridge.Indexed
  configGen : 1 ≤ s.bridge.configGen
  gone : s.gone = true → s.bridge.Gone
  /-- A cursor may start fresh at any moment. -/
  start : s.ConsumerInv {}
  consumers : ∀ k, s.ConsumerInv (s.consumers k)

theorem ConsumerInv.evolves {s s' : Relay} {c : Consumer} (h : s.ConsumerInv c)
    (hinitial : s'.initial = s.initial) (he : s.bridge.Evolves s'.bridge) : s'.ConsumerInv c := by
  have hknown : s'.known c = s.known c := by simp [known, hinitial]
  refine ⟨hknown ▸ h.follows.evolves he, h.fresh, ?_, ?_, h.converged.first, ?_⟩
  · rw [hknown]
    exact h.converged.view
  · rw [hknown]
    exact h.converged.hmd
  · rw [hknown]
    exact h.converged.gone

/-- A producer's step keeps everything its consumers were promised. -/
theorem Inv.evolves {s s' : Relay} (hi : s.Inv) (hinitial : s'.initial = s.initial)
    (hconsumers : s'.consumers = s.consumers) (he : s.bridge.Evolves s'.bridge)
    (hgone : s'.gone = true → s'.bridge.Gone) : s'.Inv where
  indexed := he.indexed hi.indexed
  configGen := by
    rcases he.config with hsame | hnext
    · have hgen := congrArg Versioned.gen hsame
      exact hi.configGen.trans hgen.ge
    · have hone := hi.configGen
      simp only [configCell] at hnext
      omega
  gone := hgone
  start := hi.start.evolves hinitial he
  consumers k := hconsumers ▸ (hi.consumers k).evolves hinitial he

theorem init_inv (config : HmdConfig) : (init config).Inv := by
  have hfresh : (init config).ConsumerInv {} := by
    refine ⟨⟨⟨by simp [configCell], ?_⟩, fun i => ?_, fun i => ?_, fun i _ => ?_, ?_⟩,
      fun _ => rfl, ⟨by simp, ?_, by simp, by simp⟩⟩
    · intro h
      simp [configCell, init, Bridge.make] at h
    all_goals first | exact ⟨Nat.zero_le _, fun _ => rfl⟩ | rfl
  exact ⟨⟨fun _ => rfl, fun _ => rfl⟩, le_rfl, by simp [init], hfresh, fun _ => hfresh⟩

/-- A consumer that collects. -/
theorem collected_inv {s : Relay} (hi : s.Inv) {c : Consumer} (h : s.ConsumerInv c) :
    s.ConsumerInv (s.collected c) := by
  have hknown : s.known (s.collected c) = (s.known c).replay (s.bridge.collect c.cursor).2 := by
    simp [known, collected, View.replay_append]
  have hview := replay_collected hi.indexed h.follows
  refine ⟨hknown ▸ h.follows.collected hi.indexed, by simp [collected], ?_, ?_, ?_, ?_⟩
  · rintro v hv
    cases hv
    rw [hknown, hview]
    exact ⟨rfl, rfl, rfl, fun i hi => by simp [hi, Bridge.view]⟩
  · rw [hknown, hview]
    simpa [controllers] using h.follows.hmd
  · intro batch hbatch
    cases hbatches : c.batches with
    | nil =>
      -- A fresh cursor has not seen the config, whose generation is not 0
      have hzero := h.fresh hbatches
      have hone := hi.configGen
      simp only [collected, hbatches, List.nil_append, List.head?_cons, Option.some.injEq]
        at hbatch
      subst hbatch
      refine ⟨s.bridge.config, controllers.flatMap (s.bridge.collectPresence c.cursor) ++
        devices.flatMap (s.bridge.collectPose c.cursor) ++
          devices.flatMap (s.bridge.collectInput c.cursor), ?_⟩
      simp only [collect, collectConfig, hzero]
      rw [if_pos (by omega)]
      rfl
    | cons first rest =>
      refine h.converged.first batch ?_
      simpa [collected, hbatches] using hbatch
  · intro hgone i
    have hall := hi.gone hgone
    rw [hknown, hview]
    refine ⟨?_, hall.connected i⟩
    dsimp only
    split
    · exact hall.present i
    · rename_i hne
      have hzero : i = 0 := by
        revert hne
        fin_cases i <;> simp [controllers]
      rw [hzero]
      exact h.follows.hmd

theorem step_inv (s : Relay) (a : Action) (hi : s.Inv) : (s.step a).Inv := by
  cases a with
  | setConfig config =>
    refine hi.evolves rfl rfl (setConfig_evolves _ _) fun hg => ?_
    have hgone := hi.gone hg
    simp only [step, setConfig]
    split
    · exact hgone
    · exact ⟨hgone.present, hgone.connected⟩
  | setPose pose => exact hi.evolves rfl rfl (setPose_evolves _ _) (by simp [step])
  | setInput input =>
    refine hi.evolves rfl rfl (setInput_evolves _ _) fun hg => ?_
    have hgone := hi.gone hg
    simp only [step, setInput]
    split
    · exact hgone
    · exact ⟨hgone.present, hgone.connected⟩
  | setPresent device present =>
    exact hi.evolves rfl rfl (setPresent_evolves _ _ _) (by simp [step])
  | onClientGone =>
    exact hi.evolves rfl rfl (onClientGone_evolves _) fun _ => onClientGone_gone _
  | pushHaptic haptic =>
    refine hi.evolves rfl rfl ?_ fun hg => ⟨(hi.gone hg).present, (hi.gone hg).connected⟩
    exact ⟨.inl rfl, fun _ => .inl rfl, fun _ => .inl rfl, fun _ => .inl rfl,
      fun hb => ⟨hb.pose, hb.input⟩⟩
  | popHaptic =>
    simp only [step]
    split
    · exact hi
    · rename_i haptic bridge hpop
      unfold popHaptic at hpop
      split at hpop <;> cases hpop
      refine hi.evolves rfl rfl ?_ fun hg => ⟨(hi.gone hg).present, (hi.gone hg).connected⟩
      exact ⟨.inl rfl, fun _ => .inl rfl, fun _ => .inl rfl, fun _ => .inl rfl,
        fun hb => ⟨hb.pose, hb.input⟩⟩
  | start k =>
    have hsame : ∀ c, s.ConsumerInv c → (s.step (.start k)).ConsumerInv c := fun c h =>
      h.evolves rfl (.refl _)
    refine ⟨hi.indexed, hi.configGen, hi.gone, hsame _ hi.start, fun j => hsame _ ?_⟩
    by_cases hj : j = k
    · subst hj
      simpa [step] using hi.start
    · simpa [step, hj] using hi.consumers j
  | collect k =>
    have hsame : ∀ c, s.ConsumerInv c → (s.step (.collect k)).ConsumerInv c := fun c h =>
      h.evolves rfl (.refl _)
    refine ⟨hi.indexed, hi.configGen, hi.gone, hsame _ hi.start, fun j => hsame _ ?_⟩
    by_cases hj : j = k
    · subst hj
      simpa [step] using collected_inv hi (hi.consumers j)
    · simpa [step, hj] using hi.consumers j

/-! ## Runs -/

/-- Whatever the producers do, every consumer's view is the bridge as of its last
collect, but for the presence of the HMD. -/
theorem bridge_converges (config : HmdConfig) (as : List Action) (k : ℕ) :
    (as.foldl step (init config)).Converged ((as.foldl step (init config)).consumers k) := by
  have hrun := Runs.run_always step (init config) as
  have hstep : ∀ s a s', Inv s → Runs.always step s a = some s' → Inv s' := by
    rintro s a _ hi ⟨⟩
    exact step_inv s a hi
  have hinv := Runs.run_invariant hstep as _ _ (init_inv config) hrun
  exact (hinv.consumers k).converged

/-- The HMD is set present, as the fake tracker does it, and its presence is not
handed on. -/
theorem hmd_presence_not_announced : ∃ (config : HmdConfig) (as : List Action) (v : View),
    (((as.foldl step (init config)).consumers 0).asOf = some v) ∧
      v.present 0 = true ∧ ((as.foldl step (init config)).known
        ((as.foldl step (init config)).consumers 0)).present 0 = false :=
  ⟨{ eyeWidth := 1440, eyeHeight := 1600, refreshHz := 0 }, [.setPresent 0 true, .collect 0], _,
    rfl, rfl, rfl⟩

end Relay

end WivrnNx
