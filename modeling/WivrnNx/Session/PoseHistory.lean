import WivrnNx.Session.PoseSanitizer

/-!
# What a pose sanitizer returns over a history of samples

The samples of a device come in the order in which the network delivers them.

- `newest_returned_iff`: the result is the newest sample only if no newer one was
  overtaken, for a tracked sample is always taken;
- `firewall`: what holds of every result, whatever the samples are;
- `onPoses_device`: `Session::on_tracking` gives each sanitizer the samples of its device.
-/

namespace WivrnNx

namespace PoseSanitizer

variable {m : FloatMath}

theorem after_append_singleton (before : List PoseSample) (x : PoseSample) :
    after m (before ++ [x]) =
      ((after m before).sanitize m x.pose x.productionTimestamp x.freeze).1 := by
  rw [after, afterFrom, List.foldl_append]
  rfl

/-! ## Sane samples -/

theorem isSane_iff (pose : DevicePose) :
    isSane m pose = true ↔
      (pose.orientationValid = true → isValidOrientation m pose.orientation = true) ∧
        (pose.positionValid = true → isFiniteVec m pose.position = true) ∧
        (pose.linearVelocityValid = true → isFiniteVec m pose.linearVelocity = true) ∧
        (pose.angularVelocityValid = true → isFiniteVec m pose.angularVelocity = true) := by
  unfold isSane
  cases pose.orientationValid <;> cases pose.positionValid <;>
    cases pose.linearVelocityValid <;> cases pose.angularVelocityValid <;> simp

theorem finite_of_isFiniteVec {v : Vector3} (h : isFiniteVec m v = true) : v.Finite := by
  rw [isFiniteVec, Bool.and_eq_true, Bool.and_eq_true] at h
  exact ⟨(m.isFinite_iff _).mp h.1.1, (m.isFinite_iff _).mp h.1.2, (m.isFinite_iff _).mp h.2⟩

theorem zero_finite : ({} : Vector3).Finite :=
  ⟨Flt.finite_val 0, Flt.finite_val 0, Flt.finite_val 0⟩

theorem identity_finite : ({} : Quaternion).Finite :=
  ⟨Flt.finite_val 0, Flt.finite_val 0, Flt.finite_val 0, Flt.finite_val 1⟩

/-- A sample whose orientation is accepted and tracked. -/
def tracksOrientation (m : FloatMath) (x : PoseSample) : Bool :=
  isSane m x.pose && x.pose.orientationValid && x.pose.orientationTracked

/-- A sample whose position is accepted and tracked. -/
def tracksPosition (m : FloatMath) (x : PoseSample) : Bool :=
  isSane m x.pose && x.pose.positionValid && x.pose.positionTracked

theorem orientationReading_tracked (x : PoseSample) :
    (orientationReading m x.pose).tracked? =
      if tracksOrientation m x then some (normalizeOrientation m x.pose.orientation) else none := by
  unfold orientationReading tracksOrientation
  cases isSane m x.pose <;> cases x.pose.orientationValid <;>
    cases x.pose.orientationTracked <;> rfl

theorem positionReading_tracked (x : PoseSample) :
    (positionReading m x.pose).tracked? =
      if tracksPosition m x then some x.pose.position else none := by
  unfold positionReading tracksPosition
  cases isSane m x.pose <;> cases x.pose.positionValid <;>
    cases x.pose.positionTracked <;> rfl

theorem orientationReading_finite
    (hnormal : ∀ q, isValidOrientation m q = true → (normalizeOrientation m q).Finite)
    {pose : DevicePose} {q : Quaternion} (h : (orientationReading m pose).value? = some q) :
    q.Finite := by
  unfold orientationReading at h
  split at h
  · cases h
  · rename_i hok
    have hboth : isSane m pose = true ∧ pose.orientationValid = true := by simpa using hok
    have hvalid := hnormal _ (((isSane_iff pose).mp hboth.1).1 hboth.2)
    split at h <;> (cases h; exact hvalid)

theorem positionReading_finite {pose : DevicePose} {v : Vector3}
    (h : (positionReading m pose).value? = some v) : v.Finite := by
  unfold positionReading at h
  split at h
  · cases h
  · rename_i hok
    have hboth : isSane m pose = true ∧ pose.positionValid = true := by simpa using hok
    have hvalid := finite_of_isFiniteVec (((isSane_iff pose).mp hboth.1).2.1 hboth.2)
    split at h <;> (cases h; exact hvalid)

/-! ## The components over a history -/

/-- A component of the pose: what a sanitizer holds of it, and what a sample says. -/
structure Component (m : FloatMath) (α : Type) where
  held : PoseSanitizer → HeldValue α
  reading : DevicePose → Reading α
  start : α
  held_start : held {} = { value := start }
  held_sanitize : ∀ (s : PoseSanitizer) (x : PoseSample),
    held (s.sanitize m x.pose x.productionTimestamp x.freeze).1 =
      (held s).step x.freeze (reading x.pose)

def orientationComponent (m : FloatMath) : Component m Quaternion where
  held := heldOrientation
  reading := orientationReading m
  start := {}
  held_start := rfl
  held_sanitize := sanitize_orientation

def positionComponent (m : FloatMath) : Component m Vector3 where
  held := heldPosition
  reading := positionReading m
  start := {}
  held_start := rfl
  held_sanitize := sanitize_position

namespace Component

variable {α : Type} (c : Component m α)

/-- The readings of some samples, each with the setting it found. -/
def readings (samples : List PoseSample) : List (Bool × Reading α) :=
  samples.map fun x => (x.freeze, c.reading x.pose)

theorem readings_append (first rest : List PoseSample) :
    c.readings (first ++ rest) = c.readings first ++ c.readings rest :=
  List.map_append

theorem after (samples : List PoseSample) :
    c.held (PoseSanitizer.after m samples) =
      HeldValue.run { value := c.start } (c.readings samples) := by
  induction samples using List.reverseRecOn with
  | nil => exact c.held_start
  | append_singleton samples x ih =>
    rw [after_append_singleton, c.held_sanitize, ih, c.readings_append]
    exact (HeldValue.run_append_singleton _ _ (x.freeze, c.reading x.pose)).symm

/-- A component has been tracked exactly if one of the samples tracked it. -/
theorem everTracked_after (samples : List PoseSample) :
    (c.held (PoseSanitizer.after m samples)).everTracked = true ↔
      ∃ x ∈ samples, (c.reading x.pose).tracked?.isSome = true := by
  rw [c.after, HeldValue.tracked_run]
  simp [readings]

/-- What has been seen stays seen. -/
theorem seen_after {past : List PoseSample} (between : List PoseSample)
    (h : (c.held (PoseSanitizer.after m past)).seen = true) :
    (c.held (PoseSanitizer.after m (past ++ between))).seen = true := by
  rw [c.after, c.readings_append, HeldValue.run_append, ← c.after]
  exact HeldValue.seen_run h _

theorem forall_after {P : α → Prop} (hstart : P c.start) (samples : List PoseSample)
    (hall : ∀ (pose : DevicePose) v, (c.reading pose).value? = some v → P v) :
    P (c.held (PoseSanitizer.after m samples)).value := by
  rw [c.after]
  refine HeldValue.forall_run hstart ?_
  intro r hr v hv
  obtain ⟨x, -, rfl⟩ := List.mem_map.mp hr
  exact hall x.pose v hv

/-- Held since a sample that tracked it, the component is that of this sample. -/
theorem value_after {first rest : List PoseSample} {y : PoseSample} {v : α}
    (hy : (c.reading y.pose).tracked? = some v)
    (hrest : ∀ z ∈ rest, z.freeze = true ∧ (c.reading z.pose).tracked? = none) :
    (c.held (PoseSanitizer.after m (first ++ y :: rest))).value = v := by
  rw [c.after, c.readings_append]
  refine HeldValue.value_run_of_hold (r := (y.freeze, c.reading y.pose)) hy ?_
  intro r hr
  obtain ⟨z, hz, rfl⟩ := List.mem_map.mp hr
  exact hrest z hz

end Component

theorem orientation_everTracked (samples : List PoseSample) :
    (after m samples).orientationState.everTracked = true ↔
      ∃ x ∈ samples, tracksOrientation m x = true := by
  refine ((orientationComponent m).everTracked_after samples).trans ?_
  simp [orientationComponent, orientationReading_tracked]

theorem position_everTracked (samples : List PoseSample) :
    (after m samples).positionState.everTracked = true ↔
      ∃ x ∈ samples, tracksPosition m x = true := by
  refine ((positionComponent m).everTracked_after samples).trans ?_
  simp [positionComponent, positionReading_tracked]

/-! ## The results -/

theorem resultAfter_orientation (before : List PoseSample) (x : PoseSample) :
    (resultAfter m before x).orientation = (after m (before ++ [x])).lastOrientation := by
  rw [after_append_singleton, resultAfter, sanitize]
  split <;> rfl

theorem resultAfter_position (before : List PoseSample) (x : PoseSample) :
    (resultAfter m before x).position = (after m (before ++ [x])).lastPosition := by
  rw [after_append_singleton, resultAfter, sanitize]
  split <;> rfl

theorem resultAfter_usable (before : List PoseSample) (x : PoseSample) :
    (resultAfter m before x).usable =
      ((after m (before ++ [x])).haveOrientation && (after m (before ++ [x])).havePosition) := by
  rw [after_append_singleton, resultAfter, sanitize]
  split <;> rfl

/-! ## A floating point unit -/

/-- Exact arithmetic, and square roots of 24 binary digits. -/
def exactMath : FloatMath where
  add
    | .val a, .val b => .val (a + b)
    | _, _ => .nan
  mul
    | .val a, .val b => .val (a * b)
    | _, _ => .nan
  div
    | .val a, .val b => if b = 0 then .nan else .val (a / b)
    | _, _ => .nan
  sqrt
    | .val a => .val (Nat.sqrt ⌊a * 2 ^ 48⌋₊ / 2 ^ 24)
    | _ => .nan
  isFinite
    | .val _ => true
    | _ => false
  isFinite_iff f := by
    cases f with
    | val q => simp [Flt.Finite]
    | posInf => simp [Flt.Finite]
    | negInf => simp [Flt.Finite]
    | nan => simp [Flt.Finite]

theorem exactMath_sqrt {a : ℚ} (ha : Flt.lt tenth (.val a) = true) :
    ∃ r : ℚ, r ≠ 0 ∧ exactMath.sqrt (.val a) = .val r := by
  have hlarge : 13421773 / 134217728 < a := by simpa [Flt.lt, tenth] using ha
  refine ⟨Nat.sqrt ⌊a * 2 ^ 48⌋₊ / 2 ^ 24, ?_, rfl⟩
  have hfloor : 1 ≤ ⌊a * 2 ^ 48⌋₊ := Nat.le_floor (by push_cast; linarith)
  have hroot : 0 < Nat.sqrt ⌊a * 2 ^ 48⌋₊ := Nat.sqrt_pos.mpr hfloor
  positivity

/-- With it, normalising gives finite values. -/
theorem exactMath_normal (q : Quaternion) (h : isValidOrientation exactMath q = true) :
    (normalizeOrientation exactMath q).Finite := by
  unfold isValidOrientation at h
  split at h
  · cases h
  · rename_i hfinite
    simp only [Bool.not_eq_true', Bool.not_eq_false, Bool.and_eq_true,
      exactMath.isFinite_iff] at hfinite h
    obtain ⟨⟨⟨⟨x, hx⟩, y, hy⟩, z, hz⟩, w, hw⟩ := hfinite
    have hnorm : norm2 exactMath q = .val (x * x + y * y + z * z + w * w) := by
      rw [norm2, hx, hy, hz, hw]
      rfl
    rw [hnorm] at h
    obtain ⟨r, hr, hroot⟩ := exactMath_sqrt h.1.2
    have hinv : exactMath.div (.val 1) (exactMath.sqrt (norm2 exactMath q)) = .val (1 / r) := by
      rw [hnorm, hroot]
      exact if_neg hr
    unfold normalizeOrientation
    rw [hinv, hx, hy, hz, hw]
    exact ⟨⟨_, rfl⟩, ⟨_, rfl⟩, ⟨_, rfl⟩, _, rfl⟩

/-! ## Overtaken samples -/

/-- A sane sample with both components, valid and tracked. -/
structure FullSample (m : FloatMath) (x : PoseSample) : Prop where
  orientation : tracksOrientation m x = true
  position : tracksPosition m x = true

/-- No sample of the list is newer. -/
def IsNewest (x : PoseSample) (samples : List PoseSample) : Prop :=
  x ∈ samples ∧ ∀ y ∈ samples, y.productionTimestamp ≤ x.productionTimestamp

/-- `sanitize` cannot tell the components of the two samples apart. -/
def SamePose (m : FloatMath) (x y : PoseSample) : Prop :=
  normalizeOrientation m x.pose.orientation = normalizeOrientation m y.pose.orientation ∧
    x.pose.position = y.pose.position

/-- A full sample is returned, whatever was there before it. -/
theorem resultAfter_full {before : List PoseSample} {x : PoseSample} (hx : FullSample m x) :
    (resultAfter m before x).orientation = normalizeOrientation m x.pose.orientation ∧
      (resultAfter m before x).position = x.pose.position := by
  constructor
  · rw [resultAfter_orientation]
    refine (orientationComponent m).value_after ?_ (by simp)
    exact (orientationReading_tracked x).trans (if_pos hx.orientation)
  · rw [resultAfter_position]
    refine (positionComponent m).value_after ?_ (by simp)
    exact (positionReading_tracked x).trans (if_pos hx.position)

/-- Of full samples, the last call returns the newest exactly if none that came before is
newer than the last one, or none that matters: the newest has the pose of the last one. -/
theorem newest_returned_iff {before : List PoseSample} {last : PoseSample}
    (hfull : ∀ x ∈ before ++ [last], FullSample m x)
    (hdistinct : ((before ++ [last]).map PoseSample.productionTimestamp).Nodup) :
    (∀ x, IsNewest x (before ++ [last]) →
      (resultAfter m before last).orientation = normalizeOrientation m x.pose.orientation ∧
        (resultAfter m before last).position = x.pose.position) ↔
      (∀ x ∈ before, x.productionTimestamp < last.productionTimestamp) ∨
        ∃ x ∈ before, IsNewest x (before ++ [last]) ∧ SamePose m last x := by
  have hlast := @resultAfter_full m before last (hfull last (by simp))
  rw [hlast.1, hlast.2]
  have hunique : ∀ x y, IsNewest x (before ++ [last]) → IsNewest y (before ++ [last]) → x = y :=
    fun x y hx hy => List.inj_on_of_nodup_map hdistinct hx.1 hy.1
      (le_antisymm (hy.2 x hx.1) (hx.2 y hy.1))
  constructor
  · intro h
    by_cases hnewest : IsNewest last (before ++ [last])
    · -- In order
      left
      intro x hx
      refine lt_of_le_of_ne (hnewest.2 x (List.mem_append_left _ hx)) ?_
      intro heq
      rw [List.map_append, List.map_singleton] at hdistinct
      have hout := (List.nodup_append.mp hdistinct).2.2
      exact hout _ (List.mem_map_of_mem hx) _ (List.mem_singleton_self _) heq
    · right
      obtain ⟨x, hx, hmax⟩ := Finset.exists_max_image (before ++ [last]).toFinset
        PoseSample.productionTimestamp ⟨last, by simp⟩
      have hxnewest : IsNewest x (before ++ [last]) :=
        ⟨List.mem_toFinset.mp hx, fun y hy => hmax y (List.mem_toFinset.mpr hy)⟩
      rcases List.mem_append.mp hxnewest.1 with hbefore | hself
      · exact ⟨x, hbefore, hxnewest, h x hxnewest⟩
      · rw [List.mem_singleton] at hself
        rw [hself] at hxnewest
        exact absurd hxnewest hnewest
  · rintro (horder | ⟨x, -, hxnewest, hsame⟩) y hy
    · have hself : IsNewest last (before ++ [last]) := by
        refine ⟨by simp, ?_⟩
        intro z hz
        rcases List.mem_append.mp hz with hz | hz
        · exact (horder z hz).le
        · rw [List.mem_singleton.mp hz]
      rw [hunique y last hy hself]
      exact ⟨rfl, rfl⟩
    · rw [hunique y x hy hxnewest]
      exact hsame

/-- A sample at the given place, with the head upright. -/
def sampleAt (position : Vector3) (productionTimestamp : ℤ) : PoseSample :=
  { pose :=
      { position := position, orientationValid := true, orientationTracked := true
        positionValid := true, positionTracked := true }
    productionTimestamp := productionTimestamp, freeze := true }

theorem sampleAt_full (position : Vector3) (h : isFiniteVec exactMath position = true)
    (productionTimestamp : ℤ) : FullSample exactMath (sampleAt position productionTimestamp) := by
  have hupright : isValidOrientation exactMath {} = true := by decide +kernel
  have hsane : isSane exactMath (sampleAt position productionTimestamp).pose = true :=
    (isSane_iff _).mpr ⟨fun _ => hupright, fun _ => h, nofun, nofun⟩
  constructor
  · rw [tracksOrientation, hsane]
    rfl
  · rw [tracksPosition, hsane]
    rfl

theorem newest_returned_iff_in_order :
    (∀ x, IsNewest x [sampleAt {} 1, sampleAt { x := .val 1 } 2] →
      (resultAfter exactMath [sampleAt {} 1] (sampleAt { x := .val 1 } 2)).orientation =
          normalizeOrientation exactMath x.pose.orientation ∧
        (resultAfter exactMath [sampleAt {} 1] (sampleAt { x := .val 1 } 2)).position =
          x.pose.position) ↔
      (∀ x ∈ [sampleAt {} 1], x.productionTimestamp < 2) ∨
        ∃ x ∈ [sampleAt {} 1], IsNewest x [sampleAt {} 1, sampleAt { x := .val 1 } 2] ∧
          SamePose exactMath (sampleAt { x := .val 1 } 2) x := by
  refine @newest_returned_iff exactMath [sampleAt {} 1] (sampleAt { x := .val 1 } 2) ?_ (by decide)
  intro x hx
  rcases List.mem_append.mp hx with hx | hx
  · rw [List.mem_singleton.mp hx]
    exact sampleAt_full _ (by decide +kernel) _
  · rw [List.mem_singleton.mp hx]
    exact sampleAt_full _ (by decide +kernel) _

/-- A datagram that comes late moves the device back to where it was before. -/
theorem overtaken_sample_returned :
    FullSample exactMath (sampleAt { x := .val 1 } 2) ∧ FullSample exactMath (sampleAt {} 1) ∧
      IsNewest (sampleAt { x := .val 1 } 2) [sampleAt { x := .val 1 } 2, sampleAt {} 1] ∧
      (resultAfter exactMath [sampleAt { x := .val 1 } 2] (sampleAt {} 1)).position ≠
        (sampleAt { x := .val 1 } 2).pose.position := by
  have hfirst := sampleAt_full {} (by decide +kernel) 1
  refine ⟨sampleAt_full _ (by decide +kernel) _, hfirst, ⟨by simp, by decide⟩, ?_⟩
  rw [(resultAfter_full hfirst).2]
  decide

/-! ## Held poses -/

/-- The orientation of the sample is not taken: it is valid, but no longer tracked. -/
def HeldBackOrientation (m : FloatMath) (before : List PoseSample) (x : PoseSample) : Prop :=
  x.freeze = true ∧ x.pose.orientationValid = true ∧ x.pose.orientationTracked = false ∧
    ∃ y ∈ before, tracksOrientation m y = true

/-- The position of the sample is not taken. -/
def HeldBackPosition (m : FloatMath) (before : List PoseSample) (x : PoseSample) : Prop :=
  x.freeze = true ∧ x.pose.positionValid = true ∧ x.pose.positionTracked = false ∧
    ∃ y ∈ before, tracksPosition m y = true

structure Result.Finite (r : Result) : Prop where
  orientation : r.orientation.Finite
  position : r.position.Finite
  linearVelocity : r.linearVelocity.Finite
  angularVelocity : r.angularVelocity.Finite

/-- What `sanitize` promises of the sample `x` that comes behind others. -/
structure Firewall (m : FloatMath) (before : List PoseSample) (x : PoseSample) : Prop where
  finite : (resultAfter m before x).Finite
  /-- With the freeze on since, the orientation is that of the latest tracked one. -/
  orientation_held : ∀ first y rest, before ++ [x] = first ++ y :: rest →
    tracksOrientation m y = true →
    (∀ z ∈ rest, z.freeze = true ∧ tracksOrientation m z = false) →
    (resultAfter m before x).orientation = normalizeOrientation m y.pose.orientation
  position_held : ∀ first y rest, before ++ [x] = first ++ y :: rest →
    tracksPosition m y = true →
    (∀ z ∈ rest, z.freeze = true ∧ tracksPosition m z = false) →
    (resultAfter m before x).position = y.pose.position
  still : isSane m x.pose = false ∨ HeldBackOrientation m before x ∨
      HeldBackPosition m before x →
    (resultAfter m before x).linearVelocity = {} ∧ (resultAfter m before x).angularVelocity = {}
  moving : isSane m x.pose = true → ¬ HeldBackOrientation m before x →
    ¬ HeldBackPosition m before x →
    (resultAfter m before x).linearVelocity =
        (if x.pose.linearVelocityValid then x.pose.linearVelocity else {}) ∧
      (resultAfter m before x).angularVelocity =
        if x.pose.angularVelocityValid then x.pose.angularVelocity else {}
  usable : ∀ past y between, before = past ++ y :: between →
    (resultAfter m past y).usable = true → (resultAfter m before x).usable = true
  rejected : isSane m x.pose = false →
    after m (before ++ [x]) =
      { after m before with rejected := (after m before).rejected + 1 }

/-- The code's own test for a component that is held back. -/
theorem heldBackOrientation_iff (before : List PoseSample) (x : PoseSample) :
    (x.pose.orientationValid && !(updateTrackedState (after m before).orientationState
      x.productionTimestamp x.pose.orientationValid x.pose.orientationTracked x.freeze).2) =
        true ↔ HeldBackOrientation m before x := by
  unfold HeldBackOrientation
  rw [(updateTrackedState_spec _ _ _ _ _).2, ← orientation_everTracked]
  cases x.pose.orientationValid <;> cases x.pose.orientationTracked <;> simp

theorem heldBackPosition_iff (before : List PoseSample) (x : PoseSample) :
    (x.pose.positionValid && !(updateTrackedState (after m before).positionState
      x.productionTimestamp x.pose.positionValid x.pose.positionTracked x.freeze).2) =
        true ↔ HeldBackPosition m before x := by
  unfold HeldBackPosition
  rw [(updateTrackedState_spec _ _ _ _ _).2, ← position_everTracked]
  cases x.pose.positionValid <;> cases x.pose.positionTracked <;> simp

/-- A component that is not held back and not invalid is taken. -/
theorem taken_of_not_heldBack {state : TrackedState} {timestamp : ℤ} {valid tracked freeze : Bool}
    (h : ¬ (valid && !(updateTrackedState state timestamp valid tracked freeze).2) = true) :
    (updateTrackedState state timestamp valid tracked freeze).2 = true := by
  rw [(updateTrackedState_spec _ _ _ _ _).2] at h ⊢
  cases valid with
  | false => rfl
  | true =>
    rw [Bool.true_and, Bool.not_eq_true', Bool.not_eq_false] at h
    exact h

theorem resultAfter_still {before : List PoseSample} {x : PoseSample}
    (h : isSane m x.pose = false ∨ HeldBackOrientation m before x ∨
      HeldBackPosition m before x) :
    (resultAfter m before x).linearVelocity = {} ∧
      (resultAfter m before x).angularVelocity = {} := by
  rw [← heldBackOrientation_iff, ← heldBackPosition_iff, ← Bool.or_eq_true] at h
  unfold resultAfter sanitize
  split
  · exact ⟨rfl, rfl⟩
  · rename_i hsane
    have hfrozen := h.resolve_left (by simpa using hsane)
    constructor <;> simp [hfrozen]

theorem resultAfter_moving {before : List PoseSample} {x : PoseSample}
    (hsane : isSane m x.pose = true) (horientation : ¬ HeldBackOrientation m before x)
    (hposition : ¬ HeldBackPosition m before x) :
    (resultAfter m before x).linearVelocity =
        (if x.pose.linearVelocityValid then x.pose.linearVelocity else {}) ∧
      (resultAfter m before x).angularVelocity =
        if x.pose.angularVelocityValid then x.pose.angularVelocity else {} := by
  rw [← heldBackOrientation_iff] at horientation
  rw [← heldBackPosition_iff] at hposition
  have htake := taken_of_not_heldBack horientation
  have htake' := taken_of_not_heldBack hposition
  unfold resultAfter sanitize
  rw [if_neg (by simp [hsane])]
  constructor <;> simp [htake, htake']

theorem resultAfter_finite
    (hnormal : ∀ q, isValidOrientation m q = true → (normalizeOrientation m q).Finite)
    (before : List PoseSample) (x : PoseSample) : (resultAfter m before x).Finite := by
  have horientation : (resultAfter m before x).orientation.Finite := by
    rw [resultAfter_orientation]
    exact (orientationComponent m).forall_after identity_finite _
      fun _ _ => orientationReading_finite hnormal
  have hposition : (resultAfter m before x).position.Finite := by
    rw [resultAfter_position]
    exact (positionComponent m).forall_after zero_finite _ fun _ _ => positionReading_finite
  -- The velocities are zero, or come from this sample, which is sane then
  by_cases hstill : isSane m x.pose = false ∨ HeldBackOrientation m before x ∨
      HeldBackPosition m before x
  · have hzero := resultAfter_still hstill
    refine ⟨horientation, hposition, ?_, ?_⟩
    · rw [hzero.1]
      exact zero_finite
    · rw [hzero.2]
      exact zero_finite
  · rw [not_or, not_or, Bool.not_eq_false] at hstill
    have hown := resultAfter_moving hstill.1 hstill.2.1 hstill.2.2
    have hsane := (isSane_iff x.pose).mp hstill.1
    refine ⟨horientation, hposition, ?_, ?_⟩
    · rw [hown.1]
      split
      · exact finite_of_isFiniteVec (hsane.2.2.1 ‹_›)
      · exact zero_finite
    · rw [hown.2]
      split
      · exact finite_of_isFiniteVec (hsane.2.2.2 ‹_›)
      · exact zero_finite

/-- If normalising gives finite values, `sanitize` keeps its promises for every sample behind
any others. -/
theorem firewall
    (hnormal : ∀ q, isValidOrientation m q = true → (normalizeOrientation m q).Finite)
    (before : List PoseSample) (x : PoseSample) : Firewall m before x where
  finite := resultAfter_finite hnormal before x
  orientation_held := by
    intro first y rest hsplit hy hrest
    rw [resultAfter_orientation, hsplit]
    refine (orientationComponent m).value_after ?_ ?_
    · exact (orientationReading_tracked y).trans (if_pos hy)
    · intro z hz
      refine ⟨(hrest z hz).1, (orientationReading_tracked z).trans ?_⟩
      rw [(hrest z hz).2]
      rfl
  position_held := by
    intro first y rest hsplit hy hrest
    rw [resultAfter_position, hsplit]
    refine (positionComponent m).value_after ?_ ?_
    · exact (positionReading_tracked y).trans (if_pos hy)
    · intro z hz
      refine ⟨(hrest z hz).1, (positionReading_tracked z).trans ?_⟩
      rw [(hrest z hz).2]
      rfl
  still := resultAfter_still
  moving := resultAfter_moving
  usable := by
    intro past y between hsplit husable
    rw [resultAfter_usable, Bool.and_eq_true] at husable ⊢
    have hlist : before ++ [x] = past ++ [y] ++ (between ++ [x]) := by simp [hsplit]
    rw [hlist]
    exact ⟨(orientationComponent m).seen_after _ husable.1,
      (positionComponent m).seen_after _ husable.2⟩
  rejected := by
    intro hsane
    rw [after_append_singleton, sanitize, hsane]
    rfl

theorem firewall_upright :
    Firewall exactMath [sampleAt {} 1] { sampleAt { x := .nan } 2 with freeze := false } :=
  firewall exactMath_normal _ _

end PoseSanitizer

/-! ## The session -/

section Session

open PoseSanitizer

variable {m : FloatMath}

/-- Each device has a sanitizer of its own, which gets the samples of the device in the order
of the packets; what is published of the device are its results. -/
theorem onPoses_device (i : Device) (poses : List (TrackingDevice × PoseSample))
    (s : Device → PoseSanitizer) :
    (onPoses m s poses).1 i = (s i).afterFrom m (samplesOf i poses) ∧
      ((onPoses m s poses).2.filterMap fun r => if r.1 = i then some r.2 else none) =
        (s i).results m (samplesOf i poses) := by
  induction poses generalizing s with
  | nil => exact ⟨rfl, rfl⟩
  | cons p poses ih =>
    unfold onPoses samplesOf
    rw [List.filterMap_cons]
    cases hdevice : ipcDeviceFor p.1 with
    | none => simpa [samplesOf] using ih s
    | some j =>
      dsimp only
      have hrest := ih (Function.update s j
        ((s j).sanitize m p.2.pose p.2.productionTimestamp p.2.freeze).1)
      by_cases hj : j = i
      · subst hj
        rw [Function.update_self] at hrest
        simpa [samplesOf, afterFrom, results] using hrest
      · rw [Function.update_of_ne (Ne.symm hj)] at hrest
        have hne : ¬ some j = some i := by simpa using hj
        simpa [samplesOf, hj, hne] using hrest

/-- Packet after packet is one list of poses. -/
theorem onPoses_append (first rest : List (TrackingDevice × PoseSample))
    (s : Device → PoseSanitizer) :
    onPoses m s (first ++ rest) =
      ((onPoses m (onPoses m s first).1 rest).1,
        (onPoses m s first).2 ++ (onPoses m (onPoses m s first).1 rest).2) := by
  induction first generalizing s with
  | nil => rfl
  | cons p first ih =>
    rw [List.cons_append]
    cases hdevice : ipcDeviceFor p.1 with
    | none =>
      simp only [onPoses, hdevice]
      exact ih s
    | some j =>
      simp only [onPoses, hdevice, ih]
      rfl

theorem onTrackings_eq (packets : List (Tracking × Bool)) (s : Device → PoseSanitizer) :
    onTrackings m s packets = onPoses m s (packets.flatMap fun p => p.1.samples p.2) := by
  induction packets generalizing s with
  | nil => rfl
  | cons p packets ih =>
    rw [List.flatMap_cons, onPoses_append, onTrackings, ih]
    rfl

theorem of_mem_results {samples : List PoseSample} {s : PoseSanitizer} {r : Result}
    (h : r ∈ s.results m samples) :
    ∃ before x rest, samples = before ++ x :: rest ∧
      r = ((s.afterFrom m before).sanitize m x.pose x.productionTimestamp x.freeze).2 := by
  induction samples generalizing s with
  | nil => cases h
  | cons x samples ih =>
    rcases List.mem_cons.mp h with rfl | hrest
    · exact ⟨[], x, samples, rfl, rfl⟩
    · obtain ⟨before, y, rest, hsplit, hr⟩ := ih hrest
      exact ⟨x :: before, y, rest, by rw [hsplit]; rfl, hr⟩

/-- Every pose that is published is what the sanitizer made of a sample of the device, behind
the earlier ones: it is finite, whatever the headset sends. -/
theorem published_finite
    (hnormal : ∀ q, isValidOrientation m q = true → (normalizeOrientation m q).Finite)
    {packets : List (Tracking × Bool)} {i : Device} {r : Result}
    (h : (i, r) ∈ (onTrackings m (fun _ => {}) packets).2) : r.Finite := by
  rw [onTrackings_eq] at h
  have hmem : r ∈ PoseSanitizer.results m {}
      (samplesOf i (packets.flatMap fun p => p.1.samples p.2)) := by
    rw [← (onPoses_device i _ fun _ => {}).2]
    exact List.mem_filterMap.mpr ⟨(i, r), h, if_pos rfl⟩
  obtain ⟨before, x, rest, -, rfl⟩ := of_mem_results hmem
  exact resultAfter_finite hnormal before x

end Session

end WivrnNx
