import WivrnNx.Session.InputState
import WivrnNx.Shim.ControllerDevice

/-!
# A click implies a touch, through both processes

`ClickTouch` is what the comment in `Session::on_inputs` is after: in every update that is
published a pressed button is touched, in the shim as well, and a touch that only a click
stands for ends with it. `clickTouch_iff` says of which sequences of packets that is true, in terms
of what the runtime has reported of a button: the end of a touch is taken for its word while
the click lasts, the trigger and the thumbstick have a bit of `touched` for the click and
another for the touch, and the bit that a click has set is never cleared with it.
-/

namespace WivrnNx

/-! ## What has been reported of a bit -/

/-- The last report about the touch, or about the click. -/
def lastReport (touch : Bool) (reports : List ButtonReport) : Option Bool :=
  (reports.reverse.find? fun r => r.touch == touch).map ButtonReport.down

/-- The touch was reported to have ended, and nothing to have begun since. -/
def TouchEnded (reports : List ButtonReport) : Prop :=
  ∃ before since, reports = before ++ { touch := true, down := false } :: since ∧
    ∀ r ∈ since, r.down = false

theorem lastReport_append_singleton (touch : Bool) (reports : List ButtonReport)
    (r : ButtonReport) :
    lastReport touch (reports ++ [r]) =
      if r.touch = touch then some r.down else lastReport touch reports := by
  unfold lastReport
  rw [List.reverse_append, List.reverse_singleton, List.singleton_append, List.find?_cons]
  by_cases h : r.touch = touch
  · simp [h]
  · have hne : (r.touch == touch) = false := by simpa using h
    rw [if_neg h, hne]

theorem clickHeld_eq (reports : List ButtonReport) :
    clickHeld reports = (lastReport false reports == some true) := by
  induction reports using List.reverseRecOn with
  | nil => rfl
  | append_singleton reports r ih =>
    rw [clickHeld, List.foldl_append, lastReport_append_singleton]
    show clickStep (clickHeld reports) r = _
    rw [clickStep, ih]
    cases r.touch <;> cases r.down <;> simp

/-- A bit that no click is about is what the last touch says. -/
theorem touchHeld_of_touches {reports : List ButtonReport} (h : ∀ r ∈ reports, r.touch = true) :
    touchHeld reports = (lastReport true reports == some true) := by
  induction reports using List.reverseRecOn with
  | nil => rfl
  | append_singleton reports r ih =>
    rw [touchHeld, List.foldl_append, lastReport_append_singleton]
    have hr : r.touch = true := h r (by simp)
    show touchStep (touchHeld reports) r = _
    rw [touchStep, if_pos hr, if_pos hr]
    cases r.down <;> rfl

/-- A bit that no touch is about stays set after the first click. -/
theorem touchHeld_of_clicks {reports : List ButtonReport} (h : ∀ r ∈ reports, r.touch = false) :
    touchHeld reports = false ↔ ∀ r ∈ reports, r.down = false := by
  induction reports using List.reverseRecOn with
  | nil => simp [touchHeld]
  | append_singleton reports r ih =>
    have hr : r.touch = false := h r (by simp)
    have ih := ih fun x hx => h x (List.mem_append_left _ hx)
    rw [touchHeld, List.foldl_append]
    show touchStep (touchHeld reports) r = false ↔ _
    rw [touchStep, hr, if_neg Bool.false_ne_true, Bool.or_eq_false_iff, ih]
    simp [or_imp, forall_and]

/-- The bit is clear if nothing ever began, or a touch was reported to have ended since. -/
theorem touchHeld_eq_false (reports : List ButtonReport) :
    touchHeld reports = false ↔ (∀ r ∈ reports, r.down = false) ∨ TouchEnded reports := by
  induction reports using List.reverseRecOn with
  | nil => simp [touchHeld]
  | append_singleton reports r ih =>
    rw [touchHeld, List.foldl_append]
    show touchStep (touchHeld reports) r = false ↔ _
    rw [touchStep]
    constructor
    · intro h
      by_cases hr : r = { touch := true, down := false }
      · subst hr
        exact .inr ⟨reports, [], rfl, by simp⟩
      · -- Not the end of a touch: the bit was clear, and nothing begins
        have hboth : touchHeld reports = false ∧ r.down = false := by
          cases r with
          | mk touch down => cases touch <;> cases down <;> simp_all
        rcases ih.mp hboth.1 with hnone | ⟨before, since, hsplit, hsince⟩
        · left
          intro x hx
          rcases List.mem_append.mp hx with hx | hx
          · exact hnone x hx
          · rw [List.mem_singleton.mp hx]
            exact hboth.2
        · refine .inr ⟨before, since ++ [r], by rw [hsplit]; simp, ?_⟩
          intro x hx
          rcases List.mem_append.mp hx with hx | hx
          · exact hsince x hx
          · rw [List.mem_singleton.mp hx]
            exact hboth.2
    · rintro (hnone | ⟨before, since, hsplit, hsince⟩)
      · have hr : r.down = false := hnone r (by simp)
        have hclear := ih.mpr (.inl fun x hx => hnone x (List.mem_append_left _ hx))
        rw [hr, hclear]
        split <;> rfl
      · rcases List.eq_nil_or_concat since with rfl | ⟨more, x, rfl⟩
        · have hlast := List.append_inj_right' hsplit rfl
          rw [List.cons.injEq] at hlast
          rw [hlast.1]
          rfl
        · rw [List.concat_eq_append, ← List.cons_append, ← List.append_assoc] at hsplit
          have hlast := List.append_inj_right' hsplit rfl
          have hfirst := List.append_inj_left' hsplit rfl
          rw [List.cons.injEq] at hlast
          have hr : r.down = false := by
            rw [hlast.1]
            exact hsince x (by simp)
          have hclear := ih.mpr (.inr ⟨before, more, hfirst, fun y hy => hsince y (by simp [hy])⟩)
          rw [hr, hclear]
          split <;> rfl

/-! ## The law, and when it holds -/

/-- A button with its two bits, and the input that reports its touch. -/
structure Control where
  device : Device
  click : Button
  touch : Button
  touchId : Option InputId
deriving DecidableEq, Repr

def controls : List Control :=
  [⟨leftController, .x, .x, some .xTouch⟩,
    ⟨leftController, .y, .y, some .yTouch⟩,
    ⟨leftController, .menu, .menu, none⟩,
    ⟨leftController, .triggerClick, .triggerTouch, some .leftTriggerTouch⟩,
    ⟨leftController, .gripClick, .gripClick, none⟩,
    ⟨leftController, .thumbstickClick, .thumbstickTouch, some .leftThumbstickTouch⟩,
    ⟨rightController, .a, .a, some .aTouch⟩,
    ⟨rightController, .b, .b, some .bTouch⟩,
    ⟨rightController, .system, .system, none⟩,
    ⟨rightController, .triggerClick, .triggerTouch, some .rightTriggerTouch⟩,
    ⟨rightController, .gripClick, .gripClick, none⟩,
    ⟨rightController, .thumbstickClick, .thumbstickTouch, some .rightThumbstickTouch⟩]

/-- The runtime never reports the touch of the button. -/
def Control.Untouched (c : Control) (packets : List InputsPacket) : Prop :=
  ∀ v ∈ allValues packets, some v.1 ≠ c.touchId

/-- The components of the shim that have a touch beside the click. -/
def touchOf : List (BoolInput × BoolInput) :=
  [(.triggerClick, .triggerTouch), (.thumbstickClick, .thumbstickTouch)]

/-- What is to hold of an update `u` of the controller `i` that is published while the
runtime has the `packets` to send. -/
structure ClickTouch (packets : List InputsPacket) (i : Device) (u : InputUpdate) : Prop where
  /-- Each set bit of `pressed` is set in `touched`. -/
  touched : u.pressed &&& ~~~u.touched = 0
  applied : ∀ c : ControllerDevice, ∀ x ∈ touchOf, c.boolHandle x.2 = true →
    .bool x.1 true ∈ c.onInputUpdate u → .bool x.2 true ∈ c.onInputUpdate u
  released : ∀ c ∈ controls, c.device = i → c.Untouched packets →
    hasBit u.pressed c.click = false →
    hasBit u.touched c.click = false ∧ hasBit u.touched c.touch = false

/-- What the runtime has to have reported of the controller `i`, in `values`. -/
structure TouchesReported (packets : List InputsPacket) (i : Device)
    (values : List InputValue) : Prop where
  /-- No touch ended before its click. -/
  kept : ∀ k, lastReport false (reportsOf i k values) = some true →
    ¬ TouchEnded (reportsOf i k values)
  /-- A click of the trigger or the thumbstick came with a touch, and this one lasts. -/
  both : ∀ b ∈ [(Button.triggerClick, Button.triggerTouch), (.thumbstickClick, .thumbstickTouch)],
    lastReport false (reportsOf i b.1.index values) = some true →
      lastReport true (reportsOf i b.2.index values) = some true
  /-- A button without touches that is not clicked now has never been clicked. -/
  fresh : ∀ c ∈ controls, c.device = i → c.Untouched packets →
    lastReport false (reportsOf i c.click.index values) ≠ some true →
    ∀ r ∈ reportsOf i c.click.index values, r.down = false

theorem mem_reportsOf {i : Device} {k : ℕ} {values : List InputValue} {r : ButtonReport}
    (hr : r ∈ reportsOf i k values) :
    ∃ v ∈ values, ∃ m ∈ kButtons, m.id = v.1 ∧ m.device = i ∧ m.button.index = k ∧
      m.touch = r.touch := by
  obtain ⟨v, hv, hreport⟩ := List.mem_filterMap.mp hr
  obtain ⟨m, hm, hif⟩ := Option.bind_eq_some_iff.mp hreport
  split at hif
  · rename_i hbit
    cases hif
    have hid : m.id = v.1 := by simpa using List.find?_some hm
    exact ⟨v, hv, m, List.mem_of_find?_eq_some hm, hid, hbit.1, hbit.2, rfl⟩
  · cases hif

/-! ## One published update -/

section Published

variable {isFinite : FloatBits → Bool} {packets : List InputsPacket}

/-- Each set bit of one mask is set in the other. -/
theorem and_not_eq_zero_iff (x y : UInt32) :
    x &&& ~~~y = 0 ↔ ∀ k, x.toBitVec.getLsbD k = true → y.toBitVec.getLsbD k = true := by
  rw [← UInt32.toBitVec_inj, UInt32.toBitVec_and, UInt32.toBitVec_not]
  constructor
  · intro h k hx
    have hk := congrArg (fun v => v.getLsbD k) h
    simp only [BitVec.getLsbD_and, BitVec.getLsbD_not, hx, Bool.true_and] at hk
    have hlt : k < 32 := BitVec.lt_of_getLsbD hx
    simpa [hlt] using hk
  · intro h
    refine BitVec.eq_of_getLsbD_eq ?_
    intro k hk
    have hxy := h k
    cases hx : x.toBitVec.getLsbD k with
    | false => simp [hx]
    | true => simp [hx, hxy hx]

theorem touched_iff (past : List InputsPacket) (i : Device) :
    ((inputStates isFinite past i).pressed &&& ~~~(inputStates isFinite past i).touched = 0) ↔
      ∀ k, lastReport false (reportsOf i k (allValues past)) = some true →
        ¬ TouchEnded (reportsOf i k (allValues past)) := by
  rw [and_not_eq_zero_iff]
  refine forall_congr' ?_
  intro k
  have hbits := @inputStates_bits isFinite past i k
  rw [hbits.1, hbits.2, clickHeld_eq, beq_iff_eq]
  refine imp_congr_right ?_
  intro hclick
  rw [← Bool.not_eq_false, touchHeld_eq_false, not_or]
  -- The click itself is a report that something began
  have hbegan : ¬ ∀ r ∈ reportsOf i k (allValues past), r.down = false := by
    intro hnone
    obtain ⟨r, hr, hdown⟩ := Option.map_eq_some_iff.mp hclick
    have := hnone r (List.mem_reverse.mp (List.mem_of_find?_eq_some hr))
    rw [hdown] at this
    cases this
  exact ⟨fun h => h.2, fun h => ⟨hbegan, h⟩⟩

/-- Only touches are reported of the bits that the shim has the touches from. -/
theorem touchBit_reports {bit : Button} (hbit : bit = .triggerTouch ∨ bit = .thumbstickTouch)
    (i : Device) (values : List InputValue) :
    ∀ r ∈ reportsOf i bit.index values, r.touch = true := by
  have htable : ∀ m ∈ kButtons, m.button.index = bit.index → m.touch = true := by
    rcases hbit with rfl | rfl <;> decide
  intro r hr
  obtain ⟨v, -, m, hm, -, -, hindex, htouch⟩ := mem_reportsOf hr
  rw [← htouch]
  exact htable m hm hindex

/-- A component of the shim and its touch, against the reports of their bits. -/
theorem applied_pair {past : List InputsPacket} {i : Device} {x y : BoolInput} {click bit : Button}
    (hx : ∀ (c : ControllerDevice) u, c.boolValue u x = hasBit u.pressed click)
    (hy : ∀ (c : ControllerDevice) u,
      c.boolValue u y = (hasBit u.touched bit || hasBit u.pressed bit))
    (hbit : bit = .triggerTouch ∨ bit = .thumbstickTouch) :
    (∀ c : ControllerDevice, c.boolHandle y = true →
      .bool x true ∈ c.onInputUpdate (inputStates isFinite past i) →
      .bool y true ∈ c.onInputUpdate (inputStates isFinite past i)) ↔
      (lastReport false (reportsOf i click.index (allValues past)) = some true →
        lastReport true (reportsOf i bit.index (allValues past)) = some true) := by
  have htouches := touchBit_reports hbit i (allValues past)
  have hclick : hasBit (inputStates isFinite past i).pressed click = true ↔
      lastReport false (reportsOf i click.index (allValues past)) = some true := by
    rw [hasBit_eq, (inputStates_bits past i _).1, clickHeld_eq, beq_iff_eq]
  have htouch : (hasBit (inputStates isFinite past i).touched bit ||
      hasBit (inputStates isFinite past i).pressed bit) = true ↔
        lastReport true (reportsOf i bit.index (allValues past)) = some true := by
    have hnone : lastReport false (reportsOf i bit.index (allValues past)) = none := by
      rw [lastReport, Option.map_eq_none_iff, List.find?_eq_none]
      intro r hr
      simp [htouches r (List.mem_reverse.mp hr)]
    rw [hasBit_eq, hasBit_eq, (inputStates_bits past i _).1, (inputStates_bits past i _).2,
      clickHeld_eq, hnone, touchHeld_of_touches htouches]
    simp
  constructor
  · intro h hlast
    have hfull := h { device := (inputStates isFinite past i).device } rfl
    rw [ControllerDevice.mem_onInputUpdate, ControllerDevice.mem_onInputUpdate, hx, hy] at hfull
    have htakes : ({ device := (inputStates isFinite past i).device } :
        ControllerDevice).takes (inputStates isFinite past i) = true := by
      simp [ControllerDevice.takes]
    exact htouch.mp (hfull ⟨htakes, rfl, (hclick.mpr hlast).symm⟩).2.2.symm
  · intro h c hhandle hmem
    rw [ControllerDevice.mem_onInputUpdate] at hmem ⊢
    rw [hx] at hmem
    rw [hy]
    exact ⟨hmem.1, hhandle, (htouch.mpr (h (hclick.mp hmem.2.2.symm))).symm⟩

theorem applied_iff {past : List InputsPacket} {i : Device} :
    (∀ c : ControllerDevice, ∀ x ∈ touchOf, c.boolHandle x.2 = true →
      .bool x.1 true ∈ c.onInputUpdate (inputStates isFinite past i) →
      .bool x.2 true ∈ c.onInputUpdate (inputStates isFinite past i)) ↔
      ∀ b ∈ [(Button.triggerClick, Button.triggerTouch), (.thumbstickClick, .thumbstickTouch)],
        lastReport false (reportsOf i b.1.index (allValues past)) = some true →
          lastReport true (reportsOf i b.2.index (allValues past)) = some true := by
  have htrigger := @applied_pair isFinite past i .triggerClick .triggerTouch .triggerClick
    .triggerTouch (fun _ _ => rfl) (fun _ _ => rfl) (.inl rfl)
  have hthumbstick := @applied_pair isFinite past i .thumbstickClick .thumbstickTouch
    .thumbstickClick .thumbstickTouch (fun _ _ => rfl) (fun _ _ => rfl) (.inr rfl)
  simp only [touchOf, List.forall_mem_cons, List.not_mem_nil, IsEmpty.forall_iff, implies_true,
    and_true]
  rw [← htrigger, ← hthumbstick, forall_and]

/-- The reports of the bits of a button whose touch is never reported. -/
theorem untouched_reports {c : Control} (hc : c ∈ controls) {values : List InputValue}
    (hvalues : ∀ v ∈ values, some v.1 ≠ c.touchId) :
    (∀ r ∈ reportsOf c.device c.click.index values, r.touch = false) ∧
      ∀ r ∈ reportsOf c.device c.touch.index values,
        r ∈ reportsOf c.device c.click.index values := by
  have htable : ∀ c ∈ controls, ∀ m ∈ kButtons, m.device = c.device →
      (m.button.index = c.click.index ∨ m.button.index = c.touch.index) → m.touch = true →
        some m.id = c.touchId := by
    decide
  have hclicks : ∀ c ∈ controls, ∀ m ∈ kButtons, m.device = c.device →
      m.button.index = c.touch.index → m.touch = false → c.touch.index = c.click.index := by
    decide
  have huntouched : ∀ k, k = c.click.index ∨ k = c.touch.index →
      ∀ r ∈ reportsOf c.device k values, r.touch = false := by
    intro k hk r hr
    obtain ⟨v, hv, m, hm, hid, hdevice, hindex, htouch⟩ := mem_reportsOf hr
    rw [← Bool.not_eq_true, ← htouch]
    intro ht
    refine hvalues v hv ?_
    rw [← hid]
    exact htable c hc m hm hdevice (by rw [hindex]; exact hk) ht
  refine ⟨huntouched _ (.inl rfl), ?_⟩
  intro r hr
  obtain ⟨v, -, m, hm, -, hdevice, hindex, htouch⟩ := mem_reportsOf hr
  have hsame := hclicks c hc m hm hdevice hindex (htouch.trans (huntouched _ (.inr rfl) r hr))
  rw [hsame] at hr
  exact hr

theorem released_iff {past : List InputsPacket} {i : Device}
    (hpast : ∀ v ∈ allValues past, v ∈ allValues packets) :
    (∀ c ∈ controls, c.device = i → c.Untouched packets →
      hasBit (inputStates isFinite past i).pressed c.click = false →
      hasBit (inputStates isFinite past i).touched c.click = false ∧
        hasBit (inputStates isFinite past i).touched c.touch = false) ↔
      ∀ c ∈ controls, c.device = i → c.Untouched packets →
        lastReport false (reportsOf i c.click.index (allValues past)) ≠ some true →
        ∀ r ∈ reportsOf i c.click.index (allValues past), r.down = false := by
  refine forall₄_congr ?_
  rintro c hc rfl huntouched
  have hreports := untouched_reports hc fun v hv => huntouched v (hpast v hv)
  have hclick : hasBit (inputStates isFinite past c.device).pressed c.click = false ↔
      lastReport false (reportsOf c.device c.click.index (allValues past)) ≠ some true := by
    rw [hasBit_eq, (inputStates_bits past c.device _).1, clickHeld_eq, beq_eq_false_iff_ne]
  have htouches : ∀ r ∈ reportsOf c.device c.touch.index (allValues past), r.touch = false :=
    fun r hr => hreports.1 r (hreports.2 r hr)
  rw [hclick, hasBit_eq, hasBit_eq, (inputStates_bits past c.device _).2,
    (inputStates_bits past c.device _).2, touchHeld_of_clicks hreports.1,
    touchHeld_of_clicks htouches]
  refine imp_congr_right ?_
  intro _
  exact ⟨fun h => h.1, fun h => ⟨h, fun r hr => h r (hreports.2 r hr)⟩⟩

/-- One update, against the reports so far. -/
theorem clickTouch_inputStates {past : List InputsPacket} {i : Device}
    (hpast : ∀ v ∈ allValues past, v ∈ allValues packets) :
    ClickTouch packets i (inputStates isFinite past i) ↔
      TouchesReported packets i (allValues past) := by
  constructor
  · intro h
    exact ⟨(touched_iff past i).mp h.touched, applied_iff.mp h.applied,
      (released_iff hpast).mp h.released⟩
  · intro h
    exact ⟨(touched_iff past i).mpr h.kept, applied_iff.mpr h.both,
      (released_iff hpast).mpr h.fresh⟩

end Published

/-! ## Every sequence of packets -/

/-- Inputs belong to the two controllers. -/
theorem valueDevice_mem {id : InputId} {i : Device} (h : valueDevice id = some i) :
    i ∈ [leftController, rightController] := by
  have hbuttons : ∀ m ∈ kButtons, m.device ∈ [leftController, rightController] := by decide
  unfold valueDevice at h
  split at h
  · rename_i m hm
    cases h
    exact hbuttons m (List.mem_of_find?_eq_some hm)
  · obtain ⟨target, htarget, rfl⟩ := Option.map_eq_some_iff.mp h
    cases id with
    | leftTriggerValue | leftSqueezeValue | leftThumbstickX | leftThumbstickY =>
      cases htarget
      decide
    | rightTriggerValue | rightSqueezeValue | rightThumbstickX | rightThumbstickY =>
      cases htarget
      decide
    | _ => cases htarget

theorem Device.byte_injective : Function.Injective Device.byte := by
  intro i j h
  revert i j
  decide

/-- In every update that is published, a click implies a touch while it lasts and no longer,
exactly if every packet finds the touches of its controllers reported with their clicks. -/
theorem clickTouch_iff (isFinite : FloatBits → Bool) (packets : List InputsPacket) :
    (∀ past packet future, packets = past ++ packet :: future →
      ∀ u ∈ publishedAfter isFinite past packet, ∀ i, u.device = Device.byte i →
        ClickTouch packets i u) ↔
      ∀ past packet future, packets = past ++ packet :: future →
        ∀ i, (∃ v ∈ packet.values, valueDevice v.1 = some i) →
          TouchesReported packets i (allValues (past ++ [packet])) := by
  refine forall₄_congr ?_
  intro past packet future hsplit
  have hpast : ∀ v ∈ allValues (past ++ [packet]), v ∈ allValues packets := by
    intro v hv
    rw [hsplit]
    have hall : allValues (past ++ packet :: future) =
        allValues (past ++ [packet]) ++ allValues future := by
      simp [allValues]
    rw [hall]
    exact List.mem_append_left _ hv
  constructor
  · rintro h i ⟨v, hv, hdevice⟩
    have hi := valueDevice_mem hdevice
    refine (@clickTouch_inputStates isFinite packets _ i hpast).mp (h _ ?_ i ?_)
    · exact mem_publishedAfter.mpr ⟨i, hi, ⟨v, hv, hdevice⟩, rfl⟩
    · exact inputStates_device hi ⟨v, hv, hdevice⟩
  · intro h u hu j hj
    obtain ⟨i, hi, hnamed, rfl⟩ := mem_publishedAfter.mp hu
    rw [inputStates_device hi hnamed] at hj
    have hij := Device.byte_injective hj
    subst hij
    exact (clickTouch_inputStates hpast).mpr (h i hnamed)

/-- X is clicked, and its touch sensor says that no finger is there. -/
def leftTheKey : InputsPacket :=
  { timeQpc := 0, values := [(.xClick, oneBits), (.xTouch, 0)] }

/-- The published update has X pressed and not touched. -/
theorem pressed_untouched :
    ∃ u ∈ publishedAfter (fun _ => true) [] leftTheKey,
      u.device = Device.byte leftController ∧ ¬ ClickTouch [leftTheKey] leftController u := by
  refine ⟨inputStates (fun _ => true) [leftTheKey] leftController, ?_, ?_, ?_⟩
  · exact mem_publishedAfter.mpr
      ⟨leftController, by decide, ⟨_, List.mem_cons_self, by decide⟩, rfl⟩
  · decide +kernel
  · intro h
    have hmasks := h.touched
    revert hmasks
    decide +kernel

end WivrnNx
