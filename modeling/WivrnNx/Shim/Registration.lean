import WivrnNx.Bridge
import WivrnNx.Lib.Numerals
import WivrnNx.Lib.Runs

/-!
# Registering the devices with vrserver

`TrackedDeviceAdded` is only called in `RunFrame`: the IPC thread leaves a request with
`set_config` or `on_device_add` (shim/src/hmd_device.cpp, controller_device.cpp), and
`register_pending_devices` (shim/src/driver_provider.cpp) takes one device a frame, the
headset first. The two threads meet in the atomics `registered_` and `registration_wanted_`
of each device, and every access to them is a step.

- `step`: the two threads;
- `Inv`, `step_inv`: what holds between any two steps;
- `registration`: no device is registered twice or unasked, no request is lost, and how long
  one may wait.
-/

open scoped Numerals

namespace WivrnNx.Registration

/-- The atomics of `HmdDevice` and `ControllerDevice`. -/
structure Flags where
  registered : Bool := false
  wanted : Bool := false

/-- Where the IPC thread is in `set_config` or `on_device_add`. -/
inductive Announcing where
  | idle
  /-- The config or `connected_` is stored, `registered_` is not read yet. -/
  | stored (d : Device)
  /-- `registered_` was false. -/
  | unregistered (d : Device)
deriving DecidableEq

/-- Where vrserver's thread is in `register_pending_devices`. -/
inductive Registering where
  | idle
  /-- In `consume_registration_request`, before it reads `registered_`. -/
  | looking (d : Device)
  /-- `registered_` was false. -/
  | free (d : Device)
  /-- `registration_wanted_` was true, and is false now. -/
  | taken (d : Device)
  /-- In `TrackedDeviceAdded`, with `registered_` set. -/
  | offering (d : Device)
  /-- Which returned false. -/
  | refused (d : Device)
  /-- In `registration_failed`, with `registered_` taken back. -/
  | cleared (d : Device)
deriving DecidableEq

structure System where
  flags : Device → Flags := fun _ => {}
  /-- `connected_` of the controllers. -/
  connected : Device → Bool := fun _ => false
  announcing : Announcing := .idle
  registering : Registering := .idle
  /-- The devices that the helper announced. -/
  asked : Device → Bool := fun _ => false
  /-- The answers of `TrackedDeviceAdded`. -/
  added : Device → ℕ := fun _ => 0
  refusals : Device → ℕ := fun _ => 0
  /-- The devices with a request when the frame began. -/
  pending : Device → Bool := fun _ => false
  /-- The frames that began with a request of the device and are over. -/
  waited : Device → ℕ := fun _ => 0

inductive Event where
  /-- The callbacks of the pipe client. -/
  | setConfig
  | deviceAdd (d : Device)
  | pose (d : Device) (connected : Bool)
  | deviceRemove (d : Device)
  | helperDisconnected
  /-- The two accesses of `set_config` and `on_device_add`. -/
  | readRegistered
  | want
  /-- `RunFrame`, and the accesses of `consume_registration_request`. -/
  | runFrame
  | look
  | exchange
  | offer
  | answer (ok : Bool)
  /-- Those of `registration_failed`. -/
  | clear
  | wantAgain

/-- The start of `set_config`. -/
def System.announce (s : System) (d : Device) : System :=
  { s with announcing := .stored d, asked := Function.update s.asked d true }

/-- The start of `on_device_add`. -/
def System.deviceAdd (s : System) (d : Device) : System :=
  { s.announce d with connected := Function.update s.connected d true }

def System.setFlags (s : System) (d : Device) (flags : Flags) : System :=
  { s with flags := Function.update s.flags d flags }

@[simp] theorem System.setFlags_self (s : System) (d : Device) (flags : Flags) :
    (s.setFlags d flags).flags d = flags := by
  simp [System.setFlags]

@[simp] theorem System.setFlags_added (s : System) (d : Device) (flags : Flags) :
    (s.setFlags d flags).added = s.added := rfl

theorem System.setFlags_of_ne (s : System) {d i : Device} (h : i ≠ d) (flags : Flags) :
    (s.setFlags d flags).flags i = s.flags i := by
  simp [System.setFlags, h]

/-- `register_pending_devices` returns. -/
def System.endFrame (s : System) : System :=
  { s with
    registering := .idle
    pending := fun _ => false
    waited := fun d => if s.pending d then s.waited d + 1 else s.waited d }

/-- `consume_registration_request` was false: the headset, the left and then the right. -/
def System.onward (s : System) (d : Device) : System :=
  if d = 0 then { s with registering := .looking 1 }
  else if d = 1 then { s with registering := .looking 2 }
  else s.endFrame

def step (s : System) : Event → Option System
  | .setConfig => if s.announcing = .idle then some (s.announce 0) else none
  | .deviceAdd d =>
    if s.announcing = .idle then some (if d = 0 then s else s.deviceAdd d) else none
  | .pose d connected =>
    if s.announcing = .idle then
      -- A connected pose of a controller that is gone announces it
      some (if connected && d ≠ 0 && !s.connected d then s.deviceAdd d else s)
    else none
  | .deviceRemove d =>
    if s.announcing = .idle then
      some { s with connected := Function.update s.connected d false }
    else none
  | .helperDisconnected =>
    if s.announcing = .idle then some { s with connected := fun _ => false } else none
  | .readRegistered =>
    match s.announcing with
    | .stored d =>
      some { s with announcing := if (s.flags d).registered then .idle else .unregistered d }
    | _ => none
  | .want =>
    match s.announcing with
    | .unregistered d =>
      some { s.setFlags d { s.flags d with wanted := true } with announcing := .idle }
    | _ => none
  | .runFrame =>
    if s.registering = .idle then
      some { s with
        registering := .looking 0
        pending := fun d => (s.flags d).wanted && !(s.flags d).registered }
    else none
  | .look =>
    match s.registering with
    | .looking d =>
      some (if (s.flags d).registered then s.onward d else { s with registering := .free d })
    | _ => none
  | .exchange =>
    match s.registering with
    | .free d =>
      some (if (s.flags d).wanted then
        { s.setFlags d { s.flags d with wanted := false } with registering := .taken d }
      else s.onward d)
    | _ => none
  | .offer =>
    match s.registering with
    | .taken d =>
      some { s.setFlags d { s.flags d with registered := true } with registering := .offering d }
    | _ => none
  | .answer ok =>
    match s.registering with
    | .offering d =>
      some (if ok then ({ s with added := Function.update s.added d (s.added d + 1) }).endFrame
      else
        { s with
          refusals := Function.update s.refusals d (s.refusals d + 1), registering := .refused d })
    | _ => none
  | .clear =>
    match s.registering with
    | .refused d =>
      some { s.setFlags d { s.flags d with registered := false } with registering := .cleared d }
    | _ => none
  | .wantAgain =>
    match s.registering with
    | .cleared d => some (s.setFlags d { s.flags d with wanted := true }).endFrame
    | _ => none

/-! ## The invariant -/

/-- The answers that the devices up to `d` got. -/
def answers (s : System) (d : Device) : ℕ := ∑ i ∈ Finset.Iic d, (s.added i + s.refusals i)

/-- `registered_` says that vrserver has the device, or is being offered it. -/
def Offered (s : System) (d : Device) : Prop :=
  s.registering = .offering d ∨ s.registering = .refused d

instance (s : System) (d : Device) : Decidable (Offered s d) := by
  unfold Offered
  infer_instance

/-- The frame in progress has its answer. -/
def Registering.answered : Registering → Bool
  | .refused _ | .cleared _ => true
  | _ => false

/-- The frame in progress has a device in hand. -/
def Registering.holds : Registering → Option Device
  | .taken d | .offering d | .refused d | .cleared d => some d
  | _ => none

/-- The frame is still on its way to the devices that had a request when it began. -/
def Ahead (s : System) (d : Device) : Prop :=
  match s.registering with
  | .idle => False
  | .looking i | .free i => i ≤ d ∧ (s.flags d).wanted = true ∧ (s.flags d).registered = false
  | .taken i | .offering i | .refused i | .cleared i => i ≤ d

structure Inv (s : System) : Prop where
  registered : ∀ d, s.added d + (if Offered s d then 1 else 0) =
    if (s.flags d).registered then 1 else 0
  unregistered : ∀ d, s.registering = .free d ∨ s.registering = .taken d ∨
    s.registering = .cleared d → (s.flags d).registered = false
  /-- No request is lost. -/
  sought : ∀ d, s.asked d = true → (s.flags d).registered = true ∨ (s.flags d).wanted = true ∨
    s.announcing = .stored d ∨ s.announcing = .unregistered d ∨ s.registering = .taken d ∨
      s.registering = .cleared d
  /-- And none made up. -/
  asked : ∀ d, (s.flags d).wanted = true ∨ (s.flags d).registered = true ∨
    s.announcing = .stored d ∨ s.announcing = .unregistered d ∨ s.registering.holds = some d →
      s.asked d = true
  ahead : ∀ d, s.pending d = true → Ahead s d
  waited : ∀ d, s.waited d + (if s.pending d && s.registering.answered then 1 else 0) ≤
    answers s d

/-! ## The IPC thread -/

/-- What a step of the IPC thread leaves as it was. -/
structure Beside (s s' : System) : Prop where
  registering : s'.registering = s.registering
  registered : ∀ d, (s'.flags d).registered = (s.flags d).registered
  wanted : ∀ d, (s.flags d).wanted = true → (s'.flags d).wanted = true
  added : s'.added = s.added
  refusals : s'.refusals = s.refusals
  pending : s'.pending = s.pending
  waited : s'.waited = s.waited

/-- Such a step only has to show what became of the requests. -/
theorem Inv.beside {s s' : System} (h : Inv s) (hs : Beside s s')
    (hsought : ∀ d, s'.asked d = true → s.asked d = true ∨ s'.announcing = .stored d)
    (hkept : ∀ d, s.announcing = .stored d ∨ s.announcing = .unregistered d →
      (s'.flags d).registered = true ∨ (s'.flags d).wanted = true ∨ s'.announcing = .stored d ∨
        s'.announcing = .unregistered d)
    (hasked : ∀ d, (s'.flags d).wanted = true ∨ s'.announcing = .stored d ∨
      s'.announcing = .unregistered d →
        s'.asked d = true)
    (hmore : ∀ d, s.asked d = true → s'.asked d = true) : Inv s' where
  registered d := by
    have hd := h.registered d
    simp only [Offered, hs.registering, hs.added, hs.registered d] at hd ⊢
    exact hd
  unregistered d := by
    rw [hs.registering, hs.registered d]
    exact h.unregistered d
  sought d hd := by
    rw [hs.registering]
    rcases hsought d hd with hbefore | hnow
    · rcases h.sought d hbefore with hr | hw | ha | ha | ht
      · exact .inl ((hs.registered d).trans hr)
      · exact .inr (.inl (hs.wanted d hw))
      · have := hkept d (.inl ha)
        tauto
      · have := hkept d (.inr ha)
        tauto
      · exact .inr (.inr (.inr (.inr ht)))
    · exact .inr (.inr (.inl hnow))
  asked d hd := by
    rw [hs.registering, hs.registered d] at hd
    rcases hd with hw | hr | ha | ha | hholds
    · exact hasked d (.inl hw)
    · exact hmore d (h.asked d (.inr (.inl hr)))
    · exact hasked d (.inr (.inl ha))
    · exact hasked d (.inr (.inr ha))
    · exact hmore d (h.asked d (.inr (.inr (.inr (.inr hholds)))))
  ahead d hd := by
    rw [hs.pending] at hd
    have hahead := h.ahead d hd
    unfold Ahead at hahead ⊢
    rw [hs.registering]
    split at hahead
    · exact hahead
    · obtain ⟨hle, hw, hr⟩ := hahead
      exact ⟨hle, hs.wanted d hw, (hs.registered d).trans hr⟩
    · obtain ⟨hle, hw, hr⟩ := hahead
      exact ⟨hle, hs.wanted d hw, (hs.registered d).trans hr⟩
    all_goals exact hahead
  waited d := by
    have hd := h.waited d
    simp only [answers, hs.registering, hs.added, hs.refusals, hs.pending, hs.waited] at hd ⊢
    exact hd

theorem announce_inv {s : System} (h : Inv s) (hidle : s.announcing = .idle) (d : Device) :
    Inv (s.announce d) := by
  refine h.beside ⟨rfl, fun _ => rfl, fun _ hw => hw, rfl, rfl, rfl, rfl⟩ ?_ ?_ ?_ ?_
  · intro i hi
    by_cases hd : i = d
    · exact .inr (congrArg Announcing.stored hd.symm)
    · exact .inl (by simpa [System.announce, hd] using hi)
  · intro i hi
    rw [hidle] at hi
    rcases hi with hi | hi <;> cases hi
  · intro i hi
    by_cases hd : i = d
    · simp [System.announce, hd]
    · have hw : (s.flags i).wanted = true := by
        simpa [System.announce, Ne.symm hd] using hi
      simpa [System.announce, hd] using h.asked i (.inl hw)
  · intro i hi
    by_cases hd : i = d
    · simp [System.announce, hd]
    · simpa [System.announce, hd] using hi

/-- `connected_` is of no concern to the registration. -/
theorem Inv.reconnected {s : System} (h : Inv s) (connected : Device → Bool) :
    Inv { s with connected := connected } :=
  ⟨h.registered, h.unregistered, h.sought, h.asked, h.ahead, h.waited⟩

theorem readRegistered_inv {s : System} (h : Inv s) {d : Device} (hstored : s.announcing = .stored d) :
    Inv { s with announcing := if (s.flags d).registered then .idle else .unregistered d } := by
  refine h.beside ⟨rfl, fun _ => rfl, fun _ hw => hw, rfl, rfl, rfl, rfl⟩ (fun _ hi => .inl hi)
    ?_ ?_ (fun _ hi => hi)
  · intro i hi
    rw [hstored] at hi
    have hd : d = i := by simpa using hi
    subst hd
    cases hregistered : (s.flags d).registered with
    | true => exact .inl rfl
    | false => exact .inr (.inr (.inr rfl))
  · intro i hi
    rcases hi with hw | ha | ha
    · exact h.asked i (.inl hw)
    · dsimp only at ha
      split at ha <;> cases ha
    · dsimp only at ha
      split at ha <;> cases ha
      exact h.asked d (.inr (.inr (.inl hstored)))

theorem want_inv {s : System} (h : Inv s) {d : Device} (hunregistered : s.announcing = .unregistered d) :
    Inv { s.setFlags d { s.flags d with wanted := true } with announcing := .idle } := by
  let flags : Flags := { s.flags d with wanted := true }
  have hself : (s.setFlags d flags).flags d = flags := s.setFlags_self d flags
  have hother : ∀ i, i ≠ d → (s.setFlags d flags).flags i = s.flags i :=
    fun i hi => s.setFlags_of_ne hi flags
  have hregistered : ∀ i, ((s.setFlags d flags).flags i).registered = (s.flags i).registered := by
    intro i
    by_cases hi : i = d
    · rw [hi, hself]
    · rw [hother i hi]
  refine h.beside ⟨rfl, hregistered, ?_, rfl, rfl, rfl, rfl⟩ (fun _ hi => .inl hi) ?_ ?_
    (fun _ hi => hi)
  · intro i hw
    by_cases hi : i = d
    · rw [hi]
      exact congrArg Flags.wanted hself
    · exact (congrArg Flags.wanted (hother i hi)).trans hw
  · intro i hi
    rw [hunregistered] at hi
    have hd : d = i := by simpa using hi
    rw [← hd]
    exact .inr (.inl (congrArg Flags.wanted hself))
  · intro i hi
    by_cases hd : i = d
    · rw [hd]
      exact h.asked d (.inr (.inr (.inr (.inl hunregistered))))
    · rcases hi with hw | ha | ha
      · exact h.asked i (.inl ((congrArg Flags.wanted (hother i hd)).symm.trans hw))
      · cases ha
      · cases ha

/-! ## vrserver's thread -/

/-- What the end of a frame has to show. -/
theorem endFrame_inv {s : System}
    (hregistered : ∀ d, s.added d = if (s.flags d).registered then 1 else 0)
    (hsought : ∀ d, s.asked d = true → (s.flags d).registered = true ∨
      (s.flags d).wanted = true ∨ s.announcing = .stored d ∨ s.announcing = .unregistered d)
    (hasked : ∀ d, (s.flags d).wanted = true ∨ (s.flags d).registered = true ∨
      s.announcing = .stored d ∨ s.announcing = .unregistered d → s.asked d = true)
    (hwaited : ∀ d, s.waited d + (if s.pending d then 1 else 0) ≤ answers s d) :
    Inv s.endFrame where
  registered d := hregistered d
  unregistered d hd := by
    rcases hd with hd | hd | hd <;> cases hd
  sought d hd := by
    have := hsought d hd
    tauto
  asked d hd := by
    rcases hd with hd | hd | hd | hd | hd
    · exact hasked d (.inl hd)
    · exact hasked d (.inr (.inl hd))
    · exact hasked d (.inr (.inr (.inl hd)))
    · exact hasked d (.inr (.inr (.inr hd)))
    · cases hd
  ahead d hd := by cases hd
  waited d := by
    have hd := hwaited d
    change (if s.pending d then s.waited d + 1 else s.waited d) + 0 ≤ answers s d
    split
    · rename_i hpending
      rw [if_pos hpending] at hd
      omega
    · rename_i hpending
      rw [if_neg hpending] at hd
      omega

/-- With nothing in hand, `registered_` is what vrserver has. -/
theorem Inv.added_eq {s : System} (h : Inv s) (hholds : s.registering.holds = none) (d : Device) :
    s.added d = if (s.flags d).registered then 1 else 0 := by
  have hd := h.registered d
  have hnot : ¬ Offered s d := by
    rintro (ho | ho) <;> rw [ho] at hholds <;> cases hholds
  rw [if_neg hnot] at hd
  omega

/-- Nor is any request on its way back. -/
theorem Inv.seeks {s : System} (h : Inv s) (hholds : s.registering.holds = none) {d : Device}
    (hd : s.asked d = true) : (s.flags d).registered = true ∨ (s.flags d).wanted = true ∨
      s.announcing = .stored d ∨ s.announcing = .unregistered d := by
  rcases h.sought d hd with hr | hw | ha | ha | ht | ht
  · exact .inl hr
  · exact .inr (.inl hw)
  · exact .inr (.inr (.inl ha))
  · exact .inr (.inr (.inr ha))
  · rw [ht] at hholds
    cases hholds
  · rw [ht] at hholds
    cases hholds

/-- The thread looks at the next device, with all requests of the frame at it or behind it. -/
theorem looking_inv {s : System} (h : Inv s) (hholds : s.registering.holds = none)
    (hanswered : s.registering.answered = false) (pending : Device → Bool) {d : Device}
    (hlater : ∀ i, pending i = true → d ≤ i ∧ (s.flags i).wanted = true ∧
      (s.flags i).registered = false) :
    Inv { s with registering := .looking d, pending := pending } where
  registered i := by
    have hi := h.added_eq hholds i
    have hnot : ¬ Offered { s with registering := .looking d, pending := pending } i := by
      rintro (ho | ho) <;> cases ho
    rw [if_neg hnot]
    exact hi
  unregistered i hi := by
    rcases hi with hi | hi | hi <;> cases hi
  sought i hi := by
    have := h.seeks hholds hi
    tauto
  asked i hi := by
    refine h.asked i ?_
    rcases hi with hi | hi | hi | hi | hi
    · exact .inl hi
    · exact .inr (.inl hi)
    · exact .inr (.inr (.inl hi))
    · exact .inr (.inr (.inr (.inl hi)))
    · cases hi
  ahead i hi := hlater i hi
  waited i := by
    have hi := h.waited i
    rw [hanswered, Bool.and_false, if_neg Bool.false_ne_true] at hi
    change s.waited i + (if (pending i && false) = true then 1 else 0) ≤ _
    rw [Bool.and_false, if_neg Bool.false_ne_true]
    exact hi

theorem behind_hmd : ∀ i : Device, 0 < i → 1 ≤ i := by decide

theorem behind_left : ∀ i : Device, 1 < i → 2 ≤ i := by decide

theorem right_last : ∀ d i : Device, d ≠ 0 → d ≠ 1 → ¬ d < i := by decide

/-- The frame goes on behind `d`, which has no request to take. -/
theorem onward_inv {s : System} (h : Inv s) {d : Device}
    (hat : s.registering = .looking d ∨ s.registering = .free d)
    (hnone : (s.flags d).registered = true ∨ (s.flags d).wanted = false) : Inv (s.onward d) := by
  have hholds : s.registering.holds = none := by rcases hat with hat | hat <;> rw [hat] <;> rfl
  have hanswered : s.registering.answered = false := by
    rcases hat with hat | hat <;> rw [hat] <;> rfl
  have hlater : ∀ i, s.pending i = true → d < i ∧ (s.flags i).wanted = true ∧
      (s.flags i).registered = false := by
    intro i hi
    have hahead := h.ahead i hi
    have hahead : d ≤ i ∧ (s.flags i).wanted = true ∧ (s.flags i).registered = false := by
      unfold Ahead at hahead
      rcases hat with hat | hat <;> rw [hat] at hahead <;> exact hahead
    refine ⟨lt_of_le_of_ne hahead.1 ?_, hahead.2⟩
    rintro rfl
    rcases hnone with hr | hw
    · rw [hr] at hahead
      cases hahead.2.2
    · rw [hw] at hahead
      cases hahead.2.1
  unfold System.onward
  split
  · rename_i hd
    subst hd
    exact looking_inv h hholds hanswered s.pending
      fun i hi => ⟨behind_hmd i (hlater i hi).1, (hlater i hi).2⟩
  · rename_i hhmd
    split
    · rename_i hd
      subst hd
      exact looking_inv h hholds hanswered s.pending
        fun i hi => ⟨behind_left i (hlater i hi).1, (hlater i hi).2⟩
    · rename_i hleft
      -- The right controller was the last, so that no request is left over
      have hover : ∀ i, s.pending i = false := by
        intro i
        by_contra hi
        exact right_last d i hhmd hleft (hlater i (Bool.not_eq_false _ ▸ hi)).1
      refine endFrame_inv (h.added_eq hholds) (fun _ hi => h.seeks hholds hi) ?_ ?_
      · intro i hi
        have := h.asked i
        tauto
      · intro i
        have hi := h.waited i
        rw [hanswered, Bool.and_false, if_neg Bool.false_ne_true] at hi
        rw [hover i, if_neg Bool.false_ne_true]
        exact hi

/-- One more answer for `d` is one more for every device behind it. -/
theorem sum_one_more (f : Device → ℕ) (d i : Device) :
    ∑ j ∈ Finset.Iic i, Function.update f d (f d + 1) j =
      (∑ j ∈ Finset.Iic i, f j) + if d ≤ i then 1 else 0 := by
  have hsplit : ∀ j, Function.update f d (f d + 1) j = f j + if j = d then 1 else 0 := by
    intro j
    by_cases hj : j = d
    · rw [hj, Function.update_self, if_pos rfl]
    · rw [Function.update_of_ne hj, if_neg hj]
      rfl
  simp [hsplit, Finset.sum_add_distrib]

theorem answers_added (s : System) (d i : Device) :
    answers { s with added := Function.update s.added d (s.added d + 1) } i =
      answers s i + if d ≤ i then 1 else 0 := by
  simp only [answers, Finset.sum_add_distrib, sum_one_more]
  omega

theorem answers_refused (s : System) (d i : Device) (registering : Registering) :
    answers { s with
      refusals := Function.update s.refusals d (s.refusals d + 1), registering := registering } i =
        answers s i + if d ≤ i then 1 else 0 := by
  simp only [answers, Finset.sum_add_distrib, sum_one_more]
  omega

/-- A step of the frame with `d` that leaves the other devices alone. -/
structure With (s s' : System) (d : Device) : Prop where
  others : ∀ i, i ≠ d → s'.flags i = s.flags i
  added : s'.added = s.added
  announcing : s'.announcing = s.announcing
  asked : s'.asked = s.asked
  pending : s'.pending = s.pending
  waited : s'.waited = s.waited
  holds : s'.registering.holds = some d

/-- The frame has not gone past a device with a request. -/
theorem Inv.not_behind {s : System} (h : Inv s) {d : Device}
    (hat : s.registering = .free d ∨ s.registering.holds = some d) {i : Device}
    (hi : s.pending i = true) : d ≤ i := by
  have hahead := h.ahead i hi
  unfold Ahead at hahead
  rcases hat with hat | hat
  · rw [hat] at hahead
    exact hahead.1
  · cases hr : s.registering <;> rw [hr] at hat hahead <;> cases hat <;> exact hahead

/-- What such a step has to show of `d` itself. -/
theorem Inv.with_device {s s' : System} {d : Device} (h : Inv s) (hs : With s s' d)
    (hbefore : s.registering = .free d ∨ s.registering.holds = some d)
    (hregistered : s'.added d + (if Offered s' d then 1 else 0) =
      if (s'.flags d).registered then 1 else 0)
    (hunregistered : s'.registering = .taken d ∨ s'.registering = .cleared d →
      (s'.flags d).registered = false)
    (hsought : (s'.flags d).registered = true ∨ s'.registering = .taken d ∨
      s'.registering = .cleared d)
    (hasked : s.asked d = true)
    (hwaited : ∀ i, s.waited i +
      (if s.pending i && s'.registering.answered then 1 else 0) ≤ answers s' i) : Inv s' where
  registered i := by
    by_cases hi : i = d
    · rw [hi]
      exact hregistered
    · have hd := h.registered i
      have hnot : ¬ Offered s i := by
        rintro (ho | ho) <;> rw [ho] at hbefore <;> simp [Registering.holds, hi] at hbefore
      have hnot' : ¬ Offered s' i := by
        have hholds := hs.holds
        rintro (ho | ho) <;> rw [ho] at hholds <;> simp [Registering.holds, hi] at hholds
      rw [if_neg hnot] at hd
      rw [if_neg hnot', hs.added, hs.others i hi]
      exact hd
  unregistered i hi := by
    have hholds := hs.holds
    rcases hi with hi | hi | hi
    · rw [hi] at hholds
      cases hholds
    · rw [hi] at hholds
      cases hholds
      exact hunregistered (.inl hi)
    · rw [hi] at hholds
      cases hholds
      exact hunregistered (.inr hi)
  sought i hi := by
    by_cases hd : i = d
    · rw [hd]
      tauto
    · rw [hs.asked] at hi
      rw [hs.others i hd, hs.announcing]
      rcases h.sought i hi with hr | hw | ha | ha | ht | ht
      · exact .inl hr
      · exact .inr (.inl hw)
      · exact .inr (.inr (.inl ha))
      · exact .inr (.inr (.inr (.inl ha)))
      · rw [ht] at hbefore
        simp [Registering.holds, hd] at hbefore
      · rw [ht] at hbefore
        simp [Registering.holds, hd] at hbefore
  asked i hi := by
    rw [hs.asked]
    by_cases hd : i = d
    · rw [hd]
      exact hasked
    · rw [hs.others i hd, hs.announcing, hs.holds] at hi
      refine h.asked i ?_
      rcases hi with hi | hi | hi | hi | hi
      · exact .inl hi
      · exact .inr (.inl hi)
      · exact .inr (.inr (.inl hi))
      · exact .inr (.inr (.inr (.inl hi)))
      · exact absurd (Option.some.inj hi).symm hd
  ahead i hi := by
    rw [hs.pending] at hi
    have hle := h.not_behind hbefore hi
    have hholds := hs.holds
    unfold Ahead
    cases hr : s'.registering <;> rw [hr] at hholds <;> cases hholds <;> exact hle
  waited i := by
    rw [hs.pending, hs.waited]
    exact hwaited i

theorem free_inv {s : System} (h : Inv s) {d : Device} (hat : s.registering = .looking d)
    (hfree : (s.flags d).registered = false) : Inv { s with registering := .free d } where
  registered i := by
    have hi := h.added_eq (by rw [hat]; rfl) i
    have hnot : ¬ Offered { s with registering := .free d } i := by
      rintro (ho | ho) <;> cases ho
    rw [if_neg hnot]
    exact hi
  unregistered i hi := by
    rcases hi with hi | hi | hi <;> cases hi
    exact hfree
  sought i hi := by
    have := h.seeks (by rw [hat]; rfl) hi
    tauto
  asked i hi := by
    have := h.asked i
    simp only [Registering.holds] at hi
    tauto
  ahead i hi := by
    have hahead := h.ahead i hi
    unfold Ahead at hahead
    rw [hat] at hahead
    exact hahead
  waited i := by
    have hi := h.waited i
    rw [hat] at hi
    exact hi

theorem exchange_inv {s : System} (h : Inv s) {d : Device} (hat : s.registering = .free d)
    (hwanted : (s.flags d).wanted = true) :
    Inv { s.setFlags d { s.flags d with wanted := false } with registering := .taken d } := by
  have hfree := h.unregistered d (.inl hat)
  have hadded := h.added_eq (by rw [hat]; rfl) d
  refine h.with_device ⟨fun i hi => s.setFlags_of_ne hi _, rfl, rfl, rfl, rfl, rfl, rfl⟩ (.inl hat)
    ?_ ?_ (.inr (.inl rfl)) (h.asked d (.inl hwanted)) ?_
  · simpa [Offered, hfree] using hadded
  · intro _
    simpa using hfree
  · intro i
    have hi := h.waited i
    rw [hat] at hi
    exact hi

theorem offer_inv {s : System} (h : Inv s) {d : Device} (hat : s.registering = .taken d) :
    Inv { s.setFlags d { s.flags d with registered := true } with registering := .offering d } := by
  have hholds : s.registering.holds = some d := by rw [hat]; rfl
  have hadded := h.registered d
  rw [h.unregistered d (.inr (.inl hat))] at hadded
  refine h.with_device ⟨fun i hi => s.setFlags_of_ne hi _, rfl, rfl, rfl, rfl, rfl, rfl⟩
    (.inr hholds) ?_ ?_ (.inl ?_) (h.asked d (.inr (.inr (.inr (.inr hholds))))) ?_
  · have hnone : s.added d = 0 := by
      rw [if_neg Bool.false_ne_true] at hadded
      omega
    simpa [Offered] using hnone
  · rintro (hr | hr) <;> cases hr
  · simp
  · intro i
    have hi := h.waited i
    rw [hat] at hi
    exact hi

theorem refused_inv {s : System} (h : Inv s) {d : Device} (hat : s.registering = .offering d) :
    Inv { s with
      refusals := Function.update s.refusals d (s.refusals d + 1), registering := .refused d } := by
  have hholds : s.registering.holds = some d := by rw [hat]; rfl
  have hregistered := h.registered d
  rw [if_pos (.inl hat)] at hregistered
  have htrue : (s.flags d).registered = true := by
    by_contra hno
    rw [if_neg hno] at hregistered
    omega
  refine h.with_device ⟨fun _ _ => rfl, rfl, rfl, rfl, rfl, rfl, rfl⟩ (.inr hholds) ?_ ?_
    (.inl htrue) (h.asked d (.inr (.inl htrue))) ?_
  · rw [if_pos (.inr rfl)]
    exact hregistered
  · rintro (hr | hr) <;> cases hr
  · intro i
    rw [answers_refused]
    have hi := h.waited i
    rw [hat] at hi
    by_cases hpending : s.pending i = true
    · rw [if_pos (h.not_behind (.inr hholds) hpending)]
      split
      · change s.waited i + (if (s.pending i && false) = true then 1 else 0) ≤ _ at hi
        omega
      · omega
    · rw [Bool.not_eq_true] at hpending
      rw [hpending, Bool.false_and, if_neg Bool.false_ne_true] at hi ⊢
      omega

theorem cleared_inv {s : System} (h : Inv s) {d : Device} (hat : s.registering = .refused d) :
    Inv { s.setFlags d { s.flags d with registered := false } with registering := .cleared d } := by
  have hholds : s.registering.holds = some d := by rw [hat]; rfl
  have hregistered := h.registered d
  rw [if_pos (.inr hat)] at hregistered
  refine h.with_device ⟨fun i hi => s.setFlags_of_ne hi _, rfl, rfl, rfl, rfl, rfl, rfl⟩
    (.inr hholds) ?_ ?_ (.inr (.inr rfl)) (h.asked d (.inr (.inr (.inr (.inr hholds))))) ?_
  · have hnone : s.added d = 0 := by
      split at hregistered <;> omega
    simpa [Offered] using hnone
  · intro _
    simp
  · intro i
    have hi := h.waited i
    rw [hat] at hi
    exact hi

theorem added_inv {s : System} (h : Inv s) {d : Device} (hat : s.registering = .offering d) :
    Inv ({ s with added := Function.update s.added d (s.added d + 1) }).endFrame := by
  have hholds : s.registering.holds = some d := by rw [hat]; rfl
  have hother : ∀ i, i ≠ d → ¬ Offered s i := by
    rintro i hi (ho | ho) <;> rw [hat] at ho <;> cases ho
    exact hi rfl
  refine endFrame_inv ?_ ?_ ?_ ?_
  · intro i
    by_cases hi : i = d
    · have hregistered := h.registered d
      rw [if_pos (.inl hat)] at hregistered
      rw [hi]
      simpa using hregistered
    · have hregistered := h.registered i
      rw [if_neg (hother i hi)] at hregistered
      simpa [hi] using hregistered
  · intro i hi
    rcases h.sought i hi with hr | hw | ha | ha | ht | ht
    · exact .inl hr
    · exact .inr (.inl hw)
    · exact .inr (.inr (.inl ha))
    · exact .inr (.inr (.inr ha))
    · rw [hat] at ht
      cases ht
    · rw [hat] at ht
      cases ht
  · intro i hi
    have := h.asked i
    tauto
  · intro i
    rw [answers_added]
    have hi := h.waited i
    rw [hat] at hi
    change s.waited i + (if (s.pending i && false) = true then 1 else 0) ≤ _ at hi
    rw [Bool.and_false, if_neg Bool.false_ne_true] at hi
    change s.waited i + (if s.pending i = true then 1 else 0) ≤ _
    by_cases hpending : s.pending i = true
    · rw [if_pos hpending, if_pos (h.not_behind (.inr hholds) hpending)]
      omega
    · rw [if_neg hpending]
      omega

theorem wantAgain_inv {s : System} (h : Inv s) {d : Device} (hat : s.registering = .cleared d) :
    Inv (s.setFlags d { s.flags d with wanted := true }).endFrame := by
  have hholds : s.registering.holds = some d := by rw [hat]; rfl
  have hcleared := h.unregistered d (.inr (.inr hat))
  have hother : ∀ i, ¬ Offered s i := by
    rintro i (ho | ho) <;> rw [hat] at ho <;> cases ho
  refine endFrame_inv ?_ ?_ ?_ ?_
  · intro i
    have hregistered := h.registered i
    rw [if_neg (hother i)] at hregistered
    by_cases hi : i = d
    · rw [hi] at hregistered ⊢
      simpa using hregistered
    · rw [s.setFlags_of_ne hi]
      exact hregistered
  · intro i hi
    by_cases hd : i = d
    · rw [hd]
      simp
    · rw [s.setFlags_of_ne hd]
      rcases h.sought i hi with hr | hw | ha | ha | ht | ht
      · exact .inl hr
      · exact .inr (.inl hw)
      · exact .inr (.inr (.inl ha))
      · exact .inr (.inr (.inr ha))
      · rw [hat] at ht
        cases ht
      · rw [hat] at ht
        cases ht
        exact absurd rfl hd
  · intro i hi
    by_cases hd : i = d
    · rw [hd]
      exact h.asked d (.inr (.inr (.inr (.inr hholds))))
    · rw [s.setFlags_of_ne hd] at hi
      have hasked := h.asked i
      change _ ∨ _ ∨ s.announcing = _ ∨ s.announcing = _ at hi
      tauto
  · intro i
    have hi := h.waited i
    rw [hat] at hi
    change s.waited i + (if (s.pending i && true) = true then 1 else 0) ≤ _ at hi
    rw [Bool.and_true] at hi
    exact hi

theorem init_inv : Inv {} where
  registered _ := rfl
  unregistered _ _ := rfl
  sought _ hd := by cases hd
  asked _ hd := by simp [Registering.holds] at hd
  ahead _ hd := by cases hd
  waited _ := Nat.zero_le _

theorem step_inv (s : System) (e : Event) (s' : System) (h : Inv s) (hstep : step s e = some s') :
    Inv s' := by
  cases e with
  | setConfig =>
    rw [step, Option.ite_none_right_eq_some] at hstep
    obtain ⟨hidle, hstep⟩ := hstep
    cases hstep
    exact announce_inv h hidle 0
  | deviceAdd d =>
    rw [step, Option.ite_none_right_eq_some] at hstep
    obtain ⟨hidle, hstep⟩ := hstep
    cases hstep
    split
    · exact h
    · exact (announce_inv h hidle d).reconnected _
  | pose d connected =>
    rw [step, Option.ite_none_right_eq_some] at hstep
    obtain ⟨hidle, hstep⟩ := hstep
    cases hstep
    split
    · exact (announce_inv h hidle d).reconnected _
    · exact h
  | deviceRemove d =>
    rw [step, Option.ite_none_right_eq_some] at hstep
    obtain ⟨-, hstep⟩ := hstep
    cases hstep
    exact h.reconnected _
  | helperDisconnected =>
    rw [step, Option.ite_none_right_eq_some] at hstep
    obtain ⟨-, hstep⟩ := hstep
    cases hstep
    exact h.reconnected _
  | readRegistered =>
    simp only [step] at hstep
    split at hstep
    · rename_i hstored
      cases hstep
      exact readRegistered_inv h hstored
    · cases hstep
  | want =>
    simp only [step] at hstep
    split at hstep
    · rename_i hunregistered
      cases hstep
      exact want_inv h hunregistered
    · cases hstep
  | runFrame =>
    rw [step, Option.ite_none_right_eq_some] at hstep
    obtain ⟨hidle, hstep⟩ := hstep
    cases hstep
    refine looking_inv h (by rw [hidle]; rfl) (by rw [hidle]; rfl) _ ?_
    intro i hi
    rw [Bool.and_eq_true, Bool.not_eq_true'] at hi
    exact ⟨Fin.zero_le i, hi⟩
  | look =>
    simp only [step] at hstep
    split at hstep
    · rename_i d hat
      cases hstep
      split
      · rename_i hregistered
        exact onward_inv h (.inl hat) (.inl hregistered)
      · rename_i hfree
        exact free_inv h hat (Bool.not_eq_true _ ▸ hfree)
    · cases hstep
  | exchange =>
    simp only [step] at hstep
    split at hstep
    · rename_i d hat
      cases hstep
      split
      · rename_i hwanted
        exact exchange_inv h hat hwanted
      · rename_i hnone
        exact onward_inv h (.inr hat) (.inr (Bool.not_eq_true _ ▸ hnone))
    · cases hstep
  | offer =>
    simp only [step] at hstep
    split at hstep
    · rename_i d hat
      cases hstep
      exact offer_inv h hat
    · cases hstep
  | answer ok =>
    simp only [step] at hstep
    split at hstep
    · rename_i d hat
      cases hstep
      split
      · exact added_inv h hat
      · exact refused_inv h hat
    · cases hstep
  | clear =>
    simp only [step] at hstep
    split at hstep
    · rename_i d hat
      cases hstep
      exact cleared_inv h hat
    · cases hstep
  | wantAgain =>
    simp only [step] at hstep
    split at hstep
    · rename_i d hat
      cases hstep
      exact wantAgain_inv h hat
    · cases hstep

/-! ## Every run -/

theorem Inv.added_le {s : System} (h : Inv s) (d : Device) : s.added d ≤ 1 := by
  have hd := h.registered d
  split at hd <;> split at hd <;> omega

/-- The times that vrserver refused a device up to `d`. -/
def refusedAhead (s : System) (d : Device) : ℕ := ∑ i ∈ Finset.Iic d, s.refusals i

/-- A device that vrserver does not have has waited for the ones ahead of it and for the
refusals of those and its own, and for nothing else. -/
theorem Inv.waits {s : System} (h : Inv s) {d : Device} (hd : s.added d = 0) :
    s.waited d ≤ d + refusedAhead s d := by
  have hahead : ∑ i ∈ Finset.Iic d, s.added i ≤ d := by
    calc ∑ i ∈ Finset.Iic d, s.added i
        = ∑ i ∈ Finset.Iio d, s.added i + s.added d := by
          rw [← Finset.Iio_insert d, Finset.sum_insert (by simp), Nat.add_comm]
      _ ≤ (Finset.Iio d).card • 1 + 0 := by
          rw [hd]
          exact Nat.add_le_add_right
            (Finset.sum_le_card_nsmul _ _ _ fun i _ => h.added_le i) 0
      _ = d := by simp
  have hwaited := h.waited d
  rw [answers, Finset.sum_add_distrib] at hwaited
  unfold refusedAhead
  omega

/-- In every run of the two threads, however their accesses fall: vrserver is given a device
at most once, only when the helper announced it, and never offered one that it has; a device
that was announced is with vrserver or has its request standing once both threads are
through; and it is not passed over by more frames than there are devices ahead of it and
refusals of those and of its own. -/
theorem registration (es : List Event) (s : System) (h : Runs.run step {} es = some s)
    (d : Device) :
    s.added d ≤ 1 ∧ (0 < s.added d → s.asked d = true) ∧
      (s.registering = .offering d → s.added d = 0) ∧
      (s.asked d = true → s.announcing = .idle → s.registering = .idle →
        s.added d = 1 ∨ ((s.flags d).wanted = true ∧ (s.flags d).registered = false)) ∧
      (s.added d = 0 → s.waited d ≤ d + refusedAhead s d) := by
  have hinv : Inv s := Runs.run_invariant step_inv es {} s init_inv h
  have hregistered := hinv.registered d
  refine ⟨hinv.added_le d, ?_, ?_, ?_, hinv.waits⟩
  · intro hadded
    refine hinv.asked d (.inr (.inl ?_))
    by_contra hno
    rw [if_neg hno] at hregistered
    omega
  · intro hat
    rw [if_pos (.inl hat)] at hregistered
    split at hregistered <;> omega
  · intro hasked hannouncing hregistering
    have hadded := hinv.added_eq (by rw [hregistering]; rfl) d
    rcases hinv.sought d hasked with hr | hw | ha | ha | ht | ht
    · rw [if_pos hr] at hadded
      exact .inl hadded
    · cases hr : (s.flags d).registered with
      | true =>
        rw [hr, if_pos rfl] at hadded
        exact .inl hadded
      | false => exact .inr ⟨hw, rfl⟩
    · rw [hannouncing] at ha
      cases ha
    · rw [hannouncing] at ha
      cases ha
    · rw [hregistering] at ht
      cases ht
    · rw [hregistering] at ht
      cases ht

/-- The headset is refused once, in a frame that the left controller is announced in. -/
def refusedOnce : List Event :=
  [.setConfig, .readRegistered, .want, .runFrame, .look, .exchange, .offer, .deviceAdd 1,
    .readRegistered, .answer false, .want, .clear, .wantAgain, .runFrame, .look, .exchange, .offer,
    .answer true, .runFrame, .look, .look, .exchange, .offer, .answer true]

theorem registration_refused_once :
    ∃ s, Runs.run step {} refusedOnce = some s ∧ s.added 1 ≤ 1 ∧
      (Runs.run step {} refusedOnce).map (fun s => (s.added 0, s.added 1, s.waited 1)) =
        some (1, 1, 2) := by
  obtain ⟨s, hs⟩ : ∃ s, Runs.run step {} refusedOnce = some s :=
    Option.isSome_iff_exists.mp (by decide)
  exact ⟨s, hs, (registration refusedOnce s hs 1).1, by decide⟩

end WivrnNx.Registration
