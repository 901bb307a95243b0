import WivrnNx.Shim.FrameStaging

/-!
# The states of the staging ring

Whole runs of `FrameStagingRing` (shim/src/frame_staging.cpp): any calls of both threads, in any
order, with any arguments. A lease may come from a ring that is gone, and so may a `FrameDone`.

- `HelperHolds`: what the helper holds, by what was called;
- `ring_states`: the slots say the same, and what the calls are to do.
-/

namespace WivrnNx

open Ipc

namespace FrameStagingRing

/-- The calls that change a ring. A lease that is not valid has no index. -/
inductive RingCall
  | create (device : Bool) (width height : UInt32) (format count : ℕ) (d3d : ℕ → SlotCreate)
  | destroy
  | acquireSlot (sync : ℕ → Bool)
  | releaseToHelper (lease : Option ℕ) (frameId : ℕ)
  | returnSlot (lease : Option ℕ)
  | onFrameDone (done : FrameDone)
  | markStale

def call (r : FrameStagingRing) : RingCall → FrameStagingRing
  | .create device width height format count d3d =>
    (r.create device width height format count d3d).1
  | .destroy => r.destroyLocked
  | .acquireSlot sync => (r.acquireSlot sync).1
  | .releaseToHelper none _ | .returnSlot none => r
  | .releaseToHelper (some index) frameId => r.releaseToHelper index frameId
  | .returnSlot (some index) => r.returnSlot index
  | .onFrameDone done => (r.onFrameDone done).1
  | .markStale => r.markStale

/-- The ring that the calls leave, from the one a process starts with. -/
def after (calls : List RingCall) : FrameStagingRing := calls.foldl call {}

theorem after_append (calls : List RingCall) (c : RingCall) :
    after (calls ++ [c]) = (after calls).call c := by
  rw [after, List.foldl_append]
  rfl

/-- The call ends the ring there is: a `create` that refuses to begin does not. -/
def RingCall.Ends : RingCall → Prop
  | .create device width height _ _ _ => device = true ∧ width ≠ 0 ∧ height ≠ 0
  | .destroy => True
  | _ => False

/-- The call is the helper's answer for frame `frameId` in slot `index`. -/
def RingCall.Answers (index frameId : ℕ) : RingCall → Prop
  | .onFrameDone done => done.stagingIndex = index ∧ done.frameId = frameId
  | _ => False

/-- The helper was given slot `index` for frame `frameId`, and has neither answered nor lost its
ring since. -/
def HelperHolds (calls : List RingCall) (index frameId : ℕ) : Prop :=
  ∃ before later, calls = before ++ .releaseToHelper (some index) frameId :: later ∧
    (after before).leaseValid index = true ∧
    ∀ c ∈ later, ¬ c.Ends ∧ ¬ c.Answers index frameId

/-! ## What a slot goes through -/

/-- What holds of every ring there is. -/
structure Inv (r : FrameStagingRing) : Prop where
  exclusive : ∀ i, ¬ ((r.slots i).leased = true ∧ (r.slots i).helperOwned = true)
  /-- There is nothing behind the last slot. -/
  beyond : ∀ i, r.count ≤ i → r.slots i = {}

/-- The slot is held for that frame. -/
def Holds (r : FrameStagingRing) (index frameId : ℕ) : Prop :=
  (r.slots index).helperOwned = true ∧ (r.slots index).frameId = frameId

theorem Inv.lt_count {r : FrameStagingRing} (hi : r.Inv) {i : ℕ}
    (howned : (r.slots i).helperOwned = true) : i < r.count := by
  by_contra hge
  rw [hi.beyond i (not_lt.mp hge)] at howned
  cases howned

theorem destroyLocked_inv (r : FrameStagingRing) : r.destroyLocked.Inv where
  exclusive := fun _ h => by cases h.1
  beyond := fun _ _ => rfl

/-- A slot that was created has all its objects and is free. -/
structure CompleteSlot (s : Slot) : Prop where
  texture : s.texture = true
  mutex : s.mutex = true
  handle : s.handle ≠ none
  free : s.helperOwned = false ∧ s.leased = false

theorem createSlot_complete {slot : Slot} {d3d : SlotCreate}
    (h : (createSlot slot d3d).2 = true) : CompleteSlot (createSlot slot d3d).1 := by
  unfold createSlot at h ⊢
  split at h
  · cases h
  · split at h
    · cases h
    · split at h
      · cases h
      · split at h
        · cases h
        · simp_all
          exact ⟨rfl, rfl, by simp, rfl, rfl⟩

/-- The loop makes the first `n` slots and no others. -/
theorem createSlots_complete {slots slots' : ℕ → Slot} {d3d : ℕ → SlotCreate} {n : ℕ}
    (h : createSlots slots d3d n = (slots', true)) :
    (∀ i < n, CompleteSlot (slots' i)) ∧ ∀ i, n ≤ i → slots' i = slots i := by
  induction n generalizing slots' with
  -- Over the rounds of the loop: the last one makes its slot on top of the others
  | zero =>
    cases h
    exact ⟨fun i hi => absurd hi (Nat.not_lt_zero i), fun _ _ => rfl⟩
  | succ n ih =>
    simp only [createSlots] at h
    split at h
    · cases h
    · rename_i before hn
      injection h with hslots hok
      subst hslots
      obtain ⟨hmade, hleft⟩ := ih hn
      constructor
      · intro i hi
        rcases Nat.lt_succ_iff_lt_or_eq.mp hi with hlt | rfl
        · rw [Function.update_of_ne hlt.ne]
          exact hmade i hlt
        · rw [Function.update_self]
          exact createSlot_complete hok
      · intro i hi
        rw [Function.update_of_ne (by omega)]
        exact hleft i (by omega)

/-- Nothing of a ring is left. -/
structure NoRing (r : FrameStagingRing) : Prop where
  count : r.count = 0
  slots : ∀ i, r.slots i = {}

/-- A ring of `n` slots, all of them complete and free. -/
structure CompleteRing (r : FrameStagingRing) (n : ℕ) : Prop where
  count : r.count = n
  slots : ∀ i < n, CompleteSlot (r.slots i)
  beyond : ∀ i, n ≤ i → r.slots i = {}
  fresh : r.stale = false

/-- What `create` is to do once it begins: all or nothing. -/
structure Created (r r' : FrameStagingRing) (width height : UInt32) (format count : ℕ)
    (ok : Bool) : Prop where
  failed : ok = false → NoRing r' ∧ r'.generation = r.generation
  succeeded : ok = true → CompleteRing r' (clampCount count) ∧
    r'.generation = r.generation + 1 ∧
    -- The counter has 32 bits
    UInt32.ofNat r'.generation = UInt32.ofNat r.generation + 1 ∧
    r'.width = width ∧ r'.height = height ∧ r'.format = format

theorem create_spec (r : FrameStagingRing) {width height : UInt32} (format count : ℕ)
    (d3d : ℕ → SlotCreate) (hw : width ≠ 0) (hh : height ≠ 0) :
    Created r (r.create true width height format count d3d).1 width height format count
      (r.create true width height format count d3d).2 := by
  have hbegins : ¬ (¬ true = true ∨ width = 0 ∨ height = 0) := by simp [hw, hh]
  unfold create
  rw [if_neg hbegins]
  dsimp only
  split
  · exact ⟨fun _ => ⟨⟨rfl, fun _ => rfl⟩, rfl⟩, nofun⟩
  · rename_i slots hslots
    obtain ⟨hmade, hleft⟩ := createSlots_complete hslots
    refine ⟨nofun, fun _ => ⟨⟨rfl, hmade, hleft, rfl⟩, rfl, ?_, rfl, rfl, rfl⟩⟩
    exact UInt32.ofNat_add r.generation 1

/-- However `create` ends, there is nothing behind the last slot, and none is in use. -/
theorem Created.unused {r r' : FrameStagingRing} {width height : UInt32} {format count : ℕ}
    {ok : Bool} (h : Created r r' width height format count ok) :
    (∀ i, (r'.slots i).helperOwned = false ∧ (r'.slots i).leased = false) ∧
      ∀ i, r'.count ≤ i → r'.slots i = {} := by
  cases ok with
  | false =>
    obtain ⟨hnone, -⟩ := h.failed rfl
    exact ⟨fun i => by rw [hnone.slots i]; exact ⟨rfl, rfl⟩, fun i _ => hnone.slots i⟩
  | true =>
    obtain ⟨hring, -⟩ := h.succeeded rfl
    refine ⟨?_, fun i hi => hring.beyond i (hring.count ▸ hi)⟩
    intro i
    rcases Nat.lt_or_ge i (clampCount count) with hlt | hge
    · exact (hring.slots i hlt).free
    · rw [hring.beyond i hge]
      exact ⟨rfl, rfl⟩

theorem create_refused (r : FrameStagingRing) {device : Bool} {width height : UInt32}
    {format count : ℕ} {d3d : ℕ → SlotCreate}
    (h : ¬ (RingCall.create device width height format count d3d).Ends) :
    r.create device width height format count d3d = (r, false) := by
  have hguard : ¬ device = true ∨ width = 0 ∨ height = 0 := by
    by_contra hnot
    push Not at hnot
    exact h hnot
  rw [create, if_pos hguard]

/-- A `create` that ends the ring there is, in full. -/
theorem create_ends (r : FrameStagingRing) {device : Bool} {width height : UInt32}
    {format count : ℕ} {d3d : ℕ → SlotCreate}
    (h : (RingCall.create device width height format count d3d).Ends) :
    Created r (r.create device width height format count d3d).1 width height format count
      (r.create device width height format count d3d).2 := by
  obtain ⟨rfl, hw, hh⟩ := h
  exact create_spec r format count d3d hw hh

/-- A change to one slot of the ring that leaves it free or in one hand keeps the invariant. -/
theorem setSlot_inv {r : FrameStagingRing} (hi : r.Inv) {index : ℕ} {slot : Slot}
    (hlt : index < r.count) (hslot : ¬ (slot.leased = true ∧ slot.helperOwned = true)) :
    (r.setSlot index slot).Inv where
  exclusive := by
    intro i
    by_cases h : i = index
    · subst h
      rwa [setSlot_self]
    · rw [setSlot_of_ne r slot h]
      exact hi.exclusive i
  beyond := by
    intro i hge
    rw [setSlot_count] at hge
    rw [setSlot_of_ne r slot (by omega)]
    exact hi.beyond i hge

theorem leaseValid_iff (r : FrameStagingRing) (index : ℕ) :
    r.leaseValid index = true ↔
      index < r.count ∧ (r.slots index).leased = true ∧ (r.slots index).mutex = true := by
  simp [leaseValid]

theorem call_inv {r : FrameStagingRing} (hi : r.Inv) (c : RingCall) : (r.call c).Inv := by
  cases c with
  | create device width height format count d3d =>
    by_cases hends : (RingCall.create device width height format count d3d).Ends
    · obtain ⟨hfree, hbeyond⟩ := (create_ends r hends).unused
      refine ⟨?_, hbeyond⟩
      rintro i ⟨hleased, -⟩
      exact absurd hleased (by rw [call, (hfree i).2]; decide)
    · rw [call, create_refused r hends]
      exact hi
  | destroy => exact destroyLocked_inv r
  | acquireSlot sync =>
    change (r.acquireSlot sync).1.Inv
    cases hacquire : r.acquireSlot sync with
    | mk r' slot =>
      cases slot with
      | none =>
        rw [acquireSlot_none hacquire]
        exact hi
      | some index =>
        obtain ⟨hlt, -, htakes, rfl⟩ := acquireSlot_some hacquire
        simp only [takes, Bool.and_eq_true, Bool.not_eq_true'] at htakes
        have hslot : (r.setSlot index { r.slots index with leased := true }).Inv :=
          setSlot_inv hi hlt (by simp [htakes.1.1.1.1])
        exact ⟨hslot.exclusive, hslot.beyond⟩
  | releaseToHelper lease frameId =>
    cases lease with
    | none => exact hi
    | some index =>
      change (r.releaseToHelper index frameId).Inv
      unfold releaseToHelper
      split
      · rename_i hvalid
        exact setSlot_inv hi ((leaseValid_iff r index).mp hvalid).1 (by simp)
      · exact hi
  | returnSlot lease =>
    cases lease with
    | none => exact hi
    | some index =>
      change (r.returnSlot index).Inv
      unfold returnSlot
      split
      · rename_i hvalid
        exact setSlot_inv hi ((leaseValid_iff r index).mp hvalid).1 (by simp)
      · exact hi
  | onFrameDone done =>
    change (r.onFrameDone done).1.Inv
    rcases r.onFrameDone_cases done with h | ⟨hlt, -, -, h⟩ <;> rw [h]
    · exact hi
    · exact setSlot_inv hi hlt (by simp)
  | markStale => exact ⟨by simpa [call] using hi.exclusive, by simpa [call] using hi.beyond⟩

theorem after_inv (calls : List RingCall) : (after calls).Inv := by
  induction calls using List.reverseRecOn with
  | nil => exact destroyLocked_inv {}
  | append_singleton calls c ih =>
    rw [after_append]
    exact call_inv ih c

/-! ## What the helper holds -/

/-- `on_frame_done` answers by what the slot says. -/
theorem onFrameDone_true_iff {r : FrameStagingRing} (hi : r.Inv) (done : FrameDone) :
    (r.onFrameDone done).2 = true ↔ r.Holds done.stagingIndex done.frameId := by
  constructor
  · intro htrue
    rcases r.onFrameDone_cases done with h | ⟨-, howned, hid, -⟩
    · rw [h] at htrue
      cases htrue
    · exact ⟨howned, hid⟩
  · rintro ⟨howned, hid⟩
    have hlt := hi.lt_count howned
    rw [onFrameDone, if_neg (by omega), if_neg (by simp [howned]), if_neg (by simp [hid])]

/-- What one call makes of what the helper holds. -/
theorem holds_call_iff {r : FrameStagingRing} (hi : r.Inv) (c : RingCall) (i frameId : ℕ) :
    (r.call c).Holds i frameId ↔
      (c = .releaseToHelper (some i) frameId ∧ r.leaseValid i = true) ∨
        (r.Holds i frameId ∧ ¬ c.Ends ∧ ¬ c.Answers i frameId) := by
  cases c with
  | create device width height format count d3d =>
    by_cases hends : (RingCall.create device width height format count d3d).Ends
    · have hfree := ((create_ends r hends).unused.1 i).1
      simp [Holds, call, hfree, hends]
    · rw [call, create_refused r hends]
      simp [hends, RingCall.Answers]
  | destroy => simp [Holds, call, destroyLocked, RingCall.Ends]
  | acquireSlot sync =>
    -- The slot that is taken is not the helper's, and no other changes
    have hsame : (r.call (.acquireSlot sync)).Holds i frameId ↔ r.Holds i frameId := by
      change (r.acquireSlot sync).1.Holds i frameId ↔ _
      cases hacquire : r.acquireSlot sync with
      | mk r' slot =>
        cases slot with
        | none => rw [acquireSlot_none hacquire]
        | some index =>
          obtain ⟨-, -, -, rfl⟩ := acquireSlot_some hacquire
          by_cases h : i = index
          · subst h
            simp [Holds, setSlot]
          · simp [Holds, setSlot, Function.update_of_ne h]
    simp [hsame, RingCall.Ends, RingCall.Answers]
  | releaseToHelper lease id =>
    cases lease with
    | none => simp [call, RingCall.Ends, RingCall.Answers]
    | some index =>
      by_cases hvalid : r.leaseValid index = true
      · by_cases h : i = index
        · subst h
          -- What is leased is not the helper's yet
          have hnot : ¬ r.Holds i frameId := by
            rintro ⟨howned, -⟩
            exact hi.exclusive i ⟨((leaseValid_iff r i).mp hvalid).2.1, howned⟩
          simp [call, releaseToHelper, hvalid, hnot]
          simp [Holds]
        · simp [call, releaseToHelper, hvalid, Holds, setSlot_of_ne r _ h, Ne.symm h,
            RingCall.Ends, RingCall.Answers]
      · have hother : ¬ (RingCall.releaseToHelper (some index) id =
            .releaseToHelper (some i) frameId ∧ r.leaseValid i = true) := by
          rintro ⟨heq, hlease⟩
          cases heq
          exact hvalid hlease
        simp only [hother, false_or]
        simp [call, releaseToHelper, hvalid, RingCall.Ends, RingCall.Answers]
  | returnSlot lease =>
    cases lease with
    | none => simp [call, RingCall.Ends, RingCall.Answers]
    | some index =>
      by_cases hvalid : r.leaseValid index = true
      · by_cases h : i = index
        · subst h
          have hnot : ¬ r.Holds i frameId := by
            rintro ⟨howned, -⟩
            exact hi.exclusive i ⟨((leaseValid_iff r i).mp hvalid).2.1, howned⟩
          -- A slot that goes back unused was leased, not the helper's
          simp [call, returnSlot, hvalid, hnot]
          simp [Holds]
        · simp [call, returnSlot, hvalid, Holds, setSlot_of_ne r _ h, RingCall.Ends,
            RingCall.Answers]
      · simp [call, returnSlot, hvalid, RingCall.Ends, RingCall.Answers]
  | onFrameDone done =>
    have htrue := onFrameDone_true_iff hi done
    change (r.onFrameDone done).1.Holds i frameId ↔ _
    rcases r.onFrameDone_cases done with h | ⟨-, -, -, h⟩ <;> rw [h] at htrue ⊢
    · -- Nothing is freed, so the answer was not for what is held
      have hnot : r.Holds i frameId → ¬ (RingCall.onFrameDone done).Answers i frameId := by
        rintro hholds ⟨rfl, rfl⟩
        cases htrue.mpr hholds
      simpa [RingCall.Ends] using hnot
    · have hheld := htrue.mp rfl
      by_cases hi' : i = done.stagingIndex
      · subst hi'
        have hans : r.Holds done.stagingIndex frameId →
            (RingCall.onFrameDone done).Answers done.stagingIndex frameId := by
          rintro ⟨-, rfl⟩
          exact ⟨rfl, hheld.2.symm⟩
        simpa [Holds, RingCall.Ends] using hans
      · simp [Holds, setSlot_of_ne r _ hi', RingCall.Ends, RingCall.Answers, Ne.symm hi']
  | markStale => simp [Holds, call, RingCall.Ends, RingCall.Answers]

theorem helperHolds_append (calls : List RingCall) (c : RingCall) (index frameId : ℕ) :
    HelperHolds (calls ++ [c]) index frameId ↔
      (c = .releaseToHelper (some index) frameId ∧ (after calls).leaseValid index = true) ∨
        (HelperHolds calls index frameId ∧ ¬ c.Ends ∧ ¬ c.Answers index frameId) := by
  constructor
  · rintro ⟨before, later, hsplit, hlease, hlater⟩
    rcases List.eq_nil_or_concat later with rfl | ⟨later, c', rfl⟩
    · -- The call is the release itself
      obtain ⟨rfl, hc⟩ := List.append_inj' hsplit rfl
      exact .inl ⟨List.singleton_injective hc, hlease⟩
    · rw [List.concat_eq_append] at hsplit hlater
      rw [← List.cons_append, ← List.append_assoc] at hsplit
      obtain ⟨rfl, hc⟩ := List.append_inj' hsplit rfl
      cases List.singleton_injective hc
      refine .inr ⟨⟨before, later, rfl, hlease, ?_⟩, hlater c (by simp)⟩
      intro x hx
      exact hlater x (List.mem_append_left _ hx)
  · rintro (⟨rfl, hlease⟩ | ⟨⟨before, later, rfl, hlease, hlater⟩, hc⟩)
    · exact ⟨calls, [], rfl, hlease, fun x hx => absurd hx List.not_mem_nil⟩
    · refine ⟨before, later ++ [c], by simp, hlease, ?_⟩
      intro x hx
      rcases List.mem_append.mp hx with hold | hnew
      · exact hlater x hold
      · rw [List.mem_singleton.mp hnew]
        exact hc

/-- The slots say what was called. -/
theorem holds_iff (calls : List RingCall) (index frameId : ℕ) :
    (after calls).Holds index frameId ↔ HelperHolds calls index frameId := by
  induction calls using List.reverseRecOn with
  | nil =>
    -- Both sides change by the same rule with the last call
    constructor
    · rintro ⟨howned, -⟩
      cases howned
    · rintro ⟨before, later, hsplit, -, -⟩
      simp at hsplit
  | append_singleton calls c ih =>
    rw [after_append, holds_call_iff (after_inv calls) c, helperHolds_append, ih]

/-! ## The calls, in any state that can be reached -/

/-- What `on_frame_done` is to do: it frees exactly the slot it names, if the helper holds that
slot for that frame, and nothing happens otherwise. -/
structure Answered (calls : List RingCall) (r : FrameStagingRing) (done : FrameDone) : Prop where
  iff_held : (r.onFrameDone done).2 = true ↔ HelperHolds calls done.stagingIndex done.frameId
  freed : (r.onFrameDone done).2 = true →
    ((r.onFrameDone done).1.slots done.stagingIndex).helperOwned = false ∧
      ((r.onFrameDone done).1.slots done.stagingIndex).leased = false
  others : ∀ i, i ≠ done.stagingIndex → (r.onFrameDone done).1.slots i = r.slots i
  refused : (r.onFrameDone done).2 = false → (r.onFrameDone done).1 = r

/-- What holds in every state of a ring, and of the call made next. -/
structure RingStates (calls : List RingCall) (r : FrameStagingRing) : Prop where
  exclusive : ∀ i, ¬ ((r.slots i).leased = true ∧ (r.slots i).helperOwned = true)
  acquired : ∀ sync i, (r.acquireSlot sync).2 = some i →
    i < r.count ∧ r.stale = false ∧ (r.slots i).leased = false ∧ (r.slots i).helperOwned = false
  answered : ∀ done, Answered calls r done
  created : ∀ (width height : UInt32) (format count : ℕ) (d3d : ℕ → SlotCreate),
    width ≠ 0 → height ≠ 0 →
      Created r (r.create true width height format count d3d).1 width height format count
        (r.create true width height format count d3d).2
  stale_kept : r.stale = true → ∀ c : RingCall, (r.call c).stale = true ∨ c.Ends

theorem answered {calls : List RingCall} (done : FrameDone) :
    Answered calls (after calls) done := by
  have hi := after_inv calls
  have hheld := onFrameDone_true_iff hi done
  refine ⟨hheld.trans (holds_iff calls _ _), ?_, ?_, ?_⟩
  · intro htrue
    obtain ⟨howned, -⟩ := hheld.mp htrue
    -- What the helper holds is not leased, so that the slot is free of both
    have hnot : ((after calls).slots done.stagingIndex).leased = false := by
      by_contra hleased
      exact hi.exclusive done.stagingIndex ⟨by simpa using hleased, howned⟩
    rcases (after calls).onFrameDone_cases done with h | ⟨-, -, -, h⟩
    · rw [h] at htrue
      cases htrue
    · simpa [h] using hnot
  · intro i hne
    rcases (after calls).onFrameDone_cases done with h | ⟨-, -, -, h⟩ <;> rw [h]
    exact setSlot_of_ne _ _ hne
  · intro hfalse
    rcases (after calls).onFrameDone_cases done with h | ⟨-, -, -, h⟩ <;> rw [h] at hfalse ⊢
    cases hfalse

/-- Only a call that ends the ring makes a stale one usable again. -/
theorem stale_call {r : FrameStagingRing} (hstale : r.stale = true) (c : RingCall) :
    (r.call c).stale = true ∨ c.Ends := by
  cases c with
  | create device width height format count d3d =>
    by_cases hends : (RingCall.create device width height format count d3d).Ends
    · exact .inr hends
    · left
      rwa [call, create_refused r hends]
  | destroy => exact .inr trivial
  | acquireSlot sync =>
    left
    simp [call, acquireSlot, hstale]
  | releaseToHelper lease frameId =>
    left
    cases lease with
    | none => exact hstale
    | some index =>
      change (r.releaseToHelper index frameId).stale = true
      unfold releaseToHelper
      split <;> exact hstale
  | returnSlot lease =>
    left
    cases lease with
    | none => exact hstale
    | some index =>
      change (r.returnSlot index).stale = true
      unfold returnSlot
      split <;> exact hstale
  | onFrameDone done =>
    left
    change (r.onFrameDone done).1.stale = true
    rcases r.onFrameDone_cases done with h | ⟨-, -, -, h⟩ <;> rw [h] <;> exact hstale
  | markStale =>
    left
    change r.markStale.stale = true
    unfold markStale
    split
    · rfl
    · exact hstale

/-- Whatever was called, in whatever order and with whatever outcome of D3D. -/
theorem ring_states (calls : List RingCall) : RingStates calls (after calls) where
  exclusive := (after_inv calls).exclusive
  acquired := by
    intro sync i hslot
    obtain ⟨hlt, hstale, htakes, -⟩ := acquireSlot_some (Prod.ext rfl hslot)
    simp only [takes, Bool.and_eq_true, Bool.not_eq_true'] at htakes
    exact ⟨hlt, hstale, htakes.1.1.1.2, htakes.1.1.1.1⟩
  answered := answered
  created := fun width height format count d3d hw hh =>
    create_spec (after calls) format count d3d hw hh
  stale_kept := stale_call

end FrameStagingRing

end WivrnNx
