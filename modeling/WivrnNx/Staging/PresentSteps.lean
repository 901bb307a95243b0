import WivrnNx.Staging.Slots

/-!
# The Present thread keeps the invariant

Most steps of the Present thread are `Local`: they move it from one place of
`Present` to the next, and at most lose a frame. What is left is the ring's
rebuild and the four moments of a lease.

- `Local.inv`, `Rebuilt.inv`: the two kinds of step without a lease;
- `acquireSlot_inv`, `copyEye_inv`, `releaseSlot_inv`, `returnSlot_inv`: the lease;
- `presentStep_inv`, `step_inv`: every step.
-/

namespace WivrnNx.Staging.System

open Ipc VideoIntake

/-! ## What the Present thread leaves alone -/

/-- A step of the Present thread stays on its side of the queue. -/
structure PresentOnly (s s' : System) : Prop where
  connected : s'.connected = s.connected
  ipc : s'.ipc = s.ipc
  gotConfig : s'.gotConfig = s.gotConfig
  shimOpen : s'.shimOpen = s.shimOpen
  serverOpen : s'.serverOpen = s.serverOpen
  toHelper : s'.toHelper = s.toHelper
  toShim : s'.toShim = s.toShim
  server : s'.server = s.server
  intake : s'.intake = s.intake

theorem presentStep_only {s s' : System} {a : PresentAction} (h : s.presentStep a = some s') :
    PresentOnly s s' := by
  cases a with
  | look =>
    simp only [presentStep] at h
    split at h
    · split_ifs at h <;> cases h <;> exact ⟨rfl, rfl, rfl, rfl, rfl, rfl, rfl, rfl, rfl⟩
    · cases h
  | create d3d =>
    simp only [presentStep] at h
    split at h
    · cases h
      unfold createRing
      split
      · exact ⟨rfl, rfl, rfl, rfl, rfl, rfl, rfl, rfl, rfl⟩
      · split <;> exact ⟨rfl, rfl, rfl, rfl, rfl, rfl, rfl, rfl, rfl⟩
    · cases h
  | acquire sync =>
    simp only [presentStep] at h
    split at h
    · cases h
      unfold acquireSlot
      split <;> exact ⟨rfl, rfl, rfl, rfl, rfl, rfl, rfl, rfl, rfl⟩
    · cases h
  | describe =>
    simp only [presentStep] at h
    split at h
    · split at h <;> cases h <;> exact ⟨rfl, rfl, rfl, rfl, rfl, rfl, rfl, rfl, rfl⟩
    · cases h
  | copyEye =>
    simp only [presentStep] at h
    split at h
    · split_ifs at h
      cases h
      exact ⟨rfl, rfl, rfl, rfl, rfl, rfl, rfl, rfl, rfl⟩
    · cases h
  | pushFrame alloc =>
    simp only [presentStep] at h
    split at h
    · split at h <;> cases h <;> exact ⟨rfl, rfl, rfl, rfl, rfl, rfl, rfl, rfl, rfl⟩
    · cases h
  | _ =>
    simp only [presentStep] at h
    split at h <;> cases h <;> exact ⟨rfl, rfl, rfl, rfl, rfl, rfl, rfl, rfl, rfl⟩

/-! ## Steps without a lease -/

/-- A step that neither has a lease nor takes one, and leaves the ring's slots
alone. -/
structure Local (s s' : System) : Prop where
  ring : s'.ring = s.ring ∨ s'.ring = s.ring.markStale
  frameId : s'.frameId = s.frameId
  contents : s'.contents = s.contents
  drawnBy : s'.drawnBy = s.drawnBy
  mutexes : s'.mutexes = s.mutexes
  intake : s'.intake = s.intake
  toShim : s'.toShim = s.toShim
  live : s'.live ≤ s.live
  before : s.present.lease? = none
  after : s'.present.lease? = none
  presents : s'.presents = s.presents + 1 ∨ s'.presents = s.presents ∧
    (s'.present.undrawn = true → s.present.undrawn = true)

theorem tickets_le_of_live {s s' : System} (hlive : s'.live ≤ s.live)
    (htoShim : s'.toShim = s.toShim) (hintake : s'.intake = s.intake) :
    s'.tickets ≤ s.tickets := by
  simp only [tickets, htoShim, hintake]
  exact add_le_add_left (Multiset.map_le_map hlive) _

theorem Locked.same {s s' : System} (hl : s.Locked) (hintake : s'.intake = s.intake)
    (hmutexes : s'.mutexes = s.mutexes) : s'.Locked :=
  (LocksKept.same hl (.of_eq hintake) hmutexes).locked

theorem Local.inv {s s' : System} (hi : s.Inv) (h : Local s s') : s'.Inv where
  ids := hi.ids.of_le (tickets_le_of_live h.live h.toShim h.intake) h.frameId
  owned := hi.owned.freed (.markStale h.ring) h.live (h.after.trans h.before.symm) h.frameId
  drawn := hi.drawn.same h.live (fun i eyes hlease => by simp [h.after] at hlease) h.contents
    h.drawnBy h.presents
  leases := ⟨hi.leases.locked.same h.intake h.mutexes,
    fun i eyes hlease => by simp [h.after] at hlease⟩

/-- The ring is destroyed, and perhaps created again. -/
structure Rebuilt (s s' : System) : Prop where
  free : ∀ i, (s'.ring.slots i).helperOwned = false ∧ (s'.ring.slots i).leased = false
  generation : s'.ring.generation = s.ring.generation + 1 ∨
    s'.ring.generation = s.ring.generation ∧ s'.ring.count = 0
  mutexes : s'.mutexes = s.destroyMutexes
  frameId : s'.frameId = s.frameId
  contents : s'.contents = s.contents
  drawnBy : s'.drawnBy = s.drawnBy
  intake : s'.intake = s.intake
  toShim : s'.toShim = s.toShim
  live : s'.live = s.live
  before : s.present.lease? = none
  after : s'.present.lease? = none
  presents : s'.presents = s.presents
  undrawn : s'.present.undrawn = true → s.present.undrawn = true

/-- Without a lease the shim has no keyed mutex to give back. -/
theorem destroyMutexes_eq {s : System} (ho : s.Owned) (h : s.present.lease? = none) :
    s.destroyMutexes = s.mutexes := by
  funext t
  unfold destroyMutexes
  rw [if_neg]
  rintro ⟨-, hleased, -⟩
  obtain ⟨eyes, heyes⟩ := ho.leased t.index hleased
  simp [h] at heyes

theorem Rebuilt.inv {s s' : System} (hi : s.Inv) (h : Rebuilt s s') : s'.Inv where
  ids := hi.ids.of_le (tickets_le_of_live h.live.le h.toShim h.intake) h.frameId
  owned :=
    { leased := fun i hl => by simp [(h.free i).2] at hl
      lease := fun i eyes hlease => by simp [h.after] at hlease
      owned_slot := fun i ho => by simp [(h.free i).1] at ho
      live_le := by
        intro frame hframe
        have hle := hi.owned.live_le frame (h.live ▸ hframe)
        rcases h.generation with hgen | ⟨hgen, -⟩ <;> omega
      live_slot := by
        -- A frame of the old ring is not of the new one, and a destroyed ring has no slots
        intro frame hframe hgen hne
        have hle := hi.owned.live_le frame (h.live ▸ hframe)
        rcases h.generation with hgen' | ⟨-, hcount⟩
        · omega
        · exact (hne hcount).elim
      own := fun frame _ i ho => by simp [(h.free i).1] at ho }
  drawn := hi.drawn.same h.live.le (fun i eyes hlease => by simp [h.after] at hlease) h.contents
    h.drawnBy (.inr ⟨h.presents, h.undrawn⟩)
  leases := ⟨hi.leases.locked.same h.intake (h.mutexes.trans (destroyMutexes_eq hi.owned h.before)),
    fun i eyes hlease => by simp [h.after] at hlease⟩

/-! ## A lease -/

/-- Changing the keyed mutex of a texture the helper does not hold. -/
theorem Locked.update {s s' : System} (hl : s.Locked) {t : TextureId} {m : KeyedMutex}
    (hintake : s'.intake = s.intake) (hmutexes : s'.mutexes = Function.update s.mutexes t m)
    (ht : ¬ (s.mutexes t).Holds .helper) : s'.Locked where
  steady := hintake ▸ hl.steady
  helper t' ht' := by
    rw [hintake] at ht'
    have hheld := hl.helper t' ht'
    have hne : t' ≠ t := by
      rintro rfl
      exact ht hheld
    rw [hmutexes, Function.update_of_ne hne]
    exact hheld

/-- Slots that keep their helper-side fields keep their owners. -/
theorem Owned.live_slot_of {s s' : System} (ho : s.Owned)
    (hlive : ∀ frame ∈ s'.live, frame ∈ s.live) (hgen : s'.ring.generation = s.ring.generation)
    (hcount : s'.ring.count = s.ring.count)
    (hslots : ∀ i, (s.ring.slots i).helperOwned = true → s'.ring.slots i = s.ring.slots i) :
    ∀ frame ∈ s'.live, frame.generation = s'.ring.generation → s'.ring.count ≠ 0 →
      frame.stagingIndex < s'.ring.count ∧
        (s'.ring.slots frame.stagingIndex).helperOwned = true ∧
        (s'.ring.slots frame.stagingIndex).frameId = frame.frameId := by
  intro frame hframe hframeGen hne
  obtain ⟨hlt, howned, hid⟩ := ho.live_slot frame (hlive frame hframe) (hframeGen.trans hgen)
    (hcount ▸ hne)
  rw [hslots _ howned, hcount]
  exact ⟨hlt, howned, hid⟩

theorem acquireSlot_inv {s : System} (hi : s.Inv) {snap : Snapshot} (sync : ℕ → Bool)
    (hpresent : s.present = .ready snap) : (s.acquireSlot snap sync).Inv := by
  have hbefore : s.present.lease? = none := by rw [hpresent]; rfl
  unfold acquireSlot
  split
  · exact Local.inv hi
      { ring := .inl rfl, frameId := rfl, contents := rfl, drawnBy := rfl, mutexes := rfl
        intake := rfl, toShim := rfl, before := hbefore, after := rfl
        live := (live_of_present (by rw [hpresent]; rfl)).le
        presents := .inr ⟨rfl, by simp [PresentThread.undrawn]⟩ }
  · rename_i ring index hacquire
    obtain ⟨hindex, -, htakes, hring⟩ := FrameStagingRing.acquireSlot_some hacquire
    simp only [FrameStagingRing.takes, Bool.and_eq_true, Bool.not_eq_true'] at htakes
    obtain ⟨⟨⟨⟨hnotOwned, hnotLeased⟩, hmutex⟩, -⟩, hcomes⟩ := htakes
    have hslot : ring.slots index = { s.ring.slots index with leased := true } := by simp [hring]
    have hother : ∀ i, i ≠ index → ring.slots i = s.ring.slots i := by
      intro i hne
      rw [hring]
      exact FrameStagingRing.setSlot_of_ne _ _ hne
    have hgen : ring.generation = s.ring.generation := by simp [hring]
    have hcount : ring.count = s.ring.count := by simp [hring]
    have hkeeps : ∀ i, (s.ring.slots i).helperOwned = true → ring.slots i = s.ring.slots i := by
      intro i ho
      apply hother
      rintro rfl
      simp [ho] at hnotOwned
    set s' : System := { s with ring := ring, present := .leased snap index 0
                                mutexes := Function.update s.mutexes (s.texture index)
                                  (.held .shim) } with hs'
    have hlive : s'.live = s.live := live_eq (by rw [hpresent]; rfl) rfl rfl rfl
    have hle : ∀ frame ∈ s'.live, frame ∈ s.live := fun frame hframe => hlive ▸ hframe
    have hunheld : ¬ (s.mutexes (s.texture index)).Holds .helper := by
      intro hheld
      simp [comes, hheld.acquire_none] at hcomes
    refine ⟨hi.ids.of_le (tickets_le_of_live hlive.le rfl rfl) rfl, ?_, ?_, ?_⟩
    · refine ⟨?_, ?_, ?_, ?_, ?_, ?_⟩
      · intro i hleased
        by_cases hi' : i = index
        · exact ⟨0, by rw [hi']; rfl⟩
        · have hleased' : (s.ring.slots i).leased = true := hother i hi' ▸ hleased
          obtain ⟨eyes, heyes⟩ := hi.owned.leased i hleased'
          simp [hbefore] at heyes
      · intro i eyes hlease
        cases hlease
        refine ⟨?_, ?_⟩
        · simp [hs', FrameStagingRing.leaseValid, hslot, hcount, hindex, hmutex]
        · simp [hs', hslot, hnotOwned]
      · intro i ho
        by_cases hi' : i = index
        · simp [hs', hi', hslot, hnotOwned] at ho
        · simp only [hs', hother i hi'] at ho ⊢
          exact ⟨hcount ▸ (hi.owned.owned_slot i ho).1, (hi.owned.owned_slot i ho).2⟩
      · intro frame hframe
        exact hgen ▸ hi.owned.live_le frame (hle frame hframe)
      · exact hi.owned.live_slot_of hle hgen hcount hkeeps
      · intro frame hframe i ho hid
        by_cases hi' : i = index
        · simp [hs', hi', hslot, hnotOwned] at ho
        · simp only [hs', hother i hi', hgen] at ho hid ⊢
          exact hi.owned.own frame (hle frame hframe) i ho hid
    · refine ⟨?_, ?_, hi.drawn.once, ?_⟩
      · intro frame hframe
        exact hi.drawn.live frame (hle frame hframe)
      · intro i eyes hlease
        cases hlease
        exact ⟨by simp, by simp⟩
      · intro t n hn
        obtain ⟨hle, hundrawn⟩ := hi.drawn.past t n hn
        refine ⟨hle, fun heq => ?_⟩
        simpa [hpresent, PresentThread.undrawn] using hundrawn heq
    · refine ⟨hi.leases.locked.update rfl rfl hunheld, ?_⟩
      intro i eyes hlease
      cases hlease
      have htexture : s'.texture index = s.texture index := by simp [texture, hs', hgen]
      rw [htexture]
      simp [hs', KeyLock.Holds]

theorem copyEye_inv {s : System} (hi : s.Inv) {snap : Snapshot} {index eyes : ℕ}
    (hpresent : s.present = .leased snap index eyes) (heyes : eyes < 2) :
    ({ s with contents := s.drawEye index eyes, present := .leased snap index (eyes + 1) } :
      System).Inv := by
  have hlease : s.present.lease? = some (index, eyes) := by rw [hpresent]; rfl
  obtain ⟨hvalid, hnotOwned⟩ := hi.owned.lease index eyes hlease
  have hindex : index < s.ring.count := by
    simp only [FrameStagingRing.leaseValid, decide_eq_true_eq] at hvalid
    exact hvalid.1
  set s' : System := { s with contents := s.drawEye index eyes
                              present := .leased snap index (eyes + 1) } with hs'
  have hlive : s'.live = s.live := live_eq (by rw [hpresent]; rfl) rfl rfl rfl
  have hle : ∀ frame ∈ s'.live, frame ∈ s.live := fun frame hframe => hlive ▸ hframe
  -- No frame on its way was drawn on the leased texture
  have hunnamed : ∀ frame ∈ s.live, textureOf frame ≠ s.texture index := by
    intro frame hframe heq
    simp only [textureOf, texture, TextureId.mk.injEq] at heq
    have howned := (hi.owned.live_slot frame hframe heq.1 (by omega)).2.1
    simp [heq.2, hnotOwned] at howned
  have hother : ∀ t, t ≠ s.texture index → s'.contents t = s.contents t := by
    intro t ht
    simp [hs', drawEye, Function.update_of_ne ht]
  have hleft : ∀ t n, (s'.contents t).left = some n → t = s.texture index ∧ n = s.presents ∨
      (s.contents t).left = some n := by
    intro t n hn
    by_cases ht : t = s.texture index
    · by_cases h0 : eyes = 0
      · refine .inl ⟨ht, ?_⟩
        simp only [hs', drawEye, ht, h0, if_true, Function.update_self, Option.some.injEq] at hn
        exact hn.symm
      · refine .inr ?_
        simpa [hs', drawEye, ht, h0] using hn
    · exact .inr (hother t ht ▸ hn)
  -- This Present's picture is on the leased texture only
  have hmine : ∀ t, (s.contents t).left = some s.presents → t = s.texture index := by
    intro t ht
    have hdrawn : eyes ≠ 0 := by
      rintro rfl
      simpa [hpresent, PresentThread.undrawn] using (hi.drawn.past t _ ht).2 rfl
    exact hi.drawn.once t _ _ ht ((hi.drawn.lease index eyes hlease).1 (by omega))
  refine ⟨hi.ids.of_le (tickets_le_of_live hlive.le rfl rfl) rfl, ?_, ?_, ?_⟩
  · refine ⟨?_, ?_, hi.owned.owned_slot, fun frame hframe => hi.owned.live_le frame (hle _ hframe),
      hi.owned.live_slot_of hle rfl rfl (fun _ _ => rfl),
      fun frame hframe => hi.owned.own frame (hle _ hframe)⟩
    · intro i hleased
      obtain ⟨eyes', h⟩ := hi.owned.leased i hleased
      rw [hlease] at h
      cases h
      exact ⟨eyes + 1, rfl⟩
    · intro i eyes' h
      cases h
      exact ⟨hvalid, hnotOwned⟩
  · refine ⟨?_, ?_, ?_, ?_⟩
    · intro frame hframe
      obtain ⟨n, hn, hshows⟩ := hi.drawn.live frame (hle _ hframe)
      exact ⟨n, hn, (hother _ (hunnamed frame (hle _ hframe))).trans hshows⟩
    · intro i eyes' h
      cases h
      have hbefore := (hi.drawn.lease index eyes hlease).1
      interval_cases eyes
      · exact ⟨by simp [hs', drawEye, texture], by simp⟩
      · simpa [hs', drawEye, texture] using hbefore
    · intro t t' n ht ht'
      rcases hleft t n ht with ⟨heq, hn⟩ | hold <;> rcases hleft t' n ht' with ⟨heq', hn'⟩ | hold'
      · rw [heq, heq']
      · rw [heq, hmine t' (hn ▸ hold')]
      · rw [heq', hmine t (hn' ▸ hold)]
      · exact hi.drawn.once t t' n hold hold'
    · intro t n hn
      refine ⟨?_, fun _ => by simp [hs', PresentThread.undrawn]⟩
      rcases hleft t n hn with ⟨-, rfl⟩ | hn
      · exact le_rfl
      · exact (hi.drawn.past t n hn).1
  · refine ⟨hi.leases.locked.same rfl rfl, ?_⟩
    intro i eyes' h
    cases h
    exact hi.leases.shim index eyes hlease

/-- The mutex of a lease that is given up is not the helper's. -/
theorem unlockLease_locked {s s' : System} (hi : s.Inv) {index eyes key : ℕ}
    (hlease : s.present.lease? = some (index, eyes)) (hintake : s'.intake = s.intake)
    (hmutexes : s'.mutexes = s.unlockLease index key) : s'.Locked := by
  have hvalid := (hi.owned.lease index eyes hlease).1
  refine hi.leases.locked.update hintake (by rw [hmutexes, unlockLease, if_pos hvalid]) ?_
  intro hheld
  exact absurd ((hi.leases.shim index eyes hlease).unique hheld) (by decide)

theorem releaseSlot_inv {s : System} (hi : s.Inv) {snap : Snapshot} {index : ℕ}
    (hpresent : s.present = .leased snap index 2) : (s.releaseSlot snap index).Inv := by
  have hlease : s.present.lease? = some (index, 2) := by rw [hpresent]; rfl
  obtain ⟨hvalid, hnotOwned⟩ := hi.owned.lease index 2 hlease
  have hindex : index < s.ring.count := by
    simp only [FrameStagingRing.leaseValid, decide_eq_true_eq] at hvalid
    exact hvalid.1
  set s' := s.releaseSlot snap index with hs'
  have hring : s'.ring = s.ring.setSlot index { s.ring.slots index with
      leased := false, helperOwned := true, frameId := s.frameId + 1 } := by
    simp [hs', releaseSlot, FrameStagingRing.releaseToHelper, hvalid]
  have hother : ∀ i, i ≠ index → s'.ring.slots i = s.ring.slots i := by
    intro i hne
    rw [hring]
    exact FrameStagingRing.setSlot_of_ne _ _ hne
  have hslot : s'.ring.slots index = { s.ring.slots index with
      leased := false, helperOwned := true, frameId := s.frameId + 1 } := by simp [hring]
  have hgen : s'.ring.generation = s.ring.generation := by simp [hring]
  have hcount : s'.ring.count = s.ring.count := by simp [hring]
  have hlive : s'.live = s.live + {s.readyFrame snap index} := by
    simp only [System.live, hpresent, hs', releaseSlot, PresentThread.frame?, Option.toList_none,
      Option.toList_some, Multiset.coe_nil, Multiset.coe_singleton]
    abel
  have hmem : ∀ frame ∈ s'.live, frame ∈ s.live ∨ frame = s.readyFrame snap index := by
    intro frame hframe
    simpa [hlive] using hframe
  have htickets : s'.tickets = s.tickets + {(s.frameId + 1, index)} := by
    have hticket : ticket (s.readyFrame snap index) = (s.frameId + 1, index) := rfl
    have htoShim : s'.toShim = s.toShim := rfl
    have hintake : s'.intake = s.intake := rfl
    simp only [tickets, hlive, Multiset.map_add, Multiset.map_singleton, hticket, htoShim, hintake]
    abel
  have hframeId : s'.frameId = s.frameId + 1 := rfl
  -- The new id is fresh
  have hold : ∀ frame ∈ s.live, frame.frameId ≤ s.frameId :=
    fun frame hframe => hi.ids.le _ (ticket_mem hframe)
  refine ⟨⟨?_, ?_⟩, ⟨?_, ?_, ?_, ?_, ?_, ?_⟩, ⟨?_, ?_, ?_, ?_⟩, ⟨?_, ?_⟩⟩
  · rw [htickets, Multiset.map_add, Multiset.map_singleton, add_comm, Multiset.singleton_add,
      Multiset.nodup_cons]
    refine ⟨fun hin => ?_, hi.ids.nodup⟩
    obtain ⟨t, ht, heq⟩ := Multiset.mem_map.mp hin
    have hle := hi.ids.le t ht
    simp only at heq
    omega
  · intro t ht
    rw [htickets, Multiset.mem_add, Multiset.mem_singleton] at ht
    rcases ht with ht | rfl
    · exact (hi.ids.le t ht).trans (Nat.le_succ _)
    · exact le_rfl
  · intro i hleased
    by_cases hi' : i = index
    · simp [hi', hslot] at hleased
    · obtain ⟨eyes, h⟩ := hi.owned.leased i (hother i hi' ▸ hleased)
      rw [hlease] at h
      cases h
      exact (hi' rfl).elim
  · intro i eyes h
    cases h
  · intro i ho
    by_cases hi' : i = index
    · simp [hi', hslot, hframeId, hcount, hindex]
    · rw [hother i hi'] at ho ⊢
      obtain ⟨hlt, hle⟩ := hi.owned.owned_slot i ho
      exact ⟨hcount ▸ hlt, hle.trans (Nat.le_succ _)⟩
  · intro frame hframe
    rw [hgen]
    rcases hmem frame hframe with hframe | rfl
    · exact hi.owned.live_le frame hframe
    · exact le_rfl
  · intro frame hframe hframeGen hne
    rw [hgen] at hframeGen
    rw [hcount] at hne ⊢
    rcases hmem frame hframe with hframe | rfl
    · obtain ⟨hlt, howned, hid⟩ := hi.owned.live_slot frame hframe hframeGen hne
      have hne' : frame.stagingIndex ≠ index := by
        intro heq
        simp [heq, hnotOwned] at howned
      rw [hother _ hne']
      exact ⟨hlt, howned, hid⟩
    · simp [readyFrame, hslot, hindex]
  · intro frame hframe i ho hid
    rw [hgen]
    rcases hmem frame hframe with hcarried | rfl
    · have hle := hold frame hcarried
      have hne : i ≠ index := by
        intro heq
        simp only [heq, hslot] at hid
        omega
      rw [hother i hne] at ho hid
      exact hi.owned.own frame hcarried i ho hid
    · by_cases hi' : i = index
      · exact ⟨rfl, hi'.symm⟩
      · rw [hother i hi'] at ho hid
        have hle := (hi.owned.owned_slot i ho).2
        simp only [readyFrame] at hid
        omega
  · intro frame hframe
    rcases hmem frame hframe with hframe | rfl
    · obtain ⟨n, hn, hshows⟩ := hi.drawn.live frame hframe
      refine ⟨n, ?_, hshows⟩
      have hne : frame.frameId ≠ s.frameId + 1 := by
        have hle := hold frame hframe
        omega
      simpa [hs', releaseSlot, Function.update_of_ne hne] using hn
    · obtain ⟨hleft, hright⟩ := hi.drawn.lease index 2 hlease
      refine ⟨s.presents, by simp [hs', releaseSlot, readyFrame], ?_⟩
      rcases hpicture : s.contents (s.texture index) with ⟨left, right⟩
      simp only [hpicture] at hleft hright
      have hshown : s'.contents (textureOf (s.readyFrame snap index)) = ⟨left, right⟩ := hpicture
      rw [hshown, hleft (by omega), hright le_rfl]
  · intro i eyes h
    cases h
  · exact hi.drawn.once
  · intro t n hn
    exact ⟨(hi.drawn.past t n hn).1, fun _ => rfl⟩
  · exact unlockLease_locked hi hlease rfl rfl
  · intro i eyes h
    cases h

theorem returnSlot_inv {s : System} (hi : s.Inv) {snap : Snapshot} {index eyes : ℕ}
    (hpresent : s.present = .leased snap index eyes) :
    ({ s with ring := s.ring.returnSlot index, mutexes := s.unlockLease index 0
              present := .idle } : System).Inv := by
  have hlease : s.present.lease? = some (index, eyes) := by rw [hpresent]; rfl
  obtain ⟨hvalid, hnotOwned⟩ := hi.owned.lease index eyes hlease
  set s' : System := { s with ring := s.ring.returnSlot index
                              mutexes := s.unlockLease index 0, present := .idle } with hs'
  have hring : s'.ring = s.ring.setSlot index { s.ring.slots index with
      leased := false, helperOwned := false, frameId := 0 } := by
    simp [hs', FrameStagingRing.returnSlot, hvalid]
  have hother : ∀ i, i ≠ index → s'.ring.slots i = s.ring.slots i := by
    intro i hne
    rw [hring]
    exact FrameStagingRing.setSlot_of_ne _ _ hne
  have hslot : s'.ring.slots index = { s.ring.slots index with
      leased := false, helperOwned := false, frameId := 0 } := by simp [hring]
  have hgen : s'.ring.generation = s.ring.generation := by simp [hring]
  have hcount : s'.ring.count = s.ring.count := by simp [hring]
  have hkeeps : ∀ i, (s.ring.slots i).helperOwned = true → s'.ring.slots i = s.ring.slots i := by
    intro i ho
    apply hother
    rintro rfl
    simp [ho] at hnotOwned
  have hback : ∀ i, (s'.ring.slots i).helperOwned = true → i ≠ index := by
    rintro i ho rfl
    simp [hslot] at ho
  have hlive : s'.live = s.live := live_eq (by rw [hpresent]; rfl) rfl rfl rfl
  have hle : ∀ frame ∈ s'.live, frame ∈ s.live := fun frame hframe => hlive ▸ hframe
  refine ⟨hi.ids.of_le (tickets_le_of_live hlive.le rfl rfl) rfl, ⟨?_, ?_, ?_, ?_, ?_, ?_⟩,
    ?_, ⟨?_, ?_⟩⟩
  · intro i hleased
    by_cases hi' : i = index
    · simp [hi', hslot] at hleased
    · obtain ⟨eyes', h⟩ := hi.owned.leased i (hother i hi' ▸ hleased)
      rw [hlease] at h
      cases h
      exact (hi' rfl).elim
  · intro i eyes' h
    cases h
  · intro i ho
    have hne := hback i ho
    rw [hother i hne] at ho ⊢
    exact ⟨hcount ▸ (hi.owned.owned_slot i ho).1, (hi.owned.owned_slot i ho).2⟩
  · intro frame hframe
    exact hgen ▸ hi.owned.live_le frame (hle frame hframe)
  · exact hi.owned.live_slot_of hle hgen hcount hkeeps
  · intro frame hframe i ho hid
    have hne := hback i ho
    rw [hother i hne] at ho hid
    exact hgen ▸ hi.owned.own frame (hle frame hframe) i ho hid
  · exact hi.drawn.same hlive.le (fun i eyes' h => by cases h) rfl rfl
      (.inr ⟨rfl, fun h => by cases h⟩)
  · exact unlockLease_locked hi hlease rfl rfl
  · intro i eyes' h
    cases h

/-! ## Every step -/

/-- What a step leaves of everything but the Present thread's place. -/
structure Elsewhere (s s' : System) : Prop where
  frameId : s'.frameId = s.frameId
  contents : s'.contents = s.contents
  drawnBy : s'.drawnBy = s.drawnBy
  mutexes : s'.mutexes = s.mutexes
  intake : s'.intake = s.intake
  toShim : s'.toShim = s.toShim
  toHelper : s'.toHelper = s.toHelper

/-- A step that only moves the Present thread on, from `p` to `p'`. -/
theorem Local.moved {s s' : System} {p p' : PresentThread} (hp : s.present = p)
    (hp' : s'.present = p') (hbefore : p.lease? = none) (hafter : p'.lease? = none)
    (hframe : (↑p'.frame?.toList + frames s'.pending : Multiset FrameReady) ≤
      ↑p.frame?.toList + frames s.pending)
    (hring : s'.ring = s.ring ∨ s'.ring = s.ring.markStale) (he : Elsewhere s s')
    (hpresents : s'.presents = s.presents + 1 ∨ s'.presents = s.presents ∧
      (p'.undrawn = true → p.undrawn = true)) : Local s s' where
  ring := hring
  frameId := he.frameId
  contents := he.contents
  drawnBy := he.drawnBy
  mutexes := he.mutexes
  intake := he.intake
  toShim := he.toShim
  live := by
    simp only [System.live, hp, hp', he.toHelper, he.intake]
    exact add_le_add_left (add_le_add_left hframe _) _
  before := hp ▸ hbefore
  after := hp' ▸ hafter
  presents := by rw [hp, hp']; exact hpresents

/-- The Present thread goes on with the frame that it has in its hand, if it has one. -/
theorem goesOn_inv {s : System} (hi : s.Inv) {p p' : PresentThread} {resend : Bool}
    (hp : s.present = p) (hbefore : p.lease? = none) (hafter : p'.lease? = none)
    (hframe : p'.frame? = p.frame?) (hundrawn : p'.undrawn = true → p.undrawn = true) :
    ({ s with resendConfig := resend, present := p' } : System).Inv := by
  refine Local.inv hi (.moved hp rfl hbefore hafter ?_ (.inl rfl)
    ⟨rfl, rfl, rfl, rfl, rfl, rfl, rfl⟩ (.inr ⟨rfl, hundrawn⟩))
  rw [hframe]

/-- A queued config may cost the oldest frame. -/
theorem frames_queueStagingConfig (pending : List ToHelper) (config : StagingConfig)
    (alloc : Bool) :
    frames (IpcClient.queueStagingConfig pending config alloc).1 =
      frames (if IpcClient.maxPendingMessages ≤ pending.length then pending.tail else pending) := by
  rw [IpcClient.queueStagingConfig, IpcClient.queueMessage_needed, frames_append]
  cases alloc <;> simp [frame?]

theorem frames_queueStagingConfig_le (pending : List ToHelper) (config : StagingConfig)
    (alloc : Bool) :
    frames (IpcClient.queueStagingConfig pending config alloc).1 ≤ frames pending := by
  rw [frames_queueStagingConfig]
  split
  · exact frames_tail_le pending
  · exact le_rfl

theorem createRing_inv {s : System} (hi : s.Inv) {snap : Snapshot} (d3d : ℕ → SlotCreate)
    (hpresent : s.present = .building snap) : (s.createRing snap d3d).Inv := by
  have hbefore : s.present.lease? = none := by rw [hpresent]; rfl
  have hframe : s.present.frame? = none := by rw [hpresent]; rfl
  have hundrawn : s.present.undrawn = true := by rw [hpresent]; rfl
  unfold createRing
  split
  · exact Local.inv hi (.moved hpresent rfl rfl rfl le_rfl (.inl rfl)
      ⟨rfl, rfl, rfl, rfl, rfl, rfl, rfl⟩ (.inr ⟨rfl, fun _ => rfl⟩))
  · rename_i hsize
    split
    · rename_i ring hcreate
      have hring : ring = s.ring.destroyLocked := by
        simp only [FrameStagingRing.create, not_true_eq_false, false_or, if_neg hsize] at hcreate
        split at hcreate <;> cases hcreate
        rfl
      subst hring
      refine Rebuilt.inv hi ⟨fun i => ⟨rfl, rfl⟩, .inr ⟨rfl, rfl⟩, rfl, rfl, rfl, rfl, rfl, rfl, ?_,
        hbefore, rfl, rfl, fun _ => hundrawn⟩
      exact live_eq hframe.symm rfl rfl rfl
    · rename_i ring hcreate
      obtain ⟨hgen, -, -, hfree, -⟩ := FrameStagingRing.create_true hcreate
      refine Rebuilt.inv hi ⟨hfree, .inl hgen, rfl, rfl, rfl, rfl, rfl, rfl, ?_, hbefore, rfl, rfl,
        fun _ => hundrawn⟩
      exact live_eq hframe.symm rfl rfl rfl

/-- A frame that is queued moves from the Present thread's hand. -/
theorem queueFrameReady_frames {pending pending' : List ToHelper} {frame : FrameReady}
    {alloc : Bool} (h : IpcClient.queueFrameReady pending frame alloc = (pending', true)) :
    frames pending' = {frame} + frames pending := by
  rcases IpcClient.queueMessage_evictable pending (.frameReady frame) alloc with hq | hq
  · rw [IpcClient.queueFrameReady, hq] at h
    cases h
    simp [frame?, add_comm]
  · rw [IpcClient.queueFrameReady, hq] at h
    cases h

theorem presentStep_inv {s s' : System} {a : PresentAction} (hi : s.Inv)
    (h : s.presentStep a = some s') : s'.Inv := by
  cases a with
  | begin snap =>
    simp only [presentStep] at h
    split at h
    · rename_i hpresent
      cases h
      split <;> exact Local.inv hi (.moved hpresent rfl rfl rfl le_rfl (.inl rfl)
        ⟨rfl, rfl, rfl, rfl, rfl, rfl, rfl⟩ (.inl rfl))
    · cases h
  | drop =>
    simp only [presentStep] at h
    split at h
    · rename_i snap hpresent
      cases h
      exact goesOn_inv hi hpresent rfl rfl rfl fun _ => rfl
    · cases h
  | look =>
    simp only [presentStep] at h
    split at h
    · rename_i snap hpresent
      split_ifs at h <;> cases h <;>
        exact goesOn_inv hi hpresent rfl rfl rfl fun _ => rfl
    · cases h
  | create d3d =>
    simp only [presentStep] at h
    split at h
    · rename_i snap hpresent
      cases h
      exact createRing_inv hi d3d hpresent
    · cases h
  | clearResend =>
    simp only [presentStep] at h
    split at h
    · rename_i snap hpresent
      cases h
      exact goesOn_inv hi hpresent rfl rfl rfl fun _ => rfl
    · cases h
  | exchangeResend =>
    simp only [presentStep] at h
    split at h
    · rename_i snap hpresent
      cases h
      split <;> exact goesOn_inv hi hpresent rfl rfl rfl fun _ => rfl
    · cases h
  | describe =>
    simp only [presentStep] at h
    split at h
    · rename_i snap hpresent
      split at h <;> cases h <;>
        exact goesOn_inv hi hpresent rfl rfl rfl fun _ => rfl
    · cases h
  | checkConfig =>
    simp only [presentStep] at h
    split at h
    · rename_i snap config hpresent
      cases h
      split <;> exact goesOn_inv hi hpresent rfl rfl rfl fun _ => rfl
    · cases h
  | pushConfig alloc =>
    simp only [presentStep] at h
    split at h
    · rename_i snap config hpresent
      cases h
      have hpending := frames_queueStagingConfig_le s.pending config alloc
      exact Local.inv hi (.moved hpresent rfl rfl rfl (add_le_add_right hpending _) (.inl rfl)
        ⟨rfl, rfl, rfl, rfl, rfl, rfl, rfl⟩ (.inr ⟨rfl, fun _ => rfl⟩))
    · cases h
  | acquire sync =>
    simp only [presentStep] at h
    split at h
    · rename_i snap hpresent
      cases h
      exact acquireSlot_inv hi sync hpresent
    · cases h
  | copyEye =>
    simp only [presentStep] at h
    split at h
    · rename_i snap index eyes hpresent
      split_ifs at h with heyes
      cases h
      exact copyEye_inv hi hpresent heyes
    · cases h
  | release =>
    simp only [presentStep] at h
    split at h
    · rename_i snap index hpresent
      cases h
      exact releaseSlot_inv hi hpresent
    · cases h
  | returnSlot =>
    simp only [presentStep] at h
    split at h
    · rename_i snap index eyes hpresent
      cases h
      exact returnSlot_inv hi hpresent
    · cases h
  | checkFrame =>
    simp only [presentStep] at h
    split at h
    · rename_i frame hpresent
      cases h
      split <;> exact goesOn_inv hi hpresent rfl rfl rfl fun hu => by cases hu
    · cases h
  | pushFrame alloc =>
    simp only [presentStep] at h
    split at h
    · rename_i frame hpresent
      split at h
      · cases h
        exact goesOn_inv hi hpresent rfl rfl rfl fun hu => by cases hu
      · rename_i pending hqueue
        cases h
        have hpending := queueFrameReady_frames hqueue
        exact Local.inv hi (.moved hpresent rfl rfl rfl
          (by simp [PresentThread.frame?, hpending]) (.inl rfl)
          ⟨rfl, rfl, rfl, rfl, rfl, rfl, rfl⟩ (.inr ⟨rfl, fun hu => by cases hu⟩))
    · cases h
  | markStale =>
    simp only [presentStep] at h
    split at h
    · rename_i frame hpresent
      cases h
      exact Local.inv hi (.moved hpresent rfl rfl rfl
        (by simpa [PresentThread.frame?] using Multiset.le_cons_self _ _) (.inr rfl)
        ⟨rfl, rfl, rfl, rfl, rfl, rfl, rfl⟩ (.inr ⟨rfl, fun hu => by cases hu⟩))
    · cases h
  | destroy =>
    have hrebuilt : ∀ {p : PresentThread}, s.present = p → p.lease? = none →
        ({ s with ring := s.ring.destroyLocked, mutexes := s.destroyMutexes
                  handles := s.closeHandles } : System).Inv := by
      rintro p rfl hlease
      exact Rebuilt.inv hi ⟨fun i => ⟨rfl, rfl⟩, .inr ⟨rfl, rfl⟩, rfl, rfl, rfl, rfl, rfl, rfl, rfl,
        hlease, hlease, rfl, id⟩
    simp only [presentStep] at h
    split at h
    · cases h
      exact hrebuilt ‹_› rfl
    · cases h
      exact hrebuilt ‹_› rfl
    · cases h
      exact hrebuilt ‹_› rfl
    · cases h
      exact hrebuilt ‹_› rfl
    · cases h

theorem step_inv {s s' : System} {a : Action} (hi : s.Inv) (h : s.step a = some s') : s'.Inv := by
  cases a with
  | present a => exact presentStep_inv hi h
  | ipc a =>
    obtain ⟨hintake, hmutexes⟩ := ipcStep_same h
    exact (ipcStep_quiet h).inv hi (.same hi.leases.locked (.of_eq hintake) hmutexes)
  | haptic a =>
    obtain ⟨hintake, hmutexes⟩ := hapticStep_same h
    exact (hapticStep_quiet h).inv hi (.same hi.leases.locked (.of_eq hintake) hmutexes)
  | server a =>
    obtain ⟨hintake, hmutexes⟩ := serverStep_same h
    exact (serverStep_quiet h).inv hi (.same hi.leases.locked hintake hmutexes)
  | encoder a => exact (encoderStep_quiet h).inv hi (encoderStep_locks hi.leases.locked h)
  | request request =>
    cases h
    exact Quiet.inv hi (.kept ⟨rfl, rfl, rfl, rfl, rfl⟩ rfl rfl (.inl rfl))
      (.same hi.leases.locked ⟨rfl, rfl, rfl⟩ rfl)
  | helperDies =>
    cases h
    exact (helperDies_quiet s).inv hi (helperDies_locks s)

/-- The invariant holds in every reachable state. -/
theorem run_inv {hasEncoder : Bool} {as : List Action} {s : System}
    (h : Runs.run step (init hasEncoder) as = some s) : s.Inv :=
  Runs.run_invariant (fun _ _ _ hi hstep => step_inv hi hstep) as _ _ (init_inv hasEncoder) h

end WivrnNx.Staging.System
