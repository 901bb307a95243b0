import WivrnNx.Staging.Sessions

/-!
# Slot accounts

Whether every slot that the shim counts as the helper's can still come back.

- `SlotsAccounted`: in a session, the frame or the answer of each such slot of a
  live ring is still somewhere, so an idle ring is a free one;
- `Evicts`: a `StagingConfig` pushed into a full queue throws out the oldest
  message, and that is a `FrameReady` of the current ring;
- `slots_accounted_iff`: along every run, the accounts hold after every step
  exactly when no such push evicts.
-/

namespace WivrnNx.Staging.System

open Ipc VideoIntake

/-- A session is up: the shim says so, and both ends are in it. -/
def sessionUp (s : System) : Prop := s.connected = true ∧ s.linked

/-- The frame of slot `i` is in the Present thread's hand, in the outgoing queue or
in the pipe, or its answer is in the pipe, or the intake has one of the two. -/
def Accounted (s : System) (i : ℕ) : Prop :=
  let owner := ((s.ring.slots i).frameId, i)
  (∃ frame, s.present.frame? = some frame ∧ ticket frame = owner) ∨
  (∃ frame, ToHelper.frameReady frame ∈ s.pending ∧ ticket frame = owner) ∨
  (∃ frame, ToHelper.frameReady frame ∈ s.toHelper ∧ ticket frame = owner) ∨
  (∃ done, ToShim.frameDone done ∈ s.toShim ∧ doneTicket done = owner) ∨
  (∃ frame, s.intake.pending = some frame ∧ ticket frame = owner) ∨
  (∃ frame, s.intake.thread.frame? = some frame ∧ ticket frame = owner) ∨
  ∃ done ∈ s.intake.done, doneTicket done = owner

/-- Nobody has anything left to do for the video path. -/
structure Idle (s : System) : Prop where
  present : s.present = .idle
  pending : s.pending = []
  toHelper : s.toHelper = []
  toShim : s.toShim = []
  intake : s.intake.pending = none ∧ s.intake.thread.frame? = none ∧ s.intake.done = []

/-- No slot of a live ring is lost while a session is up. -/
structure SlotsAccounted (s : System) : Prop where
  accounted : s.sessionUp → s.ring.usable = true → ∀ i,
    (s.ring.slots i).helperOwned = true → s.Accounted i
  idle : s.sessionUp → s.ring.usable = true → s.Idle → ∀ i,
    (s.ring.slots i).helperOwned = false ∧ (s.ring.slots i).leased = false

/-- The oldest message of a full queue is a frame of the current, live ring. -/
def Evicts (s : System) : Prop :=
  s.sessionUp ∧ s.ring.usable = true ∧ IpcClient.maxPendingMessages ≤ s.pending.length ∧
    ∃ frame, s.pending.head? = some (.frameReady frame) ∧ frame.generation = s.ring.generation

/-- The step is not a push of a `StagingConfig` that throws out such a frame. -/
def KeepsFrames (s : System) : Action → Prop
  | .present (.pushConfig _) =>
    (∃ snap config, s.present = .queueing snap config) → ¬ s.Evicts
  | _ => True

/-! ## The accounts as tickets -/

theorem mem_frames {messages : List ToHelper} {frame : FrameReady} :
    frame ∈ frames messages ↔ ToHelper.frameReady frame ∈ messages := by
  simp only [frames, Multiset.mem_coe, List.mem_filterMap]
  constructor
  · rintro ⟨message, hmem, hframe⟩
    cases message <;> cases hframe
    exact hmem
  · exact fun h => ⟨_, h, rfl⟩

theorem mem_answered {messages : List ToShim} {t : ℕ × ℕ} :
    t ∈ answered messages ↔ ∃ done, ToShim.frameDone done ∈ messages ∧ doneTicket done = t := by
  simp only [answered, Multiset.mem_coe, List.mem_map, List.mem_filterMap]
  constructor
  · rintro ⟨done, ⟨message, hmem, hdone⟩, ht⟩
    cases message <;> cases hdone
    exact ⟨done, hmem, ht⟩
  · rintro ⟨done, hmem, ht⟩
    exact ⟨done, ⟨_, hmem, rfl⟩, ht⟩

theorem accounted_iff {s : System} {i : ℕ} :
    s.Accounted i ↔ ((s.ring.slots i).frameId, i) ∈ s.tickets := by
  simp only [Accounted, tickets_eq, VideoIntake.tickets, VideoIntake.live, answers,
    Multiset.mem_add, Multiset.map_add, Multiset.mem_map, mem_frames, mem_answered,
    Multiset.mem_coe, Option.mem_toList, List.mem_map, or_assoc]

/-- Every slot of the helper's is accounted for. -/
def AllAccounted (s : System) : Prop :=
  ∀ i, (s.ring.slots i).helperOwned = true → ((s.ring.slots i).frameId, i) ∈ s.tickets

theorem Idle.tickets {s : System} (h : s.Idle) : s.tickets = 0 := by
  obtain ⟨hpending, hthread, hdone⟩ := h.intake
  simp [tickets_eq, h.present, h.pending, h.toHelper, h.toShim, VideoIntake.tickets,
    VideoIntake.live, answers, hpending, hthread, hdone, PresentThread.frame?]

/-- The accounts are all there is to it: an idle ring follows. -/
theorem slotsAccounted_iff {s : System} (hi : s.Inv) :
    s.SlotsAccounted ↔ (s.sessionUp → s.ring.usable = true → s.AllAccounted) := by
  constructor
  · intro h hup hu i ho
    exact accounted_iff.mp (h.accounted hup hu i ho)
  · intro h
    refine ⟨fun hup hu i ho => accounted_iff.mpr (h hup hu i ho), fun hup hu hidle i => ?_⟩
    constructor
    · by_contra ho
      have hmem := h hup hu i (by simpa using ho)
      simp [hidle.tickets] at hmem
    · by_contra hl
      obtain ⟨eyes, heyes⟩ := hi.owned.leased i (by simpa using hl)
      simp [hidle.present, PresentThread.lease?] at heyes

theorem AllAccounted.kept {s s' : System} (h : s.AllAccounted)
    (hslots : ∀ i, (s'.ring.slots i).helperOwned = true →
      (s.ring.slots i).helperOwned = true ∧
        (s'.ring.slots i).frameId = (s.ring.slots i).frameId)
    (htickets : s'.tickets = s.tickets) : s'.AllAccounted := by
  intro i ho
  obtain ⟨ho', hid⟩ := hslots i ho
  rw [hid, htickets]
  exact h i ho'

/-- A step that leaves the ring and the accounts alone. -/
theorem AllAccounted.same {s s' : System} (h : s.AllAccounted) (hring : s'.ring = s.ring)
    (htickets : s'.tickets = s.tickets) : s'.AllAccounted :=
  h.kept (by simp [hring]) htickets

theorem tickets_same {s s' : System} (hpresent : s'.present.frame? = s.present.frame?)
    (hpending : s'.pending = s.pending) (htoHelper : s'.toHelper = s.toHelper)
    (htoShim : s'.toShim = s.toShim) (hintake : s'.intake = s.intake) :
    s'.tickets = s.tickets := by
  simp only [tickets_eq, hpresent, hpending, htoHelper, htoShim, hintake]

/-! ## The other threads -/

/-- In a session, what another thread does is accounted for: the one ticket that is
spent is that of the slot it frees. -/
theorem AllAccounted.quiet {s s' : System} (hi : s.Inv) (hs : s.Sessions) (hq : Quiet s s')
    (hup : s.sessionUp) (hup' : s'.sessionUp) (hu' : s'.ring.usable = true)
    (h : s.AllAccounted) : s'.AllAccounted := by
  obtain ⟨spent, lost, htickets, hlost, hspent⟩ := hq.ledger
  have hnone := hlost hup.2 hup'.2 (hs.orderly hup.1)
  rw [hnone, add_zero] at htickets
  rcases hspent with ⟨rfl, hring | hring⟩ | ⟨done, rfl, hring⟩
  · exact h.same hring (by simpa using htickets)
  · simp [hring] at hu'
  · intro i ho
    rcases s.ring.onFrameDone_cases done with hsame | ⟨hlt, howned, hid, hfreed⟩
    · -- The answer meets no slot, so it is not that of a slot the helper has
      rw [hsame] at hring
      rw [hring] at ho ⊢
      have hmem := h i ho
      rw [← htickets, Multiset.mem_add, Multiset.mem_singleton] at hmem
      rcases hmem with hmem | heq
      · exact hmem
      · obtain ⟨hid, rfl⟩ := Prod.mk.inj heq
        have hmatch := FrameStagingRing.onFrameDone_match (hi.owned.owned_slot _ ho).1 ho hid
        rw [hsame] at hmatch
        have hslot := congrArg (fun r => (r.slots done.stagingIndex).helperOwned) hmatch
        rw [ho] at hslot
        simp at hslot
    · have hne : i ≠ done.stagingIndex := by
        rintro rfl
        simp [hring, hfreed] at ho
      rw [hring, hfreed, FrameStagingRing.setSlot_of_ne _ _ hne] at ho ⊢
      have hmem := h i ho
      rw [← htickets, Multiset.mem_add, Multiset.mem_singleton] at hmem
      refine hmem.resolve_right fun heq => hne (Prod.mk.inj heq).2

/-! ## The Present thread -/

/-- What a push into the queue throws out, if that is a frame. -/
def evicted (s : System) : Option FrameReady :=
  if IpcClient.maxPendingMessages ≤ s.pending.length then s.pending.head?.bind frame? else none

theorem evicted_mem {s : System} {frame : FrameReady} (h : s.evicted = some frame) :
    frame ∈ s.live := by
  unfold evicted at h
  split at h
  · obtain ⟨message, hhead, hframe⟩ := Option.bind_eq_some_iff.mp h
    cases message <;> cases hframe
    have hmem := List.mem_of_mem_head? hhead
    exact Multiset.mem_add.mpr (.inl (Multiset.mem_add.mpr (.inl
      (Multiset.mem_add.mpr (.inr (mem_frames.mpr hmem))))))
  · cases h

theorem evicts_iff {s : System} : s.Evicts ↔ s.sessionUp ∧ s.ring.usable = true ∧
    ∃ frame, s.evicted = some frame ∧ frame.generation = s.ring.generation := by
  unfold Evicts evicted
  by_cases hfull : IpcClient.maxPendingMessages ≤ s.pending.length
  · have hhead : ∀ frame, s.pending.head? = some (.frameReady frame) ↔
        s.pending.head?.bind frame? = some frame := by
      intro frame
      cases s.pending.head? with
      | none => simp
      | some message => cases message <;> simp [frame?]
    simp only [hfull, true_and, if_true, hhead]
  · simp [hfull]

/-- After the push, what was thrown out is all that is missing. -/
theorem pushConfig_tickets {s : System} {snap : Snapshot} {config : StagingConfig} (alloc : Bool)
    (hpresent : s.present = .queueing snap config) :
    ({ s with pending := (IpcClient.queueStagingConfig s.pending config alloc).1
              present := .ready snap } : System).tickets +
      (↑s.evicted.toList : Multiset FrameReady).map ticket = s.tickets := by
  have hframes : frames (IpcClient.queueStagingConfig s.pending config alloc).1 +
      (↑s.evicted.toList : Multiset FrameReady) = frames s.pending := by
    rw [frames_queueStagingConfig]
    unfold evicted
    split
    · cases s.pending with
      | nil => simp
      | cons message rest =>
        rw [frames_cons, List.tail_cons, List.head?_cons, Option.bind_some, add_comm]
    · simp
  simp only [tickets_eq, hpresent, PresentThread.frame?, ← hframes, Multiset.map_add]
  abel

/-- A push of a `StagingConfig` breaks the accounts exactly when it evicts. -/
theorem pushConfig_accounted {s : System} (hi : s.Inv) {snap : Snapshot}
    {config : StagingConfig} (alloc : Bool) (hpresent : s.present = .queueing snap config)
    (hup : s.sessionUp) (hu : s.ring.usable = true) (h : s.AllAccounted) :
    ({ s with pending := (IpcClient.queueStagingConfig s.pending config alloc).1
              present := .ready snap } : System).AllAccounted ↔ ¬ s.Evicts := by
  have htickets := pushConfig_tickets alloc hpresent
  rw [evicts_iff]
  cases hevicted : s.evicted with
  | none =>
    rw [hevicted] at htickets
    exact iff_of_true (h.same rfl (by simpa using htickets)) (by simp)
  | some frame =>
    have hlive := evicted_mem hevicted
    rw [hevicted, Option.toList_some, Multiset.coe_singleton, Multiset.map_singleton] at htickets
    by_cases hgen : frame.generation = s.ring.generation
    · -- Its slot is still the helper's, and nobody carries the frame any more
      refine iff_of_false (fun hall => ?_) (fun hno => hno ⟨hup, hu, frame, rfl, hgen⟩)
      have hcount : s.ring.count ≠ 0 := by
        simp only [FrameStagingRing.usable, decide_eq_true_eq] at hu
        exact hu.1
      obtain ⟨-, howned, hid⟩ := hi.owned.live_slot frame hlive hgen hcount
      exact hi.ids.disjoint htickets.symm (hall frame.stagingIndex howned) hid
    · refine iff_of_true (fun i ho => ?_) ?_
      · have hmem := h i ho
        rw [← htickets, Multiset.mem_add, Multiset.mem_singleton] at hmem
        refine hmem.resolve_right fun heq => ?_
        exact hgen (hi.owned.own frame hlive i ho (Prod.mk.inj heq).1).1
      · rintro ⟨-, -, frame', heq, hgen'⟩
        cases heq
        exact hgen hgen'

/-- The Present thread accounts for every slot it gives away, but for what a
`StagingConfig` evicts. -/
theorem presentStep_accounted {s s' : System} {a : PresentAction} (hi : s.Inv)
    (hup : s.sessionUp) (h : s.presentStep a = some s') (hu' : s'.ring.usable = true)
    (hs : s.ring.usable = true → s.AllAccounted) :
    s'.AllAccounted ↔ s.KeepsFrames (.present a) := by
  cases a with
  | begin snap =>
    simp only [presentStep] at h
    split at h
    · rename_i hpresent
      cases h
      refine iff_of_true ((hs hu').same rfl (tickets_same ?_ rfl rfl rfl rfl)) trivial
      rw [hpresent]
      split <;> rfl
    · cases h
  | drop =>
    simp only [presentStep] at h
    split at h
    · rename_i hpresent
      cases h
      exact iff_of_true ((hs hu').same rfl (tickets_same (by rw [hpresent]; rfl) rfl rfl rfl rfl))
        trivial
    · cases h
  | look =>
    simp only [presentStep] at h
    split at h
    · rename_i hpresent
      split_ifs at h <;> cases h <;>
        exact iff_of_true ((hs hu').same rfl
          (tickets_same (by rw [hpresent]; rfl) rfl rfl rfl rfl)) trivial
    · cases h
  | create d3d =>
    simp only [presentStep] at h
    split at h
    · rename_i snap hpresent
      cases h
      refine iff_of_true ?_ trivial
      unfold createRing at hu' ⊢
      split at hu'
      · rename_i hsize
        rw [if_pos hsize]
        exact (hs hu').same rfl (tickets_same (by rw [hpresent]; rfl) rfl rfl rfl rfl)
      · rename_i hsize
        rw [if_neg hsize]
        split at hu'
        · rename_i ring hcreate
          rcases FrameStagingRing.create_false hcreate with rfl | rfl
          · exact (hs hu').same rfl (tickets_same (by rw [hpresent]; rfl) rfl rfl rfl rfl)
          · simp [FrameStagingRing.usable, FrameStagingRing.destroyLocked] at hu'
        · -- Every slot of a new ring is free
          rename_i ring hcreate
          obtain ⟨-, -, -, hfree, -⟩ := FrameStagingRing.create_true hcreate
          intro i ho
          simp [(hfree i).1] at ho
    · cases h
  | clearResend =>
    simp only [presentStep] at h
    split at h
    · rename_i hpresent
      cases h
      exact iff_of_true ((hs hu').same rfl (tickets_same (by rw [hpresent]; rfl) rfl rfl rfl rfl))
        trivial
    · cases h
  | exchangeResend =>
    simp only [presentStep] at h
    split at h
    · rename_i hpresent
      cases h
      refine iff_of_true ((hs hu').same rfl (tickets_same ?_ rfl rfl rfl rfl)) trivial
      rw [hpresent]
      split <;> rfl
    · cases h
  | describe =>
    simp only [presentStep] at h
    split at h
    · rename_i hpresent
      split at h <;> cases h <;>
        exact iff_of_true ((hs hu').same rfl
          (tickets_same (by rw [hpresent]; rfl) rfl rfl rfl rfl)) trivial
    · cases h
  | checkConfig =>
    simp only [presentStep] at h
    split at h
    · rename_i hpresent
      cases h
      refine iff_of_true ((hs hu').same rfl (tickets_same ?_ rfl rfl rfl rfl)) trivial
      rw [hpresent]
      split <;> rfl
    · cases h
  | pushConfig alloc =>
    simp only [presentStep] at h
    split at h
    · rename_i snap config hpresent
      cases h
      rw [pushConfig_accounted hi alloc hpresent hup hu' (hs hu')]
      exact ⟨fun hno _ => hno, fun hno => hno ⟨snap, config, hpresent⟩⟩
    · cases h
  | acquire sync =>
    simp only [presentStep] at h
    split at h
    · rename_i snap hpresent
      cases h
      refine iff_of_true ?_ trivial
      unfold acquireSlot at hu' ⊢
      split at hu'
      · exact (hs hu').same rfl (tickets_same (by rw [hpresent]; rfl) rfl rfl rfl rfl)
      · rename_i ring index hacquire
        obtain ⟨-, -, -, hring⟩ := FrameStagingRing.acquireSlot_some hacquire
        have hu : s.ring.usable = true := by simpa [hring, FrameStagingRing.usable] using hu'
        refine (hs hu).kept (fun i ho => ?_)
          (tickets_same (by rw [hpresent]; rfl) rfl rfl rfl rfl)
        by_cases hi' : i = index
        · subst hi'
          simpa [hring] using ho
        · have hslot : ring.slots i = s.ring.slots i := by
            rw [hring]
            exact FrameStagingRing.setSlot_of_ne _ _ hi'
          rw [hslot] at ho ⊢
          exact ⟨ho, rfl⟩
    · cases h
  | copyEye =>
    simp only [presentStep] at h
    split at h
    · rename_i hpresent
      split_ifs at h
      cases h
      exact iff_of_true ((hs hu').same rfl (tickets_same (by rw [hpresent]; rfl) rfl rfl rfl rfl))
        trivial
    · cases h
  | release =>
    simp only [presentStep] at h
    split at h
    · rename_i snap index hpresent
      cases h
      have hvalid := (hi.owned.lease index 2 (by rw [hpresent]; rfl)).1
      have hring : (s.releaseSlot snap index).ring = s.ring.setSlot index
          { s.ring.slots index with
            leased := false, helperOwned := true, frameId := s.frameId + 1 } := by
        simp [releaseSlot, FrameStagingRing.releaseToHelper, hvalid]
      have hu : s.ring.usable = true := by simpa [hring, FrameStagingRing.usable] using hu'
      have htickets : (s.releaseSlot snap index).tickets = {(s.frameId + 1, index)} + s.tickets := by
        simp only [tickets_eq, releaseSlot, hpresent, PresentThread.frame?, Option.toList_some,
          Option.toList_none, Multiset.coe_singleton, Multiset.coe_nil, Multiset.map_singleton,
          Multiset.map_zero, ticket, readyFrame]
        abel
      refine iff_of_true (fun i ho => ?_) trivial
      rw [htickets, hring] at *
      by_cases hi' : i = index
      · subst hi'
        simp
      · rw [FrameStagingRing.setSlot_of_ne _ _ hi'] at ho ⊢
        exact Multiset.mem_add.mpr (.inr (hs hu i ho))
    · cases h
  | returnSlot =>
    simp only [presentStep] at h
    split at h
    · rename_i snap index eyes hpresent
      cases h
      have hvalid := (hi.owned.lease index eyes (by rw [hpresent]; rfl)).1
      simp only [FrameStagingRing.returnSlot, hvalid, if_true] at hu' ⊢
      refine iff_of_true ((hs hu').kept (fun i ho => ?_)
        (tickets_same (by rw [hpresent]; rfl) rfl rfl rfl rfl)) trivial
      by_cases hi' : i = index
      · subst hi'
        simp at ho
      · simpa [FrameStagingRing.setSlot_of_ne _ _ hi'] using ho
    · cases h
  | checkFrame =>
    simp only [presentStep] at h
    split at h
    · rename_i frame hpresent
      cases h
      refine iff_of_true ((hs hu').same rfl (tickets_same ?_ rfl rfl rfl rfl)) trivial
      rw [hpresent]
      split <;> rfl
    · cases h
  | pushFrame alloc =>
    simp only [presentStep] at h
    split at h
    · rename_i frame hpresent
      split at h
      · cases h
        exact iff_of_true ((hs hu').same rfl
          (tickets_same (by rw [hpresent]; rfl) rfl rfl rfl rfl)) trivial
      · rename_i pending hqueue
        cases h
        refine iff_of_true ((hs hu').same rfl ?_) trivial
        have hframes := queueFrameReady_frames hqueue
        simp only [tickets_eq, hpresent, hframes, PresentThread.frame?, Option.toList_some,
          Option.toList_none, Multiset.coe_singleton, Multiset.coe_nil, Multiset.map_add,
          Multiset.map_zero, zero_add]
    · cases h
  | markStale =>
    simp only [presentStep] at h
    split at h
    · cases h
      simp at hu'
    · cases h
  | destroy =>
    simp only [presentStep] at h
    split at h <;> cases h <;>
      simp [FrameStagingRing.usable, FrameStagingRing.destroyLocked] at hu'

/-! ## Runs -/

/-- A session comes up only between two sessions, when `connected_` is set. -/
theorem sessionUp_between {s s' : System} {a : Action} (hp : s.Phases) (h : s.step a = some s')
    (hup' : s'.sessionUp) : s.sessionUp ∨ s.Between := by
  cases a with
  | present a =>
    have ho := presentStep_only h
    simp only [sessionUp, linked, ho.connected, ho.ipc, ho.server, ho.shimOpen,
      ho.serverOpen] at hup'
    exact .inl hup'
  | ipc a =>
    obtain ⟨hconnected, hlinked⟩ := hup'
    cases a with
    | openPipe =>
      simp only [step, ipcStep] at h
      split at h
      · rename_i hipc _
        cases h
        simp [hp.down (.inl hipc)] at hconnected
      · cases h
    | flush ok =>
      simp only [step, ipcStep] at h
      split at h
      · rename_i hipc _
        split_ifs at h <;> cases h
        · exact .inl ⟨hconnected, hlinked⟩
        · simp [linked] at hlinked
      · cases h
    | read =>
      simp only [step, ipcStep] at h
      split at h
      · rename_i message rest hipc _
        cases h
        cases message with
        | hmdConfig =>
          have hlinked' := hlinked.2
          exact .inl ⟨hconnected, .inl hipc, hlinked'⟩
        | frameDone done =>
          by_cases hgot : s.gotConfig = true <;>
            simp only [handleToShim, hgot, if_true, Bool.false_eq_true,
              if_false] at hconnected hlinked <;>
            exact .inl ⟨hconnected, hlinked⟩
      · cases h
    | storeConnected =>
      simp only [step, ipcStep] at h
      split at h <;> cases h
      rename_i hipc
      exact .inr ⟨hp.down (by simp [hipc]), by simp [hipc]⟩
    | sessionReady =>
      simp only [step, ipcStep] at h
      split at h <;> cases h
      rename_i hipc
      exact .inl ⟨hconnected, by simp [hipc], hlinked.2⟩
    | _ =>
      simp only [step, ipcStep] at h
      split at h <;> cases h
      simp [linked] at hlinked
  | haptic a =>
    cases a with
    | check haptic =>
      simp only [step, hapticStep, Option.some.injEq] at h
      subst h
      split at hup' <;> exact .inl hup'
    | push alloc =>
      simp only [step, hapticStep] at h
      split at h <;> cases h
      exact .inl hup'
  | server a =>
    obtain ⟨hconnected, hlinked⟩ := hup'
    cases a with
    | handshake =>
      simp only [step, serverStep] at h
      split at h
      · rename_i hserver _
        split_ifs at h <;> cases h
        · exact .inl ⟨hconnected, hlinked.1, by simp [hserver], hlinked.2.2⟩
        · simp [linked] at hlinked
      · cases h
    | flush ok =>
      simp only [step, serverStep] at h
      split at h
      · rename_i hserver
        split at h
        · cases h
          exact .inl ⟨hconnected, hlinked.1, by simp [hserver], hlinked.2.2⟩
        · split_ifs at h <;> cases h
          · exact .inl ⟨hconnected, hlinked⟩
          · simp [linked] at hlinked
      · cases h
    | receive =>
      simp only [step, serverStep] at h
      split at h
      · rename_i message rest hserver _
        cases h
        cases message <;>
          exact .inl ⟨hconnected, hlinked.1, by simp [hserver], hlinked.2.2⟩
      · cases h
    | timeout =>
      simp only [step, serverStep] at h
      split at h <;> cases h
      rename_i hserver
      exact .inl ⟨hconnected, hlinked.1, by simp [hserver], hlinked.2.2⟩
    | _ =>
      simp only [step, serverStep] at h
      split at h <;> cases h <;> simp [linked] at hlinked
  | encoder a =>
    simp only [step, encoderStep] at h
    split_ifs at h
    obtain ⟨intake, -, rfl⟩ := Option.map_eq_some_iff.mp h
    exact .inl hup'
  | request request =>
    cases h
    exact .inl hup'
  | helperDies =>
    cases h
    simp [sessionUp, linked, System.helperDies] at hup'

/-- One step, from a state whose accounts are in order. -/
theorem step_accounted {s s' : System} {a : Action} (hi : s.Inv) (hs : s.Sessions)
    (hf : s.SlotsAccounted) (h : s.step a = some s') :
    s'.SlotsAccounted ↔ s.KeepsFrames a := by
  rw [slotsAccounted_iff (step_inv hi h)]
  rw [slotsAccounted_iff hi] at hf
  by_cases hpresent : ∃ p, a = .present p
  · obtain ⟨p, rfl⟩ := hpresent
    have ho := presentStep_only h
    have hup : s'.sessionUp ↔ s.sessionUp := by
      simp only [sessionUp, linked, ho.connected, ho.ipc, ho.server, ho.shimOpen, ho.serverOpen]
    constructor
    · intro hall
      -- An eviction happens in a session, on a live ring
      by_cases hevicts : s.sessionUp ∧ s'.ring.usable = true
      · exact (presentStep_accounted hi hevicts.1 h hevicts.2 (hf hevicts.1)).mp
          (hall (hup.mpr hevicts.1) hevicts.2)
      · unfold KeepsFrames
        split
        · rename_i alloc heq
          cases heq
          rintro ⟨snap, config, hpresent⟩ hevict
          simp only [step, presentStep, hpresent, Option.some.injEq] at h
          subst h
          exact hevicts ⟨hevict.1, hevict.2.1⟩
        · trivial
    · intro hkeeps hup' hu'
      exact (presentStep_accounted hi (hup.mp hup') h hu' (hf (hup.mp hup'))).mpr hkeeps
  · have hq := (step_quiet h).resolve_left hpresent
    refine iff_of_true (fun hup' hu' => ?_) ?_
    · rcases sessionUp_between hs.phases h hup' with hup | hbetween
      · exact (hf hup (hq.usable hu')).quiet hi hs hq hup hup' hu'
      · -- The session has just come up: all the helper has is still in the hand
        intro i ho
        have hun := (hs.between hbetween (hq.usable hu')).quiet hi.ids hq
        obtain ⟨frame, hp, hticket⟩ := hun.hand i ho
        rw [← accounted_iff]
        refine .inl ⟨frame, ?_, hticket⟩
        rcases hp with hp | hp <;> rw [hp] <;> rfl
    · unfold KeepsFrames
      split
      · exact (hpresent ⟨_, rfl⟩).elim
      · trivial

/-- Along every run, the accounts hold after every step exactly when no push of a
`StagingConfig` throws a frame of the current ring out of a full queue. -/
theorem slots_accounted_iff (hasEncoder : Bool) (as : List Action) :
    Runs.Along step (fun _ _ s' => s'.SlotsAccounted) (init hasEncoder) as ↔
      Runs.Along step (fun s a _ => s.KeepsFrames a) (init hasEncoder) as := by
  have hstep : ∀ s a s', (s.Inv ∧ s.Sessions) → s.SlotsAccounted → step s a = some s' →
      (s'.Inv ∧ s'.Sessions) ∧ (s'.SlotsAccounted ↔ s.KeepsFrames a) := by
    rintro s a s' ⟨hi, hs⟩ hf h
    exact ⟨⟨step_inv hi h, step_sessions hi hs h⟩, step_accounted hi hs hf h⟩
  have hinit := init_inv hasEncoder
  refine Runs.along_after_iff hstep as (init hasEncoder) ⟨hinit, init_sessions hasEncoder⟩ ?_
  exact (slotsAccounted_iff hinit).mpr fun hup => by simp [sessionUp, init] at hup

/-! ## A queue full of haptics -/

section FullQueue

/-- The next Present finds `resend_config_` set and announces the ring again. -/
def presentAgain : List Action :=
  [.present (.begin {}), .present .look, .present .exchangeResend, .present .describe,
    .present .checkConfig, .present (.pushConfig true)]

/-- `n` haptics, each checked and queued. -/
def buzz (n : ℕ) : List Action :=
  (List.replicate n [Action.haptic (.check { device := 0 }), .haptic (.push true)]).flatten

/-- The callback comes late: the first Present has announced its ring by then. Only
the config has left the queue when 63 haptics fill it behind the frame. -/
def evictedFrame : List Action :=
  connecting ++ firstPresent ++ [.ipc .sessionReady, .ipc (.flush true)] ++ buzz 63 ++
    presentAgain

instance (s : System) : Decidable s.sessionUp :=
  inferInstanceAs (Decidable (s.connected = true ∧
    (s.ipc = .session ∨ s.ipc = .configured ∨ s.ipc = .announced) ∧
      (s.server = .handshake ∨ s.server = .flushing ∨ s.server = .serving) ∧
        s.shimOpen = true ∧ s.serverOpen = true))

/-- In a session, slot 0 of a live ring is the helper's and its ticket is nowhere. -/
def leaked (s : System) : Bool :=
  s.sessionUp ∧ s.ring.usable = true ∧ (s.ring.slots 0).helperOwned = true ∧
    ((s.ring.slots 0).frameId, 0) ∉ s.tickets

theorem not_slotsAccounted_of_leaked {s : System} (h : leaked s = true) :
    ¬ s.SlotsAccounted := by
  obtain ⟨hup, hu, howned, hnone⟩ := of_decide_eq_true h
  intro hs
  exact hnone (accounted_iff.mp (hs.accounted hup hu 0 howned))

/-- The second Present's config throws the first Present's frame out of the queue. -/
theorem frame_evicted :
    ∃ s, Runs.run step (init true) evictedFrame = some s ∧ ¬ s.SlotsAccounted := by
  have hrun : (Runs.run step (init true) evictedFrame).map leaked = some true := by
    decide +kernel
  obtain ⟨s, hs, hleaked⟩ := Option.map_eq_some_iff.mp hrun
  exact ⟨s, hs, not_slotsAccounted_of_leaked hleaked⟩

end FullQueue

end WivrnNx.Staging.System
