import WivrnNx.Staging.PresentSteps

/-!
# Sessions

What the accounts need to know of the two threads that run a session.

- `Phases`: the IPC thread's places and its two flags;
- `Unannounced`: before a session is up, a live ring has no slot with the helper
  but that of the frame in the Present thread's hand;
- `Backlog`: the intake never owes more than three answers, because the pipe loop
  empties `done_` before it reads the next message.
-/

namespace WivrnNx.Staging.System

open Ipc VideoIntake

/-- Where `connected_` and `got_config` stand. -/
structure Phases (s : System) : Prop where
  config : s.connected = true ∨ s.ipc = .configured → s.gotConfig = true
  down : s.ipc = .closed ∨ s.ipc = .configured ∨ s.ipc = .disconnected ∨ s.ipc = .dropped ∨
    s.ipc = .cleared → s.connected = false
  up : s.ipc = .announced → s.connected = true

/-- The last session is over and the next one is not up. -/
def Between (s : System) : Prop :=
  s.connected = false ∧ (s.ipc = .closed ∨ s.ipc = .session ∨ s.ipc = .configured)

/-- The helper has heard of no slot of this ring. -/
structure Unannounced (s : System) : Prop where
  hand : ∀ i, (s.ring.slots i).helperOwned = true →
    ∃ frame, (s.present = .sent frame ∨ s.present = .refused frame) ∧
      ticket frame = ((s.ring.slots i).frameId, i)
  pushing : ∀ frame, s.present ≠ .pushing frame

/-- What the intake owes at most, with `done_` empty whenever a message is read. -/
structure Backlog (s : System) : Prop where
  three : s.intake.tickets.card ≤ 3
  serving : s.server = .serving → s.intake.tickets.card ≤ 2

/-- The invariant of the sessions. -/
structure Sessions (s : System) : Prop where
  phases : s.Phases
  between : s.Between → s.ring.usable = true → s.Unannounced
  backlog : s.Backlog

theorem init_sessions (hasEncoder : Bool) : (init hasEncoder).Sessions where
  phases := ⟨by simp [init], by simp [init], by simp [init]⟩
  between := by simp [init, FrameStagingRing.usable]
  backlog := by
    constructor <;>
      simp [init, VideoIntake.tickets, VideoIntake.live, answers, EncoderThread.frame?]

/-! ## The backlog -/

/-- At most one frame waits and one is being encoded. -/
theorem live_card_le (i : VideoIntake) : i.live.card ≤ 2 := by
  have hle : ∀ frame : Option FrameReady, frame.toList.length ≤ 1 := by
    intro frame
    cases frame <;> simp
  have hpending := hle i.pending
  have hthread := hle i.thread.frame?
  simp only [VideoIntake.live, Multiset.card_add, Multiset.coe_card]
  omega

theorem Ledger.card_le {i i' : VideoIntake} {new : Multiset FrameReady}
    (h : Ledger i i' new) : i'.tickets.card ≤ i.tickets.card + new.card := by
  obtain ⟨lost, hlost, -⟩ := h.tickets
  have hcard := congrArg Multiset.card hlost
  simp only [Multiset.card_add, Multiset.card_map] at hcard
  omega

theorem serverStep_backlog {s s' : System} {a : ServerAction} (hb : s.Backlog)
    (h : s.serverStep a = some s') : s'.Backlog := by
  cases a with
  | handshake =>
    simp only [serverStep] at h
    split at h
    · split_ifs at h <;> cases h <;> exact ⟨hb.three, by simp⟩
    · cases h
  | flush ok =>
    simp only [serverStep] at h
    split at h
    · split at h
      · -- `done_` was seen empty
        rename_i hpop
        cases h
        have hdone : s.intake.done = [] := by
          unfold popDone at hpop
          split at hpop
          · assumption
          · cases hpop
        refine ⟨hb.three, fun _ => ?_⟩
        have hlive := live_card_le s.intake
        simpa [VideoIntake.tickets, answers, hdone] using hlive
      · rename_i done intake hpop
        have hcard : intake.tickets.card ≤ s.intake.tickets.card := by
          rw [(popDone_ledger hpop).2, Multiset.card_add]
          omega
        split_ifs at h <;> cases h
        · exact ⟨hcard.trans hb.three, by simp_all⟩
        · exact ⟨hcard.trans hb.three, by simp⟩
    · cases h
  | receive =>
    simp only [serverStep] at h
    split at h
    · rename_i message rest hserver _
      cases h
      have htwo := hb.serving hserver
      cases message with
      | shimHello => exact ⟨hb.three, by simp [handleToHelper]⟩
      | haptic haptic => exact ⟨hb.three, by simp [handleToHelper]⟩
      | stagingConfig config =>
        have hcard := Ledger.card_le (onStagingConfig_ledger s.intake config)
        exact ⟨hcard.trans (by simpa using hb.three), by simp [handleToHelper]⟩
      | frameReady frame =>
        have hcard := Ledger.card_le (onFrameReady_ledger s.intake s.request.active frame)
        refine ⟨hcard.trans ?_, by simp [handleToHelper]⟩
        rw [Multiset.card_singleton]
        omega
    · cases h
  | timeout =>
    simp only [serverStep] at h
    split at h <;> cases h
    exact ⟨hb.three, by simp⟩
  | fail =>
    simp only [serverStep] at h
    split at h <;> cases h <;> exact ⟨hb.three, by simp⟩
  | disconnect =>
    simp only [serverStep] at h
    split at h <;> cases h
    exact ⟨hb.three, by simp⟩
  | shimGone =>
    simp only [serverStep] at h
    split at h <;> cases h
    exact ⟨(Multiset.card_le_card (onShimGone_ledger s.intake).2).trans hb.three, by simp⟩

theorem encoderStep_backlog {s s' : System} {a : EncoderAction} (hb : s.Backlog)
    (h : s.encoderStep a = some s') : s'.Backlog := by
  unfold encoderStep at h
  split_ifs at h
  obtain ⟨intake, hintake, rfl⟩ := Option.map_eq_some_iff.mp h
  have hcard := Ledger.card_le (encoderStep_ledger hintake)
  rw [Multiset.card_zero, add_zero] at hcard
  exact ⟨hcard.trans hb.three, fun hserver => hcard.trans (hb.serving hserver)⟩

theorem Backlog.same {s s' : System} (hb : s.Backlog) (hintake : s'.intake = s.intake)
    (hserver : s'.server = .serving → s.server = .serving) : s'.Backlog :=
  ⟨hintake ▸ hb.three, fun h => hintake ▸ hb.serving (hserver h)⟩

/-- Nothing a step meets in a session makes it lose an answer. -/
theorem Sessions.orderly {s : System} (hs : s.Sessions) (hconnected : s.connected = true) :
    s.Orderly where
  room := by
    have hle : s.intake.done.length ≤ s.intake.tickets.card := by
      simp [VideoIntake.tickets, answers]
    have hthree := hs.backlog.three
    simp only [maxDone]
    omega
  config := .inl (hs.phases.config (.inl hconnected))

/-! ## Between sessions -/

theorem Quiet.usable {s s' : System} (hq : Quiet s s') (h : s'.ring.usable = true) :
    s.ring.usable = true := by
  obtain ⟨_, _, -, -, ⟨-, hring | hring⟩ | ⟨done, -, hring⟩⟩ := hq.ledger
  · exact hring ▸ h
  · simp [hring] at h
  · simpa [hring] using h

/-- What another thread does to a ring nobody has heard of does not announce it. -/
theorem Unannounced.quiet {s s' : System} (hi : s.Ids) (hq : Quiet s s') (h : s.Unannounced) :
    s'.Unannounced where
  hand i ho := by
    rw [hq.same.present]
    rcases (hq.freed hi).2.2 i with hslot | ⟨-, hslot, -⟩
    · rw [hslot] at ho ⊢
      exact h.hand i ho
    · rw [hslot] at ho
      cases ho
  pushing := hq.same.present ▸ h.pushing

/-- With another place than the hand-over, the helper has no slot at all. -/
theorem Unannounced.none {s : System} (h : s.Unannounced)
    (hsent : ∀ frame, s.present ≠ .sent frame) (hrefused : ∀ frame, s.present ≠ .refused frame)
    (i : ℕ) : (s.ring.slots i).helperOwned = false := by
  by_contra ho
  obtain ⟨frame, hp | hp, -⟩ := h.hand i (by simpa using ho)
  · exact hsent frame hp
  · exact hrefused frame hp

theorem Unannounced.of_none {s : System} (h : ∀ i, (s.ring.slots i).helperOwned = false)
    (hpushing : ∀ frame, s.present ≠ .pushing frame) : s.Unannounced :=
  ⟨fun i ho => by simp [h i] at ho, hpushing⟩

/-- Without a session the Present thread announces nothing. -/
theorem presentStep_unannounced {s s' : System} {a : PresentAction} (hi : s.Inv)
    (hconnected : s.connected = false) (hu : s.ring.usable = true → s.Unannounced)
    (h : s.presentStep a = some s') (husable : s'.ring.usable = true) : s'.Unannounced := by
  cases a with
  | begin snap =>
    simp only [presentStep] at h
    split at h
    · rename_i hpresent
      cases h
      refine .of_none ((hu husable).none (by simp [hpresent]) (by simp [hpresent])) ?_
      simp [hconnected]
    · cases h
  | drop =>
    simp only [presentStep] at h
    split at h
    · rename_i hpresent
      cases h
      exact .of_none ((hu husable).none (by simp [hpresent]) (by simp [hpresent])) (by simp)
    · cases h
  | look =>
    simp only [presentStep] at h
    split at h
    · rename_i hpresent
      split_ifs at h <;> cases h <;>
        exact .of_none ((hu husable).none (by simp [hpresent]) (by simp [hpresent])) (by simp)
    · cases h
  | create d3d =>
    simp only [presentStep] at h
    split at h
    · rename_i snap hpresent
      cases h
      unfold createRing at husable ⊢
      split at husable
      · rename_i hsize
        rw [if_pos hsize]
        exact .of_none ((hu husable).none (by simp [hpresent]) (by simp [hpresent])) (by simp)
      · rename_i hsize
        rw [if_neg hsize]
        split at husable
        · rename_i ring hcreate
          rcases FrameStagingRing.create_false hcreate with rfl | rfl
          · exact .of_none ((hu husable).none (by simp [hpresent]) (by simp [hpresent])) (by simp)
          · simp [FrameStagingRing.usable, FrameStagingRing.destroyLocked] at husable
        · rename_i ring hcreate
          obtain ⟨-, -, -, hfree, -⟩ := FrameStagingRing.create_true hcreate
          exact .of_none (fun i => (hfree i).1) (by simp)
    · cases h
  | clearResend =>
    simp only [presentStep] at h
    split at h
    · rename_i hpresent
      cases h
      exact .of_none ((hu husable).none (by simp [hpresent]) (by simp [hpresent])) (by simp)
    · cases h
  | exchangeResend =>
    simp only [presentStep] at h
    split at h
    · rename_i hpresent
      cases h
      refine .of_none ((hu husable).none (by simp [hpresent]) (by simp [hpresent])) ?_
      split <;> simp
    · cases h
  | describe =>
    simp only [presentStep] at h
    split at h
    · rename_i hpresent
      split at h <;> cases h <;>
        exact .of_none ((hu husable).none (by simp [hpresent]) (by simp [hpresent])) (by simp)
    · cases h
  | checkConfig =>
    simp only [presentStep] at h
    split at h
    · rename_i hpresent
      cases h
      refine .of_none ((hu husable).none (by simp [hpresent]) (by simp [hpresent])) ?_
      simp [hconnected]
    · cases h
  | pushConfig alloc =>
    simp only [presentStep] at h
    split at h
    · rename_i hpresent
      cases h
      exact .of_none ((hu husable).none (by simp [hpresent]) (by simp [hpresent])) (by simp)
    · cases h
  | acquire sync =>
    simp only [presentStep] at h
    split at h
    · rename_i snap hpresent
      cases h
      unfold acquireSlot at husable ⊢
      split at husable
      · rename_i hacquire
        exact .of_none ((hu husable).none (by simp [hpresent]) (by simp [hpresent])) (by simp)
      · rename_i ring index hacquire
        obtain ⟨-, -, -, hring⟩ := FrameStagingRing.acquireSlot_some hacquire
        have husable' : s.ring.usable = true := by
          simpa [hring, FrameStagingRing.usable] using husable
        have hnone := (hu husable').none (by simp [hpresent]) (by simp [hpresent])
        refine .of_none (fun i => ?_) (by simp)
        by_cases hi' : i = index
        · simp [hring, hi', hnone index]
        · have hslot : ring.slots i = s.ring.slots i := by
            rw [hring]
            exact FrameStagingRing.setSlot_of_ne _ _ hi'
          simp [hslot, hnone i]
    · cases h
  | copyEye =>
    simp only [presentStep] at h
    split at h
    · rename_i hpresent
      split_ifs at h
      cases h
      exact .of_none ((hu husable).none (by simp [hpresent]) (by simp [hpresent])) (by simp)
    · cases h
  | release =>
    simp only [presentStep] at h
    split at h
    · rename_i snap index hpresent
      cases h
      have hvalid := (hi.owned.lease index 2 (by rw [hpresent]; rfl)).1
      have hring : (s.releaseSlot snap index).ring = s.ring.setSlot index
          { s.ring.slots index with
            leased := false, helperOwned := true, frameId := s.frameId + 1 } := by
        simp [releaseSlot, FrameStagingRing.releaseToHelper, hvalid]
      have husable' : s.ring.usable = true := by
        simpa [hring, FrameStagingRing.usable] using husable
      have hnone := (hu husable').none (by simp [hpresent]) (by simp [hpresent])
      refine ⟨fun i ho => ⟨s.readyFrame snap index, .inl rfl, ?_⟩, by simp [releaseSlot]⟩
      by_cases hi' : i = index
      · simp [hring, hi', ticket, readyFrame]
      · rw [hring, FrameStagingRing.setSlot_of_ne _ _ hi', hnone i] at ho
        cases ho
    · cases h
  | returnSlot =>
    simp only [presentStep] at h
    split at h
    · rename_i snap index eyes hpresent
      cases h
      have hvalid := (hi.owned.lease index eyes (by rw [hpresent]; rfl)).1
      simp only [FrameStagingRing.returnSlot, hvalid, if_true] at husable ⊢
      have hnone := (hu husable).none (by simp [hpresent]) (by simp [hpresent])
      refine .of_none (fun i => ?_) (by simp)
      by_cases hi' : i = index
      · simp [hi']
      · simp [FrameStagingRing.setSlot_of_ne _ _ hi', hnone i]
    · cases h
  | checkFrame =>
    simp only [presentStep] at h
    split at h
    · rename_i frame hpresent
      cases h
      refine ⟨fun i ho => ?_, by simp [hconnected]⟩
      obtain ⟨frame', hp, hticket⟩ := (hu husable).hand i ho
      rcases hp with hp | hp <;> rw [hpresent] at hp <;> cases hp
      exact ⟨frame, .inr (by simp [hconnected]), hticket⟩
    · cases h
  | pushFrame alloc =>
    simp only [presentStep] at h
    split at h
    · rename_i frame hpresent
      have hring : s'.ring = s.ring := by
        split at h <;> cases h <;> rfl
      exact ((hu (hring ▸ husable)).pushing frame hpresent).elim
    · cases h
  | markStale =>
    simp only [presentStep] at h
    split at h
    · cases h
      simp at husable
    · cases h
  | destroy =>
    simp only [presentStep] at h
    split at h <;> cases h <;>
      simp [FrameStagingRing.usable, FrameStagingRing.destroyLocked] at husable

/-! ## Every step -/

theorem Phases.same {s s' : System} (hp : s.Phases) (hconnected : s'.connected = s.connected)
    (hipc : s'.ipc = s.ipc) (hgotConfig : s'.gotConfig = s.gotConfig) : s'.Phases := by
  refine ⟨?_, ?_, ?_⟩ <;> rw [hipc, hconnected]
  · rw [hgotConfig]
    exact hp.config
  · exact hp.down
  · exact hp.up

/-- What a step of another thread leaves of a session's state. -/
structure SameSession (s s' : System) : Prop where
  connected : s'.connected = s.connected
  ipc : s'.ipc = s.ipc
  gotConfig : s'.gotConfig = s.gotConfig

theorem serverStep_session {s s' : System} {a : ServerAction} (h : s.serverStep a = some s') :
    SameSession s s' := by
  cases a with
  | handshake =>
    simp only [serverStep] at h
    split at h
    · split_ifs at h <;> cases h <;> exact ⟨rfl, rfl, rfl⟩
    · cases h
  | flush ok =>
    simp only [serverStep] at h
    split at h
    · split at h
      · cases h
        exact ⟨rfl, rfl, rfl⟩
      · split_ifs at h <;> cases h <;> exact ⟨rfl, rfl, rfl⟩
    · cases h
  | receive =>
    simp only [serverStep] at h
    split at h
    · cases h
      unfold handleToHelper
      split <;> exact ⟨rfl, rfl, rfl⟩
    · cases h
  | _ =>
    simp only [serverStep] at h
    split at h <;> cases h <;> exact ⟨rfl, rfl, rfl⟩

/-- A step that is neither the Present thread's nor the IPC thread's. -/
theorem Sessions.other {s s' : System} (hi : s.Inv) (hs : s.Sessions) (hq : Quiet s s')
    (hsame : SameSession s s') (hbacklog : s'.Backlog) : s'.Sessions where
  phases := hs.phases.same hsame.connected hsame.ipc hsame.gotConfig
  between hb hu := by
    rw [Between, hsame.connected, hsame.ipc] at hb
    exact (hs.between hb (hq.usable hu)).quiet hi.ids hq
  backlog := hbacklog

theorem ipcStep_sessions {s s' : System} {a : IpcAction} (hi : s.Inv) (hs : s.Sessions)
    (h : s.ipcStep a = some s') : s'.Sessions := by
  have hq := ipcStep_quiet h
  have hintake := (ipcStep_same h).1
  obtain ⟨⟨hconfig, hdown, hup⟩, hbetween, hbacklog⟩ := hs
  -- A live ring stays unheard of while the next session is not up
  have hkept : s.Between → s'.ring.usable = true → s'.Unannounced := fun hb hu =>
    (hbetween hb (hq.usable hu)).quiet hi.ids hq
  cases a with
  | openPipe =>
    simp only [ipcStep] at h
    split at h
    · rename_i hipc hserver
      cases h
      have hfalse := hdown (.inl hipc)
      exact ⟨⟨by simp [hfalse], by simp, by simp⟩, fun _ => hkept ⟨hfalse, .inl hipc⟩,
        hbacklog.same hintake (by simp)⟩
    · cases h
  | flush ok =>
    simp only [ipcStep] at h
    split at h
    · rename_i message rest hipc hpending
      split_ifs at h <;> cases h
      · exact ⟨⟨hconfig, hdown, hup⟩, hkept, hbacklog.same hintake id⟩
      · refine ⟨⟨fun hc => hconfig (.inl ?_), by simp, by simp⟩, by simp [Between],
          hbacklog.same hintake id⟩
        simpa using hc
    · cases h
  | read =>
    simp only [ipcStep] at h
    split at h
    · rename_i message rest hipc htoShim
      cases h
      cases message with
      | hmdConfig =>
        refine ⟨⟨fun _ => rfl, ?_, ?_⟩, fun hb => hkept ⟨hb.1, .inr (.inl hipc)⟩,
          hbacklog.same hintake id⟩
        · by_cases hconnected : s.connected = true <;> simp [handleToShim, hconnected]
        · by_cases hconnected : s.connected = true <;> simp [handleToShim, hconnected]
      | frameDone done =>
        by_cases hgot : s.gotConfig = true
        · simp only [handleToShim, hgot, if_true] at hkept ⊢
          exact ⟨⟨by simp, hdown, hup⟩, hkept, hbacklog.same rfl id⟩
        · simp only [handleToShim, hgot, Bool.false_eq_true, if_false] at hkept ⊢
          exact ⟨⟨by simpa [hgot] using hconfig, hdown, hup⟩, hkept, hbacklog.same rfl id⟩
    · cases h
  | storeConnected =>
    simp only [ipcStep] at h
    split at h <;> cases h
    rename_i hipc
    exact ⟨⟨fun _ => hconfig (.inr hipc), by simp, by simp⟩, by simp [Between],
      hbacklog.same rfl id⟩
  | sessionReady =>
    simp only [ipcStep] at h
    split at h <;> cases h
    rename_i hipc
    have htrue := hup hipc
    exact ⟨⟨fun _ => hconfig (.inl htrue), by simp, by simp⟩, by simp [Between, htrue],
      hbacklog.same rfl id⟩
  | fail =>
    simp only [ipcStep] at h
    split at h <;> cases h
    exact ⟨⟨by simpa using fun hc => hconfig (.inl hc), by simp, by simp⟩, by simp [Between],
      hbacklog.same rfl id⟩
  | closePipe =>
    simp only [ipcStep] at h
    split at h <;> cases h
    exact ⟨⟨by simpa using fun hc => hconfig (.inl hc), by simp, by simp⟩, by simp [Between],
      hbacklog.same rfl id⟩
  | clearConnected =>
    simp only [ipcStep] at h
    split at h <;> cases h
    exact ⟨⟨by simp, by simp, by simp⟩, by simp [Between], hbacklog.same rfl id⟩
  | dropPending =>
    simp only [ipcStep] at h
    split at h <;> cases h
    rename_i hipc
    have hfalse := hdown (by simp [hipc])
    exact ⟨⟨by simp [hfalse], by simp [hfalse], by simp⟩, by simp [Between],
      hbacklog.same rfl id⟩
  | clearResend =>
    simp only [ipcStep] at h
    split at h <;> cases h
    rename_i hipc
    have hfalse := hdown (by simp [hipc])
    exact ⟨⟨by simp [hfalse], by simp [hfalse], by simp⟩, by simp [Between],
      hbacklog.same rfl id⟩
  | markStale =>
    simp only [ipcStep] at h
    split at h <;> cases h
    rename_i hipc
    have hfalse := hdown (by simp [hipc])
    exact ⟨⟨by simp [hfalse], by simp [hfalse], by simp⟩, by simp, hbacklog.same rfl id⟩

theorem step_sessions {s s' : System} {a : Action} (hi : s.Inv) (hs : s.Sessions)
    (h : s.step a = some s') : s'.Sessions := by
  cases a with
  | present a =>
    have ho := presentStep_only h
    refine ⟨hs.phases.same ho.connected ho.ipc ho.gotConfig, fun hb => ?_,
      hs.backlog.same ho.intake (fun hserver => ho.server ▸ hserver)⟩
    rw [Between, ho.connected, ho.ipc] at hb
    exact presentStep_unannounced hi hb.1 (hs.between hb) h
  | ipc a => exact ipcStep_sessions hi hs h
  | haptic a =>
    have hsame : SameSession s s' ∧ s'.intake = s.intake ∧ s'.server = s.server := by
      cases a with
      | check haptic =>
        simp only [step, hapticStep, Option.some.injEq] at h
        subst h
        split <;> exact ⟨⟨rfl, rfl, rfl⟩, rfl, rfl⟩
      | push alloc =>
        simp only [step, hapticStep] at h
        split at h <;> cases h
        exact ⟨⟨rfl, rfl, rfl⟩, rfl, rfl⟩
    exact hs.other hi (hapticStep_quiet h) hsame.1
      (hs.backlog.same hsame.2.1 (fun hserver => hsame.2.2 ▸ hserver))
  | server a =>
    exact hs.other hi (serverStep_quiet h) (serverStep_session h) (serverStep_backlog hs.backlog h)
  | encoder a =>
    have hsame : SameSession s s' := by
      simp only [step, encoderStep] at h
      split_ifs at h
      obtain ⟨intake, -, rfl⟩ := Option.map_eq_some_iff.mp h
      exact ⟨rfl, rfl, rfl⟩
    exact hs.other hi (encoderStep_quiet h) hsame (encoderStep_backlog hs.backlog h)
  | request request =>
    cases h
    exact hs.other hi (.kept ⟨rfl, rfl, rfl, rfl, rfl⟩ rfl rfl (.inl rfl)) ⟨rfl, rfl, rfl⟩
      (hs.backlog.same rfl id)
  | helperDies =>
    cases h
    exact hs.other hi (helperDies_quiet s) ⟨rfl, rfl, rfl⟩ (by
      constructor <;> simp [System.helperDies, VideoIntake.tickets, VideoIntake.live, answers,
        EncoderThread.frame?])

end WivrnNx.Staging.System
