import WivrnNx.Staging.SlotAccounts

/-!
# Whether the helper knows the live ring

A `StagingConfig` is written once per ring, and again when a session came up after
it; with it lost, every frame names a slot the helper knows nothing about.

- `announced`: the last config on its way to the helper, or the one it has;
- `Told`: that is the live ring's, or it is about to be sent;
- `live_ring_known`: so it is in every run in which `push_back` finds memory for a
  config while a session is up;
- `config_lost`: a run in which it does not.
-/

namespace WivrnNx

open Ipc

namespace FrameStagingRing

/-- What is announced of a slot is its handle. -/
theorem setSlot_describe (r : FrameStagingRing) {i : ℕ} {slot : Slot}
    (h : slot.handle = (r.slots i).handle) : (r.setSlot i slot).describe = r.describe := by
  have hhandle : ∀ k, ((r.setSlot i slot).slots k).handle = (r.slots k).handle := by
    intro k
    by_cases hk : k = i
    · subst hk
      rw [setSlot_self, h]
    · rw [setSlot_of_ne _ _ hk]
  simp only [describe, setSlot_count, setSlot_generation, hhandle]
  rfl

@[simp] theorem onFrameDone_describe (r : FrameStagingRing) (done : FrameDone) :
    (r.onFrameDone done).1.describe = r.describe := by
  rcases r.onFrameDone_cases done with h | ⟨-, -, -, h⟩
  · rw [h]
  · rw [h]
    exact setSlot_describe r rfl

@[simp] theorem markStale_describe (r : FrameStagingRing) : r.markStale.describe = r.describe := by
  unfold markStale
  split <;> rfl

@[simp] theorem releaseToHelper_describe (r : FrameStagingRing) (index frameId : ℕ) :
    (r.releaseToHelper index frameId).describe = r.describe := by
  unfold releaseToHelper
  split
  · exact setSlot_describe r rfl
  · rfl

@[simp] theorem returnSlot_describe (r : FrameStagingRing) (index : ℕ) :
    (r.returnSlot index).describe = r.describe := by
  unfold returnSlot
  split
  · exact setSlot_describe r rfl
  · rfl

theorem acquireSlot_describe {r r' : FrameStagingRing} {sync : ℕ → Bool} {i : ℕ}
    (h : r.acquireSlot sync = (r', some i)) : r'.describe = r.describe ∧ r'.usable = r.usable := by
  obtain ⟨-, -, -, rfl⟩ := acquireSlot_some h
  exact ⟨setSlot_describe r rfl, rfl⟩

@[simp] theorem releaseToHelper_usable (r : FrameStagingRing) (index frameId : ℕ) :
    (r.releaseToHelper index frameId).usable = r.usable := by
  unfold releaseToHelper
  split <;> rfl

@[simp] theorem returnSlot_usable (r : FrameStagingRing) (index : ℕ) :
    (r.returnSlot index).usable = r.usable := by
  unfold returnSlot
  split <;> rfl

/-- A live ring can be described. -/
theorem describe_none {r : FrameStagingRing} (h : r.describe = none) : r.usable = false := by
  unfold describe at h
  split at h
  · rename_i hcount
    simp [usable, hcount]
  · cases h

end FrameStagingRing

namespace VideoIntake

/-- The encoder thread does not touch `staging_`. -/
theorem encoderStep_staging {i i' : VideoIntake} {a : EncoderAction}
    (h : i.encoderStep a = some i') : i'.staging = i.staging := by
  have htake : ∀ i : VideoIntake, i.takePending.staging = i.staging := by
    intro i
    unfold takePending
    split <;> rfl
  have hconfigured : ∀ machine frame config request found,
      (i.configured machine frame config request found).staging = i.staging := by
    intro machine frame config request found
    unfold configured
    split <;> rfl
  have hconcluded : ∀ (i : VideoIntake) frame forceIdr request result,
      (i.concluded frame forceIdr request result).staging = i.staging := by
    intro i frame forceIdr request result
    cases result <;> rfl
  have hretune : ∀ request, (i.retune request).staging = i.staging := by
    intro request
    unfold retune
    split <;> rfl
  cases a with
  | wake =>
    simp only [encoderStep] at h
    split at h
    · split_ifs at h <;> cases h
      · rfl
      · exact htake _
    · cases h
  | relock =>
    simp only [encoderStep] at h
    split at h <;> cases h
    exact htake _
  | readStaging =>
    simp only [encoderStep] at h
    split at h
    · split at h <;> cases h <;> simp [pushDone, *]
    · cases h
  | readRequest request =>
    simp only [encoderStep] at h
    split at h
    · split_ifs at h <;> cases h <;> rfl
    · cases h
  | openSlot shared =>
    simp only [encoderStep] at h
    split at h
    · split_ifs at h
      cases h
      rfl
    · cases h
  | configure machine =>
    simp only [encoderStep] at h
    split at h
    · split_ifs at h
      cases h
      exact hconfigured ..
    · cases h
  | acquire sync =>
    simp only [encoderStep] at h
    split at h
    · split at h <;> cases h
      · exact hretune _
      · rw [hconcluded]
        exact hretune _
    · cases h
  | release =>
    simp only [encoderStep] at h
    split at h <;> cases h
    rfl
  | finish env =>
    simp only [encoderStep] at h
    split at h <;> cases h
    exact hconcluded ..
  | answer =>
    simp only [encoderStep] at h
    split at h <;> cases h <;> rfl

theorem onFrameReady_staging (i : VideoIntake) (active : Bool) (frame : FrameReady) :
    (i.onFrameReady active frame).staging = i.staging := by
  simp only [onFrameReady]
  split
  · rfl
  · split
    · rfl
    · simp only [accept, supersede]
      split <;> rfl

end VideoIntake

namespace Staging.System

open VideoIntake

/-- The config that a message carries. -/
def config? : ToHelper → Option StagingConfig
  | .stagingConfig config => some config
  | _ => none

/-- The last config on its way to the helper, or else the one it has. -/
def announced (s : System) : Option StagingConfig :=
  ((s.toHelper ++ s.pending).filterMap config?).getLast?.or s.intake.staging

/-- The Present thread is about to queue the ring's config. -/
def Announcing (s : System) : Prop :=
  match s.present with
  | .created _ | .announcing _ | .described _ _ | .queueing _ _ => True
  | _ => False

/-- The config in the Present thread's hand is the ring's. -/
def InHand (s : System) : Prop :=
  ∀ snap config, s.present = .described snap config ∨ s.present = .queueing snap config →
    s.ring.describe = some config

/-- The helper knows the ring, or will. -/
def Told (s : System) : Prop :=
  s.resendConfig = true ∨ s.Announcing ∨ s.announced = s.ring.describe

/-- In a session whose callback was made, the helper will know a live ring. -/
def Known (s : System) : Prop :=
  s.sessionUp → s.ipc = .session → s.ring.usable = true → s.Told

/-- A session is up, every queue is empty, and no thread is in the middle of
something. -/
structure NothingUnderWay (s : System) : Prop where
  up : s.sessionUp
  present : s.present = .idle
  ipc : s.ipc = .session
  server : s.server = .serving
  thread : s.intake.thread = .waiting
  haptics : s.haptics = []
  pending : s.pending = []
  toHelper : s.toHelper = []
  toShim : s.toShim = []
  done : s.intake.done = []

/-- There is no live ring, it will be announced, or the helper has its config. -/
def HelperKnows (s : System) : Prop :=
  s.ring.usable = false ∨ s.resendConfig = true ∨ s.intake.staging = s.ring.describe

/-- While a session is up, `push_back` finds memory for a config. -/
def QueuesConfigs (s : System) : Action → Prop
  | .present (.pushConfig alloc) => s.sessionUp → s.ipc = .session → alloc = true
  | _ => True

theorem Known.helperKnows {s : System} (hk : s.Known) (h : s.NothingUnderWay) :
    s.HelperKnows := by
  by_cases hu : s.ring.usable = true
  · rcases hk h.up h.ipc hu with hresend | hannouncing | hannounced
    · exact .inr (.inl hresend)
    · simp [Announcing, h.present] at hannouncing
    · refine .inr (.inr ?_)
      simpa [announced, h.toHelper, h.pending] using hannounced
  · exact .inl (by simpa using hu)

/-! ## What is announced -/

/-- What is behind a queue's last config does not matter. -/
theorem announced_eq {s s' : System}
    (hqueue : (s'.toHelper ++ s'.pending).filterMap config? =
      (s.toHelper ++ s.pending).filterMap config?)
    (hstaging : s'.intake.staging = s.intake.staging) : s'.announced = s.announced := by
  simp only [announced, hqueue, hstaging]

/-- A step that keeps the Present thread's place, the ring and what is announced. -/
theorem Told.same {s s' : System} (h : s.Told) (hresend : s'.resendConfig = s.resendConfig)
    (hpresent : s'.present = s.present) (hdescribe : s'.ring.describe = s.ring.describe)
    (hannounced : s'.announced = s.announced) : s'.Told := by
  unfold Told Announcing
  rw [hresend, hpresent, hdescribe, hannounced]
  exact h

/-- A step of the Present thread from a place where it is not announcing. -/
theorem Told.moved {s s' : System} {p : PresentThread} (h : s.Told) (hp : s.present = p)
    (hnot : ¬ ({ s with present := p } : System).Announcing)
    (hresend : s'.resendConfig = s.resendConfig)
    (hdescribe : s'.ring.describe = s.ring.describe)
    (hannounced : s'.announced = s.announced) : s'.Told := by
  subst hp
  rcases h with h | h | h
  · exact .inl (hresend.trans h)
  · exact (hnot h).elim
  · exact .inr (.inr (by rw [hannounced, hdescribe, h]))

/-- A step of another thread that keeps all of it. -/
theorem Known.kept {s s' : System} (hk : s.Known)
    (hup : s'.sessionUp → s'.ipc = .session → s.sessionUp ∧ s.ipc = .session)
    (hresend : s'.resendConfig = s.resendConfig) (hpresent : s'.present = s.present)
    (husable : s'.ring.usable = s.ring.usable) (hdescribe : s'.ring.describe = s.ring.describe)
    (hannounced : s'.announced = s.announced) : s'.Known := by
  intro hup' hipc hu
  obtain ⟨hs, hipc'⟩ := hup hup' hipc
  exact (hk hs hipc' (husable ▸ hu)).same hresend hpresent hdescribe hannounced

/-- A session that is over, or whose callback is still to come. -/
theorem Known.away {s : System} (h : ¬ (s.sessionUp ∧ s.ipc = .session)) : s.Known :=
  fun hup hipc => (h ⟨hup, hipc⟩).elim

theorem Known.unlinked {s : System} (h : ¬ s.linked) : s.Known :=
  .away fun hup => h hup.1.2

/-! ## The other threads -/

theorem ipcStep_known {s s' : System} {a : IpcAction} (hp : s.Phases) (hk : s.Known)
    (h : s.ipcStep a = some s') : s'.Known := by
  cases a with
  | openPipe =>
    simp only [ipcStep] at h
    split at h
    · rename_i hipc _
      cases h
      exact .away fun hup => by simp [sessionUp, hp.down (.inl hipc)] at hup
    · cases h
  | flush ok =>
    simp only [ipcStep] at h
    split at h
    · rename_i message rest hipc hpending
      split_ifs at h <;> cases h
      · -- The message moves from the queue's front to the pipe's end
        exact hk.kept (fun hup hipc => ⟨hup, hipc⟩) rfl rfl rfl rfl
          (announced_eq (by simp [hpending]) rfl)
      · exact .away (by simp)
    · cases h
  | read =>
    simp only [ipcStep] at h
    split at h
    · rename_i message rest hipc _
      cases h
      cases message with
      | hmdConfig =>
        exact hk.kept (fun hup _ => ⟨⟨hup.1, .inl hipc, hup.2.2⟩, hipc⟩) rfl rfl rfl rfl rfl
      | frameDone done =>
        unfold handleToShim
        dsimp only
        split
        · exact hk.kept (fun hup hipc => ⟨hup, hipc⟩) rfl rfl (by simp) (by simp) rfl
        · exact hk.kept (fun hup hipc => ⟨hup, hipc⟩) rfl rfl rfl rfl rfl
    · cases h
  | sessionReady =>
    simp only [ipcStep] at h
    split at h <;> cases h
    exact fun _ _ _ => .inl rfl
  | _ =>
    simp only [ipcStep] at h
    split at h <;> cases h
    exact .away (by simp)

theorem hapticStep_known {s s' : System} {a : HapticAction} (hk : s.Known)
    (h : s.hapticStep a = some s') : s'.Known := by
  cases a with
  | check haptic =>
    simp only [hapticStep, Option.some.injEq] at h
    subst h
    split <;> exact hk.kept (fun hup hipc => ⟨hup, hipc⟩) rfl rfl rfl rfl rfl
  | push alloc =>
    simp only [hapticStep] at h
    split at h
    · cases h
    · rename_i haptic rest _
      cases h
      refine hk.kept (fun hup hipc => ⟨hup, hipc⟩) rfl rfl rfl rfl (announced_eq ?_ rfl)
      rcases IpcClient.queueMessage_evictable s.pending (.haptic haptic) alloc with hq | hq <;>
        simp [IpcClient.queueHaptic, hq, config?]

/-- A message the helper takes off the pipe. -/
theorem handleToHelper_announced {s : System} {message : ToHelper} {rest : List ToHelper}
    (h : s.toHelper = message :: rest) :
    (({ s with toHelper := rest } : System).handleToHelper message).announced = s.announced := by
  cases message with
  | shimHello => simp [announced, handleToHelper, h, config?]
  | haptic haptic => simp [announced, handleToHelper, h, config?]
  | stagingConfig config =>
    -- It is the one the helper has now, unless another is behind it
    have hstaging : (s.intake.onStagingConfig config).staging = some config := rfl
    simp only [announced, handleToHelper, h, List.cons_append, List.filterMap_cons, config?,
      hstaging, List.getLast?_cons]
    cases ((rest ++ s.pending).filterMap config?).getLast? <;> rfl
  | frameReady frame => simp [announced, handleToHelper, h, config?, onFrameReady_staging]

theorem serverStep_known {s s' : System} {a : ServerAction} (hk : s.Known)
    (h : s.serverStep a = some s') : s'.Known := by
  cases a with
  | handshake =>
    simp only [serverStep] at h
    split at h
    · rename_i rest hserver htoHelper
      split_ifs at h <;> cases h
      · exact hk.kept (fun hup hipc => ⟨⟨hup.1, hup.2.1, by simp [hserver], hup.2.2.2⟩, hipc⟩)
          rfl rfl rfl rfl (announced_eq (by simp [htoHelper, List.filterMap_cons, config?]) rfl)
      · exact .unlinked (by simp [linked])
    · cases h
  | flush ok =>
    simp only [serverStep] at h
    split at h
    · rename_i hserver
      split at h
      · cases h
        exact hk.kept (fun hup hipc => ⟨⟨hup.1, hup.2.1, by simp [hserver], hup.2.2.2⟩, hipc⟩)
          rfl rfl rfl rfl rfl
      · rename_i done intake hpop
        have hstaging : intake.staging = s.intake.staging := by
          unfold popDone at hpop
          split at hpop <;> cases hpop
          rfl
        split_ifs at h <;> cases h
        · exact hk.kept (fun hup hipc => ⟨hup, hipc⟩) rfl rfl rfl rfl (announced_eq rfl hstaging)
        · exact .unlinked (by simp [linked])
    · cases h
  | receive =>
    simp only [serverStep] at h
    split at h
    · rename_i message rest hserver htoHelper
      cases h
      have hannounced := handleToHelper_announced htoHelper
      cases message with
      | shimHello => exact .unlinked (by simp [linked, handleToHelper])
      | _ =>
        exact hk.kept (fun hup hipc => ⟨⟨hup.1, hup.2.1, by simp [hserver], hup.2.2.2⟩, hipc⟩)
          rfl rfl rfl rfl hannounced
    · cases h
  | timeout =>
    simp only [serverStep] at h
    split at h <;> cases h
    rename_i hserver
    exact hk.kept (fun hup hipc => ⟨⟨hup.1, hup.2.1, by simp [hserver], hup.2.2.2⟩, hipc⟩)
      rfl rfl rfl rfl rfl
  | _ =>
    simp only [serverStep] at h
    split at h <;> cases h <;> exact .unlinked (by simp [linked])

/-! ## The Present thread -/

theorem presentStep_inHand {s s' : System} {a : PresentAction} (hh : s.InHand)
    (h : s.presentStep a = some s') : s'.InHand := by
  have helsewhere : ∀ s' : System, (∀ snap config, s'.present ≠ .described snap config) →
      (∀ snap config, s'.present ≠ .queueing snap config) → s'.InHand :=
    fun s' hdescribed hqueueing snap config hp =>
      (hp.elim (hdescribed snap config) (hqueueing snap config)).elim
  cases a with
  | describe =>
    simp only [presentStep] at h
    split at h
    · split at h <;> cases h
      · exact helsewhere _ (by simp) (by simp)
      · rename_i config hdescribe
        rintro _ _ (hp | hp) <;> cases hp
        exact hdescribe
    · cases h
  | checkConfig =>
    simp only [presentStep] at h
    split at h
    · rename_i snap config hpresent
      cases h
      have hdescribe := hh snap config (.inl hpresent)
      split
      · rintro _ _ (hp | hp) <;> cases hp
        exact hdescribe
      · exact helsewhere _ (by simp) (by simp)
    · cases h
  | begin snap =>
    simp only [presentStep] at h
    split at h <;> cases h
    split <;> exact helsewhere _ (by simp) (by simp)
  | look =>
    simp only [presentStep] at h
    split at h
    · split_ifs at h <;> cases h <;> exact helsewhere _ (by simp) (by simp)
    · cases h
  | create d3d =>
    simp only [presentStep] at h
    split at h
    · cases h
      unfold createRing
      split
      · exact helsewhere _ (by simp) (by simp)
      · split <;> exact helsewhere _ (by simp) (by simp)
    · cases h
  | exchangeResend =>
    simp only [presentStep] at h
    split at h <;> cases h
    split <;> exact helsewhere _ (by simp) (by simp)
  | acquire sync =>
    simp only [presentStep] at h
    split at h
    · cases h
      unfold acquireSlot
      split <;> exact helsewhere _ (by simp) (by simp)
    · cases h
  | copyEye =>
    simp only [presentStep] at h
    split at h
    · split_ifs at h
      cases h
      exact helsewhere _ (by simp) (by simp)
    · cases h
  | release =>
    simp only [presentStep] at h
    split at h <;> cases h
    exact helsewhere _ (by simp [releaseSlot]) (by simp [releaseSlot])
  | checkFrame =>
    simp only [presentStep] at h
    split at h <;> cases h
    split <;> exact helsewhere _ (by simp) (by simp)
  | pushFrame alloc =>
    simp only [presentStep] at h
    split at h
    · split at h <;> cases h <;> exact helsewhere _ (by simp) (by simp)
    · cases h
  | destroy =>
    simp only [presentStep] at h
    split at h <;> cases h <;> exact helsewhere _ (by simp [*]) (by simp [*])
  | _ =>
    simp only [presentStep] at h
    split at h <;> cases h
    exact helsewhere _ (by simp) (by simp)

/-- Another thread leaves alone what can be announced of the ring. -/
theorem Quiet.inHand {s s' : System} (hq : Quiet s s') (hh : s.InHand) : s'.InHand := by
  have hdescribe : s'.ring.describe = s.ring.describe := by
    obtain ⟨_, _, -, -, ⟨-, hring | hring⟩ | ⟨done, -, hring⟩⟩ := hq.ledger <;> simp [hring]
  intro snap config hp
  rw [hq.same.present] at hp
  rw [hdescribe]
  exact hh snap config hp

/-- A step of the Present thread that keeps the ring and what is announced, from a
place where it is not announcing. -/
theorem Known.moved {s s' : System} {p : PresentThread} (hk : s.Known) (ho : PresentOnly s s')
    (hp : s.present = p) (hnot : ¬ ({ s with present := p } : System).Announcing)
    (hresend : s'.resendConfig = s.resendConfig) (husable : s'.ring.usable = s.ring.usable)
    (hdescribe : s'.ring.describe = s.ring.describe)
    (hpending : s'.pending.filterMap config? = s.pending.filterMap config?) : s'.Known := by
  intro hup' hipc hu
  have hup : s.sessionUp := by
    simpa only [sessionUp, linked, ho.connected, ho.ipc, ho.server, ho.shimOpen,
      ho.serverOpen] using hup'
  refine (hk hup (ho.ipc ▸ hipc) (husable ▸ hu)).moved hp hnot hresend hdescribe ?_
  refine announced_eq ?_ (by rw [ho.intake])
  rw [List.filterMap_append, List.filterMap_append, ho.toHelper, hpending]

theorem presentStep_known {s s' : System} {a : PresentAction} (hh : s.InHand) (hk : s.Known)
    (hq : s.QueuesConfigs (.present a)) (h : s.presentStep a = some s') : s'.Known := by
  have ho := presentStep_only h
  cases a with
  | begin snap =>
    simp only [presentStep] at h
    split at h
    · rename_i hpresent
      cases h
      exact hk.moved ho hpresent id rfl rfl rfl rfl
    · cases h
  | drop =>
    simp only [presentStep] at h
    split at h
    · rename_i hpresent
      cases h
      exact hk.moved ho hpresent id rfl rfl rfl rfl
    · cases h
  | look =>
    simp only [presentStep] at h
    split at h
    · rename_i hpresent
      split_ifs at h <;> cases h <;> exact hk.moved ho hpresent id rfl rfl rfl rfl
    · cases h
  | create d3d =>
    simp only [presentStep] at h
    split at h
    · rename_i snap hpresent
      cases h
      unfold createRing at ho ⊢
      split at ho
      · rename_i hsize
        rw [if_pos hsize]
        exact hk.moved ho hpresent id rfl rfl rfl rfl
      · rename_i hsize
        rw [if_neg hsize]
        split at ho
        · rename_i ring hcreate
          rcases FrameStagingRing.create_false hcreate with rfl | rfl
          · exact hk.moved ho hpresent id rfl rfl rfl rfl
          · intro _ _ hu
            simp [FrameStagingRing.usable, FrameStagingRing.destroyLocked] at hu
        · exact fun _ _ _ => .inr (.inl trivial)
    · cases h
  | clearResend =>
    simp only [presentStep] at h
    split at h <;> cases h
    exact fun _ _ _ => .inr (.inl trivial)
  | exchangeResend =>
    simp only [presentStep] at h
    split at h
    · rename_i snap hpresent
      cases h
      by_cases hresend : s.resendConfig = true
      · rw [if_pos hresend]
        exact fun _ _ _ => .inr (.inl trivial)
      · refine hk.moved ho hpresent id ?_ rfl rfl rfl
        simpa using hresend
    · cases h
  | describe =>
    simp only [presentStep] at h
    split at h
    · rename_i snap hpresent
      split at h
      · rename_i hdescribe
        cases h
        intro _ _ hu
        simp [FrameStagingRing.describe_none hdescribe] at hu
      · cases h
        exact fun _ _ _ => .inr (.inl trivial)
    · cases h
  | checkConfig =>
    simp only [presentStep] at h
    split at h
    · rename_i snap config hpresent
      cases h
      by_cases hconnected : s.connected = true
      · -- The config in hand is still the ring's
        rw [if_pos hconnected]
        intro hup hipc hu
        rcases hk hup hipc hu with hresend | hannouncing | hannounced
        · exact .inl hresend
        · exact .inr (.inl trivial)
        · exact .inr (.inr hannounced)
      · exact .away fun hup => hconnected hup.1.1
    · cases h
  | pushConfig alloc =>
    simp only [presentStep] at h
    split at h
    · rename_i snap config hpresent
      cases h
      intro hup hipc hu
      obtain rfl : alloc = true := hq hup hipc
      -- Whatever the push throws out, the config is behind it
      refine .inr (.inr ?_)
      simp [announced, IpcClient.queueStagingConfig, IpcClient.queueMessage_needed, config?,
        hh snap config (.inr hpresent)]
    · cases h
  | acquire sync =>
    simp only [presentStep] at h
    split at h
    · rename_i snap hpresent
      cases h
      unfold acquireSlot at ho ⊢
      split at ho
      · exact hk.moved ho hpresent id rfl rfl rfl rfl
      · rename_i ring index hacquire
        obtain ⟨hdescribe, husable⟩ := FrameStagingRing.acquireSlot_describe hacquire
        exact hk.moved ho hpresent id rfl husable hdescribe rfl
    · cases h
  | copyEye =>
    simp only [presentStep] at h
    split at h
    · rename_i hpresent
      split_ifs at h
      cases h
      exact hk.moved ho hpresent id rfl rfl rfl rfl
    · cases h
  | release =>
    simp only [presentStep] at h
    split at h
    · rename_i hpresent
      cases h
      exact hk.moved ho hpresent id rfl (by simp [releaseSlot]) (by simp [releaseSlot]) rfl
    · cases h
  | returnSlot =>
    simp only [presentStep] at h
    split at h
    · rename_i hpresent
      cases h
      exact hk.moved ho hpresent id rfl (by simp) (by simp) rfl
    · cases h
  | checkFrame =>
    simp only [presentStep] at h
    split at h
    · rename_i hpresent
      cases h
      exact hk.moved ho hpresent id rfl rfl rfl rfl
    · cases h
  | pushFrame alloc =>
    simp only [presentStep] at h
    split at h
    · rename_i frame hpresent
      have hconfigs : ((IpcClient.queueFrameReady s.pending frame alloc).1).filterMap config? =
          s.pending.filterMap config? := by
        rcases IpcClient.queueMessage_evictable s.pending (.frameReady frame) alloc with hq | hq <;>
          simp [IpcClient.queueFrameReady, hq, config?]
      split at h
      · cases h
        exact hk.moved ho hpresent id rfl rfl rfl rfl
      · rename_i pending hqueue
        rw [hqueue] at hconfigs
        cases h
        exact hk.moved ho hpresent id rfl rfl rfl hconfigs
    · cases h
  | markStale =>
    simp only [presentStep] at h
    split at h <;> cases h
    intro _ _ hu
    simp at hu
  | destroy =>
    simp only [presentStep] at h
    split at h <;> cases h <;> intro _ _ hu <;>
      simp [FrameStagingRing.usable, FrameStagingRing.destroyLocked] at hu

/-! ## Runs -/

theorem step_known {s s' : System} {a : Action} (hp : s.Phases) (hh : s.InHand) (hk : s.Known)
    (hq : s.QueuesConfigs a) (h : s.step a = some s') : s'.Known := by
  cases a with
  | present a => exact presentStep_known hh hk hq h
  | ipc a => exact ipcStep_known hp hk h
  | haptic a => exact hapticStep_known hk h
  | server a => exact serverStep_known hk h
  | encoder a =>
    simp only [step, encoderStep] at h
    split_ifs at h
    obtain ⟨intake, hintake, rfl⟩ := Option.map_eq_some_iff.mp h
    exact hk.kept (fun hup hipc => ⟨hup, hipc⟩) rfl rfl rfl rfl
      (announced_eq rfl (encoderStep_staging hintake))
  | request request =>
    cases h
    exact hk.kept (fun hup hipc => ⟨hup, hipc⟩) rfl rfl rfl rfl rfl
  | helperDies =>
    cases h
    exact .unlinked (by simp [linked, System.helperDies])

theorem step_inHand {s s' : System} {a : Action} (hh : s.InHand) (h : s.step a = some s') :
    s'.InHand := by
  by_cases hpresent : ∃ p, a = .present p
  · obtain ⟨p, rfl⟩ := hpresent
    exact presentStep_inHand hh h
  · exact ((step_quiet h).resolve_left hpresent).inHand hh

/-- In every run in which memory is found for a config while a session is up, the
helper knows the live ring whenever nothing is under way. -/
theorem live_ring_known (hasEncoder : Bool) (as : List Action)
    (h : Runs.Along step (fun s a _ => s.QueuesConfigs a) (init hasEncoder) as) :
    Runs.Along step (fun _ _ s' => s'.NothingUnderWay → s'.HelperKnows) (init hasEncoder) as := by
  have hstep : ∀ s a s', ((s.Inv ∧ s.Sessions) ∧ s.InHand ∧ s.Known) → s.QueuesConfigs a →
      step s a = some s' → ((s'.Inv ∧ s'.Sessions) ∧ s'.InHand ∧ s'.Known) ∧
        (s'.NothingUnderWay → s'.HelperKnows) := by
    rintro s a s' ⟨⟨hi, hs⟩, hh, hk⟩ hq h
    have hk' := step_known hs.phases hh hk hq h
    exact ⟨⟨⟨step_inv hi h, step_sessions hi hs h⟩, step_inHand hh h, hk'⟩, hk'.helperKnows⟩
  refine Runs.along_imp hstep as _ ⟨⟨init_inv hasEncoder, init_sessions hasEncoder⟩, ?_, ?_⟩ h
  · intro snap config hp
    simp [init] at hp
  · exact .away (by simp [sessionUp, init])

/-! ## A config that is lost -/

section LostConfig

/-- A Present that builds the ring; `alloc` is whether its config finds memory. No
slot can be had for its frame. -/
def announce (alloc : Bool) : List Action :=
  [.present (.begin {}), .present .look, .present (.create sameHandles), .present .clearResend,
    .present .describe, .present .checkConfig, .present (.pushConfig alloc),
    .present (.acquire fun _ => false)]

/-- The helper has read everything. -/
def settle (n : ℕ) : List Action :=
  (List.replicate n [Action.ipc (.flush true), .server (.flush true), .server .receive]).flatten ++
    [.server (.flush true)]

instance (s : System) : Decidable s.NothingUnderWay :=
  decidable_of_iff (s.sessionUp ∧ s.present = .idle ∧ s.ipc = .session ∧ s.server = .serving ∧
    s.intake.thread = .waiting ∧ s.haptics = [] ∧ s.pending = [] ∧ s.toHelper = [] ∧
      s.toShim = [] ∧ s.intake.done = [])
    ⟨fun ⟨h₁, h₂, h₃, h₄, h₅, h₆, h₇, h₈, h₉, h₁₀⟩ => ⟨h₁, h₂, h₃, h₄, h₅, h₆, h₇, h₈, h₉, h₁₀⟩,
      fun h => ⟨h.up, h.present, h.ipc, h.server, h.thread, h.haptics, h.pending, h.toHelper,
        h.toShim, h.done⟩⟩

instance (s : System) : Decidable s.HelperKnows :=
  inferInstanceAs (Decidable (_ ∨ _ ∨ _))

instance (s : System) (a : Action) : Decidable (s.QueuesConfigs a) :=
  match a with
  | .present (.pushConfig _) => inferInstanceAs (Decidable (_ → _ → _))
  | .present (.begin _) | .present .drop | .present .look | .present (.create _)
  | .present .clearResend | .present .exchangeResend | .present .describe
  | .present .checkConfig | .present (.acquire _) | .present .copyEye | .present .release
  | .present .returnSlot | .present .checkFrame | .present (.pushFrame _)
  | .present .markStale | .present .destroy | .ipc _ | .haptic _ | .server _ | .encoder _
  | .request _ | .helperDies => isTrue trivial

/-- The config of the first Present reaches the helper. -/
theorem live_ring_known_one_ring :
    Runs.Along step (fun _ _ s' => s'.NothingUnderWay → s'.HelperKnows) (init true)
      (connect ++ announce true ++ settle 1) :=
  live_ring_known true _ (by decide +kernel)

/-- Without memory for the config, the session stays up and the helper never hears
of the ring. -/
theorem config_lost :
    ∃ s, Runs.run step (init true) (connect ++ announce false ++ settle 0) = some s ∧
      s.NothingUnderWay ∧ ¬ s.HelperKnows := by
  have hrun : (Runs.run step (init true) (connect ++ announce false ++ settle 0)).map
      (fun s => decide (s.NothingUnderWay ∧ ¬ s.HelperKnows)) = some true := by
    decide +kernel
  obtain ⟨s, hs, hlost⟩ := Option.map_eq_some_iff.mp hrun
  exact ⟨s, hs, of_decide_eq_true hlost⟩

end LostConfig

end Staging.System

end WivrnNx
