import WivrnNx.Lib.Runs
import WivrnNx.Session.IdrTracker

/-!
# The floor under recovery key frames

Two calls of `IdrTracker` grant a recovery IDR: `on_feedback`, at the transition
into `need_idr`, and `poll`, for a request that the floor had held back. A third,
`on_frame_sent`, cancels what is held: the key frame is on the wire.

- `Recovery`: the tracker next to what was granted, held and sent so far;
- `Floored`: grants are half a second apart, one at most between two IDRs, and a
  `poll` issues the request held last, with nothing in between;
- `Inv` and `step_inv`: `last_request_` is the newest grant, and before the floor
  is used the tracker is out of `need_idr`;
- `recovery_floored`: every run from a reset tracker.
-/

namespace WivrnNx

namespace RecoveryFloor

open IdrTracker IdrTrace

/-- What the session saw of the tracker. -/
inductive Mark where
  | idrSent
  | held
  | granted (now : ℤ) (byPoll : Bool)
deriving DecidableEq, Repr

/-- The time of a grant. -/
def Mark.grantedAt : Mark → Option ℤ
  | .granted now _ => some now
  | _ => none

/-- The tracker, the latest time it was given, and the marks since the reset, newest
first. -/
structure Recovery where
  tracker : IdrTracker := {}
  clock : ℤ := 0
  marks : List Mark := []
deriving DecidableEq, Repr

/-- The times of all grants, newest first. -/
def Recovery.grants (s : Recovery) : List ℤ := s.marks.filterMap Mark.grantedAt

/-- The grants since the last IDR sent. -/
def Recovery.grantsSinceIdr (s : Recovery) : List ℤ :=
  (s.marks.takeWhile (· ≠ .idrSent)).filterMap Mark.grantedAt

/-- What a timed call leaves in the marks: the grant it returned, or the request it
turned into a pending one. -/
def noted (before after : IdrTracker) (asked byPoll : Bool) (now : ℤ) : List Mark :=
  if asked then [.granted now byPoll]
  else if after.pending ∧ ¬ before.pending then [.held]
  else []

/-- One call on the tracker. The times given are positive and never decrease. -/
def step (s : Recovery) : Call → Option Recovery
  | .frameSent frameIndex idr =>
    some { s with
      tracker := s.tracker.onFrameSent frameIndex idr
      marks := if idr then .idrSent :: s.marks else s.marks }
  | .feedback f now =>
    if 0 < now ∧ s.clock ≤ now then
      let (t, asked) := s.tracker.onFeedback f now
      some { tracker := t, clock := now, marks := noted s.tracker t asked false now ++ s.marks }
    else none
  | .poll now =>
    if 0 < now ∧ s.clock ≤ now then
      let (t, asked) := s.tracker.poll now
      some { tracker := t, clock := now, marks := noted s.tracker t asked true now ++ s.marks }
    else none

/-- The floor, as the session sees it. -/
structure Floored (s : Recovery) : Prop where
  /-- Any two grants are at least the interval apart. -/
  spaced : s.grants.Pairwise fun later earlier => minRecoveryInterval ≤ later - earlier
  /-- A request is only held while a key frame is needed. -/
  pending : s.tracker.pending = true → s.tracker.state = .needIdr
  /-- At any moment at most one recovery has been granted since the last IDR. -/
  once : s.grantsSinceIdr.length ≤ 1
  /-- What `poll` issues was held by the call before: no grant, by `poll` or by a
  feedback, and no IDR came between. -/
  issued : ∀ newer now older, s.marks = newer ++ .granted now true :: older →
    older.head? = some .held

/-! ## Invariant -/

/-- What the tracker's own fields say about the marks. -/
structure Inv (s : Recovery) : Prop extends Floored s where
  /-- `last_request_` is the newest grant, and zero before the first. -/
  last : s.tracker.lastRequest = s.grants.head?.getD 0
  past : ∀ t ∈ s.grants, 0 < t ∧ t ≤ s.clock
  /-- The request held is the last thing that happened. -/
  held : s.tracker.pending = true → s.marks.head? = some .held
  /-- Nothing was granted since the IDR outside `need_idr`, nor while one is held. -/
  quiet : s.tracker.state ≠ .needIdr ∨ s.tracker.pending = true → s.grantsSinceIdr = []

theorem init_inv : Inv {} where
  spaced := List.Pairwise.nil
  pending := by simp
  once := by simp [Recovery.grantsSinceIdr]
  issued := by simp
  last := by simp [Recovery.grants]
  past := by simp [Recovery.grants]
  held := by simp
  quiet := by simp [Recovery.grantsSinceIdr]

/-- What a `poll` issued stays issued by the same request, whatever mark is put on
top, unless that mark is a `poll`'s grant itself. -/
theorem issued_cons {marks : List Mark} {m : Mark}
    (h : ∀ newer now older, marks = newer ++ .granted now true :: older →
      older.head? = some .held)
    (hm : ∀ now, m = .granted now true → marks.head? = some .held) :
    ∀ newer now older, m :: marks = newer ++ .granted now true :: older →
      older.head? = some .held := by
  intro newer now older heq
  cases newer with
  | nil =>
    rw [List.nil_append, List.cons.injEq] at heq
    rw [← heq.2]
    exact hm now heq.1
  | cons m' newer =>
    rw [List.cons_append, List.cons.injEq] at heq
    exact h newer now older heq.2

/-- A call that leaves the request as it was and says nothing keeps the invariant. -/
theorem Inv.silent {s : Recovery} (h : Inv s) {t : IdrTracker} {now : ℤ}
    (hlast : t.lastRequest = s.tracker.lastRequest) (hpending : t.pending = s.tracker.pending)
    (hstate : t.state = s.tracker.state ∨ t.pending = false ∧ s.tracker.state ≠ .needIdr)
    (hnow : s.clock ≤ now) : Inv { s with tracker := t, clock := now } := by
  constructor
  · constructor
    · exact h.spaced
    · intro hp
      rcases hstate with hsame | ⟨hnone, -⟩
      · show t.state = .needIdr
        rw [hsame]
        exact h.pending (hpending ▸ hp)
      · exact absurd hp (by simp [hnone])
    · exact h.once
    · exact h.issued
  · exact hlast.trans h.last
  · intro g hg
    have hpast := h.past g hg
    show 0 < g ∧ g ≤ now
    omega
  · intro hp
    exact h.held (hpending ▸ hp)
  · intro hq
    apply h.quiet
    rcases hstate with hsame | ⟨hnone, hne⟩
    · rw [← hsame, ← hpending]
      exact hq
    · exact .inl hne

/-- A grant, by a tracker that was out of `need_idr` or held a request, and whose floor
has expired. -/
theorem Inv.granted {s : Recovery} (h : Inv s) {t : IdrTracker} {now : ℤ} {byPoll : Bool}
    (hquiet : s.tracker.state ≠ .needIdr ∨ s.tracker.pending = true)
    (hfloor : s.tracker.lastRequest = 0 ∨ minRecoveryInterval ≤ now - s.tracker.lastRequest)
    (hpoll : byPoll = true → s.tracker.pending = true)
    (ht : t.lastRequest = now ∧ t.pending = false ∧ t.state = .needIdr)
    (hpos : 0 < now) (hnow : s.clock ≤ now) :
    Inv { tracker := t, clock := now, marks := .granted now byPoll :: s.marks } := by
  rcases ht with ⟨hlast, hpending, hstate⟩
  -- The newest grant is `last_request_`, every other one is older than that
  have hspaced : ∀ g ∈ s.grants, minRecoveryInterval ≤ now - g := by
    have hhead := h.last
    have hpast := h.past
    have hpair := h.spaced
    cases hg : s.grants with
    | nil => simp
    | cons g₀ gs =>
      rw [hg] at hhead hpast hpair
      have hlast₀ : s.tracker.lastRequest = g₀ := hhead
      have hg₀ := hpast g₀ List.mem_cons_self
      rcases hfloor with hzero | hexpired
      · omega
      · intro g hmem
        rcases List.mem_cons.mp hmem with rfl | hmem
        · omega
        · have hle := (List.pairwise_cons.mp hpair).1 g hmem
          have : 0 < minRecoveryInterval := by decide
          omega
  constructor
  · constructor
    · show (now :: s.grants).Pairwise _
      exact List.pairwise_cons.mpr ⟨hspaced, h.spaced⟩
    · intro hp
      exact absurd hp (by simp [hpending])
    · have hsince := h.quiet hquiet
      show (now :: s.grantsSinceIdr).length ≤ 1
      simp [hsince]
    · apply issued_cons h.issued
      intro now' heq
      rw [Mark.granted.injEq] at heq
      exact h.held (hpoll heq.2)
  · exact hlast
  · intro g hg
    show 0 < g ∧ g ≤ now
    rcases List.mem_cons.mp (show g ∈ now :: s.grants from hg) with rfl | hmem
    · omega
    · have hpast := h.past g hmem
      omega
  · intro hp
    exact absurd hp (by simp [hpending])
  · rintro (hne | hp)
    · exact absurd hstate hne
    · exact absurd hp (by simp [hpending])

/-- A request inside the floor: it is held until the floor expires. -/
theorem Inv.hold {s : Recovery} (h : Inv s) {t : IdrTracker} {now : ℤ}
    (hne : s.tracker.state ≠ .needIdr)
    (ht : t.lastRequest = s.tracker.lastRequest ∧ t.state = .needIdr) (hnow : s.clock ≤ now) :
    Inv { tracker := t, clock := now, marks := .held :: s.marks } := by
  have hsince := h.quiet (.inl hne)
  constructor
  · constructor
    · exact h.spaced
    · exact fun _ => ht.2
    · show s.grantsSinceIdr.length ≤ 1
      simp [hsince]
    · apply issued_cons h.issued
      intro now' heq
      cases heq
  · exact ht.1.trans h.last
  · intro g hg
    have hpast := h.past g hg
    show 0 < g ∧ g ≤ now
    omega
  · exact fun _ => rfl
  · exact fun _ => hsince

/-- An IDR on the wire serves whatever asked for it. -/
theorem Inv.idrSent {s : Recovery} (h : Inv s) (frameIndex : ℕ) :
    Inv { s with tracker := s.tracker.onFrameSent frameIndex true,
                 marks := .idrSent :: s.marks } := by
  constructor
  · constructor
    · exact h.spaced
    · simp [onFrameSent]
    · simp [Recovery.grantsSinceIdr]
    · apply issued_cons h.issued
      intro now heq
      cases heq
  · exact h.last
  · exact h.past
  · simp [onFrameSent]
  · simp [Recovery.grantsSinceIdr]

/-- `request`, out of any state but `need_idr`: granted or held. -/
theorem Inv.request {s : Recovery} (h : Inv s) (hne : s.tracker.state ≠ .needIdr) {now : ℤ}
    (hpos : 0 < now) (hnow : s.clock ≤ now) :
    Inv {
      tracker := (request { s.tracker with state := .needIdr } now).1
      clock := now
      marks := noted s.tracker (request { s.tracker with state := .needIdr } now).1
        (request { s.tracker with state := .needIdr } now).2 false now ++ s.marks } := by
  have hidle : s.tracker.pending = false := by
    by_contra hp
    exact hne (h.pending (by simpa using hp))
  by_cases hfloor : s.tracker.lastRequest ≠ 0 ∧ now - s.tracker.lastRequest < minRecoveryInterval
  · simp only [IdrTracker.request, if_pos hfloor, noted, hidle]
    exact h.hold hne ⟨rfl, rfl⟩ hnow
  · simp only [IdrTracker.request, if_neg hfloor, noted]
    have hexpired : s.tracker.lastRequest = 0 ∨
        minRecoveryInterval ≤ now - s.tracker.lastRequest := by
      by_contra hopen
      exact hfloor ⟨by omega, by omega⟩
    exact h.granted (.inl hne) hexpired (by simp) ⟨rfl, rfl, rfl⟩ hpos hnow

theorem Inv.onFeedback {s : Recovery} (h : Inv s) (f : Feedback) {now : ℤ} (hpos : 0 < now)
    (hnow : s.clock ≤ now) :
    Inv {
      tracker := (s.tracker.onFeedback f now).1
      clock := now
      marks := noted s.tracker (s.tracker.onFeedback f now).1 (s.tracker.onFeedback f now).2 false
        now ++ s.marks } := by
  rcases s.tracker.onFeedback_cases f now with ⟨hhear, heq⟩ | ⟨hwait, -, -, heq⟩ | ⟨-, heq⟩
  · -- Asked: a tracker that hears the loss is waiting or running
    have hne : s.tracker.state ≠ .needIdr := by
      rcases hhear.2 with ⟨hwait, -⟩ | ⟨hrun, -⟩
      · simp [hwait]
      · simp [hrun]
    rw [heq]
    exact h.request hne hpos hnow
  · -- Confirmed: nothing is held while the IDR is outstanding
    have hidle : s.tracker.pending = false := by
      by_contra hp
      have := h.pending (by simpa using hp)
      simp [hwait] at this
    rw [heq]
    simp only [noted, Bool.false_eq_true, if_false, and_not_self]
    exact h.silent rfl rfl (.inr ⟨hidle, by simp [hwait]⟩) hnow
  · -- Ignored
    rw [heq]
    simp only [noted, Bool.false_eq_true, if_false, and_not_self]
    exact h.silent rfl rfl (.inl rfl) hnow

theorem Inv.poll {s : Recovery} (h : Inv s) {now : ℤ} (hpos : 0 < now) (hnow : s.clock ≤ now) :
    Inv {
      tracker := (s.tracker.poll now).1
      clock := now
      marks := noted s.tracker (s.tracker.poll now).1 (s.tracker.poll now).2 true now ++
        s.marks } := by
  by_cases hp : s.tracker.pending = true
  · by_cases hfloor : now - s.tracker.lastRequest < minRecoveryInterval
    · simp only [IdrTracker.poll, hp, hfloor, noted, not_true_eq_false, if_true, if_false,
        Bool.false_eq_true, and_false]
      exact h.silent rfl rfl (.inl rfl) hnow
    · simp only [IdrTracker.poll, hp, hfloor, noted, not_true_eq_false, if_true, if_false]
      exact h.granted (.inr hp) (.inr (by omega)) (fun _ => hp) ⟨rfl, rfl, h.pending hp⟩ hpos hnow
  · simp only [IdrTracker.poll, hp, noted, if_true, not_false_eq_true, Bool.false_eq_true,
      if_false, false_and]
    exact h.silent rfl rfl (.inl rfl) hnow

theorem step_inv (s : Recovery) (c : Call) (s' : Recovery) (h : Inv s)
    (hs : step s c = some s') : Inv s' := by
  cases c with
  | frameSent frameIndex idr =>
    simp only [step, Option.some.injEq] at hs
    subst hs
    cases idr with
    | true => exact h.idrSent frameIndex
    | false =>
      -- A P frame starts the watch at most: out of `idr_received`, where nothing is held
      rcases s.tracker.onFrameSent_p_cases frameIndex with ⟨hrec, heq⟩ | ⟨-, heq⟩
      · have hidle : s.tracker.pending = false := by
          by_contra hp
          have := h.pending (by simpa using hp)
          simp [hrec] at this
        rw [heq]
        exact h.silent rfl rfl (.inr ⟨hidle, by simp [hrec]⟩) le_rfl
      · rw [heq]
        exact h
  | feedback f now =>
    simp only [step] at hs
    split at hs
    · rename_i htime
      cases hs
      exact h.onFeedback f htime.1 htime.2
    · cases hs
  | poll now =>
    simp only [step] at hs
    split at hs
    · rename_i htime
      cases hs
      exact h.poll htime.1 htime.2
    · cases hs

/-- Over every run from a reset tracker, whatever is lost, polled and sent: the floor
holds after every call. -/
theorem recovery_floored (calls : List Call) :
    Runs.Along step (fun _ _ s' => Floored s') {} calls := by
  refine Runs.along_of_invariant step_inv ?_ calls {} init_inv
  intro s c s' h hs
  exact (step_inv s c s' h hs).toFloored

/-- A loss inside the floor is held, a second one while it is held is ignored, and the
`poll` after the floor issues it once. -/
example :
    (Runs.run step {}
      [.frameSent 1 true, .feedback { frameIndex := 1 } 1000, .frameSent 2 true,
        .feedback { frameIndex := 2 } 2000, .feedback { frameIndex := 2 } 3000, .poll 4000,
        .poll 500001000, .poll 900001000]).map Recovery.marks =
      some [.granted 500001000 true, .held, .idrSent, .granted 1000 false, .idrSent] := by
  decide +kernel

end RecoveryFloor

end WivrnNx
