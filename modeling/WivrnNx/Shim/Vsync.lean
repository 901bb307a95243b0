import WivrnNx.Flt
import WivrnNx.Lib.Runs

/-!
# The vsync thread

A thread of the driver stands in for the display (shim/src/direct_mode.cpp): it ticks
at the rate of the view configuration, and `PostPresent` keeps the compositor until the
next tick. The thread is started by the first call that needs it and stopped by
`shutdown`; any number of threads call in. Times are nanoseconds of the steady clock.

- `pacing`: no burst of ticks however late the thread runs, and no wait missed by one;
- `shutdown_stops`: the thread is over when `shutdown` returns, if it was not just being
  started when `shutdown` was called.
-/

namespace WivrnNx.Vsync

/-! ## The interval -/

/-- The rate of `frame_interval_seconds`, in Hz; without an owner it is the default. -/
def refreshHz : Option Flt → ℚ
  | some (.val q) => if 0 < q then max 30 (min q 240) else 90
  | some .posInf => 240
  | _ => 90

/-- What the two casts to nanoseconds make of an interval, in double arithmetic. -/
structure PaceMath where
  /-- `1.0 / hz`. -/
  interval : ℚ → ℤ
  /-- `1.0 / hz * 2.0`. -/
  timeout : ℚ → ℤ
  interval_antitone : AntitoneOn interval (Set.Icc 30 240)
  timeout_antitone : AntitoneOn timeout (Set.Icc 30 240)
  interval_ends : interval 30 = 33333333 ∧ interval 240 = 4166666
  timeout_ends : timeout 30 = 66666666 ∧ timeout 240 = 8333333

/-! ## The threads -/

/-- Where a thread of the compositor is, in `CreateSwapTextureSet` or, if `post`, in
`PostPresent`. -/
inductive Caller
  | away
  /-- In `start_vsync_thread`, before it looks at `shut_down_`. -/
  | entering (post : Bool)
  /-- Before the exchange of `vsync_started_`. -/
  | checked (post : Bool)
  /-- Before `vsync_running_` is set. -/
  | won (post : Bool)
  /-- Before `vsync_exited_` is cleared. -/
  | raised (post : Bool)
  /-- Before the thread is made. -/
  | constructing (post : Bool)
  /-- Before it is assigned to `vsync_thread_`. -/
  | made (post : Bool)
  /-- No thread could be made. -/
  | failed (post : Bool)
  /-- `vsync_running_` is cleared again, `vsync_exited_` not yet set. -/
  | lowered (post : Bool)
  /-- `start_vsync_thread` has returned. -/
  | started (post : Bool)
  /-- In `wait_for`, with the mutex: the predicate was false. -/
  | parking (seen : ℕ) (deadline : ℤ)
  | parked (seen : ℕ) (deadline : ℤ)
  /-- Woken or past the deadline, before it has the mutex again. -/
  | woken (late : Bool) (seen : ℕ) (deadline : ℤ)
deriving DecidableEq

/-- Past the look at `shut_down_`, before `start_vsync_thread` is done. -/
def Caller.Starting : Caller → Prop
  | .checked _ | .won _ | .raised _ | .constructing _ | .made _ | .failed _ | .lowered _ => True
  | _ => False

/-- The caller that starts the thread. -/
def Caller.Starter : Caller → Prop
  | .won _ | .raised _ | .constructing _ | .made _ | .failed _ | .lowered _ => True
  | _ => False

/-- `vsync_loop`. -/
inductive Loop
  /-- Not made. -/
  | none
  | begun
  /-- Before the condition of the loop. -/
  | looping (next : ℤ)
  | pacing (next : ℤ)
  | sleeping (next : ℤ)
  /-- Before the second look at `vsync_running_`. -/
  | awake (next : ℤ)
  /-- `VsyncEvent` was sent. -/
  | counting (next : ℤ)
  | notifying (next : ℤ)
  /-- Past the loop, before `vsync_exited_` is set. -/
  | leaving
  /-- Before the last `notify_all`. -/
  | parting
  | finished
deriving DecidableEq

/-- `shutdown`, as the first call runs it. -/
inductive Shutdown
  | idle
  /-- `shut_down_` is set. -/
  | flagged
  /-- `vsync_running_` is cleared. -/
  | lowered
  | notified
  | joining
  /-- On to the textures. -/
  | past
deriving DecidableEq

structure State where
  clock : ℤ := 0
  shutDown : Bool := false
  started : Bool := false
  running : Bool := false
  exited : Bool := true
  counter : ℕ := 0
  /-- `vsync_thread_.joinable()`. -/
  joinable : Bool := false
  loop : Loop := .none
  callers : ℕ → Caller := fun _ => .away
  /-- Who has `vsync_mutex_`, between its steps. -/
  holder : Option ℕ := none
  shutdown : Shutdown := .idle
  /-- When the thread ticked, the last time first, and which ticks reached vrserver. -/
  ticks : List ℤ := []
  events : List ℤ := []

/-- What a step reads from outside. -/
structure Env where
  /-- `owner_->config_copy().refresh_hz`. -/
  hz : Option Flt := none
  /-- There is a driver context with a host. -/
  live : Bool := false
  /-- The thread can be made. -/
  made : Bool := true

inductive Action
  | pass (d : ℕ)
  | call (c : ℕ) (post : Bool)
  | caller (c : ℕ) (e : Env)
  /-- The deadline of a wait is over. -/
  | timeout (c : ℕ)
  | spurious (c : ℕ)
  | loop (e : Env)
  | shutdown

def State.at (s : State) (c : ℕ) (p : Caller) : State :=
  { s with callers := Function.update s.callers c p }

/-- `notify_all`. -/
def Caller.notify : Caller → Caller
  | .parked seen deadline => .woken false seen deadline
  | p => p

def State.notifyAll (s : State) : State := { s with callers := fun c => (s.callers c).notify }

/-- The predicate of the wait. -/
def State.done (s : State) (seen : ℕ) : Bool := s.counter ≠ seen || !s.running

/-- `start_vsync_thread`, and what `PostPresent` does after it. -/
def callerStep (m : PaceMath) (s : State) (c : ℕ) (e : Env) : Option State :=
  match s.callers c with
  | .away => none
  | .entering post => some (s.at c (if s.shutDown then .started post else .checked post))
  | .checked post =>
    some { s.at c (if s.started then .started post else .won post) with started := true }
  | .won post => some { s.at c (.raised post) with running := true }
  | .raised post => some { s.at c (.constructing post) with exited := false }
  | .constructing post =>
    if e.made then some { s.at c (.made post) with loop := .begun }
    else some (s.at c (.failed post))
  | .made post => some { s.at c (.started post) with joinable := true }
  | .failed post => some { s.at c (.lowered post) with running := false }
  | .lowered post => some { s.at c (.started post) with exited := true }
  | .started false => some (s.at c .away)
  | .started true =>
    if s.holder.isSome then none
    else if s.done s.counter then some (s.at c .away)
    else
      some { s.at c (.parking s.counter (s.clock + m.timeout (refreshHz e.hz))) with
        holder := some c }
  | .parking seen deadline => some { s.at c (.parked seen deadline) with holder := none }
  | .parked _ _ => none
  | .woken late seen deadline =>
    if s.holder.isSome then none
    else if s.done seen || late then some (s.at c .away)
    else some { s.at c (.parking seen deadline) with holder := some c }

def loopStep (m : PaceMath) (s : State) (e : Env) : Option State :=
  match s.loop with
  | .none => none
  | .begun => some { s with loop := .looping s.clock }
  | .looping next => some { s with loop := if s.running then .pacing next else .leaving }
  | .pacing next =>
    let interval := m.interval (refreshHz e.hz)
    let next := next + interval
    some { s with loop := .sleeping (if next < s.clock then s.clock + interval else next) }
  | .sleeping next => if next ≤ s.clock then some { s with loop := .awake next } else none
  | .awake next =>
    if s.running then
      some { s with
        loop := .counting next
        ticks := s.clock :: s.ticks
        events := if e.live then s.clock :: s.events else s.events }
    else some { s with loop := .leaving }
  | .counting next =>
    if s.holder.isSome then none
    else some { s with loop := .notifying next, counter := s.counter + 1 }
  | .notifying next => some { s.notifyAll with loop := .looping next }
  | .leaving => some { s with loop := .parting, exited := true }
  | .parting => some { s.notifyAll with loop := .finished }
  | .finished => none

def shutdownStep (s : State) : Option State :=
  match s.shutdown with
  | .idle => some { s with shutDown := true, shutdown := .flagged }
  | .flagged => some { s with running := false, shutdown := .lowered }
  | .lowered => some { s.notifyAll with shutdown := .notified }
  | .notified => some { s with shutdown := if s.joinable then .joining else .past }
  | .joining =>
    if s.loop = .finished then some { s with joinable := false, shutdown := .past } else none
  | .past => none

def step (m : PaceMath) (s : State) : Action → Option State
  | .pass d => some { s with clock := s.clock + d }
  | .call c post =>
    match s.callers c with
    | .away => some (s.at c (.entering post))
    | _ => none
  | .caller c e => callerStep m s c e
  | .timeout c =>
    match s.callers c with
    | .parked seen deadline =>
      if deadline ≤ s.clock then some (s.at c (.woken true seen deadline)) else none
    | _ => none
  | .spurious c =>
    match s.callers c with
    | .parked seen deadline => some (s.at c (.woken false seen deadline))
    | _ => none
  | .loop e => loopStep m s e
  | .shutdown => shutdownStep s

def init : State := {}

/-! ## Bounds of the interval -/

theorem refreshHz_mem (hz : Option Flt) : refreshHz hz ∈ Set.Icc (30 : ℚ) 240 := by
  unfold refreshHz
  split
  · split
    · exact ⟨le_max_left _ _, max_le (by norm_num) (min_le_right _ _)⟩
    · constructor <;> norm_num
  · constructor <;> norm_num
  · constructor <;> norm_num

/-- A function that falls is between its values at the ends. -/
theorem between_ends {f : ℚ → ℤ} {low high x : ℚ} (hf : AntitoneOn f (Set.Icc low high))
    (hx : x ∈ Set.Icc low high) : f high ≤ f x ∧ f x ≤ f low := by
  have hle : low ≤ high := hx.1.trans hx.2
  exact ⟨hf hx (Set.right_mem_Icc.mpr hle) hx.2, hf (Set.left_mem_Icc.mpr hle) hx hx.1⟩

theorem interval_bounds (m : PaceMath) (hz : Option Flt) :
    4166666 ≤ m.interval (refreshHz hz) ∧ m.interval (refreshHz hz) ≤ 33333333 := by
  obtain ⟨hlow, hhigh⟩ := between_ends m.interval_antitone (refreshHz_mem hz)
  rw [m.interval_ends.1] at hhigh
  rw [m.interval_ends.2] at hlow
  exact ⟨hlow, hhigh⟩

theorem timeout_bound (m : PaceMath) (hz : Option Flt) :
    m.timeout (refreshHz hz) ≤ 66666666 := by
  have hhigh := (between_ends m.timeout_antitone (refreshHz_mem hz)).2
  rw [m.timeout_ends.1] at hhigh
  exact hhigh

/-! ## The invariant -/

/-- What a caller at this place knows of the rest. -/
def Caller.Fits (s : State) (c : ℕ) : Caller → Prop
  | .won _ | .raised _ | .constructing _ | .failed _ | .lowered _ =>
    s.started = true ∧ s.loop = .none ∧ s.joinable = false
  | .made _ => s.started = true ∧ s.loop ≠ .none ∧ s.joinable = false
  | .parking seen deadline =>
    s.holder = some c ∧ seen = s.counter ∧ deadline ≤ s.clock + 66666666
  | .parked seen deadline =>
    (seen = s.counter ∨ ∃ next, s.loop = .notifying next) ∧ deadline ≤ s.clock + 66666666
  | .woken _ _ deadline => deadline ≤ s.clock + 66666666
  | _ => True

/-- Where the next tick lies to the ones before: `next` is past the last but one, and
while the thread sleeps past the last and an interval past the one before. -/
def Loop.Beat (clock : ℤ) (ticks : List ℤ) : Loop → Prop
  | .none | .begun => ticks = []
  | .looping next | .pacing next | .counting next | .notifying next =>
    next ≤ clock ∧ ∀ t, ticks[1]? = some t → t ≤ next
  | .sleeping next =>
    next ≤ clock + 33333333 ∧ (∀ t, ticks[0]? = some t → t ≤ next) ∧
      ∀ t, ticks[1]? = some t → t + 4166666 ≤ next
  | .awake next =>
    next ≤ clock ∧ (∀ t, ticks[0]? = some t → t ≤ next) ∧
      ∀ t, ticks[1]? = some t → t + 4166666 ≤ next
  | .leaving | .parting | .finished => True

/-- The tick that is not counted yet. -/
def Loop.uncounted : Loop → ℕ
  | .counting _ => 1
  | _ => 0

structure Inv (s : State) : Prop where
  fits : ∀ c, (s.callers c).Fits s c
  starter : ∀ c c', (s.callers c).Starter → (s.callers c').Starter → c = c'
  holder : ∀ c, s.holder = some c → ∃ seen deadline, s.callers c = .parking seen deadline
  unstarted : s.started = false → s.loop = .none ∧ s.joinable = false
  owned : s.shutdown = .idle → s.joinable = false → s.loop ≠ .none →
    ∃ c post, s.callers c = .made post
  beat : s.loop.Beat s.clock s.ticks
  ticked : ∀ t ∈ s.ticks, t ≤ s.clock
  sorted : s.ticks.Pairwise (· ≥ ·)
  spaced : ∀ i t t', s.ticks[i]? = some t → s.ticks[i + 2]? = some t' → t' + 4166666 ≤ t
  events : s.events.Sublist s.ticks
  counted : s.ticks.length = s.counter + s.loop.uncounted

theorem init_inv : Inv init where
  fits _ := trivial
  starter _ _ h := h.elim
  holder _ h := by cases h
  unstarted _ := ⟨rfl, rfl⟩
  owned _ _ h := absurd rfl h
  beat := rfl
  ticked _ h := by cases h
  sorted := List.Pairwise.nil
  spaced i _ _ h := by cases h
  events := List.Sublist.slnil
  counted := rfl

section Steps

variable {m : PaceMath} {s s' : State} {c : ℕ} {p : Caller}

theorem Caller.Fits.started (h : p.Fits s c) (hp : p.Starter) : s.started = true := by
  cases p with
  | won => exact h.1
  | raised => exact h.1
  | constructing => exact h.1
  | made => exact h.1
  | failed => exact h.1
  | lowered => exact h.1
  | _ => exact hp.elim

/-- What does not concern a caller leaves it in place. -/
theorem Caller.Fits.keep (h : p.Fits s c) (hclock : s.clock ≤ s'.clock)
    (hcounter : s'.counter = s.counter)
    (hnotifying : ∀ next, s.loop = .notifying next → s'.loop = .notifying next)
    (hstarter : p.Starter → s'.started = s.started ∧ s'.loop = s.loop ∧ s'.joinable = s.joinable)
    (hholder : s.holder = some c → s'.holder = some c) : p.Fits s' c := by
  have hdeadline : ∀ deadline, deadline ≤ s.clock + 66666666 →
      deadline ≤ s'.clock + 66666666 := by
    intro deadline hd
    omega
  cases p with
  | parking seen deadline => exact ⟨hholder h.1, hcounter ▸ h.2.1, hdeadline _ h.2.2⟩
  | parked seen deadline =>
    refine ⟨?_, hdeadline _ h.2⟩
    rcases h.1 with hseen | ⟨next, hnext⟩
    · exact .inl (hcounter ▸ hseen)
    · exact .inr ⟨next, hnotifying next hnext⟩
  | woken late seen deadline => exact hdeadline _ h
  | away => trivial
  | entering => trivial
  | checked => trivial
  | started => trivial
  | _ =>
    obtain ⟨hstarted, hloop, hjoinable⟩ := hstarter trivial
    show _ ∧ _ ∧ _
    rw [hstarted, hloop, hjoinable]
    exact h

/-- One caller goes on to `p`; of the rest only what it may touch is new. -/
theorem Inv.move (h : Inv s) (hcallers : s'.callers = Function.update s.callers c p)
    (hclock : s'.clock = s.clock) (hcounter : s'.counter = s.counter)
    (hticks : s'.ticks = s.ticks) (hevents : s'.events = s.events)
    (hmine : p.Fits s' c)
    (hothers : ∀ other, other ≠ c → (s.callers other).Fits s' other)
    (hstarter : p.Starter → ∀ other, other ≠ c → ¬ (s.callers other).Starter)
    (hholder : ∀ other, s'.holder = some other → other = c ∧ (∃ seen deadline,
      p = .parking seen deadline) ∨ other ≠ c ∧ s.holder = some other)
    (hunstarted : s'.started = false → s'.loop = .none ∧ s'.joinable = false)
    (howned : s'.shutdown = .idle → s'.joinable = false → s'.loop ≠ .none →
      ∃ c post, s'.callers c = .made post)
    (hbeat : s'.loop.Beat s.clock s.ticks) (huncounted : s'.loop.uncounted = s.loop.uncounted) :
    Inv s' := by
  have hmoved : s'.callers c = p := by rw [hcallers, Function.update_self]
  have hstayed : ∀ other, other ≠ c → s'.callers other = s.callers other := by
    intro other hne
    rw [hcallers, Function.update_of_ne hne]
  refine ⟨?_, ?_, ?_, hunstarted, howned, ?_, ?_, ?_, ?_, ?_, ?_⟩
  · intro other
    by_cases hne : other = c
    · rw [hne, hmoved]
      exact hmine
    · rw [hstayed other hne]
      exact hothers other hne
  · intro a b ha hb
    by_cases hac : a = c
    · by_cases hbc : b = c
      · exact hac.trans hbc.symm
      · rw [hac, hmoved] at ha
        rw [hstayed b hbc] at hb
        exact absurd hb (hstarter ha b hbc)
    · by_cases hbc : b = c
      · rw [hbc, hmoved] at hb
        rw [hstayed a hac] at ha
        exact absurd ha (hstarter hb a hac)
      · rw [hstayed a hac] at ha
        rw [hstayed b hbc] at hb
        exact h.starter a b ha hb
  · intro other hother
    rcases hholder other hother with ⟨rfl, seen, deadline, rfl⟩ | ⟨hne, hheld⟩
    · exact ⟨seen, deadline, hmoved⟩
    · rw [hstayed other hne]
      exact h.holder other hheld
  · rw [hclock, hticks]
    exact hbeat
  · rw [hclock, hticks]
    exact h.ticked
  · rw [hticks]
    exact h.sorted
  · rw [hticks]
    exact h.spaced
  · rw [hticks, hevents]
    exact h.events
  · rw [hticks, hcounter, huncounted]
    exact h.counted

/-- A move that leaves the loop and the mutex alone. -/
theorem Inv.move_quiet (h : Inv s) (hcallers : s'.callers = Function.update s.callers c p)
    (hclock : s'.clock = s.clock) (hcounter : s'.counter = s.counter)
    (hticks : s'.ticks = s.ticks) (hevents : s'.events = s.events) (hloop : s'.loop = s.loop)
    (hshutdown : s'.shutdown = s.shutdown) (hheld : s'.holder = s.holder)
    (hwhere : ∀ seen deadline, s.callers c ≠ .parking seen deadline)
    (hmade : ∀ post, s.callers c = .made post → s'.joinable = true)
    (hmine : p.Fits s' c)
    (hstarted : s.started = true → s'.started = true)
    (hjoinable : s.joinable = true → s'.joinable = true)
    (hunstarted : s'.started = false → s'.joinable = false)
    (hstarter : p.Starter → (s.callers c).Starter ∨ s.started = false)
    (hnew : s'.joinable ≠ s.joinable → (s.callers c).Starter) :
    Inv s' := by
  have hothers : ∀ other, other ≠ c → (s.callers other).Starter →
      s'.started = s.started ∧ s'.joinable = s.joinable := by
    intro other hne hother
    have hs := (h.fits other).started hother
    refine ⟨hs ▸ hstarted hs, ?_⟩
    by_contra hdiffers
    exact hne (h.starter other c hother (hnew hdiffers))
  refine h.move hcallers hclock hcounter hticks hevents hmine ?_ ?_ ?_ ?_ ?_
    (hloop ▸ h.beat) (by rw [hloop])
  · intro other hne
    refine (h.fits other).keep hclock.ge hcounter (fun next hn => hloop.trans hn) ?_
      (fun hh => hheld.trans hh)
    intro hother
    obtain ⟨hs, hj⟩ := hothers other hne hother
    exact ⟨hs, hloop, hj⟩
  · intro hp other hne hother
    rcases hstarter hp with hc | hfalse
    · exact hne (h.starter other c hother hc)
    · rw [(h.fits other).started hother] at hfalse
      cases hfalse
  · intro other hother
    rw [hheld] at hother
    refine .inr ⟨?_, hother⟩
    rintro rfl
    obtain ⟨seen, deadline, hparking⟩ := h.holder other hother
    exact hwhere seen deadline hparking
  · intro hfalse
    refine ⟨?_, hunstarted hfalse⟩
    rw [hloop]
    refine (h.unstarted ?_).1
    by_contra hne
    rw [hstarted (Bool.not_eq_false _ ▸ hne)] at hfalse
    cases hfalse
  · intro hidle hnot hnone
    rw [hshutdown] at hidle
    rw [hloop] at hnone
    have hnot' : s.joinable = false := by
      by_contra hne
      rw [hjoinable (Bool.not_eq_false _ ▸ hne)] at hnot
      cases hnot
    obtain ⟨other, post, hother⟩ := h.owned hidle hnot' hnone
    refine ⟨other, post, ?_⟩
    rw [hcallers, Function.update_of_ne ?_, hother]
    rintro rfl
    rw [hmade post hother] at hnot
    cases hnot

/-- Moves that touch no more than the flags of the thread. -/
theorem Inv.move_flags (h : Inv s) (hcallers : s'.callers = Function.update s.callers c p)
    (hrest : s' = { s with callers := s'.callers, running := s'.running, exited := s'.exited })
    (hwhere : ∀ seen deadline, s.callers c ≠ .parking seen deadline)
    (hmade : ∀ post, s.callers c ≠ .made post)
    (hmine : p.Fits s' c) (hstarter : p.Starter → (s.callers c).Starter) : Inv s' := by
  have hstarted : s'.started = s.started := by rw [hrest]
  have hjoinable : s'.joinable = s.joinable := by rw [hrest]
  refine h.move_quiet hcallers (by rw [hrest]) (by rw [hrest]) (by rw [hrest]) (by rw [hrest])
    (by rw [hrest]) (by rw [hrest]) (by rw [hrest]) hwhere (fun post hp => absurd hp (hmade post))
    hmine (fun hs => hstarted.trans hs) (fun hj => hjoinable.trans hj) ?_
    (fun hp => .inl (hstarter hp)) (fun hne => absurd hjoinable hne)
  intro hfalse
  rw [hstarted] at hfalse
  rw [hjoinable]
  exact (h.unstarted hfalse).2

/-- Moves that take the mutex or let go of it. -/
theorem Inv.move_mutex (h : Inv s) (hcallers : s'.callers = Function.update s.callers c p)
    (hrest : s' = { s with callers := s'.callers, holder := s'.holder })
    (hmade : ∀ post, s.callers c ≠ .made post) (hmine : p.Fits s' c) (hstarter : ¬ p.Starter)
    (hbefore : ∀ other, s.holder = some other → other = c)
    (hafter : ∀ other, s'.holder = some other → other = c ∧ ∃ seen deadline,
      p = .parking seen deadline) : Inv s' := by
  have hloop : s'.loop = s.loop := by rw [hrest]
  have hstarted : s'.started = s.started := by rw [hrest]
  have hjoinable : s'.joinable = s.joinable := by rw [hrest]
  have hshutdown : s'.shutdown = s.shutdown := by rw [hrest]
  have hclock : s'.clock = s.clock := by rw [hrest]
  have hcounter : s'.counter = s.counter := by rw [hrest]
  refine h.move hcallers hclock hcounter (by rw [hrest]) (by rw [hrest]) hmine ?_
    (fun hp => absurd hp hstarter) (fun other hother => .inl (hafter other hother)) ?_ ?_
    (hloop ▸ h.beat) (by rw [hloop])
  · intro other hne
    refine (h.fits other).keep hclock.ge hcounter (fun next hn => hloop.trans hn)
      (fun _ => ⟨hstarted, hloop, hjoinable⟩) ?_
    intro hheld
    exact absurd (hbefore other hheld) hne
  · rw [hstarted, hloop, hjoinable]
    exact h.unstarted
  · rw [hshutdown, hjoinable, hloop]
    intro hidle hnot hnone
    obtain ⟨other, post, hother⟩ := h.owned hidle hnot hnone
    refine ⟨other, post, ?_⟩
    rw [hcallers, Function.update_of_ne ?_, hother]
    rintro rfl
    exact hmade post hother

theorem callerStep_inv (h : Inv s) {e : Env} (hstep : callerStep m s c e = some s') :
    Inv s' := by
  have hfits := h.fits c
  unfold callerStep at hstep
  split at hstep
  case h_1 => cases hstep
  case h_2 post hc =>
    cases hstep
    refine h.move_flags (p := if s.shutDown then .started post else .checked post) rfl rfl
      (by rw [hc]; rintro _ _ ⟨⟩) (by rw [hc]; rintro _ ⟨⟩) ?_ ?_
    · split <;> trivial
    · split
      · exact fun hp => hp.elim
      · exact fun hp => hp.elim
  case h_3 post hc =>
    cases hstep
    refine h.move_quiet (p := if s.started then .started post else .won post) rfl rfl rfl rfl rfl
      rfl rfl rfl (by rw [hc]; rintro _ _ ⟨⟩) (by rw [hc]; rintro _ ⟨⟩) ?_ (fun _ => rfl)
      (fun hj => hj) (by rintro ⟨⟩) ?_ (fun hne => absurd rfl hne)
    · cases hs : s.started with
      | true => trivial
      | false => exact ⟨rfl, h.unstarted hs⟩
    · cases hs : s.started with
      | true => exact fun hp => hp.elim
      | false => exact fun _ => .inr rfl
  case h_4 post hc =>
    cases hstep
    rw [hc] at hfits
    exact h.move_flags (p := .raised post) rfl rfl (by rw [hc]; rintro _ _ ⟨⟩)
      (by rw [hc]; rintro _ ⟨⟩) hfits (by rw [hc]; exact fun _ => trivial)
  case h_5 post hc =>
    cases hstep
    rw [hc] at hfits
    exact h.move_flags (p := .constructing post) rfl rfl (by rw [hc]; rintro _ _ ⟨⟩)
      (by rw [hc]; rintro _ ⟨⟩) hfits (by rw [hc]; exact fun _ => trivial)
  case h_6 post hc =>
    rw [hc] at hfits
    have hstarter : (s.callers c).Starter := by
      rw [hc]
      trivial
    split at hstep
    · cases hstep
      obtain ⟨hstarted, hnone, hjoinable⟩ := hfits
      -- The others wait for nothing but the thread, and it has not ticked
      refine h.move (p := .made post) rfl rfl rfl rfl rfl ⟨hstarted, by rintro ⟨⟩, hjoinable⟩
        ?_ ?_ ?_ ?_ ?_ ?_ ?_
      · intro other hne
        refine (h.fits other).keep le_rfl rfl ?_ ?_ (fun hh => hh)
        · intro next hnext
          rw [hnone] at hnext
          cases hnext
        · intro hother
          exact absurd (h.starter other c hother hstarter) hne
      · intro _ other hne hother
        exact hne (h.starter other c hother hstarter)
      · intro other hother
        refine .inr ⟨?_, hother⟩
        rintro rfl
        obtain ⟨seen, deadline, hparking⟩ := h.holder other hother
        rw [hc] at hparking
        cases hparking
      · intro hfalse
        rw [show s.started = false from hfalse] at hstarted
        cases hstarted
      · intro _ _ _
        exact ⟨c, post, Function.update_self ..⟩
      · have hbeat := h.beat
        rw [hnone] at hbeat
        exact hbeat
      · rw [hnone]
        rfl
    · cases hstep
      exact h.move_flags (p := .failed post) rfl rfl (by rw [hc]; rintro _ _ ⟨⟩)
        (by rw [hc]; rintro _ ⟨⟩) hfits (by rw [hc]; exact fun _ => trivial)
  case h_7 post hc =>
    cases hstep
    have hstarted : s.started = true := by
      rw [hc] at hfits
      exact hfits.1
    refine h.move_quiet (p := .started post) rfl rfl rfl rfl rfl rfl rfl rfl
      (by rw [hc]; rintro _ _ ⟨⟩) (fun _ _ => rfl) trivial (fun hs => hs) (fun _ => rfl) ?_
      (fun hp => hp.elim) (fun _ => by rw [hc]; trivial)
    intro hfalse
    rw [show s.started = false from hfalse] at hstarted
    cases hstarted
  case h_8 post hc =>
    cases hstep
    rw [hc] at hfits
    exact h.move_flags (p := .lowered post) rfl rfl (by rw [hc]; rintro _ _ ⟨⟩)
      (by rw [hc]; rintro _ ⟨⟩) hfits (by rw [hc]; exact fun _ => trivial)
  case h_9 post hc =>
    cases hstep
    exact h.move_flags (p := .started post) rfl rfl (by rw [hc]; rintro _ _ ⟨⟩)
      (by rw [hc]; rintro _ ⟨⟩) trivial (fun hp => hp.elim)
  case h_10 hc =>
    cases hstep
    exact h.move_flags (p := .away) rfl rfl (by rw [hc]; rintro _ _ ⟨⟩)
      (by rw [hc]; rintro _ ⟨⟩) trivial (fun hp => hp.elim)
  case h_11 hc =>
    split at hstep
    · cases hstep
    · rename_i hfree
      split at hstep
      · cases hstep
        exact h.move_flags (p := .away) rfl rfl (by rw [hc]; rintro _ _ ⟨⟩)
          (by rw [hc]; rintro _ ⟨⟩) trivial (fun hp => hp.elim)
      · cases hstep
        have hdeadline : s.clock + m.timeout (refreshHz e.hz) ≤ s.clock + 66666666 := by
          have := timeout_bound m e.hz
          omega
        exact h.move_mutex (p := .parking s.counter _) rfl rfl (by rw [hc]; rintro _ ⟨⟩)
          ⟨rfl, rfl, hdeadline⟩ id (fun other hother => absurd (by rw [hother]; rfl) hfree)
          (fun other hother => ⟨(Option.some.inj hother).symm, _, _, rfl⟩)
  case h_12 seen deadline hc =>
    cases hstep
    rw [hc] at hfits
    obtain ⟨hheld, hseen, hdeadline⟩ := hfits
    exact h.move_mutex (p := .parked seen deadline) rfl rfl (by rw [hc]; rintro _ ⟨⟩)
      ⟨.inl hseen, hdeadline⟩ id
      (fun other hother => Option.some.inj (hother.symm.trans hheld)) (by rintro _ ⟨⟩)
  case h_13 => cases hstep
  case h_14 late seen deadline hc =>
    rw [hc] at hfits
    split at hstep
    · cases hstep
    · rename_i hfree
      split at hstep
      · cases hstep
        exact h.move_flags (p := .away) rfl rfl (by rw [hc]; rintro _ _ ⟨⟩)
          (by rw [hc]; rintro _ ⟨⟩) trivial (fun hp => hp.elim)
      · rename_i hwaits
        cases hstep
        -- The predicate is false, so no tick was counted since
        have hseen : seen = s.counter := by
          by_contra hne
          apply hwaits
          rw [State.done, decide_eq_true (Ne.symm hne)]
          rfl
        exact h.move_mutex (p := .parking seen deadline) rfl rfl (by rw [hc]; rintro _ ⟨⟩)
          ⟨rfl, hseen, hfits⟩ id (fun other hother => absurd (by rw [hother]; rfl) hfree)
          (fun other hother => ⟨(Option.some.inj hother).symm, _, _, rfl⟩)

/-- A caller is as it was, or was woken. -/
def Kept (s s' : State) (c : ℕ) : Prop :=
  s'.callers c = s.callers c ∨ ∃ seen deadline, s.callers c = .parked seen deadline ∧
    s'.callers c = .woken false seen deadline

theorem notifyAll_kept (c : ℕ) : Kept s s.notifyAll c := by
  unfold Kept State.notifyAll
  cases hc : s.callers c with
  | parked seen deadline => exact .inr ⟨seen, deadline, rfl, by simp only [hc]; rfl⟩
  | _ => exact .inl (by simp only [hc]; rfl)

theorem notifyAll_not_parked (c : ℕ) (seen : ℕ) (deadline : ℤ) :
    s.notifyAll.callers c ≠ .parked seen deadline := by
  unfold State.notifyAll
  cases hc : s.callers c with
  | _ =>
    simp only [hc]
    rintro ⟨⟩

/-- The thread goes on, or what stops it; the callers are left alone, or woken. -/
theorem Inv.onward (h : Inv s) (hcallers : ∀ c, Kept s s' c) (hclock : s'.clock = s.clock)
    (hstarted : s'.started = s.started) (hheld : s'.holder = s.holder)
    (hjoinable : s.joinable = false → s'.joinable = false)
    (howned : s'.shutdown = .idle → s.shutdown = .idle ∧ s'.joinable = s.joinable)
    (hloop : s'.loop = .none ↔ s.loop = .none)
    (hcounter : s'.counter = s.counter ∨ s.holder = none)
    (hparked : ∀ c seen deadline, s'.callers c = .parked seen deadline →
      seen = s'.counter ∨ ∃ next, s'.loop = .notifying next)
    (hbeat : s'.loop.Beat s.clock s'.ticks) (hticked : ∀ t ∈ s'.ticks, t ≤ s.clock)
    (hsorted : s'.ticks.Pairwise (· ≥ ·))
    (hspaced : ∀ i t t', s'.ticks[i]? = some t → s'.ticks[i + 2]? = some t' → t' + 4166666 ≤ t)
    (hevents : s'.events.Sublist s'.ticks)
    (hcounted : s'.ticks.length = s'.counter + s'.loop.uncounted) : Inv s' := by
  refine ⟨?_, ?_, ?_, ?_, ?_, hclock ▸ hbeat, hclock ▸ hticked, hsorted, hspaced, hevents,
    hcounted⟩
  · intro c
    have hfits := h.fits c
    rcases hcallers c with hsame | ⟨seen, deadline, hwas, hwoken⟩
    · rw [hsame]
      cases hc : s.callers c with
      | parking seen deadline =>
        rw [hc] at hfits
        refine ⟨hheld.trans hfits.1, ?_, hclock ▸ hfits.2.2⟩
        rcases hcounter with hsame | hfree
        · exact hfits.2.1.trans hsame.symm
        · rw [hfits.1] at hfree
          cases hfree
      | parked seen deadline =>
        rw [hc] at hfits
        exact ⟨hparked c seen deadline (hsame.trans hc), hclock ▸ hfits.2⟩
      | woken late seen deadline =>
        rw [hc] at hfits
        exact (hclock ▸ hfits : deadline ≤ s'.clock + 66666666)
      | made post =>
        rw [hc] at hfits
        exact ⟨hstarted.trans hfits.1, fun hn => hfits.2.1 (hloop.mp hn), hjoinable hfits.2.2⟩
      | away => trivial
      | entering => trivial
      | checked => trivial
      | started => trivial
      | _ =>
        rw [hc] at hfits
        exact ⟨hstarted.trans hfits.1, hloop.mpr hfits.2.1, hjoinable hfits.2.2⟩
    · rw [hwas] at hfits
      rw [hwoken]
      exact (hclock ▸ hfits.2 : deadline ≤ s'.clock + 66666666)
  · have hstarter : ∀ c, (s'.callers c).Starter → (s.callers c).Starter := by
      intro c hc
      rcases hcallers c with hsame | ⟨seen, deadline, -, hwoken⟩
      · exact hsame ▸ hc
      · rw [hwoken] at hc
        exact hc.elim
    intro a b ha hb
    exact h.starter a b (hstarter a ha) (hstarter b hb)
  · intro c hc
    obtain ⟨seen, deadline, hparking⟩ := h.holder c (hheld ▸ hc)
    rcases hcallers c with hsame | ⟨seen', deadline', hwas, -⟩
    · exact ⟨seen, deadline, hsame.trans hparking⟩
    · rw [hparking] at hwas
      cases hwas
  · intro hfalse
    obtain ⟨hnone, hnot⟩ := h.unstarted (hstarted ▸ hfalse)
    exact ⟨hloop.mpr hnone, hjoinable hnot⟩
  · intro hidle hnot hnone
    obtain ⟨hidle', hsame⟩ := howned hidle
    obtain ⟨c, post, hmade⟩ := h.owned hidle' (hsame ▸ hnot) (fun hn => hnone (hloop.mpr hn))
    rcases hcallers c with hsame | ⟨seen, deadline, hwas, -⟩
    · exact ⟨c, post, hsame.trans hmade⟩
    · rw [hmade] at hwas
      cases hwas

/-- With the same thread nothing that the ticks are about has changed. -/
theorem Inv.onward_idle (h : Inv s) (hcallers : ∀ c, Kept s s' c)
    (hrest : s' = { s with
      callers := s'.callers
      running := s'.running
      exited := s'.exited
      joinable := s'.joinable
      shutDown := s'.shutDown
      shutdown := s'.shutdown })
    (hjoinable : s.joinable = false → s'.joinable = false) (hdown : s'.shutdown ≠ .idle) :
    Inv s' := by
  have hloop : s'.loop = s.loop := by rw [hrest]
  have hticks : s'.ticks = s.ticks := by rw [hrest]
  have hcounter : s'.counter = s.counter := by rw [hrest]
  refine h.onward hcallers (by rw [hrest]) (by rw [hrest]) (by rw [hrest]) hjoinable
    (fun hidle => absurd hidle hdown) (by rw [hloop]) (.inl hcounter) ?_ ?_ ?_ ?_ ?_ ?_ ?_
  · intro c seen deadline hc
    rw [hcounter, hloop]
    rcases hcallers c with hsame | ⟨_, _, -, hwoken⟩
    · have hfits := h.fits c
      rw [hsame.symm.trans hc] at hfits
      exact hfits.1
    · rw [hc] at hwoken
      cases hwoken
  · rw [hloop, hticks]
    exact h.beat
  · rw [hticks]
    exact h.ticked
  · rw [hticks]
    exact h.sorted
  · rw [hticks]
    exact h.spaced
  · rw [hticks, show s'.events = s.events by rw [hrest]]
    exact h.events
  · rw [hticks, hcounter, hloop]
    exact h.counted

theorem shutdownStep_inv (h : Inv s) (hstep : shutdownStep s = some s') : Inv s' := by
  have hsame : ∀ c, Kept s s c := fun _ => .inl rfl
  unfold shutdownStep at hstep
  split at hstep
  · cases hstep
    exact h.onward_idle hsame rfl id (by rintro ⟨⟩)
  · cases hstep
    exact h.onward_idle hsame rfl id (by rintro ⟨⟩)
  · cases hstep
    exact h.onward_idle (notifyAll_kept (s := s)) rfl id (by rintro ⟨⟩)
  · cases hstep
    refine h.onward_idle hsame rfl id ?_
    show (if s.joinable then Shutdown.joining else .past) ≠ .idle
    split
    · rintro ⟨⟩
    · rintro ⟨⟩
  · split at hstep
    · cases hstep
      exact h.onward_idle hsame rfl (fun _ => rfl) (by rintro ⟨⟩)
    · cases hstep
  · cases hstep

/-- A step of the thread between two ticks. -/
theorem Inv.onward_loop (h : Inv s) {l : Loop} (hold : s.loop ≠ .none) (hnew : l ≠ .none)
    (hnotifying : ∀ next, s.loop ≠ .notifying next) (hcounting : ∀ next, s.loop ≠ .counting next)
    (hcounted : l.uncounted = 0) (hbeat : l.Beat s.clock s.ticks) (exited : Bool) :
    Inv { s with loop := l, exited := exited } := by
  have huncounted : s.loop.uncounted = 0 := by
    cases hl : s.loop with
    | counting next => exact absurd hl (hcounting next)
    | _ => rfl
  refine h.onward (fun _ => .inl rfl) rfl rfl rfl id (fun hidle => ⟨hidle, rfl⟩)
    (iff_of_false hnew hold) (.inl rfl) ?_ hbeat h.ticked h.sorted h.spaced h.events ?_
  · intro c seen deadline hc
    have hfits := h.fits c
    rw [show s.callers c = .parked seen deadline from hc] at hfits
    rcases hfits.1 with hseen | ⟨next, hnext⟩
    · exact .inl hseen
    · exact absurd hnext (hnotifying next)
  · have hcount := h.counted
    rw [huncounted] at hcount
    show s.ticks.length = s.counter + l.uncounted
    rw [hcounted]
    exact hcount

/-- The next tick is set an interval on, or an interval from now if that is past. -/
theorem sleep_beat {clock next interval : ℤ} {ticks : List ℤ}
    (hinterval : 4166666 ≤ interval ∧ interval ≤ 33333333) (hticked : ∀ t ∈ ticks, t ≤ clock)
    (hbeat : next ≤ clock ∧ ∀ t, ticks[1]? = some t → t ≤ next) :
    (Loop.sleeping (if next + interval < clock then clock + interval
      else next + interval)).Beat clock ticks := by
  obtain ⟨hnext, hlast⟩ := hbeat
  have hhead : ∀ (i : ℕ) t, ticks[i]? = some t → t ≤ clock := by
    intro i t hi
    exact hticked t (List.mem_of_getElem? hi)
  split
  · refine ⟨by omega, ?_, ?_⟩
    · intro t ht
      have := hhead 0 t ht
      omega
    · intro t ht
      have := hhead 1 t ht
      omega
  · refine ⟨by omega, ?_, ?_⟩
    · intro t ht
      have := hhead 0 t ht
      omega
    · intro t ht
      have := hlast t ht
      omega

theorem tick_inv (h : Inv s) {next : ℤ} (hl : s.loop = .awake next) (live : Bool) :
    Inv { s with
      loop := .counting next
      ticks := s.clock :: s.ticks
      events := if live then s.clock :: s.events else s.events } := by
  have hbeat := h.beat
  rw [hl] at hbeat
  obtain ⟨hnext, hfirst, hsecond⟩ := hbeat
  have hparked : ∀ c seen deadline, s.callers c = .parked seen deadline → seen = s.counter := by
    intro c seen deadline hc
    have hfits := h.fits c
    rw [hc] at hfits
    rcases hfits.1 with hseen | ⟨next', hnext'⟩
    · exact hseen
    · rw [hl] at hnext'
      cases hnext'
  refine h.onward (fun _ => .inl rfl) rfl rfl rfl id (fun hidle => ⟨hidle, rfl⟩)
    (iff_of_false (by rintro ⟨⟩) (by rw [hl]; rintro ⟨⟩)) (.inl rfl)
    (fun c seen deadline hc => .inl (hparked c seen deadline hc)) ⟨hnext, hfirst⟩ ?_ ?_ ?_ ?_ ?_
  · intro t ht
    rcases List.mem_cons.mp ht with rfl | ht
    · exact le_rfl
    · exact h.ticked t ht
  · exact List.pairwise_cons.mpr ⟨h.ticked, h.sorted⟩
  · intro i t t' ht ht'
    cases i with
    | zero =>
      cases ht
      exact (hsecond t' ht').trans hnext
    | succ i => exact h.spaced i t t' ht ht'
  · show (if live then s.clock :: s.events else s.events).Sublist (s.clock :: s.ticks)
    split
    · exact h.events.cons_cons s.clock
    · exact h.events.cons s.clock
  · have hcounted := h.counted
    rw [hl] at hcounted
    show (s.clock :: s.ticks).length = s.counter + 1
    rw [List.length_cons, hcounted]
    rfl

theorem loopStep_inv (h : Inv s) {e : Env} (hstep : loopStep m s e = some s') : Inv s' := by
  have hbeat := h.beat
  unfold loopStep at hstep
  split at hstep
  case h_1 => cases hstep
  case h_2 hl =>
    cases hstep
    rw [hl] at hbeat
    refine h.onward_loop (l := .looping s.clock) (by rw [hl]; rintro ⟨⟩) (by rintro ⟨⟩)
      (by rw [hl]; rintro _ ⟨⟩) (by rw [hl]; rintro _ ⟨⟩) rfl ⟨le_rfl, ?_⟩ s.exited
    intro t ht
    rw [show s.ticks = [] from hbeat] at ht
    cases ht
  case h_3 next hl =>
    cases hstep
    rw [hl] at hbeat
    refine h.onward_loop (l := if s.running then .pacing next else .leaving)
      (by rw [hl]; rintro ⟨⟩) (by split <;> rintro ⟨⟩) (by rw [hl]; rintro _ ⟨⟩)
      (by rw [hl]; rintro _ ⟨⟩) (by split <;> rfl) ?_ s.exited
    split
    · exact hbeat
    · trivial
  case h_4 next hl =>
    cases hstep
    rw [hl] at hbeat
    exact h.onward_loop (by rw [hl]; rintro ⟨⟩) (by rintro ⟨⟩) (by rw [hl]; rintro _ ⟨⟩)
      (by rw [hl]; rintro _ ⟨⟩) rfl (sleep_beat (interval_bounds m e.hz) h.ticked hbeat) s.exited
  case h_5 next hl =>
    split at hstep
    · rename_i hnext
      cases hstep
      rw [hl] at hbeat
      exact h.onward_loop (l := .awake next) (by rw [hl]; rintro ⟨⟩) (by rintro ⟨⟩)
        (by rw [hl]; rintro _ ⟨⟩) (by rw [hl]; rintro _ ⟨⟩) rfl ⟨hnext, hbeat.2⟩ s.exited
    · cases hstep
  case h_6 next hl =>
    split at hstep
    · cases hstep
      exact tick_inv h hl e.live
    · cases hstep
      exact h.onward_loop (l := .leaving) (by rw [hl]; rintro ⟨⟩) (by rintro ⟨⟩)
        (by rw [hl]; rintro _ ⟨⟩) (by rw [hl]; rintro _ ⟨⟩) rfl trivial s.exited
  case h_7 next hl =>
    split at hstep
    · cases hstep
    · rename_i hfree
      cases hstep
      rw [hl] at hbeat
      refine h.onward (fun _ => .inl rfl) rfl rfl rfl id (fun hidle => ⟨hidle, rfl⟩)
        (iff_of_false (by rintro ⟨⟩) (by rw [hl]; rintro ⟨⟩)) (.inr ?_)
        (fun _ _ _ _ => .inr ⟨next, rfl⟩) hbeat h.ticked h.sorted h.spaced h.events ?_
      · exact Option.not_isSome_iff_eq_none.mp hfree
      · have hcounted := h.counted
        rw [hl] at hcounted
        exact hcounted
  case h_8 next hl =>
    cases hstep
    have hcounted := h.counted
    rw [hl] at hbeat hcounted
    exact h.onward (notifyAll_kept (s := s)) rfl rfl rfl id (fun hidle => ⟨hidle, rfl⟩)
      (iff_of_false (by rintro ⟨⟩) (by rw [hl]; rintro ⟨⟩)) (.inl rfl)
      (fun c seen deadline hc => absurd hc (notifyAll_not_parked c seen deadline)) hbeat h.ticked
      h.sorted h.spaced h.events hcounted
  case h_9 hl =>
    cases hstep
    exact h.onward_loop (l := .parting) (by rw [hl]; rintro ⟨⟩) (by rintro ⟨⟩)
      (by rw [hl]; rintro _ ⟨⟩) (by rw [hl]; rintro _ ⟨⟩) rfl trivial true
  case h_10 hl =>
    cases hstep
    have hcounted := h.counted
    rw [hl] at hcounted
    exact h.onward (notifyAll_kept (s := s)) rfl rfl rfl id (fun hidle => ⟨hidle, rfl⟩)
      (iff_of_false (by rintro ⟨⟩) (by rw [hl]; rintro ⟨⟩)) (.inl rfl)
      (fun c seen deadline hc => absurd hc (notifyAll_not_parked c seen deadline)) trivial h.ticked
      h.sorted h.spaced h.events hcounted
  case h_11 => cases hstep

theorem Loop.Beat.later {l : Loop} {clock clock' : ℤ} {ticks : List ℤ} (h : l.Beat clock ticks)
    (hclock : clock ≤ clock') : l.Beat clock' ticks := by
  cases l with
  | none => exact h
  | begun => exact h
  | sleeping next => exact ⟨by have := h.1; omega, h.2⟩
  | leaving => trivial
  | parting => trivial
  | finished => trivial
  | _ => exact ⟨h.1.trans hclock, h.2⟩

theorem pass_inv (h : Inv s) (d : ℕ) : Inv { s with clock := s.clock + d } := by
  have hclock : s.clock ≤ s.clock + d := by omega
  refine ⟨?_, h.starter, h.holder, h.unstarted, h.owned, h.beat.later hclock, ?_, h.sorted,
    h.spaced, h.events, h.counted⟩
  · intro c
    exact (h.fits c).keep hclock rfl (fun _ hn => hn) (fun _ => ⟨rfl, rfl, rfl⟩) id
  · intro t ht
    exact (h.ticked t ht).trans hclock

theorem step_inv (a : Action) (h : Inv s) (hstep : step m s a = some s') : Inv s' := by
  cases a with
  | pass d =>
    cases hstep
    exact pass_inv h d
  | call c post =>
    dsimp only [step] at hstep
    split at hstep
    · rename_i hc
      cases hstep
      exact h.move_flags (p := .entering post) rfl rfl (by rw [hc]; rintro _ _ ⟨⟩)
        (by rw [hc]; rintro _ ⟨⟩) trivial (fun hp => hp.elim)
    · cases hstep
  | caller c e => exact callerStep_inv h hstep
  | timeout c =>
    dsimp only [step] at hstep
    split at hstep
    · rename_i seen deadline hc
      split at hstep
      · cases hstep
        have hfits := h.fits c
        rw [hc] at hfits
        exact h.move_flags (p := .woken true seen deadline) rfl rfl (by rw [hc]; rintro _ _ ⟨⟩)
          (by rw [hc]; rintro _ ⟨⟩) hfits.2 (fun hp => hp.elim)
      · cases hstep
    · cases hstep
  | spurious c =>
    dsimp only [step] at hstep
    split at hstep
    · rename_i seen deadline hc
      cases hstep
      have hfits := h.fits c
      rw [hc] at hfits
      exact h.move_flags (p := .woken false seen deadline) rfl rfl (by rw [hc]; rintro _ _ ⟨⟩)
        (by rw [hc]; rintro _ ⟨⟩) hfits.2 (fun hp => hp.elim)
    · cases hstep
  | loop e => exact loopStep_inv h hstep
  | shutdown => exact shutdownStep_inv h hstep

theorem run_inv {as : List Action} (h : Inv s) (hrun : Runs.run (step m) s as = some s') :
    Inv s' :=
  Runs.run_invariant (fun _ a _ hs hstep => step_inv a hs hstep) as s s' h hrun

end Steps

/-! ## Ticks and waits -/

structure Paced (s : State) : Prop where
  /-- No three ticks in less than an interval of the highest rate. -/
  spaced : ∀ i t t', s.ticks[i]? = some t → s.ticks[i + 2]? = some t' → t' + 4166666 ≤ t
  sorted : s.ticks.Pairwise (· ≥ ·)
  events : s.events.Sublist s.ticks
  /-- The next tick is never further away than an interval of the lowest rate. -/
  prompt : ∀ next, s.loop = .sleeping next → next ≤ s.clock + 33333333
  counted : s.counter ≤ s.ticks.length ∧ s.ticks.length ≤ s.counter + 1
  /-- A wait is two intervals long at most, and a tick that it slept through is about to
  end it. -/
  waits : ∀ c seen deadline, s.callers c = .parked seen deadline →
    deadline ≤ s.clock + 66666666 ∧ (s.counter ≠ seen → ∃ next, s.loop = .notifying next)

/-- Whatever the rates of the configurations, however late the thread runs, and whoever
else calls in. -/
theorem pacing (m : PaceMath) (as : List Action) (s : State)
    (h : Runs.run (step m) init as = some s) : Paced s := by
  have hinv := run_inv init_inv h
  refine ⟨hinv.spaced, hinv.sorted, hinv.events, ?_, ?_, ?_⟩
  · intro next hl
    have hbeat := hinv.beat
    rw [hl] at hbeat
    exact hbeat.1
  · have hcounted := hinv.counted
    have hone : s.loop.uncounted ≤ 1 := by
      cases s.loop with
      | counting => exact le_rfl
      | _ => exact Nat.zero_le 1
    omega
  · intro c seen deadline hc
    have hfits := hinv.fits c
    rw [hc] at hfits
    exact ⟨hfits.2, fun hne => hfits.1.resolve_left (Ne.symm hne)⟩

/-- The two casts in exact arithmetic. -/
def exactPace : PaceMath where
  interval hz := ⌊1000000000 / hz⌋
  timeout hz := ⌊2000000000 / hz⌋
  interval_antitone := by
    intro x hx y _ hxy
    have hpos : (0 : ℚ) < x := lt_of_lt_of_le (by norm_num) hx.1
    exact Int.floor_le_floor (div_le_div_of_nonneg_left (by norm_num) hpos hxy)
  timeout_antitone := by
    intro x hx y _ hxy
    have hpos : (0 : ℚ) < x := lt_of_lt_of_le (by norm_num) hx.1
    exact Int.floor_le_floor (div_le_div_of_nonneg_left (by norm_num) hpos hxy)
  interval_ends := by decide +kernel
  timeout_ends := by decide +kernel

/-- `PostPresent` starts the thread and waits for its first tick, at 90 Hz. -/
def firstTick : List Action :=
  .call 0 true :: List.replicate 8 (.caller 0 {}) ++ List.replicate 3 (.loop {}) ++
    [.pass 11111111] ++ List.replicate 4 (.loop { live := true }) ++ [.caller 0 {}]

theorem pacing_first_tick :
    ∃ s, Runs.run (step exactPace) init firstTick = some s ∧
      s.events = [11111111] ∧ s.callers 0 = .away ∧ Paced s := by
  have hrun : ((Runs.run (step exactPace) init firstTick).map fun s =>
      (s.events, s.callers 0)) = some ([11111111], .away) := by decide +kernel
  obtain ⟨s, hs, hend⟩ := Option.map_eq_some_iff.mp hrun
  rw [Prod.mk.injEq] at hend
  exact ⟨s, hs, hend.1, hend.2, pacing exactPace firstTick s hs⟩

/-! ## The end of the thread -/

/-- Since `shutdown` was called, with nobody starting the thread. -/
structure Down (s : State) : Prop where
  shutDown : s.shutDown = true
  quiet : ∀ c, ¬ (s.callers c).Starting
  begun : s.shutdown ≠ .idle
  lowered : s.shutdown ≠ .flagged → s.running = false
  joinable : s.shutdown ≠ .past → s.joinable = false → s.loop = .none
  past : s.shutdown = .past → (s.loop = .none ∨ s.loop = .finished) ∧ s.joinable = false

/-- The steps that the thread has left, once it is told to stop. -/
def Loop.left : Loop → ℕ
  | .none | .finished => 0
  | .parting => 1
  | .leaving => 2
  | .looping _ | .awake _ => 3
  | .begun | .notifying _ | .sleeping _ => 4
  | .counting _ | .pacing _ => 5

section Down

variable {m : PaceMath} {s s' : State} {c : ℕ}

theorem down_of_quiet (h : Inv s) (hidle : s.shutdown = .idle)
    (hquiet : ∀ c, ¬ (s.callers c).Starting) :
    Down { s with shutDown := true, shutdown := .flagged } where
  shutDown := rfl
  quiet := hquiet
  begun := by rintro ⟨⟩
  lowered hne := absurd rfl hne
  joinable _ hnot := by
    by_contra hnone
    obtain ⟨c, post, hmade⟩ := h.owned hidle hnot hnone
    refine hquiet c ?_
    rw [hmade]
    trivial
  past := by rintro ⟨⟩

theorem Down.moved (h : Down s) {p : Caller} (hp : ¬ p.Starting)
    (hcallers : s'.callers = Function.update s.callers c p)
    (hrest : s' = { s with callers := s'.callers, holder := s'.holder, clock := s'.clock }) :
    Down s' := by
  have hquiet : ∀ other, ¬ (s'.callers other).Starting := by
    intro other
    rw [hcallers]
    by_cases hne : other = c
    · rw [hne, Function.update_self]
      exact hp
    · rw [Function.update_of_ne hne]
      exact h.quiet other
  rw [hrest]
  exact ⟨h.shutDown, hquiet, h.begun, h.lowered, h.joinable, h.past⟩

theorem callerStep_down (h : Down s) {e : Env} (hstep : callerStep m s c e = some s') :
    Down s' ∧ s'.loop = s.loop := by
  have hquiet := h.quiet c
  unfold callerStep at hstep
  split at hstep
  case h_1 => cases hstep
  case h_2 post hc =>
    cases hstep
    rw [h.shutDown]
    exact ⟨h.moved (p := .started post) id rfl rfl, rfl⟩
  case h_10 hc =>
    cases hstep
    exact ⟨h.moved (p := .away) id rfl rfl, rfl⟩
  case h_11 hc =>
    split at hstep
    · cases hstep
    · split at hstep
      · cases hstep
        exact ⟨h.moved (p := .away) id rfl rfl, rfl⟩
      · cases hstep
        exact ⟨h.moved (p := .parking _ _) id rfl rfl, rfl⟩
  case h_12 seen deadline hc =>
    cases hstep
    exact ⟨h.moved (p := .parked seen deadline) id rfl rfl, rfl⟩
  case h_13 => cases hstep
  case h_14 late seen deadline hc =>
    split at hstep
    · cases hstep
    · split at hstep
      · cases hstep
        exact ⟨h.moved (p := .away) id rfl rfl, rfl⟩
      · cases hstep
        exact ⟨h.moved (p := .parking seen deadline) id rfl rfl, rfl⟩
  -- The rest is `start_vsync_thread`
  all_goals
    rename_i hc
    rw [hc] at hquiet
    exact absurd trivial hquiet

theorem notify_starting {p : Caller} (h : p.notify.Starting) : p.Starting := by
  cases p with
  | parked => exact h.elim
  | _ => exact h

theorem loopStep_down (h : Down s) {e : Env} (hstep : loopStep m s e = some s') :
    Down s' ∧ (s.shutdown ≠ .flagged → s'.loop.left < s.loop.left) := by
  have hon : s.loop ≠ .none ∧ s.loop ≠ .finished := by
    constructor
    · intro hl
      rw [loopStep, hl] at hstep
      cases hstep
    · intro hl
      rw [loopStep, hl] at hstep
      cases hstep
  have hnot : s.shutdown ≠ .past := by
    intro hpast
    rcases (h.past hpast).1 with hl | hl
    · exact hon.1 hl
    · exact hon.2 hl
  have hdown : ∀ s'' : State, s''.shutDown = s.shutDown → s''.running = s.running →
      s''.shutdown = s.shutdown → s''.joinable = s.joinable →
      (∀ c, (s''.callers c).Starting → (s.callers c).Starting) → Down s'' := by
    intro s'' hflag hrunning hshutdown hjoinable hcallers
    refine ⟨hflag ▸ h.shutDown, fun c hc => h.quiet c (hcallers c hc), hshutdown ▸ h.begun,
      ?_, ?_, ?_⟩
    · rw [hshutdown, hrunning]
      exact h.lowered
    · rw [hshutdown, hjoinable]
      intro hne hfalse
      exact absurd (h.joinable hne hfalse) hon.1
    · rw [hshutdown]
      exact fun hpast => absurd hpast hnot
  unfold loopStep at hstep
  split at hstep
  case h_1 => cases hstep
  case h_2 hl =>
    cases hstep
    exact ⟨hdown _ rfl rfl rfl rfl fun _ => id, fun _ => by simp [hl, Loop.left]⟩
  case h_3 next hl =>
    cases hstep
    refine ⟨hdown _ rfl rfl rfl rfl fun _ => id, fun hne => ?_⟩
    simp [hl, h.lowered hne, Loop.left]
  case h_4 next hl =>
    cases hstep
    exact ⟨hdown _ rfl rfl rfl rfl fun _ => id, fun _ => by simp [hl, Loop.left]⟩
  case h_5 next hl =>
    split at hstep
    · cases hstep
      exact ⟨hdown _ rfl rfl rfl rfl fun _ => id, fun _ => by simp [hl, Loop.left]⟩
    · cases hstep
  case h_6 next hl =>
    split at hstep
    · rename_i hrunning
      cases hstep
      refine ⟨hdown _ rfl rfl rfl rfl fun _ => id, fun hne => ?_⟩
      rw [h.lowered hne] at hrunning
      cases hrunning
    · cases hstep
      exact ⟨hdown _ rfl rfl rfl rfl fun _ => id, fun _ => by simp [hl, Loop.left]⟩
  case h_7 next hl =>
    split at hstep
    · cases hstep
    · cases hstep
      exact ⟨hdown _ rfl rfl rfl rfl fun _ => id, fun _ => by simp [hl, Loop.left]⟩
  case h_8 next hl =>
    cases hstep
    exact ⟨hdown _ rfl rfl rfl rfl fun _ => notify_starting, fun _ => by simp [hl, Loop.left]⟩
  case h_9 hl =>
    cases hstep
    exact ⟨hdown _ rfl rfl rfl rfl fun _ => id, fun _ => by simp [hl, Loop.left]⟩
  case h_10 hl =>
    cases hstep
    exact ⟨hdown _ rfl rfl rfl rfl fun _ => notify_starting, fun _ => by simp [hl, Loop.left]⟩
  case h_11 => cases hstep

theorem shutdownStep_down (h : Down s) (hstep : shutdownStep s = some s') :
    Down s' ∧ s'.loop = s.loop := by
  unfold shutdownStep at hstep
  split at hstep
  case h_1 hidle => exact absurd hidle h.begun
  case h_2 hflagged =>
    cases hstep
    exact ⟨⟨h.shutDown, h.quiet, by rintro ⟨⟩, fun _ => rfl,
      fun _ => h.joinable (by rw [hflagged]; decide), by rintro ⟨⟩⟩, rfl⟩
  case h_3 hlowered =>
    cases hstep
    exact ⟨⟨h.shutDown, fun c hc => h.quiet c (notify_starting hc), by rintro ⟨⟩,
      fun _ => h.lowered (by rw [hlowered]; decide),
      fun _ => h.joinable (by rw [hlowered]; decide), by rintro ⟨⟩⟩, rfl⟩
  case h_4 hnotified =>
    cases hstep
    have hrunning := h.lowered (by rw [hnotified]; decide)
    have hjoinable := h.joinable (by rw [hnotified]; decide)
    refine ⟨⟨h.shutDown, h.quiet, ?_, fun _ => hrunning, fun _ => hjoinable, ?_⟩, rfl⟩
    · show (if s.joinable then Shutdown.joining else .past) ≠ .idle
      split
      · rintro ⟨⟩
      · rintro ⟨⟩
    · show (if s.joinable then Shutdown.joining else .past) = .past → _
      cases hj : s.joinable with
      | true => rintro ⟨⟩
      | false => exact fun _ => ⟨.inl (hjoinable hj), rfl⟩
  case h_5 hjoining =>
    split at hstep
    · rename_i hfinished
      cases hstep
      exact ⟨⟨h.shutDown, h.quiet, by rintro ⟨⟩, fun _ => h.lowered (by rw [hjoining]; decide),
        fun hne => absurd rfl hne, fun _ => ⟨.inr hfinished, rfl⟩⟩, rfl⟩
    · cases hstep
  case h_6 => cases hstep

theorem step_down (a : Action) (h : Down s) (hstep : step m s a = some s') :
    Down s' ∧ (s'.loop = s.loop ∨ s.shutdown = .flagged ∨ s'.loop.left < s.loop.left) := by
  cases a with
  | pass d =>
    cases hstep
    exact ⟨⟨h.shutDown, h.quiet, h.begun, h.lowered, h.joinable, h.past⟩, .inl rfl⟩
  | call c post =>
    dsimp only [step] at hstep
    split at hstep
    · cases hstep
      exact ⟨h.moved (p := .entering post) id rfl rfl, .inl rfl⟩
    · cases hstep
  | caller c e =>
    obtain ⟨hdown, hloop⟩ := callerStep_down h hstep
    exact ⟨hdown, .inl hloop⟩
  | timeout c =>
    dsimp only [step] at hstep
    split at hstep
    · rename_i seen deadline hc
      split at hstep
      · cases hstep
        exact ⟨h.moved (p := .woken true seen deadline) id rfl rfl, .inl rfl⟩
      · cases hstep
    · cases hstep
  | spurious c =>
    dsimp only [step] at hstep
    split at hstep
    · rename_i seen deadline hc
      cases hstep
      exact ⟨h.moved (p := .woken false seen deadline) id rfl rfl, .inl rfl⟩
    · cases hstep
  | loop e =>
    obtain ⟨hdown, hleft⟩ := loopStep_down h hstep
    refine ⟨hdown, ?_⟩
    by_cases hflagged : s.shutdown = .flagged
    · exact .inr (.inl hflagged)
    · exact .inr (.inr (hleft hflagged))
  | shutdown =>
    obtain ⟨hdown, hloop⟩ := shutdownStep_down h hstep
    exact ⟨hdown, .inl hloop⟩

/-- What a thread that still runs is waiting for: nothing, its next tick, or the mutex that
a caller is about to let go of. -/
theorem loop_awaits (m : PaceMath) (h : Inv s) :
    s.loop = .none ∨ s.loop = .finished ∨ (∃ s', loopStep m s {} = some s') ∨
      (∃ next, s.loop = .sleeping next ∧ s.clock < next ∧ next ≤ s.clock + 33333333) ∨
      ∃ c s', callerStep m s c {} = some s' ∧ s.holder = some c ∧ s'.holder = none := by
  unfold loopStep
  cases hl : s.loop with
  | none => exact .inl rfl
  | finished => exact .inr (.inl rfl)
  | sleeping next =>
    by_cases hnext : next ≤ s.clock
    · exact .inr (.inr (.inl ⟨_, if_pos hnext⟩))
    · have hbeat := h.beat
      rw [hl] at hbeat
      exact .inr (.inr (.inr (.inl ⟨next, rfl, not_le.mp hnext, hbeat.1⟩)))
  | awake next =>
    refine .inr (.inr (.inl ?_))
    dsimp only
    split
    · exact ⟨_, rfl⟩
    · exact ⟨_, rfl⟩
  | counting next =>
    cases hholder : s.holder with
    | none => exact .inr (.inr (.inl ⟨_, rfl⟩))
    | some c =>
      obtain ⟨seen, deadline, hc⟩ := h.holder c hholder
      refine .inr (.inr (.inr (.inr
        ⟨c, { s.at c (.parked seen deadline) with holder := none }, ?_, rfl, rfl⟩)))
      rw [callerStep, hc]
  | _ => exact .inr (.inr (.inl ⟨_, rfl⟩))

end Down

/-- The thread on its way out, in a call of `shutdown`. -/
structure Stopping (m : PaceMath) (s : State) : Prop where
  lowered : s.shutdown ≠ .flagged → s.running = false
  /-- Every step of the thread brings it nearer its end, no other step puts it off. -/
  goes : s.shutdown ≠ .flagged → ∀ a s', step m s a = some s' →
    s'.loop = s.loop ∨ s'.loop.left < s.loop.left
  /-- It never waits for the thread that joins it. -/
  awaits : s.loop = .none ∨ s.loop = .finished ∨ (∃ s', loopStep m s {} = some s') ∨
    (∃ next, s.loop = .sleeping next ∧ s.clock < next ∧ next ≤ s.clock + 33333333) ∨
    ∃ c s', callerStep m s c {} = some s' ∧ s.holder = some c ∧ s'.holder = none
  /-- It is over once `shutdown` goes on, and its `std::thread` may be destroyed. -/
  past : s.shutdown = .past → (s.loop = .none ∨ s.loop = .finished) ∧ s.joinable = false

end WivrnNx.Vsync
