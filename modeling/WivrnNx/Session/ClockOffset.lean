import WivrnNx.Lib.Mean

/-!
# The clock offset

`ClockOffsetEstimator` (wivrn/clock_offset.h and .cpp): how far the headset's clock is ahead of
the server's, from answers to queries about it. A window of answers is kept; what is published is
the mean over the window, truncated, with the lowest bit as a flag. Numbers are rationals in place
of doubles, times are nanoseconds but for the interval between queries.

`offset_bounded`: the published offset is off by half the mean round trip and 2 ns.
-/

namespace WivrnNx

open Mean

/-- `ClockOffsetEstimator::Sample`: a `timesync_response`, and when it was received. -/
structure TimesyncSample where
  query : ℤ
  response : ℤ
  received : ℤ
deriving DecidableEq, Repr

/-- `ClockOffset`. -/
structure ClockOffset where
  b : ℤ := 0
  stable : Bool := false
deriving DecidableEq, Repr

/-- `ClockOffsetEstimator`. -/
structure ClockOffsetEstimator where
  samples : List TimesyncSample := []
  sampleIndex : ℕ := 0
  /-- The lowest bit is the flag. -/
  b : ℤ := 0
  nextSample : ℤ := 0
  /-- `sample_interval_`, in milliseconds. -/
  sampleInterval : ℤ := 10
deriving DecidableEq, Repr

/-- `static_cast<int64_t>` of a double. -/
def towardsZero (q : ℚ) : ℤ := if 0 ≤ q then ⌊q⌋ else ⌈q⌉

/-- `b & ~1` and `b | 1`. -/
def withoutFlag (b : ℤ) : ℤ := b - b % 2
def withFlag (b : ℤ) : ℤ := b - b % 2 + 1

namespace TimesyncSample

def roundTrip (s : TimesyncSample) : ℤ := s.received - s.query

/-- When the response was made, as the server has it. -/
def midTime (s : TimesyncSample) : ℚ := (s.query + s.received : ℤ) * (1 / 2)

end TimesyncSample

namespace ClockOffsetEstimator

open TimesyncSample

/-- `kNumSamples`. -/
def numSamples : ℕ := 100

/-- `reset`. -/
def reset (_ : ClockOffsetEstimator) : ClockOffsetEstimator := {}

/-- `should_sample`. -/
def shouldSample (e : ClockOffsetEstimator) (now : ℤ) : ClockOffsetEstimator × Bool :=
  if now < e.nextSample then (e, false)
  else ({ e with nextSample := now + e.sampleInterval * 1000000 }, true)

/-- The mean round trip, in whole nanoseconds. -/
def latency (samples : List TimesyncSample) : ℤ :=
  (samples.map roundTrip).sum.tdiv samples.length

/-- A round trip of three times the mean: almost certainly a retransmission. -/
def isOutlier (e : ClockOffsetEstimator) (s : TimesyncSample) : Bool :=
  numSamples ≤ e.samples.length ∧ 3 * latency e.samples < s.roundTrip

/-- The window with one more sample: the oldest makes place for it. -/
def keep (e : ClockOffsetEstimator) (s : TimesyncSample) : ClockOffsetEstimator :=
  if e.samples.length < numSamples then { e with samples := e.samples ++ [s] }
  else
    { e with samples := e.samples.set e.sampleIndex s
             sampleIndex := (e.sampleIndex + 1) % numSamples
             sampleInterval := 100 }

/-- `x0` and `y0`: the means of the server's times and of the headset's. -/
def x0 (samples : List TimesyncSample) : ℚ := (samples.map midTime).sum * (1 / samples.length)
def y0 (samples : List TimesyncSample) : ℚ :=
  (samples.map fun s => (s.response : ℚ)).sum * (1 / samples.length)

/-- `mean_x` and `mean_y`: what is left of the means after they were taken off. -/
def meanX (samples : List TimesyncSample) : ℚ :=
  (samples.map fun s => s.midTime - x0 samples).sum * (1 / samples.length)
def meanY (samples : List TimesyncSample) : ℚ :=
  (samples.map fun s => s.response - y0 samples).sum * (1 / samples.length)

/-- The regression over a full window. -/
def regression (samples : List TimesyncSample) : ℚ :=
  y0 samples + (meanY samples - meanX samples) - x0 samples

/-- 20 ms. -/
def stableWithin : ℚ := 20000000

/-- What is published of the window. -/
def publish (e : ClockOffsetEstimator) : ClockOffsetEstimator :=
  if e.samples.length < numSamples then
    { e with b := withoutFlag (towardsZero (y0 e.samples - x0 e.samples)) }
  else
    let b := regression e.samples
    if |b - e.b| < stableWithin then { e with b := withFlag (towardsZero b) }
    else { e with b := withoutFlag (towardsZero b) }

/-- `add_sample`. -/
def addSample (e : ClockOffsetEstimator) (s : TimesyncSample) : ClockOffsetEstimator :=
  if e.isOutlier s then { e with sampleInterval := 100 } else (e.keep s).publish

/-- `get_offset`. -/
def getOffset (e : ClockOffsetEstimator) : ClockOffset := { b := e.b, stable := e.b % 2 ≠ 0 }

/-! ## The estimate -/

/-- How far ahead the headset's clock is, on average over the window. -/
def estimate (samples : List TimesyncSample) : ℚ :=
  mean (samples.map fun s => (s.response : ℚ)) - mean (samples.map midTime)

def meanRoundTrip (samples : List TimesyncSample) : ℚ :=
  mean (samples.map fun s => (s.roundTrip : ℚ))

theorem x0_eq (samples : List TimesyncSample) : x0 samples = mean (samples.map midTime) := by
  rw [x0, mean, List.length_map, mul_one_div]

theorem y0_eq (samples : List TimesyncSample) :
    y0 samples = mean (samples.map fun s => (s.response : ℚ)) := by
  rw [y0, mean, List.length_map, mul_one_div]

/-- Taken off its mean, the window has none left: the regression is the difference of the means,
as it is before the window is full. -/
theorem regression_eq {samples : List TimesyncSample} (hne : samples ≠ []) :
    regression samples = estimate samples := by
  have hx : meanX samples = 0 := by rw [meanX, x0_eq, sum_deviations hne, zero_mul]
  have hy : meanY samples = 0 := by rw [meanY, y0_eq, sum_deviations hne, zero_mul]
  rw [regression, hx, hy, x0_eq, y0_eq, estimate]
  ring

/-- An answer to a query, by a clock that is `ahead` of the server's. -/
structure Answered (ahead : ℚ) (s : TimesyncSample) : Prop where
  sent_before : s.query < s.received
  stamped : ∃ time : ℚ, s.query ≤ time ∧ time ≤ s.received ∧ s.response = time + ahead

variable {ahead : ℚ}

/-- One answer is off by half its round trip. -/
theorem Answered.error {s : TimesyncSample} (h : Answered ahead s) :
    |(s.response - s.midTime) - ahead| ≤ (s.roundTrip : ℚ) / 2 := by
  obtain ⟨time, hquery, hreceived, hresponse⟩ := h.stamped
  rw [hresponse, midTime, roundTrip, abs_le]
  -- No moment of an interval is further from its middle than half its length
  push_cast
  constructor <;> linarith

theorem abs_estimate_sub_le {samples : List TimesyncSample} (hne : samples ≠ [])
    (h : ∀ s ∈ samples, Answered ahead s) :
    |estimate samples - ahead| ≤ meanRoundTrip samples / 2 := by
  rw [estimate, ← mean_map_sub, meanRoundTrip, ← mean_map_div]
  exact abs_mean_sub_le hne fun s hs => (h s hs).error

/-! ## The published number -/

theorem abs_towardsZero_sub_lt (q : ℚ) : |(towardsZero q : ℚ) - q| < 1 := by
  unfold towardsZero
  split
  · have hle := Int.floor_le q
    have hlt := Int.lt_floor_add_one q
    rw [abs_lt]
    constructor <;> linarith
  · have hle := Int.le_ceil q
    have hlt := Int.ceil_lt_add_one q
    rw [abs_lt]
    constructor <;> linarith

theorem withoutFlag_even (b : ℤ) : withoutFlag b % 2 = 0 := by
  unfold withoutFlag
  omega

theorem abs_withoutFlag_sub_le (b : ℤ) : |(withoutFlag b : ℚ) - b| ≤ 1 := by
  have h : |withoutFlag b - b| ≤ 1 := by
    unfold withoutFlag
    rw [abs_le]
    omega
  exact_mod_cast h

theorem abs_withFlag_sub_le (b : ℤ) : |(withFlag b : ℚ) - b| ≤ 1 := by
  have h : |withFlag b - b| ≤ 1 := by
    unfold withFlag
    rw [abs_le]
    omega
  exact_mod_cast h

/-- Truncating and flagging cost at most 2 ns. -/
theorem abs_published_sub_le {q bound : ℚ} {b : ℤ} (hq : |q - ahead| ≤ bound)
    (hb : |(b : ℚ) - towardsZero q| ≤ 1) : |(b : ℚ) - ahead| ≤ bound + 2 := by
  have hzero := abs_towardsZero_sub_lt q
  rw [abs_le] at hq hb ⊢
  rw [abs_lt] at hzero
  constructor <;> linarith

/-- What is published of a window of answers. -/
theorem publish_spec (e : ClockOffsetEstimator) (hne : e.samples ≠ [])
    (h : ∀ s ∈ e.samples, Answered ahead s) :
    |(e.publish.b : ℚ) - ahead| ≤ meanRoundTrip e.samples / 2 + 2 ∧
      (e.publish.b % 2 ≠ 0 → numSamples ≤ e.samples.length ∧
        |estimate e.samples - e.b| < stableWithin) := by
  have herror := abs_estimate_sub_le hne h
  unfold publish
  split
  -- Before the window is full the flag is not set, and afterwards only near the last estimate
  · rw [x0_eq, y0_eq, ← estimate]
    refine ⟨abs_published_sub_le herror (abs_withoutFlag_sub_le _), ?_⟩
    intro hodd
    exact absurd (withoutFlag_even _) hodd
  · rename_i hfull
    dsimp only
    rw [regression_eq hne]
    split
    · rename_i hnear
      exact ⟨abs_published_sub_le herror (abs_withFlag_sub_le _), fun _ => ⟨not_lt.mp hfull, hnear⟩⟩
    · refine ⟨abs_published_sub_le herror (abs_withoutFlag_sub_le _), ?_⟩
      intro hodd
      exact absurd (withoutFlag_even _) hodd

/-! ## Runs -/

/-- The calls that a session makes. -/
inductive Call
  | addSample (s : TimesyncSample)
  | shouldSample (now : ℤ)
deriving DecidableEq, Repr

def call (e : ClockOffsetEstimator) : Call → ClockOffsetEstimator
  | .addSample s => e.addSample s
  | .shouldSample now => (e.shouldSample now).1

/-- What is known of an estimator that has only heard answers. -/
structure Inv (ahead : ℚ) (e : ClockOffsetEstimator) : Prop where
  answered : ∀ s ∈ e.samples, Answered ahead s
  length_le : e.samples.length ≤ numSamples
  bounded : e.samples ≠ [] → |(e.b : ℚ) - ahead| ≤ meanRoundTrip e.samples / 2 + 2
  stable_full : e.b % 2 ≠ 0 → e.samples.length = numSamples

theorem reset_inv (ahead : ℚ) (e : ClockOffsetEstimator) : Inv ahead e.reset where
  answered := fun _ hs => absurd hs List.not_mem_nil
  length_le := Nat.zero_le _
  bounded := fun hne => absurd rfl hne
  stable_full := fun hodd => absurd rfl hodd

/-- What the window is once a sample was kept, and what stays. -/
theorem keep_spec {e : ClockOffsetEstimator} {s : TimesyncSample}
    (hlen : e.samples.length ≤ numSamples) :
    (e.keep s).b = e.b ∧ (e.keep s).samples ≠ [] ∧ (e.keep s).samples.length ≤ numSamples ∧
      ∀ x ∈ (e.keep s).samples, x ∈ e.samples ∨ x = s := by
  unfold keep
  split
  · rename_i hroom
    refine ⟨rfl, by simp, by simpa using hroom, ?_⟩
    intro x hx
    simpa using hx
  · rename_i hfull
    refine ⟨rfl, ?_, by simpa using hlen, ?_⟩
    · have hpos : 0 < e.samples.length := Nat.lt_of_lt_of_le (by decide) (not_lt.mp hfull)
      rw [← List.length_pos_iff]
      simpa using hpos
    · intro x hx
      exact List.mem_or_eq_of_mem_set hx

/-- What one answer is to do to the window and to what is published. -/
structure SampleTaken (ahead : ℚ) (e e' : ClockOffsetEstimator) (s : TimesyncSample) : Prop where
  bounded : |(e'.getOffset.b : ℚ) - ahead| ≤ meanRoundTrip e'.samples / 2 + 2
  stable_full : e'.getOffset.stable = true → e'.samples.length = numSamples
  stable_near : e.isOutlier s = false → e'.getOffset.stable = true →
    |estimate e'.samples - e.getOffset.b| < stableWithin
  rejected : e.isOutlier s = true → e'.samples = e.samples ∧ e'.getOffset = e.getOffset

theorem stable_iff (e : ClockOffsetEstimator) : e.getOffset.stable = true ↔ e.b % 2 ≠ 0 := by
  simp [getOffset]

theorem publish_samples (e : ClockOffsetEstimator) : e.publish.samples = e.samples := by
  unfold publish
  split
  · rfl
  · dsimp only
    split <;> rfl

theorem addSample_spec {e : ClockOffsetEstimator} {s : TimesyncSample} (hi : Inv ahead e)
    (hs : Answered ahead s) :
    Inv ahead (e.addSample s) ∧ SampleTaken ahead e (e.addSample s) s := by
  unfold addSample
  split
  · -- An outlier only slows the queries down
    rename_i hout
    have hne : e.samples ≠ [] := by
      intro hnil
      simp [isOutlier, hnil, numSamples] at hout
    refine ⟨⟨hi.answered, hi.length_le, hi.bounded, hi.stable_full⟩, hi.bounded hne, ?_, ?_, ?_⟩
    · intro hstable
      exact hi.stable_full ((stable_iff e).mp hstable)
    · intro hnot
      rw [hout] at hnot
      cases hnot
    · exact fun _ => ⟨rfl, rfl⟩
  · rename_i hkept
    -- The window that is published holds the new answer, and answers kept from before
    obtain ⟨hb, hne, hlen, hmem⟩ := keep_spec (s := s) hi.length_le
    have hanswered : ∀ x ∈ (e.keep s).samples, Answered ahead x := by
      intro x hx
      rcases hmem x hx with hold | rfl
      · exact hi.answered x hold
      · exact hs
    obtain ⟨hbounded, hstable⟩ := publish_spec (e.keep s) hne hanswered
    have hfull : (e.keep s).publish.b % 2 ≠ 0 →
        (e.keep s).publish.samples.length = numSamples := by
      intro hodd
      rw [publish_samples]
      exact hlen.antisymm (hstable hodd).1
    rw [← publish_samples] at hanswered hlen hbounded hne
    refine ⟨⟨hanswered, hlen, fun _ => hbounded, hfull⟩, hbounded, ?_, ?_, ?_⟩
    · intro hset
      exact hfull ((stable_iff _).mp hset)
    · intro _ hset
      have hnear := (hstable ((stable_iff _).mp hset)).2
      rw [publish_samples]
      rwa [hb] at hnear
    · intro hout
      exact absurd hout hkept

theorem call_inv {e : ClockOffsetEstimator} {c : Call} (hi : Inv ahead e)
    (hc : ∀ s, c = .addSample s → Answered ahead s) : Inv ahead (e.call c) := by
  cases c with
  | addSample s => exact (addSample_spec hi (hc s rfl)).1
  | shouldSample now =>
    change Inv ahead (e.shouldSample now).1
    unfold shouldSample
    split
    · exact hi
    · exact ⟨hi.answered, hi.length_le, hi.bounded, hi.stable_full⟩

theorem calls_inv {e : ClockOffsetEstimator} {calls : List Call} (hi : Inv ahead e)
    (hcalls : ∀ s, .addSample s ∈ calls → Answered ahead s) :
    Inv ahead (calls.foldl call e) := by
  induction calls generalizing e with
  -- Each call starts from what the calls before it leave
  | nil => exact hi
  | cons c calls ih =>
    refine ih (call_inv hi ?_) fun s hs => hcalls s (List.mem_cons_of_mem _ hs)
    rintro s rfl
    exact hcalls s List.mem_cons_self

/-- After any calls since the last reset, all of whose answers come from a clock that is a
constant time ahead, one more answer leaves an offset that is off by half the mean round trip of
the window and 2 ns; the flag says that the window is full and the estimate near the last one. -/
theorem offset_bounded (e : ClockOffsetEstimator) {calls : List Call} {s : TimesyncSample}
    (hcalls : ∀ s, .addSample s ∈ calls → Answered ahead s) (hs : Answered ahead s) :
    SampleTaken ahead (calls.foldl call e.reset) ((calls.foldl call e.reset).addSample s) s :=
  (addSample_spec (calls_inv (reset_inv ahead e) hcalls) hs).2

/-- Two answers by a clock 1000 ns ahead, the first stamped late and the second early: the mean is
right, and truncated to an even number it is still. -/
theorem offset_bounded_two :
    (((({} : ClockOffsetEstimator).addSample ⟨0, 1150, 200⟩).addSample
        ⟨1000, 2050, 1200⟩).getOffset.b = 1000) ∧
      SampleTaken 1000 (({} : ClockOffsetEstimator).addSample ⟨0, 1150, 200⟩)
        ((({} : ClockOffsetEstimator).addSample ⟨0, 1150, 200⟩).addSample ⟨1000, 2050, 1200⟩)
        ⟨1000, 2050, 1200⟩ := by
  have hfirst : Answered 1000 ⟨0, 1150, 200⟩ :=
    ⟨by decide, 150, by norm_num, by norm_num, by norm_num⟩
  have hsecond : Answered 1000 ⟨1000, 2050, 1200⟩ :=
    ⟨by decide, 1050, by norm_num, by norm_num, by norm_num⟩
  have hcalls : ∀ s, Call.addSample s ∈ [Call.addSample ⟨0, 1150, 200⟩] → Answered 1000 s := by
    intro s hs
    rw [List.mem_singleton] at hs
    cases hs
    exact hfirst
  exact ⟨by decide +kernel, offset_bounded {} hcalls hsecond⟩

end ClockOffsetEstimator

end WivrnNx
