import WivrnNx.Lib.FloorScale

/-!
# Performance counter and nanoseconds

`monotonic_ns`, `ns_to_qpc` and `qpc_to_ns` (wivrn/clock_offset.cpp), with their 64 bit types and
the 128 bit intermediate. The frequency of the counter is what `QueryPerformanceFrequency` says.

`conversions_iff`: the two are monotone, near each other and without overflow, but a tick comes
back as the one before unless its time is a whole number of nanoseconds.
-/

namespace WivrnNx

open FloorScale

/-- `qpc_frequency`: 10 MHz if the system has no answer. -/
def qpcFrequency (quadPart : Int64) : Int64 := if quadPart ≠ 0 then quadPart else 10000000

/-- What an `__int128` makes of a number. -/
def int128 (z : ℤ) : ℤ := z.bmod (2 ^ 128)

/-- A second, in nanoseconds. -/
def nsPerSecond : ℤ := 1000000000

/-- `monotonic_ns`, of what the counter says. -/
def monotonicNs (frequency now : Int64) : Int64 :=
  Int64.ofInt ((int128 (now.toInt * nsPerSecond)).tdiv frequency.toInt)

/-- `ns_to_qpc`. -/
def nsToQpc (frequency ns : Int64) : UInt64 :=
  if ns < 0 then 0
  else UInt64.ofInt ((int128 (ns.toInt * frequency.toInt)).tdiv nsPerSecond)

/-- `qpc_to_ns`. -/
def qpcToNs (frequency : Int64) (qpc : UInt64) : Int64 :=
  Int64.ofInt ((int128 (qpc.toNat * nsPerSecond)).tdiv frequency.toInt)

/-! ## In range -/

/-- A counter of at most one tick in a nanosecond. -/
structure Frequency (frequency : Int64) : Prop where
  one_le : 1 ≤ frequency.toInt
  le_nsPerSecond : frequency.toInt ≤ nsPerSecond

/-- What the system says is taken, or there is a frequency anyway. -/
theorem Frequency.of_system {quadPart : Int64} (hnonneg : 0 ≤ quadPart.toInt)
    (hle : quadPart.toInt ≤ nsPerSecond) : Frequency (qpcFrequency quadPart) := by
  unfold qpcFrequency
  split
  · rename_i hne
    have hne' : quadPart.toInt ≠ 0 := by
      intro hzero
      exact hne (Int64.toInt_inj.mp hzero)
    exact ⟨by omega, hle⟩
  · exact ⟨by decide, by decide⟩

/-- A tick whose time fits 63 bits of nanoseconds. -/
def InRange (frequency : Int64) (qpc : UInt64) : Prop :=
  qpc.toNat * nsPerSecond < 2 ^ 63 * frequency.toInt

instance (frequency : Int64) (qpc : UInt64) : Decidable (InRange frequency qpc) :=
  inferInstanceAs (Decidable (_ < _))

/-- An `__int128` holds it. -/
def Fits128 (z : ℤ) : Prop := -2 ^ 127 ≤ z ∧ z < 2 ^ 127

theorem int128_of_fits {z : ℤ} (h : Fits128 z) : int128 z = z :=
  Int.bmod_eq_of_le h.1 h.2

variable {frequency : Int64}

theorem nsToQpc_fits (hf : Frequency frequency) (ns : Int64) :
    Fits128 (ns.toInt * frequency.toInt) := by
  have hlow := ns.le_toInt
  have hhigh := ns.toInt_lt
  obtain ⟨hone, hle⟩ := hf
  unfold nsPerSecond at hle
  constructor <;> nlinarith

theorem qpcToNs_fits (qpc : UInt64) : Fits128 (qpc.toNat * nsPerSecond) := by
  have hlt := qpc.toNat_lt
  unfold nsPerSecond
  constructor <;> omega

theorem nsPerSecond_pos : 0 < nsPerSecond := by decide

/-- The result of `ns_to_qpc` is the exact product, truncated. -/
theorem toNat_nsToQpc (hf : Frequency frequency) {ns : Int64} (hns : 0 ≤ ns.toInt) :
    ((nsToQpc frequency ns).toNat : ℤ) = scale frequency.toInt nsPerSecond ns.toInt := by
  have hnot : ¬ ns < 0 := by
    rw [Int64.lt_iff_toInt_lt]
    exact not_lt.mpr hns
  have hprod : 0 ≤ ns.toInt * frequency.toInt := mul_nonneg hns (by linarith [hf.one_le])
  have hnonneg : 0 ≤ scale frequency.toInt nsPerSecond ns.toInt :=
    Int.ediv_nonneg hprod nsPerSecond_pos.le
  have hle : scale frequency.toInt nsPerSecond ns.toInt ≤ ns.toInt :=
    Int.ediv_le_of_le_mul nsPerSecond_pos (mul_le_mul_of_nonneg_left hf.le_nsPerSecond hns)
  have hlt := ns.toInt_lt
  rw [nsToQpc, if_neg hnot, int128_of_fits (nsToQpc_fits hf ns),
    Int.tdiv_eq_ediv_of_nonneg hprod, ← scale, UInt64.ofInt]
  generalize scale frequency.toInt nsPerSecond ns.toInt = ticks at hnonneg hle ⊢
  have hsize : (ticks % 2 ^ 64).toNat < 2 ^ 64 := by omega
  rw [UInt64.toNat_ofNat_of_lt' hsize]
  omega

/-- The result of `qpc_to_ns` is the exact product, truncated. -/
theorem toInt_qpcToNs (hf : Frequency frequency) {qpc : UInt64} (hqpc : InRange frequency qpc) :
    (qpcToNs frequency qpc).toInt = scale nsPerSecond frequency.toInt qpc.toNat := by
  have hpos : 0 < frequency.toInt := by linarith [hf.one_le]
  have hprod : 0 ≤ (qpc.toNat : ℤ) * nsPerSecond :=
    mul_nonneg (Int.natCast_nonneg _) nsPerSecond_pos.le
  have hnonneg : 0 ≤ scale nsPerSecond frequency.toInt qpc.toNat := Int.ediv_nonneg hprod hpos.le
  have hlt : scale nsPerSecond frequency.toInt qpc.toNat < 2 ^ 63 := scale_lt_of_mul_lt hpos hqpc
  rw [qpcToNs, int128_of_fits (qpcToNs_fits qpc), Int.tdiv_eq_ediv_of_nonneg hprod, ← scale,
    Int64.toInt_ofInt_of_le (by omega) hlt]

/-- What `ns_to_qpc` returns for a time there is, `qpc_to_ns` takes. -/
theorem nsToQpc_inRange (hf : Frequency frequency) {ns : Int64} (hns : 0 ≤ ns.toInt) :
    InRange frequency (nsToQpc frequency ns) := by
  have hpos : 0 < frequency.toInt := by linarith [hf.one_le]
  have hback : scale frequency.toInt nsPerSecond ns.toInt * nsPerSecond ≤
      ns.toInt * frequency.toInt := scale_mul_le nsPerSecond_pos
  rw [InRange, toNat_nsToQpc hf hns]
  exact hback.trans_lt (mul_lt_mul_of_pos_right ns.toInt_lt hpos)

/-- What `qpc_to_ns` returns for a tick in range is a time. -/
theorem qpcToNs_nonneg (hf : Frequency frequency) {qpc : UInt64} (hqpc : InRange frequency qpc) :
    0 ≤ (qpcToNs frequency qpc).toInt := by
  rw [toInt_qpcToNs hf hqpc]
  exact scale_nonneg nsPerSecond_pos.le (by linarith [hf.one_le]) (Int.natCast_nonneg _)

/-- `monotonic_ns` is the same clock as `qpc_to_ns`. -/
theorem monotonicNs_eq (frequency : Int64) {now : Int64} (hnow : 0 ≤ now.toInt) :
    monotonicNs frequency now = qpcToNs frequency (UInt64.ofInt now.toInt) := by
  have hlt := now.toInt_lt
  have hsize : (now.toInt % 2 ^ 64).toNat < 2 ^ 64 := by omega
  have hsame : ((UInt64.ofInt now.toInt).toNat : ℤ) = now.toInt := by
    rw [UInt64.ofInt, UInt64.toNat_ofNat_of_lt' hsize]
    omega
  rw [monotonicNs, qpcToNs, hsame]

/-! ## There and back -/

theorem toInt_back (hf : Frequency frequency) {ns : Int64} (hns : 0 ≤ ns.toInt) :
    (qpcToNs frequency (nsToQpc frequency ns)).toInt =
      scale nsPerSecond frequency.toInt (scale frequency.toInt nsPerSecond ns.toInt) := by
  rw [toInt_qpcToNs hf (nsToQpc_inRange hf hns), toNat_nsToQpc hf hns]

/-- What a pair of conversions is to have, but for the way from ticks and back. -/
structure NearlyInverse (frequency : Int64) : Prop where
  back_le : ∀ ns : Int64, 0 ≤ ns.toInt →
    (qpcToNs frequency (nsToQpc frequency ns)).toInt ≤ ns.toInt
  /-- Less than one tick and 1 ns are lost. -/
  back_near : ∀ ns : Int64, 0 ≤ ns.toInt →
    (ns.toInt - (qpcToNs frequency (nsToQpc frequency ns)).toInt : ℚ) <
      nsPerSecond / frequency.toInt + 1
  nsToQpc_mono : ∀ ns ns' : Int64, ns ≤ ns' → nsToQpc frequency ns ≤ nsToQpc frequency ns'
  qpcToNs_mono : ∀ qpc qpc' : UInt64, InRange frequency qpc' → qpc ≤ qpc' →
    qpcToNs frequency qpc ≤ qpcToNs frequency qpc'
  /-- No product and no result overflows. -/
  nsToQpc_product : ∀ ns : Int64, Fits128 (ns.toInt * frequency.toInt)
  qpcToNs_product : ∀ qpc : UInt64, Fits128 (qpc.toNat * nsPerSecond)
  nsToQpc_result : ∀ ns : Int64, 0 ≤ ns.toInt →
    ((nsToQpc frequency ns).toNat : ℤ) = ns.toInt * frequency.toInt / nsPerSecond
  qpcToNs_result : ∀ qpc : UInt64, InRange frequency qpc →
    (qpcToNs frequency qpc).toInt = qpc.toNat * nsPerSecond / frequency.toInt

theorem nearlyInverse (hf : Frequency frequency) : NearlyInverse frequency where
  back_le := by
    intro ns hns
    rw [toInt_back hf hns]
    exact scale_back_le (by linarith [hf.one_le]) nsPerSecond_pos
  back_near := by
    intro ns hns
    have hpos : 0 < frequency.toInt := by linarith [hf.one_le]
    have hlost := lt_scale_back (n := ns.toInt) hpos nsPerSecond_pos
    rw [← toInt_back hf hns] at hlost
    -- Of the two truncations one costs less than a tick and the other less than 1 ns
    have hposQ : (0 : ℚ) < frequency.toInt := by exact_mod_cast hpos
    rw [← sub_lt_iff_lt_add, lt_div_iff₀ hposQ]
    have hlostQ : (ns.toInt * frequency.toInt : ℚ) <
        (qpcToNs frequency (nsToQpc frequency ns)).toInt * frequency.toInt + frequency.toInt +
          nsPerSecond := by exact_mod_cast hlost
    linarith
  nsToQpc_mono := by
    intro ns ns' hle
    rw [Int64.le_iff_toInt_le] at hle
    by_cases hns : 0 ≤ ns.toInt
    · have hmono : scale frequency.toInt nsPerSecond ns.toInt ≤
          scale frequency.toInt nsPerSecond ns'.toInt :=
        scale_mono (by linarith [hf.one_le]) nsPerSecond_pos hle
      rw [← toNat_nsToQpc hf hns, ← toNat_nsToQpc hf (hns.trans hle)] at hmono
      exact UInt64.le_iff_toNat_le.mpr (by exact_mod_cast hmono)
    · -- A time before the counter's start becomes its start
      have hneg : ns < 0 := by
        rw [Int64.lt_iff_toInt_lt]
        exact not_le.mp hns
      rw [nsToQpc, if_pos hneg]
      exact UInt64.le_iff_toNat_le.mpr (Nat.zero_le _)
  qpcToNs_mono := by
    intro qpc qpc' hqpc' hle
    rw [UInt64.le_iff_toNat_le] at hle
    -- What comes before a tick in range is in range itself
    have hleZ : (qpc.toNat : ℤ) ≤ qpc'.toNat := by exact_mod_cast hle
    have hqpc : InRange frequency qpc :=
      (mul_le_mul_of_nonneg_right hleZ nsPerSecond_pos.le).trans_lt hqpc'
    rw [Int64.le_iff_toInt_le, toInt_qpcToNs hf hqpc, toInt_qpcToNs hf hqpc']
    exact scale_mono nsPerSecond_pos.le (by linarith [hf.one_le]) hleZ
  nsToQpc_product := nsToQpc_fits hf
  qpcToNs_product := qpcToNs_fits
  nsToQpc_result := fun _ => toNat_nsToQpc hf
  qpcToNs_result := fun _ => toInt_qpcToNs hf

/-- The two conversions are each other's inverse at `qpc`, and what else they are to be. -/
structure Conversions (frequency : Int64) (qpc : UInt64) : Prop where
  exact : nsToQpc frequency (qpcToNs frequency qpc) = qpc
  nearly : NearlyInverse frequency

theorem tick_back_iff (hf : Frequency frequency) {qpc : UInt64} (hqpc : InRange frequency qpc) :
    nsToQpc frequency (qpcToNs frequency qpc) = qpc ↔
      frequency.toInt ∣ qpc.toNat * nsPerSecond := by
  have hpos : 0 < frequency.toInt := by linarith [hf.one_le]
  -- In range the two functions are the library's, without a bound on the integers
  rw [← scale_back_eq_iff nsPerSecond_pos hpos, ← toInt_qpcToNs hf hqpc,
    ← toNat_nsToQpc hf (qpcToNs_nonneg hf hqpc), Nat.cast_inj, UInt64.toNat_inj]

/-- Every tick comes back when a tick is a whole number of nanoseconds, and only then. -/
theorem every_tick_back_iff (hf : Frequency frequency) :
    (∀ qpc, InRange frequency qpc → nsToQpc frequency (qpcToNs frequency qpc) = qpc) ↔
      frequency.toInt ∣ nsPerSecond := by
  constructor
  · intro h
    -- The first tick decides: its time is the others' unit
    have hone : InRange frequency 1 := by
      have hle := hf.one_le
      change 1 * nsPerSecond < 2 ^ 63 * frequency.toInt
      rw [nsPerSecond]
      linarith
    have hdvd := (tick_back_iff hf hone).mp (h 1 hone)
    rwa [UInt64.toNat_one, Nat.cast_one, one_mul] at hdvd
  · intro h qpc hqpc
    exact (tick_back_iff hf hqpc).mpr (h.mul_left _)

/-- A tick comes back exactly when its time is a whole number of nanoseconds. -/
theorem conversions_iff (hf : Frequency frequency) {qpc : UInt64}
    (hqpc : InRange frequency qpc) :
    Conversions frequency qpc ↔ frequency.toInt ∣ qpc.toNat * nsPerSecond := by
  rw [← tick_back_iff hf hqpc]
  constructor
  · intro h
    exact h.exact
  · intro h
    exact ⟨h, nearlyInverse hf⟩

/-- A counter at 10 MHz: every tick is 100 ns. -/
theorem conversions_tenMHz : Conversions 10000000 12345 :=
  (conversions_iff ⟨by decide, by decide⟩ (by decide)).mpr (by decide)

/-- A counter that runs off the power management timer: its first tick is 279.3 ns, and 279 ns are
not a tick yet. -/
theorem tick_lost :
    Frequency 3579545 ∧ InRange 3579545 1 ∧ nsToQpc 3579545 (qpcToNs 3579545 1) = 0 ∧
      ¬ Conversions 3579545 1 := by
  have hlost : nsToQpc 3579545 (qpcToNs 3579545 1) = 0 := by decide
  refine ⟨⟨by decide, by decide⟩, by decide, hlost, ?_⟩
  intro h
  have hback := h.exact
  rw [hlost] at hback
  exact absurd hback (by decide)

end WivrnNx
