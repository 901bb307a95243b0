import WivrnNx.Bitrate.MaxFilter

/-!
# What the windowed maximum holds

Runs of `max_filter` (wivrn/bitrate_controller.h), with updates and caps in any order. The three
entries are sorted by value and by time after every call (`Sorted`), and without caps each of
them was fed and led everything that was fed after it (`Leads`). Of two values that are fed at
the same time, though, the smaller one may be kept (`tie_missed`).
-/

namespace WivrnNx

namespace MaxFilter

/-! ## Runs -/

/-- What is called after a reset. -/
inductive Call
  | update (value : ℚ) (now : ℤ)
  | cap (value : ℚ)
deriving DecidableEq, Repr

/-- One call; the window is the same for all. -/
def call (window : ℤ) (f : MaxFilter) : Call → MaxFilter
  | .update value now => f.update value now window
  | .cap value => f.cap value

/-- The filter after some calls. -/
def after (window : ℤ) (calls : List Call) : MaxFilter := calls.foldl (call window) {}

/-- What a call feeds. -/
def Call.sample? : Call → Option (ℤ × ℚ)
  | .update value now => some (now, value)
  | .cap _ => none

/-- The samples that were fed. -/
def fed (calls : List Call) : List (ℤ × ℚ) := calls.filterMap Call.sample?

/-- No sample is older than one fed before it. -/
def InOrder (samples : List (ℤ × ℚ)) : Prop := samples.Pairwise fun a b => a.1 ≤ b.1

/-! ## One update -/

/-- The three entries, the maximum first. -/
def entries (f : MaxFilter) : List (ℤ × ℚ) := [f.s0, f.s1, f.s2]

/-- `f` is what an update by `e` leaves of `old`: some neighbouring entries that are larger than
the sample, and the sample in place of the others. -/
def FilledUp (old f : MaxFilter) (e : ℤ × ℚ) : Prop :=
  ∃ i j, (∀ x ∈ (old.entries.drop i).take j, e.2 < x.2) ∧
    f.entries = ((old.entries.drop i).take j ++ List.replicate 3 e).take 3

theorem FilledUp.all {old f : MaxFilter} {e : ℤ × ℚ} (h : f.entries = [e, e, e]) :
    FilledUp old f e := ⟨0, 0, by simp, h⟩

/-- What becomes of the entries behind the first test. -/
theorem advance_spec (f : MaxFilter) {value : ℚ} {now window : ℤ} (hwindow : 0 ≤ window)
    (h0 : value < f.s0.2) (hfresh : now - f.s2.1 ≤ window) :
    FilledUp f (f.advance value now window) (now, value) ∧
      now - (f.advance value now window).s0.1 ≤ window := by
  -- The maximum is the sample, a kept entry that was found young, or the third one (`hfresh`)
  have hnow : now - now ≤ window := by rwa [sub_self]
  have hfirst : ∀ x ∈ (f.entries.drop 0).take 1, value < x.2 := by simpa [entries] using h0
  by_cases h1 : f.s1.2 ≤ value
  · -- Only the maximum is larger than the sample
    simp only [advance, if_pos h1]
    split
    · split
      · exact ⟨.all rfl, hnow⟩
      · exact ⟨.all rfl, hnow⟩
    · rename_i hyoung
      rw [not_lt] at hyoung
      split
      · exact ⟨⟨0, 1, hfirst, rfl⟩, hyoung⟩
      · split
        · exact ⟨⟨0, 1, hfirst, rfl⟩, hyoung⟩
        · exact ⟨⟨0, 1, hfirst, rfl⟩, hyoung⟩
  have hsecond : ∀ x ∈ (f.entries.drop 1).take 1, value < x.2 := by
    simpa [entries] using lt_of_not_ge h1
  have htwo : ∀ x ∈ (f.entries.drop 0).take 2, value < x.2 := by
    simpa [entries] using ⟨h0, lt_of_not_ge h1⟩
  -- The first two are larger, the third is not
  by_cases h2 : f.s2.2 ≤ value
  · simp only [advance, if_neg h1, if_pos h2]
    split
    · split
      · exact ⟨.all rfl, hnow⟩
      · rename_i hyoung
        exact ⟨⟨1, 1, hsecond, rfl⟩, not_lt.mp hyoung⟩
    · rename_i hyoung
      rw [not_lt] at hyoung
      split
      · exact ⟨⟨0, 1, hfirst, rfl⟩, hyoung⟩
      · split
        · exact ⟨⟨0, 2, htwo, rfl⟩, hyoung⟩
        · exact ⟨⟨0, 2, htwo, rfl⟩, hyoung⟩
  -- All three are larger; only here is the third one ever promoted to the first place
  · have h1' := lt_of_not_ge h1
    have h2' := lt_of_not_ge h2
    simp only [advance, if_neg h1, if_neg h2]
    split
    · split
      · exact ⟨⟨2, 1, by simpa [entries] using h2', rfl⟩, hfresh⟩
      · rename_i hyoung
        exact ⟨⟨1, 2, by simpa [entries] using ⟨h1', h2'⟩, rfl⟩, not_lt.mp hyoung⟩
    · rename_i hyoung
      rw [not_lt] at hyoung
      split
      · exact ⟨⟨0, 1, hfirst, rfl⟩, hyoung⟩
      · split
        · exact ⟨⟨0, 2, htwo, rfl⟩, hyoung⟩
        · exact ⟨⟨0, 3, by simpa [entries] using ⟨h0, h1', h2'⟩, rfl⟩, hyoung⟩

/-- Whatever an update does, it fills up, and the maximum is not older than the window. -/
theorem update_spec (f : MaxFilter) (value : ℚ) (now : ℤ) {window : ℤ} (hwindow : 0 ≤ window) :
    FilledUp f (f.update value now window) (now, value) ∧
      now - (f.update value now window).s0.1 ≤ window := by
  unfold update
  dsimp only
  split
  · refine ⟨.all rfl, ?_⟩
    change now - now ≤ window
    rwa [sub_self]
  · rename_i hlater
    rw [not_or, not_or, not_le, not_lt] at hlater
    exact advance_spec { f with count := f.count + 1 } hwindow hlater.2.1 hlater.2.2

/-- An entry afterwards is the sample, or one from before that is larger. -/
theorem FilledUp.mem {old f : MaxFilter} {e x : ℤ × ℚ} (h : FilledUp old f e)
    (hx : x ∈ f.entries) : x = e ∨ x ∈ old.entries ∧ e.2 < x.2 := by
  obtain ⟨i, j, hlarger, hentries⟩ := h
  rw [hentries] at hx
  rcases List.mem_append.mp (List.mem_of_mem_take hx) with hkept | hfill
  · exact .inr ⟨List.mem_of_mem_drop (List.mem_of_mem_take hkept), hlarger x hkept⟩
  · exact .inl (List.eq_of_mem_replicate hfill)

/-! ## The order of the entries -/

/-- Of two entries the later one is smaller and not older. -/
def Sorted (f : MaxFilter) : Prop := f.entries.Pairwise fun a b => b.2 ≤ a.2 ∧ a.1 ≤ b.1

theorem FilledUp.sorted {old f : MaxFilter} {e : ℤ × ℚ} (h : FilledUp old f e)
    (hsorted : old.Sorted) (hnewer : ∀ x ∈ old.entries, x.1 ≤ e.1) : f.Sorted := by
  obtain ⟨i, j, hlarger, hentries⟩ := h
  -- What is kept is sorted as it was, and the sample is smaller and newer than all of it
  have hkept : List.Sublist ((old.entries.drop i).take j) old.entries :=
    (List.take_sublist j _).trans (List.drop_sublist i _)
  rw [Sorted, hentries]
  refine List.Pairwise.sublist (List.take_sublist 3 _) (List.pairwise_append.mpr ⟨?_, ?_, ?_⟩)
  · exact List.Pairwise.sublist hkept hsorted
  · exact List.pairwise_replicate.mpr (.inr ⟨le_refl _, le_refl _⟩)
  · intro x hx y hy
    rw [List.eq_of_mem_replicate hy]
    exact ⟨(hlarger x hx).le, hnewer x (hkept.subset hx)⟩

/-- A cap lowers the values to the same bound, and leaves the times. -/
theorem cap_entries (f : MaxFilter) (value : ℚ) :
    (f.cap value).entries = f.entries.map fun e => (e.1, min value e.2) := by
  have hcapped : ∀ e : ℤ × ℚ, (if value ≤ e.2 then (e.1, value) else e) = (e.1, min value e.2) := by
    intro e
    split
    · rename_i hle
      rw [min_eq_left hle]
    · rename_i hgt
      rw [min_eq_right (not_le.mp hgt).le]
  simp [entries, cap, hcapped]

theorem cap_sorted {f : MaxFilter} (h : f.Sorted) (value : ℚ) : (f.cap value).Sorted := by
  rw [Sorted, cap_entries]
  refine List.Pairwise.map _ ?_ h
  rintro a b ⟨hvalue, htime⟩
  exact ⟨min_le_min_left value hvalue, htime⟩

theorem update_first {f : MaxFilter} (h : f.count = 0) (value : ℚ) (now window : ℤ) :
    (f.update value now window).entries = List.replicate 3 (now, value) := by
  simp [update, h, entries]

/-! ## Runs of calls -/

theorem after_append (window : ℤ) (calls : List Call) (c : Call) :
    after window (calls ++ [c]) = call window (after window calls) c := by
  simp [after]

theorem fed_append_update (calls : List Call) (value : ℚ) (now : ℤ) :
    fed (calls ++ [.update value now]) = fed calls ++ [(now, value)] := by
  simp [fed, Call.sample?]

theorem fed_append_cap (calls : List Call) (value : ℚ) :
    fed (calls ++ [.cap value]) = fed calls := by
  simp [fed, Call.sample?]

/-- What holds after every call: the entries are sorted, and carry the times of samples. -/
structure Inv (samples : List (ℤ × ℚ)) (f : MaxFilter) : Prop where
  sorted : f.Sorted
  dated : f.count = 0 ∨ ∀ x ∈ f.entries, ∃ y ∈ samples, y.1 = x.1

theorem update_inv {samples : List (ℤ × ℚ)} {f : MaxFilter} (h : Inv samples f) {value : ℚ}
    {now window : ℤ} (hwindow : 0 ≤ window) (hnewest : ∀ y ∈ samples, y.1 ≤ now) :
    Inv (samples ++ [(now, value)]) (f.update value now window) := by
  have hfilled := (update_spec f value now hwindow).1
  rcases h.dated with hempty | hdated
  -- The first update overwrites the zeros of a reset, whose times mean nothing
  · have hentries := update_first hempty value now window
    refine ⟨?_, .inr ?_⟩
    · rw [Sorted, hentries]
      exact List.pairwise_replicate.mpr (.inr ⟨le_refl _, le_refl _⟩)
    · intro x hx
      rw [hentries] at hx
      exact ⟨(now, value), by simp, by rw [List.eq_of_mem_replicate hx]⟩
  · refine ⟨hfilled.sorted h.sorted ?_, .inr ?_⟩
    · intro x hx
      obtain ⟨y, hy, hyx⟩ := hdated x hx
      exact hyx ▸ hnewest y hy
    · intro x hx
      rcases hfilled.mem hx with rfl | ⟨hold, -⟩
      · exact ⟨(now, value), by simp, rfl⟩
      · obtain ⟨y, hy, hyx⟩ := hdated x hold
        exact ⟨y, List.mem_append_left _ hy, hyx⟩

theorem cap_inv {samples : List (ℤ × ℚ)} {f : MaxFilter} (h : Inv samples f) (value : ℚ) :
    Inv samples (f.cap value) := by
  refine ⟨cap_sorted h.sorted value, h.dated.imp id ?_⟩
  intro hdated x hx
  rw [cap_entries] at hx
  obtain ⟨e, he, rfl⟩ := List.mem_map.mp hx
  exact hdated e he

theorem inOrder_append {samples : List (ℤ × ℚ)} {e : ℤ × ℚ} (h : InOrder (samples ++ [e])) :
    InOrder samples ∧ ∀ y ∈ samples, y.1 ≤ e.1 := by
  obtain ⟨hsamples, -, hlast⟩ := List.pairwise_append.mp h
  exact ⟨hsamples, fun y hy => hlast y hy e (List.mem_singleton.mpr rfl)⟩

theorem after_inv {window : ℤ} (hwindow : 0 ≤ window) (calls : List Call)
    (horder : InOrder (fed calls)) : Inv (fed calls) (after window calls) := by
  induction calls using List.reverseRecOn with
  -- From the last call backwards: `Inv` is what the calls before it are needed for
  | nil => exact ⟨by simp [Sorted, entries, after], .inl rfl⟩
  | append_singleton calls c ih =>
    rw [after_append]
    cases c with
    | update value now =>
      rw [fed_append_update] at horder ⊢
      obtain ⟨hbefore, hnewest⟩ := inOrder_append horder
      exact update_inv (ih hbefore) hwindow hnewest
    | cap value =>
      rw [fed_append_cap] at horder ⊢
      exact cap_inv (ih horder) value

/-! ## The maximum -/

/-- `e` was fed, and nothing that was fed after it is larger. -/
def Leads (samples : List (ℤ × ℚ)) (e : ℤ × ℚ) : Prop :=
  ∃ earlier later, samples = earlier ++ e :: later ∧ ∀ x ∈ later, x.2 ≤ e.2

theorem Leads.append {samples : List (ℤ × ℚ)} {e x : ℤ × ℚ} (h : Leads samples e)
    (hx : x.2 ≤ e.2) : Leads (samples ++ [x]) e := by
  obtain ⟨earlier, later, rfl, hlater⟩ := h
  refine ⟨earlier, later ++ [x], by simp, ?_⟩
  intro y hy
  rcases List.mem_append.mp hy with hold | hnew
  · exact hlater y hold
  · rw [List.mem_singleton.mp hnew]
    exact hx

/-- In order of time, what is fed later is fed after. -/
theorem Leads.newer {samples : List (ℤ × ℚ)} {e x : ℤ × ℚ} (h : Leads samples e)
    (horder : InOrder samples) (hx : x ∈ samples) (hnewer : e.1 < x.1) : x.2 ≤ e.2 := by
  obtain ⟨earlier, later, rfl, hlater⟩ := h
  rcases List.mem_append.mp hx with hbefore | hrest
  -- A sample that is newer cannot have been fed earlier
  · have hle := (List.pairwise_append.mp horder).2.2 x hbefore e List.mem_cons_self
    omega
  · rcases List.mem_cons.mp hrest with rfl | hafter
    · omega
    · exact hlater x hafter

/-- Without caps every entry leads what was fed after it. -/
theorem after_leads {window : ℤ} (hwindow : 0 ≤ window) (calls : List Call)
    (huncapped : ∀ value, Call.cap value ∉ calls) :
    calls = [] ∨ ∀ x ∈ (after window calls).entries, Leads (fed calls) x := by
  induction calls using List.reverseRecOn with
  | nil => exact .inl rfl
  | append_singleton calls c ih =>
    have hbefore := ih fun value h => huncapped value (List.mem_append_left _ h)
    rw [after_append]
    cases c with
    | update value now =>
      -- A kept entry is larger than the sample, so that it leads this one too
      right
      intro x hx
      rw [fed_append_update]
      have hsample : Leads (fed calls ++ [(now, value)]) (now, value) :=
        ⟨fed calls, [], rfl, by simp⟩
      rcases hbefore with rfl | hleads
      · rw [call, update_first rfl] at hx
        rw [List.eq_of_mem_replicate hx]
        exact hsample
      · rcases (update_spec _ value now hwindow).1.mem hx with rfl | ⟨hold, hlarger⟩
        · exact hsample
        · exact (hleads x hold).append hlarger.le
    | cap value => exact absurd List.mem_concat_self (huncapped value)

/-- The entries are sorted after every call. After an update the maximum is not older than the
window, and without caps it is a sample that led everything fed after it, so that nothing that is
newer, the last sample included, is larger. -/
theorem window_maximum {window : ℤ} (hwindow : 0 < window) {calls : List Call}
    (horder : InOrder (fed calls)) :
    ((after window calls).s1.2 ≤ (after window calls).s0.2 ∧
        (after window calls).s2.2 ≤ (after window calls).s1.2) ∧
      ((after window calls).s0.1 ≤ (after window calls).s1.1 ∧
        (after window calls).s1.1 ≤ (after window calls).s2.1) ∧
      ∀ before value now, calls = before ++ [.update value now] →
        now - (after window calls).s0.1 ≤ window ∧
          ((∀ limit, Call.cap limit ∉ calls) →
            Leads (fed calls) (after window calls).s0 ∧ value ≤ (after window calls).get ∧
              ∀ x ∈ fed calls, (after window calls).s0.1 < x.1 →
                x.2 ≤ (after window calls).get) := by
  -- The order is the invariant of all runs; the rest is what the last update leaves
  have hsorted := (after_inv hwindow.le calls horder).sorted
  simp only [Sorted, entries, List.pairwise_cons, List.mem_cons, List.not_mem_nil, or_false,
    forall_eq_or_imp, forall_eq] at hsorted
  obtain ⟨⟨h01, -⟩, h12, -⟩ := hsorted
  refine ⟨⟨h01.1, h12.1⟩, ⟨h01.2, h12.2⟩, ?_⟩
  rintro before value now rfl
  obtain ⟨hfilled, hyoung⟩ := update_spec (after window before) value now hwindow.le
  have hcall := after_append window before (.update value now)
  rw [call] at hcall
  refine ⟨hcall ▸ hyoung, ?_⟩
  intro huncapped
  have hleads := ((after_leads hwindow.le _ huncapped).resolve_left (by simp)) _ List.mem_cons_self
  refine ⟨hleads, ?_, fun x hx hnewer => hleads.newer horder hx hnewer⟩
  rw [hcall]
  rcases hfilled.mem List.mem_cons_self with hsample | ⟨-, hlarger⟩
  · rw [get, hsample]
  · exact hlarger.le

/-- A maximum ages out, and a smaller one behind it is promoted. -/
theorem window_maximum_promoted :
    (after 100 [.update 10 0, .update 5 30, .update 3 101]).get = 5 ∧
      101 - (after 100 [.update 10 0, .update 5 30, .update 3 101]).s0.1 ≤ 100 := by
  have horder : InOrder (fed [.update 10 0, .update 5 30, .update 3 101]) := by
    simp [InOrder, fed, Call.sample?]
  have hmaximum := window_maximum (show (0 : ℤ) < 100 by decide) horder
  exact ⟨by decide, (hmaximum.2.2 [.update 10 0, .update 5 30] 3 101 rfl).1⟩

/-- What is asked of the maximum when a value that was fed at its very time counts as newer. -/
def Covers (f : MaxFilter) (samples : List (ℤ × ℚ)) : Prop :=
  ∀ x ∈ samples, f.s0.1 ≤ x.1 → x.2 ≤ f.s0.2

/-- Of two values fed at the same time the second, smaller one replaces the first. -/
def ties : List Call :=
  [.update 10 0, .update 5 30, .update 3 101, .update 2 101, .update 1 131]

theorem tie_missed :
    InOrder (fed ties) ∧ (∀ limit, Call.cap limit ∉ ties) ∧ (after 100 ties).s0 = (101, 2) ∧
      (101, 3) ∈ fed ties ∧ ¬ Covers (after 100 ties) (fed ties) := by
  have hlast : (after 100 ties).s0 = (101, 2) := by decide
  have hfed : ((101, 3) : ℤ × ℚ) ∈ fed ties := by decide
  refine ⟨by simp [InOrder, fed, ties, Call.sample?], by simp [ties], hlast, hfed, ?_⟩
  intro hcovers
  have hle := hcovers (101, 3) hfed (by rw [hlast])
  rw [hlast] at hle
  norm_num at hle

end MaxFilter

end WivrnNx
