import WivrnNx.Session.PacedRuns

/-!
# The parity groups of a frame

With FEC on, every `group_size` data shards are followed by one parity shard, and so is
the last, shorter group of the frame. A group is closed in two places: in the loop, where
the block is full, and behind it, where the frame ends.

- `BuilderSpec`: what `fec::group_builder`, which is not part of the repository, does;
- `Grouped`: runs of one size, the last one possibly shorter;
- `Walk.groups`: the calls of a frame, run by run, each with the parity that covers it;
- `Walk.quiet`, `Walk.counters`: no parity without FEC or a sink, and what is counted;
- `parity_partition`: every frame, over every schedule of pumps that finishes it.
-/

namespace WivrnNx.PacedSender

open GreedySplit

variable {V T G P : Type*}

/-! ## The builder -/

/-- `fec::group_builder`: `held` is the open group, `covers` what a parity shard
protects. -/
structure BuilderSpec (w : WireFormat V T G P) (groupSize : ℕ) (held : G → List (Shard V T))
    (covers : P → List (Shard V T)) : Prop where
  pos : 0 < groupSize
  reset : ∀ stream frame, held (w.groupReset stream frame) = []
  add : ∀ g shard, held (w.groupAdd g shard) = held g ++ [shard]
  full : ∀ g, w.groupBlockFull g = true ↔ (held g).length = groupSize
  emptied : ∀ g, held (w.groupTake g).1 = []
  none : ∀ g, held g = [] → (w.groupTake g).2 = none
  covered : ∀ g, held g ≠ [] → ∃ p, (w.groupTake g).2 = some p ∧ covers p = held g

/-- Runs of `groupSize` elements, of which only the last may be shorter. -/
structure Grouped {α : Type*} (groupSize : ℕ) (runs : List (List α)) : Prop where
  full : ∀ run ∈ runs.dropLast, run.length = groupSize
  size : ∀ run ∈ runs, 0 < run.length ∧ run.length ≤ groupSize

theorem Grouped.singleton {α : Type*} {groupSize : ℕ} {run : List α} (hpos : 0 < run.length)
    (hle : run.length ≤ groupSize) : Grouped groupSize [run] := by
  constructor
  · simp
  · intro run' hmem
    rw [List.mem_singleton.mp hmem]
    exact ⟨hpos, hle⟩

theorem Grouped.cons {α : Type*} {groupSize : ℕ} {run : List α} {runs : List (List α)}
    (hpos : 0 < groupSize) (hrun : run.length = groupSize) (h : Grouped groupSize runs) :
    Grouped groupSize (run :: runs) := by
  constructor
  · intro run' hmem
    cases runs with
    | nil => simp at hmem
    | cons next rest =>
      rw [List.dropLast_cons_of_ne_nil (by simp)] at hmem
      rcases List.mem_cons.mp hmem with rfl | hmem
      · exact hrun
      · exact h.full run' hmem
  · intro run' hmem
    rcases List.mem_cons.mp hmem with rfl | hmem
    · omega
    · exact h.size run' hmem

/-- As many runs as it takes. -/
theorem Grouped.length_eq {α : Type*} {groupSize : ℕ} {runs : List (List α)}
    (hpos : 0 < groupSize) (h : Grouped groupSize runs) :
    runs.length = (runs.flatten.length + groupSize - 1) / groupSize := by
  have hbounds : runs.length * groupSize ≤ runs.flatten.length + groupSize - 1 ∧
      runs.flatten.length ≤ runs.length * groupSize := by
    induction runs with
    | nil => simp
    | cons run runs ih =>
      have hsize := h.size run List.mem_cons_self
      rw [List.length_cons, List.flatten_cons, List.length_append, Nat.add_mul]
      cases runs with
      | nil =>
        simp only [List.length_nil, List.flatten_nil]
        omega
      | cons next rest =>
        -- Not the last run: it is full
        have hfull : run.length = groupSize := h.full run (by simp)
        have hrest : Grouped groupSize (next :: rest) := by
          constructor
          · intro run' hmem
            exact h.full run' (by simpa using .inr hmem)
          · exact fun run' hmem => h.size run' (List.mem_cons_of_mem _ hmem)
        have hih := ih hrest
        have hnext := (h.size next (by simp)).1
        have hlen : next.length ≤ (next :: rest).flatten.length := by simp
        omega
  symm
  rw [Nat.div_eq_iff hpos]
  omega

/-! ## One group -/

/-- The parity shards among the calls. -/
def parityCalls (calls : List (SinkCall V T P)) : List P :=
  calls.filterMap fun
    | .data _ _ => none
    | .parity p => some p

@[simp] theorem parityCalls_nil : parityCalls ([] : List (SinkCall V T P)) = [] := rfl

@[simp] theorem parityCalls_data (shard : Shard V T) (control : Bool)
    (calls : List (SinkCall V T P)) :
    parityCalls (.data shard control :: calls) = parityCalls calls := rfl

@[simp] theorem parityCalls_append (xs ys : List (SinkCall V T P)) :
    parityCalls (xs ++ ys) = parityCalls xs ++ parityCalls ys :=
  List.filterMap_append ..

/-- The data shards of a run, then the parity that covers it. -/
def emitted (control : Bool) (run : List (Shard V T) × P) : List (SinkCall V T P) :=
  run.1.map (fun shard => .data shard control) ++ [.parity run.2]

theorem dataCalls_emitted (control : Bool) (runs : List (List (Shard V T) × P)) :
    (dataCalls (runs.flatMap (emitted control))).map Prod.fst = (runs.map Prod.fst).flatten := by
  induction runs with
  | nil => rfl
  | cons run runs ih =>
    have hrun : dataCalls (emitted control run) = run.1.map fun shard => (shard, control) := by
      simp [emitted, dataCalls, List.filterMap_map]
    simp [hrun, ih, Function.comp_def]

theorem parityCalls_emitted (control : Bool) (runs : List (List (Shard V T) × P)) :
    parityCalls (runs.flatMap (emitted control)) = runs.map Prod.snd := by
  induction runs with
  | nil => rfl
  | cons run runs ih =>
    have hrun : parityCalls (emitted control run) = [run.2] := by
      simp [emitted, parityCalls, List.filterMap_map]
    simp [hrun, ih]

/-- What closing a group adds to the counters: the parity that went out. -/
theorem sendParity_counts (w : WireFormat V T G P) (sinks : Sinks T) (s : PacedSender V T G) :
    let r := sendParity w sinks s
    r.1.parityShards ≡ s.parityShards + (parityCalls r.2).length [MOD 2 ^ 16] ∧
      r.1.wireBytes ≡ s.wireBytes + ((parityCalls r.2).map w.paritySize).sum [MOD 2 ^ 32] := by
  unfold sendParity
  split
  · constructor
    · simpa [parityCalls] using Nat.mod_modEq _ _
    · simpa [parityCalls] using Nat.mod_modEq _ _
  · exact ⟨rfl, rfl⟩

theorem sendParity_bounds (w : WireFormat V T G P) (sinks : Sinks T) {s : PacedSender V T G}
    (h : s.parityShards < 2 ^ 16 ∧ s.wireBytes < 2 ^ 32) :
    (sendParity w sinks s).1.parityShards < 2 ^ 16 ∧
      (sendParity w sinks s).1.wireBytes < 2 ^ 32 := by
  unfold sendParity
  split
  · exact ⟨Nat.mod_lt _ (by decide), Nat.mod_lt _ (by decide)⟩
  · exact h

section

variable {w : WireFormat V T G P} {groupSize : ℕ} {held : G → List (Shard V T)}
  {covers : P → List (Shard V T)}

/-- A group that holds something is closed with the parity that covers it. -/
theorem BuilderSpec.sendParity_covers (hw : BuilderSpec w groupSize held covers) {sinks : Sinks T}
    (hsink : sinks.parity = true) {s : PacedSender V T G} (hheld : held s.group ≠ []) :
    ∃ p, (sendParity w sinks s).2 = [.parity p] ∧ covers p = held s.group ∧
      held (sendParity w sinks s).1.group = [] := by
  rcases hw.covered s.group hheld with ⟨p, htaken, hcovers⟩
  have hemptied := hw.emptied s.group
  unfold sendParity
  generalize w.groupTake s.group = taken at *
  rcases taken with ⟨group, parity⟩
  simp only at htaken
  subst htaken
  rw [hsink]
  exact ⟨p, rfl, hcovers, hemptied⟩

/-- There is nothing to close in an empty one. -/
theorem BuilderSpec.sendParity_empty (hw : BuilderSpec w groupSize held covers) (sinks : Sinks T)
    {s : PacedSender V T G} (hheld : held s.group = []) : (sendParity w sinks s).2 = [] := by
  have hnone := hw.none s.group hheld
  unfold sendParity
  generalize w.groupTake s.group = taken at *
  rcases taken with ⟨group, parity⟩
  simp only at hnone
  subst hnone
  rfl

/-- With the group open at `s`, the next shard joins it; either it is full then, and its
parity goes out, or it stays open. -/
theorem BuilderSpec.advance_group (hw : BuilderSpec w groupSize held covers) {sinks : Sinks T}
    (hsink : sinks.parity = true) {s : PacedSender V T G} (hfec : s.fecActive = true)
    (hopen : (held s.group).length < groupSize) :
    (∃ p, (advance w sinks s).2 = [.parity p] ∧
      covers p = held s.group ++ [nextShard w sinks s] ∧ (covers p).length = groupSize ∧
      held (advance w sinks s).1.group = []) ∨
    ((advance w sinks s).2 = [] ∧
      held (advance w sinks s).1.group = held s.group ++ [nextShard w sinks s] ∧
      (held (advance w sinks s).1.group).length < groupSize) := by
  have hgroup : held (stepped w sinks s).group = held s.group ++ [nextShard w sinks s] := by
    have : (stepped w sinks s).group = w.groupAdd s.group (nextShard w sinks s) := by
      simp [stepped, load, hfec]
    rw [this, hw.add]
  have hlen : (held (stepped w sinks s).group).length = (held s.group).length + 1 := by
    rw [hgroup, List.length_append, List.length_singleton]
  have hfec' : (stepped w sinks s).fecActive = true := hfec
  rw [advance_eq, hfec, Bool.true_and]
  by_cases hfull : w.groupBlockFull (stepped w sinks s).group = true
  · rw [if_pos hfull]
    have hsize := (hw.full _).mp hfull
    rcases hw.sendParity_covers hsink (s := stepped w sinks s) (by simp [hgroup]) with
      ⟨p, hcalls, hcovers, hemptied⟩
    exact .inl ⟨p, hcalls, hcovers.trans hgroup, by rw [hcovers, hsize], hemptied⟩
  · rw [if_neg hfull]
    refine .inr ⟨rfl, hgroup, ?_⟩
    have hnot : (held (stepped w sinks s).group).length ≠ groupSize := by
      intro heq
      exact hfull ((hw.full _).mpr heq)
    show (held (stepped w sinks s).group).length < groupSize
    omega

/-! ## A frame -/

/-- The calls from a sender whose open group is not full, behind the data shards of that
group: run by run, each with the parity that covers it. -/
theorem Walk.groups (hw : BuilderSpec w groupSize held covers) {sinks : Sinks T}
    (hsink : sinks.parity = true) {s s' : PacedSender V T G} {calls : List (SinkCall V T P)}
    (h : Walk w sinks s calls s') (hfec : s.fecActive = true)
    (hopen : (held s.group).length < groupSize) :
    ∃ runs : List (List (Shard V T) × P),
      (held s.group).map (fun shard => .data shard s.frame.idr) ++ calls =
        runs.flatMap (emitted s.frame.idr) ∧
      (∀ run ∈ runs, covers run.2 = run.1) ∧ Grouped groupSize (runs.map Prod.fst) := by
  induction h with
  | @more s s' calls pacer _ _ ih =>
    have hframe : (advance w sinks s).1.frame = s.frame := (advance_spec w sinks s).1
    have hkept := (advance_fecActive w sinks s).trans hfec
    rcases hw.advance_group hsink hfec hopen with ⟨p, hcalls, hcovers, hsize, hemptied⟩ |
      ⟨hcalls, hgroup, hroom⟩
    · -- Full: the run is closed here, and the rest starts with an empty group
      rcases ih hkept (by simpa [hemptied] using hw.pos) with ⟨runs, heq, hall, hgrouped⟩
      simp only [hemptied, hframe, List.map_nil, List.nil_append] at heq
      refine ⟨(covers p, p) :: runs, ?_, ?_, ?_⟩
      · rw [hcalls, heq, List.flatMap_cons, hcovers]
        simp [emitted]
      · intro run hrun
        rcases List.mem_cons.mp hrun with rfl | hrun
        · rfl
        · exact hall run hrun
      · exact hgrouped.cons hw.pos hsize
    · -- The group stays open, and the rest is told to count this shard
      rcases ih hkept (by simpa using hroom) with ⟨runs, heq, hall, hgrouped⟩
      simp only [hgroup, hframe, List.map_append, List.append_assoc] at heq
      refine ⟨runs, ?_, hall, hgrouped⟩
      rw [hcalls, ← heq]
      rfl
  | @last s _ =>
    have hkept := (advance_fecActive w sinks s).trans hfec
    have hfinish : (finish w sinks (advance w sinks s).1).calls =
        (sendParity w sinks (advance w sinks s).1).2 := by
      simp only [finish, hkept, if_true]
    rw [hfinish]
    rcases hw.advance_group hsink hfec hopen with ⟨p, hcalls, hcovers, hsize, hemptied⟩ |
      ⟨hcalls, hgroup, hroom⟩
    · -- The last shard filled its group: there is nothing left to close
      rw [hw.sendParity_empty sinks hemptied, hcalls]
      refine ⟨[(covers p, p)], ?_, by simp, ?_⟩
      · simp [emitted, hcovers]
      · exact .singleton (by simp [hcovers]) (le_of_eq hsize)
    · -- The last group of the frame, closed although it is not full
      rcases hw.sendParity_covers hsink (s := (advance w sinks s).1) (by simp [hgroup]) with
        ⟨p, hlast, hcovers, -⟩
      refine ⟨[(covers p, p)], ?_, by simp, ?_⟩
      · rw [hlast, hcalls]
        simp [emitted, hcovers, hgroup]
      · rw [List.map_singleton, hcovers]
        exact .singleton (by simp [hgroup]) (le_of_lt hroom)

end

/-- Without FEC, or without a sink to give it to, no parity goes out. -/
theorem Walk.quiet {w : WireFormat V T G P} {sinks : Sinks T} {s s' : PacedSender V T G}
    {calls : List (SinkCall V T P)} (h : Walk w sinks s calls s')
    (hoff : s.fecActive = false ∨ sinks.parity = false) : parityCalls calls = [] := by
  have hclosed : ∀ l : PacedSender V T G, sinks.parity = false → (sendParity w sinks l).2 = [] := by
    intro l hnone
    unfold sendParity
    rw [hnone]
    split
    · rename_i hsome
      simp at hsome
    · rfl
  have hadvance : ∀ l : PacedSender V T G, l.fecActive = false ∨ sinks.parity = false →
      (advance w sinks l).2 = [] := by
    intro l hl
    rw [advance_eq]
    split
    · rename_i hon
      simp only [Bool.and_eq_true] at hon
      exact hclosed _ (hl.resolve_left (by simp [hon.1]))
    · rfl
  induction h with
  | @more s s' calls pacer _ _ ih =>
    have hkept := advance_fecActive w sinks s
    rw [parityCalls_data, hadvance s hoff, List.nil_append]
    exact ih (by rw [hkept]; exact hoff)
  | @last s _ =>
    have hkept := advance_fecActive w sinks s
    have hfinish : (finish w sinks (advance w sinks s).1).calls = [] := by
      unfold finish
      split
      · rename_i hon
        rw [hkept] at hon
        exact hclosed _ (hoff.resolve_left (by simp [hon]))
      · rfl
    rw [parityCalls_data, hadvance s hoff, hfinish]
    rfl

/-- One shard: what is counted is its bytes and the parity behind it. -/
theorem advance_counts (w : WireFormat V T G P) (sinks : Sinks T) (s : PacedSender V T G) :
    let r := advance w sinks s
    r.1.parityShards ≡ s.parityShards + (parityCalls r.2).length [MOD 2 ^ 16] ∧
      r.1.wireBytes ≡
        s.wireBytes + takeBytes w s + ((parityCalls r.2).map w.paritySize).sum [MOD 2 ^ 32] := by
  have hbytes : (stepped w sinks s).wireBytes ≡ s.wireBytes + takeBytes w s [MOD 2 ^ 32] :=
    Nat.mod_modEq _ _
  have hparity : (stepped w sinks s).parityShards = s.parityShards := rfl
  simp only [advance_eq]
  split
  · rcases sendParity_counts w sinks (stepped w sinks s) with ⟨hcount, hsum⟩
    exact ⟨hcount, hsum.trans (hbytes.add_right _)⟩
  · constructor
    · rw [hparity]
      rfl
    · exact hbytes

theorem finish_counts (w : WireFormat V T G P) (sinks : Sinks T) (s : PacedSender V T G) :
    let r := finish w sinks s
    r.sender.parityShards ≡ s.parityShards + (parityCalls r.calls).length [MOD 2 ^ 16] ∧
      r.sender.wireBytes ≡ s.wireBytes + ((parityCalls r.calls).map w.paritySize).sum
        [MOD 2 ^ 32] := by
  simp only [finish]
  split
  · exact sendParity_counts w sinks s
  · exact ⟨rfl, rfl⟩

/-- The counters of a frame: the bytes left and the parity that goes out. -/
theorem Walk.counters {w : WireFormat V T G P} {sinks : Sinks T} {s s' : PacedSender V T G}
    {calls : List (SinkCall V T P)} (h : Walk w sinks s calls s') :
    s'.parityShards ≡ s.parityShards + (parityCalls calls).length [MOD 2 ^ 16] ∧
      s'.wireBytes ≡ s.wireBytes + (s.data.length - s.offset) +
        ((parityCalls calls).map w.paritySize).sum [MOD 2 ^ 32] := by
  induction h with
  | @more s s' calls pacer hmore _ ih =>
    rcases advance_spec w sinks s with ⟨-, hdata, -, -, hoffset, -, -⟩
    rcases advance_counts w sinks s with ⟨hcount, hbytes⟩
    rcases ih with ⟨hcount', hbytes'⟩
    simp only [hdata, hoffset] at hbytes'
    rw [parityCalls_data, parityCalls_append, List.length_append, List.map_append, List.sum_append]
    constructor
    · rw [← Nat.add_assoc]
      exact hcount'.trans (hcount.add_right _)
    · have hjoined := hbytes'.trans ((hbytes.add_right _).add_right _)
      have hleft : s.data.length - s.offset =
          takeBytes w s + (s.data.length - (s.offset + takeBytes w s)) := by omega
      rw [hleft]
      convert hjoined using 1
      omega
  | @last s hlast =>
    have htake : takeBytes w s = s.data.length - s.offset := by
      have : takeBytes w s ≤ s.data.length - s.offset := min_le_right _ _
      omega
    rcases advance_counts w sinks s with ⟨hcount, hbytes⟩
    rcases finish_counts w sinks (advance w sinks s).1 with ⟨hcount', hbytes'⟩
    rw [parityCalls_data, parityCalls_append, List.length_append, List.map_append, List.sum_append,
      ← htake]
    constructor
    · rw [← Nat.add_assoc]
      exact hcount'.trans (hcount.add_right _)
    · rw [← Nat.add_assoc]
      exact hbytes'.trans (hbytes.add_right _)

/-- The counters stay within their types. -/
theorem Walk.bounds {w : WireFormat V T G P} {sinks : Sinks T} {s s' : PacedSender V T G}
    {calls : List (SinkCall V T P)} (h : Walk w sinks s calls s')
    (hs : s.parityShards < 2 ^ 16 ∧ s.wireBytes < 2 ^ 32) :
    s'.parityShards < 2 ^ 16 ∧ s'.wireBytes < 2 ^ 32 := by
  have hadvance : ∀ l : PacedSender V T G, l.parityShards < 2 ^ 16 ∧ l.wireBytes < 2 ^ 32 →
      (advance w sinks l).1.parityShards < 2 ^ 16 ∧ (advance w sinks l).1.wireBytes < 2 ^ 32 := by
    intro l hl
    have hstepped : (stepped w sinks l).parityShards < 2 ^ 16 ∧
        (stepped w sinks l).wireBytes < 2 ^ 32 := ⟨hl.1, Nat.mod_lt _ (by decide)⟩
    rw [advance_eq]
    split
    · exact sendParity_bounds w sinks hstepped
    · exact hstepped
  induction h with
  | more pacer hmore _ ih => exact ih (hadvance _ hs)
  | last hlast =>
    unfold finish
    split
    · exact sendParity_bounds w sinks (hadvance _ hs)
    · exact hadvance _ hs

/-! ## Any pacer, any schedule -/

/-- Over a schedule that finishes the frame the two counters are those of the calls. -/
theorem pumped_counters (w : WireFormat V T G P) (s₀ : PacedSender V T G) (f : Frame V T)
    (data : List UInt8) (pacer : ShardPacer) (parity : Bool) {schedule : List (PumpCall T)}
    (hdone : (pumped w parity (begin w s₀ f data pacer) schedule).1.active = false) :
    let r := pumped w parity (begin w s₀ f data pacer) schedule
    r.1.parityShards = (parityCalls r.2).length % 2 ^ 16 ∧
      r.1.wireBytes = (data.length + ((parityCalls r.2).map w.paritySize).sum) % 2 ^ 32 := by
  by_cases hdata : data = []
  · have hinactive : (begin w s₀ f data pacer).active = false := by simp [begin, hdata]
    simp only [pumped_inactive w parity hinactive schedule]
    simp [begin, hdata]
  · rcases pumped_walk w parity _ _ 0 (begin_at w s₀ f hdata pacer) hdone with ⟨c, -, hwalk⟩
    intro r
    have hbounds := hwalk.bounds (by constructor <;> simp [begin])
    have hcount : r.1.parityShards ≡ 0 + (parityCalls r.2).length [MOD 2 ^ 16] := hwalk.counters.1
    have hbytes : r.1.wireBytes ≡ 0 + data.length + ((parityCalls r.2).map w.paritySize).sum
        [MOD 2 ^ 32] := hwalk.counters.2
    rw [Nat.ModEq, Nat.mod_eq_of_lt hbounds.1, Nat.zero_add] at hcount
    rw [Nat.ModEq, Nat.mod_eq_of_lt hbounds.2, Nat.zero_add] at hbytes
    exact ⟨hcount, hbytes⟩

/-- And the calls are its runs, with FEC and a sink for the parity. -/
theorem pumped_groups {w : WireFormat V T G P} {groupSize : ℕ} {held : G → List (Shard V T)}
    {covers : P → List (Shard V T)} (hw : BuilderSpec w groupSize held covers)
    (s₀ : PacedSender V T G) {f : Frame V T} (hfec : f.fecActive = true) (data : List UInt8)
    (pacer : ShardPacer) {schedule : List (PumpCall T)}
    (hdone : (pumped w true (begin w s₀ f data pacer) schedule).1.active = false) :
    let r := pumped w true (begin w s₀ f data pacer) schedule
    ∃ runs : List (List (Shard V T) × P), r.2 = runs.flatMap (emitted f.idr) ∧
      (∀ run ∈ runs, covers run.2 = run.1) ∧ Grouped groupSize (runs.map Prod.fst) ∧
      runs.length = ((dataCalls r.2).length + groupSize - 1) / groupSize := by
  by_cases hdata : data = []
  · -- Nothing to send: the frame is over before it begins
    have hinactive : (begin w s₀ f data pacer).active = false := by simp [begin, hdata]
    simp only [pumped_inactive w true hinactive schedule]
    refine ⟨[], rfl, by simp, ⟨by simp, by simp⟩, ?_⟩
    have := hw.pos
    show 0 = (0 + groupSize - 1) / groupSize
    rw [Nat.div_eq_of_lt (by omega)]
  · rcases pumped_walk w true _ _ 0 (begin_at w s₀ f hdata pacer) hdone with ⟨c, -, hwalk⟩
    -- An aborted frame may have left a group open: `begin` has dropped it
    have hempty : held (begin w s₀ f data pacer).group = [] := hw.reset _ _
    rcases hwalk.groups hw rfl hfec (by simpa [hempty] using hw.pos) with
      ⟨runs, heq, hall, hgrouped⟩
    rw [hempty] at heq
    intro r
    have hcalls : r.2 = runs.flatMap (emitted f.idr) := heq
    refine ⟨runs, hcalls, hall, hgrouped, ?_⟩
    have hlength := hgrouped.length_eq hw.pos
    rw [← dataCalls_emitted f.idr, ← hcalls, List.length_map, List.length_map] at hlength
    exact hlength

/-- A frame that a schedule of pumps has finished: with FEC and a parity sink, the calls
are its runs of `groupSize` data shards, each followed by the parity that covers it, and
there is no parity otherwise. The counters have the widths of their types. -/
theorem parity_partition {w : WireFormat V T G P} {groupSize : ℕ} {held : G → List (Shard V T)}
    {covers : P → List (Shard V T)} (hw : BuilderSpec w groupSize held covers)
    (s₀ : PacedSender V T G) (f : Frame V T) (data : List UInt8) (pacer : ShardPacer)
    (parity : Bool) {schedule : List (PumpCall T)}
    (hdone : (pumped w parity (begin w s₀ f data pacer) schedule).1.active = false) :
    let r := pumped w parity (begin w s₀ f data pacer) schedule
    (f.fecActive = true → parity = true → ∃ runs : List (List (Shard V T) × P),
      r.2 = runs.flatMap (emitted f.idr) ∧ (∀ run ∈ runs, covers run.2 = run.1) ∧
      Grouped groupSize (runs.map Prod.fst) ∧
      runs.length = ((dataCalls r.2).length + groupSize - 1) / groupSize ∧
      r.1.parityShards = runs.length % 2 ^ 16) ∧
    (f.fecActive = false ∨ parity = false → parityCalls r.2 = [] ∧ r.1.parityShards = 0) ∧
    r.1.wireBytes = (data.length + ((parityCalls r.2).map w.paritySize).sum) % 2 ^ 32 := by
  intro r
  rcases pumped_counters w s₀ f data pacer parity hdone with ⟨hcount, hbytes⟩
  refine ⟨?_, ?_, hbytes⟩
  · rintro hfec rfl
    rcases pumped_groups hw s₀ hfec data pacer hdone with ⟨runs, hcalls, hall, hgrouped, hlength⟩
    refine ⟨runs, hcalls, hall, hgrouped, hlength, ?_⟩
    have hemitted : parityCalls r.2 = runs.map Prod.snd := by
      rw [show r.2 = runs.flatMap (emitted f.idr) from hcalls, parityCalls_emitted]
    rw [show r.1.parityShards = (parityCalls r.2).length % 2 ^ 16 from hcount, hemitted,
      List.length_map]
  · intro hoff
    have hnone : parityCalls r.2 = [] := by
      by_cases hdata : data = []
      · have hinactive : (begin w s₀ f data pacer).active = false := by simp [begin, hdata]
        show parityCalls (pumped w parity (begin w s₀ f data pacer) schedule).2 = []
        rw [pumped_inactive w parity hinactive schedule]
        rfl
      · rcases pumped_walk w parity _ _ 0 (begin_at w s₀ f hdata pacer) hdone with ⟨c, -, hwalk⟩
        exact hwalk.quiet hoff
    refine ⟨hnone, ?_⟩
    rw [show r.1.parityShards = (parityCalls r.2).length % 2 ^ 16 from hcount, hnone]
    rfl

/-- A builder that keeps the shards themselves, for groups of eight shards of 1336
bytes. -/
def keepingWire :
    WireFormat Unit Unit (List (Shard Unit Unit)) (List (Shard Unit Unit)) where
  serializedSize _ := 0
  shardPayloadBudget _ := 1336
  groupReset _ _ := []
  groupAdd g shard := g ++ [shard]
  groupBlockFull g := g.length == 8
  groupTake g := ([], if g = [] then none else some g)
  paritySize p := (p.map fun shard => shard.payload.length).foldl max 0

theorem keepingWire_spec : BuilderSpec keepingWire 8 id id where
  pos := by decide
  reset := fun _ _ => rfl
  add := fun _ _ => rfl
  full := fun g => by simp [keepingWire]
  emptied := fun _ => rfl
  none := fun g hg => by simp [keepingWire, show g = [] from hg]
  covered := fun g hg => ⟨g, by simp [keepingWire, show g ≠ [] from hg], rfl⟩

/-- A P frame with FEC on the stream socket. -/
def protectedFrame : Frame Unit Unit :=
  { streamIndex := 0, frameIndex := 7, fec := true, viewInfo := (), timingInfo := () }

/-- A sender whose last frame was aborted with two shards in the open group. -/
def abortedSender : PacedSender Unit Unit (List (Shard Unit Unit)) :=
  { frame := { streamIndex := 0, frameIndex := 6, viewInfo := (), timingInfo := () }
    group :=
      [{ streamItemIdx := 0, frameIdx := 6 }, { streamItemIdx := 0, frameIdx := 6, shardIdx := 1 }]
    shard := { streamItemIdx := 0, frameIdx := 6, shardIdx := 2 } }

/-- Three bytes after the aborted frame: one run of one shard. -/
theorem parity_partition_three_bytes :
    let r := pumped keepingWire true (begin keepingWire abortedSender protectedFrame [1, 2, 3] {})
      [⟨0, none⟩]
    ∃ runs : List (List (Shard Unit Unit) × List (Shard Unit Unit)),
      r.2 = runs.flatMap (emitted false) ∧ (∀ run ∈ runs, id run.2 = run.1) ∧
      Grouped 8 (runs.map Prod.fst) ∧ runs.length = ((dataCalls r.2).length + 8 - 1) / 8 ∧
      r.1.parityShards = runs.length % 2 ^ 16 := by
  have hdone : (pumped keepingWire true
      (begin keepingWire abortedSender protectedFrame [1, 2, 3] {}) [⟨0, none⟩]).1.active =
        false := by
    decide
  exact (parity_partition keepingWire_spec abortedSender protectedFrame [1, 2, 3] {} true
    hdone).1 rfl rfl

/-- One pump of a frame that is not paced sends all of its 1336-byte shards. -/
theorem keepingWire_pumped {data : List UInt8} {m : ℕ} (hdata : data ≠ [])
    (hlength : data.length = m * 1336) :
    let r := pumped keepingWire true (begin keepingWire abortedSender protectedFrame data {})
      [⟨0, none⟩]
    r.1.active = false ∧ (dataCalls r.2).length = m := by
  have hat := begin_at keepingWire abortedSender protectedFrame hdata {}
  have hover : (pump keepingWire (sinksOf true ⟨0, none⟩)
      (begin keepingWire abortedSender protectedFrame data {}) 0).sender.active = false := by
    rw [pump, if_neg (by simp [hat.active])]
    exact pumpLoop_unpaced keepingWire (fun _ => rfl) 0 _ _ rfl
  have hresumes := pump_resumes keepingWire (sinksOf true ⟨0, none⟩) 0 hat
  rcases hresumes.stream (hresumes.quiet fun _ => rfl) with ⟨k, -, hstream⟩
  rw [owed_inactive hover, List.append_nil] at hstream
  have hsizes : ∀ i, capacity (sizes keepingWire protectedFrame) i = 1336 := by
    intro i
    simp [capacity, sizes, payloadBudget, keepingWire, protectedFrame]
  constructor
  · exact hover
  · simp only [pumped, List.append_nil]
    rw [hstream, owed, if_pos hat.active, List.length_map, numbered_eq_mapIdx, List.length_mapIdx]
    exact length_split_of_const _ hsizes m 0 _ hlength

/-- A frame of 8 · 65536 shards: the counter of its 65536 parity shards is back at
zero. -/
theorem parity_counter_wraps :
    let r := pumped keepingWire true
      (begin keepingWire abortedSender protectedFrame (List.replicate (524288 * 1336) 0) {})
      [⟨0, none⟩]
    r.1.active = false ∧ (parityCalls r.2).length = ((dataCalls r.2).length + 8 - 1) / 8 ∧
      r.1.parityShards ≠ (parityCalls r.2).length := by
  have hlength : (List.replicate (524288 * 1336) (0 : UInt8)).length = 524288 * 1336 :=
    List.length_replicate
  have hdata : List.replicate (524288 * 1336) (0 : UInt8) ≠ [] := by
    intro hnil
    rw [hnil] at hlength
    cases hlength
  generalize List.replicate (524288 * 1336) (0 : UInt8) = data at *
  rcases keepingWire_pumped hdata hlength with ⟨hdone, hshards⟩
  rcases pumped_groups keepingWire_spec abortedSender (f := protectedFrame) rfl data {} hdone with
    ⟨runs, hcalls, -, -, hruns⟩
  have hcount := (pumped_counters keepingWire abortedSender protectedFrame data {} true hdone).1
  have hparity := congrArg (fun calls => (parityCalls calls).length) hcalls
  simp only [parityCalls_emitted, List.length_map, hruns] at hparity
  intro r
  refine ⟨hdone, hparity, ?_⟩
  rw [show r.1.parityShards = (parityCalls r.2).length % 2 ^ 16 from hcount,
    show (parityCalls r.2).length = _ from hparity, hshards]
  decide

end WivrnNx.PacedSender
