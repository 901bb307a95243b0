import WivrnNx.KeyFile

/-!
# Names in the key file

`add_known_key` (wivrn/store.cpp) numbers a name until no record has it. The loop ends within one
round more than there are records (`freeName_some`), whatever they are called, and a file that is
read back as it was written never holds a name twice.
-/

namespace WivrnNx

/-! ## The loop -/

theorem freeName_not_mem {taken : List Text} {original : Text} {fuel : ℕ} {name free : Text}
    {n : ℕ} (h : freeName taken original fuel name n = some free) : free ∉ taken := by
  induction fuel generalizing name n with
  | zero => cases h
  | succ fuel ih =>
    rw [freeName] at h
    split at h
    -- Round by round: only a name that is not taken ends the loop
    · exact ih h
    · rename_i hnew
      cases h
      exact hnew

/-- A loop that has ended takes no further round. -/
theorem freeName_more {taken : List Text} {original : Text} {fuel : ℕ} {name free : Text} {n : ℕ}
    (more : ℕ) (h : freeName taken original fuel name n = some free) :
    freeName taken original (fuel + more) name n = some free := by
  induction fuel generalizing name n with
  | zero => cases h
  | succ fuel ih =>
    rw [Nat.succ_add, freeName]
    rw [freeName] at h
    split at h
    · rename_i htaken
      rw [if_pos htaken]
      exact ih h
    · rename_i hnew
      rw [if_neg hnew]
      exact h

/-! ## The records -/

theorem newRecord_name {keys : List HeadsetKey} {key record : HeadsetKey}
    (h : newRecord keys key = some record) : record.name ∉ keys.map HeadsetKey.name := by
  obtain ⟨name, hname, rfl⟩ := Option.map_eq_some_iff.mp h
  exact freeName_not_mem hname

/-- A key file that came about by `add_known_key` alone, from none, and whose records were each
time read back as they were written. -/
inductive Built : Text → Prop
  | none : Built []
  | add {path written : Bool} {data out : Text} {key record : HeadsetKey} (before : Built data)
      (added : addKnownKey path written data key = some out)
      (appended : newRecord (knownKeys data) key = some record)
      (read : knownKeys out = knownKeys data ++ [record]) : Built out

theorem Built.nodup {data : Text} (h : Built data) :
    ((knownKeys data).map HeadsetKey.name).Nodup := by
  induction h with
  | none => exact List.nodup_nil
  | add before added appended read ih =>
    rw [read, List.map_append, List.nodup_append_comm]
    exact List.nodup_cons.mpr ⟨newRecord_name appended, ih⟩

/-! ## Pairings -/

/-- What a headset that pairs brings to `add_known_key`, and what becomes of the call. -/
structure Pairing where
  pem : Text
  name : Text
  path : Bool
  written : Bool

/-- The key file after a pairing. -/
def pair (data : Text) (p : Pairing) : Text :=
  (addKnownKey p.path p.written data { publicKey := cleanKey p.pem, name := p.name }).getD data

/-- A file of cleaned keys that was read back as it was written. -/
structure Paired (data : Text) : Prop where
  built : Built data
  no_return : ∀ r ∈ knownKeys data, r.publicKey.getLast? ≠ some '\r'

theorem pair_paired {data : Text} (h : Paired data) {p : Pairing}
    (hname : p.name.head? ≠ some '#') : Paired (pair data p) := by
  unfold pair
  cases hadd : addKnownKey p.path p.written data
    { publicKey := cleanKey p.pem, name := p.name } with
  | none => exact h
  | some out =>
    obtain ⟨-, record, hrecord, rfl⟩ := addKnownKey_newRecord hadd
    obtain ⟨hkey, htame, hcomment⟩ := newRecord_spec hrecord
    have hlast : record.publicKey.getLast? ≠ some '\r' := by
      rw [hkey]
      exact cleanKey_getLast p.pem
    -- Nothing is lost when the file is read: no key ends with a carriage return, no name starts
    -- with a comment mark
    have hsame : ∀ r : HeadsetKey, r.publicKey.getLast? ≠ some '\r' → r.read = r := by
      intro r hr
      rw [HeadsetKey.read, stripReturn_of_ne hr]
    have hread : knownKeys (keyFileText (knownKeys data ++ [record])) =
        knownKeys data ++ [record] := by
      rw [knownKeys_keyFileText (knownKeys_writable data) htame.1 (not_mem_line hkey htame),
        if_neg fun hhash => hname (hcomment.mp hhash), hsame record hlast,
        List.map_congr_left fun r hr => hsame r (h.no_return r hr), List.map_id']
    refine ⟨h.built.add hadd hrecord hread, ?_⟩
    intro r hr
    rw [Option.getD_some, hread] at hr
    rcases List.mem_append.mp hr with hold | hnew
    · exact h.no_return r hold
    · rw [List.mem_singleton.mp hnew]
      exact hlast

theorem paired_nil : Paired [] where
  built := .none
  no_return := fun _ hr => absurd hr List.not_mem_nil

theorem pairings_paired {data : Text} (hdata : Paired data) {ps : List Pairing}
    (h : ∀ p ∈ ps, p.name.head? ≠ some '#') : Paired (ps.foldl pair data) := by
  induction ps generalizing data with
  | nil => exact hdata
  | cons p ps ih =>
    have hfirst := pair_paired hdata (h p List.mem_cons_self)
    exact ih hfirst fun q hq => h q (List.mem_cons_of_mem _ hq)

/-- Headsets pair one after the other, starting from no file: unless one calls itself a comment,
all their names are kept apart. -/
theorem pairings_nodup (ps : List Pairing) (h : ∀ p ∈ ps, p.name.head? ≠ some '#') :
    ((knownKeys (ps.foldl pair [])).map HeadsetKey.name).Nodup :=
  (pairings_paired paired_nil h).built.nodup

/-! ## The names -/

/-- The numbering ends within one round more than there are records, with a name that none of them
has, and so the names in a file that was built by it are distinct. -/
theorem names_distinct (keys : List HeadsetKey) (name : Text) {data : Text} (h : Built data) :
    (∃ free, free ∉ keys.map HeadsetKey.name ∧ ∀ more,
      freeName (keys.map HeadsetKey.name) (sanitizeName name) (keys.length + 1 + more)
        (sanitizeName name) 1 = some free) ∧
      ((knownKeys data).map HeadsetKey.name).Nodup := by
  obtain ⟨free, hfree⟩ := freeName_some (keys.map HeadsetKey.name) (sanitizeName name)
  rw [List.length_map] at hfree
  exact ⟨⟨free, freeName_not_mem hfree, fun more => freeName_more more hfree⟩, h.nodup⟩

/-- Two headsets of one name. -/
theorem names_distinct_two_quests :
    let file := pair (pair [] ⟨"K1".toList, "Quest".toList, true, true⟩)
      ⟨"K2".toList, "Quest".toList, true, true⟩
    (knownKeys file).map HeadsetKey.name = ["Quest".toList, "Quest (2)".toList] ∧
      ((knownKeys file).map HeadsetKey.name).Nodup := by
  intro file
  have hpaired : Paired file := pair_paired (pair_paired paired_nil (by decide)) (by decide)
  exact ⟨by decide, (names_distinct [] "Quest".toList hpaired.built).2⟩

end WivrnNx
