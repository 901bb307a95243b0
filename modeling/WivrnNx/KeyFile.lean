import WivrnNx.Store

/-!
# The round trip of the key file

`add_known_key` writes the records that `known_keys` has read, and a new one, and
`known_keys` reads them again (wivrn/store.cpp). `HeadsetKey.Writable` is what
every record that was read has; `knownKeys_keyFileText` is the round trip of the
records, with the two ways in which it is none: a carriage return at the end of
a key is taken for one of the line, and a new name that starts with `#` makes its
line a comment.
-/

namespace WivrnNx

/-! ## Lines -/

theorem lines_line (line rest : Text) (h : '\n' ∉ line) :
    lines (line ++ '\n' :: rest) = line :: lines rest := by
  induction line with
  | nil => simp [lines]
  | cons c line ih =>
    rw [List.mem_cons, not_or] at h
    rw [List.cons_append, lines, if_neg (Ne.symm h.1), ih h.2]

theorem not_mem_lines (data : Text) : ∀ line ∈ lines data, '\n' ∉ line := by
  induction data with
  | nil =>
    intro line h
    cases h
  | cons c rest ih =>
    intro line h
    rw [lines] at h
    split at h
    · rcases List.mem_cons.mp h with rfl | hrest
      · exact List.not_mem_nil
      · exact ih line hrest
    · rename_i hc
      split at h
      · rw [List.mem_singleton] at h
        subst h
        simpa using Ne.symm hc
      · rename_i first more heq
        rw [heq] at ih
        rcases List.mem_cons.mp h with rfl | hmore
        · rw [List.mem_cons, not_or]
          exact ⟨Ne.symm hc, ih first List.mem_cons_self⟩
        · exact ih line (List.mem_cons_of_mem _ hmore)

/-! ## Records -/

/-- The carriage return that a line may end with. -/
def stripReturn (text : Text) : Text := if text.getLast? = some '\r' then text.dropLast else text

/-- A record that its line can be read back from. -/
structure HeadsetKey.Writable (k : HeadsetKey) : Prop where
  name_tab : '\t' ∉ k.name
  name_line : '\n' ∉ k.name
  name_comment : k.name.head? ≠ some '#'
  key_line : '\n' ∉ k.publicKey

def HeadsetKey.line (k : HeadsetKey) : Text := k.name ++ '\t' :: k.publicKey

/-- A record as it comes back. -/
def HeadsetKey.read (k : HeadsetKey) : HeadsetKey := { k with publicKey := stripReturn k.publicKey }

theorem stripReturn_append (name key : Text) :
    stripReturn (name ++ '\t' :: key) = name ++ '\t' :: stripReturn key := by
  unfold stripReturn
  cases key with
  | nil => simp
  | cons c key =>
    have hlast : (name ++ '\t' :: c :: key).getLast? = (c :: key).getLast? := by
      rw [List.getLast?_append, List.getLast?_cons_cons,
        List.getLast?_eq_some_getLast (List.cons_ne_nil c key), Option.some_or]
    rw [hlast]
    split
    · simp [List.dropLast_append_of_ne_nil]
    · rfl

theorem keyOfLine_line {k : HeadsetKey} (htab : '\t' ∉ k.name)
    (hcomment : k.name.head? ≠ some '#') : keyOfLine k.line = some k.read := by
  have hstrip : (if k.line.getLast? = some '\r' then k.line.dropLast else k.line) =
      k.name ++ '\t' :: stripReturn k.publicKey := stripReturn_append _ _
  have hother : ∀ c ∈ k.name, (c != '\t') = true := by
    intro c hc
    rw [bne_iff_ne]
    rintro rfl
    exact htab hc
  have hhead : (k.name ++ '\t' :: stripReturn k.publicKey).head? ≠ some '#' := by
    cases hname : k.name with
    | nil => simp
    | cons c name =>
      rw [hname] at hcomment
      exact hcomment
  have hnext : ¬ (k.name ++ '\t' :: stripReturn k.publicKey = [] ∨
      (k.name ++ '\t' :: stripReturn k.publicKey).head? = some '#') := by
    rintro (hnil | hcomment')
    · simp at hnil
    · exact hhead hcomment'
  unfold keyOfLine
  simp only [hstrip]
  rw [if_neg hnext, if_pos (by simp),
    List.dropWhile_append_of_pos hother, List.takeWhile_append_of_pos hother]
  simp [HeadsetKey.read]

theorem keyOfLine_comment {line : Text} (h : line.head? = some '#') : keyOfLine line = none := by
  cases line with
  | nil => cases h
  | cons c line =>
    cases h
    have hhead : (stripReturn ('#' :: line)).head? = some '#' := by
      unfold stripReturn
      split
      · rename_i hlast
        cases line with
        | nil => simp at hlast
        | cons d line => rfl
      · rfl
    have hstrip : (if ('#' :: line).getLast? = some '\r' then ('#' :: line).dropLast
        else '#' :: line) = stripReturn ('#' :: line) := rfl
    unfold keyOfLine
    simp only [hstrip]
    rw [if_pos (.inr hhead)]

theorem keyOfLine_some {line : Text} {k : HeadsetKey} (hline : '\n' ∉ line)
    (h : keyOfLine line = some k) : k.Writable := by
  unfold keyOfLine at h
  have hkept : ∀ c ∈ (if line.getLast? = some '\r' then line.dropLast else line), c ∈ line := by
    intro c hc
    split at hc
    · exact List.dropLast_subset line hc
    · exact hc
  dsimp only at h
  generalize (if line.getLast? = some '\r' then line.dropLast else line) = kept at h hkept
  split at h
  · cases h
  · rename_i hcomment
    rw [not_or] at hcomment
    split at h
    · cases h
      refine ⟨?_, ?_, ?_, ?_⟩
      · intro htab
        simpa using List.all_eq_true.mp List.all_takeWhile _ htab
      · intro hnl
        exact hline (hkept _ (List.takeWhile_subset _ hnl))
      · -- The name starts as the line does, unless it is empty
        cases kept with
        | nil => exact absurd rfl hcomment.1
        | cons c kept =>
          have hc : (c :: kept).head? ≠ some '#' := hcomment.2
          by_cases ht : c = '\t'
          · subst ht
            simp
          · rw [List.takeWhile_cons_of_pos (by simpa using ht)]
            exact hc
      · intro hnl
        exact hline (hkept _ (List.dropWhile_subset _ (List.mem_of_mem_tail hnl)))
    · cases h

theorem knownKeys_writable (data : Text) : ∀ k ∈ knownKeys data, k.Writable := by
  intro k hk
  obtain ⟨line, hline, hkey⟩ := List.mem_filterMap.mp hk
  exact keyOfLine_some (not_mem_lines data line hline) hkey

/-- What is written, line by line. -/
theorem lines_keyFileText (keys : List HeadsetKey)
    (hlines : ∀ k ∈ keys, '\n' ∉ k.line) :
    lines (keyFileText keys) = keyFileHeader :: keys.map HeadsetKey.line := by
  have hrecords : ∀ ks : List HeadsetKey, (∀ k ∈ ks, '\n' ∉ k.line) →
      lines (ks.flatMap fun k => k.name ++ '\t' :: (k.publicKey ++ ['\n'])) =
        ks.map HeadsetKey.line := by
    intro ks
    induction ks with
    | nil => exact fun _ => rfl
    | cons k ks ih =>
      intro h
      rw [List.forall_mem_cons] at h
      have hcut : (k :: ks).flatMap (fun k => k.name ++ '\t' :: (k.publicKey ++ ['\n'])) =
          k.line ++ '\n' :: ks.flatMap fun k => k.name ++ '\t' :: (k.publicKey ++ ['\n']) := by
        simp [HeadsetKey.line]
      rw [hcut, lines_line _ _ h.1, ih h.2, List.map_cons]
  have hheader : '\n' ∉ keyFileHeader := by decide
  rw [keyFileText, List.append_assoc, List.singleton_append, lines_line _ _ hheader,
    hrecords keys hlines]

/-- Records that can be read back are read back, without the carriage return that their keys
may end with; a last one whose name looks like a comment is not. -/
theorem knownKeys_keyFileText {keys : List HeadsetKey} {k : HeadsetKey}
    (hkeys : ∀ k ∈ keys, k.Writable) (htab : '\t' ∉ k.name) (hline : '\n' ∉ k.line) :
    knownKeys (keyFileText (keys ++ [k])) =
      keys.map HeadsetKey.read ++ (if k.name.head? = some '#' then [] else [k.read]) := by
  have hlines : ∀ x ∈ keys ++ [k], '\n' ∉ x.line := by
    intro x hx
    rcases List.mem_append.mp hx with hold | hnew
    · have hw := hkeys x hold
      simp [HeadsetKey.line, hw.name_line, hw.key_line]
    · rw [List.mem_singleton.mp hnew]
      exact hline
  have hread : (keys.map HeadsetKey.line).filterMap keyOfLine = keys.map HeadsetKey.read := by
    rw [List.filterMap_map]
    rw [← List.filterMap_eq_map]
    refine List.filterMap_congr ?_
    intro x hx
    exact keyOfLine_line (hkeys x hx).name_tab (hkeys x hx).name_comment
  have hheader : keyOfLine keyFileHeader = none := keyOfLine_comment rfl
  -- The header, the records there were, and the new one
  rw [knownKeys, lines_keyFileText _ hlines, List.filterMap_cons_none hheader, List.map_append,
    List.filterMap_append, hread]
  congr 1
  split
  · rename_i hcomment
    have hhead : k.line.head? = some '#' := by
      rw [HeadsetKey.line, List.head?_append, hcomment, Option.some_or]
    simp [keyOfLine_comment hhead]
  · rename_i hname
    simp [keyOfLine_line htab hname]

/-! ## Names -/

theorem sanitizeName_ne_nil (name : Text) : sanitizeName name ≠ [] := by
  unfold sanitizeName
  dsimp only
  split
  · decide
  · assumption

/-- A name that stays on its line and in its column. -/
def Tame (name : Text) : Prop := '\t' ∉ name ∧ '\n' ∉ name

theorem sanitizeName_tame (name : Text) : Tame (sanitizeName name) := by
  unfold sanitizeName
  dsimp only
  split
  · exact ⟨by decide, by decide⟩
  · constructor <;>
    · intro h
      obtain ⟨c, -, hc⟩ := List.mem_map.mp h
      split at hc
      · exact absurd hc (by decide)
      · rename_i hne
        rw [hc] at hne
        exact hne (by simp)

/-- The first character is not looked at, unless it is a tab, a return or a newline. -/
theorem sanitizeName_comment (name : Text) :
    (sanitizeName name).head? = some '#' ↔ name.head? = some '#' := by
  cases name with
  | nil => decide
  | cons c name =>
    unfold sanitizeName
    rw [List.map_cons, if_neg (List.cons_ne_nil _ _), List.head?_cons, List.head?_cons,
      Option.some.injEq, Option.some.injEq]
    split
    · rename_i hc
      rcases hc with rfl | rfl | rfl <;> decide
    · exact Iff.rfl

theorem Tame.numbered {original : Text} (h : Tame original) (n : ℕ) :
    Tame (numberedName original n) := by
  have hdigit : ∀ c, c.isDigit = false → c ≠ ' ' → c ≠ '(' → c ≠ ')' → c ∉ original →
      c ∉ numberedName original n := by
    intro c hc hspace hopen hclose horiginal hmem
    simp only [numberedName, List.mem_append, List.mem_cons, List.not_mem_nil, or_false] at hmem
    rcases hmem with ho | hs | hp | hd | hq
    · exact horiginal ho
    · exact hspace hs
    · exact hopen hp
    · rw [Nat.isDigit_of_mem_toDigits (by decide) (by decide) hd] at hc
      cases hc
    · exact hclose hq
  exact ⟨hdigit '\t' (by decide) (by decide) (by decide) (by decide) h.1,
    hdigit '\n' (by decide) (by decide) (by decide) (by decide) h.2⟩

theorem numberedName_head {original : Text} (h : original ≠ []) (n : ℕ) :
    (numberedName original n).head? = original.head? := by
  cases original with
  | nil => exact absurd rfl h
  | cons c original => rfl

/-- What the loop ends with is the name itself or a numbered one. -/
theorem freeName_cases {taken : List Text} {original : Text} :
    ∀ {fuel : ℕ} {name : Text} {n : ℕ} {free : Text},
      freeName taken original fuel name n = some free →
      free = name ∨ ∃ m, free = numberedName original m := by
  intro fuel
  induction fuel with
  | zero =>
    intro name n free h
    cases h
  | succ fuel ih =>
    intro name n free h
    rw [freeName] at h
    split at h
    · rcases ih h with rfl | hnumbered
      · exact .inr ⟨n + 1, rfl⟩
      · exact .inr hnumbered
    · cases h
      exact .inl rfl

theorem numberedName_injective (original : Text) : Function.Injective (numberedName original) := by
  intro m n h
  have hdigits := List.append_cancel_right (List.cons.inj (List.cons.inj
    (List.append_cancel_left h)).2).2
  rw [← Nat.ofDigitChars_ten_toDigits (n := m), hdigits, Nat.ofDigitChars_ten_toDigits]

/-- A loop that has run out has found its name and every number taken. -/
theorem freeName_none {taken : List Text} {original : Text} :
    ∀ {fuel : ℕ} {name : Text} {n : ℕ}, freeName taken original (fuel + 1) name n = none →
      name ∈ taken ∧ ∀ m, n < m → m ≤ n + fuel → numberedName original m ∈ taken := by
  intro fuel
  induction fuel with
  | zero =>
    intro name n h
    rw [freeName] at h
    split at h
    · refine ⟨‹_›, ?_⟩
      intro m hlow hhigh
      omega
    · cases h
  | succ fuel ih =>
    intro name n h
    rw [freeName] at h
    split at h
    · obtain ⟨hnext, hrest⟩ := ih h
      refine ⟨‹_›, ?_⟩
      intro m hlow hhigh
      rcases Nat.eq_or_lt_of_le hlow with heq | hlt
      · rw [← heq]
        exact hnext
      · exact hrest m hlt (by omega)
    · cases h

/-- The loop ends: there are more names than records. -/
theorem freeName_some (taken : List Text) (original : Text) :
    ∃ name, freeName taken original (taken.length + 1) original 1 = some name := by
  cases h : freeName taken original (taken.length + 1) original 1 with
  | some name => exact ⟨name, rfl⟩
  | none =>
    obtain ⟨hfirst, hrest⟩ := freeName_none h
    -- Were all names of the loop taken, these would be one more than there are names
    have hne : ∀ m, original ≠ numberedName original m := by
      intro m heq
      have hlength := congrArg List.length heq
      simp [numberedName] at hlength
    have hnodup : (original :: (List.range taken.length).map
        fun i => numberedName original (i + 2)).Nodup := by
      refine List.nodup_cons.mpr ⟨?_, ?_⟩
      · intro hmem
        obtain ⟨i, -, hi⟩ := List.mem_map.mp hmem
        exact hne _ hi.symm
      · refine List.Nodup.map ?_ List.nodup_range
        intro i j hij
        have := numberedName_injective original hij
        omega
    have hsub : original :: ((List.range taken.length).map
        fun i => numberedName original (i + 2)) ⊆ taken := by
      intro x hx
      rcases List.mem_cons.mp hx with rfl | hx
      · exact hfirst
      · obtain ⟨i, hi, rfl⟩ := List.mem_map.mp hx
        rw [List.mem_range] at hi
        exact hrest (i + 2) (by omega) (by omega)
    have hlength := (List.subperm_of_subset hnodup hsub).length_le
    simp at hlength

/-! ## Adding a headset -/

theorem not_blank_of_mem_cleanKey {pem : Text} {c : Char} (h : c ∈ cleanKey pem) :
    isBlank c = false := by
  obtain ⟨line, -, hc⟩ := List.mem_flatMap.mp h
  split at hc
  · cases hc
  · simpa using (List.mem_filter.mp hc).2

/-- A key that the file cannot have changed. -/
theorem cleanKey_getLast (pem : Text) : (cleanKey pem).getLast? ≠ some '\r' := by
  intro h
  have := not_blank_of_mem_cleanKey (List.mem_of_getLast? h)
  exact absurd this (by decide)

/-- The line of a cleaned key under a tame name is one line. -/
theorem not_mem_line {key : HeadsetKey} {pem name : Text} (hclean : key.publicKey = cleanKey pem)
    (htame : Tame name) :
    '\n' ∉ ({ publicKey := key.publicKey, name := name } : HeadsetKey).line := by
  have hkey : '\n' ∉ key.publicKey := by
    intro hmem
    rw [hclean] at hmem
    exact absurd (not_blank_of_mem_cleanKey hmem) (by decide)
  simp [HeadsetKey.line, htame.2, hkey]

theorem stripReturn_of_ne {key : Text} (h : key.getLast? ≠ some '\r') : stripReturn key = key :=
  if_neg h

/-- The record that `add_known_key` appends. -/
def newRecord (keys : List HeadsetKey) (key : HeadsetKey) : Option HeadsetKey :=
  let original := sanitizeName key.name
  (freeName (keys.map HeadsetKey.name) original (keys.length + 1) original 1).map fun name =>
    { publicKey := key.publicKey, name := name }

theorem newRecord_spec {keys : List HeadsetKey} {key record : HeadsetKey}
    (h : newRecord keys key = some record) :
    record.publicKey = key.publicKey ∧ Tame record.name ∧
      (record.name.head? = some '#' ↔ key.name.head? = some '#') := by
  obtain ⟨name, hname, rfl⟩ := Option.map_eq_some_iff.mp h
  have horiginal := sanitizeName_tame key.name
  rw [← sanitizeName_comment key.name]
  rcases freeName_cases hname with rfl | ⟨m, rfl⟩
  · exact ⟨rfl, horiginal, Iff.rfl⟩
  · refine ⟨rfl, horiginal.numbered m, ?_⟩
    change (numberedName _ m).head? = _ ↔ _
    rw [numberedName_head (sanitizeName_ne_nil key.name)]

/-- The file is rewritten with all its records and, last, the new one. -/
theorem addKnownKey_newRecord {path written : Bool} {data out : Text} {key : HeadsetKey}
    (h : addKnownKey path written data key = some out) :
    (∀ k ∈ knownKeys data, k.publicKey ≠ key.publicKey) ∧
      ∃ record, newRecord (knownKeys data) key = some record ∧
        out = keyFileText (knownKeys data ++ [record]) := by
  unfold addKnownKey at h
  dsimp only at h
  split at h
  · cases h
  · split at h
    · cases h
    · rename_i hnew
      refine ⟨by simpa using hnew, ?_⟩
      obtain ⟨name, hname, hout⟩ := Option.bind_eq_some_iff.mp h
      split at hout
      · cases hout
        exact ⟨_, congrArg (Option.map _) hname, rfl⟩
      · cases hout

/-- The new record stands under a name of its own. -/
theorem addKnownKey_some {path written : Bool} {data out : Text} {key : HeadsetKey}
    (h : addKnownKey path written data key = some out) :
    (∀ k ∈ knownKeys data, k.publicKey ≠ key.publicKey) ∧
      ∃ name, Tame name ∧ (name.head? = some '#' ↔ key.name.head? = some '#') ∧
        out = keyFileText (knownKeys data ++ [{ publicKey := key.publicKey, name := name }]) := by
  obtain ⟨hnew, record, hrecord, hout⟩ := addKnownKey_newRecord h
  obtain ⟨hkey, htame, hcomment⟩ := newRecord_spec hrecord
  refine ⟨hnew, record.name, htame, hcomment, ?_⟩
  rw [hout, ← hkey]

/-- A new key is written whenever the file can be. -/
theorem addKnownKey_rewrites {data : Text} {key : HeadsetKey} (hkey : key.publicKey ≠ [])
    (hnew : ∀ k ∈ knownKeys data, k.publicKey ≠ key.publicKey) :
    ∃ out, addKnownKey true true data key = some out := by
  obtain ⟨name, hname⟩ := freeName_some ((knownKeys data).map HeadsetKey.name)
    (sanitizeName key.name)
  rw [List.length_map] at hname
  have hany : ¬ ((knownKeys data).any fun k => k.publicKey == key.publicKey) = true := by
    simpa using hnew
  refine ⟨keyFileText (knownKeys data ++ [{ publicKey := key.publicKey, name := name }]), ?_⟩
  unfold addKnownKey
  dsimp only
  rw [if_neg hkey, if_neg hany, hname]
  rfl

/-- Of the records whose keys end with a carriage return, the longest key is lost. -/
theorem longest_lost {keys : List HeadsetKey} {r : HeadsetKey} (hr : r ∈ keys)
    (hreturn : r.publicKey.getLast? = some '\r') :
    ∃ k ∈ keys, k ∉ keys.map HeadsetKey.read ∧ k.publicKey.getLast? = some '\r' := by
  have hex : ∃ k ∈ keys.filter fun k => k.publicKey.getLast? = some '\r',
      ∀ x ∈ keys.filter fun k => k.publicKey.getLast? = some '\r',
        x.publicKey.length ≤ k.publicKey.length := by
    have hne : (keys.filter fun k => k.publicKey.getLast? = some '\r').toFinset.Nonempty :=
      ⟨r, List.mem_toFinset.mpr (List.mem_filter.mpr ⟨hr, by simpa using hreturn⟩)⟩
    obtain ⟨k, hk, hmax⟩ := Finset.exists_max_image _ (fun k => k.publicKey.length) hne
    exact ⟨k, List.mem_toFinset.mp hk, fun x hx => hmax x (List.mem_toFinset.mpr hx)⟩
  obtain ⟨k, hk, hmax⟩ := hex
  obtain ⟨hmem, hlast⟩ := List.mem_filter.mp hk
  have hlast' : k.publicKey.getLast? = some '\r' := by simpa using hlast
  refine ⟨k, hmem, ?_, hlast'⟩
  intro hread
  obtain ⟨x, hx, rfl⟩ := List.mem_map.mp hread
  -- `x` reads as a key with a return at its end, so its own key is longer by one
  change (stripReturn x.publicKey).getLast? = some '\r' at hlast'
  by_cases hxr : x.publicKey.getLast? = some '\r'
  · have hlonger := hmax x (List.mem_filter.mpr ⟨hx, by simpa using hxr⟩)
    change _ ≤ (stripReturn x.publicKey).length at hlonger
    rw [stripReturn, if_pos hxr, List.length_dropLast] at hlonger
    have hpos : x.publicKey ≠ [] := by
      intro hnil
      rw [hnil] at hxr
      cases hxr
    have := List.length_pos_of_ne_nil hpos
    omega
  · rw [stripReturn_of_ne hxr] at hlast'
    exact hxr hlast'

/-- A rewritten key file remembers the new key and every record it held exactly if the new
name does not look like a comment and no key in the file ends with a carriage return. -/
theorem remembered_iff {path written : Bool} {data out pem : Text} {key : HeadsetKey}
    (hclean : key.publicKey = cleanKey pem)
    (hout : addKnownKey path written data key = some out) :
    ((∃ k ∈ knownKeys out, k.publicKey = key.publicKey) ∧
        ∀ r ∈ knownKeys data, r ∈ knownKeys out) ↔
      key.name.head? ≠ some '#' ∧
        ∀ r ∈ knownKeys data, r.publicKey.getLast? ≠ some '\r' := by
  obtain ⟨hnew, name, htame, hcomment, rfl⟩ := addKnownKey_some hout
  have hlast : key.publicKey.getLast? ≠ some '\r' := by
    rw [hclean]
    exact cleanKey_getLast pem
  rw [knownKeys_keyFileText (knownKeys_writable data) htame.1 (not_mem_line hclean htame)]
  constructor
  · rintro ⟨⟨k, hk, hkk⟩, hall⟩
    -- A key that ends in a carriage return comes back without it: the longest one is lost
    have hreturn : ∀ r ∈ knownKeys data, r.publicKey.getLast? ≠ some '\r' := by
      intro r hr hbad
      obtain ⟨lost, hmem, hgone, hend⟩ := longest_lost hr hbad
      rcases List.mem_append.mp (hall lost hmem) with hold | hlate
      · exact hgone hold
      · split at hlate
        · cases hlate
        · rw [List.mem_singleton] at hlate
          rw [hlate, HeadsetKey.read, stripReturn_of_ne hlast] at hend
          exact hlast hend
    refine ⟨?_, hreturn⟩
    intro hhash
    -- Behind a comment mark the new record is not read, and no old one has its key
    rw [if_pos (hcomment.mpr hhash), List.append_nil] at hk
    obtain ⟨x, hx, rfl⟩ := List.mem_map.mp hk
    refine hnew x hx ?_
    rw [← hkk, HeadsetKey.read, stripReturn_of_ne (hreturn x hx)]
  · rintro ⟨hname, hreturn⟩
    rw [if_neg (fun h => hname (hcomment.mp h))]
    refine ⟨⟨_, List.mem_append_right _ (List.mem_singleton.mpr rfl), stripReturn_of_ne hlast⟩, ?_⟩
    intro r hr
    refine List.mem_append_left _ (List.mem_map.mpr ⟨r, hr, ?_⟩)
    rw [HeadsetKey.read, stripReturn_of_ne (hreturn r hr)]

theorem remembered_iff_quest :
    ∃ out, addKnownKey true true "Pico\tK1\n".toList ⟨"K2".toList, "Pico".toList⟩ = some out ∧
      ((∃ k ∈ knownKeys out, k.publicKey = "K2".toList) ∧
          ∀ r ∈ knownKeys "Pico\tK1\n".toList, r ∈ knownKeys out) := by
  refine ⟨_, rfl, ?_⟩
  refine (@remembered_iff true true _ _ "K2".toList ⟨"K2".toList, "Pico".toList⟩
    rfl rfl).mpr ⟨by decide, ?_⟩
  decide

/-- A headset that calls itself `#1` has to pair again. -/
theorem comment_name_forgotten :
    ∃ out, addKnownKey true true [] ⟨cleanKey "K1".toList, "#1".toList⟩ = some out ∧
      ¬ ∃ k ∈ knownKeys out, k.publicKey = cleanKey "K1".toList := by
  refine ⟨_, rfl, ?_⟩
  decide

end WivrnNx
