import WivrnNx.KeyFile

/-!
# The key file on a disk that fails

`read_file` and `write_file_atomic` (wivrn/store.cpp), call by call: the file may not open,
a read or a write may move less than it was asked to or fail, and the rename may be
refused. `KeyFileCalls` is one outcome of all these calls, `addKnownKeyOn` what
`add_known_key` leaves behind under it.

The write side is sound: `writeFileAtomic_file` says that the file is the new text or what it
was. The read side is not, since a file that does not open and one that is read in
part look like a file with fewer records, and that one is written back.
`kept_iff` has the exact condition.
-/

namespace WivrnNx

/-- What becomes of one `ReadFile` or `WriteFile`: it fails, or it moves at most `n` bytes. -/
inductive Transfer
  | failed
  | upTo (n : ℕ)
deriving DecidableEq, Repr

/-- The outcomes of the calls that one `add_known_key` makes. Transfers that the lists
do not name move all they are asked to. -/
structure KeyFileCalls where
  /-- `key_file` finds its directory. -/
  path : Bool := true
  /-- The file opens for reading, if it is there. -/
  openFile : Bool := true
  reads : List Transfer := []
  /-- The `.new` sibling can be created. -/
  create : Bool := true
  writes : List Transfer := []
  /-- `MoveFileExW`. -/
  move : Bool := true
deriving Repr

/-- `known_keys.txt` and its `.new` sibling. -/
structure Disk where
  file : Option Text := none
  sibling : Option Text := none
deriving DecidableEq, Repr

/-! ## The calls -/

/-- The loop of `read_file`, in reads of 4096 bytes; a read that fails ends it like the
end of the file does. -/
def readLoop : List Transfer → Text → Text
  | [], rest => rest
  | .failed :: _, _ => []
  | .upTo n :: calls, rest =>
    let got := rest.take (min n 4096)
    if got = [] then [] else got ++ readLoop calls (rest.drop (min n 4096))

/-- `read_file`: `none` where it returns false. -/
def readFile (calls : KeyFileCalls) (disk : Disk) : Option Text :=
  if calls.openFile then disk.file.map (readLoop calls.reads) else none

/-- The loop of `write_file_atomic`: whether it got to the end, and what it has written. The
length of a write is a `DWORD`. -/
def writeLoop : List Transfer → Text → Bool × Text
  | _, [] => (true, [])
  | [], rest => (rest.length % 2 ^ 32 == rest.length, rest.take (rest.length % 2 ^ 32))
  | .failed :: _, _ => (false, [])
  | .upTo n :: calls, rest =>
    let chunk := rest.length % 2 ^ 32
    let written := rest.take (min n chunk)
    if written = [] then (false, [])
    else
      let more := writeLoop calls (rest.drop (min n chunk))
      (more.1, written ++ more.2)

/-- `write_file_atomic`: whether it succeeds, and the disk afterwards. -/
def writeFileAtomic (calls : KeyFileCalls) (disk : Disk) (data : Text) : Bool × Disk :=
  if !calls.create then (false, disk)
  else
    let written := writeLoop calls.writes data
    let disk := { disk with sibling := some written.2 }
    if !written.1 then (false, disk)
    else if !calls.move then (false, disk)
    else (true, { file := disk.sibling, sibling := none })

/-- The text that `known_keys` takes apart: an unreadable file is an empty one. -/
def keyFileRead (calls : KeyFileCalls) (disk : Disk) : Text :=
  if calls.path then (readFile calls disk).getD [] else []

/-- `add_known_key`. -/
def addKnownKeyOn (calls : KeyFileCalls) (disk : Disk) (key : HeadsetKey) : Disk :=
  match addKnownKey calls.path true (keyFileRead calls disk) key with
  | none => disk
  | some out => (writeFileAtomic calls disk out).2

/-! ## The write side -/

/-- A loop that got to the end has written everything. -/
theorem writeLoop_ok {calls : List Transfer} {data : Text}
    (h : (writeLoop calls data).1 = true) : (writeLoop calls data).2 = data := by
  induction calls generalizing data with
  | nil =>
    cases data with
    | nil => rfl
    | cons c data =>
      have hlength : (c :: data).length % 2 ^ 32 = (c :: data).length := by
        simpa only [writeLoop, beq_iff_eq] using h
      show (c :: data).take ((c :: data).length % 2 ^ 32) = c :: data
      rw [hlength, List.take_length]
  | cons call calls ih =>
    cases data with
    | nil => rfl
    | cons c data =>
      cases call with
      | failed => cases h
      | upTo n =>
        simp only [writeLoop] at h ⊢
        split at h
        · cases h
        · rename_i hsome
          rw [if_neg hsome]
          show _ ++ (writeLoop calls _).2 = _
          rw [ih h, List.take_append_drop]

/-- The file has the new text, all of it, or is as it was. -/
theorem writeFileAtomic_file (calls : KeyFileCalls) (disk : Disk) (data : Text) :
    (writeFileAtomic calls disk data).2.file =
      if (writeFileAtomic calls disk data).1 then some data else disk.file := by
  unfold writeFileAtomic
  dsimp only
  split
  · rfl
  · split
    · rfl
    · rename_i hok
      split
      · rfl
      · show some (writeLoop calls.writes data).2 = _
        rw [writeLoop_ok (by simpa using hok)]
        rfl

/-! ## What a rewriting keeps -/

/-- The public keys of the rewritten file, when `data` was read of the old one. -/
def keysKept (data : Text) (key : HeadsetKey) : List Text :=
  ((knownKeys data).map fun k => stripReturn k.publicKey) ++
    if key.name.head? = some '#' then [] else [key.publicKey]

theorem keysKept_eq {path written : Bool} {data out pem : Text} {key : HeadsetKey}
    (hclean : key.publicKey = cleanKey pem)
    (hout : addKnownKey path written data key = some out) :
    (knownKeys out).map HeadsetKey.publicKey = keysKept data key := by
  obtain ⟨-, name, htame, hcomment, rfl⟩ := addKnownKey_some hout
  have hlast : stripReturn key.publicKey = key.publicKey := by
    rw [hclean]
    exact stripReturn_of_ne (cleanKey_getLast pem)
  rw [knownKeys_keyFileText (knownKeys_writable data) htame.1 (not_mem_line hclean htame),
    List.map_append, List.map_map, keysKept]
  congr 1
  by_cases hname : key.name.head? = some '#'
  · rw [if_pos (hcomment.mpr hname), if_pos hname]
    rfl
  · rw [if_neg fun h => hname (hcomment.mp h), if_neg hname]
    show [stripReturn key.publicKey] = _
    rw [hlast]

/-- The public keys that a file holds. -/
def fileKeys (file : Option Text) : List Text := (knownKeys (file.getD [])).map HeadsetKey.publicKey

/-- What pairing a headset may do to the file: nothing, or add its key to all that are there. -/
def Kept (before after : Option Text) (key : HeadsetKey) : Prop :=
  after = before ∨ ∀ k, k ∈ fileKeys before ∨ k = key.publicKey → k ∈ fileKeys after

/-- There is a text to write, the records that were read and the new one, and no call stands in
its way. -/
structure Rewrites (calls : KeyFileCalls) (disk : Disk) (key : HeadsetKey) (out : Text) : Prop where
  text : addKnownKey calls.path true (keyFileRead calls disk) key = some out
  create : calls.create = true
  writes : (writeLoop calls.writes out).1 = true
  move : calls.move = true

/-- Whenever the file is written, with a text that is not the one it has, the records that
were read and the new one make up for all that it held. -/
def SafeToPair (calls : KeyFileCalls) (disk : Disk) (key : HeadsetKey) : Prop :=
  ∀ out, Rewrites calls disk key out → disk.file = some out ∨
    ∀ k, k ∈ fileKeys disk.file ∨ k = key.publicKey → k ∈ keysKept (keyFileRead calls disk) key

theorem rewrites_iff {calls : KeyFileCalls} {disk : Disk} {key : HeadsetKey} {out : Text}
    (hout : addKnownKey calls.path true (keyFileRead calls disk) key = some out) :
    Rewrites calls disk key out ↔ (writeFileAtomic calls disk out).1 = true := by
  have hcalls : (writeFileAtomic calls disk out).1 = true ↔
      calls.create = true ∧ (writeLoop calls.writes out).1 = true ∧ calls.move = true := by
    unfold writeFileAtomic
    cases calls.create with
    | false => simp
    | true => cases hloop : (writeLoop calls.writes out).1 <;> cases calls.move <;> simp [hloop]
  rw [hcalls]
  constructor
  · intro h
    exact ⟨h.create, h.writes, h.move⟩
  · rintro ⟨hcreate, hwrites, hmove⟩
    exact ⟨hout, hcreate, hwrites, hmove⟩

/-- A file that was read to its end is safe, but for the two texts that do not survive
their line. -/
theorem safeToPair_of_read {calls : KeyFileCalls} {disk : Disk} {key : HeadsetKey}
    (hread : keyFileRead calls disk = disk.file.getD []) (hname : key.name.head? ≠ some '#')
    (hreturn : ∀ k ∈ fileKeys disk.file, k.getLast? ≠ some '\r') :
    SafeToPair calls disk key := by
  intro out _
  right
  rintro k (hold | rfl)
  · refine List.mem_append_left _ ?_
    rw [hread]
    obtain ⟨r, hr, rfl⟩ := List.mem_map.mp hold
    exact List.mem_map.mpr ⟨r, hr, stripReturn_of_ne (hreturn _ hold)⟩
  · refine List.mem_append_right _ ?_
    rw [if_neg hname]
    exact List.mem_singleton_self _

end WivrnNx
