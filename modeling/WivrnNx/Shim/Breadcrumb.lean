import Mathlib.Data.Nat.Digits.Defs
import WivrnNx.Lib.LazyLock
import WivrnNx.Lib.Runs

/-!
# The shim's own log

`breadcrumb` runs on any thread of the game or of vrserver, before anything else of the
driver is set up: its lock is made by the first thread that comes, the path of the log is
looked for under it by the first that gets in, and each line is opened, appended and closed
on its own. A step of a thread here is one access to what the threads share.
-/

namespace WivrnNx.Breadcrumb

/-- What `snprintf` leaves in a buffer of that size, its terminator aside. -/
def snprintf (size : ℕ) (text : List Char) : List Char := text.take (size - 1)

/-- A number under `%<width>u`, padded with `pad`. -/
def number (width : ℕ) (pad : Char) (n : ℕ) : List Char :=
  List.leftpad width pad (Nat.toDigits 10 n)

structure SystemTime where
  year : UInt16
  month : UInt16
  day : UInt16
  hour : UInt16
  minute : UInt16
  second : UInt16
  milliseconds : UInt16
deriving Repr, DecidableEq

/-- What stands before the message: the time, the process and the thread. -/
def stamp (now : SystemTime) (pid tid : UInt32) : List Char :=
  number 4 '0' now.year.toNat ++ ['-'] ++ number 2 '0' now.month.toNat ++ ['-'] ++
    number 2 '0' now.day.toNat ++ [' '] ++ number 2 '0' now.hour.toNat ++ [':'] ++
    number 2 '0' now.minute.toNat ++ [':'] ++ number 2 '0' now.second.toNat ++ ['.'] ++
    number 3 '0' now.milliseconds.toNat ++ [' ', '[', 'p', 'i', 'd', ' '] ++
    number 5 ' ' pid.toNat ++ [' ', 't', 'i', 'd', ' '] ++ number 5 ' ' tid.toNat ++ [']', ' ']

/-- A text as `%s` takes it. -/
def cString (text : List Char) : List Char := text.takeWhile (· ≠ '\x00')

def newline : List Char := ['\r', '\n']

/-- `message[900]` and `line[1024]` of `breadcrumb`. -/
def formatLine (now : SystemTime) (pid tid : UInt32) (text : List Char) : List Char :=
  snprintf 1024 (stamp now pid tid ++ cString (snprintf 900 text) ++ newline)

/-- What `resolve_path` finds: the two variables, and the files that can be opened. -/
structure Environment where
  programData : Option (List Char)
  temp : Option (List Char)
  opens : List Char → Bool

def maxPath : ℕ := 260

def driverLog (base : List Char) : List Char :=
  snprintf (maxPath * 2)
    (snprintf (maxPath * 2) (base ++ "\\wivrnnx".toList) ++ "\\driver.log".toList)

def tempLog (base : List Char) : List Char :=
  snprintf (maxPath * 2) (base ++ "\\wivrnnx-driver.log".toList)

/-- One of the two places of `resolve_path`. -/
def candidate (value : Option (List Char)) (name : List Char → List Char)
    (opens : List Char → Bool) : Option (List Char) :=
  value.bind fun base =>
    if opens (name base) then some (snprintf (maxPath * 2) (name base)) else none

def resolvePath (e : Environment) : Option (List Char) :=
  (candidate e.programData driverLog e.opens).or (candidate e.temp tempLog e.opens)

/-- What the banner tells of the process. -/
structure Host where
  date : List Char
  time : List Char
  hostPath : List Char
  modulePath : List Char
  address : List Char
deriving Repr, DecidableEq

def orUnknown (path : List Char) : List Char := if path = [] then ['?'] else path

def bannerLines (pid : UInt32) (h : Host) : List (List Char) :=
  ["================ wivrnnx driver session ================".toList,
    "built ".toList ++ h.date ++ " ".toList ++ h.time ++ ", host process ".toList ++
      orUnknown h.hostPath ++ " (pid ".toList ++ number 0 ' ' pid.toNat ++ ")".toList,
    "module ".toList ++ orUnknown h.modulePath ++ " loaded at ".toList ++ h.address]

/-! ## Threads -/

/-- Where a thread stands under the lock. -/
inductive Stage
  | resolving
  | probing
  | acting
  | done
deriving Repr, DecidableEq

inductive Work
  | line (text : List Char)
  | beginSession
  | path
deriving Repr, DecidableEq

structure Thread where
  work : Option Work
  stage : Stage
  /-- The local `first` of `breadcrumb_begin_session`. -/
  first : Bool
  /-- The breadcrumbs that it has still to leave. -/
  banner : List (List Char)
deriving Repr, DecidableEq

def Thread.idle : Thread := ⟨none, .resolving, false, []⟩

/-- A line that came to the file, or did not: how much of it was written. -/
structure Try where
  tid : UInt32
  line : List Char
  wrote : Option ℕ
deriving Repr, DecidableEq

structure State where
  lock : LazyLock.State UInt32
  path : List Char
  pathResolved : Bool
  sessionStarted : Bool
  /-- What was appended, with the path it was appended at. -/
  file : List (List Char × List Char)
  threads : UInt32 → Thread
  /-- What was to be logged, by whom. -/
  asked : List (UInt32 × List Char)
  tried : List Try
  probes : ℕ
  banners : ℕ
  /-- What `breadcrumb_path` returned. -/
  returned : List (List Char)

def init : State where
  lock := LazyLock.init
  path := []
  pathResolved := false
  sessionStarted := false
  file := []
  threads _ := .idle
  asked := []
  tried := []
  probes := 0
  banners := 0
  returned := []

inductive Action
  /-- A call of `breadcrumb`; no text where the formatting failed. -/
  | breadcrumb (text : Option (List Char)) (now : SystemTime)
  | beginSession
  | breadcrumbPath
  /-- The next breadcrumb of the banner. -/
  | banner (formats : Bool) (now : SystemTime)
  | lock (m : LazyLock.Move)
  | resolve
  | probe (e : Environment)
  | act (wrote : Option ℕ)
  | leave (h : Host)

def State.put (s : State) (tid : UInt32) (t : Thread) : State :=
  { s with threads := Function.update s.threads tid t }

/-- A thread that comes to `lock_acquire` with something to do. -/
def start (s : State) (tid : UInt32) (work : Work) (banner : List (List Char)) : Option State :=
  (LazyLock.step s.lock tid .acquire).map fun lock =>
    { s with lock := lock }.put tid ⟨some work, .resolving, false, banner⟩

/-- `breadcrumb` up to the lock. -/
def crumb (pid : UInt32) (s : State) (tid : UInt32) (text : Option (List Char))
    (now : SystemTime) (banner : List (List Char)) : Option State :=
  match text with
  | none => some (s.put tid { s.threads tid with banner := banner })
  | some text =>
    let line := formatLine now pid tid text
    start { s with asked := s.asked ++ [(tid, line)] } tid (.line line) banner

/-- `resolve_path` up to the flag that says it was called. -/
def resolve (s : State) (tid : UInt32) : State :=
  if s.pathResolved then s.put tid { s.threads tid with stage := .acting }
  else { s with pathResolved := true }.put tid { s.threads tid with stage := .probing }

def probe (s : State) (tid : UInt32) (e : Environment) : State :=
  { s with path := (resolvePath e).getD s.path, probes := s.probes + 1 }.put tid
    { s.threads tid with stage := .acting }

/-- What a try leaves at the path. -/
def Try.chunk (path : List Char) (t : Try) : Option (List Char × List Char) :=
  t.wrote.map fun n => (path, t.line.take n)

/-- `write_line`. -/
def writeLine (s : State) (tid : UInt32) (line : List Char) (wrote : Option ℕ) : State :=
  let t : Try := ⟨tid, line, if s.path = [] then none else wrote⟩
  { s with file := s.file ++ (t.chunk s.path).toList, tried := s.tried ++ [t] }

/-- What each of the three calls does under the lock, the path being known. -/
def act (s : State) (tid : UInt32) (work : Work) (wrote : Option ℕ) : State :=
  let t := s.threads tid
  match work with
  | .line line => (writeLine s tid line wrote).put tid { t with stage := .done }
  | .beginSession =>
    if s.sessionStarted then s.put tid { t with stage := .done }
    else
      { s with sessionStarted := true, banners := s.banners + 1 }.put tid
        { t with stage := .done, first := true }
  | .path => s.put tid { t with stage := .done }

/-- `lock_release` and the return. -/
def leave (pid : UInt32) (s : State) (tid : UInt32) (h : Host) : Option State :=
  let t := s.threads tid
  (LazyLock.step s.lock tid .leave).map fun lock =>
    { s with
      lock := lock
      returned := s.returned ++ if t.work = some Work.path then [s.path] else [] }.put tid
        ⟨none, .resolving, false, if t.first then bannerLines pid h else t.banner⟩

def step (pid : UInt32) (s : State) : UInt32 × Action → Option State
  | (tid, .breadcrumb text now) =>
    if (s.threads tid).work = none ∧ (s.threads tid).banner = [] then
      crumb pid s tid text now []
    else none
  | (tid, .beginSession) =>
    if (s.threads tid).work = none ∧ (s.threads tid).banner = [] then
      start s tid .beginSession []
    else none
  | (tid, .breadcrumbPath) =>
    if (s.threads tid).work = none ∧ (s.threads tid).banner = [] then start s tid .path []
    else none
  | (tid, .banner formats now) =>
    match (s.threads tid).work, (s.threads tid).banner with
    | none, text :: rest => crumb pid s tid (if formats then some text else none) now rest
    | _, _ => none
  | (tid, .lock m) =>
    if m ≠ .acquire ∧ m ≠ .leave then
      (LazyLock.step s.lock tid m).map fun lock => { s with lock := lock }
    else none
  | (tid, .resolve) =>
    if s.lock.phase tid = .inside ∧ (s.threads tid).stage = .resolving then
      some (resolve s tid)
    else none
  | (tid, .probe e) => if (s.threads tid).stage = .probing then some (probe s tid e) else none
  | (tid, .act wrote) =>
    if (s.threads tid).stage = .acting then
      (s.threads tid).work.map fun work => act s tid work wrote
    else none
  | (tid, .leave h) => if (s.threads tid).stage = .done then leave pid s tid h else none

/-! ## Lines -/

theorem number_length {width digits n : ℕ} (pad : Char) (h : n < 10 ^ digits)
    (hdigits : 0 < digits) : (number width pad n).length ≤ max width digits := by
  rw [number, List.length_leftpad]
  exact max_le_max_left width (Nat.toDigits_length 10 n digits hdigits h)

theorem word_length {width : ℕ} (hwidth : width ≤ 5) (n : UInt16) :
    (number width '0' n.toNat).length ≤ 5 := by
  have hlength : (number width '0' n.toNat).length ≤ max width 5 :=
    number_length '0' (n.toNat_lt.trans (by norm_num : 2 ^ 16 < 10 ^ 5)) (by norm_num)
  omega

theorem dword_length (n : UInt32) : (number 5 ' ' n.toNat).length ≤ 10 :=
  (number_length ' ' (n.toNat_lt.trans (by norm_num : 2 ^ 32 < 10 ^ 10)) (by norm_num)).trans
    (by norm_num)

theorem stamp_length (now : SystemTime) (pid tid : UInt32) : (stamp now pid tid).length ≤ 74 := by
  have hyear := word_length (by norm_num : 4 ≤ 5) now.year
  have hmonth := word_length (by norm_num : 2 ≤ 5) now.month
  have hday := word_length (by norm_num : 2 ≤ 5) now.day
  have hhour := word_length (by norm_num : 2 ≤ 5) now.hour
  have hminute := word_length (by norm_num : 2 ≤ 5) now.minute
  have hsecond := word_length (by norm_num : 2 ≤ 5) now.second
  have hmilliseconds := word_length (by norm_num : 3 ≤ 5) now.milliseconds
  have hpid := dword_length pid
  have htid := dword_length tid
  simp only [stamp, List.length_append, List.length_cons, List.length_nil]
  omega

/-- A line with nothing cut off but what does not fit the 900 characters of a message. -/
def Whole (pid tid : UInt32) (line : List Char) : Prop :=
  ∃ (now : SystemTime) (text : List Char), line = stamp now pid tid ++ cString (text.take 899) ++ newline

theorem formatLine_whole (now : SystemTime) (pid tid : UInt32) (text : List Char) :
    Whole pid tid (formatLine now pid tid text) := by
  refine ⟨now, text, List.take_of_length_le ?_⟩
  have hstamp := stamp_length now pid tid
  have hmessage : (cString (snprintf 900 text)).length ≤ 899 :=
    (List.takeWhile_prefix _).length_le.trans (List.length_take_le 899 text)
  simp only [List.length_append, newline, List.length_cons, List.length_nil]
  omega

/-! ## The invariant -/

/-- What a thread has still to try. -/
def Thread.pending (t : Thread) : List (List Char) :=
  match t.work, t.stage with
  | some (.line _), .done => []
  | some (.line line), _ => [line]
  | _, _ => []

/-- The lines that one thread was to log, and those it tried. -/
def State.askedBy (s : State) (tid : UInt32) : List (List Char) :=
  s.asked.filterMap fun e => if e.1 = tid then some e.2 else none

def State.triedBy (s : State) (tid : UInt32) : List (List Char) :=
  s.tried.filterMap fun t => if t.tid = tid then some t.line else none

/-- The path is not known yet, and nothing was done with it. -/
structure Blank (s : State) : Prop where
  path : s.path = []
  probes : s.probes = 0
  tried : s.tried = []
  returned : s.returned = []

structure Inv (pid : UInt32) (s : State) : Prop where
  lock : LazyLock.Inv s.lock
  working : ∀ tid, (s.threads tid).work = none ↔ s.lock.phase tid = .outside
  under : ∀ tid, (s.threads tid).stage ≠ .resolving → s.lock.phase tid = .inside
  unresolved : s.pathResolved = false → Blank s ∧ ∀ tid, (s.threads tid).stage = .resolving
  probing : ∀ tid, (s.threads tid).stage = .probing → Blank s
  probes : s.probes ≤ 1
  file : s.file = s.tried.filterMap (Try.chunk s.path)
  returned : ∀ path ∈ s.returned, path = s.path
  banners : s.banners = s.sessionStarted.toNat
  lines : ∀ tid, s.triedBy tid ++ (s.threads tid).pending = s.askedBy tid
  whole : ∀ e ∈ s.asked, Whole pid e.1 e.2
  unopened : s.path = [] → ∀ t ∈ s.tried, t.wrote = none

theorem init_inv (pid : UInt32) : Inv pid init where
  lock := LazyLock.init_inv
  working _ := iff_of_true rfl rfl
  under _ h := absurd rfl h
  unresolved _ := ⟨⟨rfl, rfl, rfl, rfl⟩, fun _ => rfl⟩
  probing _ h := by cases h
  probes := Nat.zero_le 1
  file := rfl
  returned _ h := by cases h
  banners := rfl
  lines _ := rfl
  whole _ h := by cases h
  unopened _ _ h := by cases h

section Step

variable {pid : UInt32} {s s' : State} {tid : UInt32}

theorem Inv.inside (h : Inv pid s) (hstage : (s.threads tid).stage ≠ .resolving) :
    s.lock.phase tid = .inside ∧ ∃ work, (s.threads tid).work = some work := by
  have hinside := h.under tid hstage
  refine ⟨hinside, Option.ne_none_iff_exists'.mp ?_⟩
  rw [Ne, h.working tid, hinside]
  decide

/-- Past the probe the path stays what it is. -/
theorem Inv.resolved (h : Inv pid s) (hstage : (s.threads tid).stage ≠ .resolving) :
    s.pathResolved = true := by
  by_contra hnot
  exact hstage ((h.unresolved (Bool.eq_false_iff.mpr hnot)).2 tid)

/-- Only one thread is past `resolving`. -/
theorem Inv.others (h : Inv pid s) (hinside : s.lock.phase tid = .inside) :
    ∀ other, other ≠ tid → (s.threads other).stage = .resolving := by
  intro other hne
  by_contra hstage
  exact hne (h.lock.exclusive (h.under other hstage) hinside)

theorem lines_same {asked tried : UInt32 → List (List Char)} {threads : UInt32 → Thread}
    {t : Thread} (h : ∀ other, tried other ++ (threads other).pending = asked other)
    (ht : t.pending = (threads tid).pending) :
    ∀ other, tried other ++ (Function.update threads tid t other).pending = asked other := by
  refine (Function.forall_update_iff threads fun other t => tried other ++ t.pending =
    asked other).mpr ⟨?_, fun other _ => h other⟩
  rw [ht]
  exact h tid

/-- A thread that comes to the lock with something new to log, or nothing. -/
theorem start_inv {work : Work} {banner : List (List Char)} (new : List (List Char)) (h : Inv pid s)
    (hwork : (s.threads tid).work = none)
    (hnew : (⟨some work, .resolving, false, banner⟩ : Thread).pending = new)
    (hwhole : ∀ line ∈ new, Whole pid tid line)
    (hstep : start { s with asked := s.asked ++ new.map fun line => (tid, line) } tid work banner =
      some s') : Inv pid s' := by
  obtain ⟨lock, hlock, rfl⟩ := Option.map_eq_some_iff.mp hstep
  obtain ⟨houtside, hexchanging⟩ := LazyLock.step_acquire hlock
  have hother : ∀ other, other ≠ tid → lock.phase other = s.lock.phase other := by
    intro other hne
    exact LazyLock.step_other hlock hne
  have hidle : (s.threads tid).pending = [] := by rw [Thread.pending, hwork]
  refine ⟨LazyLock.step_inv h.lock hlock, ?_, ?_, ?_, ?_, h.probes, h.file, h.returned, h.banners,
    ?_, ?_, h.unopened⟩
  · refine (Function.forall_update_iff s.threads fun other t =>
      t.work = none ↔ lock.phase other = .outside).mpr ⟨?_, ?_⟩
    · rw [hexchanging]
      exact iff_of_false (by rintro ⟨⟩) (by decide)
    · intro other hne
      rw [hother other hne]
      exact h.working other
  · refine (Function.forall_update_iff s.threads fun other t =>
      t.stage ≠ .resolving → lock.phase other = .inside).mpr ⟨fun hstage => absurd rfl hstage, ?_⟩
    intro other hne
    rw [hother other hne]
    exact h.under other
  · intro hunresolved
    obtain ⟨⟨hpath, hprobes, htried, hreturned⟩, hstages⟩ := h.unresolved hunresolved
    refine ⟨⟨hpath, hprobes, htried, hreturned⟩, ?_⟩
    exact (Function.forall_update_iff s.threads fun _ t => t.stage = .resolving).mpr
      ⟨rfl, fun other _ => hstages other⟩
  · refine (Function.forall_update_iff s.threads fun _ t => t.stage = .probing → Blank _).mpr
      ⟨by rintro ⟨⟩, ?_⟩
    intro other _ hprobing
    obtain ⟨hpath, hprobes, htried, hreturned⟩ := h.probing other hprobing
    exact ⟨hpath, hprobes, htried, hreturned⟩
  · refine (Function.forall_update_iff s.threads fun other t =>
      s.triedBy other ++ t.pending =
        List.filterMap (fun e => if e.1 = other then some e.2 else none)
          (s.asked ++ new.map fun line => (tid, line))).mpr ⟨?_, ?_⟩
    · have hmine : (new.map fun line => (tid, line)).filterMap
          (fun e => if e.1 = tid then some e.2 else none) = new := by
        simp [List.filterMap_map, Function.comp_def]
      have hlines := h.lines tid
      rw [hidle, List.append_nil] at hlines
      rw [List.filterMap_append, hmine, hnew, hlines]
      rfl
    · intro other hne
      have hnone : (new.map fun line => (tid, line)).filterMap
          (fun e => if e.1 = other then some e.2 else none) = [] := by
        simp [List.filterMap_map, Function.comp_def, hne.symm]
      rw [List.filterMap_append, hnone, List.append_nil]
      exact h.lines other
  · intro e he
    rcases List.mem_append.mp he with hold | hadded
    · exact h.whole e hold
    · obtain ⟨line, hline, rfl⟩ := List.mem_map.mp hadded
      exact hwhole line hline

theorem crumb_inv {text : Option (List Char)} {now : SystemTime} {banner : List (List Char)}
    (h : Inv pid s) (hwork : (s.threads tid).work = none)
    (hstep : crumb pid s tid text now banner = some s') : Inv pid s' := by
  cases text with
  | none =>
    -- The thread only has one breadcrumb of its banner less
    cases hstep
    have hkept : ∀ {p : UInt32 → Thread → Prop}, (∀ other, p other (s.threads other)) →
        p tid { s.threads tid with banner := banner } →
        ∀ other, p other (Function.update s.threads tid { s.threads tid with banner := banner }
          other) := by
      intro p hp ht
      exact (Function.forall_update_iff s.threads p).mpr ⟨ht, fun other _ => hp other⟩
    refine ⟨h.lock, ?_, ?_, ?_, ?_, h.probes, h.file, h.returned, h.banners, ?_, h.whole,
      h.unopened⟩
    · exact hkept (p := fun other t => t.work = none ↔ s.lock.phase other = .outside) h.working
        (h.working tid)
    · exact hkept (p := fun other t => t.stage ≠ .resolving → s.lock.phase other = .inside) h.under
        (h.under tid)
    · intro hunresolved
      obtain ⟨⟨hpath, hprobes, htried, hreturned⟩, hstages⟩ := h.unresolved hunresolved
      exact ⟨⟨hpath, hprobes, htried, hreturned⟩,
        hkept (p := fun _ t => t.stage = .resolving) hstages (hstages tid)⟩
    · refine hkept (p := fun _ t => t.stage = .probing → Blank _) ?_ ?_
      · intro other hprobing
        obtain ⟨hpath, hprobes, htried, hreturned⟩ := h.probing other hprobing
        exact ⟨hpath, hprobes, htried, hreturned⟩
      · intro hprobing
        obtain ⟨hpath, hprobes, htried, hreturned⟩ := h.probing tid hprobing
        exact ⟨hpath, hprobes, htried, hreturned⟩
    · exact lines_same h.lines rfl
  | some text =>
    refine start_inv [formatLine now pid tid text] h hwork rfl ?_ hstep
    intro line hline
    rw [List.mem_singleton.mp hline]
    exact formatLine_whole now pid tid text

/-- A thread on its way to the lock. -/
theorem lock_inv {m : LazyLock.Move} {lock : LazyLock.State UInt32} (h : Inv pid s)
    (hm : m ≠ .acquire ∧ m ≠ .leave) (hlock : LazyLock.step s.lock tid m = some lock) :
    Inv pid { s with lock := lock } := by
  obtain ⟨houtside, hinside, houtside'⟩ := LazyLock.step_between hm hlock
  refine ⟨LazyLock.step_inv h.lock hlock, ?_, ?_, ?_, ?_, h.probes, h.file, h.returned, h.banners,
    h.lines, h.whole, h.unopened⟩
  · intro other
    by_cases hsame : other = tid
    · rw [hsame, h.working tid]
      exact iff_of_false houtside houtside'
    · rw [h.working other, LazyLock.step_other hlock hsame]
  · intro other hstage
    have hunder := h.under other hstage
    by_cases hsame : other = tid
    · rw [hsame] at hunder
      exact absurd hunder hinside
    · show lock.phase other = .inside
      rw [LazyLock.step_other hlock hsame]
      exact hunder
  · intro hunresolved
    obtain ⟨⟨hpath, hprobes, htried, hreturned⟩, hstages⟩ := h.unresolved hunresolved
    exact ⟨⟨hpath, hprobes, htried, hreturned⟩, hstages⟩
  · intro other hprobing
    obtain ⟨hpath, hprobes, htried, hreturned⟩ := h.probing other hprobing
    exact ⟨hpath, hprobes, htried, hreturned⟩

/-- What a thread under the lock does to the rest, as long as it has the lock. -/
theorem inside_inv {s₁ : State} {t : Thread} (h : Inv pid s)
    (hinside : s.lock.phase tid = .inside) (hlock : s₁.lock = s.lock)
    (hthreads : s₁.threads = s.threads) (hasked : s₁.asked = s.asked)
    (hwork : t.work = (s.threads tid).work) (hresolved : s₁.pathResolved = true)
    (hprobing : t.stage = .probing → Blank (s₁.put tid t)) (hprobes : s₁.probes ≤ 1)
    (hfile : s₁.file = s₁.tried.filterMap (Try.chunk s₁.path))
    (hreturned : ∀ path ∈ s₁.returned, path = s₁.path)
    (hbanners : s₁.banners = s₁.sessionStarted.toNat)
    (hlines : s₁.triedBy tid ++ t.pending = s.askedBy tid)
    (hothers : ∀ other, other ≠ tid → s₁.triedBy other = s.triedBy other)
    (hunopened : s₁.path = [] → ∀ t ∈ s₁.tried, t.wrote = none) : Inv pid (s₁.put tid t) := by
  refine ⟨?_, ?_, ?_, ?_, ?_, hprobes, hfile, hreturned, hbanners, ?_, ?_, hunopened⟩
  · show LazyLock.Inv s₁.lock
    rw [hlock]
    exact h.lock
  · refine (Function.forall_update_iff s₁.threads fun other t =>
      t.work = none ↔ s₁.lock.phase other = .outside).mpr ⟨?_, ?_⟩
    · rw [hwork, hlock]
      exact h.working tid
    · intro other _
      rw [hthreads, hlock]
      exact h.working other
  · refine (Function.forall_update_iff s₁.threads fun other t =>
      t.stage ≠ .resolving → s₁.lock.phase other = .inside).mpr ⟨?_, ?_⟩
    · intro _
      rw [hlock]
      exact hinside
    · intro other _
      rw [hthreads, hlock]
      exact h.under other
  · intro hunresolved
    cases hresolved.symm.trans hunresolved
  · refine (Function.forall_update_iff s₁.threads fun _ t => t.stage = .probing → Blank _).mpr
      ⟨hprobing, ?_⟩
    intro other hne hstage
    rw [hthreads, h.others hinside other hne] at hstage
    cases hstage
  · refine (Function.forall_update_iff s₁.threads fun other t =>
      s₁.triedBy other ++ t.pending = s₁.askedBy other).mpr ⟨?_, ?_⟩
    · rw [hlines, State.askedBy, State.askedBy, hasked]
    · intro other hne
      rw [hothers other hne, hthreads, h.lines other, State.askedBy, State.askedBy, hasked]
  · show ∀ e ∈ s₁.asked, Whole pid e.1 e.2
    rw [hasked]
    exact h.whole

theorem pending_acting {t : Thread} {stage : Stage} (hbefore : t.stage ≠ .done)
    (hafter : stage ≠ .done) : Thread.pending { t with stage := stage } = t.pending := by
  obtain ⟨work, before, first, banner⟩ := t
  rcases work with _ | _ | _ | _
  · rfl
  · cases before with
    | done => exact absurd rfl hbefore
    | _ =>
      cases stage with
      | done => exact absurd rfl hafter
      | _ => rfl
  · rfl
  · rfl

theorem resolve_inv (h : Inv pid s) (hinside : s.lock.phase tid = .inside)
    (hstage : (s.threads tid).stage = .resolving) : Inv pid (resolve s tid) := by
  have hpending : ∀ stage, stage ≠ .done →
      s.triedBy tid ++ Thread.pending { s.threads tid with stage := stage } = s.askedBy tid := by
    intro stage hdone
    rw [pending_acting (by rw [hstage]; decide) hdone]
    exact h.lines tid
  unfold resolve
  by_cases hresolved : s.pathResolved
  · rw [if_pos hresolved]
    exact inside_inv h hinside rfl rfl rfl rfl hresolved (by rintro ⟨⟩) h.probes h.file h.returned
      h.banners (hpending .acting (by decide)) (fun _ _ => rfl) h.unopened
  · rw [if_neg hresolved]
    obtain ⟨⟨hpath, hprobes, htried, hreturned⟩, -⟩ :=
      h.unresolved (Bool.eq_false_iff.mpr hresolved)
    exact inside_inv h hinside rfl rfl rfl rfl rfl (fun _ => ⟨hpath, hprobes, htried, hreturned⟩)
      h.probes h.file h.returned h.banners (hpending .probing (by decide)) (fun _ _ => rfl)
      h.unopened

theorem probe_inv (h : Inv pid s) (hstage : (s.threads tid).stage = .probing) (e : Environment) :
    Inv pid (probe s tid e) := by
  have hnot : (s.threads tid).stage ≠ .resolving := by
    rw [hstage]
    decide
  obtain ⟨hpath, hprobes, htried, hreturned⟩ := h.probing tid hstage
  have hfile : s.file = [] := by rw [h.file, htried]; rfl
  have hlines := h.lines tid
  rw [← pending_acting (by rw [hstage]; decide) (show Stage.acting ≠ .done by decide)] at hlines
  refine inside_inv h (h.under tid hnot) rfl rfl rfl rfl (h.resolved hnot) (by rintro ⟨⟩) ?_ ?_ ?_
    h.banners hlines (fun _ _ => rfl) ?_
  · show s.probes + 1 ≤ 1
    rw [hprobes]
  · show s.file = s.tried.filterMap _
    rw [hfile, htried]
    rfl
  · intro path hmem
    rw [hreturned] at hmem
    cases hmem
  · intro _ t ht
    rw [htried] at ht
    cases ht

theorem act_inv {work : Work} (h : Inv pid s) (hstage : (s.threads tid).stage = .acting)
    (hwork : (s.threads tid).work = some work) (wrote : Option ℕ) :
    Inv pid (act s tid work wrote) := by
  have hnot : (s.threads tid).stage ≠ .resolving := by
    rw [hstage]
    decide
  have hinside := h.under tid hnot
  have hresolved := h.resolved hnot
  have hlines := h.lines tid
  cases work with
  | line line =>
    have hpending : (s.threads tid).pending = [line] := by rw [Thread.pending, hwork, hstage]
    have hdone : Thread.pending { s.threads tid with stage := .done } = [] := by
      rw [Thread.pending, hwork]
    rw [hpending] at hlines
    refine inside_inv h hinside rfl rfl rfl rfl hresolved (by rintro ⟨⟩) h.probes ?_ h.returned
      h.banners ?_ ?_ ?_
    · show s.file ++ _ = (s.tried ++ [_]).filterMap (Try.chunk s.path)
      rw [List.filterMap_append, ← h.file]
      congr 1
    · rw [hdone, List.append_nil, ← hlines, State.triedBy, writeLine, List.filterMap_append]
      simp [State.triedBy]
    · intro other hne
      rw [State.triedBy, writeLine, List.filterMap_append]
      simp [State.triedBy, hne.symm]
    · intro hpath t ht
      rcases List.mem_append.mp ht with hold | hnew
      · exact h.unopened hpath t hold
      · rw [List.mem_singleton.mp hnew]
        exact if_pos hpath
  | beginSession =>
    have hdone : ∀ first banner, Thread.pending ⟨(s.threads tid).work, .done, first, banner⟩ =
        (s.threads tid).pending := by
      intro first banner
      rw [Thread.pending, Thread.pending, hwork]
    unfold act
    dsimp only
    by_cases hstarted : s.sessionStarted
    · rw [if_pos hstarted]
      exact inside_inv h hinside rfl rfl rfl rfl hresolved (by rintro ⟨⟩) h.probes h.file
        h.returned h.banners (by rw [hdone]; exact hlines) (fun _ _ => rfl) h.unopened
    · rw [if_neg hstarted]
      have hnone : s.banners = 0 := by rw [h.banners, Bool.eq_false_iff.mpr hstarted]; rfl
      exact inside_inv h hinside rfl rfl rfl rfl hresolved (by rintro ⟨⟩) h.probes h.file
        h.returned (congrArg (· + 1) hnone) (by rw [hdone]; exact hlines) (fun _ _ => rfl)
        h.unopened
  | path =>
    have hdone : Thread.pending { s.threads tid with stage := .done } = (s.threads tid).pending := by
      rw [Thread.pending, Thread.pending, hwork]
    exact inside_inv h hinside rfl rfl rfl rfl hresolved (by rintro ⟨⟩) h.probes h.file
      h.returned h.banners (by rw [hdone]; exact hlines) (fun _ _ => rfl) h.unopened

theorem leave_inv {host : Host} (h : Inv pid s) (hstage : (s.threads tid).stage = .done)
    (hstep : leave pid s tid host = some s') : Inv pid s' := by
  obtain ⟨lock, hlock, rfl⟩ := Option.map_eq_some_iff.mp hstep
  obtain ⟨hinside, houtside⟩ := LazyLock.step_leave hlock
  have hresolved : s.pathResolved = true := by
    refine h.resolved (?_ : (s.threads tid).stage ≠ .resolving)
    rw [hstage]
    decide
  have hstages := h.others hinside
  have hother : ∀ other, other ≠ tid → lock.phase other = s.lock.phase other := by
    intro other hne
    exact LazyLock.step_other hlock hne
  have hpending : (s.threads tid).pending = [] := by
    rw [Thread.pending, hstage]
    rcases (s.threads tid).work with _ | _ | _ | _ <;> rfl
  refine ⟨LazyLock.step_inv h.lock hlock, ?_, ?_, ?_, ?_, h.probes, h.file, ?_, h.banners, ?_,
    h.whole, h.unopened⟩
  · refine (Function.forall_update_iff s.threads fun other t =>
      t.work = none ↔ lock.phase other = .outside).mpr ⟨iff_of_true rfl houtside, ?_⟩
    intro other hne
    rw [hother other hne]
    exact h.working other
  · refine (Function.forall_update_iff s.threads fun other t =>
      t.stage ≠ .resolving → lock.phase other = .inside).mpr ⟨fun hnot => absurd rfl hnot, ?_⟩
    intro other hne hnot
    exact absurd (hstages other hne) hnot
  · intro hunresolved
    cases hresolved.symm.trans hunresolved
  · refine (Function.forall_update_iff s.threads fun _ t => t.stage = .probing → Blank _).mpr
      ⟨by rintro ⟨⟩, ?_⟩
    intro other hne hprobing
    rw [hstages other hne] at hprobing
    cases hprobing
  · intro path hmem
    rcases List.mem_append.mp hmem with hold | hnew
    · exact h.returned path hold
    · split at hnew
      · exact List.mem_singleton.mp hnew
      · cases hnew
  · exact lines_same h.lines hpending.symm

theorem step_inv (a : UInt32 × Action) (h : Inv pid s) (hstep : step pid s a = some s') :
    Inv pid s' := by
  obtain ⟨tid, a⟩ := a
  have hsame : s = { s with asked := s.asked ++ List.map (fun line => (tid, line)) [] } := by
    simp
  cases a with
  | breadcrumb text now =>
    simp only [step, Option.ite_none_right_eq_some] at hstep
    exact crumb_inv h hstep.1.1 hstep.2
  | beginSession =>
    simp only [step, Option.ite_none_right_eq_some] at hstep
    rw [hsame] at hstep
    exact start_inv [] h hstep.1.1 rfl (by rintro _ ⟨⟩) hstep.2
  | breadcrumbPath =>
    simp only [step, Option.ite_none_right_eq_some] at hstep
    rw [hsame] at hstep
    exact start_inv [] h hstep.1.1 rfl (by rintro _ ⟨⟩) hstep.2
  | banner formats now =>
    simp only [step] at hstep
    split at hstep
    · rename_i hwork _
      exact crumb_inv h hwork hstep
    · cases hstep
  | lock m =>
    simp only [step, Option.ite_none_right_eq_some, Option.map_eq_some_iff] at hstep
    obtain ⟨hm, lock, hlock, rfl⟩ := hstep
    exact lock_inv h hm hlock
  | resolve =>
    simp only [step, Option.ite_none_right_eq_some, Option.some.injEq] at hstep
    obtain ⟨⟨hinside, hstage⟩, rfl⟩ := hstep
    exact resolve_inv h hinside hstage
  | probe e =>
    simp only [step, Option.ite_none_right_eq_some, Option.some.injEq] at hstep
    obtain ⟨hstage, rfl⟩ := hstep
    exact probe_inv h hstage e
  | act wrote =>
    simp only [step, Option.ite_none_right_eq_some, Option.map_eq_some_iff] at hstep
    obtain ⟨hstage, work, hwork, rfl⟩ := hstep
    exact act_inv h hstage hwork wrote
  | leave host =>
    simp only [step, Option.ite_none_right_eq_some] at hstep
    exact leave_inv h hstep.1 hstep.2

end Step

/-! ## Progress -/

def Stage.left : Stage → ℕ
  | .resolving => 4
  | .probing => 3
  | .acting => 2
  | .done => 1

/-- How many of its own steps a thread is from leaving the lock, if it need not sleep. -/
def State.left (s : State) (tid : UInt32) : ℕ :=
  match s.lock.phase tid with
  | .outside => 0
  | .inside => (s.threads tid).stage.left
  | phase => 4 + phase.distance

/-- A step that brings its thread nearer to the end of its call; to wake up is one only
when the lock is there by then. -/
def Advances (s : State) (a : UInt32 × Action) (s' : State) : Prop :=
  s'.left a.1 < s.left a.1 ∧ (a.2 = .lock .wake → s.lock.word ≠ .initialising)

theorem inside_left {s : State} {tid : UInt32} {t : Thread} (hinside : s.lock.phase tid = .inside) :
    (s.put tid t).left tid = t.stage.left := by
  show (match s.lock.phase tid with
    | .outside => 0
    | .inside => (Function.update s.threads tid t tid).stage.left
    | phase => 4 + phase.distance) = t.stage.left
  rw [hinside, Function.update_self]

/-- The thread that has the lock is never held up. -/
theorem inside_advances {pid : UInt32} {s : State} {tid : UInt32} (h : Inv pid s)
    (hinside : s.lock.phase tid = .inside) :
    ∃ a s', step pid s (tid, a) = some s' ∧ Advances s (tid, a) s' := by
  have hleft : s.left tid = (s.threads tid).stage.left := by rw [State.left, hinside]
  obtain ⟨work, hwork⟩ : ∃ work, (s.threads tid).work = some work := by
    refine Option.ne_none_iff_exists'.mp ?_
    rw [Ne, h.working tid, hinside]
    decide
  cases hstage : (s.threads tid).stage with
  | resolving =>
    refine ⟨.resolve, _, if_pos ⟨hinside, hstage⟩, ?_, by rintro ⟨⟩⟩
    rw [hleft, hstage]
    unfold resolve
    split
    · rw [inside_left hinside]
      simp [Stage.left]
    · rw [inside_left (by exact hinside)]
      simp [Stage.left]
  | probing =>
    refine ⟨.probe ⟨none, none, fun _ => false⟩, _, if_pos hstage, ?_, by rintro ⟨⟩⟩
    rw [hleft, hstage, probe, inside_left (by exact hinside)]
    simp [Stage.left]
  | acting =>
    refine ⟨.act none, act s tid work none, ?_, ?_, by rintro ⟨⟩⟩
    · rw [step, if_pos hstage, hwork]
      rfl
    · rw [hleft, hstage]
      cases work with
      | line line =>
        rw [act, inside_left (by exact hinside)]
        simp [Stage.left]
      | beginSession =>
        unfold act
        dsimp only
        split
        · rw [inside_left hinside]
          simp [Stage.left]
        · rw [inside_left (by exact hinside)]
          simp [Stage.left]
      | path =>
        rw [act, inside_left hinside]
        simp [Stage.left]
  | done =>
    have hlock : LazyLock.step s.lock tid .leave =
        some ({ s.lock with owner := none }.go tid .outside) := if_pos hinside
    obtain ⟨s', hs'⟩ : ∃ s', leave pid s tid ⟨[], [], [], [], []⟩ = some s' := by
      rw [leave, hlock]
      exact ⟨_, rfl⟩
    refine ⟨.leave ⟨[], [], [], [], []⟩, s', (if_pos hstage).trans hs', ?_, by rintro ⟨⟩⟩
    obtain ⟨lock, hlock', rfl⟩ := Option.map_eq_some_iff.mp hs'
    have houtside := (LazyLock.step_leave hlock').2
    rw [hleft, hstage]
    simp [State.left, State.put, houtside, Stage.left]

/-- While any call is on, some thread advances in its own. -/
theorem advances {pid : UInt32} {s : State} (h : Inv pid s) {tid : UInt32}
    (hcall : (s.threads tid).work ≠ none) :
    ∃ a s', step pid s a = some s' ∧ Advances s a s' := by
  have hphase : s.lock.phase tid ≠ .outside := by
    rw [Ne, ← h.working tid]
    exact hcall
  rcases LazyLock.progress h.lock hphase with ⟨other, hinside⟩ | ⟨other, m, lock, hlock, hless, hwake⟩
  · obtain ⟨a, s', hstep, hadvances⟩ := inside_advances h hinside
    exact ⟨(other, a), s', hstep, hadvances⟩
  · have hm : m ≠ .acquire ∧ m ≠ .leave := by
      constructor
      · rintro rfl
        obtain ⟨hbefore, -⟩ := LazyLock.step_acquire hlock
        rw [hbefore] at hless
        exact Nat.not_lt_zero _ hless
      · rintro rfl
        obtain ⟨hbefore, -⟩ := LazyLock.step_leave hlock
        rw [hbefore] at hless
        exact Nat.not_lt_zero _ hless
    obtain ⟨houtside, hnot, houtside'⟩ := LazyLock.step_between hm hlock
    refine ⟨(other, .lock m), { s with lock := lock }, ?_, ?_, ?_⟩
    · rw [step, if_pos hm, hlock]
      rfl
    · have hfresh : (s.threads other).stage = .resolving := by
        by_contra hstage
        exact hnot (h.under other hstage)
      show State.left { s with lock := lock } other < s.left other
      rw [State.left, State.left]
      cases hbefore : s.lock.phase other <;> cases hafter : lock.phase other <;>
        rw [hbefore, hafter] at hless <;>
        simp_all [LazyLock.Phase.distance, Stage.left]
    · intro heq
      cases heq
      exact hwake rfl

/-! ## The log -/

/-- What the log can be relied on for. -/
structure Sound (pid : UInt32) (s : State) : Prop where
  /-- The lock is made once, and nobody enters it before. -/
  made : s.lock.made ≤ 1 ∧ ∀ tid, LazyLock.Past (s.lock.phase tid) → s.lock.made = 1
  exclusive : ∀ tid other, s.lock.phase tid = .inside → s.lock.phase other = .inside → tid = other
  /-- The path is looked for once, and whoever asked for it was told the same. -/
  path : s.probes ≤ 1 ∧ ∀ path ∈ s.returned, path = s.path
  banners : s.banners ≤ 1
  /-- The file holds what was tried, line by line, and only at the one path. -/
  file : s.file = s.tried.filterMap (Try.chunk s.path) ∧ (s.path = [] → s.file = [])
  /-- Every line of a thread is tried once, in the thread's order, as it was to be. -/
  lines : ∀ tid, s.triedBy tid ++ (s.threads tid).pending = s.askedBy tid
  whole : ∀ e ∈ s.asked, Whole pid e.1 e.2
  /-- No call is held up for good. -/
  live : ∀ tid, (s.threads tid).work ≠ none → ∃ a s', step pid s a = some s' ∧ Advances s a s'

/-- Two threads log at once; the second finds the lock being made and sleeps. -/
def twoLines : List (UInt32 × Action) :=
  let now : SystemTime := ⟨2025, 11, 19, 12, 0, 0, 7⟩
  [(1, .breadcrumb (some ['a']) now), (2, .breadcrumb (some ['b']) now), (1, .lock .exchange),
    (2, .lock .exchange), (1, .lock .make), (1, .lock .publish), (2, .lock .wake),
    (2, .lock .exchange), (2, .lock .enter), (2, .resolve),
    (2, .probe ⟨some ['C', ':'], none, fun _ => true⟩), (2, .act (some 1024)),
    (2, .leave ⟨[], [], [], [], []⟩), (1, .lock .enter), (1, .resolve), (1, .act (some 1024))]

end WivrnNx.Breadcrumb
