import Mathlib.Tactic

/-!
# Packed little-endian layouts

A layout keeps a value in a fixed number of bytes, some of which are padding. What is
written is read back whatever follows it, and what is read is written back as it was but
for the padding, which is written as zeros. Layouts are put together from words, padding,
pairs and arrays, and every one carries the proof of both.

- `Packed`: a layout with its laws;
- `word`, `uint8`, `uint32`, `uint64`, `pad`, `pair`, `array`, `map`: how to build one;
- `put_injective`, `get_eq_iff`: what the laws say about two values and two buffers.
-/

variable {α β : Type*}

/-- The bytes of `n`, the lowest first. -/
def leBytes : ℕ → ℕ → List UInt8
  | 0, _ => []
  | width + 1, n => UInt8.ofNat n :: leBytes width (n / 256)

/-- The number that some bytes stand for, the lowest first. -/
def leValue : List UInt8 → ℕ
  | [] => 0
  | b :: bytes => b.toNat + 256 * leValue bytes

@[simp] theorem length_leBytes (width n : ℕ) : (leBytes width n).length = width := by
  induction width generalizing n with
  | zero => rfl
  | succ width ih => rw [leBytes, List.length_cons, ih]

theorem leValue_lt (bytes : List UInt8) : leValue bytes < 256 ^ bytes.length := by
  induction bytes with
  | nil => decide
  | cons b bytes ih =>
    have hb := b.toNat_lt
    rw [leValue, List.length_cons, pow_succ]
    omega

theorem leValue_leBytes {width n : ℕ} (h : n < 256 ^ width) : leValue (leBytes width n) = n := by
  induction width generalizing n with
  | zero =>
    rw [pow_zero] at h
    rw [leBytes, leValue]
    omega
  | succ width ih =>
    have hhigh : n / 256 < 256 ^ width := by
      rw [pow_succ] at h
      omega
    have hlow : (UInt8.ofNat n).toNat = n % 256 := UInt8.toNat_ofNat'
    rw [leBytes, leValue, ih hhigh, hlow]
    omega

theorem leBytes_leValue (bytes : List UInt8) :
    leBytes bytes.length (leValue bytes) = bytes := by
  induction bytes with
  | nil => rfl
  | cons b bytes ih =>
    have hb := b.toNat_lt
    have hlow : UInt8.ofNat (b.toNat + 256 * leValue bytes) = b := by
      apply UInt8.toNat_inj.mp
      rw [UInt8.toNat_ofNat']
      omega
    have hhigh : (b.toNat + 256 * leValue bytes) / 256 = leValue bytes := by omega
    rw [List.length_cons, leValue, leBytes, hlow, hhigh, ih]

/-- The bytes with zeros where `mask` says that there is only padding. -/
def blank (mask : List Bool) (bytes : List UInt8) : List UInt8 :=
  List.zipWith (fun kept b => if kept then b else 0) mask bytes

theorem blank_append {mask mask' : List Bool} {bytes bytes' : List UInt8}
    (h : bytes.length = mask.length) :
    blank (mask ++ mask') (bytes ++ bytes') = blank mask bytes ++ blank mask' bytes' :=
  List.zipWith_append h.symm

theorem blank_true (bytes : List UInt8) :
    blank (List.replicate bytes.length true) bytes = bytes := by
  induction bytes with
  | nil => rfl
  | cons b bytes ih =>
    rw [List.length_cons, List.replicate_succ, blank, List.zipWith_cons_cons]
    exact congrArg (b :: ·) ih

theorem blank_false (bytes : List UInt8) :
    blank (List.replicate bytes.length false) bytes = List.replicate bytes.length 0 := by
  induction bytes with
  | nil => rfl
  | cons b bytes ih =>
    rw [List.length_cons, List.replicate_succ, blank, List.zipWith_cons_cons,
      List.replicate_succ]
    exact congrArg (0 :: ·) ih

/-- A layout of `α`: the mask has one entry for each byte, false for padding. -/
structure Packed (α : Type*) where
  mask : List Bool
  put : α → List UInt8
  get : List UInt8 → α
  length_put : ∀ a, (put a).length = mask.length
  get_put : ∀ a rest, get (put a ++ rest) = a
  put_get : ∀ bytes, bytes.length = mask.length → put (get bytes) = blank mask bytes
  get_take : ∀ bytes rest, bytes.length = mask.length → get (bytes ++ rest) = get bytes

namespace Packed

/-- `sizeof`. -/
def size (p : Packed α) : ℕ := p.mask.length

theorem length_put' (p : Packed α) (a : α) : (p.put a).length = p.size := p.length_put a

@[simp] theorem get_put' (p : Packed α) (a : α) : p.get (p.put a) = a := by
  simpa using p.get_put a []

theorem put_injective (p : Packed α) : Function.Injective p.put := by
  intro a b h
  rw [← p.get_put' a, h, p.get_put']

/-- Two buffers of the right size are read as the same value exactly if they differ in the
padding alone. -/
theorem get_eq_iff (p : Packed α) {bytes bytes' : List UInt8} (h : bytes.length = p.size)
    (h' : bytes'.length = p.size) :
    p.get bytes = p.get bytes' ↔ blank p.mask bytes = blank p.mask bytes' := by
  constructor
  · intro hget
    rw [← p.put_get bytes h, hget, p.put_get bytes' h']
  · intro hblank
    have hread := congrArg p.get (p.put_get bytes h)
    rw [hblank, ← p.put_get bytes' h', p.get_put', p.get_put'] at hread
    exact hread

/-! ## How layouts are built -/

/-- A word of `width` bytes, as a value that a number below `256 ^ width` stands for. -/
def word (width : ℕ) (toNat : α → ℕ) (ofNat : ℕ → α) (hlt : ∀ a, toNat a < 256 ^ width)
    (hof : ∀ a, ofNat (toNat a) = a) (hto : ∀ n, n < 256 ^ width → toNat (ofNat n) = n) :
    Packed α where
  mask := List.replicate width true
  put a := leBytes width (toNat a)
  get bytes := ofNat (leValue (bytes.take width))
  length_put a := by rw [length_leBytes, List.length_replicate]
  get_put a rest := by
    rw [List.take_left' (length_leBytes width _), leValue_leBytes (hlt a), hof]
  put_get bytes h := by
    rw [List.length_replicate] at h
    have hvalue := leValue_lt bytes
    rw [h] at hvalue
    rw [List.take_of_length_le h.le, hto _ hvalue, ← h, leBytes_leValue, blank_true]
  get_take bytes rest h := by
    rw [List.length_replicate] at h
    rw [List.take_left' h, List.take_of_length_le h.le]

def uint8 : Packed UInt8 :=
  word 1 UInt8.toNat UInt8.ofNat (fun a => a.toNat_lt) (fun _ => UInt8.ofNat_toNat)
    (fun _ h => by rw [UInt8.toNat_ofNat']; exact Nat.mod_eq_of_lt h)

def uint32 : Packed UInt32 :=
  word 4 UInt32.toNat UInt32.ofNat (fun a => a.toNat_lt) (fun _ => UInt32.ofNat_toNat)
    (fun _ h => by rw [UInt32.toNat_ofNat']; exact Nat.mod_eq_of_lt h)

def uint64 : Packed UInt64 :=
  word 8 UInt64.toNat UInt64.ofNat (fun a => a.toNat_lt) (fun _ => UInt64.ofNat_toNat)
    (fun _ h => by rw [UInt64.toNat_ofNat']; exact Nat.mod_eq_of_lt h)

/-- Bytes that nothing is kept in. -/
def pad (n : ℕ) : Packed Unit where
  mask := List.replicate n false
  put _ := List.replicate n 0
  get _ := ()
  length_put _ := by rw [List.length_replicate, List.length_replicate]
  get_put _ _ := rfl
  put_get bytes h := by
    rw [List.length_replicate] at h
    rw [← h, blank_false]
  get_take _ _ _ := rfl

theorem get_take' (p : Packed α) {bytes : List UInt8} (rest : List UInt8)
    (h : p.size ≤ bytes.length) : p.get (bytes ++ rest) = p.get (bytes.take p.size) := by
  have hfirst : (bytes.take p.size).length = p.mask.length := List.length_take_of_le h
  conv_lhs => rw [← List.take_append_drop p.size bytes, List.append_assoc]
  exact p.get_take _ _ hfirst

/-- One after the other. -/
def pair (p : Packed α) (q : Packed β) : Packed (α × β) where
  mask := p.mask ++ q.mask
  put a := p.put a.1 ++ q.put a.2
  get bytes := (p.get bytes, q.get (bytes.drop p.size))
  length_put a := by rw [List.length_append, List.length_append, p.length_put, q.length_put]
  get_put a rest := by
    rw [List.append_assoc, p.get_put, List.drop_left' (p.length_put' a.1), q.get_put]
  put_get bytes h := by
    rw [List.length_append] at h
    have hle : p.size ≤ bytes.length := h ▸ Nat.le_add_right _ _
    have hfirst : (bytes.take p.size).length = p.mask.length := List.length_take_of_le hle
    have hsecond : (bytes.drop p.size).length = q.mask.length := by
      rw [List.length_drop, size]
      omega
    have hread := p.get_take' [] hle
    rw [List.append_nil] at hread
    rw [hread, p.put_get _ hfirst, q.put_get _ hsecond, ← blank_append hfirst,
      List.take_append_drop]
  get_take bytes rest h := by
    rw [List.length_append] at h
    have hle : p.size ≤ bytes.length := h ▸ Nat.le_add_right _ _
    have hsecond : (bytes.drop p.size).length = q.mask.length := by
      rw [List.length_drop, size]
      omega
    have hread := p.get_take' [] hle
    rw [List.append_nil] at hread
    rw [p.get_take' rest hle, hread, List.drop_append_of_le_length hle, q.get_take _ _ hsecond]

/-- The same bytes, read as something else. -/
def map (p : Packed α) (read : α → β) (write : β → α) (hread : ∀ b, read (write b) = b)
    (hwrite : ∀ a, write (read a) = a) : Packed β where
  mask := p.mask
  put b := p.put (write b)
  get bytes := read (p.get bytes)
  length_put b := p.length_put (write b)
  get_put b rest := by rw [p.get_put, hread]
  put_get bytes h := by rw [hwrite, p.put_get bytes h]
  get_take bytes rest h := by rw [p.get_take bytes rest h]

/-- `n` of them in a row. -/
def array (p : Packed α) : (n : ℕ) → Packed (Fin n → α)
  | 0 => (pad 0).map (fun _ => Fin.elim0) (fun _ => ()) (fun _ => funext fun i => i.elim0)
      (fun _ => rfl)
  | n + 1 => (p.pair (array p n)).map (fun a => Fin.cons a.1 a.2) (fun f => (f 0, Fin.tail f))
      (fun f => Fin.cons_self_tail f) (fun _ => rfl)

@[simp] theorem size_word (width : ℕ) (toNat : α → ℕ) (ofNat : ℕ → α)
    (hlt : ∀ a, toNat a < 256 ^ width) (hof : ∀ a, ofNat (toNat a) = a)
    (hto : ∀ n, n < 256 ^ width → toNat (ofNat n) = n) :
    (word width toNat ofNat hlt hof hto).size = width := List.length_replicate

@[simp] theorem size_pad (n : ℕ) : (pad n).size = n := List.length_replicate

@[simp] theorem size_pair (p : Packed α) (q : Packed β) :
    (p.pair q).size = p.size + q.size := List.length_append

@[simp] theorem size_array (p : Packed α) (n : ℕ) : (p.array n).size = n * p.size := by
  induction n with
  | zero => rw [Nat.zero_mul]; rfl
  | succ n ih =>
    change (p.pair (p.array n)).size = _
    rw [size_pair, ih]
    ring

end Packed
