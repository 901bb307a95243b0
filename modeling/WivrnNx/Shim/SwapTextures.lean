import WivrnNx.Lib.Numerals
import WivrnNx.Lib.Runs

/-!
# Swap texture sets

The sets of textures that the compositor asks the driver for
(shim/src/direct_mode.cpp): `CreateSwapTextureSet`, and how a set goes away again. A
texture is a COM object, counted by `refs`; a shared handle is a number, and `0` is
none. Both arguments of `CreateSwapTextureSet` are there: it returns at once otherwise.

- `create_allOrNothing_iff`: a failure at the second or third texture leaves the handles
  before it in the caller's struct;
- `run_balanced`: the textures are not lost either way.
-/

open scoped Numerals

namespace WivrnNx

namespace SwapTextures

/-- An `ID3D11Texture2D *`. -/
abbrev Texture := ℕ

/-- A `vr::SharedTextureHandle_t`. -/
abbrev SharedHandle := ℕ

/-- `SwapTextureSetDesc_t`. -/
structure Desc where
  width : UInt32
  height : UInt32
  format : UInt32
  sampleCount : UInt32
deriving DecidableEq, Repr

/-- `SwapTextureSet_t`. -/
structure Out where
  sharedTextureHandles : Fin 3 → SharedHandle
  textureFlags : UInt32
deriving DecidableEq

/-- `TextureSet`. -/
structure TextureSet where
  pid : UInt32 := 0
  textures : Fin 3 → Option Texture := fun _ => none
  handles : Fin 3 → SharedHandle := fun _ => 0
  index : Fin 3 := 0
  width : UInt32 := 0
  height : UInt32 := 0
  format : UInt32 := 0
  sampleCount : UInt32 := 0
deriving DecidableEq

/-! ## The descriptor -/

/-- `D3D11_TEXTURE2D_DESC`. -/
structure TextureDesc where
  width : UInt32
  height : UInt32
  mipLevels : UInt32 := 1
  arraySize : UInt32 := 1
  format : UInt32
  sampleCount : UInt32
  sampleQuality : UInt32 := 0
  usage : UInt32 := 0
  bindFlags : UInt32
  miscFlags : UInt32
deriving DecidableEq, Repr

/-- `D3D11_BIND_SHADER_RESOURCE`, `D3D11_BIND_RENDER_TARGET`, `D3D11_BIND_DEPTH_STENCIL` and
`D3D11_RESOURCE_MISC_SHARED`. -/
def bindShaderResource : UInt32 := 0x8
def bindRenderTarget : UInt32 := 0x20
def bindDepthStencil : UInt32 := 0x40
def miscShared : UInt32 := 0x2

/-- `DXGI_FORMAT_R32G8X24_TYPELESS` and `DXGI_FORMAT_R32_TYPELESS`. -/
def depthFormats : List UInt32 := [19, 39]

/-- What the three textures are to be. -/
def Desc.texture (d : Desc) : TextureDesc where
  width := d.width
  height := d.height
  format := d.format
  sampleCount := if d.sampleCount = 0 then 1 else d.sampleCount
  bindFlags :=
    if d.format ∈ depthFormats then bindDepthStencil else bindShaderResource ||| bindRenderTarget
  miscFlags := miscShared

/-! ## The calls -/

/-- `QueryInterface` for `IDXGIResource`; a query that fails sets its result to null. -/
inductive Query
  | failed
  | null
  | found
deriving DecidableEq, Repr

/-- What becomes of the calls for one texture. -/
structure TextureCalls where
  /-- `CreateTexture2D` returns a failure, and what it has put into the pointer. -/
  createFailed : Bool := false
  texture : Option Texture
  query : Query := .found
  /-- `GetSharedHandle`. -/
  shareFailed : Bool := false
  shared : SharedHandle
deriving DecidableEq, Repr

/-- One outcome of everything that `CreateSwapTextureSet` calls. -/
structure Calls where
  /-- `ensure_device_locked`. -/
  device : Bool := true
  /-- `new (std::nothrow) TextureSet()`. -/
  allocated : Bool := true
  texture : TextureDesc → Fin 3 → TextureCalls
  /-- `sets_.push_back`. -/
  tracked : Bool := true

/-- All the calls for one texture succeed. -/
def TextureCalls.Succeeds (c : TextureCalls) : Prop :=
  c.createFailed = false ∧ c.texture ≠ none ∧ c.query = .found ∧ c.shareFailed = false ∧
    c.shared ≠ 0

instance (c : TextureCalls) : Decidable c.Succeeds :=
  inferInstanceAs (Decidable (_ ∧ _ ∧ _ ∧ _ ∧ _))

def addRef (refs : Texture → ℕ) (t : Texture) : Texture → ℕ := Function.update refs t (refs t + 1)

def release (refs : Texture → ℕ) (t : Texture) : Texture → ℕ := Function.update refs t (refs t - 1)

/-- A set being made: the set, the handles in the caller's struct, and the references that
there are to every texture. -/
structure Build where
  set : TextureSet
  handles : Fin 3 → SharedHandle
  refs : Texture → ℕ

/-- `safe_release(set->textures[j])`. -/
def Build.safeRelease (b : Build) (j : Fin 3) : Build :=
  match b.set.textures j with
  | none => b
  | some t =>
    { b with
      set := { b.set with textures := Function.update b.set.textures j none }
      refs := release b.refs t }

/-- The loop that every failure runs. -/
def Build.releaseAll (b : Build) : Build := [0, 1, 2].foldl Build.safeRelease b

/-- One round of the loop, and whether it goes on. -/
def Build.addTexture (b : Build) (c : TextureCalls) (i : Fin 3) : Bool × Build :=
  match c.texture with
  | none => (false, b.releaseAll)
  | some t =>
    let b :=
      { b with
        set := { b.set with textures := Function.update b.set.textures i (some t) }
        refs := addRef b.refs t }
    if c.createFailed then (false, b.releaseAll)
    else if c.query = .failed ∨ c.query = .null then (false, b.releaseAll)
    else
      -- The resource is one more reference, until its handle is known
      let b := { b with refs := release (addRef b.refs t) t }
      if c.shareFailed = true ∨ c.shared = 0 then (false, b.releaseAll)
      else
        (true,
          { b with
            set := { b.set with handles := Function.update b.set.handles i c.shared }
            handles := Function.update b.handles i c.shared })

/-- The loop over the three textures. -/
def createTextures (calls : Fin 3 → TextureCalls) : List (Fin 3) → Build → Bool × Build
  | [], b => (true, b)
  | i :: rest, b =>
    let r := b.addTexture (calls i) i
    if r.1 then createTextures calls rest r.2 else r

end SwapTextures

open SwapTextures

/-- The sets of a `DirectModeComponent`, and the references to textures. -/
structure SwapTextures where
  sets : List TextureSet := []
  refs : Texture → ℕ := fun _ => 0

namespace SwapTextures

/-- `kMaxTextureSets`. -/
def maxTextureSets : ℕ := 64

/-- `CreateSwapTextureSet`: the component afterwards, and the caller's struct. -/
def create (s : SwapTextures) (pid : UInt32) (desc : Desc) (calls : Calls) : SwapTextures × Out :=
  let zero : Out := { sharedTextureHandles := fun _ => 0, textureFlags := 0 }
  if !calls.device then (s, zero)
  else if maxTextureSets ≤ s.sets.length then (s, zero)
  else if !calls.allocated then (s, zero)
  else
    let texture := desc.texture
    let set : TextureSet :=
      { pid := pid, width := texture.width, height := texture.height, format := desc.format
        sampleCount := texture.sampleCount }
    let r := createTextures (calls.texture texture) [0, 1, 2]
      { set := set, handles := zero.sharedTextureHandles, refs := s.refs }
    if !r.1 then
      ({ s with refs := r.2.refs }, { zero with sharedTextureHandles := r.2.handles })
    else if calls.tracked then
      ({ sets := s.sets ++ [r.2.set], refs := r.2.refs },
        { zero with sharedTextureHandles := r.2.handles })
    else
      -- `push_back` threw
      ({ s with refs := r.2.releaseAll.refs }, zero)

/-- `destroy_set_locked`. -/
def destroySet (s : SwapTextures) (index : ℕ) : SwapTextures :=
  match s.sets[index]? with
  | none => s
  | some set =>
    { sets := s.sets.eraseIdx index
      refs := ({ set := set, handles := set.handles, refs := s.refs } : Build).releaseAll.refs }

/-- `DestroySwapTextureSet`: any one of the three handles names the set. -/
def destroy (s : SwapTextures) (handle : SharedHandle) : SwapTextures :=
  match s.sets.findIdx? fun set => decide (∃ i, set.handles i = handle) with
  | none => s
  | some index => s.destroySet index

/-- `DestroyAllSwapTextureSets`, from the last set to the first. -/
def destroyAll (s : SwapTextures) (pid : UInt32) : SwapTextures :=
  (List.range s.sets.length).reverse.foldl
    (fun s index =>
      match s.sets[index]? with
      | none => s
      | some set => if set.pid = pid then s.destroySet index else s) s

/-! ## References -/

/-- The references of the three pointers of a set to a texture. -/
def held (textures : Fin 3 → Option Texture) (t : Texture) : ℕ :=
  ∑ i, if textures i = some t then 1 else 0

/-- Beside the references that were there before, those of the set that is being made. -/
def Build.Owns (b : Build) (base : Texture → ℕ) : Prop :=
  ∀ t, b.refs t = base t + held b.set.textures t

theorem release_addRef (refs : Texture → ℕ) (t : Texture) : release (addRef refs t) t = refs := by
  unfold release addRef
  rw [Function.update_self, Function.update_idem, Nat.add_sub_cancel, Function.update_eq_self]

/-- One pointer of a set, out of three. -/
theorem held_update (textures : Fin 3 → Option Texture) (i : Fin 3) (x : Option Texture)
    (t : Texture) :
    held (Function.update textures i x) t + (if textures i = some t then 1 else 0) =
      held textures t + if x = some t then 1 else 0 := by
  have hrest : ∀ j ∈ Finset.univ.erase i,
      (if Function.update textures i x j = some t then 1 else 0) =
        if textures j = some t then 1 else 0 := by
    intro j hj
    rw [Function.update_of_ne (Finset.ne_of_mem_erase hj)]
  have hnew := Finset.add_sum_erase Finset.univ
    (fun j => if Function.update textures i x j = some t then 1 else 0) (Finset.mem_univ i)
  have hold := Finset.add_sum_erase Finset.univ
    (fun j => if textures j = some t then 1 else 0) (Finset.mem_univ i)
  rw [Finset.sum_congr rfl hrest, Function.update_self] at hnew
  unfold held
  omega

theorem Build.Owns.safeRelease {b : Build} {base : Texture → ℕ} (h : b.Owns base) (j : Fin 3) :
    (b.safeRelease j).Owns base := by
  unfold Build.safeRelease
  split
  · exact h
  · rename_i t ht
    intro x
    have hheld := held_update b.set.textures j none x
    have hx := h x
    rw [ht, if_neg (by simp : ¬ (none : Option Texture) = some x)] at hheld
    show release b.refs t x = base x + held (Function.update b.set.textures j none) x
    by_cases hxt : x = t
    · subst hxt
      rw [if_pos rfl] at hheld
      rw [release, Function.update_self]
      omega
    · rw [if_neg (by simpa using Ne.symm hxt)] at hheld
      rw [release, Function.update_of_ne hxt]
      omega

theorem Build.Owns.addTexture {b : Build} {base : Texture → ℕ} (h : b.Owns base) {i : Fin 3}
    (hi : b.set.textures i = none) (t : Texture) (handles : Fin 3 → SharedHandle) :
    ({ set := { b.set with textures := Function.update b.set.textures i (some t) }
       handles := handles
       refs := addRef b.refs t } : Build).Owns base := by
  intro x
  have hheld := held_update b.set.textures i (some t) x
  have hx := h x
  rw [hi, if_neg (by simp : ¬ (none : Option Texture) = some x)] at hheld
  show addRef b.refs t x = base x + held (Function.update b.set.textures i (some t)) x
  by_cases hxt : x = t
  · subst hxt
    rw [if_pos rfl] at hheld
    rw [addRef, Function.update_self]
    omega
  · rw [if_neg (by simpa using Ne.symm hxt)] at hheld
    rw [addRef, Function.update_of_ne hxt]
    omega

/-- Releasing all three leaves what there was before. -/
theorem Build.Owns.releaseAll {b : Build} {base : Texture → ℕ} (h : b.Owns base) :
    b.releaseAll.refs = base ∧ b.releaseAll.handles = b.handles := by
  have howns : b.releaseAll.Owns base := ((h.safeRelease 0).safeRelease 1).safeRelease 2
  have hnone : ∀ (b : Build) (i j : Fin 3), b.set.textures i = none ∨ i = j →
      (b.safeRelease j).set.textures i = none := by
    intro b i j hi
    unfold Build.safeRelease
    by_cases hij : i = j
    · subst hij
      split
      · assumption
      · exact Function.update_self ..
    · have hi := hi.resolve_right hij
      split
      · exact hi
      · rw [← hi]
        exact Function.update_of_ne hij ..
  have hhandles : ∀ (b : Build) (j : Fin 3), (b.safeRelease j).handles = b.handles := by
    intro b j
    unfold Build.safeRelease
    split <;> rfl
  have hempty : ∀ i, b.releaseAll.set.textures i = none := by
    intro i
    show (((b.safeRelease 0).safeRelease 1).safeRelease 2).set.textures i = none
    match i with
    | 0 => exact hnone _ _ _ (.inl (hnone _ _ _ (.inl (hnone _ _ _ (.inr rfl)))))
    | 1 => exact hnone _ _ _ (.inl (hnone _ _ _ (.inr rfl)))
    | 2 => exact hnone _ _ _ (.inr rfl)
  constructor
  · funext t
    rw [howns t]
    unfold held
    simp [hempty]
  · show (((b.safeRelease 0).safeRelease 1).safeRelease 2).handles = b.handles
    rw [hhandles, hhandles, hhandles]

/-! ## The loop over the textures -/

/-- A round of the loop publishes its handle, or releases everything; the handles that were
published before are there in either case. -/
theorem addTexture_cases {b : Build} {base : Texture → ℕ} (h : b.Owns base) {i : Fin 3}
    (hi : b.set.textures i = none) (c : TextureCalls) :
    (c.Succeeds ∧ (b.addTexture c i).1 = true ∧ (b.addTexture c i).2.Owns base ∧
        (b.addTexture c i).2.handles = Function.update b.handles i c.shared ∧
        (b.addTexture c i).2.set.handles = Function.update b.set.handles i c.shared ∧
        ∀ j, j ≠ i → (b.addTexture c i).2.set.textures j = b.set.textures j) ∨
      (¬ c.Succeeds ∧ (b.addTexture c i).1 = false ∧ (b.addTexture c i).2.refs = base ∧
        (b.addTexture c i).2.handles = b.handles) := by
  unfold Build.addTexture
  cases ht : c.texture with
  | none => exact .inr ⟨fun hs => hs.2.1 ht, rfl, h.releaseAll⟩
  | some t =>
    have hadded := h.addTexture hi t b.handles
    dsimp only
    split
    · rename_i hfailed
      refine .inr ⟨fun hs => ?_, rfl, hadded.releaseAll⟩
      rw [hs.1] at hfailed
      cases hfailed
    · rename_i hcreated
      split
      · rename_i hquery
        refine .inr ⟨fun hs => ?_, rfl, hadded.releaseAll⟩
        rw [hs.2.2.1] at hquery
        simp at hquery
      · rename_i hquery
        rw [release_addRef]
        split
        · rename_i hshared
          refine .inr ⟨fun hs => ?_, rfl, hadded.releaseAll⟩
          rw [hs.2.2.2.1] at hshared
          exact hs.2.2.2.2 (by simpa using hshared)
        · rename_i hshared
          rw [not_or] at hquery hshared
          refine .inl ⟨⟨by simpa using hcreated, by rw [ht]; simp, ?_, by simpa using hshared.1,
            hshared.2⟩, rfl, hadded, rfl, rfl, fun j hj => Function.update_of_ne hj ..⟩
          cases hfound : c.query with
          | failed => exact absurd hfound hquery.1
          | null => exact absurd hfound hquery.2
          | found => rfl

/-- All three handles, or none, or some that name textures which are gone. -/
inductive LoopOutcome (calls : Fin 3 → TextureCalls) (base : Texture → ℕ) (b : Build) :
    Bool × Build → Prop
  | all (r : Build) (hall : ∀ i, (calls i).Succeeds) (howns : r.Owns base)
      (hhandles : r.handles = fun i => (calls i).shared) (hset : r.set.handles = r.handles) :
      LoopOutcome calls base b (true, r)
  | first (r : Build) (hfirst : ¬ (calls 0).Succeeds) (hrefs : r.refs = base)
      (hhandles : r.handles = b.handles) : LoopOutcome calls base b (false, r)
  | later (r : Build) (hfirst : (calls 0).Succeeds)
      (hlater : ¬ ((calls 1).Succeeds ∧ (calls 2).Succeeds)) (hrefs : r.refs = base)
      (hhandles : r.handles 0 = (calls 0).shared) : LoopOutcome calls base b (false, r)

theorem createTextures_outcome (calls : Fin 3 → TextureCalls) {b : Build} {base : Texture → ℕ}
    (h : b.Owns base) (hempty : ∀ i, b.set.textures i = none) :
    LoopOutcome calls base b (createTextures calls [0, 1, 2] b) := by
  rw [createTextures]
  rcases addTexture_cases h (hempty 0) (calls 0) with
    ⟨hok₀, hgo₀, howns₀, hout₀, hset₀, hrest₀⟩ | ⟨hbad, hstop, hrefs, hout⟩
  · generalize b.addTexture (calls 0) 0 = r₀ at *
    rw [if_pos hgo₀, createTextures]
    have hempty₁ : r₀.2.set.textures 1 = none := by rw [hrest₀ 1 (by decide), hempty]
    rcases addTexture_cases howns₀ hempty₁ (calls 1) with
      ⟨hok₁, hgo₁, howns₁, hout₁, hset₁, hrest₁⟩ | ⟨hbad, hstop, hrefs, hout⟩
    · generalize r₀.2.addTexture (calls 1) 1 = r₁ at *
      rw [if_pos hgo₁, createTextures]
      have hempty₂ : r₁.2.set.textures 2 = none := by
        rw [hrest₁ 2 (by decide), hrest₀ 2 (by decide), hempty]
      rcases addTexture_cases howns₁ hempty₂ (calls 2) with
        ⟨hok₂, hgo₂, howns₂, hout₂, hset₂, -⟩ | ⟨hbad, hstop, hrefs, hout⟩
      · generalize r₁.2.addTexture (calls 2) 2 = r₂ at *
        rw [if_pos hgo₂, createTextures]
        have hall : ∀ f : Fin 3 → SharedHandle, Function.update (Function.update
            (Function.update f 0 (calls 0).shared) 1 (calls 1).shared) 2 (calls 2).shared =
              fun i => (calls i).shared := by
          intro f
          funext i
          match i with
          | 0 => rfl
          | 1 => rfl
          | 2 => rfl
        rw [hout₁, hout₀, hall] at hout₂
        rw [hset₁, hset₀, hall] at hset₂
        refine .all r₂.2 ?_ howns₂ hout₂ (hset₂.trans hout₂.symm)
        intro i
        match i with
        | 0 => exact hok₀
        | 1 => exact hok₁
        | 2 => exact hok₂
      · -- The third texture fails, behind two handles
        generalize r₁.2.addTexture (calls 2) 2 = r₂ at *
        rw [if_neg (by rw [hstop]; exact Bool.false_ne_true)]
        rcases r₂ with ⟨go, r₂⟩
        cases hstop
        refine .later r₂ hok₀ (fun hs => hbad hs.2) hrefs ?_
        rw [hout, hout₁, hout₀]
        rfl
    · -- The second texture fails, behind one handle
      generalize r₀.2.addTexture (calls 1) 1 = r₁ at *
      rw [if_neg (by rw [hstop]; exact Bool.false_ne_true)]
      rcases r₁ with ⟨go, r₁⟩
      cases hstop
      refine .later r₁ hok₀ (fun hs => hbad hs.1) hrefs ?_
      rw [hout, hout₀]
      rfl
  · generalize b.addTexture (calls 0) 0 = r₀ at *
    rw [if_neg (by rw [hstop]; exact Bool.false_ne_true)]
    rcases r₀ with ⟨go, r₀⟩
    cases hstop
    exact .first r₀ hbad hrefs hout

/-! ## All or nothing -/

/-- Three handles of one new set, or no handle, no new set and no new reference. -/
def AllOrNothing (s s' : SwapTextures) (out : Out) : Prop :=
  ((∀ i, out.sharedTextureHandles i ≠ 0) ∧
      ∃ set : TextureSet, s'.sets = s.sets ++ [set] ∧ set.handles = out.sharedTextureHandles) ∨
    ((∀ i, out.sharedTextureHandles i = 0) ∧ s'.sets = s.sets ∧ s'.refs = s.refs)

/-- The loop is reached: there is a device, and room for a set. -/
def Calls.ReachTextures (calls : Calls) (s : SwapTextures) : Prop :=
  calls.device = true ∧ s.sets.length < maxTextureSets ∧ calls.allocated = true

/-- The empty set that the loop starts with. -/
theorem owns_empty (set : TextureSet) (hset : ∀ i, set.textures i = none)
    (handles : Fin 3 → SharedHandle) (refs : Texture → ℕ) :
    ({ set := set, handles := handles, refs := refs } : Build).Owns refs := by
  intro t
  show refs t = refs t + held set.textures t
  unfold held
  simp [hset]

/-- What `CreateSwapTextureSet` may end with. -/
inductive CreateOutcome (s : SwapTextures) (calls : Calls) (textures : Fin 3 → TextureCalls) :
    SwapTextures × Out → Prop
  | refused (hreach : ¬ calls.ReachTextures s) :
      CreateOutcome s calls textures (s, { sharedTextureHandles := fun _ => 0, textureFlags := 0 })
  | made (b : Build) (hall : ∀ i, (textures i).Succeeds) (howns : b.Owns s.refs)
      (hhandles : b.handles = fun i => (textures i).shared) (hset : b.set.handles = b.handles) :
      CreateOutcome s calls textures
        ({ sets := s.sets ++ [b.set], refs := b.refs },
          { sharedTextureHandles := b.handles, textureFlags := 0 })
  | untracked (hall : ∀ i, (textures i).Succeeds) :
      CreateOutcome s calls textures (s, { sharedTextureHandles := fun _ => 0, textureFlags := 0 })
  | first (hfirst : ¬ (textures 0).Succeeds) :
      CreateOutcome s calls textures (s, { sharedTextureHandles := fun _ => 0, textureFlags := 0 })
  | later (hreach : calls.ReachTextures s) (handles : Fin 3 → SharedHandle)
      (hfirst : (textures 0).Succeeds)
      (hlater : ¬ ((textures 1).Succeeds ∧ (textures 2).Succeeds))
      (hhandles : handles 0 = (textures 0).shared) :
      CreateOutcome s calls textures
        (s, { sharedTextureHandles := handles, textureFlags := 0 })

theorem create_outcome (s : SwapTextures) (pid : UInt32) (desc : Desc) (calls : Calls) :
    CreateOutcome s calls (calls.texture desc.texture) (s.create pid desc calls) := by
  unfold create
  dsimp only
  split
  · rename_i hdevice
    refine .refused fun h => ?_
    rw [h.1] at hdevice
    cases hdevice
  · rename_i hdevice
    split
    · rename_i hfull
      exact .refused fun h => absurd h.2.1 (by omega)
    · rename_i hroom
      split
      · rename_i halloc
        refine .refused fun h => ?_
        rw [h.2.2] at halloc
        cases halloc
      · rename_i halloc
        have hreach : calls.ReachTextures s :=
          ⟨by simpa using hdevice, by omega, by simpa using halloc⟩
        have houtcome := createTextures_outcome (calls.texture desc.texture)
          (owns_empty
            { pid := pid, width := desc.texture.width, height := desc.texture.height
              format := desc.format, sampleCount := desc.texture.sampleCount }
            (fun _ => rfl) (fun _ => 0) s.refs) (fun _ => rfl)
        revert houtcome
        generalize createTextures (calls.texture desc.texture) [0, 1, 2] _ = r
        intro houtcome
        cases houtcome with
        | all b hall howns hhandles hset =>
          cases calls.tracked with
          | true => exact .made b hall howns hhandles hset
          | false =>
            show CreateOutcome s calls _ ({ s with refs := b.releaseAll.refs }, _)
            rw [howns.releaseAll.1]
            exact .untracked hall
        | first b hfirst hrefs hhandles =>
          show CreateOutcome s calls _
            ({ s with refs := b.refs }, { sharedTextureHandles := b.handles, textureFlags := 0 })
          rw [hrefs, hhandles]
          exact .first hfirst
        | later b hfirst hlater hrefs hhandles =>
          show CreateOutcome s calls _ ({ s with refs := b.refs }, _)
          rw [hrefs]
          exact .later hreach b.handles hfirst hlater hhandles

/-- `CreateSwapTextureSet` is all or nothing exactly if no texture fails behind one whose
handle is in the caller's struct. -/
theorem create_allOrNothing_iff (s : SwapTextures) (pid : UInt32) (desc : Desc) (calls : Calls) :
    AllOrNothing s (s.create pid desc calls).1 (s.create pid desc calls).2 ↔
      (calls.ReachTextures s → (calls.texture desc.texture 0).Succeeds →
        (calls.texture desc.texture 1).Succeeds ∧ (calls.texture desc.texture 2).Succeeds) := by
  have houtcome := create_outcome s pid desc calls
  generalize s.create pid desc calls = r at *
  generalize calls.texture desc.texture = textures at *
  cases houtcome with
  | refused hreach =>
    constructor
    · intro _ h
      exact absurd h hreach
    · intro _
      exact .inr ⟨fun _ => rfl, rfl, rfl⟩
  | made b hall howns hhandles hset =>
    constructor
    · intro _ _ _
      exact ⟨hall 1, hall 2⟩
    · intro _
      refine .inl ⟨?_, b.set, rfl, hset⟩
      intro i
      show b.handles i ≠ 0
      rw [hhandles]
      exact (hall i).2.2.2.2
  | untracked hall =>
    constructor
    · intro _ _ _
      exact ⟨hall 1, hall 2⟩
    · intro _
      exact .inr ⟨fun _ => rfl, rfl, rfl⟩
  | first hfirst =>
    constructor
    · intro _ _ h
      exact absurd h hfirst
    · intro _
      exact .inr ⟨fun _ => rfl, rfl, rfl⟩
  | later hreach handles hfirst hlater hhandles =>
    constructor
    · -- The first handle is published, and there is no set
      rintro (⟨-, set, hsets, -⟩ | ⟨hzero, -, -⟩)
      · have hlength := congrArg List.length hsets
        rw [List.length_append, List.length_singleton] at hlength
        change s.sets.length = _ at hlength
        omega
      · exact absurd (hhandles.symm.trans (hzero 0)) hfirst.2.2.2.2
    · intro h
      exact absurd (h hreach hfirst) hlater

/-- Two textures, and then the device is out of memory. -/
def thirdFails : Calls where
  texture _ i := if i = 2 then { createFailed := true, texture := none, shared := 0 }
    else { texture := some i.val, shared := i.val + 1 }

/-- The caller gets two handles of textures that are gone. -/
theorem stale_handles :
    ((create {} 1 ⟨1832, 1920, 28, 1⟩ thirdFails).2.sharedTextureHandles 0 = 1 ∧
      (create {} 1 ⟨1832, 1920, 28, 1⟩ thirdFails).2.sharedTextureHandles 1 = 2 ∧
      (create {} 1 ⟨1832, 1920, 28, 1⟩ thirdFails).2.sharedTextureHandles 2 = 0) ∧
    ¬ AllOrNothing {} (create {} 1 ⟨1832, 1920, 28, 1⟩ thirdFails).1
      (create {} 1 ⟨1832, 1920, 28, 1⟩ thirdFails).2 := by
  have hhandles : (create {} 1 ⟨1832, 1920, 28, 1⟩ thirdFails).2.sharedTextureHandles 0 = 1 ∧
      (create {} 1 ⟨1832, 1920, 28, 1⟩ thirdFails).2.sharedTextureHandles 1 = 2 ∧
      (create {} 1 ⟨1832, 1920, 28, 1⟩ thirdFails).2.sharedTextureHandles 2 = 0 := by
    decide +kernel
  refine ⟨hhandles, ?_⟩
  rintro (⟨hall, -⟩ | ⟨hzero, -⟩)
  · exact hall 2 hhandles.2.2
  · exact absurd (hhandles.1.symm.trans (hzero 0)) (by decide)

/-! ## No texture is lost -/

/-- Every reference to a texture is one of a tracked set. -/
def Balanced (s : SwapTextures) : Prop :=
  ∀ t, s.refs t = (s.sets.map fun set => held set.textures t).sum

theorem create_balanced {s : SwapTextures} (h : s.Balanced) (pid : UInt32) (desc : Desc)
    (calls : Calls) : (s.create pid desc calls).1.Balanced := by
  have houtcome := create_outcome s pid desc calls
  generalize s.create pid desc calls = r at *
  cases houtcome with
  | refused hreach => exact h
  | made b hall howns hhandles hset =>
    intro t
    show b.refs t = ((s.sets ++ [b.set]).map fun set => held set.textures t).sum
    rw [howns t, h t, List.map_append, List.sum_append, List.map_singleton, List.sum_singleton]
  | untracked hall => exact h
  | first hfirst => exact h
  | later hreach handles hfirst hlater hhandles => exact h

theorem destroySet_balanced {s : SwapTextures} (h : s.Balanced) (index : ℕ) :
    (s.destroySet index).Balanced := by
  unfold destroySet
  split
  · exact h
  · rename_i set hset
    obtain ⟨hlt, hget⟩ := List.getElem?_eq_some_iff.mp hset
    -- What the set holds comes on top of the others
    have howns : ({ set := set, handles := set.handles, refs := s.refs } : Build).Owns
        fun t => ((s.sets.eraseIdx index).map fun set => held set.textures t).sum := by
      intro t
      have hperm := (List.getElem_cons_eraseIdx_perm hlt).map fun set => held set.textures t
      have hsum := hperm.sum_eq
      rw [List.map_cons, List.sum_cons, hget] at hsum
      show s.refs t = ((s.sets.eraseIdx index).map fun set => held set.textures t).sum +
        held set.textures t
      rw [h t]
      omega
    intro t
    show (Build.releaseAll _).refs t = _
    rw [howns.releaseAll.1]

/-- The calls of the compositor that make and unmake sets. -/
inductive Op
  | create (pid : UInt32) (desc : Desc) (calls : Calls)
  | destroy (handle : SharedHandle)
  | destroyAll (pid : UInt32)

def step (s : SwapTextures) : Op → SwapTextures
  | .create pid desc calls => (s.create pid desc calls).1
  | .destroy handle => s.destroy handle
  | .destroyAll pid => s.destroyAll pid

theorem step_balanced {s : SwapTextures} (h : s.Balanced) (op : Op) : (s.step op).Balanced := by
  cases op with
  | create pid desc calls => exact create_balanced h pid desc calls
  | destroy handle =>
    show (s.destroy handle).Balanced
    unfold destroy
    split
    · exact h
    · exact destroySet_balanced h _
  | destroyAll pid =>
    show (s.destroyAll pid).Balanced
    unfold destroyAll
    generalize (List.range s.sets.length).reverse = indices
    induction indices generalizing s with
    | nil => exact h
    | cons index indices ih =>
      refine ih ?_
      dsimp only
      split
      · exact h
      · split
        · exact destroySet_balanced h index
        · exact h

/-- Whatever fails, the references are those of the tracked sets. -/
theorem run_balanced {ops : List Op} {s : SwapTextures}
    (h : Runs.run (Runs.always step) {} ops = some s) : s.Balanced := by
  have hstart : Balanced {} := fun t => rfl
  refine Runs.run_invariant ?_ ops _ s hstart h
  intro s op s' hs hstep
  cases hstep
  exact step_balanced hs op

end SwapTextures

end WivrnNx
