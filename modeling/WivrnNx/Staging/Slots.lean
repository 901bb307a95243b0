import WivrnNx.Staging.Locks
import WivrnNx.Staging.Tickets

/-!
# What a slot's owner and contents are

The invariant of the staging path, over every run:

- `Ids`: a frame id is carried once, as a frame or as its answer;
- `Owned`: a frame of the current ring that is on its way owns its slot, and the
  slot of the Present thread's lease is nobody else's;
- `Drawn`: the texture of a frame on its way shows what was drawn for it.

An answer can therefore only free the slot of the frame it answers, and a slot is
only leased again, and drawn over, when no frame on its way names it.
-/

namespace WivrnNx.Staging

open Ipc VideoIntake

/-- The slot the Present thread holds, and how many eyes it has copied. -/
def PresentThread.lease? : PresentThread → Option (ℕ × ℕ)
  | .leased _ index eyes => some (index, eyes)
  | _ => none

/-- This Present has not drawn anything yet. -/
def PresentThread.undrawn : PresentThread → Bool
  | .checked _ | .building _ | .created _ | .matched _ | .announcing _ | .described _ _
  | .queueing _ _ | .ready _ => true
  | .leased _ _ eyes => eyes = 0
  | _ => false

/-- The texture a frame was drawn on. -/
def textureOf (frame : FrameReady) : TextureId := ⟨frame.generation, frame.stagingIndex⟩

namespace System

/-- The texture shows what the shim drew for the frame. -/
def Shows (s : System) (t : TextureId) (frame : FrameReady) : Prop :=
  ∃ n, s.drawnBy frame.frameId = some n ∧ s.contents t = ⟨some n, some n⟩

/-- Frame ids are given out once and carried once. -/
structure Ids (s : System) : Prop where
  nodup : (s.tickets.map Prod.fst).Nodup
  le : ∀ t ∈ s.tickets, t.1 ≤ s.frameId

/-- Who owns the slots of the current ring. -/
structure Owned (s : System) : Prop where
  leased : ∀ i, (s.ring.slots i).leased = true → ∃ eyes, s.present.lease? = some (i, eyes)
  lease : ∀ i eyes, s.present.lease? = some (i, eyes) →
    s.ring.leaseValid i = true ∧ (s.ring.slots i).helperOwned = false
  owned_slot : ∀ i, (s.ring.slots i).helperOwned = true →
    i < s.ring.count ∧ (s.ring.slots i).frameId ≤ s.frameId
  live_le : ∀ frame ∈ s.live, frame.generation ≤ s.ring.generation
  live_slot : ∀ frame ∈ s.live, frame.generation = s.ring.generation → s.ring.count ≠ 0 →
    frame.stagingIndex < s.ring.count ∧ (s.ring.slots frame.stagingIndex).helperOwned = true ∧
      (s.ring.slots frame.stagingIndex).frameId = frame.frameId
  own : ∀ frame ∈ s.live, ∀ i, (s.ring.slots i).helperOwned = true →
    (s.ring.slots i).frameId = frame.frameId →
      frame.generation = s.ring.generation ∧ frame.stagingIndex = i

/-- What the textures show. -/
structure Drawn (s : System) : Prop where
  live : ∀ frame ∈ s.live, s.Shows (textureOf frame) frame
  lease : ∀ i eyes, s.present.lease? = some (i, eyes) →
    (1 ≤ eyes → (s.contents (s.texture i)).left = some s.presents) ∧
      (2 ≤ eyes → (s.contents (s.texture i)).right = some s.presents)
  once : ∀ t t' n, (s.contents t).left = some n → (s.contents t').left = some n → t = t'
  past : ∀ t n, (s.contents t).left = some n →
    n ≤ s.presents ∧ (n = s.presents → s.present.undrawn = false)

/-- The Present thread's lease is on a keyed mutex that it holds. -/
structure Leases (s : System) : Prop where
  locked : s.Locked
  shim : ∀ i eyes, s.present.lease? = some (i, eyes) → (s.mutexes (s.texture i)).Holds .shim

/-- The invariant of the staging path. -/
structure Inv (s : System) : Prop where
  ids : s.Ids
  owned : s.Owned
  drawn : s.Drawn
  leases : s.Leases

theorem init_inv (hasEncoder : Bool) : (init hasEncoder).Inv where
  ids := ⟨by simp [init, tickets, System.live, VideoIntake.live, answers, PresentThread.frame?,
      EncoderThread.frame?],
    by simp [init, tickets, System.live, VideoIntake.live, answers, PresentThread.frame?,
      EncoderThread.frame?]⟩
  owned :=
    { leased := by simp [init]
      lease := by simp [init, PresentThread.lease?]
      owned_slot := by simp [init]
      live_le := by simp [init, System.live, VideoIntake.live, PresentThread.frame?,
        EncoderThread.frame?]
      live_slot := by simp [init]
      own := by simp [init] }
  drawn :=
    { live := by simp [init, System.live, VideoIntake.live, PresentThread.frame?,
        EncoderThread.frame?]
      lease := by simp [init, PresentThread.lease?]
      once := by simp [init]
      past := by simp [init] }
  leases :=
    { locked :=
        { steady := .inl ⟨by simp [init], fun k => by simp [init]⟩
          helper := by simp [init, heldTextures] }
      shim := by simp [init, PresentThread.lease?] }

/-! ## Steps of the other threads -/

theorem Ids.of_le {s s' : System} (hi : s.Ids) (htickets : s'.tickets ≤ s.tickets)
    (hframeId : s'.frameId = s.frameId) : s'.Ids where
  nodup := Multiset.nodup_of_le (Multiset.map_le_map htickets) hi.nodup
  le t ht := hframeId ▸ hi.le t (Multiset.mem_of_le htickets ht)

/-- Two tickets that are both under way are for different frames. -/
theorem Ids.disjoint {s : System} (hi : s.Ids) {rest : Multiset (ℕ × ℕ)} {owner : ℕ × ℕ}
    (htickets : s.tickets = rest + {owner}) {t : ℕ × ℕ} (ht : t ∈ rest) : t.1 ≠ owner.1 := by
  intro heq
  have hnodup := hi.nodup
  rw [htickets, Multiset.map_add, Multiset.map_singleton, add_comm, Multiset.singleton_add,
    Multiset.nodup_cons] at hnodup
  exact hnodup.1 (Multiset.mem_map.mpr ⟨t, ht, heq⟩)

/-- The slots of a ring after a step of another thread: as they were, but for one
that the answer to its own frame freed. -/
def Freed (s s' : System) : Prop :=
  s'.ring.generation = s.ring.generation ∧ s'.ring.count = s.ring.count ∧
    ∀ i, s'.ring.slots i = s.ring.slots i ∨
      (s.ring.slots i).helperOwned = true ∧
      s'.ring.slots i = { s.ring.slots i with helperOwned := false, frameId := 0 } ∧
        ∀ frame ∈ s'.live, frame.frameId ≠ (s.ring.slots i).frameId

theorem Freed.markStale {s s' : System}
    (h : s'.ring = s.ring ∨ s'.ring = s.ring.markStale) : Freed s s' := by
  rcases h with h | h
  · exact ⟨by rw [h], by rw [h], fun i => .inl (by rw [h])⟩
  · exact ⟨by simp [h], by simp [h], fun i => .inl (by simp [h])⟩

theorem Quiet.freed {s s' : System} (hi : s.Ids) (hq : Quiet s s') : Freed s s' := by
  obtain ⟨spent, lost, htickets, -, ⟨-, hring⟩ | ⟨done, hspent, hring⟩⟩ := hq.ledger
  · exact .markStale hring
  · rcases s.ring.onFrameDone_cases done with hsame | ⟨-, howned, hid, hfreed⟩
    · exact .markStale (.inl (by rw [hring, hsame]))
    · rw [hfreed] at hring
      refine ⟨by simp [hring], by simp [hring], fun i => ?_⟩
      by_cases hi' : i = done.stagingIndex
      · -- The slot of the answered frame, which nobody carries any more
        subst hi'
        refine .inr ⟨howned, by simp [hring], fun frame hframe => ?_⟩
        rw [hid]
        have hsplit : s.tickets = s'.tickets + lost + {doneTicket done} := by
          rw [← htickets, hspent, add_assoc, add_comm lost]
        have hmem := Multiset.mem_add.mpr (.inl (ticket_mem hframe) : _ ∨ ticket frame ∈ lost)
        exact hi.disjoint hsplit hmem
      · exact .inl (by rw [hring, FrameStagingRing.setSlot_of_ne _ _ hi'])

theorem Owned.freed {s s' : System} (ho : s.Owned) (hf : Freed s s') (hlive : s'.live ≤ s.live)
    (hlease : s'.present.lease? = s.present.lease?) (hframeId : s'.frameId = s.frameId) :
    s'.Owned := by
  obtain ⟨hgen, hcount, hslots⟩ := hf
  have hleased : ∀ i, (s'.ring.slots i).leased = (s.ring.slots i).leased ∧
      (s'.ring.slots i).mutex = (s.ring.slots i).mutex := by
    intro i
    rcases hslots i with h | ⟨-, h, -⟩ <;> simp [h]
  refine ⟨?_, ?_, ?_, ?_, ?_, ?_⟩
  · intro i hi
    rw [hlease]
    exact ho.leased i ((hleased i).1 ▸ hi)
  · intro i eyes hi
    obtain ⟨hvalid, howned⟩ := ho.lease i eyes (hlease ▸ hi)
    refine ⟨by simpa [FrameStagingRing.leaseValid, hcount, hleased i] using hvalid, ?_⟩
    rcases hslots i with h | ⟨-, h, -⟩
    · rw [h]
      exact howned
    · rw [h]
  · intro i hi
    rcases hslots i with h | ⟨-, h, -⟩
    · rw [h] at hi ⊢
      exact ⟨hcount ▸ (ho.owned_slot i hi).1, hframeId ▸ (ho.owned_slot i hi).2⟩
    · rw [h] at hi
      cases hi
  · intro frame hframe
    exact hgen ▸ ho.live_le frame (Multiset.mem_of_le hlive hframe)
  · intro frame hframe hframeGen hne
    obtain ⟨hlt, howned, hid⟩ := ho.live_slot frame (Multiset.mem_of_le hlive hframe)
      (hframeGen.trans hgen) (hcount ▸ hne)
    rcases hslots frame.stagingIndex with h | ⟨-, -, hother⟩
    · rw [h, hcount]
      exact ⟨hlt, howned, hid⟩
    · exact (hother frame hframe hid.symm).elim
  · intro frame hframe i hi hid
    rw [hgen]
    rcases hslots i with h | ⟨-, h, -⟩
    · rw [h] at hi hid
      exact ho.own frame (Multiset.mem_of_le hlive hframe) i hi hid
    · rw [h] at hi
      cases hi

theorem Drawn.same {s s' : System} (hd : s.Drawn) (hlive : s'.live ≤ s.live)
    (hlease : ∀ i eyes, s'.present.lease? = some (i, eyes) →
      s.present.lease? = some (i, eyes) ∧ s'.texture i = s.texture i ∧ s'.presents = s.presents)
    (hcontents : s'.contents = s.contents) (hdrawnBy : s'.drawnBy = s.drawnBy)
    (hpresents : s'.presents = s.presents + 1 ∨ s'.presents = s.presents ∧
      (s'.present.undrawn = true → s.present.undrawn = true)) : s'.Drawn where
  live frame hframe := by
    have hshows := hd.live frame (Multiset.mem_of_le hlive hframe)
    simpa only [Shows, hcontents, hdrawnBy] using hshows
  lease i eyes hi := by
    obtain ⟨hi', htexture, heq⟩ := hlease i eyes hi
    rw [hcontents, htexture, heq]
    exact hd.lease i eyes hi'
  once := by
    rw [hcontents]
    exact hd.once
  past t n hn := by
    rw [hcontents] at hn
    obtain ⟨hle, hundrawn⟩ := hd.past t n hn
    rcases hpresents with h | ⟨h, himp⟩
    · exact ⟨by omega, fun heq => by omega⟩
    · refine ⟨h ▸ hle, fun heq => ?_⟩
      have hfalse := hundrawn (heq.trans h)
      by_contra htrue
      simp [himp (by simpa using htrue)] at hfalse

theorem Quiet.inv {s s' : System} (hi : s.Inv) (hq : Quiet s s') (hl : LocksKept s s') :
    s'.Inv := by
  have hfreed := hq.freed hi.ids
  have htickets : s'.tickets ≤ s.tickets := by
    obtain ⟨spent, lost, heq, -⟩ := hq.ledger
    exact heq ▸ Multiset.le_add_right _ _
  have hlease : s'.present.lease? = s.present.lease? := by rw [hq.same.present]
  have htexture : ∀ i, s'.texture i = s.texture i := fun i => by simp [texture, hfreed.1]
  refine ⟨hi.ids.of_le htickets hq.same.frameId,
    hi.owned.freed hfreed hq.live hlease hq.same.frameId,
    hi.drawn.same hq.live ?_ hq.same.contents hq.same.drawnBy (.inr ⟨hq.same.presents, ?_⟩),
    ⟨hl.locked, ?_⟩⟩
  · intro i eyes h
    exact ⟨hlease ▸ h, htexture i, hq.same.presents⟩
  · rw [hq.same.present]
    exact id
  · intro i eyes h
    rw [htexture]
    exact hl.shim _ (hi.leases.shim i eyes (hlease ▸ h))

end System

end WivrnNx.Staging
