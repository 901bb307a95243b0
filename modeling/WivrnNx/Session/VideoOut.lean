import WivrnNx.Session.ShardPacer

/-!
# Cutting one encoded frame into shards

wivrn/video_out.cpp: `VideoPacketizer` and `PacedSender`. The shard is a template
that is mutated as the frame is walked; a pump hands over every shard that is due
and returns when the next micro-burst is.

What the wire format brings in (`serialized_size`, the FEC payload budget and the
parity group builder) is not part of the repository and is a parameter,
`WireFormat`; so are the types of `view_info` (`V`), `timing_info` (`T`), the
group builder (`G`) and its parity shards (`P`).
-/

namespace WivrnNx

/-- `to_headset::video_stream_data_shard`. -/
structure Shard (V T : Type*) where
  streamItemIdx : ℕ
  frameIdx : ℕ
  /-- 16 bits wide. -/
  shardIdx : ℕ := 0
  viewInfo : Option V := none
  timingInfo : Option T := none
  payload : List UInt8 := []
deriving DecidableEq, Repr

/-- What the wire format and `fec::group_builder` provide. -/
structure WireFormat (V T G P : Type*) where
  /-- `serialized_size(view_info)`. -/
  serializedSize : Option V → ℕ
  /-- `fec::shard_payload_budget(fec_active)`. -/
  shardPayloadBudget : Bool → ℕ
  groupReset : ℕ → ℕ → G
  groupAdd : G → Shard V T → G
  groupBlockFull : G → Bool
  groupTake : G → G × Option P
  paritySize : P → ℕ

/-- `VideoPacketizer::Frame`. -/
structure Frame (V T : Type*) where
  streamIndex : ℕ
  frameIndex : ℕ
  idr : Bool := false
  hasStreamSocket : Bool := true
  fragmentOnControl : Bool := false
  fec : Bool := false
  viewInfo : V
  timingInfo : T
deriving DecidableEq, Repr

/-- Parity is worth something only on the lossy path. -/
def Frame.fecActive {V T : Type*} (f : Frame V T) : Bool := f.fec && f.hasStreamSocket && !f.idr

/-- `std::numeric_limits<size_t>::max()`. -/
def sizeMax : ℕ := 2 ^ 64 - 1

/-- What the sender hands to the sockets: a data shard, on the control socket or
not, or a parity shard. -/
inductive SinkCall (V T P : Type*) where
  | data (shard : Shard V T) (control : Bool)
  | parity (p : P)
deriving DecidableEq, Repr

/-- The sinks: whether there is one for parity (what it throws is swallowed), the
stamp hook, and which data calls throw, by the offset of their first byte. -/
structure Sinks (T : Type*) where
  parity : Bool := true
  stamp : Option (T → T) := none
  throws : ℕ → Bool := fun _ => false

/-- `PacedSender`. -/
structure PacedSender (V T G : Type*) where
  frame : Frame V T
  data : List UInt8 := []
  pacer : ShardPacer := {}
  group : G
  active : Bool := false
  fecActive : Bool := false
  offset : ℕ := 0
  shard : Shard V T
  /-- 16 bits wide, as is `parityShards`; `wireBytes` is 32 bits wide. -/
  shards : ℕ := 0
  parityShards : ℕ := 0
  wireBytes : ℕ := 0
deriving DecidableEq, Repr

variable {V T G P : Type*}

/-- `VideoPacketizer::payload_budget`. -/
def payloadBudget (w : WireFormat V T G P) (f : Frame V T) : ℕ :=
  if f.idr ∨ (¬ f.hasStreamSocket ∧ ¬ f.fragmentOnControl) then sizeMax
  else w.shardPayloadBudget f.fecActive

namespace PacedSender

/-- `begin`: every field but the caller's frame, data and pacer starts over. -/
def begin (w : WireFormat V T G P) (_ : PacedSender V T G) (frame : Frame V T)
    (data : List UInt8) (pacer : ShardPacer) : PacedSender V T G :=
  { frame := frame, data := data, pacer := pacer,
    group := w.groupReset frame.streamIndex frame.frameIndex,
    -- A frame with no bytes is skipped rather than sent as an empty shard
    active := data ≠ [], fecActive := frame.fecActive, offset := 0,
    shard := { streamItemIdx := frame.streamIndex, frameIdx := frame.frameIndex,
               viewInfo := some frame.viewInfo },
    shards := 0, parityShards := 0, wireBytes := 0 }

/-- `abort`: the socket threw mid-frame. -/
def abort (s : PacedSender V T G) : PacedSender V T G := { s with active := false }

/-- `send_parity`: the group is always closed, whether or not its parity goes
anywhere. -/
def sendParity (w : WireFormat V T G P) (sinks : Sinks T) (s : PacedSender V T G) :
    PacedSender V T G × List (SinkCall V T P) :=
  match w.groupTake s.group, sinks.parity with
  | (group, some p), true =>
    ({ s with group := group, parityShards := (s.parityShards + 1) % 2 ^ 16,
              wireBytes := (s.wireBytes + w.paritySize p) % 2 ^ 32 }, [.parity p])
  | (group, _), _ => ({ s with group := group }, [])

/-- How many bytes the next shard carries. -/
def takeBytes (w : WireFormat V T G P) (s : PacedSender V T G) : ℕ :=
  let payloadSize := payloadBudget w s.frame - w.serializedSize s.shard.viewInfo
  -- One byte of progress beats a hang
  let payloadSize := if payloadSize = 0 then 1 else payloadSize
  min payloadSize (s.data.length - s.offset)

/-- The template, filled in for the bytes from `offset` on. Only the last shard
gets the timing, re-stamped as it leaves. -/
def nextShard (w : WireFormat V T G P) (sinks : Sinks T) (s : PacedSender V T G) : Shard V T :=
  { s.shard with
    timingInfo :=
      if takeBytes w s = s.data.length - s.offset
      then some ((sinks.stamp.getD id) s.frame.timingInfo) else s.shard.timingInfo
    payload := (s.data.drop s.offset).take (takeBytes w s) }

/-- The loop body up to the data sink: template, byte count and parity group. -/
def load (w : WireFormat V T G P) (sinks : Sinks T) (s : PacedSender V T G) :
    PacedSender V T G :=
  { s with
    shard := nextShard w sinks s
    wireBytes := (s.wireBytes + takeBytes w s) % 2 ^ 32
    group := if s.fecActive then w.groupAdd s.group (nextShard w sinks s) else s.group }

/-- The loop body from the data sink to the parity of a full block. `s` is the
sender before the body, `load w sinks s` what the data sink saw. -/
def advance (w : WireFormat V T G P) (sinks : Sinks T) (s : PacedSender V T G) :
    PacedSender V T G × List (SinkCall V T P) :=
  let l := load w sinks s
  let l :=
    { l with
      shard := { l.shard with shardIdx := (l.shard.shardIdx + 1) % 2 ^ 16, viewInfo := none }
      shards := (l.shards + 1) % 2 ^ 16
      offset := l.offset + takeBytes w s }
  if l.fecActive && w.groupBlockFull l.group then sendParity w sinks l else (l, [])

/-- How a pump ends: with the time the next burst is due (`0`: the frame is
finished), or with the exception of a data sink. -/
inductive Outcome where
  | due (at' : ℤ)
  | threw
deriving DecidableEq, Repr

/-- What a pump leaves: the sender, the calls it made and how it ended. -/
structure PumpResult (V T G P : Type*) where
  sender : PacedSender V T G
  calls : List (SinkCall V T P)
  outcome : Outcome

/-- The last group of the frame, then the frame is over. -/
def finish (w : WireFormat V T G P) (sinks : Sinks T) (s : PacedSender V T G) :
    PumpResult V T G P :=
  let last := if s.fecActive then sendParity w sinks s else (s, [])
  { sender := { last.1 with active := false }, calls := last.2, outcome := .due 0 }

/-- The loop of `pump`. Every round sends at least one byte, so `fuel` is never
short when it starts at the bytes that are left (`pumpLoop_done`). -/
def pumpLoop (w : WireFormat V T G P) (sinks : Sinks T) (now : ℤ) :
    ℕ → PacedSender V T G → PumpResult V T G P
  | 0, s => finish w sinks s
  | fuel + 1, s =>
    if s.data.length ≤ s.offset then finish w sinks s
    else
      let call := SinkCall.data (nextShard w sinks s) s.frame.idr
      if sinks.throws s.offset then ⟨load w sinks s, [call], .threw⟩
      else
        let (s', parity) := advance w sinks s
        if s'.offset < s'.data.length then
          match s'.pacer.waitUntil s'.offset now with
          | (pacer, some due) => ⟨{ s' with pacer := pacer }, call :: parity, .due due⟩
          | (pacer, none) =>
            let r := pumpLoop w sinks now fuel { s' with pacer := pacer }
            { r with calls := call :: (parity ++ r.calls) }
        else
          let r := finish w sinks s'
          { r with calls := call :: (parity ++ r.calls) }

/-- `pump`: hands over every shard that is due, and at least one micro-burst. -/
def pump (w : WireFormat V T G P) (sinks : Sinks T) (s : PacedSender V T G) (now : ℤ) :
    PumpResult V T G P :=
  if ¬ s.active then ⟨s, [], .due 0⟩
  else pumpLoop w sinks now (s.data.length - s.offset) s

end PacedSender

end WivrnNx
