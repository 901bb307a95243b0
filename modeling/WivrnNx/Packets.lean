import Mathlib.Tactic

/-!
# Packets from the headset

The fields of `from_headset` packets that the session reads. Times are client
clock nanoseconds; a zero time is one the headset never filled in.
-/

namespace WivrnNx

/-- `from_headset::feedback`: what became of one frame of one stream. -/
structure Feedback where
  frameIndex : ℕ
  streamIndex : ℕ := 0
  receivedFirstPacket : ℤ := 0
  receivedLastPacket : ℤ := 0
  sentToDecoder : ℤ := 0
  receivedFromDecoder : ℤ := 0
  blitted : ℤ := 0
  timesDisplayed : ℕ := 0
deriving DecidableEq, Repr

end WivrnNx
