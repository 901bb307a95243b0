import WivrnNx.Ipc

/-!
# The video path's vocabulary

encoder/video_encoder.h: what an encoded frame is, what the encoder is asked for
and what it answers.
-/

namespace WivrnNx

/-- The two codecs this build produces. -/
inductive VideoCodec where
  | h264 | h265
deriving DecidableEq, Repr

/-- One encoded picture of one eye. The pose travels with it because the headset
reprojects against the pose the frame was rendered with. -/
structure EncodedFrame where
  frameId : ℕ
  sampleTimeQpc : ℕ := 0
  predictS : Flt := .val 0
  pose : Ipc.Pose := {}
  /-- 0 left eye, 1 right eye. -/
  streamIndex : ℕ
  idr : Bool := false
  data : List UInt8 := []
deriving DecidableEq, Repr

/-- What the session asks for; the bitrate is the whole stream's. -/
structure EncoderConfig where
  refreshHz : Flt := .val 90
  bitrateBps : ℕ := 50000000
  allowH265 : Bool := true
  allowH264 : Bool := true
deriving DecidableEq, Repr

/-- What the encoder ended up producing, per eye. -/
structure EncoderStreamInfo where
  width : UInt32 := 0
  height : UInt32 := 0
  codec : VideoCodec := .h265
deriving DecidableEq, Repr

/-- `EncodeResult`. -/
inductive EncodeResult where
  | ok | dropped | fatal
deriving DecidableEq, Repr

/-- The two streams of every frame: left eye, right eye. -/
def kStreamCount : ℕ := 2

end WivrnNx
