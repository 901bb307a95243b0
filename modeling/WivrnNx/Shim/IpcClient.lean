import WivrnNx.Ipc

/-!
# The shim's outgoing queue

`IpcClient::queue_message` (shim/src/ipc_client.cpp) once its `connected_` check
has passed. The check and the push are two steps: the check reads an atomic, the
push holds the queue's mutex. `alloc` is whether `push_back` found memory.
-/

namespace WivrnNx.IpcClient

open Ipc

/-- `kMaxPendingMessages`. -/
def maxPendingMessages : ℕ := 64

/-- `pending_.push_back`. -/
def pushBack (pending : List ToHelper) (message : ToHelper) (alloc : Bool) :
    List ToHelper × Bool :=
  if alloc then (pending ++ [message], true) else (pending, false)

/-- `queue_message`, from the lock on. -/
def queueMessage (pending : List ToHelper) (message : ToHelper) (evictable alloc : Bool) :
    List ToHelper × Bool :=
  if maxPendingMessages ≤ pending.length then
    if evictable then (pending, false)
    -- The oldest queued message makes room, whatever it is
    else pushBack pending.tail message alloc
  else pushBack pending message alloc

def queueHaptic (pending : List ToHelper) (haptic : Haptic) (alloc : Bool) :
    List ToHelper × Bool :=
  queueMessage pending (.haptic haptic) true alloc

def queueStagingConfig (pending : List ToHelper) (config : StagingConfig) (alloc : Bool) :
    List ToHelper × Bool :=
  queueMessage pending (.stagingConfig config) false alloc

def queueFrameReady (pending : List ToHelper) (frame : FrameReady) (alloc : Bool) :
    List ToHelper × Bool :=
  queueMessage pending (.frameReady frame) true alloc

/-- An evictable message is queued behind what is there, or refused. -/
theorem queueMessage_evictable (pending : List ToHelper) (message : ToHelper) (alloc : Bool) :
    queueMessage pending message true alloc = (pending ++ [message], true) ∨
      queueMessage pending message true alloc = (pending, false) := by
  unfold queueMessage pushBack
  split
  · exact .inr rfl
  · split
    · exact .inl rfl
    · exact .inr rfl

/-- A message that is not evictable costs the oldest one of a full queue. -/
theorem queueMessage_needed (pending : List ToHelper) (message : ToHelper) (alloc : Bool) :
    (queueMessage pending message false alloc).1 =
      (if maxPendingMessages ≤ pending.length then pending.tail else pending) ++
        (if alloc then [message] else []) := by
  unfold queueMessage pushBack
  cases alloc <;> split <;> simp

end WivrnNx.IpcClient
