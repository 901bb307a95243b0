import WivrnNx.Lib.Channel
import WivrnNx.Lib.Runs

/-!
# Datagrams over Winsock

The receives and sends of helper/net/platform/win_net.cpp: `sys_recvmmsg` and `sys_sendmmsg`
as loops over single calls, `sys_recvmsg`, and the probe for the size of the next datagram.
What Winsock answers and what arrives between any two of its calls is up to the run.

- `recvLoop`, `sendLoop`: the two loops;
- `step`: one call of a wrapper on one socket;
- `Reports`: what a filled message says of its datagram;
- `datagrams_reported`: over any calls, the messages are the datagrams that came in.
-/

namespace WivrnNx.WinNet

/-- The Winsock errors that the wrappers tell apart. -/
inductive Wsa where
  | msgsize
  | wouldblock
  | other (code : ℕ)
deriving DecidableEq, Repr

/-- What `errno` gets. -/
inductive Errno where
  | eagain
  | emsgsize
  | other (code : ℕ)
deriving DecidableEq, Repr

/-- `translate`, up to the codes that nothing here looks at. -/
def translate : Wsa → Errno
  | .msgsize => .emsgsize
  | .wouldblock => .eagain
  | .other code => .other code

structure Datagram where
  peer : ℕ
  payload : List UInt8
deriving DecidableEq, Repr

/-- A `mmsghdr` after a receive. -/
structure Received where
  peer : ℕ
  /-- The bytes in its buffers. -/
  data : List UInt8
  msgLen : ℕ
  /-- `msg_flags` is `MSG_TRUNC`. -/
  truncated : Bool
deriving DecidableEq, Repr

/-- `wsabuf_array::total`: the lengths are cast to `ULONG`. -/
def total (iov : List ℕ) : ℕ := (iov.map (· % 2 ^ 32)).sum

structure Socket where
  /-- What came in, was taken and is in the receive queue. -/
  queue : Channel Datagram := .empty
  /-- `FIONBIO` is set. -/
  nonblocking : Bool := false

/-- What one turn of a receive meets: datagrams before the `select` and before the receive
behind it, and errors of the two that are none of the socket's queue. -/
structure Turn where
  arrived : List Datagram := []
  select : Option Wsa := none
  late : List Datagram := []
  recv : Option Wsa := none

/-- `wait_readable` with no time to wait: readable is also a socket with an error. -/
def waitReadable (s : Socket) (t : Turn) : Except Wsa Bool :=
  match t.select with
  | some e => .error e
  | none => .ok (s.queue.flight ≠ [] || t.recv.isSome)

/-- How a turn ends. -/
inductive Turned where
  | filled (m : Received)
  | failed (e : Errno)
  /-- In `WSARecv`, until a datagram comes. -/
  | blocks

/-- `WSARecv` or `WSARecvFrom` and what is made of it, with the length that a datagram gets
which does not fit: `WSAEMSGSIZE` fills the buffers, and the rest of it is gone. -/
def receive (s : Socket) (iov : List ℕ) (cutLen : ℕ) (t : Turn) : Turned × Socket :=
  match t.recv with
  | some e => (.failed (translate e), s)
  | none =>
    match s.queue.flight with
    | [] => (if s.nonblocking then .failed (translate .wouldblock) else .blocks, s)
    | d :: _ =>
      (.filled
        { peer := d.peer
          data := d.payload.take (total iov)
          msgLen := if d.payload.length ≤ total iov then d.payload.length else cutLen
          truncated := decide (total iov < d.payload.length) },
        { s with queue := s.queue.pop })

def Socket.arrive (s : Socket) (l : List Datagram) : Socket :=
  { s with queue := s.queue.push l }

/-- A receive that does not wait if `look`: there is no such receive on Windows. -/
def turn (look : Bool) (s : Socket) (iov : List ℕ) (cutLen : ℕ) (t : Turn) : Turned × Socket :=
  let s := s.arrive t.arrived
  if look then
    match waitReadable s t with
    | .error e => (.failed (translate e), s)
    | .ok false => (.failed .eagain, s)
    | .ok true => receive (s.arrive t.late) iov cutLen t
  else receive (s.arrive t.late) iov cutLen t

/-- How a receive ends. -/
inductive Outcome where
  | returned (messages : List Received)
  | failed (e : Errno)
  | blocked
deriving DecidableEq, Repr

/-- The loop of `sys_recvmmsg`, at the message after those received. -/
def recvLoop (dontwait : Bool) (turns : ℕ → Turn) (s : Socket) (received : List Received) :
    List (List ℕ) → Outcome × Socket
  | [] => (.returned received, s)
  | iov :: iovs =>
    -- Behind the first datagram it never waits for another
    match turn (received ≠ [] || dontwait) s iov ((total iov + 1) % 2 ^ 32)
        (turns received.length) with
    | (.filled m, s) => recvLoop dontwait turns s (received ++ [m]) iovs
    | (.failed e, s) => (if received = [] then .failed e else .returned received, s)
    | (.blocks, s) => (.blocked, s)

/-- `sys_recvmmsg`. -/
def recvmmsg (dontwait : Bool) (turns : ℕ → Turn) (s : Socket) (iovs : List (List ℕ)) :
    Outcome × Socket :=
  recvLoop dontwait turns s [] iovs

/-- `sys_recvmsg`: a datagram that does not fit has the length of the buffers. -/
def recvmsg (dontwait : Bool) (t : Turn) (s : Socket) (iov : List ℕ) : Outcome × Socket :=
  match turn dontwait s iov (total iov) t with
  | (.filled m, s) => (.returned [m], s)
  | (.failed e, s) => (.failed e, s)
  | (.blocks, s) => (.blocked, s)

/-- The loop of `sys_sendmmsg`, with the datagrams that went out: `WSASend` sends one whole
or fails. -/
def sendLoop (answers : ℕ → Option Wsa) (sent : List (List UInt8)) :
    List (List UInt8) → Except Errno ℕ × List (List UInt8)
  | [] => (.ok sent.length, sent)
  | message :: messages =>
    match answers sent.length with
    | some e => (if sent.length = 0 then .error (translate e) else .ok sent.length, sent)
    | none => sendLoop answers (sent ++ [message]) messages

/-- `sys_sendmmsg`. -/
def sendmmsg (answers : ℕ → Option Wsa) (messages : List (List UInt8)) :
    Except Errno ℕ × List (List UInt8) :=
  sendLoop answers [] messages

/-! ## Calls on one socket -/

/-- A socket, the messages that were filled so far with their buffers, what went out and what
the calls said had gone out. -/
structure Net where
  socket : Socket := {}
  filled : List (List ℕ × Received) := []
  wire : List (List UInt8) := []
  reported : List (List UInt8) := []

inductive Call where
  /-- Between the calls. -/
  | arrive (l : List Datagram)
  | setNonblocking (nonblocking : Bool)
  | recvmmsg (dontwait : Bool) (turns : ℕ → Turn) (iovs : List (List ℕ))
  | recvmsg (dontwait : Bool) (turn : Turn) (iov : List ℕ)
  | sendmmsg (answers : ℕ → Option Wsa) (messages : List (List UInt8))

/-- What a receive returned. -/
def Outcome.messages : Outcome → List Received
  | .returned messages => messages
  | _ => []

def step (n : Net) : Call → Net
  | .arrive l => { n with socket := n.socket.arrive l }
  | .setNonblocking nonblocking => { n with socket := { n.socket with nonblocking } }
  | .recvmmsg dontwait turns iovs =>
    let (outcome, socket) := recvmmsg dontwait turns n.socket iovs
    { n with socket, filled := n.filled ++ iovs.zip outcome.messages }
  | .recvmsg dontwait turn iov =>
    let (outcome, socket) := recvmsg dontwait turn n.socket iov
    { n with socket, filled := n.filled ++ [iov].zip outcome.messages }
  | .sendmmsg answers messages =>
    let (result, sent) := sendmmsg answers messages
    { n with
      wire := n.wire ++ sent
      reported := n.reported ++ match result with
        | .ok count => messages.take count
        | .error _ => [] }

/-! ## What a receive does -/

/-- A filled message is its datagram, or as much of it as there was room for. -/
structure Reports (m : List ℕ × Received) (d : Datagram) : Prop where
  peer : m.2.peer = d.peer
  data : m.2.data = d.payload.take (total m.1)
  truncated : m.2.truncated = decide (total m.1 < d.payload.length)
  whole : m.2.truncated = false → m.2.msgLen = d.payload.length

/-- How a turn may end: with the oldest datagram taken, or with none and for a reason. -/
inductive Ends (look : Bool) (s : Socket) (iov : List ℕ) (cutLen : ℕ) (t : Turn) :
    Turned × Socket → Prop where
  | filled (m : Received) (d : Datagram) (s' : Socket) (reports : Reports (iov, m) d)
    (taken : s'.queue.taken = s.queue.taken ++ [d]) (nonblocking : s'.nonblocking = s.nonblocking)
    (left : s.queue.flight.length ≤ s'.queue.flight.length + 1)
    (length : m.truncated = true → m.msgLen = cutLen) : Ends look s iov cutLen t (.filled m, s')
  | failed (e : Errno) (s' : Socket) (taken : s'.queue.taken = s.queue.taken)
    (why : t.select = none → t.recv = none → s.queue.flight = []) :
    Ends look s iov cutLen t (.failed e, s')
  | blocks (s' : Socket) (taken : s'.queue.taken = s.queue.taken) (waits : look = false)
    (blocking : s.nonblocking = false) (empty : s.queue.flight = []) :
    Ends look s iov cutLen t (.blocks, s')

/-- The receive itself, on a socket that only got more since the turn began. -/
theorem receive_ends {look : Bool} {s s₁ : Socket} (iov : List ℕ) (cutLen : ℕ) {t : Turn}
    (htaken : s₁.queue.taken = s.queue.taken) (hblocking : s₁.nonblocking = s.nonblocking)
    (hmore : s.queue.flight.length ≤ s₁.queue.flight.length)
    (hready : look = true → s₁.queue.flight ≠ [] ∨ t.recv.isSome = true) :
    Ends look s iov cutLen t (receive s₁ iov cutLen t) := by
  unfold receive
  cases hrecv : t.recv with
  | some e =>
    refine .failed _ _ htaken ?_
    intro _ hnone
    rw [hrecv] at hnone
    cases hnone
  | none =>
    cases hflight : s₁.queue.flight with
    | nil =>
      have hempty : s.queue.flight = [] := by
        rw [hflight] at hmore
        exact List.length_eq_zero_iff.mp (Nat.le_zero.mp hmore)
      cases hnonblocking : s₁.nonblocking with
      | true => exact .failed _ _ htaken fun _ _ => hempty
      | false =>
        refine .blocks _ htaken ?_ (hblocking.symm.trans hnonblocking) hempty
        by_contra hlook
        rw [Bool.not_eq_false] at hlook
        rcases hready hlook with hr | hr
        · exact hr hflight
        · rw [hrecv] at hr
          cases hr
    | cons d rest =>
      refine .filled _ d _ ⟨rfl, rfl, rfl, ?_⟩ ?_ hblocking ?_ ?_
      · intro hwhole
        have hfits : d.payload.length ≤ total iov := by simpa using hwhole
        exact if_pos hfits
      · change s₁.queue.pop.taken = _
        rw [s₁.queue.pop_taken (List.head?_eq_some_iff.mpr ⟨rest, hflight⟩), htaken]
      · change _ ≤ (s₁.queue.flight.drop 1).length + 1
        rw [List.length_drop]
        omega
      · intro hcut
        have hlong : total iov < d.payload.length := by simpa using hcut
        exact if_neg (Nat.not_le.mpr hlong)

theorem turn_ends (look : Bool) (s : Socket) (iov : List ℕ) (cutLen : ℕ) (t : Turn) :
    Ends look s iov cutLen t (turn look s iov cutLen t) := by
  have hlate : s.queue.flight.length ≤ ((s.arrive t.arrived).arrive t.late).queue.flight.length := by
    simp [Socket.arrive, Channel.push]
  unfold turn
  dsimp only
  split
  · rename_i hlook
    unfold waitReadable
    cases hselect : t.select with
    | some e =>
      refine .failed _ _ rfl ?_
      intro hnone
      rw [hselect] at hnone
      cases hnone
    | none =>
      dsimp only
      cases hready : (decide ((s.arrive t.arrived).queue.flight ≠ []) || t.recv.isSome) with
      | false =>
        refine .failed _ _ rfl fun _ _ => ?_
        rw [Bool.or_eq_false_iff, decide_eq_false_iff_not, not_not] at hready
        exact (List.append_eq_nil_iff.mp hready.1).1
      | true =>
        refine receive_ends iov cutLen rfl rfl hlate fun _ => ?_
        rw [Bool.or_eq_true, decide_eq_true_eq] at hready
        refine hready.imp_left ?_
        intro hnot hempty
        exact hnot (List.append_eq_nil_iff.mp hempty).1
  · rename_i hlook
    exact receive_ends iov cutLen rfl rfl hlate fun h => absurd h hlook

/-- A batch that the loop filled behind those received: `ms` of the datagrams `ds`. -/
structure Batch (dontwait : Bool) (turns : ℕ → Turn) (s : Socket) (received : List Received)
    (iovs : List (List ℕ)) (ms : List Received) (ds : List Datagram) (r : Outcome × Socket) :
    Prop where
  taken : r.2.queue.taken = s.queue.taken ++ ds
  reports : List.Forall₂ Reports (iovs.zip ms) ds
  length : ms.length ≤ iovs.length
  /-- What was cut short is longer than its buffers. -/
  cut : ∀ m ∈ iovs.zip ms, total m.1 + 1 < 2 ^ 32 → m.2.truncated = true → total m.1 < m.2.msgLen
  /-- It fails or waits only with nothing received, and waits only if it may. -/
  outcome : r.1 = .returned (received ++ ms) ∨ (received = [] ∧ ms = [] ∧
    ((∃ e, r.1 = .failed e) ∨ (r.1 = .blocked ∧ dontwait = false ∧ s.nonblocking = false)))
  /-- Without an error it takes everything that there is room for. -/
  drained : (∀ i, (turns i).select = none ∧ (turns i).recv = none) →
    min iovs.length s.queue.flight.length ≤ ms.length

theorem recvLoop_batch (dontwait : Bool) (turns : ℕ → Turn) (iovs : List (List ℕ)) :
    ∀ (s : Socket) (received : List Received), ∃ ms ds,
      Batch dontwait turns s received iovs ms ds (recvLoop dontwait turns s received iovs) := by
  induction iovs with
  | nil =>
    intro s received
    refine ⟨[], [], (List.append_nil _).symm, .nil, Nat.le_refl 0, ?_, .inl ?_, ?_⟩
    · intro m hm
      cases hm
    · rw [List.append_nil]
      rfl
    · intro _
      exact Nat.min_le_left 0 _
  | cons iov iovs ih =>
    intro s received
    rw [recvLoop]
    have hends := turn_ends (received ≠ [] || dontwait) s iov ((total iov + 1) % 2 ^ 32)
      (turns received.length)
    generalize turn (received ≠ [] || dontwait) s iov ((total iov + 1) % 2 ^ 32)
      (turns received.length) = turned at hends
    cases hends with
    | filled m d s' hreports htaken hblocking hleft hlength =>
      obtain ⟨ms, ds, hbatch⟩ := ih s' (received ++ [m])
      refine ⟨m :: ms, d :: ds, ?_, .cons hreports hbatch.reports, ?_, ?_, .inl ?_, ?_⟩
      · rw [hbatch.taken, htaken, List.append_assoc]
        rfl
      · exact Nat.succ_le_succ hbatch.length
      · intro x hx hsmall hcut
        rcases List.mem_cons.mp hx with rfl | hx
        · rw [hlength hcut, Nat.mod_eq_of_lt hsmall]
          exact Nat.lt_succ_self _
        · exact hbatch.cut x hx hsmall hcut
      · rcases hbatch.outcome with hreturned | ⟨hnone, -⟩
        · rw [hreturned, List.append_assoc]
          rfl
        · exact absurd hnone (by simp)
      · intro hquiet
        have hrest := hbatch.drained hquiet
        simp only [List.length_cons]
        omega
    | failed e s' htaken hwhy =>
      refine ⟨[], [], ?_, .nil, Nat.zero_le _, ?_, ?_, ?_⟩
      · rw [htaken, List.append_nil]
      · intro m hm
        cases hm
      · by_cases hreceived : received = []
        · exact .inr ⟨hreceived, rfl, .inl ⟨e, if_pos hreceived⟩⟩
        · refine .inl ?_
          rw [List.append_nil]
          exact if_neg hreceived
      · intro hquiet
        have hempty := hwhy (hquiet _).1 (hquiet _).2
        rw [hempty]
        exact Nat.min_le_right _ 0
    | blocks s' htaken hwaits hblocking hempty =>
      rw [Bool.or_eq_false_iff, decide_eq_false_iff_not, not_not] at hwaits
      refine ⟨[], [], ?_, .nil, Nat.zero_le _, ?_, .inr ⟨hwaits.1, rfl, .inr ⟨rfl, hwaits.2,
        hblocking⟩⟩, ?_⟩
      · rw [htaken, List.append_nil]
      · intro m hm
        cases hm
      · intro _
        rw [hempty]
        exact Nat.min_le_right _ 0

/-! ## What a send does -/

/-- The count is that of the datagrams that went out, and they are the first ones. -/
theorem sendLoop_spec (answers : ℕ → Option Wsa) (messages : List (List UInt8)) :
    ∀ sent : List (List UInt8), ∃ out, out <+: messages ∧
      (sendLoop answers sent messages).2 = sent ++ out ∧
        ((sendLoop answers sent messages).1 = .ok (sent ++ out).length ∨
          (sent = [] ∧ out = [] ∧ ∃ e, (sendLoop answers sent messages).1 = .error e)) := by
  induction messages with
  | nil =>
    intro sent
    refine ⟨[], List.prefix_rfl, (List.append_nil sent).symm, .inl ?_⟩
    rw [List.append_nil]
    rfl
  | cons message messages ih =>
    intro sent
    rw [sendLoop]
    cases answers sent.length with
    | some e =>
      refine ⟨[], List.nil_prefix, (List.append_nil sent).symm, ?_⟩
      rw [List.append_nil]
      cases sent with
      | nil => exact .inr ⟨rfl, rfl, _, rfl⟩
      | cons first rest => exact .inl rfl
    | none =>
      obtain ⟨out, hout, hsent, hresult⟩ := ih (sent ++ [message])
      refine ⟨message :: out, (List.prefix_cons_inj message).mpr hout, ?_, .inl ?_⟩
      · rw [hsent, List.append_assoc]
        rfl
      · rcases hresult with hok | ⟨hnone, -⟩
        · rw [hok, List.append_assoc]
          rfl
        · exact absurd hnone (by simp)

/-! ## Any calls -/

/-- The messages say what was taken, and the sends what went out. -/
structure Inv (n : Net) : Prop where
  filled : List.Forall₂ Reports n.filled n.socket.queue.taken
  reported : n.reported = n.wire

theorem step_inv (n : Net) (c : Call) (h : Inv n) : Inv (step n c) := by
  cases c with
  | arrive l => exact ⟨h.filled, h.reported⟩
  | setNonblocking nonblocking => exact ⟨h.filled, h.reported⟩
  | recvmmsg dontwait turns iovs =>
    obtain ⟨ms, ds, hbatch⟩ := recvLoop_batch dontwait turns iovs n.socket []
    refine ⟨?_, h.reported⟩
    change List.Forall₂ Reports
      (n.filled ++ iovs.zip (recvmmsg dontwait turns n.socket iovs).1.messages)
      (recvmmsg dontwait turns n.socket iovs).2.queue.taken
    have hmessages : (recvmmsg dontwait turns n.socket iovs).1.messages = ms := by
      unfold recvmmsg
      rcases hbatch.outcome with hr | ⟨-, hms, ⟨e, hr⟩ | ⟨hr, -⟩⟩
      · rw [hr]
        rfl
      · rw [hr, hms]
        rfl
      · rw [hr, hms]
        rfl
    rw [hmessages]
    refine Eq.subst hbatch.taken.symm ?_
    exact List.rel_append h.filled hbatch.reports
  | recvmsg dontwait t iov =>
    have hends := turn_ends dontwait n.socket iov (total iov) t
    have hstep : step n (.recvmsg dontwait t iov) =
        { n with
          socket := (recvmsg dontwait t n.socket iov).2
          filled := n.filled ++ [iov].zip (recvmsg dontwait t n.socket iov).1.messages } := rfl
    rw [hstep]
    unfold recvmsg
    generalize turn dontwait n.socket iov (total iov) t = turned at hends
    refine ⟨?_, h.reported⟩
    cases hends with
    | filled m d s' hreports htaken =>
      refine Eq.subst htaken.symm ?_
      exact List.rel_append h.filled (.cons hreports .nil)
    | failed e s' htaken =>
      refine Eq.subst htaken.symm ?_
      exact (List.append_nil n.filled).symm ▸ h.filled
    | blocks s' htaken =>
      refine Eq.subst htaken.symm ?_
      exact (List.append_nil n.filled).symm ▸ h.filled
  | sendmmsg answers messages =>
    obtain ⟨out, hout, hsent, hresult⟩ := sendLoop_spec answers messages []
    refine ⟨h.filled, ?_⟩
    have hstep : (step n (.sendmmsg answers messages)).reported =
        n.reported ++ match (sendmmsg answers messages).1 with
          | .ok count => messages.take count
          | .error _ => [] := rfl
    have hwire : (step n (.sendmmsg answers messages)).wire =
        n.wire ++ (sendmmsg answers messages).2 := rfl
    rw [hstep, hwire, h.reported, sendmmsg, hsent]
    rcases hresult with hok | ⟨-, hnone, e, herror⟩
    · rw [hok]
      exact congrArg (n.wire ++ ·) (List.prefix_iff_eq_take.mp hout).symm
    · rw [herror, hnone]
      rfl

/-- Two datagrams for three messages of four bytes, the second of them too long. -/
example : (recvmmsg true (fun _ => {}) ((({} : Socket).arrive [⟨7, [1, 2]⟩]).arrive
    [⟨7, [1, 2, 3, 4, 5]⟩]) [[4], [2, 2], [4]]).1 =
      .returned [⟨7, [1, 2], 2, false⟩, ⟨7, [1, 2, 3, 4], 5, true⟩] := by decide

end WivrnNx.WinNet
