import Mathlib.Data.List.TakeWhile
import Mathlib.Tactic

/-!
# The mDNS responder

`MdnsPublisher` tells the local network under which name, port and address the helper takes
headsets: a socket for each address of the machine, the same few records for all of them but
the address, and an answer to each question that is about one of them. A resolver on the other
side (`resolve`, `fromReply`) is described by what it makes of the answers.
-/

namespace WivrnNx.Mdns

abbrev Name := List Char

inductive RecordType
  | a
  | ptr
  | txt
  | aaaa
  | srv
  | any
  | other (code : UInt16)
deriving Repr, DecidableEq

inductive Address
  | v4 (addr : UInt32)
  | v6 (addr : BitVec 128)
deriving Repr, DecidableEq

/-- The data of a record; priority and weight of an `SRV` are zero. -/
inductive Data
  | ptr (name : Name)
  | srv (port : UInt16) (name : Name)
  | txt (key value : List Char)
  | address (addr : Address)
deriving Repr, DecidableEq

def Data.type : Data → RecordType
  | .ptr _ => .ptr
  | .srv _ _ => .srv
  | .txt _ _ => .txt
  | .address (.v4 _) => .a
  | .address (.v6 _) => .aaaa

structure Record where
  name : Name
  data : Data
  ttl : ℕ
deriving Repr, DecidableEq

def serviceTtl : ℕ := 4500
def addressTtl : ℕ := 120
def announceIntervalMs : ℕ := 60000

def dnsSdQuery : Name := "_services._dns-sd._udp.local.".toList

def sanitizeLabel (s : List Char) : List Char :=
  let out := s.map fun c => if c = '.' ∨ c = '\x00' then '-' else c
  if out = [] then "wivrnnx".toList else out

/-- A socket with the address records that it answers with; no record where `has_a` or
`has_aaaa` is false. -/
structure Socket where
  fd : ℤ
  recordA : Option Record
  recordAaaa : Option Record
deriving Repr, DecidableEq

def Socket.addresses (s : Socket) : List Record := s.recordA.toList ++ s.recordAaaa.toList

structure Impl where
  instanceLabel : List Char
  hostLabel : List Char
  service : Name
  serviceInstance : Name
  hostQualified : Name
  port : ℤ
  txt : List (List Char × List Char)
  sockets : List Socket
deriving Repr, DecidableEq

/-- `MdnsPublisher::MdnsPublisher`. -/
def publisher (instanceName hostName : List Char) (port : ℤ)
    (txt : List (List Char × List Char)) : Impl :=
  let service : Name := "_wivrn._tcp.local.".toList
  { instanceLabel := sanitizeLabel instanceName
    hostLabel := sanitizeLabel hostName
    service := service
    serviceInstance := sanitizeLabel instanceName ++ '.' :: service
    hostQualified := sanitizeLabel hostName ++ ".local.".toList
    port := port
    txt := txt
    sockets := [] }

namespace Impl

def ptrRecord (p : Impl) : Record := ⟨p.service, .ptr p.serviceInstance, serviceTtl⟩

/-- The port goes through a cast to `uint16_t`. -/
def srvRecord (p : Impl) : Record :=
  ⟨p.serviceInstance, .srv (UInt16.ofNat (p.port % 65536).toNat) p.hostQualified, serviceTtl⟩

def txtRecords (p : Impl) : List Record :=
  p.txt.map fun e => ⟨p.serviceInstance, .txt e.1 e.2, serviceTtl⟩

def additionalFor (p : Impl) (s : Socket) : List Record :=
  p.srvRecord :: s.addresses ++ p.txtRecords

end Impl

/-- An address of the machine, and the descriptor that `mdns_socket_open` gave for it. -/
structure Unicast where
  address : Address
  fd : ℤ
deriving Repr, DecidableEq

structure Adapter where
  up : Bool
  unicast : List Unicast
deriving Repr, DecidableEq

def Address.loopback : Address → Bool
  | .v4 addr => addr == 0x7f000001
  | .v6 addr => addr == 1#128

/-- The sockets of `open_sockets`, for the adapters that Windows listed. -/
def openSockets (p : Impl) (adapters : List Adapter) : List Socket :=
  (adapters.filter Adapter.up).flatMap fun a => a.unicast.filterMap fun u =>
    if u.address.loopback ∨ u.fd < 0 then none
    else
      let record : Record := ⟨p.hostQualified, .address u.address, addressTtl⟩
      match u.address with
      | .v4 _ => some ⟨u.fd, some record, none⟩
      | .v6 _ => some ⟨u.fd, none, some record⟩

/-! ## Answers -/

inductive Answer
  | none
  | dnsSdPtr
  | servicePtr
  | srv
  | txt
  | a
  | aaaa
deriving Repr, DecidableEq

def classify (p : Impl) (name : Name) (rtype : RecordType) : Answer :=
  if name = dnsSdQuery then if rtype = .any ∨ rtype = .ptr then .dnsSdPtr else .none
  else if name = p.service then if rtype = .any ∨ rtype = .ptr then .servicePtr else .none
  else if name = p.serviceInstance then
    if rtype = .any ∨ rtype = .srv then .srv
    else if rtype = .txt then .txt
    else .none
  else if name = p.hostQualified then
    if rtype = .any ∨ rtype = .a then .a
    else if rtype = .aaaa then .aaaa
    else .none
  else .none

structure Question where
  isQuestion : Bool
  name : Name
  rtype : RecordType
  /-- The top bit of the class. -/
  unicastResponse : Bool
  /-- Who asked, under which id. -/
  sender : ℕ
  queryId : UInt16
deriving Repr, DecidableEq

inductive Destination
  | multicast
  | unicast (sender : ℕ) (queryId : UInt16) (rtype : RecordType) (name : Name)
deriving Repr, DecidableEq

structure Reply where
  dest : Destination
  record : Record
  additional : List Record
deriving Repr, DecidableEq

/-- What `callback` puts together for an answer. -/
def answerRecords (p : Impl) (self : Socket) : Answer → Option (Record × List Record)
  | .dnsSdPtr => some (⟨dnsSdQuery, .ptr p.service, serviceTtl⟩, [])
  | .servicePtr => some (p.ptrRecord, p.additionalFor self)
  | .srv => some (p.srvRecord, self.addresses ++ p.txtRecords)
  | .txt =>
    match p.txtRecords with
    | [] => none
    | first :: rest => some (first, rest)
  | .a => self.recordA.map fun record => (record, self.recordAaaa.toList)
  | .aaaa => self.recordAaaa.map fun record => (record, self.recordA.toList)
  | .none => none

def callback (p : Impl) (sock : ℤ) (q : Question) : Option Reply :=
  if q.isQuestion then
    (p.sockets.find? fun s => s.fd = sock).bind fun self =>
      (answerRecords p self (classify p q.name q.rtype)).map fun records =>
        { dest := if q.unicastResponse then .unicast q.sender q.queryId q.rtype q.name
            else .multicast
          record := records.1
          additional := records.2 }
  else none

/-! ## Turns of `run` -/

inductive Sent
  | announce (fd : ℤ) (record : Record) (additional : List Record)
  | goodbye (fd : ℤ) (record : Record) (additional : List Record)
  | reply (fd : ℤ) (r : Reply)
deriving Repr, DecidableEq

def announce (p : Impl) (goodbye : Bool) : List Sent :=
  p.sockets.map fun s =>
    if goodbye then .goodbye s.fd p.ptrRecord (p.additionalFor s)
    else .announce s.fd p.ptrRecord (p.additionalFor s)

/-- One round of the loop: what the sockets had for it, and whether it is the last. -/
structure Turn where
  asked : List (ℤ × Question)
  stop : Bool
deriving Repr, DecidableEq

structure State where
  nextAnnounce : ℕ
  running : Bool
  sent : List Sent
deriving Repr, DecidableEq

/-- `start`, then `run` up to its loop; nothing where no socket could be opened. -/
def start (p : Impl) (adapters : List Adapter) : Option (Impl × State) :=
  let p := { p with sockets := openSockets p adapters }
  if p.sockets = [] then none else some (p, ⟨announceIntervalMs, true, announce p false⟩)

def answers (p : Impl) (t : Turn) : List Sent :=
  t.asked.filterMap fun e => (callback p e.1 e.2).map (.reply e.1)

def turn (p : Impl) (s : State) (t : Turn) : State :=
  if s.running then
    let sent := s.sent ++ answers p t
    if t.stop then { s with running := false, sent := sent ++ announce p true }
    else if s.nextAnnounce ≤ 100 then
      { s with nextAnnounce := announceIntervalMs, sent := sent ++ announce p false }
    else { s with nextAnnounce := s.nextAnnounce - 100, sent := sent }
  else s

/-! ## A resolver -/

/-- What a headset wants to know of a server. -/
structure Found where
  label : List Char
  port : UInt16
  addresses : List Address
  txt : List (List Char × List Char)
deriving Repr, DecidableEq

def ptrTarget (name : Name) (records : List Record) : Option Name :=
  records.findSome? fun
    | ⟨n, .ptr target, _⟩ => if n = name then some target else none
    | _ => none

def srvTarget (name : Name) (records : List Record) : Option (UInt16 × Name) :=
  records.findSome? fun
    | ⟨n, .srv port target, _⟩ => if n = name then some (port, target) else none
    | _ => none

def addressesOf (name : Name) (records : List Record) : List Address :=
  records.filterMap fun
    | ⟨n, .address addr, _⟩ => if n = name then some addr else none
    | _ => none

def textOf (name : Name) (records : List Record) : List (List Char × List Char) :=
  records.filterMap fun
    | ⟨n, .txt key value, _⟩ => if n = name then some (key, value) else none
    | _ => none

def firstLabel (name : Name) : List Char := name.takeWhile (· ≠ '.')

/-- A resolver that asks a question for each record it needs. -/
def resolve (ask : Name → RecordType → List Record) (service : Name) : Option Found := do
  let name ← ptrTarget service (ask service .ptr)
  let (port, host) ← srvTarget name (ask name .srv)
  some ⟨firstLabel name, port, addressesOf host (ask host .a ++ ask host .aaaa),
    textOf name (ask name .txt)⟩

/-- One that makes do with the records of a single answer. -/
def fromReply (records : List Record) (service : Name) : Option Found := do
  let name ← ptrTarget service records
  let (port, host) ← srvTarget name records
  some ⟨firstLabel name, port, addressesOf host records, textOf name records⟩

/-! ## Names -/

theorem sanitizeLabel_noDot (s : List Char) : '.' ∉ sanitizeLabel s := by
  unfold sanitizeLabel
  dsimp only
  split
  · decide
  · intro hmem
    obtain ⟨c, -, hc⟩ := List.mem_map.mp hmem
    split at hc
    · exact absurd hc (by decide)
    · rename_i hplain
      exact hplain (.inl hc)

theorem firstLabel_append {label : List Char} (h : '.' ∉ label) (rest : List Char) :
    firstLabel (label ++ '.' :: rest) = label := by
  have hall : ∀ c ∈ label, decide (c ≠ '.') = true := by
    intro c hc
    rw [decide_eq_true_eq]
    rintro rfl
    exact h hc
  rw [firstLabel, List.takeWhile_append_of_pos hall]
  simp

/-- Names that differ after their first label. -/
theorem name_ne {label label' rest rest' : List Char} (h : '.' ∉ label) (h' : '.' ∉ label')
    (hrest : rest ≠ rest') : label ++ '.' :: rest ≠ label' ++ '.' :: rest' := by
  intro heq
  have hlabel : label = label' := by
    rw [← firstLabel_append h rest, heq, firstLabel_append h' rest']
  rw [hlabel] at heq
  exact hrest (List.cons.inj (List.append_cancel_left heq)).2

/-- The four names that the responder knows are four names. -/
structure Named (p : Impl) : Prop where
  service : p.service ≠ dnsSdQuery
  instance_ne : p.serviceInstance ≠ dnsSdQuery ∧ p.serviceInstance ≠ p.service
  host_ne : p.hostQualified ≠ dnsSdQuery ∧ p.hostQualified ≠ p.service ∧
    p.hostQualified ≠ p.serviceInstance

theorem publisher_named (instanceName hostName : List Char) (port : ℤ)
    (txt : List (List Char × List Char)) : Named (publisher instanceName hostName port txt) := by
  have hinstance := sanitizeLabel_noDot instanceName
  have hhost := sanitizeLabel_noDot hostName
  have hquery : dnsSdQuery = "_services".toList ++ '.' :: "_dns-sd._udp.local.".toList := by
    decide
  have hservice : (publisher instanceName hostName port txt).service =
      "_wivrn".toList ++ '.' :: "_tcp.local.".toList := by
    show "_wivrn._tcp.local.".toList = _
    decide
  have hlocal : ".local.".toList = '.' :: "local.".toList := by decide
  refine ⟨?_, ⟨?_, ?_⟩, ?_, ?_, ?_⟩
  · show "_wivrn._tcp.local.".toList ≠ dnsSdQuery
    decide
  · rw [hquery]
    exact name_ne hinstance (by decide) (by decide)
  · rw [hservice]
    exact name_ne hinstance (by decide) (by decide)
  · rw [hquery]
    show sanitizeLabel hostName ++ ".local.".toList ≠ _
    rw [hlocal]
    exact name_ne hhost (by decide) (by decide)
  · rw [hservice]
    show sanitizeLabel hostName ++ ".local.".toList ≠ _
    rw [hlocal]
    exact name_ne hhost (by decide) (by decide)
  · show sanitizeLabel hostName ++ ".local.".toList ≠ _
    rw [hlocal]
    exact name_ne hhost hinstance (by decide)

/-! ## Answers to single questions -/

/-- Everything that one socket tells. -/
def zone (p : Impl) (s : Socket) : List Record :=
  ⟨dnsSdQuery, .ptr p.service, serviceTtl⟩ :: p.ptrRecord :: p.additionalFor s

/-- A socket as `open_sockets` leaves it: one address, under the name of the host. -/
structure Opened (p : Impl) (s : Socket) (addr : Address) : Prop where
  records : s.addresses = [⟨p.hostQualified, .address addr, addressTtl⟩]
  recordA : ∀ r, s.recordA = some r → r.data.type = .a
  recordAaaa : ∀ r, s.recordAaaa = some r → r.data.type = .aaaa

theorem openSockets_opened {p : Impl} {adapters : List Adapter} {s : Socket}
    (h : s ∈ openSockets p adapters) :
    ∃ a ∈ adapters, a.up ∧ ∃ u ∈ a.unicast, u.address.loopback = false ∧ s.fd = u.fd ∧
      Opened p s u.address := by
  obtain ⟨a, ha, hs⟩ := List.mem_flatMap.mp h
  obtain ⟨ha, hup⟩ := List.mem_filter.mp ha
  obtain ⟨u, hu, hsome⟩ := List.mem_filterMap.mp hs
  split at hsome
  · cases hsome
  · rename_i hplain
    have hloopback : u.address.loopback = false := by
      rw [← Bool.not_eq_true]
      exact fun hloopback => hplain (.inl hloopback)
    refine ⟨a, ha, hup, u, hu, hloopback, ?_⟩
    obtain ⟨address, fd⟩ := u
    cases address with
    | v4 addr =>
      cases hsome
      exact ⟨rfl, rfl, by rintro _ ⟨⟩; rfl, by rintro _ ⟨⟩⟩
    | v6 addr =>
      cases hsome
      exact ⟨rfl, rfl, by rintro _ ⟨⟩, by rintro _ ⟨⟩; rfl⟩

/-- A question of that type is answered with a record of this one. An `ANY` question for the
host is answered with an `A` record, and not at all where the socket has none. -/
def Asks (rtype : RecordType) (r : Record) : Prop :=
  rtype = r.data.type ∨ (rtype = .any ∧ r.data.type ≠ .aaaa)

theorem txt_name {p : Impl} {r : Record} (h : r ∈ p.txtRecords) :
    r.name = p.serviceInstance ∧ r.data.type = .txt := by
  obtain ⟨e, -, rfl⟩ := List.mem_map.mp h
  exact ⟨rfl, rfl⟩

section Answers

variable {p : Impl} {s : Socket} {addr : Address}

theorem classify_dnsSd (p : Impl) (rtype : RecordType) :
    classify p dnsSdQuery rtype = if rtype = .any ∨ rtype = .ptr then .dnsSdPtr else .none :=
  if_pos rfl

theorem classify_service (h : Named p) (rtype : RecordType) :
    classify p p.service rtype = if rtype = .any ∨ rtype = .ptr then .servicePtr else .none := by
  rw [classify, if_neg h.service, if_pos rfl]

theorem classify_instance (h : Named p) (rtype : RecordType) :
    classify p p.serviceInstance rtype =
      if rtype = .any ∨ rtype = .srv then .srv else if rtype = .txt then .txt else .none := by
  rw [classify, if_neg h.instance_ne.1, if_neg h.instance_ne.2, if_pos rfl]

theorem classify_host (h : Named p) (rtype : RecordType) :
    classify p p.hostQualified rtype =
      if rtype = .any ∨ rtype = .a then .a else if rtype = .aaaa then .aaaa else .none := by
  rw [classify, if_neg h.host_ne.1, if_neg h.host_ne.2.1, if_neg h.host_ne.2.2, if_pos rfl]

theorem mem_zone {r : Record} : r ∈ zone p s ↔
    r = ⟨dnsSdQuery, .ptr p.service, serviceTtl⟩ ∨ r = p.ptrRecord ∨ r = p.srvRecord ∨
      r ∈ s.addresses ∨ r ∈ p.txtRecords := by
  simp [zone, Impl.additionalFor]

/-- The question that leads to an answer. -/
def Leads (p : Impl) (name : Name) (rtype : RecordType) : Answer → Prop
  | .dnsSdPtr => name = dnsSdQuery ∧ (rtype = .any ∨ rtype = .ptr)
  | .servicePtr => name = p.service ∧ (rtype = .any ∨ rtype = .ptr)
  | .srv => name = p.serviceInstance ∧ (rtype = .any ∨ rtype = .srv)
  | .txt => name = p.serviceInstance ∧ rtype = .txt
  | .a => name = p.hostQualified ∧ (rtype = .any ∨ rtype = .a)
  | .aaaa => name = p.hostQualified ∧ rtype = .aaaa
  | .none => True

theorem classify_leads (p : Impl) (name : Name) (rtype : RecordType) :
    Leads p name rtype (classify p name rtype) := by
  unfold classify
  split_ifs with hquery hptr hservice hptr hinstance hsrv htxt hhost ha haaaa
  · exact ⟨hquery, hptr⟩
  · trivial
  · exact ⟨hservice, hptr⟩
  · trivial
  · exact ⟨hinstance, hsrv⟩
  · exact ⟨hinstance, htxt⟩
  · trivial
  · exact ⟨hhost, ha⟩
  · exact ⟨hhost, haaaa⟩
  · trivial
  · trivial

theorem asks_of {rtype : RecordType} {r : Record} {t : RecordType} (h : rtype = .any ∨ rtype = t)
    (hdata : r.data.type = t) (ht : t ≠ .aaaa) : Asks rtype r := by
  rcases h with hany | heq
  · refine .inr ⟨hany, ?_⟩
    rw [hdata]
    exact ht
  · exact .inl (heq.trans hdata.symm)

/-- An answer is a record of the socket's that was asked for, with records of the socket's. -/
theorem answer_sound (hopened : Opened p s addr) {name : Name} {rtype : RecordType} {r : Record}
    {more : List Record} (h : answerRecords p s (classify p name rtype) = some (r, more)) :
    r ∈ zone p s ∧ r.name = name ∧ Asks rtype r ∧ ∀ x ∈ more, x ∈ zone p s := by
  have hleads := classify_leads p name rtype
  have haddress : ∀ x, s.recordA = some x ∨ s.recordAaaa = some x →
      x ∈ zone p s ∧ x.name = p.hostQualified := by
    intro x hx
    have hmem : x ∈ s.addresses := by
      rcases hx with hx | hx <;> simp [Socket.addresses, hx]
    refine ⟨mem_zone.mpr (.inr (.inr (.inr (.inl hmem)))), ?_⟩
    rw [hopened.records] at hmem
    rw [List.mem_singleton.mp hmem]
  have htxt : ∀ x ∈ p.txtRecords, x ∈ zone p s := by
    intro x hx
    exact mem_zone.mpr (.inr (.inr (.inr (.inr hx))))
  cases hanswer : classify p name rtype with
  | none =>
    rw [hanswer] at h
    cases h
  | dnsSdPtr =>
    rw [hanswer] at h hleads
    cases h
    exact ⟨mem_zone.mpr (.inl rfl), hleads.1.symm, asks_of hleads.2 rfl (by decide),
      by rintro _ ⟨⟩⟩
  | servicePtr =>
    rw [hanswer] at h hleads
    cases h
    refine ⟨mem_zone.mpr (.inr (.inl rfl)), hleads.1.symm, asks_of hleads.2 rfl (by decide), ?_⟩
    intro x hx
    exact List.mem_cons_of_mem _ (List.mem_cons_of_mem _ hx)
  | srv =>
    rw [hanswer] at h hleads
    cases h
    refine ⟨mem_zone.mpr (.inr (.inr (.inl rfl))), hleads.1.symm,
      asks_of hleads.2 rfl (by decide), ?_⟩
    intro x hx
    exact mem_zone.mpr (.inr (.inr (.inr (List.mem_append.mp hx))))
  | txt =>
    rw [hanswer] at h hleads
    have hall : ∀ x ∈ r :: more, x ∈ p.txtRecords := by
      unfold answerRecords at h
      dsimp only at h
      split at h
      · cases h
      · rename_i first rest hrecords
        cases h
        rw [hrecords]
        exact fun x hx => hx
    obtain ⟨hname, htype⟩ := txt_name (hall r List.mem_cons_self)
    refine ⟨htxt r (hall r List.mem_cons_self), hname.trans hleads.1.symm,
      .inl (hleads.2.trans htype.symm), ?_⟩
    intro x hx
    exact htxt x (hall x (List.mem_cons_of_mem r hx))
  | a =>
    rw [hanswer] at h hleads
    obtain ⟨x, hx, heq⟩ := Option.map_eq_some_iff.mp h
    cases heq
    obtain ⟨hmem, hname⟩ := haddress r (.inl hx)
    refine ⟨hmem, hname.trans hleads.1.symm,
      asks_of hleads.2 (hopened.recordA r hx) (by decide), ?_⟩
    intro y hy
    exact (haddress y (.inr (Option.mem_toList.mp hy))).1
  | aaaa =>
    rw [hanswer] at h hleads
    obtain ⟨x, hx, heq⟩ := Option.map_eq_some_iff.mp h
    cases heq
    obtain ⟨hmem, hname⟩ := haddress r (.inr hx)
    refine ⟨hmem, hname.trans hleads.1.symm, .inl (hleads.2.trans (hopened.recordAaaa r hx).symm), ?_⟩
    intro y hy
    exact (haddress y (.inl (Option.mem_toList.mp hy))).1

/-- And whatever was asked for and is there is answered. -/
theorem answer_complete (hnamed : Named p) (hopened : Opened p s addr) {rtype : RecordType}
    {r : Record} (hr : r ∈ zone p s) (hasks : Asks rtype r) :
    (answerRecords p s (classify p r.name rtype)).isSome := by
  rcases mem_zone.mp hr with rfl | rfl | rfl | hmem | hmem
  · have htype : rtype = .any ∨ rtype = .ptr := hasks.elim .inr fun h => .inl h.1
    rw [classify_dnsSd, if_pos htype]
    rfl
  · have htype : rtype = .any ∨ rtype = .ptr := hasks.elim .inr fun h => .inl h.1
    rw [show p.ptrRecord.name = p.service from rfl, classify_service hnamed, if_pos htype]
    rfl
  · have htype : rtype = .any ∨ rtype = .srv := hasks.elim .inr fun h => .inl h.1
    rw [show p.srvRecord.name = p.serviceInstance from rfl, classify_instance hnamed, if_pos htype]
    rfl
  · have hname : r.name = p.hostQualified := by
      rw [hopened.records] at hmem
      rw [List.mem_singleton.mp hmem]
    rw [hname, classify_host hnamed]
    rcases List.mem_append.mp hmem with hA | hAaaa
    · have hrecord : s.recordA = some r := Option.mem_toList.mp hA
      have htype : rtype = .any ∨ rtype = .a := by
        rcases hasks with heq | hany
        · exact .inr (heq.trans (hopened.recordA r hrecord))
        · exact .inl hany.1
      rw [if_pos htype, answerRecords, hrecord]
      rfl
    · have hrecord : s.recordAaaa = some r := Option.mem_toList.mp hAaaa
      have haaaa := hopened.recordAaaa r hrecord
      have htype : rtype = .aaaa := by
        rcases hasks with heq | hany
        · exact heq.trans haaaa
        · exact absurd haaaa hany.2
      rw [htype, if_neg (by decide), if_pos rfl, answerRecords, hrecord]
      rfl
  · obtain ⟨hname, htxt⟩ := txt_name hmem
    rw [hname, classify_instance hnamed]
    rcases hasks with heq | hany
    · rw [heq, htxt, if_neg (by decide), if_pos rfl]
      unfold answerRecords
      dsimp only
      split
      · rename_i hnone
        rw [hnone] at hmem
        cases hmem
      · rfl
    · rw [if_pos (.inl hany.1)]
      rfl

theorem find_socket {sockets : List Socket} (hs : s ∈ sockets)
    (hfds : (sockets.map Socket.fd).Nodup) :
    (sockets.find? fun other => other.fd = s.fd) = some s := by
  induction sockets with
  | nil => cases hs
  | cons first rest ih =>
    rw [List.map_cons, List.nodup_cons] at hfds
    rcases List.mem_cons.mp hs with rfl | hrest
    · exact List.find?_cons_of_pos (decide_eq_true rfl)
    · have hother : first.fd ≠ s.fd := by
        intro heq
        exact hfds.1 (heq ▸ List.mem_map_of_mem hrest)
      rw [List.find?_cons_of_neg (by rw [decide_eq_true_eq]; exact hother)]
      exact ih hrest hfds.2

theorem callback_eq (hs : s ∈ p.sockets) (hfds : (p.sockets.map Socket.fd).Nodup) {q : Question}
    (hq : q.isQuestion) :
    callback p s.fd q = (answerRecords p s (classify p q.name q.rtype)).map fun records =>
      { dest := if q.unicastResponse then .unicast q.sender q.queryId q.rtype q.name
          else .multicast
        record := records.1
        additional := records.2 } := by
  rw [callback, if_pos hq, find_socket hs hfds]
  rfl

/-! ## What a resolver finds -/

/-- The records that come back for a question to a socket, by multicast or not. -/
def ask (p : Impl) (fd : ℤ) (unicast : Bool) (sender : ℕ) (queryId : UInt16) (name : Name)
    (rtype : RecordType) : List Record :=
  match callback p fd ⟨true, name, rtype, unicast, sender, queryId⟩ with
  | some r => r.record :: r.additional
  | none => []

def told (p : Impl) (addr : Address) : Found :=
  ⟨p.instanceLabel, UInt16.ofNat (p.port % 65536).toNat, [addr], p.txt⟩

theorem ask_eq (hs : s ∈ p.sockets) (hfds : (p.sockets.map Socket.fd).Nodup) (unicast : Bool)
    (sender : ℕ) (queryId : UInt16) (name : Name) (rtype : RecordType) :
    ask p s.fd unicast sender queryId name rtype =
      ((answerRecords p s (classify p name rtype)).map fun records =>
        records.1 :: records.2).getD [] := by
  rw [ask, callback_eq hs hfds rfl]
  cases answerRecords p s (classify p name rtype) <;> rfl

theorem textOf_txtRecords (p : Impl) : textOf p.serviceInstance p.txtRecords = p.txt := by
  rw [textOf, Impl.txtRecords, List.filterMap_map]
  exact (List.filterMap_congr fun e _ => if_pos rfl).trans List.filterMap_some

theorem addressesOf_txtRecords (p : Impl) (name : Name) : addressesOf name p.txtRecords = [] := by
  rw [addressesOf, Impl.txtRecords, List.filterMap_map, List.filterMap_eq_nil_iff]
  intro e _
  rfl

theorem ptrTarget_head (p : Impl) (records : List Record) :
    ptrTarget p.service (p.ptrRecord :: records) = some p.serviceInstance := by
  simp [ptrTarget, Impl.ptrRecord]

theorem srvTarget_head (p : Impl) (records : List Record) :
    srvTarget p.serviceInstance (p.srvRecord :: records) =
      some (UInt16.ofNat (p.port % 65536).toNat, p.hostQualified) := by
  simp [srvTarget, Impl.srvRecord]

theorem resolve_eq (hnamed : Named p) (hopened : Opened p s addr) (hs : s ∈ p.sockets)
    (hfds : (p.sockets.map Socket.fd).Nodup) (hlabel : firstLabel p.serviceInstance = p.instanceLabel)
    (unicast : Bool) (sender : ℕ) (queryId : UInt16) :
    resolve (ask p s.fd unicast sender queryId) p.service = some (told p addr) := by
  have hptr : ask p s.fd unicast sender queryId p.service .ptr =
      p.ptrRecord :: p.additionalFor s := by
    rw [ask_eq hs hfds, classify_service hnamed, if_pos (.inr rfl)]
    rfl
  have hsrv : ask p s.fd unicast sender queryId p.serviceInstance .srv =
      p.srvRecord :: (s.addresses ++ p.txtRecords) := by
    rw [ask_eq hs hfds, classify_instance hnamed, if_pos (.inr rfl)]
    rfl
  have htxt : ask p s.fd unicast sender queryId p.serviceInstance .txt = p.txtRecords := by
    rw [ask_eq hs hfds, classify_instance hnamed, if_neg (by decide), if_pos rfl]
    unfold answerRecords
    cases p.txtRecords <;> rfl
  have haddresses : addressesOf p.hostQualified
      (ask p s.fd unicast sender queryId p.hostQualified .a ++
        ask p s.fd unicast sender queryId p.hostQualified .aaaa) = [addr] := by
    rw [ask_eq hs hfds, ask_eq hs hfds, classify_host hnamed, classify_host hnamed,
      if_pos (.inr rfl), if_neg (by decide), if_pos rfl]
    have hrecords := hopened.records
    rw [Socket.addresses] at hrecords
    -- A socket has one of the two records
    cases hA : s.recordA with
    | none =>
      rw [hA, Option.toList_none, List.nil_append, Option.toList_eq_singleton_iff] at hrecords
      simp [answerRecords, hA, hrecords, addressesOf]
    | some r =>
      rw [hA, Option.toList_some, List.singleton_append, List.cons.injEq,
        Option.toList_eq_nil_iff] at hrecords
      simp [answerRecords, hA, hrecords, addressesOf]
  rw [resolve, hptr, ptrTarget_head, Option.bind_eq_bind, Option.bind_some, hsrv, srvTarget_head,
    Option.bind_eq_bind, Option.bind_some]
  dsimp only
  rw [haddresses, htxt, textOf_txtRecords, hlabel]
  rfl

theorem fromReply_eq (hopened : Opened p s addr)
    (hlabel : firstLabel p.serviceInstance = p.instanceLabel) :
    fromReply (p.ptrRecord :: p.additionalFor s) p.service = some (told p addr) := by
  have hsrv : srvTarget p.serviceInstance (p.ptrRecord :: p.additionalFor s) =
      some (UInt16.ofNat (p.port % 65536).toNat, p.hostQualified) := by
    rw [srvTarget, List.findSome?_cons_of_isNone rfl]
    exact srvTarget_head p _
  have haddresses : addressesOf p.hostQualified (p.ptrRecord :: p.additionalFor s) = [addr] := by
    have happend := addressesOf_txtRecords p p.hostQualified
    rw [Impl.additionalFor, hopened.records]
    simp only [addressesOf] at happend ⊢
    simp [happend, Impl.ptrRecord, Impl.srvRecord]
  have htxt : textOf p.serviceInstance (p.ptrRecord :: p.additionalFor s) = p.txt := by
    have happend := textOf_txtRecords p
    rw [Impl.additionalFor, hopened.records]
    simp only [textOf] at happend ⊢
    simp [happend, Impl.ptrRecord, Impl.srvRecord]
  rw [fromReply, ptrTarget_head, Option.bind_eq_bind, Option.bind_some, hsrv, Option.bind_eq_bind,
    Option.bind_some]
  dsimp only
  rw [haddresses, htxt, hlabel]
  rfl

end Answers

/-! ## Runs -/

/-- What the rounds of the loop send until it is told to stop: answers, and every 600th
time the announcement again. -/
def rounds (p : Impl) (ts : List Turn) : List Sent :=
  (ts.mapIdx fun k t => answers p t ++ if (k + 1) % 600 = 0 then announce p false else []).flatten

/-- And what they do when it is. -/
def farewell (p : Impl) : List Turn → List Sent
  | [] => []
  | t :: _ => answers p t ++ announce p true

theorem rounds_append (p : Impl) (ts : List Turn) (t : Turn) :
    rounds p (ts ++ [t]) = rounds p ts ++
      (answers p t ++ if (ts.length + 1) % 600 = 0 then announce p false else []) := by
  rw [rounds, List.mapIdx_append, List.flatten_append]
  simp [rounds]

theorem turn_on (p : Impl) (next : ℕ) (sent : List Sent) {t : Turn} (h : t.stop = false) :
    turn p ⟨next, true, sent⟩ t =
      if next ≤ 100 then ⟨announceIntervalMs, true, sent ++ answers p t ++ announce p false⟩
      else ⟨next - 100, true, sent ++ answers p t⟩ := by
  rw [turn, if_pos rfl]
  dsimp only
  rw [if_neg (by rw [h]; decide)]

/-- The loop until it is told to stop, by rounds. -/
theorem run_rounds (p : Impl) (sent : List Sent) (ts : List Turn) :
    (∀ t ∈ ts, t.stop = false) → ts.foldl (turn p) ⟨announceIntervalMs, true, sent⟩ =
      ⟨60000 - 100 * (ts.length % 600), true, sent ++ rounds p ts⟩ := by
  induction ts using List.reverseRecOn with
  | nil =>
    intro _
    simp [announceIntervalMs, rounds]
  | append_singleton ts t ih =>
    intro hgo
    have hbefore := ih fun t' ht' => hgo t' (List.mem_append_left [t] ht')
    have hstop : t.stop = false := hgo t (List.mem_append_right ts (List.mem_singleton_self t))
    have hrange : ts.length % 600 < 600 := Nat.mod_lt _ (by norm_num)
    rw [List.foldl_append, hbefore, List.foldl_cons, List.foldl_nil, rounds_append,
      List.length_append, List.length_singleton, turn_on p _ _ hstop]
    by_cases hdue : 60000 - 100 * (ts.length % 600) ≤ 100
    · -- The six hundredth round since the last announcement
      have hlast : (ts.length + 1) % 600 = 0 := by omega
      rw [if_pos hdue, if_pos hlast, hlast]
      simp [announceIntervalMs]
    · have hnot : (ts.length + 1) % 600 ≠ 0 := by omega
      have hnext : 60000 - 100 * (ts.length % 600) - 100 = 60000 - 100 * ((ts.length + 1) % 600) := by
        omega
      rw [if_neg hdue, if_neg hnot, hnext]
      simp

theorem stopped_foldl (p : Impl) (ts : List Turn) (s : State) (h : s.running = false) :
    ts.foldl (turn p) s = s := by
  induction ts with
  | nil => rfl
  | cons t ts ih =>
    rw [List.foldl_cons, turn, if_neg (by rw [h]; decide)]
    exact ih

theorem run_sent (p : Impl) (sent : List Sent) (ts : List Turn) :
    (ts.foldl (turn p) ⟨announceIntervalMs, true, sent⟩).sent =
      sent ++ rounds p (ts.takeWhile fun t => !t.stop) ++
        farewell p (ts.dropWhile fun t => !t.stop) := by
  have hgo : ∀ t ∈ ts.takeWhile fun t => !t.stop, t.stop = false := by
    intro t ht
    have := List.mem_takeWhile_imp ht
    rwa [Bool.not_eq_true'] at this
  have hrun := run_rounds p sent (ts.takeWhile fun t => !t.stop) hgo
  conv_lhs => rw [← List.takeWhile_append_dropWhile (p := fun t : Turn => !t.stop) (l := ts),
    List.foldl_append, hrun]
  cases hrest : ts.dropWhile fun t => !t.stop with
  | nil =>
    rw [farewell, List.append_nil]
    rfl
  | cons t rest =>
    have hstop : t.stop = true := by
      have hhead := List.head_dropWhile_not (fun t : Turn => !t.stop) (l := ts)
        (by rw [hrest]; exact List.cons_ne_nil t rest)
      simp only [hrest, List.head_cons, Bool.not_eq_false'] at hhead
      exact hhead
    rw [List.foldl_cons, turn, if_pos rfl, if_pos hstop, stopped_foldl p rest _ rfl, farewell]
    simp

/-- The responder, from the names and adapters that it is given to all that it sends. -/
structure Serves (p : Impl) (adapters : List Adapter) (s : Socket) (addr : Address) : Prop where
  /-- The address is one that Windows listed for an adapter that is up, and no loopback. -/
  listed : ∃ a ∈ adapters, a.up ∧ ∃ u ∈ a.unicast, u.address = addr ∧ u.fd = s.fd ∧
    addr.loopback = false
  sound : ∀ q r, q.isQuestion → callback p s.fd q = some r →
    r.record ∈ zone p s ∧ r.record.name = q.name ∧ Asks q.rtype r.record ∧
      (∀ x ∈ r.additional, x ∈ zone p s) ∧
      r.dest = if q.unicastResponse then .unicast q.sender q.queryId q.rtype q.name
        else .multicast
  complete : ∀ q, q.isQuestion → (∃ r ∈ zone p s, r.name = q.name ∧ Asks q.rtype r) →
    (callback p s.fd q).isSome
  resolved : ∀ unicast sender queryId,
    resolve (ask p s.fd unicast sender queryId) p.service = some (told p addr)
  announced : fromReply (p.ptrRecord :: p.additionalFor s) p.service = some (told p addr)

theorem serves {p : Impl} {adapters : List Adapter} {s : Socket} (hnamed : Named p)
    (hlabel : firstLabel p.serviceInstance = p.instanceLabel)
    (hsockets : p.sockets = openSockets p adapters) (hfds : (p.sockets.map Socket.fd).Nodup)
    (hs : s ∈ p.sockets) : ∃ addr, Serves p adapters s addr := by
  have hmem := hs
  rw [hsockets] at hmem
  obtain ⟨a, ha, hup, u, hu, hloopback, hfd, hopened⟩ := openSockets_opened hmem
  refine ⟨u.address, ⟨a, ha, hup, u, hu, rfl, hfd.symm, hloopback⟩, ?_, ?_, ?_, ?_⟩
  · intro q r hq hr
    rw [callback_eq hs hfds hq] at hr
    obtain ⟨⟨record, more⟩, hanswer, rfl⟩ := Option.map_eq_some_iff.mp hr
    obtain ⟨hzone, hname, hasks, hmore⟩ := answer_sound hopened hanswer
    exact ⟨hzone, hname, hasks, hmore, rfl⟩
  · rintro q hq ⟨r, hr, hname, hasks⟩
    rw [callback_eq hs hfds hq, Option.isSome_map, ← hname]
    exact answer_complete hnamed hopened hr hasks
  · intro unicast sender queryId
    exact resolve_eq hnamed hopened hs hfds hlabel unicast sender queryId
  · exact fromReply_eq hopened hlabel

/-- For whatever names, adapters and questions: each socket answers exactly the questions
about what it has to tell, a resolver finds the server the same way by single questions and
from one answer or announcement, and all that is ever sent is that, every minute again,
and one farewell that takes back what was announced. -/
theorem mdns_service (instanceName hostName : List Char) (port : ℤ)
    (txt : List (List Char × List Char)) (adapters : List Adapter) (p : Impl) (s₀ : State)
    (hstart : start (publisher instanceName hostName port txt) adapters = some (p, s₀))
    (hfds : (p.sockets.map Socket.fd).Nodup) :
    (∀ s ∈ p.sockets, ∃ addr, Serves p adapters s addr ∧
      told p addr = ⟨sanitizeLabel instanceName, UInt16.ofNat (port % 65536).toNat, [addr], txt⟩) ∧
    ∀ ts : List Turn, (ts.foldl (turn p) s₀).sent = announce p false ++
      rounds p (ts.takeWhile fun t => !t.stop) ++ farewell p (ts.dropWhile fun t => !t.stop) := by
  have hnamed := publisher_named instanceName hostName port txt
  unfold start at hstart
  dsimp only at hstart
  split at hstart
  · cases hstart
  · obtain ⟨hp, hs₀⟩ := Prod.mk.inj (Option.some.inj hstart)
    have hnames : Named p := by
      rw [← hp]
      exact ⟨hnamed.service, hnamed.instance_ne, hnamed.host_ne⟩
    have hlabel : firstLabel p.serviceInstance = p.instanceLabel := by
      rw [← hp]
      exact firstLabel_append (sanitizeLabel_noDot instanceName) _
    have hsockets : p.sockets = openSockets p adapters := by
      rw [← hp]
      rfl
    constructor
    · intro s hs
      obtain ⟨addr, haddr⟩ := serves hnames hlabel hsockets hfds hs
      refine ⟨addr, haddr, ?_⟩
      rw [← hp]
      rfl
    · intro ts
      rw [← hs₀, hp]
      exact run_sent p (announce p false) ts

theorem mdns_service_one_adapter :
    ∃ p s₀, start (publisher "PC.1".toList "PC.1".toList 9757 [("cookie".toList, "c".toList)])
        [⟨true, [⟨.v4 0x7f000001, 3⟩, ⟨.v4 0xc0a80102, 4⟩, ⟨.v6 7#128, 5⟩]⟩] = some (p, s₀) ∧
      ∀ s ∈ p.sockets, ∃ addr, told p addr = ⟨"PC-1".toList, 9757, [addr],
        [("cookie".toList, "c".toList)]⟩ := by
  refine ⟨_, _, rfl, fun s hs => ?_⟩
  obtain ⟨addr, -, htold⟩ := (mdns_service "PC.1".toList "PC.1".toList 9757
    [("cookie".toList, "c".toList)]
    [⟨true, [⟨.v4 0x7f000001, 3⟩, ⟨.v4 0xc0a80102, 4⟩, ⟨.v6 7#128, 5⟩]⟩] _ _ rfl
    (by decide)).1 s hs
  exact ⟨addr, htold⟩

end WivrnNx.Mdns
