import WivrnNx.Store
import WivrnNx.Lib.Runs

/-!
# The handshake

`Session::handshake` (wivrn/session.cpp) from the client's `crypto_handshake` on: one
step for each packet it waits for. The key parser, the printing of keys, the
generated key pair and the two server steps of the PIN check are parameters.

- `receive`: what the session does with the packet it was waiting for;
- `AuthGate`: who gets past the handshake, and who is remembered;
- `auth_gate_iff`: exactly when it holds, whatever the client sends next. A client is
  looked up by the text it sent, and the secrets come from the key in that text.
-/

namespace WivrnNx

/-- `EncryptionState`. -/
inductive EncryptionState where
  | disabled | enabled | pairing
deriving DecidableEq, Repr

/-- The crypto library. The PIN check keeps a state between its steps: the second is
also given the first message. -/
structure Crypto (Key Message : Type) where
  /-- `key::from_public_key`, which throws on what it cannot parse. -/
  fromPublicKey : Text → Option Key
  /-- `key::public_key`. -/
  publicKey : Key → Text
  /-- `key::generate_x448_keypair`. -/
  serverKey : Key
  /-- `smp::step2` and `smp::step4`, `none` for `smp_cheated`. -/
  step2 : Message → Text → Option Message
  step4 : Message → Message → Option (Message × Bool)

/-- `from_headset::crypto_handshake`. -/
structure Hello where
  protocolVersion : ℕ
  publicKey : Text
  name : Text

/-- `from_headset::packets`, as far as the handshake tells them apart. -/
inductive FromHeadset (Message : Type) where
  | cryptoHandshake (hello : Hello)
  | pinCheck1 (message : Message)
  | pinCheck3 (message : Message)
  | handshake
  | headsetInfo
  | other

/-- What `receive_one` comes back with. -/
inductive Received (Message : Type) where
  | packet (p : FromHeadset Message)
  /-- It throws: cancelled, a socket error, or nothing in time. -/
  | fails

/-- `to_headset::crypto_handshake::crypto_state`. -/
inductive CryptoState where
  | encryptionDisabled | pairingDisabled | incompatibleVersion | clientAlreadyPaired | pinNeeded
deriving DecidableEq, Repr

/-- What the handshake sends. -/
inductive ToHeadset (Message : Type) where
  | cryptoHandshake (publicKey : Text) (state : CryptoState)
  | pinCheck2 (message : Message)
  | pinCheck4 (message : Message)
  | handshake

/-- The exceptions that end a handshake. -/
inductive HandshakeError where
  | receive | unexpectedPacket | badKey | incompatibleVersion | pairingDisabled | incorrectPin
  | unableToCheckPin | noHandshake
deriving DecidableEq, Repr

/-- What a handshake does, in order. -/
inductive Deed (Key Message : Type) where
  | send (reply : ToHeadset Message)
  /-- PIN accepted. -/
  | pinMatch
  /-- The secrets are derived and set on the sockets. -/
  | setAesKeys (serverKey headsetKey : Key) (pin : Text)
  /-- Encrypted control established. -/
  | established
  | addKnownKey (key : HeadsetKey)

/-- The headset behind the connection. -/
structure Peer (Key : Type) where
  key : Key
  known : Bool
  name : Text

/-- The packet that the handshake is waiting for. -/
inductive Phase (Key Message : Type) where
  | hello
  | pinCheck1 (peer : Peer Key)
  | pinCheck3 (peer : Peer Key) (message1 : Message)
  | confirm (peer : Peer Key)
  | stream (peer : Peer Key)
  | info (peer : Peer Key)
  | complete
  | failed (error : HandshakeError)

/-- `ServerOptions`, and the protocol version that the helper was built with. -/
structure ServerOptions where
  encryption : EncryptionState := .pairing
  pin : Text
  protocolVersion : ℕ

/-- A handshake so far. -/
structure Handshake (Key Message : Type) where
  phase : Phase Key Message := .hello
  deeds : List (Deed Key Message) := []

namespace Handshake

variable {Key Message : Type}

/-! ## The steps -/

/-- Something is done, and the next packet awaited. -/
def next (h : Handshake Key Message) (deeds : List (Deed Key Message))
    (phase : Phase Key Message) : Handshake Key Message :=
  { phase := phase, deeds := h.deeds ++ deeds }

/-- An exception. -/
def fail (h : Handshake Key Message) (error : HandshakeError) : Handshake Key Message :=
  h.next [] (.failed error)

/-- The secrets: a paired headset needs no PIN. -/
def secrets (c : Crypto Key Message) (o : ServerOptions) (peer : Peer Key) : Deed Key Message :=
  .setAesKeys c.serverKey peer.key (if peer.known then List.replicate 6 '0' else o.pin)

/-- The reply that announces the server's ephemeral key. -/
def announce (c : Crypto Key Message) (peer : Peer Key) : Deed Key Message :=
  .send (.cryptoHandshake (c.publicKey c.serverKey)
    (if peer.known then .clientAlreadyPaired else .pinNeeded))

/-- `case EncryptionState::pairing`, which an `enabled` one falls through to. -/
def agree (c : Crypto Key Message) (o : ServerOptions) (peer : Peer Key)
    (h : Handshake Key Message) : Handshake Key Message :=
  if peer.known then h.next [announce c peer, secrets c o peer] (.confirm peer)
  else h.next [announce c peer] (.pinCheck1 peer)

/-- The client's key, and whether it is a paired one. -/
def receiveHello (c : Crypto Key Message) (o : ServerOptions) (store : Text) (hello : Hello)
    (h : Handshake Key Message) : Handshake Key Message :=
  if hello.protocolVersion ≠ o.protocolVersion then
    h.next [.send (.cryptoHandshake [] .incompatibleVersion)] (.failed .incompatibleVersion)
  else
    match c.fromPublicKey hello.publicKey with
    | none => h.fail .badKey
    | some key =>
      let peer : Peer Key :=
        { key := key, known := isKeyKnown store (cleanKey hello.publicKey), name := hello.name }
      match o.encryption with
      | .disabled =>
        h.next [.send (.cryptoHandshake [] .encryptionDisabled)] (.confirm peer)
      | .enabled =>
        if peer.known then h.agree c o peer
        else h.next [.send (.cryptoHandshake [] .pairingDisabled)] (.failed .pairingDisabled)
      | .pairing => h.agree c o peer

/-- The end: a headset that just paired is remembered under the key that was parsed. -/
def finish (c : Crypto Key Message) (o : ServerOptions) (peer : Peer Key)
    (h : Handshake Key Message) : Handshake Key Message :=
  h.next
    (if o.encryption = .pairing ∧ ¬ peer.known
      then [.addKnownKey { publicKey := cleanKey (c.publicKey peer.key), name := peer.name }]
      else [])
    .complete

/-- What the packet that arrived leads to. -/
def receive (c : Crypto Key Message) (o : ServerOptions) (store : Text)
    (h : Handshake Key Message) : Received Message → Handshake Key Message
  | .fails =>
    match h.phase with
    | .complete | .failed _ => h
    | _ => h.fail .receive
  | .packet p =>
    match h.phase, p with
    | .hello, .cryptoHandshake hello => h.receiveHello c o store hello
    | .hello, _ => h.fail .unexpectedPacket
    | .pinCheck1 peer, .pinCheck1 message =>
      match c.step2 message o.pin with
      | none => h.fail .unableToCheckPin
      | some reply => h.next [.send (.pinCheck2 reply)] (.pinCheck3 peer message)
    | .pinCheck1 _, _ => h.fail .unexpectedPacket
    | .pinCheck3 peer message1, .pinCheck3 message =>
      match c.step4 message1 message with
      | none => h.fail .unableToCheckPin
      | some (reply, false) => h.next [.send (.pinCheck4 reply)] (.failed .incorrectPin)
      | some (reply, true) =>
        h.next [.send (.pinCheck4 reply), .pinMatch, secrets c o peer] (.confirm peer)
    | .pinCheck3 _ _, _ => h.fail .unexpectedPacket
    | .confirm peer, .cryptoHandshake _ => h.next [.established, .send .handshake] (.stream peer)
    | .confirm _, _ => h.fail .noHandshake
    | .stream peer, .handshake => h.next [.send .handshake] (.info peer)
    | .stream _, _ => h.fail .noHandshake
    | .info peer, .headsetInfo => h.finish c o peer
    | .info _, _ => h.fail .unexpectedPacket
    | .complete, _ => h
    | .failed _, _ => h

/-- A handshake with everything that was received in it. -/
def run (c : Crypto Key Message) (o : ServerOptions) (store : Text)
    (received : List (Received Message)) : Handshake Key Message :=
  received.foldl (fun h r => h.receive c o store r) {}

/-! ## The gate -/

/-- The keys that secrets were derived from. -/
def derivedKeys (deeds : List (Deed Key Message)) : List Key :=
  deeds.filterMap fun
    | .setAesKeys _ key _ => some key
    | _ => none

/-- The key in the client's first packet. -/
def parsedKey (c : Crypto Key Message) (received : List (Received Message)) : Option Key :=
  match received.head? with
  | some (.packet (.cryptoHandshake hello)) => c.fromPublicKey hello.publicKey
  | _ => none

/-- The key is in the store, in its canonical form. -/
def InStore (c : Crypto Key Message) (store : Text) (key : Key) : Prop :=
  isKeyKnown store (cleanKey (c.publicKey key)) = true

/-- Who gets past the handshake, and who is remembered. -/
structure AuthGate (c : Crypto Key Message) (o : ServerOptions) (store : Text)
    (received : List (Received Message)) : Prop where
  /-- Without a PIN match, only the holder of a paired key. -/
  paired : o.encryption ≠ .disabled → .established ∈ (run c o store received).deeds →
    .pinMatch ∉ (run c o store received).deeds →
      ∃ key, derivedKeys (run c o store received).deeds = [key] ∧ InStore c store key
  /-- With `enabled`, only a client whose key is paired. -/
  enabled : o.encryption = .enabled → ∀ key, parsedKey c received = some key →
    ¬ InStore c store key → .established ∉ (run c o store received).deeds
  /-- Only a key that was parsed is remembered, after its PIN match. -/
  remembered : ∀ k, .addKnownKey k ∈ (run c o store received).deeds →
    List.Sublist [.pinMatch, .addKnownKey k] (run c o store received).deeds ∧
      ∃ key, parsedKey c received = some key ∧ k.publicKey = cleanKey (c.publicKey key)

/-- The client is not mistaken for another: its text is known only as the key that is
parsed from it is. -/
def Identified (c : Crypto Key Message) (o : ServerOptions) (store : Text) :
    Received Message → Prop
  | .packet (.cryptoHandshake hello) =>
    o.encryption = .disabled ∨ hello.protocolVersion ≠ o.protocolVersion ∨
      ∀ key, c.fromPublicKey hello.publicKey = some key →
        isKeyKnown store (cleanKey hello.publicKey) = true → InStore c store key
  | _ => True

/-! ## What the steps keep -/

/-- The secrets were derived from the client's key, and only a known client was spared
the PIN. -/
def Agreed (o : ServerOptions) (peer : Peer Key) (deeds : List (Deed Key Message)) : Prop :=
  o.encryption = .disabled ∨
    (derivedKeys deeds = [peer.key] ∧
      (peer.known = true ∨ (o.encryption = .pairing ∧ .pinMatch ∈ deeds)))

/-- What has been done by the time a packet is awaited. -/
def PhaseInv (o : ServerOptions) (peer : Peer Key) (deeds : List (Deed Key Message)) :
    Phase Key Message → Prop
  | .hello => False
  -- While the PIN is asked for, nothing is agreed
  | .pinCheck1 p | .pinCheck3 p _ =>
    p = peer ∧ o.encryption = .pairing ∧ derivedKeys deeds = [] ∧ .established ∉ deeds
  | .confirm p | .stream p | .info p => p = peer ∧ Agreed o peer deeds
  | .complete | .failed _ => True

/-- The invariant of a handshake with one client. -/
structure Inv (c : Crypto Key Message) (o : ServerOptions) (peer : Peer Key)
    (h : Handshake Key Message) : Prop where
  phase : PhaseInv o peer h.deeds h.phase
  established : .established ∈ h.deeds → Agreed o peer h.deeds
  remembered : ∀ k, .addKnownKey k ∈ h.deeds →
    List.Sublist [.pinMatch, .addKnownKey k] h.deeds ∧
      k.publicKey = cleanKey (c.publicKey peer.key)

theorem derivedKeys_append (before after : List (Deed Key Message)) :
    derivedKeys (before ++ after) = derivedKeys before ++ derivedKeys after :=
  List.filterMap_append

variable {c : Crypto Key Message} {o : ServerOptions} {peer : Peer Key}
  {h : Handshake Key Message}

/-- What was agreed stays agreed while no other secrets are derived. -/
theorem Agreed.append {before after : List (Deed Key Message)} (hagreed : Agreed o peer before)
    (hafter : derivedKeys after = []) : Agreed o peer (before ++ after) := by
  rcases hagreed with hdisabled | ⟨hderived, hspared⟩
  · exact .inl hdisabled
  · refine .inr ⟨by rw [derivedKeys_append, hderived, hafter, List.append_nil], ?_⟩
    rcases hspared with hknown | ⟨hpairing, hmatch⟩
    · exact .inl hknown
    · exact .inr ⟨hpairing, List.mem_append_left _ hmatch⟩

theorem Inv.next (hi : Inv c o peer h) {deeds : List (Deed Key Message)}
    {phase : Phase Key Message} (hphase : PhaseInv o peer (h.deeds ++ deeds) phase)
    (hagreed : .established ∈ h.deeds ++ deeds → Agreed o peer (h.deeds ++ deeds))
    (hadd : ∀ k, .addKnownKey k ∈ deeds →
      List.Sublist [.pinMatch, .addKnownKey k] (h.deeds ++ deeds) ∧
        k.publicKey = cleanKey (c.publicKey peer.key)) :
    Inv c o peer (h.next deeds phase) := by
  refine ⟨hphase, hagreed, fun k hk => ?_⟩
  rcases List.mem_append.mp hk with hbefore | hafter
  · rcases hi.remembered k hbefore with ⟨hsub, hkey⟩
    exact ⟨hsub.trans (List.sublist_append_left _ _), hkey⟩
  · exact hadd k hafter

/-- Replies alone agree nothing and remember nothing. -/
theorem Inv.sends (hi : Inv c o peer h) (reply : ToHeadset Message) {phase : Phase Key Message}
    (hphase : PhaseInv o peer (h.deeds ++ [.send reply]) phase) :
    Inv c o peer (h.next [.send reply] phase) := by
  refine hi.next hphase (fun hest => ?_) (by simp)
  have hbefore : .established ∈ h.deeds := by simpa using hest
  exact (hi.established hbefore).append rfl

theorem Inv.fail (hi : Inv c o peer h) (error : HandshakeError) :
    Inv c o peer (h.fail error) := by
  refine hi.next trivial ?_ (by simp)
  rw [List.append_nil]
  exact hi.established

/-- The PIN check passed: the secrets are derived, from the client's key. -/
theorem Inv.pinMatch (hi : Inv c o peer h) (hasking : o.encryption = .pairing ∧
    derivedKeys h.deeds = [] ∧ .established ∉ h.deeds) (reply : ToHeadset Message) :
    Inv c o peer (h.next [.send reply, .pinMatch, secrets c o peer] (.confirm peer)) := by
  have hagreed : Agreed o peer (h.deeds ++ [.send reply, .pinMatch, secrets c o peer]) := by
    refine .inr ⟨?_, .inr ⟨hasking.1, by simp⟩⟩
    rw [derivedKeys_append, hasking.2.1]
    rfl
  exact hi.next ⟨rfl, hagreed⟩ (fun _ => hagreed) (by simp [secrets])

/-- The end of a handshake remembers no key but one that was asked for the PIN. -/
theorem Inv.finish (hi : Inv c o peer h) (hagreed : Agreed o peer h.deeds) :
    Inv c o peer (h.finish c o peer) := by
  unfold Handshake.finish
  split
  · rename_i hpairing
    rcases hagreed with hdisabled | ⟨hderived, hspared⟩
    · rw [hpairing.1] at hdisabled
      cases hdisabled
    · have hmatch : .pinMatch ∈ h.deeds := by
        rcases hspared with hknown | ⟨-, hmatch⟩
        · exact absurd hknown hpairing.2
        · exact hmatch
      refine hi.next trivial (fun hest => ?_) fun k hk => ?_
      · have hbefore : .established ∈ h.deeds := by simpa using hest
        exact (hi.established hbefore).append rfl
      · simp only [List.mem_singleton, Deed.addKnownKey.injEq] at hk
        subst hk
        exact ⟨(List.singleton_sublist.mpr hmatch).append (List.Sublist.refl [_]), rfl⟩
  · refine hi.next trivial ?_ (by simp)
    rw [List.append_nil]
    exact hi.established

/-- Whatever arrives, one step keeps the invariant. -/
theorem receive_inv (store : Text) (hi : Inv c o peer h) (r : Received Message) :
    Inv c o peer (h.receive c o store r) := by
  have hphase := hi.phase
  cases r with
  | fails =>
    simp only [receive]
    split
    · exact hi
    · exact hi
    · exact hi.fail _
  | packet p =>
    cases hat : h.phase with
    | hello =>
      rw [hat] at hphase
      exact hphase.elim
    | pinCheck1 client =>
      rw [hat] at hphase
      rcases hphase with ⟨rfl, hpairing, hderived, hest⟩
      cases p with
      | pinCheck1 message =>
        simp only [receive, hat]
        split
        · exact hi.fail _
        · exact hi.sends _ ⟨rfl, hpairing, by simpa [derivedKeys] using hderived,
            by simpa using hest⟩
      | _ => simpa only [receive, hat] using hi.fail _
    | pinCheck3 client message1 =>
      rw [hat] at hphase
      rcases hphase with ⟨rfl, hasking⟩
      cases p with
      | pinCheck3 message =>
        -- The verdict
        simp only [receive, hat]
        split
        · exact hi.fail _
        · exact hi.sends _ trivial
        · exact hi.pinMatch hasking _
      | _ => simpa only [receive, hat] using hi.fail _
    | confirm client =>
      rw [hat] at hphase
      rcases hphase with ⟨rfl, hagreed⟩
      cases p with
      | cryptoHandshake hello =>
        have hafter : Agreed o client (h.deeds ++ [.established, .send .handshake]) :=
          hagreed.append rfl
        simp only [receive, hat]
        exact hi.next ⟨rfl, hafter⟩ (fun _ => hafter) (by simp)
      | _ => simpa only [receive, hat] using hi.fail _
    | stream client =>
      rw [hat] at hphase
      rcases hphase with ⟨rfl, hagreed⟩
      cases p with
      | handshake =>
        simp only [receive, hat]
        exact hi.sends _ ⟨rfl, hagreed.append rfl⟩
      | _ => simpa only [receive, hat] using hi.fail _
    | info client =>
      rw [hat] at hphase
      rcases hphase with ⟨rfl, hagreed⟩
      cases p with
      | headsetInfo =>
        simp only [receive, hat]
        exact hi.finish hagreed
      | _ => simpa only [receive, hat] using hi.fail _
    | complete => simpa only [receive, hat] using hi
    | failed error => simpa only [receive, hat] using hi

/-! ## Runs -/

/-- The headset behind the first packet. -/
def peerOf (store : Text) (hello : Hello) (key : Key) : Peer Key :=
  { key := key, known := isKeyKnown store (cleanKey hello.publicKey), name := hello.name }

theorem foldl_inv (store : Text) (hi : Inv c o peer h) (rest : List (Received Message)) :
    Inv c o peer (rest.foldl (fun h r => h.receive c o store r) h) := by
  induction rest generalizing h with
  | nil => exact hi
  | cons r rest ih => exact ih (receive_inv store hi r)

/-- A handshake that is over does nothing more. -/
theorem foldl_failed (store : Text) {error : HandshakeError} (hover : h.phase = .failed error)
    (rest : List (Received Message)) :
    rest.foldl (fun h r => h.receive c o store r) h = h := by
  induction rest with
  | nil => rfl
  | cons r rest ih =>
    have hstays : h.receive c o store r = h := by
      cases r <;> simp only [receive, hover]
    rw [List.foldl_cons, hstays]
    exact ih

/-- A key agreement starts with a client that is known, or one that may pair. -/
theorem agree_inv (c : Crypto Key Message) (o : ServerOptions) (peer : Peer Key)
    (hmay : peer.known = true ∨ o.encryption = .pairing) :
    Inv c o peer (agree c o peer {}) := by
  unfold agree
  split
  · rename_i hknown
    have hagreed : Agreed o peer [announce c peer, secrets c o peer] :=
      .inr ⟨rfl, .inl hknown⟩
    exact ⟨⟨rfl, hagreed⟩, fun _ => hagreed, by simp [Handshake.next, announce, secrets]⟩
  · rename_i hunknown
    have hpairing := hmay.resolve_left hunknown
    exact ⟨⟨rfl, hpairing, rfl, by simp [Handshake.next, announce]⟩,
      by simp [Handshake.next, announce], by simp [Handshake.next, announce]⟩

/-- The first packet, once its key is parsed. -/
theorem receiveHello_inv (store : Text) {hello : Hello} {key : Key}
    (hversion : hello.protocolVersion = o.protocolVersion)
    (hkey : c.fromPublicKey hello.publicKey = some key) :
    Inv c o (peerOf store hello key) (receiveHello c o store hello {}) := by
  unfold receiveHello
  rw [if_neg (not_not.mpr hversion), hkey]
  dsimp only
  split
  · rename_i hdisabled
    exact ⟨⟨rfl, .inl hdisabled⟩, fun _ => .inl hdisabled, by simp [Handshake.next]⟩
  · split
    · rename_i hknown
      exact agree_inv c o _ (.inl hknown)
    · exact ⟨trivial, by simp [Handshake.next], by simp [Handshake.next]⟩
  · rename_i hpairing
    exact agree_inv c o _ (.inr hpairing)

/-- The invariant is the gate, for a client that is not mistaken for another. -/
theorem Inv.gate {store : Text} {received : List (Received Message)}
    (hi : Inv c o peer (run c o store received)) (hparsed : parsedKey c received = some peer.key)
    (hid : o.encryption = .disabled ∨ (peer.known = true → InStore c store peer.key)) :
    AuthGate c o store received where
  paired hencrypted hest hunmatched := by
    rcases hi.established hest with hdisabled | ⟨hderived, hknown | ⟨-, hmatch⟩⟩
    · exact absurd hdisabled hencrypted
    · exact ⟨peer.key, hderived, hid.resolve_left hencrypted hknown⟩
    · exact absurd hmatch hunmatched
  enabled henabled key hkey hunpaired hest := by
    rw [hparsed] at hkey
    cases hkey
    have hencrypted : o.encryption ≠ .disabled := by simp [henabled]
    rcases hi.established hest with hdisabled | ⟨-, hknown | ⟨hpairing, -⟩⟩
    · exact hencrypted hdisabled
    · exact hunpaired (hid.resolve_left hencrypted hknown)
    · rw [henabled] at hpairing
      cases hpairing
  remembered k hk := by
    rcases hi.remembered k hk with ⟨hsub, hkey⟩
    exact ⟨hsub, peer.key, hparsed, hkey⟩

/-- A handshake that got nowhere lets nobody in. -/
theorem gate_of_quiet {store : Text} {received : List (Received Message)}
    (hest : .established ∉ (run c o store received).deeds)
    (hadd : ∀ k, .addKnownKey k ∉ (run c o store received).deeds) :
    AuthGate c o store received where
  paired _ h _ := absurd h hest
  enabled _ _ _ _ := hest
  remembered k hk := absurd hk (hadd k)

/-- A first packet that ends the handshake. -/
theorem gate_of_failed {store : Text} {first : Received Message} (error : HandshakeError)
    (hover : (receive c o store {} first).phase = .failed error)
    (hest : .established ∉ (receive c o store {} first).deeds)
    (hadd : ∀ k, .addKnownKey k ∉ (receive c o store {} first).deeds)
    (rest : List (Received Message)) : AuthGate c o store (first :: rest) := by
  have hrun : run c o store (first :: rest) = receive c o store {} first :=
    foldl_failed store hover rest
  refine gate_of_quiet ?_ ?_
  · rw [hrun]
    exact hest
  · rw [hrun]
    exact hadd

/-- What a client with a known text gets by answering with the agreed keys. -/
theorem run_known {store : Text} {hello : Hello} {key : Key}
    (hencrypted : o.encryption ≠ .disabled) (hversion : hello.protocolVersion = o.protocolVersion)
    (hkey : c.fromPublicKey hello.publicKey = some key)
    (hknown : isKeyKnown store (cleanKey hello.publicKey) = true) :
    (run c o store [.packet (.cryptoHandshake hello), .packet (.cryptoHandshake hello)]).deeds =
      [announce c (peerOf store hello key), secrets c o (peerOf store hello key), .established,
        .send .handshake] := by
  have hfirst : receiveHello c o store hello {} =
      { phase := .confirm (peerOf store hello key)
        deeds := [announce c (peerOf store hello key), secrets c o (peerOf store hello key)] } := by
    unfold receiveHello
    rw [if_neg (not_not.mpr hversion), hkey]
    cases hstate : o.encryption with
    | disabled => exact absurd hstate hencrypted
    | enabled => simp only [hknown, agree, if_true, Handshake.next, List.nil_append, peerOf]
    | pairing => simp only [hknown, agree, if_true, Handshake.next, List.nil_append, peerOf]
  simp only [run, List.foldl_cons, List.foldl_nil, receive, hfirst, Handshake.next,
    List.cons_append, List.nil_append]

/-- Whatever the client sends after its first packet, the gate holds exactly when that
packet's text is not known as another key than the one parsed from it. -/
theorem auth_gate_iff (c : Crypto Key Message) (o : ServerOptions) (store : Text)
    (first : Received Message) :
    (∀ rest, AuthGate c o store (first :: rest)) ↔ Identified c o store first := by
  constructor
  · intro hgate
    rcases first with ⟨hello⟩ | _
    cases hello with
    | cryptoHandshake hello =>
      by_contra hid
      simp only [Identified, not_or, not_forall] at hid
      obtain ⟨hencrypted, hversion, key, hkey, hknown, hunpaired⟩ := hid
      have hdeeds := run_known hencrypted (not_not.mp hversion) hkey hknown
      obtain ⟨paired, hderived, hin⟩ := (hgate [.packet (.cryptoHandshake hello)]).paired
        hencrypted (by simp [hdeeds]) (by simp [hdeeds, announce, secrets])
      rw [hdeeds] at hderived
      cases hderived
      exact hunpaired hin
    | _ => trivial
    · trivial
  · intro hid rest
    rcases first with ⟨hello⟩ | _
    cases hello with
    | cryptoHandshake hello =>
      by_cases hversion : hello.protocolVersion = o.protocolVersion
      · cases hkey : c.fromPublicKey hello.publicKey with
        | none =>
          have hfirst : receiveHello c o store hello {} = fail {} .badKey := by
            unfold receiveHello
            rw [if_neg (not_not.mpr hversion), hkey]
          refine gate_of_failed .badKey ?_ ?_ ?_ rest <;>
            simp [receive, hfirst, fail, Handshake.next]
        | some key =>
          have hinv : Inv c o (peerOf store hello key)
              (run c o store (.packet (.cryptoHandshake hello) :: rest)) :=
            foldl_inv store (receiveHello_inv store hversion hkey) rest
          refine hinv.gate hkey ?_
          rcases hid with hdisabled | hmismatch | hknown
          · exact .inl hdisabled
          · exact absurd hversion hmismatch
          · exact .inr (hknown key hkey)
      · refine gate_of_failed .incompatibleVersion ?_ ?_ ?_ rest <;>
          simp [receive, receiveHello, hversion, Handshake.next]
    | _ =>
      refine gate_of_failed .unexpectedPacket ?_ ?_ ?_ rest <;>
        simp [receive, fail, Handshake.next]
    · refine gate_of_failed .receive ?_ ?_ ?_ rest <;>
        simp [receive, fail, Handshake.next]

/-! ## A text that is known as another key -/

/-- A parser that reads a PEM text as the usual ones do: it skips what stands in front
of the armour, and a line of the body ends at its first dash. -/
def firstBlock (text : Text) : Option Text :=
  match (lines text).dropWhile fun line => !(beginMark.isPrefixOf line) with
  | [] => none
  | _ :: body =>
    some ((body.takeWhile fun line => !(endMark.isPrefixOf line)).flatMap
      fun line => line.takeWhile fun c => c != '-')

/-- A PEM text with this body. -/
def armoured (key : Text) : Text :=
  beginMark ++ dashes ++ '\n' :: key ++ '\n' :: endMark ++ dashes ++ ['\n']

/-- Keys that are their bodies, for a library that parses the first block. -/
def blockCrypto : Crypto Text Unit where
  fromPublicKey := firstBlock
  publicKey := armoured
  serverKey := ['s']
  step2 message _ := some message
  step4 _ message := some (message, false)

/-- A text whose stray first line is the paired key `v`, and whose block is another
client's key `a`, on a line that reads as armour. -/
def strayLine : Text :=
  ['v', '\n'] ++ beginMark ++ dashes ++ ['\n', 'a'] ++ beginMark ++ '\n' :: endMark ++ dashes ++ ['\n']

/-- The holder of an unknown key is let in without a PIN, as the paired headset whose
key stands in front of its own. -/
theorem stray_line_accepted :
    ∃ (o : ServerOptions) (store : Text) (received : List (Received Unit)),
      o.encryption = .enabled ∧ parsedKey blockCrypto received = some ['a'] ∧
        ¬ InStore blockCrypto store ['a'] ∧
          Deed.established ∈ (run blockCrypto o store received).deeds ∧
            ¬ AuthGate blockCrypto o store received := by
  let o : ServerOptions := { encryption := .enabled, pin := ['0'], protocolVersion := 1 }
  let hello : Hello := { protocolVersion := 1, publicKey := strayLine, name := ['h'] }
  have hkey : blockCrypto.fromPublicKey hello.publicKey = some ['a'] := by decide
  have hunpaired : ¬ InStore blockCrypto ['n', '\t', 'v', '\n'] ['a'] := by
    unfold InStore
    decide
  have hknown : isKeyKnown ['n', '\t', 'v', '\n'] (cleanKey hello.publicKey) = true := by decide
  have hencrypted : o.encryption ≠ .disabled := by simp [o]
  have hdeeds := run_known hencrypted rfl hkey hknown
  refine ⟨o, ['n', '\t', 'v', '\n'], [.packet (.cryptoHandshake hello),
    .packet (.cryptoHandshake hello)], rfl, hkey, hunpaired, ?_, fun hgate => ?_⟩
  · rw [hdeeds]
    simp
  · refine hgate.enabled rfl ['a'] hkey hunpaired ?_
    rw [hdeeds]
    simp

end Handshake

end WivrnNx
