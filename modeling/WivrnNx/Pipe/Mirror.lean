import WivrnNx.Pipe.Agree

/-!
# What the shim knows of the bridge

The bridge's messages, from `collect` through the server, the pipe and the client to the
callbacks of `driver_provider.cpp`. The callbacks of a session are a prefix of what the
bridge handed out for it; when nothing is left in between, what they add up to is the
bridge as it was at the last collect.

- `Callback.outgoing`: the bridge's message in a callback;
- `Handed`, `step_handed`: what the server was handed, wrote and has left;
- `mirror_converges`: the shim's view against the bridge.
-/

namespace WivrnNx.PipeSession

open IpcClient Wire
open PipeServer (Sent Seen)

/-- The struct in a callback, as the bridge's message. -/
def outgoing : Callback → Option Outgoing
  | .onConfig pod => some (.hmdConfig (hmdConfig.get pod.toList))
  | .onPose pod => some (.poseUpdate (poseUpdate.get pod.toList))
  | .onDeviceAdd pod => some (.deviceAdd (device.get pod.toList))
  | .onDeviceRemove pod => some (.deviceRemove (device.get pod.toList))
  | .onInput pod => some (.inputUpdate (inputUpdate.get pod.toList))
  | .onFrameDone _ => none
  | .onSessionReady => none

/-- The bridge's message in one of the server's. -/
def outgoingOf : Message → Option Outgoing
  | ⟨.hmdConfig, config⟩ => some (.hmdConfig config)
  | ⟨.poseUpdate, pose⟩ => some (.poseUpdate pose)
  | ⟨.deviceAdd, device⟩ => some (.deviceAdd device)
  | ⟨.deviceRemove, device⟩ => some (.deviceRemove device)
  | ⟨.inputUpdate, input⟩ => some (.inputUpdate input)
  | _ => none

theorem outgoingOf_ofOutgoing (o : Outgoing) : outgoingOf (PipeServer.ofOutgoing o) = some o := by
  cases o <;> rfl

/-- What `memcpy` takes out of a callback's bytes is what the bridge put in. -/
theorem outgoing_callbackOf (m : Message) : (callbackOf m).bind outgoing = outgoingOf m := by
  obtain ⟨t, content⟩ := m
  cases t
  case hmdConfig => exact congrArg (some ∘ Outgoing.hmdConfig) (hmdConfig.get_put' content)
  case poseUpdate => exact congrArg (some ∘ Outgoing.poseUpdate) (poseUpdate.get_put' content)
  case deviceAdd => exact congrArg (some ∘ Outgoing.deviceAdd) (device.get_put' content)
  case deviceRemove => exact congrArg (some ∘ Outgoing.deviceRemove) (device.get_put' content)
  case inputUpdate => exact congrArg (some ∘ Outgoing.inputUpdate) (inputUpdate.get_put' content)
  all_goals rfl

/-- The callbacks for what a session took tell it what is in it. -/
theorem outgoing_heard {taken : List Message} (h : HelperStream taken) :
    (heard taken).filterMap outgoing = taken.filterMap outgoingOf := by
  have hrest : ∀ l : List Message,
      (l.filterMap callbackOf).filterMap outgoing = l.filterMap outgoingOf := by
    intro l
    rw [List.filterMap_filterMap]
    exact congrArg (List.filterMap · l) (funext outgoing_callbackOf)
  match taken, h with
  | [], _ => rfl
  | [x], h =>
    have hx : x = PipeServer.reply := h.1
    subst hx
    rfl
  | x :: c :: rest, h =>
    have hx : x = PipeServer.reply := h.1
    subst hx
    have hhead : (callbackOf c).toList.filterMap outgoing = [c].filterMap outgoingOf := by
      rw [← hrest [c]]
      cases hc : callbackOf c <;> simp [hc]
    calc (heard (PipeServer.reply :: c :: rest)).filterMap outgoing
        = (callbackOf c).toList.filterMap outgoing ++
            (rest.filterMap callbackOf).filterMap outgoing := List.filterMap_append
      _ = [c].filterMap outgoingOf ++ rest.filterMap outgoingOf := by rw [hhead, hrest]
      _ = (c :: rest).filterMap outgoingOf := List.filterMap_append.symm

/-! ## What the server was handed -/

/-- Past the first `collect` of its client. -/
def Behind : PipeServer.Point → Prop
  | .flushing _ | .collecting false | .popping | .answering _ | .reading => True
  | _ => False

/-- What `collect` gave for this client is what was written and what is still to be. -/
structure Handed (relay : Relay) (seen : Seen) : Prop where
  batches : seen.server.point.Live → (relay.consumers 0).batches.flatten =
    seen.wrote.filterMap outgoingOf ++ seen.server.pending
  drained : seen.server.point.Live → (∀ first, seen.server.point ≠ .flushing first) →
    seen.server.pending = []
  collected : Behind seen.server.point → (relay.consumers 0).asOf.isSome

theorem Behind.live {p : PipeServer.Point} (h : Behind p) : p.Live := by
  cases p with
  | flushing first | popping | answering done | reading => trivial
  | collecting first => trivial
  | _ => exact absurd h id

/-- A step that collects nothing and keeps what is pending. -/
theorem Handed.moved {relay relay' : Relay} {seen : Seen} (h : Handed relay seen)
    {server : PipeServer.Server} {read : List (List UInt8)} {out : PipeServer.Output}
    (hconsumers : relay'.consumers = relay.consumers)
    (hwrote : out.wrote.filterMap outgoingOf = []) (hpending : server.pending = seen.server.pending)
    (hlive : server.point.Live → seen.server.point.Live ∧
      (∀ first, seen.server.point ≠ .flushing first) ∧
        (Behind server.point → Behind seen.server.point)) :
    Handed relay' (seen.after server read out) where
  batches hnew := by
    rw [hconsumers, h.batches (hlive hnew).1, ← hpending]
    simp only [Seen.after, List.filterMap_append, hwrote, List.append_nil]
  drained hnew _ := by
    change server.pending = []
    rw [hpending]
    exact h.drained (hlive hnew).1 (hlive hnew).2.1
  collected hbehind := by
    have hnew : server.point.Live := Behind.live hbehind
    rw [hconsumers]
    exact h.collected ((hlive hnew).2.2 hbehind)

theorem Handed.over {relay : Relay} {seen : Seen} (h : ¬ seen.server.point.Live) :
    Handed relay seen :=
  ⟨fun hlive => absurd hlive h, fun hlive => absurd hlive h, fun hbehind =>
    absurd hbehind.live h⟩

theorem flushed_pending (v : PipeServer.Server) (first : Bool) :
    (v.flushed first).pending = v.pending ∧
      ((∀ first', (v.flushed first).point ≠ .flushing first') → v.pending = []) := by
  refine ⟨rfl, ?_⟩
  intro hnot
  by_contra hne
  refine hnot first ?_
  rw [PipeServer.Server.flushed, if_neg hne]

theorem shaken_pending (v : PipeServer.Server) (r : PipeServer.WaitResult) :
    (v.shaken r).1.pending = v.pending := by
  unfold PipeServer.Server.shaken
  split
  · split <;> rfl
  · rfl

theorem served_pending (v : PipeServer.Server) (r : PipeServer.WaitResult) :
    (v.served r).1.pending = v.pending := by
  unfold PipeServer.Server.served
  split
  · split <;> rfl
  · rfl
  · rfl
  · rfl

/-- `collect` hands out a batch, which is pending as a whole. -/
theorem collect_handed {s : System} (h : Inv s) (hh : Handed s.relay s.seen) {first : Bool}
    (hpoint : s.seen.server.point = .collecting first) {server : PipeServer.Server}
    (hserver : server = { s.seen.server with
      cursor := (s.relay.bridge.collect s.seen.server.cursor).1
      pending := (s.relay.bridge.collect s.seen.server.cursor).2 }.flushed first) :
    Handed (s.relay.step (.collect 0)) (s.seen.after server [] {}) := by
  have hlive : s.seen.server.point.Live := by
    rw [hpoint]
    trivial
  have hdrained := hh.drained hlive (by rw [hpoint]; rintro _ ⟨⟩)
  have hconsumer : (s.relay.step (.collect 0)).consumers 0 =
      s.relay.collected (s.relay.consumers 0) := by
    change Function.update s.relay.consumers 0 (s.relay.collected (s.relay.consumers 0)) 0 = _
    rw [Function.update_self]
  have hpending : server.pending = (s.relay.bridge.collect s.seen.server.cursor).2 := by
    rw [hserver]
    rfl
  refine ⟨?_, ?_, ?_⟩
  · intro _
    rw [hconsumer]
    change ((s.relay.consumers 0).batches ++
      [(s.relay.bridge.collect (s.relay.consumers 0).cursor).2]).flatten = _
    rw [List.flatten_append, hh.batches hlive, hdrained, h.helper.cursor]
    simp only [Seen.after, hpending, List.append_nil, List.flatten_cons, List.flatten_nil]
  · intro _ hnot
    change server.pending = []
    rw [hserver] at hnot ⊢
    exact (flushed_pending _ first).2 hnot
  · intro _
    rw [hconsumer]
    rfl

/-- One message more is written and one less is pending. -/
theorem send_handed {relay : Relay} {seen : Seen} (hh : Handed relay seen) {first : Bool}
    {o : Outgoing} {rest : List Outgoing} (hpoint : seen.server.point = .flushing first)
    (hpending : seen.server.pending = o :: rest) (r : Sent) {next : PipeServer.Server}
    (hnext : next = { seen.server with
      pending := rest, counters := seen.server.counters.sent o }.flushed first) :
    Handed relay (seen.after (seen.server.wrote (PipeServer.ofOutgoing o) r next).1 []
      (seen.server.wrote (PipeServer.ofOutgoing o) r next).2) := by
  have hlive : seen.server.point.Live := by
    rw [hpoint]
    trivial
  by_cases hr : r = .sent
  · have hwrote : seen.server.wrote (PipeServer.ofOutgoing o) r next =
        (next, { wrote := [PipeServer.ofOutgoing o] }) := by
      rw [PipeServer.Server.wrote, hr]
      rfl
    rw [hwrote]
    refine ⟨?_, ?_, ?_⟩
    · intro _
      have hbatches := hh.batches hlive
      have hrest : next.pending = rest := by
        rw [hnext]
        rfl
      rw [hpending] at hbatches
      simp only [Seen.after, List.filterMap_append, List.filterMap_cons, List.filterMap_nil,
        outgoingOf_ofOutgoing, hrest, List.append_assoc, List.singleton_append]
      exact hbatches
    · intro _ hnot
      change next.pending = []
      rw [hnext] at hnot ⊢
      exact (flushed_pending _ first).2 hnot
    · intro _
      exact hh.collected (by rw [hpoint]; trivial)
  · apply Handed.over
    change ¬ (if r = .sent then next else { seen.server with point := .leaving true }).point.Live
    rw [if_neg hr]
    exact id

/-- A write of something that is not the bridge's. -/
theorem Handed.wrote {relay : Relay} {seen : Seen} (hh : Handed relay seen) (m : Message) (r : Sent)
    {next : PipeServer.Server} (hm : outgoingOf m = none)
    (hpending : next.pending = seen.server.pending) (hlive : seen.server.point.Live)
    (hnot : ∀ first, seen.server.point ≠ .flushing first)
    (hbehind : Behind next.point → Behind seen.server.point) :
    Handed relay (seen.after (seen.server.wrote m r next).1 [] (seen.server.wrote m r next).2) := by
  by_cases hr : r = .sent
  · have hwrote : seen.server.wrote m r next = (next, { wrote := [m] }) := by
      rw [PipeServer.Server.wrote, hr]
      rfl
    rw [hwrote]
    refine hh.moved rfl ?_ hpending fun _ => ⟨hlive, hnot, hbehind⟩
    rw [List.filterMap_cons, hm]
    rfl
  · apply Handed.over
    change ¬ (if r = .sent then next else { seen.server with point := .leaving true }).point.Live
    rw [if_neg hr]
    exact id

/-- What `collect` finds is the bridge. -/
theorem serverFinds_collect {s : System} {e : PipeServer.Event} {bridge : Bridge}
    (h : serverFinds s e = some (.collect bridge)) : bridge = s.relay.bridge := by
  cases e with
  | connect ok =>
    cases ok with
    | true =>
      rw [serverFinds] at h
      split at h <;> cases h
    | false => cases h
  | read r =>
    rcases serverFinds_read h with ⟨m, -, hm⟩ | ⟨-, hr⟩
    · cases hm
    · cases hr
  | collect bridge' =>
    cases h
    rfl
  | reply r | send r | answer r =>
    rw [serverFinds] at h
    split at h <;> cases h
  | _ => cases h

theorem server_handed {s s' : System} {e e' : PipeServer.Event} (h : Inv s)
    (hh : Handed s.relay s.seen) (hfinds : serverFinds s e = some e')
    (hstep : serverStep s e' = some s') : Handed s'.relay s'.seen := by
  unfold serverStep at hstep
  split at hstep
  · cases hstep
  · rename_i server out hserver
    cases hstep
    cases e' with
    | connect ok =>
      simp only [PipeServer.step] at hserver
      split at hserver
      · cases ok with
        | true =>
          cases hserver
          have hconsumer : (s.relay.step (.start 0)).consumers 0 = {} := by
            change Function.update s.relay.consumers 0 {} 0 = _
            rw [Function.update_self]
          refine ⟨?_, fun _ _ => rfl, fun hbehind => absurd hbehind id⟩
          intro _
          change ((s.relay.step (.start 0)).consumers 0).batches.flatten = _
          rw [hconsumer]
          rfl
        | false =>
          cases hserver
          exact .over id
      · cases hserver
    | read r =>
      obtain ⟨-, hconsumers⟩ := bridged_calls s.relay out.calls h.helper.bridge
      simp only [PipeServer.step] at hserver
      split at hserver
      · rename_i hpoint
        obtain ⟨-, hwrote, hafter⟩ := shaken_spec s.seen.server r.checked
        have hpending := shaken_pending s.seen.server r.checked
        rw [Option.some.injEq] at hserver
        rw [hserver] at hwrote hafter hpending
        refine hh.moved hconsumers (by rw [hwrote]; rfl) hpending fun _ => ?_
        rw [hpoint]
        refine ⟨trivial, (by rintro _ ⟨⟩), ?_⟩
        rcases hafter with hp | hp <;> rw [hp] <;> exact fun hno => absurd hno id
      · split at hserver
        · rename_i hpoint
          obtain ⟨-, hwrote, -⟩ := served_spec s.seen.server r.checked
          have hpending := served_pending s.seen.server r.checked
          rw [Option.some.injEq] at hserver
          rw [hserver] at hwrote hpending
          refine hh.moved hconsumers (by rw [hwrote]; rfl) hpending fun _ => ?_
          rw [hpoint]
          exact ⟨trivial, (by rintro _ ⟨⟩), fun _ => trivial⟩
        · cases hserver
    | reply r =>
      simp only [PipeServer.step] at hserver
      split at hserver
      · rename_i hpoint
        cases hserver
        exact hh.wrote PipeServer.reply r rfl rfl (by rw [hpoint]; trivial)
          (by rw [hpoint]; rintro _ ⟨⟩) (fun hno => absurd hno id)
      · cases hserver
    | collect bridge =>
      have hbridge := serverFinds_collect hfinds
      subst hbridge
      simp only [PipeServer.step] at hserver
      split at hserver
      · rename_i first hpoint
        rw [Option.some.injEq, Prod.mk.injEq] at hserver
        obtain ⟨hserver, rfl⟩ := hserver
        exact collect_handed h hh hpoint hserver.symm
      · cases hserver
    | send r =>
      simp only [PipeServer.step] at hserver
      split at hserver
      · rename_i first o rest hpoint hpending
        cases hserver
        exact send_handed hh hpoint hpending r rfl
      · cases hserver
    | pop done =>
      simp only [PipeServer.step] at hserver
      split at hserver
      · rename_i hpoint
        cases done with
        | none =>
          cases hserver
          refine hh.moved rfl rfl rfl fun _ => ?_
          rw [hpoint]
          exact ⟨trivial, (by rintro _ ⟨⟩), fun _ => trivial⟩
        | some done =>
          cases hserver
          refine hh.moved rfl rfl rfl fun _ => ?_
          rw [hpoint]
          exact ⟨trivial, (by rintro _ ⟨⟩), fun _ => trivial⟩
      · cases hserver
    | answer r =>
      simp only [PipeServer.step] at hserver
      split at hserver
      · rename_i done hpoint
        cases hserver
        exact hh.wrote ⟨.frameDone, done⟩ r rfl rfl (by rw [hpoint]; trivial)
          (by rw [hpoint]; rintro _ ⟨⟩) (fun _ => by rw [hpoint]; trivial)
      · cases hserver
    | disconnect =>
      simp only [PipeServer.step] at hserver
      split at hserver
      · cases hserver
        exact .over id
      · cases hserver
    | shimGone =>
      simp only [PipeServer.step] at hserver
      split at hserver
      · cases hserver
        exact .over id
      · cases hserver
    | recheck shutdown =>
      simp only [PipeServer.step] at hserver
      split at hserver
      · rename_i keep _
        cases hserver
        apply Handed.over
        change ¬ (if keep && !shutdown then PipeServer.Point.waiting else .stopped).Live
        split
        · exact id
        · exact id
      · cases hserver

theorem step_handed (s : System) (a : Action) (s' : System) (h : Inv s ∧ Handed s.relay s.seen)
    (hstep : step s a = some s') : Inv s' ∧ Handed s'.relay s'.seen := by
  refine ⟨step_inv s a s' h.1 hstep, ?_⟩
  cases a with
  | produce a =>
    rw [step, Option.ite_none_right_eq_some] at hstep
    obtain ⟨hproduces, hstep⟩ := hstep
    cases hstep
    have hconsumers := produces_consumers s.relay hproduces
    exact ⟨hconsumers ▸ h.2.batches, h.2.drained, hconsumers ▸ h.2.collected⟩
  | server e =>
    obtain ⟨e', hfinds, hserver⟩ := Option.bind_eq_some_iff.mp hstep
    exact server_handed h.1 h.2 hfinds hserver
  | client e =>
    obtain ⟨e', -, hclient⟩ := Option.bind_eq_some_iff.mp hstep
    unfold clientStep at hclient
    split at hclient
    · cases hclient
    · cases hclient
      exact h.2

/-! ## The shim's view -/

/-- What the callbacks of the session told. -/
def told (s : System) : List Outgoing := s.callbacks.filterMap outgoing

/-- What it adds up to: a shim that was told nothing knows of no device. -/
def mirror (s : System) : View := (Bridge.make s.relay.initial).view.replay (told s)

/-- What the shim knows against what the bridge handed out. -/
structure Mirrored (s : System) : Prop where
  /-- Nothing is lost, made up or overtaken between `collect` and the callbacks. -/
  told : s.seen.server.point.Live → (s.relay.consumers 0).batches.flatten =
    told s ++ s.link.toShim.flight.filterMap outgoingOf ++ s.seen.server.pending
  /-- With nothing in between, the shim has the bridge of the last collect. -/
  settled : Behind s.seen.server.point → s.link.toShim.flight = [] → s.seen.server.pending = [] →
    ∃ v, (s.relay.consumers 0).asOf = some v ∧ (mirror s).config = v.config ∧
      (mirror s).pose = v.pose ∧ (mirror s).input = v.input ∧
        (∀ i ∈ Bridge.controllers, (mirror s).present i = v.present i) ∧
          (mirror s).present 0 = false

theorem mirrored {s : System} (h : Inv s) (hh : Handed s.relay s.seen) : Mirrored s := by
  have htold : s.seen.server.point.Live → (s.relay.consumers 0).batches.flatten =
      told s ++ s.link.toShim.flight.filterMap outgoingOf ++ s.seen.server.pending := by
    intro hlive
    have hwrote := (h.helper.attached (live_attached hlive)).2.2
    have htaken : HelperStream s.link.toShim.taken :=
      h.helper.stream.of_prefix s.link.toShim.taken_prefix
    rw [hh.batches hlive, hwrote, ← s.link.toShim.accounted, List.filterMap_append, told,
      h.shim.called, outgoing_heard htaken]
  refine ⟨htold, ?_⟩
  intro hbehind hflight hpending
  have hall := htold hbehind.live
  rw [hflight, hpending, List.filterMap_nil, List.append_nil, List.append_nil] at hall
  obtain ⟨v, hv⟩ := Option.isSome_iff_exists.mp (hh.collected hbehind)
  have hknown : s.relay.known (s.relay.consumers 0) = mirror s := by
    rw [Relay.known, hall, mirror]
  have hconverged := (h.helper.bridge.consumers 0).converged
  obtain ⟨hconfig, hpose, hinput, hpresent⟩ := hconverged.view v hv
  rw [hknown] at hconfig hpose hinput hpresent
  exact ⟨v, hv, hconfig, hpose, hinput, hpresent, hknown ▸ hconverged.hmd⟩

theorem init_handed (config : HmdConfig) : Handed (init config).relay (init config).seen :=
  .over id

end WivrnNx.PipeSession
