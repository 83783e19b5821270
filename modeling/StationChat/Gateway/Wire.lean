import StationChat.Gateway.Dialogue
import StationChat.Gateway.Packets
import StationChat.Lib.Simulation
import StationChat.Protocol.Answers
import StationChat.Protocol.Layout

/-! The gateway as it is seen from the wire: its runs on packets are runs on requests, and a game server can tell by
six bytes which of its packets a message answers. -/
namespace StationChat
open Lib Lib.Action Lib.Decoder Wire

/-- What reaches the gateway, with a request as the bytes it came in. `memory` is what the variables of the decoders
hold before they are read into. -/
inductive Event where
  | connect
  | packet (client : ClientId) (bytes : List UInt8) (memory : Nat → UInt8) (time : UInt32) (steadyClock : Nat)
  | disconnect (client : ClientId)
  | tick
  | restart

/-- One event. `OnRoutePacket` hands each packet to `OnIncoming`. -/
def Server.receive (s : Server) : Event → Option Server
  | .packet client bytes memory time steadyClock =>
    if client ∈ s.clients ∧ client ∉ s.disconnected then
      match onIncoming memory client bytes (s.atTime time steadyClock) with
      | (.ok _, t) => some t
      | (.error _, _) => none
    else none
  | .connect => s.step .connect
  | .disconnect client => s.step (.disconnect client)
  | .tick => s.step .tick
  | .restart => s.step .restart

/-- The request that a packet is taken for. -/
def Event.input : Event → Option Input
  | .packet client bytes memory time steadyClock =>
    (decodePacket memory bytes).1.map fun request => .request client request time steadyClock
  | .connect => some .connect
  | .disconnect client => some (.disconnect client)
  | .tick => some .tick
  | .restart => some .restart

variable {s t : Server} {client c : ClientId} {event : Event} {events : List Event}

section Refinement

/-- Servers that differ in the last readings of the clocks only. -/
def Timeless (s t : Server) : Prop := s.atTime 0 0 = t.atTime 0 0

theorem Timeless.atTime (h : Timeless s t) (time : UInt32) (steadyClock : Nat) :
    s.atTime time steadyClock = t.atTime time steadyClock :=
  congrArg (·.atTime time steadyClock) h

theorem Timeless.step (h : Timeless s t) {input : Input} {u : Server} (hstep : s.step input = some u) :
    ∃ v, t.step input = some v ∧ Timeless u v := by
  have hclients : s.clients = t.clients := congrArg (·.clients) h
  have hdisconnected : s.disconnected = t.disconnected := congrArg (·.disconnected) h
  cases input with
  | request client request time steadyClock =>
    simp only [Server.step, hclients, hdisconnected, h.atTime] at hstep
    exact ⟨u, hstep, rfl⟩
  | connect =>
    obtain rfl := Option.some.inj hstep
    exact ⟨t.connect, rfl, congrArg Server.connect h⟩
  | disconnect client =>
    obtain ⟨hclient, rfl⟩ := Server.step_disconnect hstep
    have hsame : Timeless (s.disconnect client) (t.disconnect client) :=
      congrArg (Server.disconnect · client) h
    exact ⟨t.disconnect client, if_pos (hclients ▸ hclient), hsame⟩
  | tick =>
    obtain rfl := Option.some.inj hstep
    exact ⟨t.tick, rfl, congrArg Server.tick h⟩
  | restart =>
    obtain rfl := Option.some.inj hstep
    exact ⟨t.restart, rfl, congrArg Server.restart h⟩

/-- One event: the request that it carries, or nothing. -/
theorem receive_cases (h : s.receive event = some t) :
    (∃ input, event.input = some input ∧ s.step input = some t) ∨ event.input = none ∧ Timeless t s := by
  cases event with
  | packet client bytes memory time steadyClock =>
    simp only [Server.receive, onIncoming] at h
    cases hrequest : (decodePacket memory bytes).1 with
    | none =>
      refine .inr ⟨by rw [Event.input, hrequest]; rfl, ?_⟩
      rw [hrequest] at h
      split at h
      · obtain rfl := Option.some.inj h
        rfl
      · exact absurd h (by simp)
    | some request =>
      refine .inl ⟨_, by rw [Event.input, hrequest]; rfl, ?_⟩
      rw [hrequest] at h
      exact h
  | connect => exact .inl ⟨_, rfl, h⟩
  | disconnect client => exact .inl ⟨_, rfl, h⟩
  | tick => exact .inl ⟨_, rfl, h⟩
  | restart => exact .inl ⟨_, rfl, h⟩

/-- A run on packets, whatever their bytes, is the run on the requests they are taken for, but for the readings of the
clocks. -/
theorem packets_run_as_requests (h : runInputs Server.receive s events = some t) :
    ∃ u, runInputs Server.step s (events.filterMap Event.input) = some u ∧ Timeless t u := by
  have hstep : ∀ (s s' : Server) (event : Event) (t : Server), Timeless s s' → s.receive event = some t →
      ∃ u, runInputs Server.step s' event.input.toList = some u ∧ Timeless t u := by
    intro s s' event t hsame hreceive
    rcases receive_cases hreceive with ⟨input, hinput, hstep⟩ | ⟨hinput, htime⟩
    · obtain ⟨v, hv, hsame'⟩ := hsame.step hstep
      refine ⟨v, ?_, hsame'⟩
      rw [hinput, Option.toList_some, runInputs, hv]
      rfl
    · exact ⟨s', by rw [hinput]; rfl, htime.trans hsame⟩
  have hrun := runInputs_simulated hstep (rfl : Timeless s s) h
  rwa [← List.filterMap_eq_flatMap_toList] at hrun

/-- The texts of a request fit the lengths they are sent with. -/
def Input.Short : Input → Prop
  | .request _ r _ _ => r.Short
  | _ => True

/-- The event that an input comes in as. -/
def Input.arriving : Input → Event
  | .request client r time steadyClock => .packet client r.write (fun _ => 0) time steadyClock
  | .connect => .connect
  | .disconnect client => .disconnect client
  | .tick => .tick
  | .restart => .restart

theorem receive_arriving {input : Input} (h : input.Short) (s : Server) :
    s.receive input.arriving = s.step input ∧ input.arriving.input = some input := by
  cases input with
  | request client request time steadyClock =>
    have hdecode := decodePacket_write (fun _ => 0) h []
    rw [List.append_nil] at hdecode
    refine ⟨?_, ?_⟩
    · rw [Input.arriving, Server.receive, onIncoming, hdecode]
      rfl
    · rw [Input.arriving, Event.input, hdecode]
      rfl
  | connect | disconnect | tick | restart => exact ⟨rfl, rfl⟩

/-- Runs on packets are runs on requests. A run on packets, whatever their bytes, is a run on the requests they are
taken for, but for the readings of the clocks; and every run on requests with texts that fit is a run on packets. -/
theorem packets_are_requests (s : Server) :
    (∀ events t, runInputs Server.receive s events = some t →
      ∃ u, runInputs Server.step s (events.filterMap Event.input) = some u ∧ Timeless t u) ∧
    ∀ inputs t, runInputs Server.step s inputs = some t → (∀ input ∈ inputs, input.Short) →
      ∃ events, runInputs Server.receive s events = some t ∧ events.filterMap Event.input = inputs := by
  refine ⟨fun events t h => packets_run_as_requests h, fun inputs t h hshort => ⟨inputs.map Input.arriving, ?_, ?_⟩⟩
  · induction inputs generalizing s with
    | nil => exact h
    | cons input inputs ih =>
      obtain ⟨hfirst, hinputs⟩ := List.forall_mem_cons.mp hshort
      obtain ⟨u, hu, hrest⟩ := Option.bind_eq_some_iff.mp h
      rw [List.map_cons, runInputs, (receive_arriving hfirst s).1, hu, Option.bind_some]
      exact ih u hrest hinputs
  · rw [List.filterMap_map]
    refine (List.filterMap_congr fun input hinput => (receive_arriving (hshort input hinput) s).2).trans ?_
    exact List.filterMap_some

/-- A packet without a case in the switch, and one that breaks off behind its track number. -/
theorem packets_are_requests_one : ∃ t u, runInputs Server.receive Server.blank [.connect,
      .packet 0 [0xFF, 0xFF, 1] (fun _ => 0) 3 0, .packet 0 [39, 0, 8, 0, 0, 0] (fun _ => 0) 4 0] = some t ∧
    runInputs Server.step Server.blank [.connect,
      .request 0 (.updatePersistentMessages ⟨8, 0, 0, 0, []⟩) 4 0] = some u ∧ Timeless t u := by
  have hrun : (runInputs Server.receive Server.blank [.connect, .packet 0 [0xFF, 0xFF, 1] (fun _ => 0) 3 0,
      .packet 0 [39, 0, 8, 0, 0, 0] (fun _ => 0) 4 0]).isSome := by decide +kernel
  obtain ⟨u, hu, htime⟩ := (packets_are_requests Server.blank).1 _ _ (Option.some_get hrun).symm
  exact ⟨_, u, (Option.some_get hrun).symm, hu, htime⟩

end Refinement

section Heads
variable {bytes : List UInt8} {memory : Nat → UInt8}

/-- The type code and the track number, if the track number is not zero. -/
def trackedHead (bytes : List UInt8) : Option (List UInt8) :=
  if (bytes.drop 2).take 4 = [0, 0, 0, 0] then none else some (bytes.take 6)

/-- The head of a packet of the client that has a case in the switch. -/
def Event.asked (c : ClientId) : Event → Option (List UInt8)
  | .packet client bytes _ _ _ =>
    if client = c ∧ (ChatRequestType.ofCode (UInt16.ofNat (littleEndian (bytes.take 2)))).isSome then trackedHead bytes
    else none
  | _ => none

/-- The first six bytes of a packet of the client are all there. -/
def Event.Headed (c : ClientId) : Event → Prop
  | .packet client bytes _ _ _ => client = c → 6 ≤ bytes.length
  | _ => True

/-- A head with its track number. -/
def headOf (head : ChatRequestType × UInt32) : Option (List UInt8) :=
  if head.2 = 0 then none else some (writeUInt16 head.1.code ++ writeUInt32 head.2)

theorem length_writeUInt16 (value : UInt16) : (writeUInt16 value).length = 2 := length_integerBytes 2 value.toNat

theorem length_writeUInt32 (value : UInt32) : (writeUInt32 value).length = 4 := length_integerBytes 4 value.toNat

theorem writeUInt32_eq_zero {value : UInt32} : writeUInt32 value = [0, 0, 0, 0] ↔ value = 0 := by
  have hzero : writeUInt32 0 = [0, 0, 0, 0] := rfl
  have happend := writeUInt32_append (s := []) (t := []) value 0
  simpa [hzero] using happend

theorem trackedHead_eq (code : UInt16) (track : UInt32) (rest : List UInt8) :
    trackedHead (writeUInt16 code ++ (writeUInt32 track ++ rest)) =
      if track = 0 then none else some (writeUInt16 code ++ writeUInt32 track) := by
  have hdrop : (writeUInt16 code ++ (writeUInt32 track ++ rest)).drop 2 = writeUInt32 track ++ rest :=
    List.drop_left' (length_writeUInt16 code)
  have htrack : (writeUInt32 track ++ rest).take 4 = writeUInt32 track := List.take_left' (length_writeUInt32 track)
  have hhead : (writeUInt16 code ++ (writeUInt32 track ++ rest)).take 6 = writeUInt16 code ++ writeUInt32 track := by
    rw [← List.append_assoc]
    exact List.take_left' (by rw [List.length_append, length_writeUInt16, length_writeUInt32])
  simp only [trackedHead, hdrop, htrack, hhead, writeUInt32_eq_zero]

/-- Only answers have a track number, and each has the head of what it answers. -/
theorem trackedHead_sentAs {message : Outgoing} (h : message.SentAs bytes) :
    trackedHead bytes = message.answered.bind headOf := by
  cases message with
  | response type track result body =>
    obtain ⟨data, rfl, _, _, rfl⟩ := h
    exact trackedHead_eq type.code data.track _
  | notify message =>
    obtain rfl := h
    exact trackedHead_eq message.code 0 _

/-- Every request is read track number first. -/
theorem track_first (type : ChatRequestType) : ∃ fields : UInt32 → Decoder Request,
    type.read = readUInt32 >>= fields ∧ ∀ track, (fields track).Always fun request => request.track = track := by
  cases type
  all_goals
    refine ⟨_, map_bind _ _ _, fun track => always_map ?_⟩
    repeat with_reducible refine always_bind fun _ => ?_
  -- the two that go on as a flag says
  case enterRoom | sendPersistentMessage =>
    dsimp only
    split
    all_goals
      repeat with_reducible refine always_bind fun _ => ?_
      exact always_done rfl
  all_goals exact always_done rfl

/-- What the first six bytes say of the request, even if the packet breaks off later. -/
theorem decodePacket_head (memory : Nat → UInt8) (code : UInt16) (track : UInt32) (rest : List UInt8) :
    (decodePacket memory (writeUInt16 code ++ (writeUInt32 track ++ rest))).1.map (fun r => (r.type, r.track)) =
      (ChatRequestType.ofCode code).map (·, track) := by
  obtain ⟨used, stored, hcode, -⟩ := run_of_parse memory (undoes_readUInt16 code (writeUInt32 track ++ rest)) 0 0
  obtain ⟨used', stored', htrack, -⟩ := run_of_parse memory (undoes_readUInt32 track rest) used stored
  rw [decodePacket, readPacket, run_bind, start, hcode]
  cases ChatRequestType.ofCode code with
  | none => rfl
  | some type =>
    obtain ⟨fields, hread, hfields⟩ := track_first type
    have htype := always_type type memory ⟨⟨writeUInt32 track ++ rest, true⟩, used, stored⟩
    have hsame : (type.read.run memory ⟨⟨writeUInt32 track ++ rest, true⟩, used, stored⟩).1.track = track := by
      rw [hread, run_bind, htrack]
      exact hfields track memory _
    simp only [run_map, Option.map_some, htype, hsame]

/-- Bytes that hold a head. -/
theorem exists_head (h : 6 ≤ bytes.length) : ∃ code track rest, bytes = writeUInt16 code ++ (writeUInt32 track ++ rest) ∧
    UInt16.ofNat (littleEndian (bytes.take 2)) = code := by
  have hcode : (bytes.take 2).length = 2 := List.length_take_of_le (by omega)
  have htrack : ((bytes.drop 2).take 4).length = 4 := List.length_take_of_le (by rw [List.length_drop]; omega)
  refine ⟨_, UInt32.ofNat (littleEndian ((bytes.drop 2).take 4)), (bytes.drop 2).drop 4, ?_, rfl⟩
  rw [writeUInt16_littleEndian hcode, writeUInt32_littleEndian htrack, List.take_append_drop, List.take_append_drop]

/-- What a packet asks is what the request asks that it is taken for. -/
theorem asked_eq (h : event.Headed c) : event.asked c = event.input.bind fun input => (input.asked c).bind headOf := by
  cases event with
  | packet client bytes memory time steadyClock =>
    by_cases hclient : client = c
    · obtain ⟨code, track, rest, hbytes, hcode⟩ := exists_head (h hclient)
      have hinput : ((Event.packet client bytes memory time steadyClock).input.bind fun input =>
          (input.asked c).bind headOf) = ((decodePacket memory bytes).1.map fun r => (r.type, r.track)).bind headOf := by
        cases hrequest : (decodePacket memory bytes).1 <;> simp [Event.input, Input.asked, hrequest, hclient]
      rw [hinput, hbytes, decodePacket_head, Event.asked, ← hbytes, hcode]
      cases htype : ChatRequestType.ofCode code with
      | none => simp
      | some type =>
        rw [if_pos ⟨hclient, rfl⟩, hbytes, trackedHead_eq, ← code_of_ofCode htype]
        rfl
    · cases hrequest : (decodePacket memory bytes).1 <;>
        simp [Event.asked, Event.input, Input.asked, hrequest, hclient]
  | connect | disconnect | tick | restart => rfl

/-- The bytes of the messages, each to its client. -/
def SentAs (sent : List (ClientId × Outgoing)) (wire : List (ClientId × List UInt8)) : Prop :=
  List.Forall₂ (fun m w => w.1 = m.1 ∧ m.2.SentAs w.2) sent wire

/-- The messages that a client gets, as bytes. -/
def heardBy (c : ClientId) (wire : List (ClientId × List UInt8)) : List (List UInt8) :=
  (wire.filter (·.1 = c)).map (·.2)

theorem heads_heard {sent : List (ClientId × Outgoing)} {wire : List (ClientId × List UInt8)}
    (hwire : SentAs sent wire) :
    (heardBy c wire).filterMap trackedHead =
      (((sent.filter (·.1 = c)).map (·.2)).filterMap Outgoing.answered).filterMap headOf := by
  induction hwire with
  | nil => rfl
  | cons hfirst _ ih =>
    obtain ⟨hclient, hsent⟩ := hfirst
    rename_i m w sent wire _
    rw [heardBy] at ih ⊢
    by_cases hto : m.1 = c
    · have hw : w.1 = c := hclient.trans hto
      rw [List.filter_cons_of_pos (by simpa using hw), List.filter_cons_of_pos (by simpa using hto), List.map_cons,
        List.map_cons, List.filterMap_cons, List.filterMap_cons, ih, trackedHead_sentAs hsent]
      cases m.2.answered with
      | none => rfl
      | some head => rw [Option.bind_some, List.filterMap_cons]
    · have hw : w.1 ≠ c := fun hw => hto (hclient.symm.trans hw)
      rw [List.filter_cons_of_neg (by simpa using hw), List.filter_cons_of_neg (by simpa using hto), ih]

section Bytes
variable {input : Input} {inputs : List Input}

/-- Everything that was sent has bytes. -/
def Server.Written (s : Server) : Prop := ∀ m ∈ s.sent, ∃ bytes, m.2.SentAs bytes

theorem written_step (hs : s.Written) (h : s.step input = some t) : t.Written := by
  cases input with
  | request client request time steadyClock =>
    obtain ⟨_, _, hrun⟩ := Server.step_request h
    obtain ⟨⟨news, result, body, hsent, -⟩, -⟩ := announces_handle hrun
    obtain ⟨response, bytes, hlast, hbytes⟩ := handleIncomingMessage_sentAs hrun
    rw [hsent, List.getLast?_concat, Option.some.injEq, Prod.mk.injEq] at hlast
    obtain ⟨-, rfl⟩ := hlast
    intro m hm
    rw [hsent] at hm
    rcases List.mem_append.mp hm with hm | hm
    · rcases List.mem_append.mp hm with hm | hm
      · exact hs m hm
      · obtain ⟨n, _, rfl⟩ := List.mem_map.mp hm
        exact ⟨n.2.write, rfl⟩
    · obtain rfl := List.mem_singleton.mp hm
      exact ⟨bytes, hbytes⟩
  | disconnect client =>
    obtain ⟨_, rfl⟩ := Server.step_disconnect h
    exact hs
  | connect | tick | restart =>
    obtain rfl := Option.some.inj h
    exact hs

theorem exists_sentAs {sent : List (ClientId × Outgoing)} (h : ∀ m ∈ sent, ∃ bytes, m.2.SentAs bytes) :
    ∃ wire, SentAs sent wire := by
  induction sent with
  | nil => exact ⟨[], .nil⟩
  | cons m sent ih =>
    obtain ⟨⟨bytes, hbytes⟩, hsent⟩ := List.forall_mem_cons.mp h
    obtain ⟨wire, hwire⟩ := ih hsent
    exact ⟨(m.1, bytes) :: wire, .cons ⟨rfl, hbytes⟩ hwire⟩

end Bytes

section Runs
variable {db : Database} {fails : Nat → Bool} {version : UInt32} {config : Policy.Config}

theorem written_receives (h : runInputs Server.receive (Server.start db fails version config) events = some t) :
    t.Written := by
  obtain ⟨u, hu, htime⟩ := packets_run_as_requests h
  have hsent : t.sent = u.sent := congrArg (·.sent) htime
  have hwritten : u.Written := (Runs.of_inputs hu fun _ _ => trivial).invariant
    (fun m hm => absurd hm List.not_mem_nil) fun _ _ _ hs _ hstep => written_step hs hstep
  exact fun m hm => hwritten m (hsent ▸ hm)

/-- In every run of the gateway on packets, of which those of a client may break off anywhere behind their first six
bytes, everything that is sent has bytes; and of what the client gets, the messages with a track number have the heads
of its packets that the gateway handles and that have a track number, in their order. -/
theorem heads_answered_in_order (c : ClientId)
    (h : runInputs Server.receive (Server.start db fails version config) events = some t)
    (hheaded : ∀ event ∈ events, event.Headed c) :
    (∃ wire, SentAs t.sent wire) ∧ ∀ wire, SentAs t.sent wire →
      (heardBy c wire).filterMap trackedHead = events.filterMap (Event.asked c) := by
  refine ⟨exists_sentAs (written_receives h), fun wire hwire => ?_⟩
  obtain ⟨u, hu, htime⟩ := packets_run_as_requests h
  have hsent : t.sent = u.sent := congrArg (·.sent) htime
  have hanswers := answers_in_order c hu
  have hstart : (Server.start db fails version config).received c = [] := rfl
  rw [hstart, List.filterMap_nil, List.nil_append] at hanswers
  calc (heardBy c wire).filterMap trackedHead
      = ((u.received c).filterMap Outgoing.answered).filterMap headOf := by rw [heads_heard hwire, hsent, Server.received]
    _ = events.filterMap fun event => event.input.bind fun input => (input.asked c).bind headOf := by
        rw [hanswers, List.filterMap_filterMap, List.filterMap_filterMap]
    _ = events.filterMap (Event.asked c) := (List.filterMap_congr fun event hevent => asked_eq (hheaded event hevent)).symm

/-- A whole packet, and one that breaks off behind its head. -/
theorem heads_answered_in_order_two : ∃ t wire,
    runInputs Server.receive Server.blank [.connect,
      .packet 0 ([39, 0] ++ [7, 0, 0, 0] ++ [1, 0, 0, 0] ++ [1, 0, 0, 0] ++ [3, 0, 0, 0] ++ [0, 0, 0, 0]) (fun _ => 0) 0 0,
      .packet 0 [39, 0, 8, 0, 0, 0] (fun _ => 0) 0 0] = some t ∧
    SentAs t.sent wire ∧ (heardBy 0 wire).filterMap trackedHead = [[39, 0, 7, 0, 0, 0], [39, 0, 8, 0, 0, 0]] := by
  have hrun : (runInputs Server.receive Server.blank [.connect,
      .packet 0 ([39, 0] ++ [7, 0, 0, 0] ++ [1, 0, 0, 0] ++ [1, 0, 0, 0] ++ [3, 0, 0, 0] ++ [0, 0, 0, 0]) (fun _ => 0) 0 0,
      .packet 0 [39, 0, 8, 0, 0, 0] (fun _ => 0) 0 0]).isSome := by decide +kernel
  obtain ⟨⟨wire, hwire⟩, hheads⟩ := heads_answered_in_order 0 (Option.some_get hrun).symm (by simp [Event.Headed])
  exact ⟨_, wire, (Option.some_get hrun).symm, hwire, hheads wire hwire⟩

end Runs
end Heads
end StationChat
