import StationChat.Gateway.Effects
import StationChat.Gateway.Safety
import StationChat.Lib.Ledger

/-! What a client hears: its answers, one for each request and in the order of the requests, and notifications
once it has logged in. -/
namespace StationChat
open Lib Lib.Action Relation

variable {client : ClientId} {request : Request} {s t u : Server}

/-- Some address leads to the client. -/
def Server.Registered (s : Server) (c : ClientId) : Prop := ∃ address, s.clientAddressMap address = some c

/-- A computation that runs for `client` sends notifications only, those it may send, and no client hears of it
that is not registered, but for `client` itself while it is greeted. -/
structure Announces (client : ClientId) (powers : Powers) (s t : Server) : Prop where
  sent : ∃ news : List (ClientId × Notification), t.sent = s.sent ++ news.map (fun n => (n.1, .notify n.2)) ∧
    ∀ n ∈ news, powers.tells n.2 ∧ (s.Registered n.1 ∨ n.1 = client ∧ powers.greets)
  registered : ∀ c, t.Registered c → s.Registered c ∨ c = client ∧ powers.greets
  answer : t.response.type = s.response.type ∧ t.response.track = s.response.track

namespace Announces
variable {powers : Powers}

theorem of_eq (hsent : t.sent = s.sent) (hmap : t.clientAddressMap = s.clientAddressMap)
    (hresponse : t.response.type = s.response.type ∧ t.response.track = s.response.track) :
    Announces client powers s t := by
  refine ⟨⟨[], by simpa using hsent, by simp⟩, fun c hc => .inl ?_, hresponse⟩
  rwa [Server.Registered, hmap] at hc

theorem refl (s : Server) : Announces client powers s s := of_eq rfl rfl ⟨rfl, rfl⟩

theorem trans (h : Announces client powers s t) (h' : Announces client powers t u) : Announces client powers s u := by
  obtain ⟨news, hsent, hnews⟩ := h.sent
  obtain ⟨news', hsent', hnews'⟩ := h'.sent
  refine ⟨⟨news ++ news', ?_, fun n hn => ?_⟩, fun c hc => ?_, h'.answer.1.trans h.answer.1,
    h'.answer.2.trans h.answer.2⟩
  · rw [hsent', hsent, List.map_append, List.append_assoc]
  · rcases List.mem_append.mp hn with hn | hn
    · exact hnews n hn
    · exact (hnews' n hn).imp_right fun hheard => hheard.elim (h.registered n.1) .inr
  · exact (h'.registered c hc).elim (h.registered c) .inr

/-- One message to one client. -/
theorem of_send {c : ClientId} {message : Notification} (htells : powers.tells message)
    (h : s.Registered c ∨ c = client ∧ powers.greets) : Announces client powers s { s with sent := s.sent ++ [(c, .notify message)] } := by
  refine ⟨⟨[(c, message)], rfl, fun n hn => ?_⟩, fun _ hc => .inl hc, rfl, rfl⟩
  obtain rfl := List.mem_singleton.mp hn
  exact ⟨htells, h⟩

theorem of_register (address : U16String) (h : powers.greets) : Announces client powers s
    { s with clientAddressMap := Function.update s.clientAddressMap address (some client) } := by
  refine ⟨⟨[], by simp, by simp⟩, ?_, rfl, rfl⟩
  rintro c ⟨address', hc⟩
  change Function.update s.clientAddressMap address (some client) address' = some c at hc
  by_cases haddress : address' = address
  · rw [haddress, Function.update_self] at hc
    exact .inr ⟨(Option.some.inj hc).symm, h⟩
  · rw [Function.update_of_ne haddress] at hc
    exact .inl ⟨address', hc⟩

end Announces

section Steps
variable {powers : Powers}

theorem makes_announces_sendTo (address : U16String) {message : Serve Notification} (h : message.Still)
    (htells : message.Returns powers.tells) :
    (sendTo address message).Makes (Announces client powers) := by
  intro s
  rw [sendTo, get_bind_run]
  cases hclient : s.clientAddressMap address with
  | none => exact .refl
  | some c =>
    dsimp only
    split
    · refine changes_bind (h.makes s) fun m t hrun => ?_
      obtain rfl : t = s := by simpa [hrun] using h s
      exact .single (Announces.of_send (htells _ _ _ hrun) (.inl ⟨address, hclient⟩))
    · exact .refl

/-- What each step of a handler tells. -/
theorem makes_announces_primitive (hloads : powers.loads) (α : Type) (x : Serve α) (h : Primitive client powers α x) :
    x.Makes (Announces client powers) := by
  cases h with
  | execute statement _ =>
    intro s
    rcases execute_cases statement s with ⟨_, hrun⟩ | ⟨_, _, _, hrun⟩ <;> rw [hrun]
    · exact .single (Announces.of_eq rfl rfl ⟨rfl, rfl⟩)
    · exact .single (Announces.of_eq rfl rfl ⟨rfl, rfl⟩)
  | memory f hf =>
    refine makes_modify fun s => ?_
    rw [hf.memory s]
    exact Announces.of_eq rfl rfl ⟨rfl, rfl⟩
  | summon _ hnot => exact absurd hloads hnot
  | response f hf => exact makes_modify fun s => Announces.of_eq rfl rfl (hf s.response)
  | policy event => exact makes_modify fun s => Announces.of_eq rfl rfl ⟨rfl, rfl⟩
  | sendTo address hmessage => exact makes_announces_sendTo address hmessage.looks.still hmessage.tells
  | forward address hmessage =>
    exact hmessage.looks.still.makes.bind_returns hmessage.tells fun m hm =>
      makes_announces_sendTo address (still_pure m) (returns_pure hm)
  | greet hmessage hgreets =>
    exact hmessage.looks.still.makes.bind_returns hmessage.tells fun m hm =>
      makes_modify fun s => Announces.of_send hm (.inr ⟨rfl, hgreets⟩)
  | register address hgreets => exact makes_modify fun s => Announces.of_register address hgreets

theorem Routine.announces {α : Type} {x : Serve α} (h : Routine client powers x) (hloads : powers.loads) (s : Server) :
    Announces client powers s (x s).2 :=
  changes_related Announces.refl Announces.trans (fun _ _ h => h) (h.makes (makes_announces_primitive hloads) s)

end Steps

section Handling

/-- An answered request leaves notifications and then its answer, under its own type and track number. -/
theorem announces_handle (h : request.handle client s = (.ok (), t)) :
    (∃ (news : List (ClientId × Notification)) (result : ChatResultCode) (body : ResponseBody),
      t.sent = s.sent ++ news.map (fun n => (n.1, .notify n.2)) ++
        [(client, .response request.type request.track result body)] ∧
      ∀ n ∈ news, request.Tells n.2 ∧ (s.Registered n.1 ∨ n.1 = client ∧ request.Greets)) ∧
    ∀ c, t.Registered c → s.Registered c ∨ c = client ∧ request.Greets := by
  obtain ⟨u, body, hcaught, _, rfl⟩ := handle_eq_ok h
  have hannounces : Announces client request.powers (s.receiving request) u := by
    rcases caught_eq_ok hcaught with hrun | ⟨e, v, code, hrun, _, rfl⟩
    · have := (routine_handler client request).announces trivial (s.receiving request)
      rwa [hrun] at this
    · have := (routine_handler client request).announces trivial (s.receiving request)
      rw [hrun] at this
      exact this.trans (Announces.of_eq rfl rfl ⟨rfl, rfl⟩)
  obtain ⟨news, hsent, hnews⟩ := hannounces.sent
  obtain ⟨htype, htrack⟩ := hannounces.answer
  refine ⟨⟨news, u.response.result, body, ?_, hnews⟩, hannounces.registered⟩
  change u.sent ++ [(client, _)] = _
  rw [hsent, htype, htrack]
  rfl

end Handling

section Runs
variable {inputs : List Input}

/-- The messages to a client, in order. -/
def Server.received (s : Server) (c : ClientId) : List Outgoing := (s.sent.filter (·.1 = c)).map (·.2)

/-- The type and the track number of an answer. -/
def Outgoing.answered : Outgoing → Option (ChatResponseType × UInt32)
  | .response type track _ _ => some (type, track)
  | .notify _ => none

/-- The type and the track number of a request of the client. -/
def Input.asked (c : ClientId) : Input → Option (ChatResponseType × UInt32)
  | .request client request _ _ => if client = c then some (request.type, request.track) else none
  | _ => none

/-- The client logs somebody in. -/
def Input.Logs (c : ClientId) : Input → Prop
  | .request client request _ _ => client = c ∧ request.Greets
  | _ => False

theorem received_append (c : ClientId) {new : List (ClientId × Outgoing)} (h : t.sent = s.sent ++ new) :
    t.received c = s.received c ++ (new.filter (·.1 = c)).map (·.2) := by
  rw [Server.received, h, List.filter_append, List.map_append]
  rfl

/-- What one input adds to what a client hears. -/
theorem received_step (c : ClientId) {input : Input} (h : s.step input = some t) :
    ∃ told : List Notification, ∃ answers : List Outgoing,
      t.received c = s.received c ++ told.map .notify ++ answers ∧
      answers.map Outgoing.answered = (input.asked c).toList.map some ∧
      (told ≠ [] → s.Registered c ∨ input.Logs c) ∧
      (t.Registered c → s.Registered c ∨ input.Logs c) := by
  cases input with
  | request client request time steadyClock =>
    obtain ⟨_, _, hrun⟩ := Server.step_request h
    obtain ⟨⟨news, result, body, hsent, hnews⟩, hregistered⟩ := announces_handle hrun
    rw [List.append_assoc] at hsent
    have hreceived := received_append c hsent
    rw [List.filter_append, List.map_append] at hreceived
    refine ⟨(news.filter (·.1 = c)).map (·.2), ([(client, .response request.type request.track result body)].filter
      (·.1 = c)).map (·.2), ?_, ?_, fun hnonempty => ?_, fun hc => ?_⟩
    · rw [hreceived, List.append_assoc, List.filter_map, List.map_map, List.map_map]
      rfl
    · by_cases hclient : client = c
      · simp [hclient, Outgoing.answered, Input.asked]
      · simp [hclient, Input.asked]
    · obtain ⟨n, hn⟩ := List.exists_mem_of_ne_nil _ hnonempty
      obtain ⟨m, hm, rfl⟩ := List.mem_map.mp hn
      obtain ⟨hmem, hto⟩ := List.mem_filter.mp hm
      obtain rfl : m.1 = c := by simpa using hto
      exact (hnews m hmem).2.imp_right fun hlogs => ⟨hlogs.1.symm, hlogs.2⟩
    · exact (hregistered c hc).imp_right fun hlogs => ⟨hlogs.1.symm, hlogs.2⟩
  | connect =>
    obtain rfl := Option.some.inj h
    exact ⟨[], [], by simp [Server.received, Server.connect], rfl, by simp, fun hc => .inl hc⟩
  | disconnect client =>
    obtain ⟨_, rfl⟩ := Server.step_disconnect h
    exact ⟨[], [], by simp [Server.received, Server.disconnect], rfl, by simp, fun hc => .inl hc⟩
  | tick =>
    obtain rfl := Option.some.inj h
    exact ⟨[], [], by simp [Server.received, Server.tick], rfl, by simp, fun hc => .inl hc⟩
  | restart =>
    obtain rfl := Option.some.inj h
    refine ⟨[], [], by simp [Server.received, Server.restart], rfl, by simp, ?_⟩
    rintro ⟨address, hc⟩
    exact absurd hc (by simp [Server.restart, Server.start])

private theorem filterMap_answered {answers : List Outgoing} {asked : List (ChatResponseType × UInt32)}
    (h : answers.map Outgoing.answered = asked.map some) : answers.filterMap Outgoing.answered = asked := by
  have hboth := congrArg (List.filterMap id) h
  simpa [List.filterMap_map] using hboth

/-- In every run the answers a client hears are those to its requests, each answered once and in their order. -/
theorem answers_in_order (c : ClientId) (h : runInputs Server.step s inputs = some t) :
    (t.received c).filterMap Outgoing.answered =
      (s.received c).filterMap Outgoing.answered ++ inputs.filterMap (Input.asked c) := by
  induction inputs generalizing s with
  | nil =>
    obtain rfl := Option.some.inj h
    simp
  | cons input inputs ih =>
    obtain ⟨u, hu, hrest⟩ := Option.bind_eq_some_iff.mp h
    obtain ⟨told, answers, hreceived, hanswers, -, -⟩ := received_step c hu
    have htold : (told.map Outgoing.notify).filterMap Outgoing.answered = [] := by
      simp [List.filterMap_map, Function.comp_def, Outgoing.answered]
    rw [ih hrest, hreceived, List.filterMap_append, List.filterMap_append, htold, filterMap_answered hanswers,
      List.filterMap_cons]
    cases input.asked c <;> simp

/-- A version is asked for and then a room that does not exist, while another client connects. -/
theorem answers_in_order_two :
    ∃ t, runInputs Server.step Server.blank [.connect, .request 0 (.setApiVersion ⟨7, 2⟩) 0 0, .connect,
      .request 0 (.getRoom ⟨8, [0x61]⟩) 0 0] = some t ∧
      (t.received 0).filterMap Outgoing.answered = [(.setApiVersion, 7), (.getRoom, 8)] := by
  have hrun : (runInputs Server.step Server.blank [.connect, .request 0 (.setApiVersion ⟨7, 2⟩) 0 0, .connect,
      .request 0 (.getRoom ⟨8, [0x61]⟩) 0 0]).isSome := by decide
  exact ⟨_, (Option.some_get hrun).symm, answers_in_order 0 (Option.some_get hrun).symm⟩

/-- A client that is not registered and logs nobody in stays so, and hears answers only. -/
private theorem received_of_unregistered (c : ClientId) (hs : ¬ s.Registered c) (hinputs : ∀ i ∈ inputs, ¬ i.Logs c)
    (h : runInputs Server.step s inputs = some t) : ∃ answers, t.received c = s.received c ++ answers ∧
      answers.map Outgoing.answered = (inputs.filterMap (Input.asked c)).map some := by
  induction inputs generalizing s with
  | nil =>
    obtain rfl := Option.some.inj h
    exact ⟨[], by simp, rfl⟩
  | cons input inputs ih =>
    obtain ⟨u, hu, hrest⟩ := Option.bind_eq_some_iff.mp h
    obtain ⟨hfirst, hinputs⟩ := List.forall_mem_cons.mp hinputs
    obtain ⟨told, answers, hreceived, hanswers, htold, hregistered⟩ := received_step c hu
    obtain ⟨rest, hrest, hasked⟩ := ih (fun hc => (hregistered hc).elim hs hfirst) hinputs hrest
    obtain rfl : told = [] := by
      by_contra hne
      exact (htold hne).elim hs hfirst
    refine ⟨answers ++ rest, by rw [hrest, hreceived]; simp, ?_⟩
    rw [List.map_append, hanswers, hasked, List.filterMap_cons]
    cases input.asked c <;> simp

/-- In every run a client that logs nobody in hears nothing but the answers to its requests. -/
theorem stranger_hears_answers {db : Database} {fails : Nat → Bool} {version : UInt32} {config : Policy.Config}
    (c : ClientId) (h : runInputs Server.step (Server.start db fails version config) inputs = some t)
    (hinputs : ∀ input ∈ inputs, ¬ input.Logs c) :
    (t.received c).map Outgoing.answered = (inputs.filterMap (Input.asked c)).map some := by
  have hstart : ¬ (Server.start db fails version config).Registered c := by
    rintro ⟨address, hc⟩
    exact absurd hc (by simp [Server.start])
  obtain ⟨answers, hreceived, hanswers⟩ := received_of_unregistered c hstart hinputs h
  rw [hreceived]
  exact hanswers

/-- One client logs an avatar in, and another hears of its own question only. -/
theorem stranger_hears_answers_one :
    ∃ t, runInputs Server.step (Server.start .empty (fun _ => false) 2 {}) [.connect, .connect,
      .request 0 (.loginAvatar ⟨3, 1, [0x61], [0x62], [], 0, 0⟩) 0 0, .request 1 (.setApiVersion ⟨7, 2⟩) 0 0] = some t ∧
      (t.received 1).map Outgoing.answered = [some (.setApiVersion, 7)] := by
  have hrun : (runInputs Server.step (Server.start .empty (fun _ => false) 2 {}) [.connect, .connect,
      .request 0 (.loginAvatar ⟨3, 1, [0x61], [0x62], [], 0, 0⟩) 0 0,
      .request 1 (.setApiVersion ⟨7, 2⟩) 0 0]).isSome := by decide
  refine ⟨_, (Option.some_get hrun).symm, stranger_hears_answers 1 (Option.some_get hrun).symm ?_⟩
  simp [Input.Logs, Request.Greets]

end Runs

section Notices
variable {input : Input} {inputs : List Input}

/-- A message that is a notification. -/
def notified : ClientId × Outgoing → Option (ClientId × Notification)
  | (client, .notify n) => some (client, n)
  | (_, .response ..) => none

@[simp] theorem notified_notify (client : ClientId) (n : Notification) :
    notified (client, .notify n) = some (client, n) := rfl

@[simp] theorem notified_response (client : ClientId) (type : ChatResponseType) (track : UInt32)
    (result : ChatResultCode) (body : ResponseBody) : notified (client, .response type track result body) = none := rfl

/-- The notifications among the messages. -/
def Server.notices (s : Server) : List (ClientId × Notification) := s.sent.filterMap notified

def Input.Tells : Input → Notification → Prop
  | .request _ request _ _, n => request.Tells n
  | _, _ => False

theorem notices_of_sent {new : List (ClientId × Outgoing)} (h : t.sent = s.sent ++ new) :
    t.notices = s.notices ++ new.filterMap notified := by
  rw [Server.notices, h, List.filterMap_append]
  rfl

/-- One input. -/
theorem notices_step (h : s.step input = some t) :
    ∃ block, t.notices = s.notices ++ block ∧ ∀ n ∈ block, input.Tells n.2 := by
  cases input with
  | request client request time steadyClock =>
    obtain ⟨_, _, hrun⟩ := Server.step_request h
    obtain ⟨⟨news, result, body, hsent, hnews⟩, -⟩ := announces_handle hrun
    refine ⟨news, ?_, fun n hn => (hnews n hn).1⟩
    rw [List.append_assoc] at hsent
    rw [notices_of_sent hsent, List.filterMap_append, List.filterMap_map]
    simp [Function.comp_def, Server.notices, Server.atTime]
  | disconnect client =>
    obtain ⟨_, rfl⟩ := Server.step_disconnect h
    exact ⟨[], (List.append_nil _).symm, by simp⟩
  | connect | tick | restart =>
    obtain rfl := Option.some.inj h
    exact ⟨[], (List.append_nil _).symm, by simp⟩

/-- In every run the notifications come in one block for each input, in the order of the inputs, and each is one
that this very input may send: messages, mails and rooms are never made up or mixed up. -/
theorem notices_are_caused (h : runInputs Server.step s inputs = some t) :
    ∃ blocks, t.notices = s.notices ++ blocks.flatten ∧ List.Forall₂ (fun (x : Server × Input × Server) block =>
      ∀ n ∈ block, x.2.1.Tells n.2) (runSteps Server.step s inputs) blocks :=
  runSteps_blocks Server.notices _ (fun _ _ _ _ _ => trivial) (fun _ _ _ (_ : True) hstep => notices_step hstep) trivial h

/-- A game server, two avatars that live there, and a message from one to the other. -/
def chatRun : List Input :=
  [.connect, .request 0 (.loginAvatar ⟨1, 1, systemName, [0x61], [], 0, 0⟩) 0 0,
    .request 0 (.loginAvatar ⟨2, 2, [0x62], [0x61], [], 0, 0⟩) 0 0,
    .request 0 (.loginAvatar ⟨3, 3, [0x63], [0x61], [], 0, 0⟩) 0 0,
    .request 0 (.sendInstantMessage ⟨4, 2, [0x63], [0x61], [0x68], [0x1F4], []⟩) 0 0]

/-- The message is the only notification, and in one of the blocks. -/
theorem notices_are_caused_one : ∃ t blocks, runInputs Server.step Server.blank chatRun = some t ∧
    t.notices.length = 1 ∧ t.notices = blocks.flatten ∧ List.Forall₂ (fun (x : Server × Input × Server) block =>
      ∀ n ∈ block, x.2.1.Tells n.2) (runSteps Server.step Server.blank chatRun) blocks := by
  have hone : (runInputs Server.step Server.blank chatRun).any (fun t => decide (t.notices.length = 1)) = true := by
    decide +kernel
  obtain ⟨t, hrun, hnotices⟩ := (Option.any_eq_true _ _).mp hone
  have hnotices := of_decide_eq_true hnotices
  obtain ⟨blocks, hblocks, hcaused⟩ := notices_are_caused hrun
  exact ⟨t, blocks, hrun, hnotices, hblocks, hcaused⟩

end Notices
end StationChat
