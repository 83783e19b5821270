import StationChat.Gateway.Dialogue

/-! What no request looks at makes no difference: the policy engine, and the questions that were asked before. -/
namespace StationChat
open Lib Lib.Action Relation

variable {client : ClientId} {request : Request} {s t : Server}

/-- What is left of a server when a request has been answered, apart from what was sent. -/
def Server.lasting (s : Server) : Server :=
  { s.seen with response := { type := .loginAvatar, track := 0 }, time := 0 }

/-- Two servers that look the same, with the same messages behind different ones. -/
structure Alike (before before' : List (ClientId × Outgoing)) (s t : Server) : Prop where
  seen : s.seen = t.seen
  sent : ∃ new, s.sent = before ++ new ∧ t.sent = before' ++ new

section Agreement
variable {before before' : List (ClientId × Outgoing)} {powers : Powers}

theorem agrees_looks {α : Type} {x : Serve α} (h : Looks Server.seen x) : x.Agrees (Alike before before') :=
  h.agrees (fun _ _ hst => hst.seen) fun _ _ hx => hx.elim

theorem agrees_send (client : ClientId) (message : Outgoing) :
    (send client message).Agrees (Alike before before') := by
  refine agrees_modify fun s t h => ⟨h.seen, ?_⟩
  obtain ⟨new, hs, ht⟩ := h.sent
  refine ⟨new ++ [(client, message)], ?_, ?_⟩
  · change s.sent ++ [(client, message)] = _
    rw [hs, List.append_assoc]
  · change t.sent ++ [(client, message)] = _
    rw [ht, List.append_assoc]

private theorem of_seen {β : Type} (f : Server → β) (hf : ∀ s, f s = f s.seen) (h : s.seen = t.seen) :
    f s = f t := by
  rw [hf s, h, ← hf t]

theorem agrees_sendTo (address : U16String) {message : Serve Notification} (h : Looks Server.seen message) :
    (sendTo address message).Agrees (Alike before before') := by
  refine agrees_look (fun s t hst => ?_) fun s => ?_
  · have hmap := of_seen (fun s => s.clientAddressMap address) (fun _ => rfl) hst.seen
    have hclients := of_seen (fun s => s.clients) (fun _ => rfl) hst.seen
    rw [hmap, hclients]
  · cases s.clientAddressMap address with
    | none => exact agrees_pure _
    | some c =>
      dsimp only
      split
      · exact (agrees_looks h).bind fun m => agrees_send c (.notify m)
      · exact agrees_throw _

theorem agrees_execute {α : Type} (statement : Statement α) :
    (execute statement).Agrees (Alike before before') := by
  intro s t h
  have hfails := of_seen (fun s => s.fails s.executed) (fun _ => rfl) h.seen
  have hdb := of_seen (fun s => s.db) (fun _ => rfl) h.seen
  have hattempt {db db' : Database} (hdb : db = db') (failures failures' : Nat) :
      ({ s.attempt statement with db, failures } : Server).seen =
        ({ t.attempt statement with db := db', failures := failures' } : Server).seen := by
    subst hdb
    change { s.seen with executed := s.executed + 1, db } = { t.seen with executed := t.executed + 1, db }
    rw [h.seen, of_seen (fun s => s.executed) (fun _ => rfl) h.seen]
  rcases execute_cases statement s with ⟨hfailed, hrun⟩ | ⟨a, db, ⟨hf, hok⟩, hrun⟩
  · rw [hfails, hdb] at hfailed
    rw [hrun, execute_failed hfailed]
    exact ⟨rfl, hattempt hdb _ _, h.sent⟩
  · rw [hfails] at hf
    rw [hdb] at hok
    rw [hrun, execute_ok hf hok]
    exact ⟨rfl, hattempt rfl _ _, h.sent⟩

theorem agrees_setResponse (f : Response → Response) : (setResponse f).Agrees (Alike before before') := by
  refine agrees_modify fun s t hst => ⟨?_, hst.sent⟩
  change { s.seen with response := f s.seen.response } = { t.seen with response := f t.seen.response }
  rw [hst.seen]

/-- No step of a handler tells such servers apart. -/
theorem agrees_primitive (hloads : powers.loads) (α : Type) (x : Serve α) (h : Primitive client powers α x) :
    x.Agrees (Alike before before') := by
  cases h with
  | execute statement _ => exact agrees_execute statement
  | memory f hf =>
    refine agrees_modify fun s t hst => ⟨?_, ?_⟩
    · rw [hf.memory s, hf.memory t, ← hst.seen]
      change s.seen.withMemory (f s.seen) = t.seen.withMemory (f s.seen)
      rw [hst.seen]
    · rw [hf.memory s, hf.memory t]
      exact hst.sent
  | summon _ hnot => exact absurd hloads hnot
  | response f _ => exact agrees_setResponse f
  | policy event => exact agrees_modify fun s t hst => ⟨hst.seen, hst.sent⟩
  | sendTo address hmessage => exact agrees_sendTo address hmessage.looks
  | forward address hmessage => exact (agrees_looks hmessage.looks).bind fun m => agrees_sendTo address (.pure m)
  | greet hmessage _ => exact (agrees_looks hmessage.looks).bind fun m => agrees_send client (.notify m)
  | register address _ =>
    refine agrees_modify fun s t hst => ⟨?_, hst.sent⟩
    change { s.seen with clientAddressMap := Function.update s.seen.clientAddressMap address (some client) } =
      { t.seen with clientAddressMap := Function.update t.seen.clientAddressMap address (some client) }
    rw [hst.seen]

/-- Nor does a whole request, from decoding on. -/
theorem agrees_handle (client : ClientId) (hseen : (s.receiving request).seen = (t.receiving request).seen) :
    (request.handle client s).1 = (request.handle client t).1 ∧
      Alike s.sent t.sent (request.handle client s).2 (request.handle client t).2 := by
  have hagrees : (caught (request.handler client) >>= fun _ => get >>= fun u =>
      responseBody u.response >>= fun body => send client
        (.response u.response.type u.response.track u.response.result body) : Serve Unit).Agrees
          (Alike s.sent t.sent) := by
    refine Agrees.bind ?_ fun _ => agrees_look (fun u v h => ?_) fun u => ?_
    · refine agrees_tryCatch ?_ fun e => ?_
      · exact (routine_handler client request).agrees (fun _ _ h => h.seen) (agrees_primitive trivial)
      · cases e with
        | chatResult | database =>
          exact agrees_setResponse _
        | _ => exact agrees_throw _
    · have hresponse := of_seen (fun s => s.response) (fun _ => rfl) h.seen
      rw [hresponse]
    · exact (agrees_looks (looks_responseBody _)).bind fun body => agrees_send client _
  exact hagrees (s := s.receiving request) (t := t.receiving request) ⟨hseen, [], by simp [Server.receiving],
    by simp [Server.receiving]⟩

end Agreement

section Steps

/-- Between requests only the lasting part counts: servers that share it take the same inputs, send the same and
share it again. -/
theorem step_agrees (h : s.lasting = t.lasting) (input : Input) :
    s.step input = none ∧ t.step input = none ∨
      ∃ s' t' new, s.step input = some s' ∧ t.step input = some t' ∧ s'.lasting = t'.lasting ∧
        s'.sent = s.sent ++ new ∧ t'.sent = t.sent ++ new := by
  have hfield {β : Type} (f : Server → β) (hf : ∀ s, f s = f s.lasting) : f s = f t := by rw [hf s, h, ← hf t]
  have hclients : s.clients = t.clients := hfield (·.clients) fun _ => rfl
  have hdisconnected : s.disconnected = t.disconnected := hfield (·.disconnected) fun _ => rfl
  cases input with
  | request client request time steadyClock =>
    simp only [Server.step, hclients, hdisconnected]
    split
    · have hseen : ((s.atTime time steadyClock).receiving request).seen =
          ((t.atTime time steadyClock).receiving request).seen := by
        change { s.lasting with time, response := { type := request.type, track := request.track } } =
          { t.lasting with time, response := { type := request.type, track := request.track } }
        rw [h]
      obtain ⟨hvalue, halike⟩ := agrees_handle client hseen
      rcases hs : request.handle client (s.atTime time steadyClock) with ⟨e | _, s'⟩ <;>
        rcases ht : request.handle client (t.atTime time steadyClock) with ⟨e' | _, t'⟩ <;>
        rw [hs, ht] at hvalue halike
      · exact .inl ⟨rfl, rfl⟩
      · exact absurd hvalue (by simp)
      · exact absurd hvalue (by simp)
      · obtain ⟨new, hs', ht'⟩ := halike.sent
        refine .inr ⟨s', t', new, rfl, rfl, ?_, hs', ht'⟩
        rw [Server.lasting, halike.seen]
        rfl
    · exact .inl ⟨rfl, rfl⟩
  | connect =>
    refine .inr ⟨s.connect, t.connect, [], rfl, rfl, ?_, by simp [Server.connect], by simp [Server.connect]⟩
    change s.lasting.connect = t.lasting.connect
    rw [h]
  | disconnect client =>
    simp only [Server.step, hclients]
    split
    · refine .inr ⟨s.disconnect client, t.disconnect client, [], rfl, rfl, ?_, by simp [Server.disconnect],
        by simp [Server.disconnect]⟩
      change s.lasting.disconnect client = t.lasting.disconnect client
      rw [h]
    · exact .inl ⟨rfl, rfl⟩
  | tick =>
    refine .inr ⟨s.tick, t.tick, [], rfl, rfl, ?_, by simp [Server.tick], by simp [Server.tick]⟩
    change s.lasting.tick = t.lasting.tick
    rw [h]
  | restart =>
    refine .inr ⟨s.restart, t.restart, [], rfl, rfl, ?_, by simp [Server.restart], by simp [Server.restart]⟩
    change s.lasting.restart.lasting = t.lasting.restart.lasting
    rw [h]

/-- Whole runs of servers that share the lasting part. -/
theorem runs_agree (h : s.lasting = t.lasting) (inputs : List Input) :
    runInputs Server.step s inputs = none ∧ runInputs Server.step t inputs = none ∨
      ∃ s' t' new, runInputs Server.step s inputs = some s' ∧ runInputs Server.step t inputs = some t' ∧
        s'.lasting = t'.lasting ∧ s'.sent = s.sent ++ new ∧ t'.sent = t.sent ++ new := by
  induction inputs generalizing s t with
  | nil => exact .inr ⟨s, t, [], rfl, rfl, h, by simp, by simp⟩
  | cons input inputs ih =>
    simp only [runInputs]
    rcases step_agrees h input with ⟨hs, ht⟩ | ⟨s', t', new, hs, ht, hlasting, hsent, hsent'⟩
    · exact .inl ⟨by rw [hs]; rfl, by rw [ht]; rfl⟩
    · rw [hs, ht, Option.bind_some, Option.bind_some]
      rcases ih hlasting with ⟨hs', ht'⟩ | ⟨u, v, rest, hu, hv, hlasting', hrest, hrest'⟩
      · exact .inl ⟨hs', ht'⟩
      · exact .inr ⟨u, v, new ++ rest, hu, hv, hlasting', by rw [hrest, hsent, List.append_assoc],
          by rw [hrest', hsent', List.append_assoc]⟩

end Steps

section Policy

/-- The policy engine only watches: whatever its thresholds, and whether it is enabled or not, every run ends in the
same state of the services, if it ends at all, and sends the same messages to the same clients. -/
theorem policy_only_watches (db : Database) (fails : Nat → Bool) (version : UInt32) (config config' : Policy.Config)
    (inputs : List Input) :
    (runInputs Server.step (Server.start db fails version config) inputs).map (fun t => (t.lasting, t.sent)) =
      (runInputs Server.step (Server.start db fails version config') inputs).map (fun t => (t.lasting, t.sent)) := by
  have hstart : (Server.start db fails version config).lasting = (Server.start db fails version config').lasting := rfl
  rcases runs_agree hstart inputs with ⟨hs, ht⟩ | ⟨s, t, new, hs, ht, hlasting, hsent, hsent'⟩
  · rw [hs, ht]
  · rw [hs, ht, Option.map_some, Option.map_some, hlasting, hsent, hsent']
    rfl

end Policy

section Questions

/-- Questions about rooms in memory and about the version of the server. -/
def Request.Asks : Request → Bool
  | .getRoom _ | .getRoomSummaries _ | .setApiVersion _ => true
  | _ => false

def Input.Asks : Input → Bool
  | .request _ request _ _ => request.Asks
  | _ => false

/-- The answer to such a question. -/
def Outgoing.explains : Outgoing → Bool
  | .response type _ _ _ => type ∈ [.getRoom, .getRoomSummaries, .setApiVersion]
  | .notify _ => false

/-- The messages that are no answers to questions. -/
def Server.unasked (s : Server) : List (ClientId × Outgoing) := s.sent.filter fun m => !m.2.explains

/-- Only the response is filled in. -/
private def Answering (s t : Server) : Prop := t.lasting = s.lasting ∧ t.sent = s.sent

private theorem makes_answering (f : Response → Response) : (setResponse f).Makes Answering :=
  makes_modify fun _ => ⟨rfl, rfl⟩

private theorem makes_question (h : request.Asks = true) : (request.handler client).Makes Answering := by
  cases request with
  | getRoom r =>
    refine Makes.bind (Makes.bind (makes_get.bind fun _ => makes_pure _) fun found => ?_) fun _ => makes_answering _
    cases found with
    | some room => exact makes_pure _
    | none => exact makes_throw _
  | getRoomSummaries r => exact (makes_get.bind fun _ => makes_pure _).bind fun _ => makes_answering _
  | setApiVersion r => exact makes_get.bind fun _ => makes_answering _
  | _ => exact absurd h (by simp [Request.Asks])

/-- A question leaves nothing behind but its answer. -/
theorem handle_question (hasks : request.Asks = true) (h : request.handle client s = (.ok (), t)) :
    t.lasting = s.lasting ∧ ∃ answer, t.sent = s.sent ++ [(client, answer)] ∧ answer.explains = true := by
  obtain ⟨u, body, hcaught, _, rfl⟩ := handle_eq_ok h
  have hmakes : (caught (request.handler client)).Makes Answering := by
    refine makes_tryCatch (makes_question hasks) fun e => ?_
    cases e with
    | chatResult | database => exact makes_answering _
    | _ => exact makes_throw _
  obtain ⟨hlasting, hsent⟩ := changes_related (P := Answering) (fun _ => ⟨rfl, rfl⟩)
    (fun h h' => ⟨h'.1.trans h.1, h'.2.trans h.2⟩) (fun _ _ h => h) (hmakes (s.receiving request))
  rw [hcaught] at hlasting hsent
  have htype : u.response.type = request.type := by
    rcases caught_eq_ok hcaught with hrun | ⟨e, v, code, hrun, _, rfl⟩
    · have htold := (routine_handler client request).announces trivial (s.receiving request)
      rw [hrun] at htold
      exact htold.answer.1
    · have htold := (routine_handler client request).announces trivial (s.receiving request)
      rw [hrun] at htold
      exact htold.answer.1
  refine ⟨hlasting, _, congrArg (· ++ _) hsent, ?_⟩
  rw [htype]
  cases request <;> first | rfl | exact absurd hasks (by simp [Request.Asks])

private theorem unasked_append {new : List (ClientId × Outgoing)} (h : t.sent = s.sent ++ new) :
    t.unasked = s.unasked ++ new.filter fun m => !m.2.explains := by
  rw [Server.unasked, h, List.filter_append]
  rfl

/-- Questions are invisible: in every run they may be left out anywhere. The run without them ends too, in the same
state of the services, and sends everything but their answers. -/
theorem questions_invisible {inputs : List Input} (h : runInputs Server.step s inputs = some t) :
    ∃ t', runInputs Server.step s (inputs.filter fun i => !i.Asks) = some t' ∧ t'.lasting = t.lasting ∧
      t'.unasked = t.unasked := by
  suffices hgeneral : ∀ s', s'.lasting = s.lasting → s'.unasked = s.unasked →
      ∃ t', runInputs Server.step s' (inputs.filter fun i => !i.Asks) = some t' ∧ t'.lasting = t.lasting ∧
        t'.unasked = t.unasked from hgeneral s rfl rfl
  induction inputs generalizing s with
  | nil =>
    obtain rfl := Option.some.inj h
    exact fun s' hlasting hunasked => ⟨s', rfl, hlasting, hunasked⟩
  | cons input inputs ih =>
    intro s' hlasting hunasked
    obtain ⟨u, hu, hrest⟩ := Option.bind_eq_some_iff.mp h
    cases hasks : input.Asks with
    | true =>
      rw [List.filter_cons_of_neg (by simp [hasks])]
      cases input with
      | request client request time steadyClock =>
        obtain ⟨_, _, hrun⟩ := Server.step_request hu
        obtain ⟨hsame, answer, hsent, hexplains⟩ := handle_question hasks hrun
        apply ih hrest s' (hlasting.trans hsame.symm)
        rw [hunasked, unasked_append (s := s) (t := u) hsent]
        simp [hexplains]
      | connect | disconnect | tick | restart => exact absurd hasks (by simp [Input.Asks])
    | false =>
      rw [List.filter_cons_of_pos (by simp [hasks]), runInputs]
      rcases step_agrees hlasting input with ⟨_, hnone⟩ | ⟨v, w, new, hv, hw, hvw, hsent, hsent'⟩
      · exact absurd (hnone.symm.trans hu) (by simp)
      · obtain rfl := Option.some.inj (hw.symm.trans hu)
        rw [hv, Option.bind_some]
        apply ih hrest v hvw
        rw [unasked_append hsent, unasked_append hsent', hunasked]

/-- A question between a login and a logout. -/
theorem questions_invisible_one :
    ∃ t t', runInputs Server.step Server.blank [.connect, .request 0 (.loginAvatar ⟨3, 1, [0x61], [0x62], [], 0, 0⟩) 0 0,
        .request 0 (.getRoom ⟨4, [0x61]⟩) 5 5, .request 0 (.logoutAvatar ⟨5, 1⟩) 6 6] = some t ∧
      runInputs Server.step Server.blank [.connect, .request 0 (.loginAvatar ⟨3, 1, [0x61], [0x62], [], 0, 0⟩) 0 0,
        .request 0 (.logoutAvatar ⟨5, 1⟩) 6 6] = some t' ∧ t'.unasked = t.unasked := by
  have hrun : (runInputs Server.step Server.blank [.connect,
      .request 0 (.loginAvatar ⟨3, 1, [0x61], [0x62], [], 0, 0⟩) 0 0, .request 0 (.getRoom ⟨4, [0x61]⟩) 5 5,
      .request 0 (.logoutAvatar ⟨5, 1⟩) 6 6]).isSome := by decide
  obtain ⟨t', hwithout, -, hunasked⟩ := questions_invisible (Option.some_get hrun).symm
  exact ⟨_, t', (Option.some_get hrun).symm, hwithout, hunasked⟩

end Questions
end StationChat
