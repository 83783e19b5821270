import StationChat.Rooms.Counters

/-! The ids of the messages to a stored room, over whole runs. The counter of the room goes back to the value
in its row with every load. -/
namespace StationChat
open Lib Lib.Action Lib.Contract Relation

/-- The id that a ROOMMESSAGE carries. -/
def Outgoing.messageId : Outgoing → Option UInt32
  | .notify (.roomMessage _ _ _ _ _ messageId) => some messageId
  | _ => none

namespace Server

/-- The ids of the ROOMMESSAGEs sent between two states. -/
def heard (u v : Server) : List UInt32 := (v.sent.drop u.sent.length).filterMap (·.2.messageId)

/-- The room that gets the message of a SENDROOMMESSAGE, whose avatar is looked up first. -/
def addressee (s : Server) (request : ReqSendRoomMessage) : Option ChatRoom :=
  match requireSrcAvatar request.srcAvatarId s with
  | (.ok _, _) => s.roomAt request.destRoomAddress
  | (.error _, _) => none

/-- The message goes to the room that the row stores. -/
def Messages (s : Server) (request : ReqSendRoomMessage) (row : RoomRow) : Prop :=
  row ∈ s.db.room ∧ ∃ r ∈ s.addressee request, StoredAs r row

instance (s : Server) (request : ReqSendRoomMessage) (row : RoomRow) : Decidable (s.Messages request row) :=
  inferInstanceAs (Decidable (_ ∧ ∃ r ∈ s.addressee request, _))

end Server

def Input.Messages (s : Server) (row : RoomRow) : Input → Prop
  | .request _ (.sendRoomMessage r) time steadyClock => (s.arrival (.sendRoomMessage r) time steadyClock).Messages r row
  | _ => False

instance (s : Server) (row : RoomRow) : DecidablePred (Input.Messages s row)
  | .request _ request time steadyClock => by
    apply Request.casesOn
      (motive := fun request => Decidable (Input.Messages s row (.request _ request time steadyClock))) request
    case sendRoomMessage => exact fun r => (s.arrival (.sendRoomMessage r) time steadyClock).instDecidableMessages r row
    all_goals exact fun _ => instDecidableFalse
  | .connect => instDecidableFalse
  | .disconnect _ => instDecidableFalse
  | .tick => instDecidableFalse
  | .restart => instDecidableFalse

instance (s : Server) (name address : U16String) (userId attributes : UInt32) (loginLocation : U16String) :
    Decidable (∃ avatar t, Handler.loginTarget name address userId attributes loginLocation s = (.ok avatar, t) ∧
      avatar.name = systemName) :=
  match hrun : Handler.loginTarget name address userId attributes loginLocation s with
  | (.ok avatar, t) =>
    decidable_of_iff (avatar.name = systemName) <| by
      constructor
      · exact fun h => ⟨avatar, t, rfl, h⟩
      · rintro ⟨_, _, heq, h⟩
        obtain rfl := Except.ok.inj (Prod.mk.inj heq).1
        exact h
  | (.error e, t) => isFalse (by simp)

instance (s : Server) : DecidablePred s.SystemLogin := by
  intro request
  apply Request.casesOn (motive := fun request => Decidable (s.SystemLogin request)) request
  case loginAvatar => exact fun r => inferInstanceAs (Decidable (∃ avatar t, _ = (Except.ok avatar, t) ∧ _))
  case failoverReLoginAvatar => exact fun r => inferInstanceAs (Decidable (∃ avatar t, _ = (Except.ok avatar, t) ∧ _))
  all_goals exact fun _ => instDecidableFalse

instance (s : Server) : DecidablePred s.Reloads
  | .request _ request time steadyClock =>
    inferInstanceAs (Decidable (((s.atTime time steadyClock).receiving request).SystemLogin request))
  | .restart => instDecidableTrue
  | .connect => instDecidableFalse
  | .disconnect _ => instDecidableFalse
  | .tick => instDecidableFalse

/-- What a run has done with the messages to one stored room: how many there were, how many of them since the
rooms were last loaded, and of those that went out the latter number when they came, with the ids they carried. -/
structure Tally where
  total : Nat
  since : Nat
  sent : List (Nat × List UInt32)
  deriving DecidableEq, Repr

/-- Copies of one message go to several game servers. -/
def Tally.message (w : Tally) (ids : List UInt32) : Tally where
  total := w.total + 1
  since := w.since + 1
  sent := if ids = [] then w.sent else w.sent ++ [(w.since, ids)]

/-- A server with the tally of each row. -/
structure Chronicle where
  server : Server
  tally : RoomRow → Tally

namespace Chronicle

def start (db : Database) (fails : Nat → Bool) (version : UInt32) (config : Policy.Config) : Chronicle where
  server := Server.start db fails version config
  tally _ := ⟨0, 0, []⟩

def step (w : Chronicle) (input : Input) : Option Chronicle :=
  (w.server.step input).map fun t =>
    { server := t
      tally := fun row =>
        if w.server.Reloads input then { w.tally row with since := 0 }
        else if input.Messages w.server row then (w.tally row).message (w.server.heard t)
        else w.tally row }

def Reaches : Chronicle → Chronicle → Prop := Runs step fun _ _ => True

end Chronicle

variable {s t u v : Server} {row : RoomRow} {n : RoomRow → Nat} {q q' : UInt32 → Prop}

section Heard

/-- The ROOMMESSAGEs sent on the way carry ids with the property. -/
def Sends (q : UInt32 → Prop) (s t : Server) : Prop :=
  ∃ more, t.sent = s.sent ++ more ∧ ∀ c ∈ more, ∀ id ∈ c.2.messageId, q id

namespace Sends

theorem of_eq (h : t.sent = s.sent) : Sends q s t := ⟨[], by simp [h], by simp⟩

theorem trans (h : Sends q s t) (h' : Sends q t u) : Sends q s u := by
  obtain ⟨more, hsent, hmore⟩ := h
  obtain ⟨more', hsent', hmore'⟩ := h'
  refine ⟨more ++ more', by rw [hsent', hsent, List.append_assoc], fun c hc => ?_⟩
  rcases List.mem_append.mp hc with hc | hc
  · exact hmore c hc
  · exact hmore' c hc

theorem mono (h : Sends q s t) (hq : ∀ id, q id → q' id) : Sends q' s t := by
  obtain ⟨more, hsent, hmore⟩ := h
  exact ⟨more, hsent, fun c hc id hid => hq id (hmore c hc id hid)⟩

theorem heard (h : Sends q s t) : ∀ id ∈ s.heard t, q id := by
  obtain ⟨more, hsent, hmore⟩ := h
  intro id hid
  rw [Server.heard, hsent, List.drop_left] at hid
  obtain ⟨c, hc, hid⟩ := List.mem_filterMap.mp hid
  exact hmore c hc id hid

end Sends

theorem messageId_of_speaking {message : Outgoing} (h : message.speaking = false) : message.messageId = none := by
  unfold Outgoing.messageId
  split
  · exact absurd h (by simp [Outgoing.speaking])
  · rfl

theorem sends_change {housing : Prop} (h : Change housing False True s t) : Sends (fun _ => False) s t := by
  cases h with
  | sent client message h =>
    refine ⟨[(client, message)], rfl, fun c hc id hid => ?_⟩
    rw [List.mem_singleton.mp hc, messageId_of_speaking (by simpa using h)] at hid
    exact absurd hid (by simp)
  | _ => exact .of_eq rfl

theorem sends_changes {housing : Prop} (h : ReflTransGen (Change housing False True) s t) : Sends (fun _ => False) s t :=
  changes_related (P := Sends fun _ => False) (fun _ => .of_eq rfl) .trans (fun _ _ => sends_change) h

end Heard

section Speaking
variable {r : ChatRoom} {room : RoomPtr} {request : ReqSendRoomMessage}

private theorem setResponse_bind_run (f : Response → Response) (rest : Unit → Serve Unit) (s : Server) :
    (setResponse f >>= rest) s = rest () { s with response := f s.response } := rfl

private theorem evaluatePolicyEvent_bind_run (event : Policy.Event) (rest : Unit → Serve Unit) (s : Server) :
    (evaluatePolicyEvent event >>= rest) s = rest () { s with
      recentActions := (Policy.evaluate s.policyConfig s.recentActions event s.steadyClock).2 } := rfl

/-- The loop over the addresses sends copies of one message, and does nothing else. -/
theorem sendRoomMessageUpdate_sends (srcAvatar : AvatarPtr) (room : RoomPtr) (messageId : UInt32)
    (message oob : U16String) (s : Server) :
    Posted s (sendRoomMessageUpdate srcAvatar room messageId message oob s).2 ∧
      Sends (· = messageId) s (sendRoomMessageUpdate srcAvatar room messageId message oob s).2 := by
  have hmakes : (sendRoomMessageUpdate srcAvatar room messageId message oob).Makes
      fun s t => Posted s t ∧ Sends (· = messageId) s t := by
    refine (still_readRoom room).makes.bind fun _ => makes_forM (fun address => ?_) _
    refine (still_readRoom room).makes.bind fun r => (still_getAvatarIds r srcAvatar).makes.bind fun l => ?_
    apply makes_sendTo_of address (still_message srcAvatar _) (Q := fun m => (Outgoing.notify m).messageId = some messageId)
    · exact returns_bind fun _ => returns_pure rfl
    · refine fun client m hm => makes_modify fun s => ⟨⟨rfl, List.prefix_append _ _⟩, _, rfl, fun c hc id hid => ?_⟩
      rw [List.mem_singleton.mp hc, hm] at hid
      exact (Option.some.inj hid).symm
  apply changes_related (fun s => ⟨Posted.refl s, .of_eq rfl⟩) _ (fun _ _ h => h) (hmakes s)
  exact fun h h' => ⟨h.1.trans h'.1, h.2.trans h'.2⟩

theorem Steady.roomAt (h : Steady s t) (roomAddress : U16String) :
    (t.roomAt roomAddress).map (fun r => (r.identity, r.roomMessageId)) =
      (s.roomAt roomAddress).map fun r => (r.identity, r.roomMessageId) := by
  have hfind := congrArg (List.find? fun pair => roomAddress == pair.1.roomAddress) h.rooms
  rw [List.find?_map, List.find?_map] at hfind
  exact hfind

/-- A SENDROOMMESSAGE that finds no avatar or no room changes nothing about rooms. -/
theorem sendRoomMessage_none (h : s.addressee request = none) :
    Steady s (Handler.sendRoomMessage request s).2 ∧ Sends (fun _ => False) s (Handler.sendRoomMessage request s).2 := by
  have hsrc : ReflTransGen (Change False False True) s (requireSrcAvatar request.srcAvatarId s).2 :=
    makes_requireSrcAvatar _ s
  rw [Handler.sendRoomMessage]
  rcases hrun : requireSrcAvatar request.srcAvatarId s with ⟨e | p, t⟩ <;> rw [hrun] at hsrc
  · rw [bind_error hrun]
    exact ⟨steady_changes hsrc, sends_changes hsrc⟩
  · have hst : Steady s t := steady_changes hsrc
    have hnone : s.roomAt request.destRoomAddress = none := by
      rw [Server.addressee, hrun] at h
      exact h
    have hfound := hst.roomAt request.destRoomAddress
    rw [hnone, Option.map_none, Option.map_eq_none_iff] at hfound
    rw [bind_ok hrun, bind_error (requireRoom_nowhere hfound _)]
    exact ⟨hst, sends_changes hsrc⟩

/-- Otherwise the counter of the room moves on, and its value goes out. -/
theorem sendRoomMessage_some (h : s.addressee request = some r) : ∃ t room r', Steady s t ∧ t.rooms[room]? = some r' ∧
    r'.identity = r.identity ∧ r'.roomMessageId = r.roomMessageId ∧
    Steady (t.updateRoom room fun r => { r with roomMessageId := r.roomMessageId + 1 })
      (Handler.sendRoomMessage request s).2 ∧
    Sends (· = r.roomMessageId) s (Handler.sendRoomMessage request s).2 := by
  have hsrc : ReflTransGen (Change False False True) s (requireSrcAvatar request.srcAvatarId s).2 :=
    makes_requireSrcAvatar _ s
  rcases hrun : requireSrcAvatar request.srcAvatarId s with ⟨e | p, t⟩ <;> rw [hrun] at hsrc
  · rw [Server.addressee, hrun] at h
    exact absurd h (by simp)
  · have hst : Steady s t := steady_changes hsrc
    have hsome : s.roomAt request.destRoomAddress = some r := by
      rw [Server.addressee, hrun] at h
      exact h
    have hfound := hst.roomAt request.destRoomAddress
    rw [hsome, Option.map_some] at hfound
    obtain ⟨r', hr', hpair⟩ := Option.map_eq_some_iff.mp hfound
    obtain ⟨hidentity, hcounter⟩ := Prod.mk.inj hpair
    obtain ⟨room, hroom, hr⟩ := requireRoom_at hr' .addressNotRoom
    refine ⟨t, room, r', hst, hr, hidentity, hcounter, ?_⟩
    rw [Handler.sendRoomMessage, bind_ok hrun, bind_ok hroom, bind_ok (readRoom_of_getElem? hr),
      setResponse_bind_run, evaluatePolicyEvent_bind_run]
    generalize hu : ({ t with response := _, recentActions := _ } : Server) = u
    have hrooms : u.rooms = t.rooms := by rw [← hu]
    have hdb : u.db = t.db := by rw [← hu]
    have hsent : u.sent = t.sent := by rw [← hu]
    rw [bind_ok (writeRoom_of_getElem? (hrooms ▸ hr) _), ← hcounter]
    obtain ⟨hposted, hsends⟩ := sendRoomMessageUpdate_sends p room r'.roomMessageId request.message request.oob
      (u.updateRoom room fun r => { r with roomMessageId := r.roomMessageId + 1 })
    constructor
    · apply Steady.of_eq
      · rw [hposted.rest, Server.updateRoom, Server.updateRoom, hrooms]
      · rw [hposted.rest]
        exact hdb
    · have hbefore : Sends (fun _ => False) s t := sends_changes hsrc
      have hsame : Sends (fun _ => False) t (u.updateRoom room fun r =>
        { r with roomMessageId := r.roomMessageId + 1 }) := .of_eq hsent
      exact ((hbefore.trans hsame).mono fun _ => False.elim).trans hsends

theorem Counted.sendRoomMessage (h : Counted n s) (request : ReqSendRoomMessage) :
    Counted (fun row => if s.Messages request row then n row + 1 else n row) (Handler.sendRoomMessage request s).2 := by
  cases haddressee : s.addressee request with
  | none =>
    have hnot : ∀ row, ¬ s.Messages request row := by simp [Server.Messages, haddressee]
    simp only [hnot, if_false]
    exact h.steady (sendRoomMessage_none haddressee).1
  | some r =>
    obtain ⟨t, room, r', hst, hr, hidentity, -, hmoved, -⟩ := sendRoomMessage_some haddressee
    have hmessages : ∀ row, s.Messages request row ↔ row ∈ t.db.room ∧ StoredAs r' row := by
      intro row
      rw [hst.room, Server.Messages, haddressee]
      constructor
      · rintro ⟨hrow, _, ⟨⟩, hstored⟩
        exact ⟨hrow, storedAs_of_identity hidentity hstored⟩
      · rintro ⟨hrow, hstored⟩
        exact ⟨hrow, r, rfl, storedAs_of_identity hidentity.symm hstored⟩
    simp only [hmessages]
    exact ((h.steady hst).messaged hr).steady hmoved

/-- A message to a room carries the value of its counter. -/
theorem Counted.sends (h : Counted n s) (hmessages : s.Messages request row) :
    Sends (· = UInt32.ofNat (row.roomMessageId + n row)) s (Handler.sendRoomMessage request s).2 := by
  obtain ⟨hrow, r, haddressee, hstored⟩ := hmessages
  obtain ⟨t, room, r', hst, hr, hidentity, hcounter, -, hsends⟩ := sendRoomMessage_some haddressee
  have hcount := (h.steady hst).counted r' (List.mem_of_getElem? hr) row (hst.room ▸ hrow)
    (storedAs_of_identity hidentity hstored)
  rwa [← hcount, hcounter]

end Speaking

section Logins
variable {name address loginLocation : U16String} {userId attributes : UInt32} {avatar : AvatarPtr}

theorem Counted.ends_makes {α : Type} {x : Serve α} (h : Counted n s) (hx : x.Makes (Change False False True)) :
    x.Ends s (fun _ t => Counted n t) fun _ t => Counted n t := by
  have hst := h.steady (steady_changes (hx s))
  unfold Ends
  split <;> rename_i hrun <;> rw [hrun] at hst <;> exact hst

theorem ends_loginAvatar (avatar : AvatarPtr) :
    (loginAvatar avatar).Ends s (fun _ _ => True) fun e _ => e.resultCode = none := by
  rw [loginAvatar, ends_bind]
  cases hobject : s.avatar? avatar with
  | some a =>
    apply Ends.of_run (writeAvatar_run hobject _)
    rw [ends_bind]
    apply Ends.of_run (x := isOnline avatar) rfl
    split <;> trivial
  | none =>
    unfold Ends
    rw [writeAvatar, bind_error (readAvatar_dangling hobject)]
    rfl

/-- The rooms that a login of SYSTEM loads count from the values in their rows. -/
theorem ends_systemLogin (client : ClientId) (h : Counted n s)
    (hrun : Handler.loginTarget name address userId attributes loginLocation s = (.ok avatar, t))
    (hname : avatar.name = systemName) :
    (Handler.login client name address userId attributes loginLocation).Ends s (fun _ u => Counted (fun _ => 0) u)
      fun e u => e.resultCode = none ∨ Counted (fun _ => 0) u := by
  have htarget := (h.ends_makes (Handler.makes_loginTarget name address userId attributes loginLocation)).ok_of_run hrun
  rw [Handler.login, ends_bind]
  apply Ends.of_run hrun
  rw [ends_bind]
  have hpolicy : ∀ event, (evaluatePolicyEvent event).Ends t (fun _ u => Counted n u) fun e _ => e.resultCode = none :=
    fun _ => htarget.steady (.of_eq rfl rfl)
  apply (hpolicy _).mono
  case herr => exact fun e u hu => .inl hu
  intro _ t ht
  rw [ends_bind]
  apply ((ht.ends_makes (makes_loginAvatar trivial avatar)).and (ends_loginAvatar avatar)).mono
  case herr => exact fun e u hu => .inl hu.2
  intro _ u ⟨hu, _⟩
  rw [ends_bind, Handler.welcome, if_pos hname, ends_bind]
  have hregistered : (registerClientAddress avatar.address client).Ends u (fun _ v => Counted n v) fun _ _ => False :=
    hu.steady (.of_eq rfl rfl)
  apply hregistered.mono
  case herr => exact fun e v hv => hv.elim
  intro _ v hv
  unfold Ends
  rcases hload : loadRoomsFromStorage address v with ⟨e | _, w⟩
  · exact .inr (.loaded hv.keys hload)
  · exact Counted.loaded hv.keys hload

/-- Every request that loads the rooms anew. -/
theorem ends_systemRequest (client : ClientId) {request : Request} (h : Counted n s) (hsystem : s.SystemLogin request) :
    (request.handler client).Ends s (fun _ u => Counted (fun _ => 0) u)
      fun e u => e.resultCode = none ∨ Counted (fun _ => 0) u := by
  cases request with
  | loginAvatar r =>
    obtain ⟨avatar, t, hrun, hname⟩ := hsystem
    change (Handler.loginAvatar client r).Ends s _ _
    rw [Handler.loginAvatar, ends_bind]
    apply (ends_systemLogin client h hrun hname).mono
    case herr => exact fun _ _ he => he
    exact fun _ u hu => hu.steady (.of_eq rfl rfl)
  | failoverReLoginAvatar r =>
    obtain ⟨avatar, t, hrun, hname⟩ := hsystem
    change (Handler.failoverReLoginAvatar client r).Ends s _ _
    rw [Handler.failoverReLoginAvatar, ends_bind]
    apply (ends_systemLogin client h hrun hname).mono
    case herr => exact fun _ _ he => he
    intro p u hu
    apply (hu.ends_makes (Makes.bind (still_getJoinedRooms _).makes fun rooms =>
      makes_forM (fun room => makes_sendEnterRoomUpdate p room) rooms)).mono
    · exact fun _ _ hv => hv
    · exact fun _ _ hv => .inr hv
  | _ => exact absurd hsystem id

end Logins

section Steps
variable {client : ClientId} {request : Request} {time : UInt32} {steadyClock : Nat} {input : Input}

/-- How many messages the rooms count after an input. -/
def Input.counts (s : Server) (input : Input) (n : RoomRow → Nat) (row : RoomRow) : Nat :=
  if s.Reloads input then 0 else if input.Messages s row then n row + 1 else n row

/-- What is left of a request after its handler. -/
theorem answered_request (h : s.step (.request client request time steadyClock) = some t) :
    (∀ e, (request.handler client (s.arrival request time steadyClock)).1 = .error e → e.resultCode ≠ none) ∧
      Steady (request.handler client (s.arrival request time steadyClock)).2 t ∧
      Sends (fun _ => False) (request.handler client (s.arrival request time steadyClock)).2 t := by
  obtain ⟨u, hhandler, body, rfl⟩ := step_request_cases h
  have hresponse : ∀ c ∈ [(client, Outgoing.response u.response.type u.response.track u.response.result body)],
      ∀ id ∈ c.2.messageId, False := by
    intro c hc id hid
    rw [List.mem_singleton.mp hc] at hid
    exact absurd hid (by simp [Outgoing.messageId])
  rcases hhandler with hrun | ⟨e, v, code, hrun, hcode, rfl⟩ <;> rw [hrun]
  · exact ⟨by simp, .of_eq rfl rfl, _, rfl, hresponse⟩
  · refine ⟨?_, .of_eq rfl rfl, _, rfl, hresponse⟩
    rintro _ ⟨⟩
    simp [hcode]

theorem speaking_of_messages (h : Input.Messages s row (.request client request time steadyClock)) :
    request.speaking := by
  cases request with
  | sendRoomMessage r => exact trivial
  | _ => exact h

theorem counted_step (h : Counted n u) (hstep : u.step input = some v) : Counted (input.counts u n) v := by
  have hother : (∀ row, ¬ input.Messages u row) → ¬ u.Reloads input → input.counts u n = n := by
    intro hnone hreload
    funext row
    rw [Input.counts, if_neg hreload, if_neg (hnone row)]
  cases input with
  | connect =>
    obtain rfl := Option.some.inj hstep
    rw [hother (fun _ => id) id]
    exact h.steady (.of_eq rfl rfl)
  | disconnect client =>
    obtain ⟨-, rfl⟩ := Server.step_disconnect hstep
    rw [hother (fun _ => id) id]
    exact h.steady (.of_eq rfl rfl)
  | tick =>
    obtain rfl := Option.some.inj hstep
    rw [hother (fun _ => id) id]
    exact h.steady (.of_eq rfl rfl)
  | restart =>
    obtain rfl := Option.some.inj hstep
    exact .of_nil h.keys rfl
  | request client request time steadyClock =>
    obtain ⟨hcaught, hst, -⟩ := answered_request hstep
    have harrival : Counted n (u.arrival request time steadyClock) := h.steady (.of_eq rfl rfl)
    by_cases hreload : u.Reloads (.request client request time steadyClock)
    · have hzero : Input.counts u (.request client request time steadyClock) n = fun _ => 0 := by
        funext row
        rw [Input.counts, if_pos hreload]
      rw [hzero]
      have hends := ends_systemRequest client harrival hreload
      rcases hrun : request.handler client (u.arrival request time steadyClock) with ⟨e | _, w⟩ <;>
        rw [hrun] at hst hcaught
      · exact ((hends.err_of_run hrun).resolve_left (hcaught e rfl)).steady hst
      · exact (hends.ok_of_run hrun).steady hst
    · by_cases hspeaking : request.speaking
      · cases request with
        | sendRoomMessage r =>
          have hcounts : Input.counts u (.request client (.sendRoomMessage r) time steadyClock) n =
              fun row => if (u.arrival (.sendRoomMessage r) time steadyClock).Messages r row then n row + 1 else n row := by
            funext row
            rw [Input.counts, if_neg hreload]
            rfl
          rw [hcounts]
          exact (harrival.sendRoomMessage r).steady hst
        | _ => exact absurd hspeaking id
      · rw [hother (fun row hmessages => hspeaking (speaking_of_messages hmessages)) hreload]
        exact (keepsCounts_handler client request hspeaking hreload n harrival).steady hst

theorem heard_step (h : Counted n u) (hmessages : input.Messages u row) (hstep : u.step input = some v) :
    ∀ id ∈ u.heard v, id = UInt32.ofNat (row.roomMessageId + n row) := by
  cases input with
  | request client request time steadyClock =>
    cases request with
    | sendRoomMessage r =>
      obtain ⟨-, -, hanswer⟩ := answered_request hstep
      have harrival : Counted n (u.arrival (.sendRoomMessage r) time steadyClock) := h.steady (.of_eq rfl rfl)
      have hbefore : Sends (· = UInt32.ofNat (row.roomMessageId + n row)) u
        (u.arrival (.sendRoomMessage r) time steadyClock) := .of_eq rfl
      exact ((hbefore.trans (harrival.sends hmessages)).trans (hanswer.mono fun _ => False.elim)).heard
    | _ => exact absurd hmessages id
  | _ => exact absurd hmessages id

end Steps

section Runs
variable {w : Chronicle} {db : Database} {fails : Nat → Bool} {version : UInt32} {config : Policy.Config}

/-- The ids that have gone out, and that nothing repeats as long as no load has set a counter back. -/
structure Tally.Exact (row : RoomRow) (w : Tally) : Prop where
  since : w.since ≤ w.total
  ids : ∀ m ∈ w.sent, m.1 < w.total ∧ m.2 ≠ [] ∧ ∀ id ∈ m.2, id = UInt32.ofNat (row.roomMessageId + m.1)
  steady : w.since = w.total → (w.sent.map Prod.fst).Nodup

structure Chronicled (w : Chronicle) : Prop where
  counted : Counted (fun row => (w.tally row).since) w.server
  exact : ∀ row, (w.tally row).Exact row

theorem Tally.Exact.reloaded {w : Tally} (h : w.Exact row) : { w with since := 0 }.Exact row where
  since := Nat.zero_le _
  ids := h.ids
  steady htotal := by
    have hnone : w.sent = [] := by
      apply List.eq_nil_iff_forall_not_mem.mpr
      intro m hm
      have hlt := (h.ids m hm).1
      have hzero : 0 = w.total := htotal
      omega
    rw [hnone]
    exact List.nodup_nil

theorem Tally.Exact.message {w : Tally} (h : w.Exact row) {ids : List UInt32}
    (hids : ∀ id ∈ ids, id = UInt32.ofNat (row.roomMessageId + w.since)) : (w.message ids).Exact row := by
  refine ⟨Nat.succ_le_succ h.since, fun m hm => ?_, fun htotal => ?_⟩
  · have hcases : m ∈ w.sent ∨ m = (w.since, ids) ∧ ids ≠ [] := by
      unfold Tally.message at hm
      split at hm
      · exact .inl hm
      · rename_i hsome
        exact (List.mem_append.mp hm).imp_right fun hm => ⟨List.mem_singleton.mp hm, hsome⟩
    rcases hcases with hm | ⟨rfl, hsome⟩
    · obtain ⟨hlt, hrest⟩ := h.ids m hm
      exact ⟨Nat.lt_succ_of_lt hlt, hrest⟩
    · exact ⟨Nat.lt_succ_of_le h.since, hsome, hids⟩
  · have hsince : w.since = w.total := Nat.succ.inj htotal
    unfold Tally.message
    split
    · exact h.steady hsince
    · rw [List.map_append, List.nodup_append]
      refine ⟨h.steady hsince, by simp, fun k hk k' hk' => ?_⟩
      obtain ⟨m, hm, rfl⟩ := List.mem_map.mp hk
      have hlt := (h.ids m hm).1
      rw [List.map_singleton, List.mem_singleton] at hk'
      omega

theorem chronicled_step {w' : Chronicle} {input : Input} (h : Chronicled w) (hstep : w.step input = some w') :
    Chronicled w' := by
  obtain ⟨t, ht, rfl⟩ := Option.map_eq_some_iff.mp hstep
  constructor
  · have hcounted := counted_step h.counted ht
    have hsince : ∀ row, input.counts w.server (fun row => (w.tally row).since) row =
        (if w.server.Reloads input then { w.tally row with since := 0 }
          else if input.Messages w.server row then (w.tally row).message (w.server.heard t) else w.tally row).since := by
      intro row
      rw [Input.counts]
      split
      · rfl
      · split <;> rfl
    rwa [show input.counts w.server (fun row => (w.tally row).since) = _ from funext hsince] at hcounted
  · intro row
    dsimp only
    split
    · exact (h.exact row).reloaded
    · split
      · rename_i hmessages
        exact (h.exact row).message (heard_step h.counted hmessages ht)
      · exact h.exact row

theorem chronicled_reaches (hdb : db.RoomKeys) (h : (Chronicle.start db fails version config).Reaches w) :
    Chronicled w := by
  apply Runs.invariant h
  · exact ⟨.of_nil hdb rfl, fun row => ⟨Nat.le_refl _, by simp [Chronicle.start], by simp [Chronicle.start]⟩⟩
  · exact fun _ _ _ hw _ hstep => chronicled_step hw hstep

/-- In every run, with fewer than 2^32 messages to a stored room, no two of these that went out carry the same id
just if no two of them came after equally many messages since a load. So it is if no load came in between. -/
theorem room_message_ids_unique_iff (hdb : db.RoomKeys) (h : (Chronicle.start db fails version config).Reaches w)
    (row : RoomRow) (htotal : (w.tally row).total < 2 ^ 32) :
    (((w.tally row).sent.map Prod.snd).Pairwise List.Disjoint ↔ ((w.tally row).sent.map Prod.fst).Nodup) ∧
      ((w.tally row).since = (w.tally row).total → ((w.tally row).sent.map Prod.snd).Pairwise List.Disjoint) := by
  have hw := (chronicled_reaches hdb h).exact row
  have hiff : ((w.tally row).sent.map Prod.snd).Pairwise List.Disjoint ↔ ((w.tally row).sent.map Prod.fst).Nodup := by
    rw [List.Nodup, List.pairwise_map, List.pairwise_map]
    apply List.Pairwise.iff_of_mem
    intro m m' hm hm'
    obtain ⟨hlt, hsome, hids⟩ := hw.ids m hm
    obtain ⟨hlt', hsome', hids'⟩ := hw.ids m' hm'
    obtain ⟨id, hid⟩ := List.exists_mem_of_ne_nil _ hsome
    obtain ⟨id', hid'⟩ := List.exists_mem_of_ne_nil _ hsome'
    constructor
    · intro hdisjoint hsame
      apply hdisjoint hid
      rwa [hids id hid, hsame, ← hids' id' hid']
    · intro hne i hi hi'
      apply hne
      have hsame := (hids i hi).symm.trans (hids' i hi')
      rw [UInt32.ofNat_add, UInt32.ofNat_add, UInt32.add_right_inj] at hsame
      have hnat := congrArg UInt32.toNat hsame
      rwa [UInt32.toNat_ofNat', UInt32.toNat_ofNat', Nat.mod_eq_of_lt (hlt.trans htotal),
        Nat.mod_eq_of_lt (hlt'.trans htotal)] at hnat
  exact ⟨hiff, fun hsince => hiff.mpr (hw.steady hsince)⟩

def Chronicle.blank : Chronicle := Chronicle.start .empty (fun _ => false) 2 {}

/-- An avatar makes a stored room and twice enters it and sends a message to it. -/
def messageRun (between : List Input) : List Input :=
  let address := [0x61, 0x2B, 0x72]
  let enter : Input := .request 0 (.enterRoom ⟨3, 1, address, [], none, false, []⟩) 0 0
  let speak : Input := .request 0 (.sendRoomMessage ⟨4, 1, address, [0x68], [], []⟩) 0 0
  [.connect, .request 0 (.loginAvatar ⟨1, 1, [0x62], [0x61], [], 0, 0⟩) 0 0,
    .request 0 (.loginAvatar ⟨1, 0, systemName, [0x61], [], 0, 0⟩) 0 0,
    .request 0 (.createRoom ⟨2, 1, [0x72], [], [], RoomAttribute.persistent.mask, 0, [0x61], []⟩) 0 0, enter, speak] ++
    between ++ [enter, speak]

/-- Without a load the ids are 1 and 2. -/
theorem room_message_ids_unique_steady : ∃ w, Chronicle.blank.Reaches w ∧ ∃ row ∈ w.server.db.room,
    (w.tally row).sent = [(0, [1]), (1, [2])] ∧ ((w.tally row).sent.map Prod.snd).Pairwise List.Disjoint := by
  obtain ⟨w, hrun, row, hrow, hsince, htotal, hsent⟩ : ∃ w, Chronicle.blank.Reaches w ∧ ∃ row ∈ w.server.db.room,
      (w.tally row).since = 2 ∧ (w.tally row).total = 2 ∧ (w.tally row).sent = [(0, [1]), (1, [2])] :=
    Runs.exists_of_inputs (messageRun []) (by decide +kernel) fun _ _ => trivial
  obtain ⟨-, hsteady⟩ := room_message_ids_unique_iff
    ⟨by simp [Database.empty], by simp [Database.empty], by simp [Database.empty]⟩ hrun row
    (by rw [htotal]; decide)
  exact ⟨w, hrun, row, hrow, hsent, hsteady (by rw [hsince, htotal])⟩

/-- SYSTEM logs in again between the messages, and both carry the id 1. -/
theorem message_id_repeated : ∃ w, Chronicle.blank.Reaches w ∧ ∃ row ∈ w.server.db.room,
    (w.tally row).total = 2 ∧ (w.tally row).sent = [(0, [1]), (0, [1])] ∧
    ¬ ((w.tally row).sent.map Prod.snd).Pairwise List.Disjoint := by
  obtain ⟨w, hrun, row, hrow, htotal, hsent⟩ : ∃ w, Chronicle.blank.Reaches w ∧ ∃ row ∈ w.server.db.room,
      (w.tally row).total = 2 ∧ (w.tally row).sent = [(0, [1]), (0, [1])] :=
    Runs.exists_of_inputs (messageRun [.request 0 (.loginAvatar ⟨1, 0, systemName, [0x61], [], 0, 0⟩) 0 0])
      (by decide +kernel) fun _ _ => trivial
  refine ⟨w, hrun, row, hrow, htotal, hsent, ?_⟩
  rw [hsent]
  simp

end Runs
end StationChat
