import StationChat.Gateway.AvatarHandlers
import StationChat.Gateway.Handling

/-! One request from its arrival to its response, and runs of the gateway. -/
namespace StationChat
open Lib Lib.Action Lib.Contract

variable {P : Exn → Prop} {s : Server}

section Requests
variable {client : ClientId}

private theorem Response.ready_avatar {r : Response} {cache : List ChatAvatar} {rooms : Nat}
    (htype : r.type = .loginAvatar ∨ r.type = .setAvatarAttributes ∨ r.type = .getAnyAvatar ∨
      r.type = .friendStatus ∨ r.type = .ignoreStatus)
    (h : Good cache r.avatar) : r.Ready cache rooms := by
  unfold Response.Ready
  obtain ⟨p, hp, hlive⟩ := h
  rcases htype with htype | htype | htype | htype | htype <;> rw [htype]
  · exact fun _ => ⟨p, hp, hlive⟩
  · exact fun _ => ⟨p, hp, hlive⟩
  · exact fun _ => ⟨p, hp, hlive⟩
  · exact fun _ q hq => Option.some.inj (hp.symm.trans hq) ▸ hlive
  · exact fun _ q hq => Option.some.inj (hp.symm.trans hq) ▸ hlive

private theorem Response.ready_room {r : Response} {cache : List ChatAvatar} {rooms : Nat}
    (htype : r.type = .createRoom ∨ r.type = .getRoom)
    (h : ∃ room, r.room = some room ∧ room < rooms) : r.Ready cache rooms := by
  unfold Response.Ready
  rcases htype with htype | htype <;> rw [htype] <;> exact fun _ => h

/-- The responses that follow no pointer. -/
private def plain : ChatResponseType → Bool
  | .loginAvatar | .setAvatarAttributes | .getAnyAvatar | .createRoom | .getRoom | .friendStatus
  | .ignoreStatus | .getRoomSummaries | .getPersistentMessage => false
  | _ => true

private theorem Response.ready_plain {r : Response} {cache : List ChatAvatar} {rooms : Nat}
    (h : plain r.type = true) : r.Ready cache rooms := by
  unfold Response.Ready
  cases htype : r.type <;> first | trivial | simp [htype, plain] at h

/-- A handler that only has to end. -/
private theorem holds_plain {keep : Prop} {x : Serve Unit} {type : ChatResponseType}
    (htype : s.response.type = type) (hplain : plain type = true)
    (h : (gateway P keep).Holds x s fun _ _ => True) :
    (gateway P keep).Holds x s fun _ t => t.response.Ready t.avatarCache t.rooms.length :=
  h.mono fun _ _ _ hst _ => Response.ready_plain (by rw [hst.type, htype, hplain])

/-- A handler that leaves a good avatar, or a room, in its response. -/
private theorem holds_avatar {keep : Prop} {x : Serve Unit}
    (htype : s.response.type = .loginAvatar ∨ s.response.type = .setAvatarAttributes ∨
      s.response.type = .getAnyAvatar ∨ s.response.type = .friendStatus ∨
      s.response.type = .ignoreStatus)
    (h : (gateway P keep).Holds x s fun _ t => Good t.avatarCache t.response.avatar) :
    (gateway P keep).Holds x s fun _ t => t.response.Ready t.avatarCache t.rooms.length :=
  h.mono fun _ _ _ hst hgood => Response.ready_avatar (hst.type.symm ▸ htype) hgood

private theorem holds_room {keep : Prop} {x : Serve Unit}
    (htype : s.response.type = .createRoom ∨ s.response.type = .getRoom)
    (h : (gateway P keep).Holds x s fun _ t =>
      ∃ room, t.response.room = some room ∧ room < t.rooms.length) :
    (gateway P keep).Holds x s fun _ t => t.response.Ready t.avatarCache t.rooms.length :=
  h.mono fun _ _ _ hst hroom => Response.ready_room (hst.type.symm ▸ htype) hroom

/-- Every handler keeps the contract, request type by request type. -/
theorem holds_handler (request : Request) (hs : Fit P s) (hclient : client ∈ s.clients)
    (ha : request.Admissible P s) (htype : s.response.type = request.type)
    (hne : request.type ≠ .getRoomSummaries) :
    (gateway P False).Holds (request.handler client) s fun _ t =>
      t.response.Ready t.avatarCache t.rooms.length := by
  cases request with
  | loginAvatar r =>
    exact holds_avatar (by simp [htype, Request.type]) (holds_loginAvatarHandler r hs hclient ha.inRange)
  | logoutAvatar r =>
    exact holds_plain htype rfl (holds_loosen (holds_logoutAvatarHandler r hs ha.nullSafe))
  | createRoom r =>
    exact holds_room (by simp [htype, Request.type])
      (holds_loosen (holds_createRoomHandler r hs ha.nullSafe ha.inRange))
  | destroyRoom r => exact holds_plain htype rfl (holds_destroyRoomHandler r hs ha.settled)
  | sendInstantMessage r => exact holds_plain htype rfl (holds_sendInstantMessage r hs)
  | sendRoomMessage r =>
    exact holds_plain htype rfl (holds_loosen (holds_sendRoomMessageHandler r hs))
  | addFriend r => exact holds_plain htype rfl (holds_addFriendHandler r hs)
  | removeFriend r => exact holds_plain htype rfl (holds_removeFriendHandler r hs)
  | friendStatus r =>
    exact holds_avatar (by simp [htype, Request.type]) (holds_contactStatus r hs)
  | addIgnore r => exact holds_plain htype rfl (holds_addIgnoreHandler r hs)
  | removeIgnore r => exact holds_plain htype rfl (holds_removeIgnoreHandler r hs ha.nullSafe)
  | enterRoom r => exact holds_plain htype rfl (holds_loosen (holds_enterRoomHandler r hs))
  | leaveRoom r => exact holds_plain htype rfl (holds_loosen (holds_leaveRoomHandler r hs))
  | addModerator r =>
    exact holds_plain htype rfl (holds_loosen (holds_addModerator hs ha.serviced))
  | removeModerator r => exact holds_plain htype rfl (holds_loosen (holds_removeModerator hs))
  | addBan r => exact holds_plain htype rfl (holds_loosen (holds_addBan hs))
  | removeBan r => exact holds_plain htype rfl (holds_loosen (holds_removeBan hs))
  | addInvite r => exact holds_plain htype rfl (holds_loosen (holds_addInvite hs))
  | removeInvite r => exact holds_plain htype rfl (holds_loosen (holds_removeInvite hs))
  | kickAvatar r => exact holds_plain htype rfl (holds_loosen (holds_kickAvatar hs))
  | getRoom r =>
    exact holds_room (by simp [htype, Request.type]) (holds_loosen (holds_getRoomHandler r hs))
  | getRoomSummaries r => exact absurd rfl hne
  | sendPersistentMessage r =>
    exact holds_plain htype rfl (holds_sendPersistentMessage r hs ha.inRange)
  | getPersistentHeaders r => exact holds_plain htype rfl (holds_getPersistentHeaders r hs)
  | getPersistentMessage r =>
    refine (holds_getPersistentMessage r hs).mono fun _ t _ hst hmessage => ?_
    simp [Response.Ready, hst.type.trans htype, Request.type, hmessage]
  | updatePersistentMessage r =>
    exact holds_plain htype rfl (holds_updateMessageStatus _ _ _ hs ha.inRange)
  | updatePersistentMessages r =>
    exact holds_plain htype rfl (holds_bulkUpdateMessageStatus _ _ _ hs ha.inRange)
  | ignoreStatus r =>
    exact holds_avatar (by simp [htype, Request.type]) (holds_contactStatus r hs)
  | failoverReLoginAvatar r =>
    exact holds_plain htype rfl (holds_failoverReLoginAvatar r hs hclient ha.inRange)
  | setApiVersion r =>
    refine holds_plain htype rfl (holds_get_bind ?_)
    exact (holds_setResponse hs rfl rfl).mono fun _ _ _ _ _ => trivial
  | setAvatarAttributes r =>
    exact holds_avatar (by simp [htype, Request.type]) (holds_setAvatarAttributes r hs ha.inRange)
  | getAnyAvatar r => exact holds_avatar (by simp [htype, Request.type]) (holds_getAnyAvatar r hs)

/-- Listing the rooms cannot fail, and its response names rooms that are there. -/
theorem getRoomSummaries_ends (request : ReqGetRoomSummaries) (hs : Fit P s) :
    (Handler.getRoomSummaries request).Ends s (fun _ t => Fit P t ∧ Kept False s t ∧
      ∀ room ∈ t.response.rooms, room < t.rooms.length) fun _ _ => False := by
  refine ⟨hs, ⟨fun _ h => h, rfl, rfl, rfl, ⟨[], by simp⟩, False.elim⟩, fun room hroom => ?_⟩
  exact (List.mem_findIdxs_iff_exists_getElem_pos.mp hroom).1

/-- What a request that was answered has sent: any notifications, and last its own response. -/
def Answered (client : ClientId) (request : Request) (s t : Server) : Prop :=
  t.clients = s.clients ∧ ∃ (notified : List (ClientId × Notification)) (result : ChatResultCode)
    (body : ResponseBody), t.sent = s.sent ++ notified.map (fun m => (m.1, .notify m.2)) ++
      [(client, .response request.type request.track result body)]

/-- The handler with its two `catch` clauses leaves a response that can be encoded. -/
theorem caught_ends (request : Request) (hs : Fit P s) (hclient : client ∈ s.clients)
    (ha : request.Admissible P s) (htype : s.response.type = request.type) :
    (tryCatch (request.handler client) fun
      | .chatResult code _ => setResponse fun r => { r with result := code }
      | .database => setResponse fun r => { r with result := .database }
      | e => throw e).Ends s
      (fun _ t => Fit P t ∧ Kept False s t ∧ t.response.Ready t.avatarCache t.rooms.length)
      (fun e _ => P e) := by
  rw [ends_tryCatch]
  by_cases hne : request.type = .getRoomSummaries
  · cases request <;> simp only [Request.type, reduceCtorEq] at hne
    rename_i r
    refine (getRoomSummaries_ends r hs).mono ?_ fun _ _ h => absurd h id
    intro _ t ⟨ht, hst, hrooms⟩
    refine ⟨ht, hst, ?_⟩
    rw [Response.Ready, hst.type, htype]
    exact hrooms
  · refine Ends.mono (holds_handler request hs hclient ha htype hne) (fun _ t h => h) ?_
    intro e t ⟨ht, hst, he⟩
    have hfailed : ∀ code, code ≠ ChatResultCode.success →
        (setResponse fun r => { r with result := code }).Ends t
          (fun _ u => Fit P u ∧ Kept False s u ∧ u.response.Ready u.avatarCache u.rooms.length)
          (fun e _ => P e) := by
      intro code hcode
      refine ⟨ht, hst.trans ⟨fun _ h => h, rfl, rfl, rfl, ⟨[], by simp⟩, False.elim⟩, ?_⟩
      exact Response.ready_of_failed hcode (by rw [hst.type, htype]; exact hne)
    cases e with
    | chatResult code message => exact hfailed code he
    | database => exact hfailed .database (by simp)
    | outOfFuel => exact absurd he id
    | outOfRange | nullPointer | unsetService | dangling | freedRoom => exact he

/-- A request is answered once, or the process stops by trouble that is tolerated. -/
theorem handle_ends (request : Request) (hs : Fit P s) (hclient : client ∈ s.clients)
    (ha : request.Admissible P s) :
    (request.handle client).Ends s (fun _ t => Fit P t ∧ Answered client request s t)
      (fun e _ => P e) := by
  let s' : Server := { s with response := { type := request.type, track := request.track } }
  have hs' : Fit P s' := hs
  have ha' : request.Admissible P s' := by
    refine ⟨fun h => ?_, fun h => ?_, fun h => ?_, fun h => ?_⟩
    · have := ha.nullSafe h
      cases request <;> exact this
    · have := ha.inRange h
      cases request <;> exact this
    · have := ha.serviced h
      cases request <;> exact this
    · have := ha.settled h
      cases request <;> exact this
  unfold Request.handle handleIncomingMessage
  rw [ends_bind, ends_modify, ends_bind]
  refine (caught_ends (s := s') request hs' hclient ha' rfl).mono ?_ fun _ _ h => h
  intro _ t ⟨ht, hst, hready⟩
  rw [ends_bind, ends_get, ends_bind]
  refine Ends.mono (encoding_responseBody ht hready) ?_ fun _ _ h => absurd h.2.2 id
  rintro body u ⟨hu, heq, _⟩
  obtain rfl : u = t := heq
  obtain ⟨notified, hnotified⟩ := hst.notified
  refine ⟨hu, hst.clients, notified, u.response.result, body, ?_⟩
  change u.sent ++ [(client, .response u.response.type u.response.track _ body)] = _
  rw [hnotified, hst.type, hst.track]

/-- A request does what its handler does, except that what is caught is answered too. -/
theorem handle_of_handler {request : Request} {Q : Server → Prop} {E : Exn → Server → Prop}
    (hs : Fit (fun _ => True) s) (hclient : client ∈ s.clients)
    (h : (request.handler client).Ends (s.receiving request) (fun _ t => Q t) E) :
    (request.handle client).Ends s
      (fun _ t => ∃ u type track result body,
        t = { u with sent := u.sent ++ [(client, .response type track result body)] } ∧
        (Q u ∨ ∃ e v code, E e v ∧ e.resultCode = some code ∧ u = v.withResult code))
      (fun e _ => e.resultCode = none ∧ ∃ u, E e u) := by
  have hadmissible : request.Admissible (fun _ => True) (s.receiving request) :=
    ⟨fun hn => absurd trivial hn, fun hn => absurd trivial hn, fun hn => absurd trivial hn,
      fun hn => absurd trivial hn⟩
  have hready : (caught (request.handler client)).Ends (s.receiving request) _ _ :=
    caught_ends (s := s.receiving request) request hs hclient hadmissible rfl
  have hbody : ∀ u, caught (request.handler client) (s.receiving request) = (.ok (), u) →
      ∃ body, responseBody u.response u = (.ok body, u) := by
    intro u hcaught
    obtain ⟨hu, _, hr⟩ := hready.ok_of_run hcaught
    have hencodes := encoding_responseBody hu hr
    have hstill := still_responseBody u.response u
    rcases hrun : responseBody u.response u with ⟨e | body, v⟩
    · exact absurd (hencodes.err_of_run hrun).2.2 id
    · rw [hrun] at hstill
      obtain rfl : v = u := hstill
      exact ⟨body, rfl⟩
  unfold Ends
  rcases hrun : request.handler client (s.receiving request) with ⟨e | _, u⟩
  · have he := h.err_of_run hrun
    cases hcode : e.resultCode with
    | none =>
      have hcaught := caught_of_uncaught hrun hcode
      have hhandle : request.handle client s = (.error e, u) := bind_error hcaught _
      rw [hhandle]
      exact ⟨hcode, u, he⟩
    | some code =>
      have hcaught := caught_of_error hrun hcode
      obtain ⟨body, hbody⟩ := hbody _ hcaught
      rw [handle_of_caught hcaught hbody]
      exact ⟨_, _, _, _, _, rfl, .inr ⟨e, u, code, he, hcode, rfl⟩⟩
  · have hcaught := caught_of_ok hrun
    obtain ⟨body, hbody⟩ := hbody u hcaught
    rw [handle_of_caught hcaught hbody]
    exact ⟨u, _, _, _, _, rfl, .inl (h.ok_of_run hrun)⟩

end Requests
end StationChat
