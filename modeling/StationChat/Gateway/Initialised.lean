import StationChat.Gateway.Aside
import StationChat.Gateway.AvatarRequest
import StationChat.Gateway.Handling
import StationChat.Gateway.Safety

/-! Which responses have a value in every field that their encoder writes. -/
namespace StationChat
open Lib Lib.Action Lib.Contract

/-- What the storage of a response structure held before its constructor ran, where a constructor
assigns nothing. -/
structure Storage where
  roomId : UInt32
  isOnline : Bool
  messageId : UInt32
  version : UInt32

namespace ResponseBody

/-- Every field has a value. -/
def Initialised : ResponseBody → Prop
  | .roomId id | .enterRoom id _ => id.isSome
  | .anyAvatar online _ => online.isSome
  | .messageId id => id.isSome
  | .version v => v.isSome
  | _ => True

/-- What is encoded: a field without a value is read from the storage. -/
def encodedOver (storage : Storage) : ResponseBody → ResponseBody
  | .roomId id => .roomId (id.getD storage.roomId)
  | .enterRoom id gotRoomObj => .enterRoom (id.getD storage.roomId) gotRoomObj
  | .anyAvatar online a => .anyAvatar (online.getD storage.isOnline) a
  | .messageId id => .messageId (id.getD storage.messageId)
  | .version v => .version (v.getD storage.version)
  | body => body

/-- A body is encoded alike over any storage exactly if it is initialised. -/
theorem initialised_iff (body : ResponseBody) :
    body.Initialised ↔ ∀ storage storage', body.encodedOver storage = body.encodedOver storage' := by
  constructor
  · intro h storage storage'
    cases body with
    | roomId id | enterRoom id _ | anyAvatar id _ | messageId id | version id =>
      obtain ⟨a, rfl⟩ := Option.isSome_iff_exists.mp h
      rfl
    | _ => rfl
  · intro h
    have hdiffer := h ⟨0, false, 0, 0⟩ ⟨1, true, 1, 1⟩
    cases body with
    | roomId id | enterRoom id _ | anyAvatar id _ | messageId id | version id =>
      cases id with
      | none => simp [encodedOver] at hdiffer
      | some a => rfl
    | _ => trivial

end ResponseBody

/-- However the statements fare that the handler sends, every field of the response it leads to has a
value, and what is encoded does not depend on the storage. -/
def AnswersInitialised (client : ClientId) (request : Request) (s : Server) : Prop :=
  ∀ fails t result body, request.handle client { s with fails } = (.ok (), t) →
    t.sent.getLast? = some (client, .response request.type request.track result body) →
    body.Initialised ∧ ∀ storage storage', body.encodedOver storage = body.encodedOver storage'

/-- A cached object answers the lookup. -/
def Server.Cached (s : Server) (request : AvatarRequest) : Prop :=
  ∃ a ∈ s.avatarCache, request.matchesObject a = true

/-- What a handler looks up before it gives a value to a field that is always encoded is in memory. -/
def Request.InMemory (s : Server) : Request → Prop
  | .addModerator r | .removeModerator r | .addBan r | .removeBan r | .addInvite r | .removeInvite r
  | .kickAvatar r =>
    s.Cached (.byId r.srcAvatarId) ∧ s.Cached (.byName r.destAvatarName r.destAvatarAddress) ∧
      s.roomExists r.destRoomAddress = true
  | .destroyRoom r | .leaveRoom r => s.Cached (.byId r.srcAvatarId) ∧ s.roomExists r.roomAddress = true
  | .enterRoom r => s.Cached (.byId r.srcAvatarId) ∧ s.roomExists r.roomAddress = true
  | .sendRoomMessage r => s.Cached (.byId r.srcAvatarId) ∧ s.roomExists r.destRoomAddress = true
  | .getAnyAvatar r => s.Cached (.byName r.name r.address)
  | _ => True

section Encoding
variable {s : Server} {r : Response}

/-- The fields that the encoder of a response of this type writes have values. -/
def Response.Given (r : Response) : ChatResponseType → Prop
  | .enterRoom | .destroyRoom | .leaveRoom | .sendRoomMessage | .addModerator | .removeModerator
  | .addBan | .removeBan | .addInvite | .removeInvite | .kickAvatar => r.roomId.isSome
  | .getAnyAvatar => r.isOnline.isSome
  | .sendPersistentMessage => r.result = .success → r.messageId.isSome
  | .setApiVersion => r.version.isSome
  | _ => True

theorem ends_trivial {α : Type} (x : Serve α) : x.Ends s (fun _ _ => True) fun _ _ => True := by
  unfold Ends
  split <;> trivial

/-- Only four fields are encoded that a response may lack. -/
theorem initialised_of_given (h : r.Given r.type) :
    (responseBody r).Ends s (fun body _ => body.Initialised) fun _ _ => True := by
  unfold Response.Given at h
  unfold responseBody
  cases htype : r.type <;> simp only [htype] at h
  case sendPersistentMessage =>
    simp only [ends_ite, ends_pure, ResponseBody.Initialised]
    split
    · exact h ‹_›
    · trivial
  case friendStatus =>
    dsimp only
    split <;> simp only [ends_bind, ends_pure, ResponseBody.Initialised, ends_trivial]
  case ignoreStatus =>
    dsimp only
    split <;> simp only [ends_bind, ends_pure, ResponseBody.Initialised, ends_trivial]
  all_goals simp only [ends_ite, ends_bind, ends_pure, ResponseBody.Initialised, ends_trivial, ite_self, h]

end Encoding

section Found
variable {s : Server}

theorem find?_of_cached {request : AvatarRequest} (h : s.Cached request) :
    ∃ a, s.avatarCache.find? request.matchesObject = some a :=
  Option.isSome_iff_exists.mp (List.find?_isSome.mpr h)

theorem find?_of_not_cached {request : AvatarRequest} (h : ¬ s.Cached request) :
    s.avatarCache.find? request.matchesObject = none :=
  List.find?_eq_none.mpr fun a ha hmatch => h ⟨a, ha, hmatch⟩

theorem requireRoom_of_roomExists {roomAddress : U16String} (h : s.roomExists roomAddress = true)
    (missing : ChatResultCode) : ∃ room r, requireRoom roomAddress missing s = (.ok room, s) ∧
      readRoom room s = (.ok r, s) := by
  obtain ⟨room, hroom⟩ : ∃ room, s.rooms.findIdx? (fun room => roomAddress == room.roomAddress) = some room := by
    rw [← Option.isSome_iff_exists, List.findIdx?_isSome]
    exact h
  obtain ⟨hlt, _⟩ := List.findIdx?_eq_some_iff_getElem.mp hroom
  refine ⟨room, s.rooms[room], ?_, readRoom_of_getElem? (List.getElem?_eq_getElem hlt)⟩
  rw [requireRoom_run, hroom]

theorem requireRoom_of_not_roomExists {roomAddress : U16String} (h : ¬ s.roomExists roomAddress = true)
    (missing : ChatResultCode) : requireRoom roomAddress missing s =
      (.error (.chatResult missing (cStr (fromWideString roomAddress))), s) := by
  have hnone : s.rooms.findIdx? (fun room => roomAddress == room.roomAddress) = none := by
    rw [List.findIdx?_eq_none_iff]
    simpa [Server.roomExists] using h
  rw [requireRoom_run, hnone]

/-- What follows the setting of a field leaves the response alone. -/
theorem ends_aside {x : Serve Unit} {K : Response → Prop} (h : aside.Holds x s fun _ _ => True)
    (hK : K s.response) : x.Ends s (fun _ t => K t.response) fun _ t => K t.response := by
  apply Ends.mono h
  · rintro _ t ⟨_, hst, _⟩
    rw [hst.response]
    exact hK
  · rintro _ t ⟨_, hst, _⟩
    rw [hst.response]
    exact hK

/-- The response has its room id however the rest ends. -/
def RoomIdGiven (x : Serve Unit) (s : Server) : Prop :=
  x.Ends s (fun _ t => t.response.roomId.isSome) fun _ t => t.response.roomId.isSome

theorem roomIdGiven_of_aside {rest : Serve Unit} {r : ChatRoom} {f : Response → Response}
    (hf : ∀ response, (f response).roomId = some r.roomId)
    (h : ∀ t, aside.Holds rest t fun _ _ => True) :
    RoomIdGiven (setResponse f >>= fun _ => rest) s := by
  change Ends rest { s with response := f s.response } _ _
  apply ends_aside (K := fun response => response.roomId.isSome) (h _)
  simp [hf]

theorem roomIdGiven_onRoomAvatar {request : ReqRoomRole} {policy : Option Policy.ActionType}
    {operation : RoomPtr → AvatarPtr → AvatarPtr → Serve Unit}
    (hop : ∀ room p q t, aside.Holds (operation room p q) t fun _ _ => True)
    (hsrc : s.Cached (.byId request.srcAvatarId))
    (hdest : s.Cached (.byName request.destAvatarName request.destAvatarAddress))
    (hroom : s.roomExists request.destRoomAddress = true) :
    RoomIdGiven (Handler.onRoomAvatar request policy operation) s := by
  obtain ⟨a, ha⟩ := find?_of_cached hsrc
  obtain ⟨b, hb⟩ := find?_of_cached hdest
  obtain ⟨room, r, hfound, hread⟩ := requireRoom_of_roomExists hroom .addressNotRoom
  unfold RoomIdGiven Ends
  rw [Handler.onRoomAvatar, requireSrcAvatar_eq, bind_ok (required_of_cached ha), requireDestAvatar_eq,
    bind_ok (required_of_cached hb), bind_ok hfound, bind_ok hread]
  apply roomIdGiven_of_aside (fun _ => rfl)
  intro t
  cases policy with
  | some action => exact (aside_evaluatePolicyEvent _).bind fun _ u _ _ _ => hop room a.self b.self u
  | none => exact hop room a.self b.self t

/-- The four handlers that look up an avatar and a room. -/
theorem roomIdGiven_of_found {srcAvatarId : UInt32} {roomAddress : U16String} {missing : ChatResultCode}
    {rest : AvatarPtr → RoomPtr → ChatRoom → Serve Unit} (hsrc : s.Cached (.byId srcAvatarId))
    (hroom : s.roomExists roomAddress = true) (hrest : ∀ p room r, RoomIdGiven (rest p room r) s) :
    RoomIdGiven (do
      let srcAvatar ← requireSrcAvatar srcAvatarId
      let room ← requireRoom roomAddress missing
      let r ← readRoom room
      rest srcAvatar room r) s := by
  obtain ⟨a, ha⟩ := find?_of_cached hsrc
  obtain ⟨room, r, hfound, hread⟩ := requireRoom_of_roomExists hroom missing
  unfold RoomIdGiven Ends
  rw [requireSrcAvatar_eq, bind_ok (required_of_cached ha), bind_ok hfound, bind_ok hread]
  exact hrest a.self room r

theorem roomIdGiven_destroyRoom {request : ReqDestroyRoom} (hsrc : s.Cached (.byId request.srcAvatarId))
    (hroom : s.roomExists request.roomAddress = true) : RoomIdGiven (Handler.destroyRoom request) s := by
  apply roomIdGiven_of_found hsrc hroom
  intro p room r
  apply roomIdGiven_of_aside (fun _ => rfl)
  intro t
  exact (aside_destroyRoom room).bind fun _ _ _ _ _ =>
    aside_posting (posting_sendDestroyRoomUpdate p r.roomId r.getRemoteAddresses)

theorem roomIdGiven_leaveRoom {request : ReqLeaveRoom} (hsrc : s.Cached (.byId request.srcAvatarId))
    (hroom : s.roomExists request.roomAddress = true) : RoomIdGiven (Handler.leaveRoom request) s := by
  apply roomIdGiven_of_found hsrc hroom
  intro p room r
  apply roomIdGiven_of_aside (fun _ => rfl)
  intro t
  exact (aside_writeRoom room _).bind fun _ _ _ _ _ =>
    aside_posting (posting_sendLeaveRoomUpdate r.getConnectedAddresses p.avatarId r.roomId)

theorem roomIdGiven_enterRoom {request : ReqEnterRoom} (hsrc : s.Cached (.byId request.srcAvatarId))
    (hroom : s.roomExists request.roomAddress = true) : RoomIdGiven (Handler.enterRoom request) s := by
  apply roomIdGiven_of_found hsrc hroom
  intro p room r
  apply roomIdGiven_of_aside (fun _ => rfl)
  intro t
  exact (aside_evaluatePolicyEvent _).bind fun _ _ _ _ _ => (aside_changeRoom room _).bind fun _ _ _ _ _ =>
    aside_posting (posting_sendEnterRoomUpdate p room)

theorem roomIdGiven_sendRoomMessage {request : ReqSendRoomMessage}
    (hsrc : s.Cached (.byId request.srcAvatarId)) (hroom : s.roomExists request.destRoomAddress = true) :
    RoomIdGiven (Handler.sendRoomMessage request) s := by
  apply roomIdGiven_of_found hsrc hroom
  intro p room r
  apply roomIdGiven_of_aside (fun _ => rfl)
  intro t
  exact (aside_evaluatePolicyEvent _).bind fun _ _ _ _ _ => (aside_writeRoom room _).bind fun _ _ _ _ _ =>
    aside_posting (posting_sendRoomMessageUpdate p room r.roomMessageId request.message request.oob)

theorem isOnlineGiven_getAnyAvatar {request : ReqGetAnyAvatar}
    (h : s.Cached (.byName request.name request.address)) (hs : Allocated s.avatarCache s.objects) :
    (Handler.getAnyAvatar request).Ends s (fun _ t => t.response.isOnline.isSome) fun _ _ => False := by
  obtain ⟨a, ha⟩ := find?_of_cached h
  have hget : getAvatar request.name request.address s = (.ok (some a.self), s) := run_of_cached ha
  obtain ⟨b, _, _, hread⟩ := readAvatar_of_live hs ⟨a, List.mem_of_find?_eq_some ha, rfl⟩
  unfold Ends
  rw [Handler.getAnyAvatar, bind_ok hget]
  change Ends (readAvatar a.self >>= _) s _ _
  rw [Ends, bind_ok hread]
  rfl

/-- A mail that was sent has its id in the response. -/
theorem messageIdGiven_sendPersistentMessage (request : ReqSendPersistentMessage) :
    (Handler.sendPersistentMessage request).Ends s (fun _ t => t.response.messageId.isSome)
      fun _ _ => True := by
  have hsend : ∀ dest header messageId t, Ends (do
      setResponse fun response => { response with messageId := some messageId }
      sendPersistentMessageUpdate dest header) t (fun _ u => u.response.messageId.isSome)
        fun _ _ => True := by
    intro dest header messageId t
    change Ends (sendPersistentMessageUpdate dest header)
      { t with response := { t.response with messageId := some messageId } } _ _
    apply Ends.mono (ends_aside (K := fun response => response.messageId.isSome) _ rfl)
      (fun _ _ h => h) fun _ _ _ => trivial
    exact aside_posting (posting_sendPersistentMessageUpdate dest header)
  rw [Handler.sendPersistentMessage, ends_bind]
  apply Ends.mono (ends_trivial _) _ fun _ _ h => h
  intro dest t _
  rw [ends_bind]
  apply Ends.mono (ends_trivial _) _ fun _ _ h => h
  rintro ⟨fromName, fromAddress⟩ u _
  rw [ends_bind, ends_get, ends_bind]
  apply Ends.mono (ends_trivial _) _ fun _ _ h => h
  intro messageId v _
  exact hsend _ _ messageId v

/-- Where everything is in memory, the fields have their values however the handler ends. -/
theorem given_of_inMemory (client : ClientId) {request : Request} (hs : Fit (fun _ => True) s) (h : request.InMemory s) :
    (request.handler client).Ends s (fun _ t => t.response.Given request.type)
      fun e t => ∀ code, e.resultCode = some code → (t.withResult code).response.Given request.type := by
  have hroom : ∀ x : Serve Unit, RoomIdGiven x s → x.Ends s (fun _ t => t.response.roomId.isSome)
      fun e t => ∀ code, e.resultCode = some code → (t.withResult code).response.roomId.isSome :=
    fun _ hx => hx.mono (fun _ _ ht => ht) fun _ _ ht _ _ => ht
  cases request
  case addModerator r =>
    apply hroom (Handler.addModerator r)
    apply roomIdGiven_onRoomAvatar _ h.1 h.2.1 h.2.2
    exact fun _ _ _ _ => aside_addModerator _ _
  case removeModerator r =>
    apply hroom (Handler.removeModerator r)
    apply roomIdGiven_onRoomAvatar _ h.1 h.2.1 h.2.2
    exact fun _ _ _ _ => aside_removeModerator _ _
  case addBan r =>
    apply hroom (Handler.addBan r)
    apply roomIdGiven_onRoomAvatar _ h.1 h.2.1 h.2.2
    exact fun _ _ _ _ => aside_addBanned _ _
  case removeBan r =>
    apply hroom (Handler.removeBan r)
    apply roomIdGiven_onRoomAvatar _ h.1 h.2.1 h.2.2
    exact fun _ _ _ _ => aside_removeBanned _ _
  case addInvite r =>
    apply hroom (Handler.addInvite r)
    apply roomIdGiven_onRoomAvatar _ h.1 h.2.1 h.2.2
    exact fun _ _ _ _ => aside_addInvite _ _
  case removeInvite r =>
    apply hroom (Handler.removeInvite r)
    apply roomIdGiven_onRoomAvatar _ h.1 h.2.1 h.2.2
    exact fun _ _ _ _ => aside_removeInvite _ _
  case kickAvatar r =>
    apply hroom (Handler.kickAvatar r)
    apply roomIdGiven_onRoomAvatar _ h.1 h.2.1 h.2.2
    intro room p q t
    exact (aside_still (still_readRoom room)).bind fun _ _ _ _ _ =>
      (aside_changeRoom room _).bind fun _ _ _ _ _ => aside_posting (posting_sendKickAvatarUpdate _ p q room)
  case destroyRoom r => exact hroom (Handler.destroyRoom r) (roomIdGiven_destroyRoom h.1 h.2)
  case leaveRoom r => exact hroom (Handler.leaveRoom r) (roomIdGiven_leaveRoom h.1 h.2)
  case enterRoom r => exact hroom (Handler.enterRoom r) (roomIdGiven_enterRoom h.1 h.2)
  case sendRoomMessage r => exact hroom (Handler.sendRoomMessage r) (roomIdGiven_sendRoomMessage h.1 h.2)
  case getAnyAvatar r =>
    exact (isOnlineGiven_getAnyAvatar h hs.allocated).mono (fun _ _ ht => ht) fun _ _ ht => absurd ht id
  case setApiVersion r => rfl
  case sendPersistentMessage r =>
    have hallowed : (gateway (fun _ => True) True).Holds (Handler.sendPersistentMessage r) s _ :=
      holds_sendPersistentMessage r hs fun hr => absurd trivial hr
    refine (Ends.and hallowed (messageIdGiven_sendPersistentMessage r)).mono (fun _ _ ht _ => ht.2) ?_
    rintro e t ⟨⟨_, _, he⟩, _⟩ code hcode hsuccess
    cases e with
    | chatResult code' message =>
      obtain rfl := Option.some.inj hcode
      exact absurd hsuccess he
    | database =>
      obtain rfl := Option.some.inj hcode
      cases hsuccess
    | _ => exact absurd hcode (by simp [Exn.resultCode])
  all_goals exact (ends_trivial _).mono (fun _ _ _ => trivial) fun _ _ _ _ _ => trivial

end Found

section Refused
variable {s : Server}

/-- The handler stops before it has touched the response, and what it throws is caught. -/
def Refused (x : Serve Unit) (s : Server) : Prop :=
  ∃ e t code, x s = (.error e, t) ∧ e.resultCode = some code ∧ code ≠ .success ∧ t.response = s.response

theorem refused_of_not_cached {request : AvatarRequest} (hfails : ∀ k, s.fails k = true)
    (h : ¬ s.Cached request) (rest : AvatarPtr → Serve Unit) : Refused (request.required >>= rest) s :=
  ⟨.database, _, .database, bind_error (required_of_failing (find?_of_not_cached h) (hfails _)) rest, rfl,
    by simp, rfl⟩

theorem refused_of_cached {request : AvatarRequest} {rest : AvatarPtr → Serve Unit}
    (h : s.Cached request) (hrest : ∀ p, Refused (rest p) s) : Refused (request.required >>= rest) s := by
  obtain ⟨a, ha⟩ := find?_of_cached h
  obtain ⟨e, t, code, hrun, hcode⟩ := hrest a.self
  exact ⟨e, t, code, (bind_ok (required_of_cached ha) rest).trans hrun, hcode⟩

theorem refused_of_not_roomExists {roomAddress : U16String} {missing : ChatResultCode}
    (h : ¬ s.roomExists roomAddress = true) (hmissing : missing ≠ .success) (rest : RoomPtr → Serve Unit) :
    Refused (requireRoom roomAddress missing >>= rest) s :=
  ⟨_, s, missing, bind_error (requireRoom_of_not_roomExists h missing) rest, rfl, hmissing, rfl⟩

theorem refused_onRoomAvatar {request : ReqRoomRole} {policy : Option Policy.ActionType}
    {operation : RoomPtr → AvatarPtr → AvatarPtr → Serve Unit} (hfails : ∀ k, s.fails k = true)
    (h : ¬ (s.Cached (.byId request.srcAvatarId) ∧
      s.Cached (.byName request.destAvatarName request.destAvatarAddress) ∧
      s.roomExists request.destRoomAddress = true)) :
    Refused (Handler.onRoomAvatar request policy operation) s := by
  by_cases hsrc : s.Cached (.byId request.srcAvatarId)
  · apply refused_of_cached hsrc
    intro p
    by_cases hdest : s.Cached (.byName request.destAvatarName request.destAvatarAddress)
    · apply refused_of_cached hdest
      intro q
      exact refused_of_not_roomExists (fun hroom => h ⟨hsrc, hdest, hroom⟩) (by simp) _
    · exact refused_of_not_cached hfails hdest _
  · exact refused_of_not_cached hfails hsrc _

theorem refused_of_not_found {srcAvatarId : UInt32} {roomAddress : U16String} {missing : ChatResultCode}
    {rest : AvatarPtr → RoomPtr → Serve Unit} (hfails : ∀ k, s.fails k = true)
    (hmissing : missing ≠ .success)
    (h : ¬ (s.Cached (.byId srcAvatarId) ∧ s.roomExists roomAddress = true)) :
    Refused (do
      let srcAvatar ← requireSrcAvatar srcAvatarId
      let room ← requireRoom roomAddress missing
      rest srcAvatar room) s := by
  by_cases hsrc : s.Cached (.byId srcAvatarId)
  · apply refused_of_cached hsrc
    intro p
    exact refused_of_not_roomExists (fun hroom => h ⟨hsrc, hroom⟩) hmissing _
  · exact refused_of_not_cached hfails hsrc _

/-- If something is not in memory and no statement is answered, the response is never filled in, and
its encoder writes a field without a value. -/
theorem refused_of_not_inMemory (client : ClientId) {request : Request} (hfails : ∀ k, s.fails k = true)
    (h : ¬ request.InMemory s) : Refused (request.handler client) s ∧
      ∀ code, code ≠ ChatResultCode.success → ∀ t, ∃ body, responseBody
        { type := request.type, track := request.track, result := code } t = (.ok body, t) ∧
          ¬ body.Initialised := by
  have hroom : ∀ {type : ChatResponseType} {track : UInt32} {code : ChatResultCode} {t : Server},
      responseBody { type, track, result := code } t = (.ok (.roomId none), t) →
        ∃ body, responseBody { type, track, result := code } t = (.ok body, t) ∧ ¬ body.Initialised :=
    fun hbody => ⟨.roomId none, hbody, by simp [ResponseBody.Initialised]⟩
  cases request
  case addModerator r | removeModerator r | addBan r | removeBan r | addInvite r | removeInvite r |
      kickAvatar r =>
    refine ⟨?_, fun _ _ _ => hroom rfl⟩
    simp only [Request.handler, Handler.addModerator, Handler.removeModerator, Handler.addBan,
      Handler.removeBan, Handler.addInvite, Handler.removeInvite, Handler.kickAvatar]
    exact refused_onRoomAvatar hfails h
  case destroyRoom r | leaveRoom r | sendRoomMessage r =>
    refine ⟨?_, fun _ _ _ => hroom rfl⟩
    simp only [Request.handler, Handler.destroyRoom, Handler.leaveRoom, Handler.sendRoomMessage]
    exact refused_of_not_found hfails (by simp) h
  case enterRoom r =>
    refine ⟨?_, fun _ _ _ => ⟨.enterRoom none false, rfl, by simp [ResponseBody.Initialised]⟩⟩
    rw [Request.handler, Handler.enterRoom]
    exact refused_of_not_found hfails (by simp) h
  case getAnyAvatar r =>
    have hget := run_of_failing (find?_of_not_cached h) (hfails s.executed)
    refine ⟨⟨.database, _, .database, bind_error hget _, rfl, by simp, rfl⟩, fun code hcode t => ?_⟩
    refine ⟨.anyAvatar none none, ?_, by simp [ResponseBody.Initialised]⟩
    simp [responseBody, Request.type, hcode]
  all_goals exact absurd trivial h

end Refused

/-- A response is initialised whatever happens to the statements exactly if all that its handler looks
up first is in memory. -/
theorem answersInitialised_iff {db : Database} {fails : Nat → Bool} {version : UInt32}
    {config : Policy.Config} {s : Server} (hdb : db.Referential)
    (hreach : Server.Reaches Server.AnyInput (Server.start db fails version config) s)
    (client : ClientId) (request : Request) :
    AnswersInitialised client request s ↔ request.InMemory s := by
  have hfit := fit_reaches_any hdb hreach
  constructor
  · intro h
    by_contra hnot
    let s' : Server := { s with fails := fun _ => true }
    have hnot' : ¬ request.InMemory (s'.receiving request) := by
      cases request <;> exact hnot
    obtain ⟨⟨e, t, code, hrun, hcode, hne, hresponse⟩, hbody⟩ :=
      refused_of_not_inMemory client (fun _ => rfl) hnot'
    obtain ⟨body, hbody, hlacks⟩ := hbody code hne (t.withResult code)
    have hresponse' : (t.withResult code).response =
        { type := request.type, track := request.track, result := code } := by
      rw [Server.withResult, hresponse]
      rfl
    rw [← hresponse'] at hbody
    have hanswer := handle_of_caught (caught_of_error hrun hcode) hbody
    refine hlacks (h (fun _ => true) _ code body hanswer ?_).1
    rw [hresponse', List.getLast?_concat]
  · intro h fails' t result body hrun hlast
    obtain ⟨u, body', hcaught, hbody, rfl⟩ := handle_eq_ok hrun
    rw [List.getLast?_concat] at hlast
    obtain ⟨htype, _, _, rfl⟩ : u.response.type = request.type ∧ u.response.track = request.track ∧
        u.response.result = result ∧ body' = body := by simpa using hlast
    have hs : Fit (fun _ => True) (Server.receiving { s with fails := fails' } request) := hfit
    have hmemory : request.InMemory (Server.receiving { s with fails := fails' } request) := by
      cases request <;> exact h
    have hgiven : u.response.Given u.response.type := by
      rw [htype]
      have hends := given_of_inMemory client hs hmemory
      rcases caught_eq_ok hcaught with hok | ⟨e, v, code, herror, hcode, rfl⟩
      · exact hends.ok_of_run hok
      · exact hends.err_of_run herror code hcode
    have hinitialised := (initialised_of_given hgiven).ok_of_run hbody
    exact ⟨hinitialised, body'.initialised_iff.mp hinitialised⟩

/-- The creator of a room enters it. -/
theorem answersInitialised_enterRoom : ∃ s, Server.Reaches Server.AnyInput Server.blank s ∧
    AnswersInitialised 0 (.enterRoom ⟨3, 1, [0x61, 0x2B, 0x72], [], none, false, []⟩) s := by
  have hstate : ∃ s, Server.Reaches Server.AnyInput Server.blank s ∧
      (∃ a ∈ s.avatarCache, (AvatarRequest.byId 1).matchesObject a = true) ∧
        s.roomExists [0x61, 0x2B, 0x72] = true :=
    Server.exists_reached [.connect, .request 0 (.loginAvatar ⟨1, 1, [0x62], [0x61], [], 0, 0⟩) 0 0,
      .request 0 (.createRoom ⟨2, 1, [0x72], [], [], 0, 0, [0x61], []⟩) 0 0] (by decide +kernel)
  obtain ⟨s, hreach, hmemory⟩ := hstate
  exact ⟨s, hreach, (answersInitialised_iff Database.referential_empty hreach 0
    (.enterRoom ⟨3, 1, [0x61, 0x2B, 0x72], [], none, false, []⟩)).mpr hmemory⟩

/-- A ban for a missing avatar, and a question after one, are answered with whatever the storage of the
response held. -/
theorem missing_avatar_answered_uninitialised :
    ¬ AnswersInitialised 0 (.addBan ⟨1, 7, [0x62], [0x61], [0x61], []⟩) Server.blank.connect ∧
    ¬ AnswersInitialised 0 (.getAnyAvatar ⟨1, [0x62], [0x61]⟩) Server.blank.connect := by
  constructor
  · intro h
    have hbody := h (fun _ => false) _ .srcAvatarDoesntExist (.roomId none) (Prod.ext (by decide +kernel) rfl)
      (by decide +kernel)
    exact absurd hbody.1 (by simp [ResponseBody.Initialised])
  · intro h
    have hbody := h (fun _ => false) _ .srcAvatarDoesntExist (.anyAvatar none none)
      (Prod.ext (by decide +kernel) rfl) (by decide +kernel)
    exact absurd hbody.1 (by simp [ResponseBody.Initialised])

end StationChat
