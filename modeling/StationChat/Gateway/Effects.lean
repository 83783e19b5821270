import StationChat.Gateway.Routines

/-! What each kind of request may do: the statements by which it changes the tables, the notifications it sends,
whom it brings online or takes offline, and whether it changes who is in a room. -/
namespace StationChat
open Lib Lib.Action

/-- A mail has these columns of the request that sends it. -/
structure ReqSendPersistentMessage.Fills (r : ReqSendPersistentMessage) (columns : MessageColumns) : Prop where
  subject : columns.subject = fromWideString r.subject
  category : columns.category = fromWideString r.category
  message : columns.message = fromWideString r.msg
  oob : columns.oob = oobBytes r.oob
  status : columns.status = PersistentState.new.code.toNat

namespace Request

/-- The statements by which a request may change the tables. What belongs to an avatar it names by its own id. -/
inductive Writes : Request → (α : Type) → Statement α → Prop
  | login (r : ReqLoginAvatar) : Writes (.loginAvatar r) Nat
      (.insertAvatar r.userId (fromWideString r.name) (fromWideString r.address) r.loginAttributes.toUInt32)
  | failover (r : ReqFailoverReLoginAvatar) : Writes (.failoverReLoginAvatar r) Nat
      (.insertAvatar r.userId (fromWideString r.name) (fromWideString r.address) r.attributes)
  | attributes (r : ReqSetAvatarAttributes) (userId : UInt32) (name address : StdString) (attributes : UInt32) :
      Writes (.setAvatarAttributes r) Unit (.updateAvatar userId name address attributes r.avatarId)
  | befriend (r : ReqAddFriend) (id : UInt32) :
      Writes (.addFriend r) Unit (.insertFriend r.srcAvatarId id [])
  | relent (r : ReqAddFriend) (id : UInt32) : Writes (.addFriend r) Unit (.deleteIgnore r.srcAvatarId id)
  | unfriend (r : ReqRemoveFriend) (id : UInt32) : Writes (.removeFriend r) Unit (.deleteFriend r.srcAvatarId id)
  | ignore (r : ReqAddIgnore) (id : UInt32) : Writes (.addIgnore r) Unit (.insertIgnore r.srcAvatarId id)
  | fallOut (r : ReqAddIgnore) (id : UInt32) : Writes (.addIgnore r) Unit (.deleteFriend r.srcAvatarId id)
  | unignore (r : ReqRemoveIgnore) (id : UInt32) : Writes (.removeIgnore r) Unit (.deleteIgnore r.srcAvatarId id)
  | create (r : ReqCreateRoom) (columns : RoomColumns) : Writes (.createRoom r) Nat (.insertRoom columns)
  | destroy (r : ReqDestroyRoom) (id : Int) : Writes (.destroyRoom r) Unit (.deleteRoom id)
  | addModerator (r : ReqAddModerator) (avatarId roomId : UInt32) :
      Writes (.addModerator r) Unit (.insertRole .moderator avatarId roomId)
  | removeModerator (r : ReqRemoveModerator) (avatarId roomId : UInt32) :
      Writes (.removeModerator r) Unit (.deleteRole .moderator avatarId roomId)
  | addBan (r : ReqAddBan) (avatarId roomId : UInt32) : Writes (.addBan r) Unit (.insertRole .ban avatarId roomId)
  | removeBan (r : ReqRemoveBan) (avatarId roomId : UInt32) :
      Writes (.removeBan r) Unit (.deleteRole .ban avatarId roomId)
  | send (r : ReqSendPersistentMessage) (columns : MessageColumns) (h : r.Fills columns) :
      Writes (.sendPersistentMessage r) Nat (.insertMessage columns)
  | fetch (r : ReqGetPersistentMessage) : Writes (.getPersistentMessage r) Unit
      (.updateStatus PersistentState.read.code r.messageId r.srcAvatarId)
  | update (r : ReqUpdatePersistentMessage) : Writes (.updatePersistentMessage r) Unit
      (.updateStatus r.status r.messageId r.srcAvatarId)
  | bulk (r : ReqUpdatePersistentMessages) : Writes (.updatePersistentMessages r) Unit
      (.bulkUpdateStatus r.newStatus r.srcAvatarId (fromWideString r.category))

/-- The two kinds of login. -/
def Greets : Request → Prop
  | .loginAvatar _ | .failoverReLoginAvatar _ => True
  | _ => False

/-- Whom a request may take offline. -/
def Departs : Request → UInt32 → Prop
  | .logoutAvatar r, avatarId => avatarId = r.avatarId
  | _, _ => False

/-- The notifications that a request may send. Messages and mails are those of the request. -/
inductive Tells : Request → Notification → Prop
  | login (r : ReqLoginAvatar) (a : ChatAvatar) (address : U16String) (avatarId : UInt32) (status : U16String) :
      Tells (.loginAvatar r) (.friendLogin a address avatarId status)
  | failover (r : ReqFailoverReLoginAvatar) (a : ChatAvatar) (address : U16String) (avatarId : UInt32)
      (status : U16String) : Tells (.failoverReLoginAvatar r) (.friendLogin a address avatarId status)
  | rejoin (r : ReqFailoverReLoginAvatar) (a : ChatAvatar) (roomId : UInt32) :
      Tells (.failoverReLoginAvatar r) (.enterRoom a roomId)
  | logout (r : ReqLogoutAvatar) (a : ChatAvatar) (address : U16String) (avatarId : UInt32) :
      Tells (.logoutAvatar r) (.friendLogout a address avatarId)
  | depart (r : ReqLogoutAvatar) (avatarId roomId : UInt32) : Tells (.logoutAvatar r) (.leaveRoom avatarId roomId)
  | befriend (r : ReqAddFriend) (a : ChatAvatar) (address : U16String) (avatarId : UInt32) (status : U16String) :
      Tells (.addFriend r) (.friendLogin a address avatarId status)
  | instant (r : ReqSendInstantMessage) (a : ChatAvatar) (avatarId : UInt32) :
      Tells (.sendInstantMessage r) (.instantMessage a avatarId r.message r.oob)
  | room (r : ReqSendRoomMessage) (a : ChatAvatar) (roomId : UInt32) (destList : List UInt32) (messageId : UInt32) :
      Tells (.sendRoomMessage r) (.roomMessage a roomId destList r.message r.oob messageId)
  | mail (r : ReqSendPersistentMessage) (avatarId : UInt32) (header : PersistentHeader)
      (hsubject : header.subject = r.subject) (hcategory : header.category = r.category) :
      Tells (.sendPersistentMessage r) (.persistentMessage avatarId header)
  | enter (r : ReqEnterRoom) (a : ChatAvatar) (roomId : UInt32) : Tells (.enterRoom r) (.enterRoom a roomId)
  | leave (r : ReqLeaveRoom) (avatarId roomId : UInt32) : Tells (.leaveRoom r) (.leaveRoom avatarId roomId)
  | kick (r : ReqKickAvatar) (a b : ChatAvatar) (name address : U16String) :
      Tells (.kickAvatar r) (.kickAvatar a b name address)
  | destroy (r : ReqDestroyRoom) (a : ChatAvatar) (roomId : UInt32) : Tells (.destroyRoom r) (.destroyRoom a roomId)

/-- The requests that may change who is in a room. -/
def Moves : Request → Prop
  | .enterRoom _ | .leaveRoom _ | .kickAvatar _ | .logoutAvatar _ => True
  | _ => False

def powers (request : Request) : Powers where
  executes := request.Writes
  greets := request.Greets
  departs := request.Departs
  tells := request.Tells
  moves := request.Moves
  loads := True

end Request

variable {client : ClientId} {powers : Powers}

namespace Handler

section Rooms

theorem routine_onRoomAvatar (request : ReqRoomRole) (policy : Option Policy.ActionType)
    {operation : RoomPtr → AvatarPtr → AvatarPtr → Serve Unit}
    (h : ∀ room src dest, Routine client powers (operation room src dest)) :
    Routine client powers (onRoomAvatar request policy operation) := by
  refine (routine_requireSrcAvatar _).bind fun src => (routine_requireDestAvatar _ _).bind fun dest => ?_
  refine (routine_requireRoom _ _).bind fun room => (looks_readRoom room).composed.bind fun r => ?_
  refine (routine_setResponse _ fun _ => ⟨by rfl, by rfl⟩).bind fun _ => ?_
  cases policy with
  | some action => exact (routine_evaluatePolicyEvent _).bind fun _ => h room src dest
  | none => exact h room src dest

theorem routine_kickAvatar (request : ReqKickAvatar) (hmoves : powers.moves)
    (htells : ∀ a b name address, powers.tells (.kickAvatar a b name address)) :
    Routine client powers (kickAvatar request) := by
  refine routine_onRoomAvatar request none fun room src dest => (looks_readRoom room).composed.bind fun r => ?_
  exact (routine_changeRoom hmoves room _).bind fun _ => routine_sendKickAvatarUpdate htells _ _ _ _

theorem routine_createRoom (request : ReqCreateRoom) (hinsert : ∀ columns, powers.executes Nat (.insertRoom columns)) :
    Routine client powers (createRoom request) :=
  (routine_getAvatarById _).bind fun _ => (StationChat.routine_createRoom hinsert _ _ _ _ _ _ _).bind fun _ =>
    routine_setResponse _ fun _ => ⟨by rfl, by rfl⟩

theorem routine_destroyRoom (request : ReqDestroyRoom) (hdelete : ∀ id, powers.executes Unit (.deleteRoom id))
    (htells : ∀ a roomId, powers.tells (.destroyRoom a roomId)) : Routine client powers (destroyRoom request) := by
  refine (routine_requireSrcAvatar _).bind fun src => (routine_requireRoom _ _).bind fun room => ?_
  refine (looks_readRoom room).composed.bind fun r => (routine_setResponse _ fun _ => ⟨by rfl, by rfl⟩).bind fun _ => ?_
  exact (StationChat.routine_destroyRoom hdelete room).bind fun _ => routine_sendDestroyRoomUpdate htells _ _ _

theorem routine_enterRoom (request : ReqEnterRoom) (hmoves : powers.moves)
    (htells : ∀ a roomId, powers.tells (.enterRoom a roomId)) : Routine client powers (enterRoom request) := by
  refine (routine_requireSrcAvatar _).bind fun src => (routine_requireRoom _ _).bind fun room => ?_
  refine (looks_readRoom room).composed.bind fun r => (routine_setResponse _ fun _ => ⟨by rfl, by rfl⟩).bind fun _ => ?_
  refine (routine_evaluatePolicyEvent _).bind fun _ => (routine_changeRoom hmoves room _).bind fun _ => ?_
  exact routine_sendEnterRoomUpdate htells _ _

theorem routine_leaveRoom (request : ReqLeaveRoom) (hmoves : powers.moves)
    (htells : ∀ avatarId roomId, powers.tells (.leaveRoom avatarId roomId)) :
    Routine client powers (leaveRoom request) := by
  refine (routine_requireSrcAvatar _).bind fun src => (routine_requireRoom _ _).bind fun room => ?_
  refine (looks_readRoom room).composed.bind fun r => (routine_setResponse _ fun _ => ⟨by rfl, by rfl⟩).bind fun _ => ?_
  exact (routine_writeRoom room (.inr hmoves)).bind fun _ => routine_sendLeaveRoomUpdate htells _ _ _

theorem routine_sendRoomMessage (request : ReqSendRoomMessage) (htells : ∀ a roomId destList messageId,
    powers.tells (.roomMessage a roomId destList request.message request.oob messageId)) :
    Routine client powers (sendRoomMessage request) := by
  refine (routine_requireSrcAvatar _).bind fun src => (routine_requireRoom _ _).bind fun room => ?_
  refine (looks_readRoom room).composed.bind fun r => (routine_setResponse _ fun _ => ⟨by rfl, by rfl⟩).bind fun _ => ?_
  refine (routine_evaluatePolicyEvent _).bind fun _ => (routine_writeRoom room (.inl fun _ => by rfl)).bind fun _ => ?_
  exact routine_sendRoomMessageUpdate _ _ _ _ _ fun _ _ _ => htells _ _ _ _

theorem routine_getRoom (request : ReqGetRoom) : Routine client powers (getRoom request) :=
  (routine_requireRoom _ _).bind fun _ => routine_setResponse _ fun _ => ⟨by rfl, by rfl⟩

theorem routine_getRoomSummaries (request : ReqGetRoomSummaries) :
    Routine client powers (getRoomSummaries request) :=
  Composed.bind (.look _ (fun _ => rfl) fun _ => .pure _) fun _ => routine_setResponse _ fun _ => ⟨by rfl, by rfl⟩

end Rooms

section Avatars

theorem routine_contacts (srcAvatarId : UInt32) (destName destAddress : U16String)
    {operation : AvatarPtr → AvatarPtr → Serve Unit}
    (h : ∀ src dest, src.avatarId = srcAvatarId → Routine client powers (operation src dest)) : Routine client powers
      (do let srcAvatar ← requireSrcAvatar srcAvatarId
          let destAvatar ← requireDestAvatar destName destAddress
          operation srcAvatar destAvatar) :=
  (routine_requireSrcAvatar _).bind_returns (returns_requireSrcAvatar _) fun _ hsrc =>
    (routine_requireDestAvatar _ _).bind fun _ => h _ _ hsrc

theorem routine_addFriend (request : ReqAddFriend)
    (hinsert : ∀ id, powers.executes Unit (.insertFriend request.srcAvatarId id []))
    (hdelete : ∀ id, powers.executes Unit (.deleteIgnore request.srcAvatarId id))
    (htells : ∀ a address avatarId status, powers.tells (.friendLogin a address avatarId status)) :
    Routine client powers (addFriend request) := by
  refine routine_contacts _ _ _ fun src dest hsrc => ?_
  rw [← hsrc] at hinsert hdelete
  refine (StationChat.routine_addFriend _ [] hinsert hdelete).bind fun _ => ?_
  exact (looks_readAvatar dest).composed.bind fun _ => composed_runIf (routine_sendFriendLoginUpdate htells _ _)

theorem routine_removeFriend (request : ReqRemoveFriend)
    (h : ∀ id, powers.executes Unit (.deleteFriend request.srcAvatarId id)) :
    Routine client powers (removeFriend request) :=
  routine_contacts _ _ _ fun _ _ hsrc => StationChat.routine_removeFriend _ (hsrc ▸ h)

theorem routine_addIgnore (request : ReqAddIgnore)
    (hinsert : ∀ id, powers.executes Unit (.insertIgnore request.srcAvatarId id))
    (hdelete : ∀ id, powers.executes Unit (.deleteFriend request.srcAvatarId id)) :
    Routine client powers (addIgnore request) :=
  routine_contacts _ _ _ fun _ _ hsrc => StationChat.routine_addIgnore _ (hsrc ▸ hinsert) (hsrc ▸ hdelete)

theorem routine_removeIgnore (request : ReqRemoveIgnore)
    (h : ∀ id, powers.executes Unit (.deleteIgnore request.srcAvatarId id)) :
    Routine client powers (removeIgnore request) :=
  (routine_requireSrcAvatar _).bind_returns (returns_requireSrcAvatar _) fun _ hsrc =>
    (routine_getAvatar _ _).bind fun _ => StationChat.routine_removeIgnore _ (hsrc ▸ h)

section Logins
variable (hgreets : powers.greets) (htells : ∀ a address avatarId status,
  powers.tells (.friendLogin a address avatarId status))
include hgreets htells

theorem routine_login {name address : U16String} {userId attributes : UInt32} (loginLocation : U16String)
    (hinsert : powers.loads → powers.executes Nat
      (.insertAvatar userId (fromWideString name) (fromWideString address) attributes)) :
    Routine client powers (login client name address userId attributes loginLocation) := by
  refine Composed.bind ?_ fun avatar => ?_
  · refine (routine_getAvatar name address).bind fun found => ?_
    cases found with
    | some avatar => exact .pure _
    | none => exact routine_createAvatar _ hinsert
  · refine (routine_evaluatePolicyEvent _).bind fun _ => (StationChat.routine_loginAvatar hgreets avatar).bind fun _ => ?_
    refine Composed.bind (composed_ite ?_ (routine_sendFriendLoginUpdates hgreets htells avatar)) fun _ => .pure _
    exact Composed.bind (.primitive (.register _ hgreets)) fun _ => routine_loadRoomsFromStorage address

theorem routine_loginAvatar (request : ReqLoginAvatar) (hinsert : powers.loads → powers.executes Nat
      (.insertAvatar request.userId (fromWideString request.name) (fromWideString request.address)
        request.loginAttributes.toUInt32)) : Routine client powers (loginAvatar client request) :=
  (routine_login hgreets htells _ hinsert).bind fun _ => routine_setResponse _ fun _ => ⟨by rfl, by rfl⟩

theorem routine_failoverReLoginAvatar (request : ReqFailoverReLoginAvatar)
    (hinsert : powers.loads → powers.executes Nat
      (.insertAvatar request.userId (fromWideString request.name) (fromWideString request.address) request.attributes))
    (hrejoins : ∀ a roomId, powers.tells (.enterRoom a roomId)) :
    Routine client powers (failoverReLoginAvatar client request) :=
  (routine_login hgreets htells _ hinsert).bind fun avatar => (looks_getJoinedRooms _).composed.bind fun _ =>
    composed_forM (fun room => routine_sendEnterRoomUpdate hrejoins avatar room) _

end Logins

theorem routine_logoutAvatar (request : ReqLogoutAvatar) (hdeparts : powers.departs request.avatarId)
    (hmoves : powers.moves) (hleaves : ∀ avatarId roomId, powers.tells (.leaveRoom avatarId roomId))
    (htells : ∀ a address avatarId, powers.tells (.friendLogout a address avatarId)) :
    Routine client powers (logoutAvatar request) :=
  (routine_getAvatarById _).bind_returns (returns_getAvatarById _) fun avatar hid =>
    (routine_leaveJoinedRooms hmoves hleaves avatar).bind fun _ =>
      (routine_sendFriendLogoutUpdates htells avatar).bind fun _ =>
        StationChat.routine_logoutAvatar fun p hp => hid p hp ▸ hdeparts

theorem routine_contactStatus (request : ReqContactStatus) :
    Routine client powers (contactStatus request) :=
  (routine_requireSrcAvatar _).bind fun _ => routine_setResponse _ fun _ => ⟨by rfl, by rfl⟩

theorem routine_getAnyAvatar (request : ReqGetAnyAvatar) :
    Routine client powers (getAnyAvatar request) := by
  refine (routine_getAvatar _ _).bind fun found => ?_
  cases found with
  | none => exact .throw _
  | some avatar => exact (looks_readAvatar avatar).composed.bind fun _ => routine_setResponse _ fun _ => ⟨by rfl, by rfl⟩

theorem routine_sendInstantMessage (request : ReqSendInstantMessage) (htells : ∀ a avatarId,
    powers.tells (.instantMessage a avatarId request.message request.oob)) :
    Routine client powers (sendInstantMessage request) := by
  refine routine_contacts _ _ _ fun src dest _ => (looks_isIgnored _ _).composed.bind fun ignored => ?_
  refine composed_ite (.throw _) ?_
  exact (routine_evaluatePolicyEvent _).bind fun _ => routine_sendInstantMessageUpdate _ _ _ _ htells

theorem routine_setApiVersion (request : ReqSetApiVersion) :
    Routine client powers (setApiVersion request) :=
  .look _ (fun _ => rfl) fun _ => routine_setResponse _ fun _ => ⟨by rfl, by rfl⟩

theorem routine_setAvatarAttributes (request : ReqSetAvatarAttributes) (h : ∀ userId name address attributes,
      powers.executes Unit (.updateAvatar userId name address attributes request.avatarId)) :
    Routine client powers (setAvatarAttributes request) := by
  refine (routine_requireSrcAvatar _).bind_returns (returns_requireSrcAvatar _) fun avatar hid => ?_
  refine (routine_setResponse _ fun _ => ⟨by rfl, by rfl⟩).bind fun _ => ?_
  refine (looks_readAvatar avatar).composed.bind fun a => composed_ite ?_ (.pure _)
  refine (routine_writeAvatar avatar fun _ => by rfl).bind fun _ => composed_runIf ?_
  exact routine_persistAvatar fun userId attributes => hid ▸ h userId _ _ attributes

end Avatars

section Mail

theorem routine_getPersistentHeaders (request : ReqGetPersistentHeaders) :
    Routine client powers (getPersistentHeaders request) := by
  refine Composed.bind ?_ fun _ => routine_setResponse _ fun _ => ⟨by rfl, by rfl⟩
  exact (routine_select rfl).bind fun rows => Looks.composed (composed_mapM looks_readHeader rows)

theorem routine_getPersistentMessage (request : ReqGetPersistentMessage) (hupdate : powers.executes Unit
      (.updateStatus PersistentState.read.code request.messageId request.srcAvatarId)) :
    Routine client powers (getPersistentMessage request) := by
  refine Composed.bind ((routine_select rfl).bind fun rows => ?_) fun _ => routine_setResponse _ fun _ => ⟨by rfl, by rfl⟩
  cases rows with
  | nil => exact .throw _
  | cons row rest =>
    refine (looks_readMessage _ _ row).composed.bind fun message => ?_
    exact (composed_runIf (routine_execute _ hupdate)).bind fun _ => .pure _

theorem routine_mailSender (sender : UInt32 ⊕ U16String) (destAvatar : AvatarPtr) :
    Routine client powers (mailSender sender destAvatar) := by
  cases sender with
  | inr srcName => exact .pure _
  | inl srcAvatarId =>
    refine (routine_requireSrcAvatar srcAvatarId).bind fun srcAvatar => ?_
    exact (looks_isIgnored _ _).composed.bind fun _ => composed_ite (.throw _) (.pure _)

theorem routine_sendPersistentMessage (request : ReqSendPersistentMessage)
    (hinsert : ∀ columns, request.Fills columns → powers.executes Nat (.insertMessage columns))
    (htells : ∀ avatarId (header : PersistentHeader), header.subject = request.subject →
      header.category = request.category → powers.tells (.persistentMessage avatarId header)) :
    Routine client powers (sendPersistentMessage request) := by
  refine (routine_requireDestAvatar _ _).bind fun dest => (routine_mailSender _ _).bind fun sender => ?_
  refine .look _ (fun _ => rfl) fun s => Composed.bind ?_ fun messageId => ?_
  · exact (routine_execute _ (hinsert _ ⟨rfl, rfl, rfl, rfl, rfl⟩)).bind fun _ => .pure _
  · exact (routine_setResponse _ fun _ => ⟨by rfl, by rfl⟩).bind fun _ =>
      routine_sendPersistentMessageUpdate _ _ fun _ => htells _ _ rfl rfl

end Mail
end Handler

/-- Each handler is put together from the steps its request may take, whichever way it fills the cache. -/
theorem routine_handler_of (loads : Prop) (client : ClientId) (request : Request) :
    Routine client { request.powers with loads } (request.handler client) := by
  cases request with
  | loginAvatar r => exact Handler.routine_loginAvatar trivial (Request.Tells.login r) r fun _ => .login r
  | logoutAvatar r => exact Handler.routine_logoutAvatar r rfl trivial (.depart r) (.logout r)
  | createRoom r => exact Handler.routine_createRoom r (.create r)
  | destroyRoom r => exact Handler.routine_destroyRoom r (.destroy r) (.destroy r)
  | sendInstantMessage r => exact Handler.routine_sendInstantMessage r (.instant r)
  | sendRoomMessage r => exact Handler.routine_sendRoomMessage r (.room r)
  | addFriend r => exact Handler.routine_addFriend r (.befriend r) (.relent r) (.befriend r)
  | removeFriend r => exact Handler.routine_removeFriend r (.unfriend r)
  | friendStatus r => exact Handler.routine_contactStatus r
  | addIgnore r => exact Handler.routine_addIgnore r (.ignore r) (.fallOut r)
  | removeIgnore r => exact Handler.routine_removeIgnore r (.unignore r)
  | enterRoom r => exact Handler.routine_enterRoom r trivial (.enter r)
  | leaveRoom r => exact Handler.routine_leaveRoom r trivial (.leave r)
  | addModerator r =>
    exact Handler.routine_onRoomAvatar r none fun room src dest => routine_addModerator src.avatarId dest (.addModerator r)
  | removeModerator r => exact Handler.routine_onRoomAvatar r none fun room src dest =>
      routine_removeModerator src.avatarId dest.avatarId (.removeModerator r)
  | addBan r =>
    exact Handler.routine_onRoomAvatar r (some .ban) fun room src dest => routine_addBanned src.avatarId dest (.addBan r)
  | removeBan r => exact Handler.routine_onRoomAvatar r none fun room src dest =>
      routine_removeBanned src.avatarId dest.avatarId (.removeBan r)
  | addInvite r => exact Handler.routine_onRoomAvatar r (some .invite) fun room src dest => routine_addInvite src.avatarId dest
  | removeInvite r => exact Handler.routine_onRoomAvatar r none fun room src dest => routine_removeInvite src.avatarId dest.avatarId
  | kickAvatar r => exact Handler.routine_kickAvatar r trivial (.kick r)
  | getRoom r => exact Handler.routine_getRoom r
  | getRoomSummaries r => exact Handler.routine_getRoomSummaries r
  | sendPersistentMessage r => exact Handler.routine_sendPersistentMessage r (.send r) (.mail r)
  | getPersistentHeaders r => exact Handler.routine_getPersistentHeaders r
  | getPersistentMessage r => exact Handler.routine_getPersistentMessage r (.fetch r)
  | updatePersistentMessage r => exact routine_execute _ (.update r)
  | updatePersistentMessages r => exact routine_execute _ (.bulk r)
  | ignoreStatus r => exact Handler.routine_contactStatus r
  | failoverReLoginAvatar r =>
    exact Handler.routine_failoverReLoginAvatar trivial (Request.Tells.failover r) r (fun _ => .failover r) (.rejoin r)
  | setApiVersion r => exact Handler.routine_setApiVersion r
  | setAvatarAttributes r => exact Handler.routine_setAvatarAttributes r (.attributes r)
  | getAnyAvatar r => exact Handler.routine_getAnyAvatar r

theorem routine_handler (client : ClientId) (request : Request) :
    Routine client request.powers (request.handler client) :=
  routine_handler_of True client request

end StationChat
