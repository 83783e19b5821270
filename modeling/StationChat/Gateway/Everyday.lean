import StationChat.Gateway.Changes
import StationChat.Gateway.Handling

/-! The changes each kind of request makes: only four kinds touch which rooms there are, and only one
speaks in a room. -/
namespace StationChat
open Lib Lib.Action Relation

/-- The requests that can load, add or remove rooms. -/
def Request.housing : Request → Prop
  | .loginAvatar _ | .failoverReLoginAvatar _ | .createRoom _ | .destroyRoom _ => True
  | _ => False

def Request.speaking : Request → Prop
  | .sendRoomMessage _ => True
  | _ => False

/-- The requests that log an avatar in or out. -/
def Request.presence : Request → Prop
  | .loginAvatar _ | .failoverReLoginAvatar _ | .logoutAvatar _ => True
  | _ => False

variable {housing speaking presence : Prop} {s t : Server}

namespace Handler

section Rooms

theorem makes_onRoomAvatar (request : ReqRoomRole) (policy : Option Policy.ActionType)
    {operation : RoomPtr → AvatarPtr → AvatarPtr → Serve Unit}
    (h : ∀ room src dest, (operation room src dest).Makes (Change housing speaking presence)) :
    (onRoomAvatar request policy operation).Makes (Change housing speaking presence) := by
  refine (makes_requireSrcAvatar _).bind fun src => (makes_requireDestAvatar _ _).bind fun dest => ?_
  refine (makes_requireRoom _ _).bind fun room => (still_readRoom room).makes.bind fun r => ?_
  refine (makes_setResponse _).bind fun _ => ?_
  cases policy with
  | some action => exact (makes_evaluatePolicyEvent _).bind fun _ => h room src dest
  | none => exact h room src dest

theorem makes_kickAvatar (request : ReqKickAvatar) :
    (kickAvatar request).Makes (Change housing speaking presence) := by
  refine makes_onRoomAvatar request none fun room src dest => ?_
  refine (still_readRoom room).makes.bind fun r => Makes.bind ?_ fun _ => makes_sendKickAvatarUpdate _ _ _ _
  refine makes_changeRoom room fun r r' h => ?_
  rw [ChatRoom.kickAvatar_ok h]
  exact ⟨rfl, rfl⟩

theorem makes_enterRoom (request : ReqEnterRoom) :
    (enterRoom request).Makes (Change housing speaking presence) := by
  refine (makes_requireSrcAvatar _).bind fun src => (makes_requireRoom _ _).bind fun room => ?_
  refine (still_readRoom room).makes.bind fun r => (makes_setResponse _).bind fun _ => ?_
  refine (makes_evaluatePolicyEvent _).bind fun _ => Makes.bind ?_ fun _ => makes_sendEnterRoomUpdate _ _
  refine makes_changeRoom room fun r r' h => ?_
  rw [ChatRoom.enterRoom_ok h]
  exact ⟨rfl, rfl⟩

theorem makes_leaveRoom (request : ReqLeaveRoom) :
    (leaveRoom request).Makes (Change housing speaking presence) := by
  refine (makes_requireSrcAvatar _).bind fun src => (makes_requireRoom _ _).bind fun room => ?_
  refine (still_readRoom room).makes.bind fun r => (makes_setResponse _).bind fun _ => ?_
  exact (makes_writeRoom room fun _ => ⟨by rfl, by rfl⟩).bind fun _ => makes_sendLeaveRoomUpdate _ _ _

theorem makes_createRoom (hhousing : housing) (request : ReqCreateRoom) :
    (createRoom request).Makes (Change housing speaking presence) :=
  (makes_getAvatarById _).bind fun _ => (StationChat.makes_createRoom hhousing _ _ _ _ _ _ _).bind fun _ =>
    makes_setResponse _

theorem makes_destroyRoom (hhousing : housing) (request : ReqDestroyRoom) :
    (destroyRoom request).Makes (Change housing speaking presence) := by
  refine (makes_requireSrcAvatar _).bind fun src => (makes_requireRoom _ _).bind fun room => ?_
  refine (still_readRoom room).makes.bind fun r => (makes_setResponse _).bind fun _ => ?_
  exact (StationChat.makes_destroyRoom hhousing room).bind fun _ => makes_sendDestroyRoomUpdate _ _ _

theorem makes_sendRoomMessage (hspeaking : speaking) (request : ReqSendRoomMessage) :
    (sendRoomMessage request).Makes (Change housing speaking presence) := by
  refine (makes_requireSrcAvatar _).bind fun src => (makes_requireRoom _ _).bind fun room => ?_
  refine (still_readRoom room).makes.bind fun r => (makes_setResponse _).bind fun _ => ?_
  refine (makes_evaluatePolicyEvent _).bind fun _ => Makes.bind ?_ fun _ =>
    makes_sendRoomMessageUpdate hspeaking _ _ _ _ _
  exact (still_readRoom room).makes.bind fun _ => makes_modify fun _ => .counter room hspeaking

end Rooms

section Avatars

theorem makes_contacts (srcAvatarId : UInt32) (destName destAddress : U16String)
    {operation : AvatarPtr → AvatarPtr → Serve Unit}
    (h : ∀ src dest, (operation src dest).Makes (Change housing speaking presence)) :
    (do let srcAvatar ← requireSrcAvatar srcAvatarId
        let destAvatar ← requireDestAvatar destName destAddress
        operation srcAvatar destAvatar : Serve Unit).Makes (Change housing speaking presence) :=
  (makes_requireSrcAvatar _).bind fun _ => (makes_requireDestAvatar _ _).bind fun _ => h _ _

theorem makes_addFriend (request : ReqAddFriend) :
    (addFriend request).Makes (Change housing speaking presence) := by
  refine makes_contacts _ _ _ fun src dest => (avatarChanges_change.makes_addFriend _ _ _).bind fun _ => ?_
  exact (still_readAvatar dest).makes.bind fun _ => makes_runIf (makes_sendFriendLoginUpdate _ _)

theorem makes_removeIgnore (request : ReqRemoveIgnore) :
    (removeIgnore request).Makes (Change housing speaking presence) :=
  (makes_requireSrcAvatar _).bind fun _ => (makes_getAvatar _ _).bind fun _ =>
    avatarChanges_change.makes_removeIgnore _ _

theorem makes_loginTarget (name address : U16String) (userId attributes : UInt32)
    (loginLocation : U16String) :
    (loginTarget name address userId attributes loginLocation).Makes (Change housing speaking presence) := by
  refine (makes_getAvatar name address).bind fun avatar => ?_
  cases avatar with
  | some avatar => exact makes_pure _
  | none => exact avatarChanges_change.makes_createAvatar _ _ _ _ _

theorem makes_welcome (client : ClientId) (avatar : AvatarPtr) (address : U16String)
    (h : avatar.name = systemName → housing) :
    (welcome client avatar address).Makes (Change housing speaking presence) := by
  unfold welcome
  split
  · rename_i hname
    exact (makes_modify fun _ => .registered _ client).bind fun _ =>
      makes_loadRoomsFromStorage (h hname) address
  · exact makes_sendFriendLoginUpdates client avatar

/-- A login after its lookup. -/
private theorem makes_loggedIn (hpresence : presence) (client : ClientId) (avatar : AvatarPtr) (address loginLocation : U16String)
    (h : avatar.name = systemName → housing) :
    (do evaluatePolicyEvent {
          policyEvent .login avatar loginLocation 0 with actorAddress := fromWideString address }
        StationChat.loginAvatar avatar
        welcome client avatar address
        pure avatar : Serve AvatarPtr).Makes (Change housing speaking presence) :=
  (makes_evaluatePolicyEvent _).bind fun _ => (StationChat.makes_loginAvatar hpresence avatar).bind fun _ =>
    (makes_welcome client avatar address h).bind fun _ => makes_pure _

/-- A login, whose lookup decides whether rooms are loaded. -/
theorem changes_login (hpresence : presence) (client : ClientId) (name address : U16String) (userId attributes : UInt32)
    (loginLocation : U16String)
    (h : ∀ avatar t, loginTarget name address userId attributes loginLocation s = (.ok avatar, t) →
      avatar.name = systemName → housing) :
    ReflTransGen (Change housing speaking presence) s
      (login client name address userId attributes loginLocation s).2 :=
  changes_bind (makes_loginTarget name address userId attributes loginLocation s) fun avatar t hrun =>
    makes_loggedIn hpresence client avatar address loginLocation (h avatar t hrun) t

theorem changes_loginAvatar (hpresence : presence) (client : ClientId) (r : ReqLoginAvatar)
    (h : ∀ avatar t, loginTarget r.name r.address r.userId r.loginAttributes.toUInt32 r.loginLocation s =
      (.ok avatar, t) → avatar.name = systemName → housing) :
    ReflTransGen (Change housing speaking presence) s (loginAvatar client r s).2 :=
  changes_bind (changes_login hpresence client _ _ _ _ _ h) fun _ t _ => makes_setResponse _ t

theorem changes_failoverReLoginAvatar (hpresence : presence) (client : ClientId) (r : ReqFailoverReLoginAvatar)
    (h : ∀ avatar t, loginTarget r.name r.address r.userId r.attributes r.loginLocation s =
      (.ok avatar, t) → avatar.name = systemName → housing) :
    ReflTransGen (Change housing speaking presence) s (failoverReLoginAvatar client r s).2 := by
  refine changes_bind (changes_login hpresence client _ _ _ _ _ h) fun avatar t _ => ?_
  refine Makes.bind ?_ (fun rooms => makes_forM (fun room => makes_sendEnterRoomUpdate avatar room) rooms) t
  exact (still_getJoinedRooms _).makes

theorem makes_logoutAvatar (hpresence : presence) (request : ReqLogoutAvatar) :
    (logoutAvatar request).Makes (Change housing speaking presence) :=
  (makes_getAvatarById _).bind fun avatar => (makes_leaveJoinedRooms avatar).bind fun _ =>
    (makes_sendFriendLogoutUpdates avatar).bind fun _ => StationChat.makes_logoutAvatar hpresence avatar

theorem makes_contactStatus (request : ReqContactStatus) :
    (contactStatus request).Makes (Change housing speaking presence) :=
  (makes_requireSrcAvatar _).bind fun _ => makes_setResponse _

theorem makes_getAnyAvatar (request : ReqGetAnyAvatar) :
    (getAnyAvatar request).Makes (Change housing speaking presence) := by
  refine (makes_getAvatar _ _).bind fun avatar => ?_
  cases avatar with
  | none => exact makes_throw _
  | some avatar => exact (still_readAvatar avatar).makes.bind fun _ => makes_setResponse _

theorem makes_setAvatarAttributes (request : ReqSetAvatarAttributes) :
    (setAvatarAttributes request).Makes (Change housing speaking presence) := by
  refine (makes_requireSrcAvatar _).bind fun avatar => (makes_setResponse _).bind fun _ => ?_
  refine (still_readAvatar avatar).makes.bind fun a => makes_ite ?_ (makes_pure _)
  exact (makes_writeAvatar avatar (fun _ => by rfl) (.inl fun _ => by rfl)).bind fun _ =>
    makes_runIf (avatarChanges_change.makes_persistAvatar avatar)

end Avatars

section Messages

theorem makes_sendInstantMessage (request : ReqSendInstantMessage) :
    (sendInstantMessage request).Makes (Change housing speaking presence) := by
  refine makes_contacts _ _ _ fun src dest => (still_isIgnored _ _).makes.bind fun _ => ?_
  refine makes_ite (makes_throw _) ?_
  exact (makes_evaluatePolicyEvent _).bind fun _ => makes_sendInstantMessageUpdate _ _ _ _

theorem makes_sendPersistentMessage (request : ReqSendPersistentMessage) :
    (sendPersistentMessage request).Makes (Change housing speaking presence) := by
  refine (makes_requireDestAvatar _ _).bind fun dest => (makes_mailSender _ _).bind fun sender => ?_
  refine makes_get.bind fun _ => (makes_storeMessage _).bind fun messageId => ?_
  exact (makes_setResponse _).bind fun _ => makes_sendPersistentMessageUpdate _ _

theorem makes_getPersistentHeaders (request : ReqGetPersistentHeaders) :
    (getPersistentHeaders request).Makes (Change housing speaking presence) := by
  refine Makes.bind ?_ fun headers => makes_setResponse _
  refine (makes_execute _ fun h => absurd h (by simp [Statement.housing])).bind fun rows => ?_
  exact (still_mapM still_readHeader rows).makes

theorem makes_getPersistentMessage (request : ReqGetPersistentMessage) :
    (getPersistentMessage request).Makes (Change housing speaking presence) :=
  (StationChat.makes_getPersistentMessage _ _).bind fun _ => makes_setResponse _

theorem makes_getRoom (request : ReqGetRoom) : (getRoom request).Makes (Change housing speaking presence) :=
  (makes_requireRoom _ _).bind fun _ => makes_setResponse _

theorem makes_getRoomSummaries (request : ReqGetRoomSummaries) :
    (getRoomSummaries request).Makes (Change housing speaking presence) :=
  (makes_get.bind fun _ => makes_pure _).bind fun _ => makes_setResponse _

end Messages
end Handler

section Requests

/-- Every handler, with the changes its kind of request allows. -/
theorem makes_handler (client : ClientId) (request : Request) (hhousing : request.housing → housing)
    (hspeaking : request.speaking → speaking) (hpresence : request.presence → presence) :
    (request.handler client).Makes (Change housing speaking presence) := by
  cases request with
  | loginAvatar r => exact fun _ => Handler.changes_loginAvatar (hpresence trivial) client r fun _ _ _ _ => hhousing trivial
  | failoverReLoginAvatar r =>
    exact fun _ => Handler.changes_failoverReLoginAvatar (hpresence trivial) client r fun _ _ _ _ => hhousing trivial
  | logoutAvatar r => exact Handler.makes_logoutAvatar (hpresence trivial) r
  | createRoom r => exact Handler.makes_createRoom (hhousing trivial) r
  | destroyRoom r => exact Handler.makes_destroyRoom (hhousing trivial) r
  | sendInstantMessage r => exact Handler.makes_sendInstantMessage r
  | sendRoomMessage r => exact Handler.makes_sendRoomMessage (hspeaking trivial) r
  | addFriend r => exact Handler.makes_addFriend r
  | removeFriend r => exact Handler.makes_contacts _ _ _ fun _ _ => avatarChanges_change.makes_removeFriend _ _
  | friendStatus r => exact Handler.makes_contactStatus r
  | addIgnore r => exact Handler.makes_contacts _ _ _ fun _ _ => avatarChanges_change.makes_addIgnore _ _
  | removeIgnore r => exact Handler.makes_removeIgnore r
  | enterRoom r => exact Handler.makes_enterRoom r
  | leaveRoom r => exact Handler.makes_leaveRoom r
  | addModerator r =>
    exact Handler.makes_onRoomAvatar r none fun _ _ _ =>
      makes_addToList _ _ _ _ fun _ h _ _ => Option.some.inj h ▸ makes_persistRole _ _ _
  | removeModerator r =>
    exact Handler.makes_onRoomAvatar r none fun _ _ _ =>
      makes_removeFromList _ _ _ _ fun _ h _ _ => Option.some.inj h ▸ makes_deleteRole _ _ _
  | addBan r =>
    exact Handler.makes_onRoomAvatar r _ fun _ _ _ =>
      makes_addToList _ _ _ _ fun _ h _ _ => Option.some.inj h ▸ makes_persistRole _ _ _
  | removeBan r =>
    exact Handler.makes_onRoomAvatar r none fun _ _ _ =>
      makes_removeFromList _ _ _ _ fun _ h _ _ => Option.some.inj h ▸ makes_deleteRole _ _ _
  | addInvite r =>
    exact Handler.makes_onRoomAvatar r _ fun _ _ _ => makes_addToList _ _ _ _ fun _ h => absurd h (by simp)
  | removeInvite r =>
    exact Handler.makes_onRoomAvatar r none fun _ _ _ => makes_removeFromList _ _ _ _ fun _ h => absurd h (by simp)
  | kickAvatar r => exact Handler.makes_kickAvatar r
  | getRoom r => exact Handler.makes_getRoom r
  | getRoomSummaries r => exact Handler.makes_getRoomSummaries r
  | sendPersistentMessage r => exact Handler.makes_sendPersistentMessage r
  | getPersistentHeaders r => exact Handler.makes_getPersistentHeaders r
  | getPersistentMessage r => exact Handler.makes_getPersistentMessage r
  | updatePersistentMessage r => exact makes_execute _ fun h => absurd h (by simp [Statement.housing])
  | updatePersistentMessages r => exact makes_execute _ fun h => absurd h (by simp [Statement.housing])
  | ignoreStatus r => exact Handler.makes_contactStatus r
  | setApiVersion r => exact makes_get.bind fun _ => makes_setResponse _
  | setAvatarAttributes r => exact Handler.makes_setAvatarAttributes r
  | getAnyAvatar r => exact Handler.makes_getAnyAvatar r

/-- From its arrival to its response. Around the handler only the response changes and is sent. -/
theorem changes_handle {R : Server → Server → Prop} (hR : ∀ s t, Change False False False s t → R s t)
    (client : ClientId) (request : Request) (h : ReflTransGen R (s.receiving request)
      (request.handler client (s.receiving request)).2) :
    ReflTransGen R s (request.handle client s).2 := by
  have hresponse : Change False False False s (s.receiving request) := .response _
  refine ReflTransGen.head (hR _ _ hresponse) ?_
  refine changes_bind (f := fun _ => do
    let response := (← get).response
    let body ← responseBody response
    send client (.response response.type response.track response.result body)) (?_ : ReflTransGen _ _
      (caught (request.handler client) (s.receiving request)).2) fun _ u _ => ?_
  · rcases hrun : request.handler client (s.receiving request) with ⟨e | _, u⟩ <;> rw [hrun] at h
    · cases hcode : e.resultCode with
      | some code =>
        have hresult : Change False False False u (u.withResult code) := .response _
        rw [caught_of_error hrun hcode]
        exact h.tail (hR _ _ hresult)
      | none =>
        rw [caught_of_uncaught hrun hcode]
        exact h
    · rw [caught_of_ok hrun]
      exact h
  · refine Makes.bind makes_get (fun v => (still_responseBody _).makes.bind fun body => ?_) u
    refine makes_modify fun w => hR _ _ (.sent client _ fun hm => ?_)
    exact absurd hm (by simp [Outgoing.speaking])

end Requests

end StationChat
