import StationChat.Gateway.Conditions

/-! The contract of the handlers about rooms. -/
namespace StationChat
open Lib Lib.Action Lib.Contract

variable {P : Exn → Prop} {keep : Prop} {s : Server}

section Steps

/-- What keeps the rooms in place need not be asked to. -/
theorem holds_loosen {α : Type} {x : Serve α} {Q : α → Server → Prop}
    (h : (gateway P True).Holds x s Q) : (gateway P keep).Holds x s Q :=
  h.weaken (fun _ ht _ => ht) (fun _ _ hst => hst.mono fun _ => trivial) fun _ he => he

theorem holds_requireSrcAvatar (srcAvatarId : UInt32) (hs : Fit P s) :
    (gateway P keep).Holds (requireSrcAvatar srcAvatarId) s fun p t =>
      Grown s t ∧ Found s srcAvatarId (some p) t := by
  refine (holds_getAvatarById srcAvatarId hs).bind fun avatar t ht _ hfound => ?_
  cases avatar with
  | none => exact holds_throw ht (by simp [gateway, Allowed])
  | some p => exact holds_pure ht hfound

theorem holds_requireDestAvatar (name address : U16String) (hs : Fit P s) :
    (gateway P keep).Holds (requireDestAvatar name address) s fun p t =>
      Grown s t ∧ FoundNamed s name address (some p) t := by
  refine (holds_getAvatar name address hs).bind fun avatar t ht _ hfound => ?_
  cases avatar with
  | none => exact holds_throw ht (by simp [gateway, Allowed])
  | some p => exact holds_pure ht hfound

theorem holds_requireRoom (roomAddress : U16String) {missing : ChatResultCode} (hs : Fit P s)
    (hcode : missing ≠ .success) :
    (gateway P keep).Holds (requireRoom roomAddress missing) s fun room t =>
      t = s ∧ ∃ r, s.rooms[room]? = some r ∧ r.roomAddress = roomAddress ∧
        s.rooms.findIdx? (roomAddress == ·.roomAddress) = some room := by
  refine (holds_getRoom roomAddress hs).bind fun room t ht _ ⟨heq, hroom⟩ => ?_
  subst heq
  cases room with
  | none => exact holds_throw ht hcode
  | some room => exact holds_pure ht ⟨rfl, hroom room rfl⟩

theorem holds_evaluatePolicyEvent (event : Policy.Event) (hs : Fit P s) :
    (gateway P keep).Holds (evaluatePolicyEvent event) s fun _ t =>
      t = { s with recentActions := t.recentActions } :=
  have hkept : Kept keep s { s with
      recentActions := (Policy.evaluate s.policyConfig s.recentActions event s.steadyClock).2 } :=
    Kept.of_eq (fun _ h => h) rfl rfl rfl fun _ => Nat.le_refl _
  ⟨hs, hkept, rfl⟩

/-- Replacing the members of a room, all else kept. -/
theorem Fit.setMembers {room : RoomPtr} {f : ChatRoom → ChatRoom} (hs : Fit P s)
    (hf : ∀ r, s.rooms[room]? = some r →
      ∃ as, f r = { r with avatars := as } ∧ ∀ p ∈ as, Live s.avatarCache p) :
    Fit P (s.updateRoom room f) := by
  refine hs.updateRoom (fun r hr p hp => ?_) fun hu r hr => ?_
  · obtain ⟨as, heq, has⟩ := hf r hr
    rw [heq] at hp
    rcases List.mem_append.mp hp with hp | hp
    · exact has p hp
    · exact hs.room_pointers hr p (List.mem_append_right _ hp)
  · obtain ⟨as, heq, _⟩ := hf r hr
    rw [heq]
    exact hs.bare hu r (List.mem_of_getElem? hr)

/-- An operation that only replaces the members. -/
theorem holds_changeRoom {room : RoomPtr} {f : ChatRoom → Except ChatResultCode ChatRoom}
    (hs : Fit P s) (hlt : room < s.rooms.length)
    (hok : ∀ r r', s.rooms[room]? = some r → f r = .ok r' →
      ∃ as, r' = { r with avatars := as } ∧ ∀ p ∈ as, Live s.avatarCache p)
    (herr : ∀ r code, f r = .error code → code ≠ .success) :
    (gateway P keep).Holds (changeRoom room f) s fun _ t =>
      t.rooms.length = s.rooms.length ∧ t.avatarCache = s.avatarCache := by
  refine (holds_readRoom hs hlt).bind fun r t ht _ ⟨heq, hr⟩ => ?_
  subst heq
  cases hf : f r with
  | error code => exact holds_throw ht (herr r code hf)
  | ok r' =>
    refine (holds_writeRoom (ht.setMembers fun r'' hr'' => ?_) hlt).mono ?_
    · obtain rfl := Option.some.inj (hr.symm.trans hr'')
      exact hok r r' hr hf
    · rintro _ u _ _ rfl
      exact ⟨List.length_modify .., rfl⟩

/-- A member leaving by an unconditional operation. -/
theorem holds_leaveRoom {room : RoomPtr} (avatar : AvatarPtr) (hs : Fit P s)
    (hlt : room < s.rooms.length) :
    (gateway P keep).Holds (writeRoom room (·.leaveRoom avatar)) s fun _ t =>
      t.rooms.length = s.rooms.length := by
  refine (holds_writeRoom (hs.setMembers fun r hr => ⟨_, rfl, fun p hp => ?_⟩) hlt).mono ?_
  · exact hs.room_pointers hr p (List.mem_append_left _ (List.mem_filter.mp hp).1)
  · rintro _ u _ _ rfl
    exact List.length_modify ..

end Steps

section Roles
variable {request : ReqRoomRole}

/-- Where the operation of a request about an avatar's part in a room begins. -/
structure OnRoom (s : Server) (request : ReqRoomRole) (room : RoomPtr) (src dest : AvatarPtr)
    (t : Server) : Prop where
  rooms : t.rooms = s.rooms
  found : ∃ r, s.rooms[room]? = some r ∧ r.roomAddress = request.destRoomAddress
  srcId : src.avatarId = request.srcAvatarId
  srcLive : Live t.avatarCache src
  destLive : Live t.avatarCache dest
  hasSrc : s.HasAvatarId request.srcAvatarId
  hasDest : s.HasAvatarNamed request.destAvatarName request.destAvatarAddress

theorem OnRoom.lt {room : RoomPtr} {src dest : AvatarPtr} {t : Server}
    (h : OnRoom s request room src dest t) : room < t.rooms.length := by
  obtain ⟨r, hr, _⟩ := h.found
  rw [h.rooms]
  exact lt_of_getElem? hr

theorem holds_onRoomAvatar {policy : Option Policy.ActionType}
    {operation : RoomPtr → AvatarPtr → AvatarPtr → Serve Unit} (hs : Fit P s)
    (hop : ∀ room src dest t, Fit P t → OnRoom s request room src dest t →
      (gateway P True).Holds (operation room src dest) t fun _ _ => True) :
    (gateway P True).Holds (Handler.onRoomAvatar request policy operation) s fun _ _ => True := by
  refine (holds_requireSrcAvatar _ hs).bind fun src t ht _ ⟨hst, hsrc⟩ => ?_
  refine (holds_requireDestAvatar _ _ ht).bind fun dest u hu _ ⟨htu, hdest⟩ => ?_
  refine (holds_requireRoom _ hu (by simp)).bind fun room u hu _ ⟨heq, r, hr, haddress, _⟩ => ?_
  subst heq
  refine (holds_readRoom hu (lt_of_getElem? hr)).bind fun r' u hu _ ⟨heq, _⟩ => ?_
  subst heq
  have hrooms : u.rooms = s.rooms := by rw [(hst.trans htu).rest]
  have hon : OnRoom s request room src dest u :=
    ⟨hrooms, ⟨r, hrooms ▸ hr, haddress⟩, hsrc.1, htu.live hsrc.live, hdest.live,
      hsrc.hasAvatarId, hst.hasAvatarNamed.mp hdest.hasAvatarNamed⟩
  refine (holds_setResponse hu rfl rfl).bind fun _ v hv _ heq => ?_
  subst heq
  cases policy with
  | none => exact hop _ _ _ _ hv ⟨hon.1, hon.2, hon.3, hon.4, hon.5, hon.6, hon.7⟩
  | some action =>
    refine (holds_evaluatePolicyEvent _ hv).bind fun _ w hw _ heq => ?_
    rw [heq] at hw ⊢
    exact hop _ _ _ _ hw ⟨hon.1, hon.2, hon.3, hon.4, hon.5, hon.6, hon.7⟩

private theorem Serviced.mono {room : RoomPtr} {passes passes' : ChatRoom → Prop}
    (h : Serviced P s room passes) (himp : ∀ r, passes' r → passes r) : Serviced P s room passes' :=
  fun hu r hr hp => h hu r hr (himp r hp)

theorem holds_addBan (hs : Fit P s) :
    (gateway P True).Holds (Handler.addBan request) s fun _ _ => True :=
  holds_onRoomAvatar hs fun _ _ _ _ ht hon =>
    holds_addToList ht hon.lt hon.destLive (by simp) (ht.serviced_moderator _)
      fun write hwrite avatarId roomId u hu => by
        obtain rfl := Option.some.inj hwrite
        exact holds_persistRole .ban avatarId roomId hu

theorem holds_addInvite (hs : Fit P s) :
    (gateway P True).Holds (Handler.addInvite request) s fun _ _ => True :=
  holds_onRoomAvatar hs fun _ _ _ _ ht hon =>
    holds_addToList ht hon.lt hon.destLive (by simp) (ht.serviced_moderator _)
      fun write hwrite => absurd hwrite (by simp)

/-- The one operation in which only the creator's right is asked for. -/
theorem holds_addModerator (hs : Fit P s)
    (hserviced : ¬ P .unsetService → (Request.addModerator request).Serviced s) :
    (gateway P True).Holds (Handler.addModerator request) s fun _ _ => True := by
  refine holds_onRoomAvatar hs fun room src dest t ht hon => ?_
  refine holds_addToList ht hon.lt hon.destLive (by simp) (fun hu r hr hcreator hpersistent => ?_) ?_
  · obtain ⟨r', hr', haddress⟩ := hon.found
    rw [hon.rooms] at hr
    obtain rfl := Option.some.inj (hr.symm.trans hr')
    rw [hon.srcId] at hcreator
    exact hserviced hu r (List.mem_of_getElem? hr) haddress hpersistent hcreator hon.hasSrc hon.hasDest
  · intro write hwrite avatarId roomId u hu
    obtain rfl := Option.some.inj hwrite
    exact holds_persistRole .moderator avatarId roomId hu

theorem holds_removeBan (hs : Fit P s) :
    (gateway P True).Holds (Handler.removeBan request) s fun _ _ => True :=
  holds_onRoomAvatar hs fun _ _ _ _ ht hon =>
    holds_removeFromList ht hon.lt (by simp) ((ht.serviced_moderator _).mono fun _ h => h.1)
      fun write hwrite avatarId roomId u hu => by
        obtain rfl := Option.some.inj hwrite
        exact holds_deleteRole .ban avatarId roomId hu

theorem holds_removeInvite (hs : Fit P s) :
    (gateway P True).Holds (Handler.removeInvite request) s fun _ _ => True :=
  holds_onRoomAvatar hs fun _ _ _ _ ht hon =>
    holds_removeFromList ht hon.lt (by simp) ((ht.serviced_moderator _).mono fun _ h => h.1)
      fun write hwrite => absurd hwrite (by simp)

/-- Who is removed is a moderator, so the room has one. -/
theorem holds_removeModerator (hs : Fit P s) :
    (gateway P True).Holds (Handler.removeModerator request) s fun _ _ => True :=
  holds_onRoomAvatar hs fun _ _ _ _ ht hon =>
    holds_removeFromList ht hon.lt (by simp) ((ht.serviced_moderator _).mono fun _ h => h.2)
      fun write hwrite avatarId roomId u hu => by
        obtain rfl := Option.some.inj hwrite
        exact holds_deleteRole .moderator avatarId roomId hu

theorem holds_kickAvatar (hs : Fit P s) :
    (gateway P True).Holds (Handler.kickAvatar request) s fun _ _ => True := by
  refine holds_onRoomAvatar hs fun room src dest t ht hon => ?_
  refine (holds_readRoom ht hon.lt).bind fun r t ht _ ⟨heq, _⟩ => ?_
  subst heq
  refine (holds_changeRoom ht hon.lt (fun r r' hr hok => ?_) fun r code => ChatRoom.kickAvatar_error).bind ?_
  · rw [ChatRoom.kickAvatar_ok hok]
    refine ⟨_, rfl, fun p hp => ?_⟩
    exact ht.room_pointers hr p (List.mem_append_left _ (List.mem_filter.mp hp).1)
  · intro _ u hu htu hlen
    refine holds_sendKickAvatarUpdate _ hu ?_ (htu.live _ hon.srcLive) (htu.live _ hon.destLive)
    rw [hlen.1]
    exact hon.lt

end Roles

section Rooms

theorem holds_createRoomHandler (request : ReqCreateRoom) (hs : Fit P s)
    (hsafe : ¬ P .nullPointer → (Request.createRoom request).NullSafe s)
    (hrange : ¬ P .outOfRange → (Request.createRoom request).InRange s) :
    (gateway P True).Holds (Handler.createRoom request) s fun _ t =>
      ∃ room, t.response.room = some room ∧ room < t.rooms.length := by
  refine (holds_getAvatarById _ hs).bind fun creator t ht _ ⟨hst, hcreator⟩ => ?_
  have hexists : ∀ address, t.roomExists address = s.roomExists address := fun address => by
    rw [Server.roomExists, hst.rest, Server.roomExists]
  refine (holds_createRoom ht (fun hnew => ?_) fun hnew hr hpersistent => ?_).bind ?_
  · cases creator with
    | some p => exact hcreator.live
    | none =>
      by_contra hnull
      rw [hexists] at hnew
      rcases hsafe hnull with hid | hold
      · exact hcreator.not_hasAvatarId hid
      · exact absurd (hnew.symm.trans hold) (by simp)
  · rw [hexists] at hnew
    rw [hst.db]
    rcases hrange hr with hold | hplain | hsmall
    · exact absurd (hnew.symm.trans hold) (by simp)
    · exact absurd hplain hpersistent
    · exact hsmall
  · intro room u hu _ hlt
    refine (holds_setResponse hu rfl rfl).mono ?_
    rintro _ v _ _ rfl
    exact ⟨room, rfl, hlt⟩

/-- A handler that looks for its avatar and its room and writes about the room into the response. -/
private theorem holds_atRoom {srcAvatarId : UInt32} {roomAddress : U16String}
    {f : RoomPtr → ChatRoom → Response → Response} {rest : AvatarPtr → RoomPtr → ChatRoom → Serve Unit} (hs : Fit P s)
    (hf : ∀ room r response, (f room r response).type = response.type ∧ (f room r response).track = response.track)
    (hrest : ∀ src room r t, Fit P t → Live t.avatarCache src → room < t.rooms.length → t.rooms = s.rooms →
      s.rooms.findIdx? (roomAddress == ·.roomAddress) = some room → s.HasAvatarId srcAvatarId →
      (gateway P keep).Holds (rest src room r) t fun _ _ => True) :
    (gateway P keep).Holds (do
      let src ← requireSrcAvatar srcAvatarId
      let room ← requireRoom roomAddress .addressNotRoom
      let r ← readRoom room
      setResponse (f room r)
      rest src room r) s fun _ _ => True := by
  refine (holds_requireSrcAvatar _ hs).bind fun src t ht _ ⟨hst, hsrc⟩ => ?_
  have hrooms : t.rooms = s.rooms := by rw [hst.rest]
  refine (holds_requireRoom _ ht (by simp)).bind fun room t ht _ ⟨heq, r, hr, _, hindex⟩ => ?_
  subst heq
  have hlt := lt_of_getElem? hr
  refine (holds_readRoom ht hlt).bind fun r t ht _ ⟨heq, _⟩ => ?_
  subst heq
  refine (holds_setResponse ht (hf _ _ _).1 (hf _ _ _).2).bind fun _ u hu _ heq => ?_
  subst heq
  exact hrest src room r _ hu hsrc.live hlt hrooms (hrooms ▸ hindex) hsrc.hasAvatarId

theorem holds_destroyRoomHandler (request : ReqDestroyRoom) (hs : Fit P s)
    (hsettled : ¬ P .freedRoom → (Request.destroyRoom request).Settled s) :
    (gateway P False).Holds (Handler.destroyRoom request) s fun _ _ => True := by
  apply holds_atRoom hs
  case hf => exact fun _ _ _ => ⟨rfl, rfl⟩
  intro src room r t ht hsrc hlt hrooms hindex hid
  refine (holds_destroyRoom ht hlt fun hfreed => ?_).bind fun _ u hu htu _ => ?_
  · rw [hrooms]
    exact hsettled hfreed room hindex hid
  exact holds_sendDestroyRoomUpdate _ _ hu (htu.live _ hsrc)

theorem holds_enterRoomHandler (request : ReqEnterRoom) (hs : Fit P s) :
    (gateway P True).Holds (Handler.enterRoom request) s fun _ _ => True := by
  apply holds_atRoom hs
  case hf => exact fun _ _ _ => ⟨rfl, rfl⟩
  intro src room r t ht hsrc hlt _ _ _
  refine (holds_evaluatePolicyEvent _ ht).bind fun _ u hu _ heq => ?_
  rw [heq] at hu ⊢
  refine (holds_changeRoom hu hlt (fun r r' hr hok => ?_) fun r code => ChatRoom.enterRoom_error).bind ?_
  · refine ⟨_, ChatRoom.enterRoom_ok hok, fun p hp => ?_⟩
    rcases List.mem_append.mp hp with hp | hp
    · exact hu.room_pointers hr p (List.mem_append_left _ hp)
    · rw [List.mem_singleton.mp hp]
      exact hsrc
  · intro _ v hv huv hlen
    refine holds_sendEnterRoomUpdate hv ?_ (huv.live _ hsrc)
    rw [hlen.1]
    exact hlt

theorem holds_leaveRoomHandler (request : ReqLeaveRoom) (hs : Fit P s) :
    (gateway P True).Holds (Handler.leaveRoom request) s fun _ _ => True := by
  apply holds_atRoom hs
  case hf => exact fun _ _ _ => ⟨rfl, rfl⟩
  intro src room r t ht _ hlt _ _ _
  exact (holds_leaveRoom src ht hlt).bind fun _ u hu _ _ => holds_sendLeaveRoomUpdate _ _ _ hu

theorem holds_getRoomHandler (request : ReqGetRoom) (hs : Fit P s) :
    (gateway P True).Holds (Handler.getRoom request) s fun _ t =>
      ∃ room, t.response.room = some room ∧ room < t.rooms.length := by
  refine (holds_requireRoom _ hs (by simp)).bind fun room t ht _ ⟨heq, r, hr, _⟩ => ?_
  subst heq
  refine (holds_setResponse ht rfl rfl).mono ?_
  rintro _ u _ _ rfl
  exact ⟨room, rfl, lt_of_getElem? hr⟩

theorem holds_sendRoomMessageHandler (request : ReqSendRoomMessage) (hs : Fit P s) :
    (gateway P True).Holds (Handler.sendRoomMessage request) s fun _ _ => True := by
  apply holds_atRoom hs
  case hf => exact fun _ _ _ => ⟨rfl, rfl⟩
  intro src room r t ht hsrc hlt _ _ _
  refine (holds_evaluatePolicyEvent _ ht).bind fun _ u hu _ heq => ?_
  rw [heq] at hu ⊢
  have hfit : Fit P (Server.updateRoom _ room fun r => { r with roomMessageId := r.roomMessageId + 1 }) :=
    hu.updateRoom (fun r hr p hp => hu.room_pointers hr p hp) fun hb r hr =>
      hu.bare hb r (List.mem_of_getElem? hr)
  refine (holds_writeRoom hfit hlt).bind fun _ v hv huv heq => ?_
  refine holds_sendRoomMessageUpdate _ _ _ hv ?_ (huv.live _ hsrc)
  rw [heq, Server.updateRoom, List.length_modify]
  exact hlt

end Rooms
end StationChat
