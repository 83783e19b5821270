import StationChat.Protocol.Telling

/-! No two answers that differ in a written field have the same bytes, and none begins another. -/
namespace StationChat
open Lib Lib.Action

section Parts

theorem tells_avatar : Tells ChatAvatar.Short ChatAvatar.write ChatAvatar.Same := by
  intro v w hv hw s t h
  simp only [ChatAvatar.write, flatten_cons_append, flatten_nil_append, writeUInt32_append,
    writeU16String_append hv.name hw.name, writeU16String_append hv.address hw.address,
    writeU16String_append hv.loginLocation hw.loginLocation,
    writeU16String_append hv.server hw.server, writeU16String_append hv.gateway hw.gateway] at h
  obtain ⟨havatarId, huserId, hname, haddress, hattributes, hloginLocation, hserver, hgateway,
    hserverId, hgatewayId, hrest⟩ := h
  exact ⟨⟨havatarId, huserId, hname, haddress, hattributes, hloginLocation, hserver, hgateway,
    hserverId, hgatewayId⟩, hrest⟩

theorem tells_friendEntry : Tells FriendEntry.Short FriendEntry.write Eq := by
  intro v w hv hw s t h
  simp only [FriendEntry.write, flatten_cons_append, flatten_nil_append, writeUInt16_append,
    writeU16String_append hv.name hw.name, writeU16String_append hv.address hw.address,
    writeU16String_append hv.comment hw.comment] at h
  obtain ⟨hname, haddress, hcomment, honline, hrest⟩ := h
  obtain ⟨name, address, comment, isOnline⟩ := v
  obtain ⟨name', address', comment', isOnline'⟩ := w
  have hisOnline : isOnline = isOnline' := by
    cases isOnline <;> cases isOnline' <;> simp at honline ⊢
  subst hname haddress hcomment hisOnline
  exact ⟨rfl, hrest⟩

theorem tells_ignoreEntry : Tells IgnoreEntry.Short IgnoreEntry.write Eq := by
  intro v w hv hw s t h
  simp only [IgnoreEntry.write, flatten_cons_append, flatten_nil_append, writeU16String_append hv.name hw.name,
    writeU16String_append hv.address hw.address] at h
  obtain ⟨hname, haddress, hrest⟩ := h
  obtain ⟨name, address⟩ := v
  obtain ⟨name', address'⟩ := w
  subst hname haddress
  exact ⟨rfl, hrest⟩

theorem tells_header : Tells PersistentHeader.Short PersistentHeader.write PersistentHeader.Same := by
  intro v w hv hw s t h
  simp only [PersistentHeader.write, flatten_cons_append, flatten_nil_append, writeUInt32_append,
    writeU16String_append hv.fromName hw.fromName,
    writeU16String_append hv.fromAddress hw.fromAddress,
    writeU16String_append hv.subject hw.subject] at h
  obtain ⟨hmessageId, havatarId, hfromName, hfromAddress, hsubject, hsentTime, hstatus, hrest⟩ := h
  exact ⟨⟨hmessageId, havatarId, hfromName, hfromAddress, hsubject, hsentTime, hstatus⟩, hrest⟩

theorem tells_message :
    Tells PersistentMessage.Short PersistentMessage.write PersistentMessage.Same := by
  intro v w hv hw s t h
  simp only [PersistentMessage.write, flatten_cons_append, flatten_nil_append] at h
  obtain ⟨hheader, h⟩ := tells_header hv.header hw.header h
  obtain ⟨hmessage, h⟩ := (writeU16String_append hv.message hw.message).mp h
  obtain ⟨hoob, hrest⟩ := (writeU16String_append hv.oob hw.oob).mp h
  exact ⟨⟨hheader, hmessage, hoob⟩, hrest⟩

theorem tells_roomSummary : Tells RoomSummary.Short RoomSummary.write Eq := by
  intro v w hv hw s t h
  simp only [RoomSummary.write, flatten_cons_append, flatten_nil_append, writeUInt32_append,
    writeU16String_append hv.roomAddress hw.roomAddress,
    writeU16String_append hv.roomTopic hw.roomTopic] at h
  obtain ⟨haddress, htopic, hattributes, hsize, hmax, hrest⟩ := h
  obtain ⟨address, topic, attributes, size, max⟩ := v
  obtain ⟨address', topic', attributes', size', max'⟩ := w
  subst haddress htopic hattributes hsize hmax
  exact ⟨rfl, hrest⟩

theorem tells_room : Tells RoomImage.Short RoomImage.write RoomImage.Same := by
  intro v w hv hw s t h
  have hlist := tells_writeAll tells_avatar
  simp only [RoomImage.write, flatten_cons_append, flatten_nil_append, writeUInt32_append,
    writeU16String_append hv.creatorName hw.creatorName,
    writeU16String_append hv.creatorAddress hw.creatorAddress,
    writeU16String_append hv.roomName hw.roomName, writeU16String_append hv.roomTopic hw.roomTopic,
    writeU16String_append hv.roomPrefix hw.roomPrefix,
    writeU16String_append hv.roomAddress hw.roomAddress,
    writeU16String_append hv.roomPassword hw.roomPassword] at h
  obtain ⟨hcreatorName, hcreatorAddress, hcreatorId, hroomName, hroomTopic, hroomPrefix, hroomAddress,
    hroomPassword, hroomAttributes, hmaxRoomSize, hroomId, hcreateTime, hnodeLevel, h⟩ := h
  obtain ⟨havatars, h⟩ := hlist hv.avatars hw.avatars h
  obtain ⟨hadministrators, h⟩ := hlist hv.administrators hw.administrators h
  obtain ⟨hmoderators, h⟩ := hlist hv.moderators hw.moderators h
  obtain ⟨htempModerators, h⟩ := hlist hv.tempModerators hw.tempModerators h
  obtain ⟨hbanned, h⟩ := hlist hv.banned hw.banned h
  obtain ⟨hinvited, h⟩ := hlist hv.invited hw.invited h
  obtain ⟨hvoice, hrest⟩ := hlist hv.voice hw.voice h
  exact ⟨⟨hcreatorName, hcreatorAddress, hcreatorId, hroomName, hroomTopic, hroomPrefix, hroomAddress,
    hroomPassword, hroomAttributes, hmaxRoomSize, hroomId, hcreateTime, hnodeLevel, havatars,
    hadministrators, hmoderators, htempModerators, hbanned, hinvited, hvoice⟩, hrest⟩

theorem tells_roomFields : Tells RoomFields.Short RoomFields.write RoomFields.Same := by
  intro v w hv hw s t h
  simp only [RoomFields.write, flatten_cons_append, flatten_nil_append] at h
  obtain ⟨hroom, h⟩ := tells_room hv.room hw.room h
  obtain ⟨hextra, hrest⟩ := tells_writeAll tells_room hv.extraRooms hw.extraRooms h
  exact ⟨⟨hroom, hextra⟩, hrest⟩

end Parts

section Notifications
variable {v w : Notification} {s t : List UInt8}

/-- A notification's type code tells its kind, and then every field of that kind. -/
theorem tells_notification : Tells Notification.Short Notification.write Notification.Same := by
  intro v w hv hw s t h
  simp only [Notification.write, flatten_cons_append, flatten_nil_append] at h
  obtain ⟨hcode, h⟩ := (writeUInt16_append _ _).mp h
  obtain ⟨-, h⟩ := (writeUInt32_append _ _).mp h
  cases v <;> cases w <;> first | (simp [Notification.code] at hcode; done) | skip
  all_goals simp only [Notification.writeFields, flatten_cons_append, flatten_nil_append] at h
  case instantMessage.instantMessage =>
    obtain ⟨havatar, h⟩ := tells_avatar hv.1 hw.1 h
    simp only [writeUInt32_append, writeU16String_append hv.2.1 hw.2.1,
      writeU16String_append hv.2.2 hw.2.2] at h
    exact ⟨⟨havatar, h.1, h.2.1, h.2.2.1⟩, h.2.2.2⟩
  case roomMessage.roomMessage =>
    obtain ⟨havatar, h⟩ := tells_avatar hv.1 hw.1 h
    obtain ⟨hroom, h⟩ := (writeUInt32_append _ _).mp h
    obtain ⟨hdest, h⟩ := tells_writeAll_eq tells_writeUInt32 hv.2.1 hw.2.1 h
    simp only [writeUInt32_append, writeU16String_append hv.2.2.1 hw.2.2.1,
      writeU16String_append hv.2.2.2 hw.2.2.2] at h
    exact ⟨⟨havatar, hroom, hdest, h.1, h.2.1, h.2.2.1⟩, h.2.2.2⟩
  case friendLogin.friendLogin =>
    obtain ⟨havatar, h⟩ := tells_avatar hv.1 hw.1 h
    simp only [writeUInt32_append, writeU16String_append hv.2.1 hw.2.1,
      writeU16String_append hv.2.2 hw.2.2] at h
    exact ⟨⟨havatar, h.1, h.2.1, h.2.2.1⟩, h.2.2.2⟩
  case friendLogout.friendLogout =>
    obtain ⟨havatar, h⟩ := tells_avatar hv.1 hw.1 h
    simp only [writeUInt32_append, writeU16String_append hv.2 hw.2] at h
    exact ⟨⟨havatar, h.1, h.2.1⟩, h.2.2⟩
  case enterRoom.enterRoom | destroyRoom.destroyRoom =>
    obtain ⟨havatar, h⟩ := tells_avatar hv hw h
    obtain ⟨hroom, hrest⟩ := (writeUInt32_append _ _).mp h
    exact ⟨⟨havatar, hroom⟩, hrest⟩
  case leaveRoom.leaveRoom =>
    simp only [writeUInt32_append] at h
    exact ⟨⟨h.1, h.2.1⟩, h.2.2⟩
  case persistentMessage.persistentMessage =>
    obtain ⟨hdest, h⟩ := (writeUInt32_append _ _).mp h
    obtain ⟨hheader, hrest⟩ := tells_header hv hw h
    exact ⟨⟨hdest, hheader⟩, hrest⟩
  case kickAvatar.kickAvatar =>
    obtain ⟨hsrc, h⟩ := tells_avatar hv.1 hw.1 h
    obtain ⟨hdest, h⟩ := tells_avatar hv.2.1 hw.2.1 h
    simp only [writeU16String_append hv.2.2.1 hw.2.2.1, writeU16String_append hv.2.2.2 hw.2.2.2] at h
    exact ⟨⟨hsrc, hdest, h.1, h.2.1⟩, h.2.2⟩

end Notifications

section Responses
variable {type type' : ResponseType} {s t : List UInt8}

theorem ResponseType.code_injective : Function.Injective ResponseType.code := by
  intro type type' h
  cases type with
  | dispatched type =>
    cases type' with
    | dispatched type' =>
      have hsome := ChatRequestType.ofCode_code type
      rw [show type.code = type'.code from h, ChatRequestType.ofCode_code] at hsome
      rw [Option.some.inj hsome]
    | destroyAvatar => cases type <;> exact absurd h (by decide)
    | registrarGetChatServer => cases type <;> exact absurd h (by decide)
  | destroyAvatar =>
    cases type' with
    | dispatched type' => cases type' <;> exact absurd h (by decide)
    | destroyAvatar => rfl
    | registrarGetChatServer => exact absurd h (by decide)
  | registrarGetChatServer =>
    cases type' with
    | dispatched type' => cases type' <;> exact absurd h (by decide)
    | destroyAvatar => exact absurd h (by decide)
    | registrarGetChatServer => rfl

/-- The members of a response, between two responses of one type and one result. -/
theorem tells_fields (shape : ResponseShape) (success : Prop) [Decidable success] :
    Tells shape.Short (shape.write success) (shape.Same success) := by
  intro v w hv hw s t h
  cases shape with
  | nothing => exact ⟨trivial, h⟩
  | roomId | version => exact (writeUInt32_append _ _).mp h
  | room => exact tells_roomFields.onlyIf success hv hw h
  | enterRoom =>
    simp only [ResponseShape.write, flatten_cons_append, flatten_nil_append] at h
    obtain ⟨hid, h⟩ := (writeUInt32_append _ _).mp h
    obtain ⟨hflag, h⟩ := (writeBool_append _ _).mp h
    rw [← hflag] at h
    obtain ⟨hrooms, hrest⟩ := tells_roomFields.onlyIf (v.gotRoomObj = true) hv hw h
    exact ⟨⟨hid, hflag, hrooms⟩, hrest⟩
  | avatar => exact tells_avatar.onlyIf success hv hw h
  | anyAvatar =>
    simp only [ResponseShape.write, flatten_cons_append, flatten_nil_append] at h
    obtain ⟨honline, h⟩ := (writeBool_append _ _).mp h
    obtain ⟨havatar, hrest⟩ := tells_avatar.onlyIf success hv hw h
    exact ⟨⟨honline, havatar⟩, hrest⟩
  | friends =>
    by_cases hs : success
    · simp only [ResponseShape.write, if_pos hs] at h
      obtain ⟨hlist, hrest⟩ := tells_writeAll_eq tells_friendEntry hv hw h
      exact ⟨fun _ => hlist, hrest⟩
    · simp only [ResponseShape.write, if_neg hs] at h
      exact ⟨fun hyes => absurd hyes hs, List.append_cancel_left h⟩
  | ignored =>
    by_cases hs : success
    · simp only [ResponseShape.write, if_pos hs] at h
      obtain ⟨hlist, hrest⟩ := tells_writeAll_eq tells_ignoreEntry hv hw h
      exact ⟨fun _ => hlist, hrest⟩
    · simp only [ResponseShape.write, if_neg hs] at h
      exact ⟨fun hyes => absurd hyes hs, List.append_cancel_left h⟩
  | headers => exact tells_writeAll tells_header hv hw h
  | message => exact tells_message.onlyIf success hv hw h
  | rooms => exact tells_writeAll_eq tells_roomSummary hv hw h
  | messageId => exact tells_writeUInt32.onlyIf success trivial trivial h
  | chatServer =>
    simp only [ResponseShape.write, flatten_cons_append, flatten_nil_append, writeU16String_append hv hw,
      writeUInt16_append] at h
    exact ⟨⟨h.1, h.2.1⟩, h.2.2⟩

theorem Res.write_type {v : Res type} {w : Res type'} (h : v.write ++ s = w.write ++ t) :
    type = type' := by
  simp only [Res.write, flatten_cons_append, flatten_nil_append] at h
  exact ResponseType.code_injective ((writeUInt16_append _ _).mp h).1

theorem tells_response (type : ResponseType) : Tells Res.Short (@Res.write type) Res.Same := by
  intro v w hv hw s t h
  simp only [Res.write, flatten_cons_append, flatten_nil_append, writeUInt16_append, writeUInt32_append] at h
  obtain ⟨-, htrack, hresult, h⟩ := h
  simp only [← hresult] at h
  obtain ⟨hfields, hrest⟩ := tells_fields _ _ hv hw h
  exact ⟨⟨htrack, hresult, hfields⟩, hrest⟩

end Responses

section Sent

/-- The objects that stand where an encoder follows no pointer. -/
def ChatAvatar.absent : ChatAvatar := { self := ⟨0, 0, [], []⟩ }

def RoomImage.absent : RoomImage where
  room := {
    creatorName := []
    creatorAddress := []
    roomName := []
    roomTopic := []
    roomPassword := []
    roomAddress := []
    creatorId := 0
    roomAttributes := 0
    maxRoomSize := 0 }
  avatars := []
  administrators := []
  moderators := []
  tempModerators := []
  banned := []
  invited := []
  voice := []

/-- The members from which a body is written. A field that the handlers leave without a value holds
any value. -/
def ResponseBody.Fills (success : Prop) : (shape : ResponseShape) → ResponseBody → shape.Fields → Prop
  | .nothing, .empty, _ => True
  | .roomId, .roomId id, v => ∀ i, id = some i → v = i
  | .room, .room image, v => success ∧ v = ⟨image, []⟩
  | .enterRoom, .enterRoom id gotRoomObj, v =>
    (∀ i, id = some i → v.roomId = i) ∧ v.gotRoomObj = gotRoomObj ∧ ¬ gotRoomObj
  | .avatar, .avatar a, v => success ∧ v = a
  | .anyAvatar, .anyAvatar isOnline found, v => (∀ b, isOnline = some b → v.isOnline = b) ∧
      (success ↔ found.isSome) ∧ ∀ a, found = some a → v.avatar = a
  | .friends, .friends list, v => v.getD [] = list
  | .ignored, .ignored list, v => v.getD [] = list
  | .headers, .headers list, v => v = list
  | .message, .message m, v => success ∧ v = m
  | .rooms, .rooms list, v => v = list
  | .messageId, .messageId id, v => success ∧ ∀ i, id = some i → v = i
  | .version, .version number, v => ∀ i, number = some i → v = i
  | .room, .empty, _ | .avatar, .empty, _ | .message, .empty, _ | .messageId, .empty, _ => ¬ success
  | _, _, _ => False

/-- Every response that the gateway encodes is one of the response structures. -/
theorem responseBody_fills {r : Response} {body : ResponseBody} {s u : Server}
    (h : responseBody r s = (.ok body, u)) :
    ∃ fields, body.Fills (r.result = .success) (ResponseType.dispatched r.type).shape fields := by
  suffices hends : (responseBody r).Ends s (fun body _ => ∃ fields,
      body.Fills (r.result = .success) (ResponseType.dispatched r.type).shape fields)
      fun _ _ => True from hends.ok_of_run h
  unfold responseBody
  cases htype : r.type <;> dsimp only
  case loginAvatar | setAvatarAttributes =>
    by_cases hs : r.result = .success
    · simp only [if_pos hs, ends_bind, ends_pure]
      exact ends_of_forall fun _ _ => ends_of_forall fun a _ => ⟨a, hs, rfl⟩
    · simp only [if_neg hs, ends_pure]
      exact ⟨.absent, hs⟩
  case getAnyAvatar =>
    by_cases hs : r.result = .success
    · simp only [if_pos hs, ends_bind, ends_pure]
      refine ends_of_forall fun _ _ => ends_of_forall fun a _ => ⟨⟨r.isOnline.getD false, a⟩, ?_⟩
      exact ⟨fun b hb => by simp [hb], by simp [hs], fun _ ha => Option.some.inj ha⟩
    · simp only [if_neg hs, ends_pure]
      refine ⟨⟨r.isOnline.getD false, .absent⟩, ?_⟩
      exact ⟨fun b hb => by simp [hb], by simp [hs], fun _ ha => absurd ha (by simp)⟩
  case createRoom | getRoom =>
    by_cases hs : r.result = .success
    · simp only [if_pos hs, ends_bind, ends_pure]
      refine ends_of_forall fun _ _ => ends_of_forall fun _ _ => ends_of_forall fun image _ => ?_
      exact ⟨⟨image, []⟩, hs, rfl⟩
    · simp only [if_neg hs, ends_pure]
      exact ⟨⟨.absent, []⟩, hs⟩
  case enterRoom =>
    exact ⟨⟨r.roomId.getD 0, false, .absent, []⟩, fun i hi => by simp [hi], rfl, by simp⟩
  case friendStatus =>
    split
    · simp only [ends_bind, ends_pure]
      exact ends_of_forall fun _ _ => ends_of_forall fun list _ => ⟨some list, rfl⟩
    · exact ⟨none, rfl⟩
  case ignoreStatus =>
    split
    · simp only [ends_bind, ends_pure]
      exact ends_of_forall fun _ _ => ends_of_forall fun list _ => ⟨some list, rfl⟩
    · exact ⟨none, rfl⟩
  case getRoomSummaries =>
    simp only [ends_bind, ends_pure]
    exact ends_of_forall fun list _ => ⟨list, rfl⟩
  case getPersistentHeaders => exact ⟨r.headers, rfl⟩
  case getPersistentMessage =>
    by_cases hs : r.result = .success
    · simp only [if_pos hs, ends_bind, ends_pure]
      exact ends_of_forall fun m _ => ⟨m, hs, rfl⟩
    · simp only [if_neg hs, ends_pure]
      exact ⟨⟨{ avatarId := 0, fromName := [], fromAddress := [], subject := [] }, [], []⟩, hs⟩
  case sendPersistentMessage =>
    by_cases hs : r.result = .success
    · simp only [if_pos hs, ends_pure]
      exact ⟨r.messageId.getD 0, hs, fun i hi => by simp [hi]⟩
    · simp only [if_neg hs, ends_pure]
      exact ⟨(0 : UInt32), hs⟩
  case setApiVersion => exact ⟨r.version.getD 0, fun i hi => by simp [hi]⟩
  case logoutAvatar | sendInstantMessage | addFriend | removeFriend | addIgnore | removeIgnore |
      updatePersistentMessage | updatePersistentMessages | failoverReLoginAvatar =>
    exact ⟨(), trivial⟩
  all_goals exact ⟨r.roomId.getD 0, fun i hi => by simp [hi]⟩

/-- The bytes a client object may send for a message. -/
def Outgoing.SentAs : Outgoing → List UInt8 → Prop
  | .response type track result body, bytes => ∃ data : Res (.dispatched type),
    data.track = track ∧ data.result = result.code ∧
      body.Fills (result = .success) (ResponseType.dispatched type).shape data.fields ∧
      bytes = data.write
  | .notify message, bytes => bytes = message.write

/-- Handling a request ends with a response that has bytes. -/
theorem handleIncomingMessage_sentAs {client : ClientId} {type : ChatResponseType} {track : UInt32}
    {handler : Serve Unit} {s t : Server}
    (h : handleIncomingMessage client type track handler s = (.ok (), t)) :
    ∃ response bytes, t.sent.getLast? = some (client, response) ∧ response.SentAs bytes := by
  suffices hends : (handleIncomingMessage client type track handler).Ends s
      (fun _ t => ∃ response bytes, t.sent.getLast? = some (client, response) ∧ response.SentAs bytes)
      fun _ _ => True from hends.ok_of_run h
  unfold handleIncomingMessage
  simp only [ends_bind, ends_modify, ends_get]
  refine ends_of_forall fun _ u => ?_
  unfold Ends
  split
  · rename_i body t hbody
    obtain ⟨fields, hfills⟩ := responseBody_fills hbody
    exact ⟨_, _, List.getLast?_concat, ⟨u.response.track, u.response.result.code, fields⟩, rfl, rfl,
      hfills, rfl⟩
  · trivial

end Sent

/-- Two responses of a type, or two notifications, whose bytes agree with something behind each agree in
every field that is written, and the same is behind them. Bytes tell the type of a response too. -/
theorem sent_uniquely_decodable (s t : List UInt8) :
    (∀ (type : ResponseType) (v w : Res type), v.Short → w.Short → v.write ++ s = w.write ++ t →
      v.Same w ∧ s = t) ∧
    (∀ (type type' : ResponseType) (v : Res type) (w : Res type'), v.write ++ s = w.write ++ t →
      type = type') ∧
    ∀ v w : Notification, v.Short → w.Short → v.write ++ s = w.write ++ t → v.Same w ∧ s = t :=
  ⟨fun type _ _ hv hw h => tells_response type hv hw h, fun _ _ _ _ h => Res.write_type h,
    fun _ _ hv hw h => tells_notification hv hw h⟩

/-- The headers of a mailbox with one mail in a folder; the folder is not written. -/
def Res.oneHeader (folder : U16String) : Res (.dispatched .getPersistentHeaders) :=
  ⟨7, 0, [{ avatarId := 1, fromName := [0x41], fromAddress := [0x42], subject := [], folder }]⟩

theorem Res.oneHeader_short (folder : U16String) : (Res.oneHeader folder).Short := by
  have hone : 1 < 2 ^ 32 := by decide
  refine ⟨hone, fun header hmem => ?_⟩
  obtain rfl := List.mem_singleton.mp hmem
  exact ⟨hone, hone, Nat.two_pow_pos 32⟩

theorem sent_uniquely_decodable_headers : (Res.oneHeader []).Same (Res.oneHeader [0x43]) :=
  ((sent_uniquely_decodable [0x44] [0x44]).1 (.dispatched .getPersistentHeaders) (Res.oneHeader [])
    (Res.oneHeader [0x43]) (Res.oneHeader_short []) (Res.oneHeader_short [0x43]) rfl).1

end StationChat
