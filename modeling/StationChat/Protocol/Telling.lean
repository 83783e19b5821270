import StationChat.Lib.Encoder
import StationChat.Protocol.Decoding
import StationChat.Protocol.Responses

/-! Whatever follows an encoded response or notification, every field that was written can be told. -/
namespace StationChat
open Lib

section Same

/-- The ten fields of an avatar are equal. -/
structure ChatAvatar.Same (v w : ChatAvatar) : Prop where
  avatarId : v.self.avatarId = w.self.avatarId
  userId : v.userId = w.userId
  name : v.self.name = w.self.name
  address : v.self.address = w.self.address
  attributes : v.attributes = w.attributes
  loginLocation : v.loginLocation = w.loginLocation
  server : v.server = w.server
  gateway : v.gateway = w.gateway
  serverId : v.serverId = w.serverId
  gatewayId : v.gatewayId = w.gatewayId

/-- Folder and category are not written. -/
structure PersistentHeader.Same (v w : PersistentHeader) : Prop where
  messageId : v.messageId = w.messageId
  avatarId : v.avatarId = w.avatarId
  fromName : v.fromName = w.fromName
  fromAddress : v.fromAddress = w.fromAddress
  subject : v.subject = w.subject
  sentTime : v.sentTime = w.sentTime
  status : v.status = w.status

structure PersistentMessage.Same (v w : PersistentMessage) : Prop where
  header : v.header.Same w.header
  message : v.message = w.message
  oob : v.oob = w.oob

/-- The thirteen fields of a room are equal, and so are the avatars of its seven lists. -/
structure RoomImage.Same (v w : RoomImage) : Prop where
  creatorName : v.room.creatorName = w.room.creatorName
  creatorAddress : v.room.creatorAddress = w.room.creatorAddress
  creatorId : v.room.creatorId = w.room.creatorId
  roomName : v.room.roomName = w.room.roomName
  roomTopic : v.room.roomTopic = w.room.roomTopic
  roomPrefix : v.room.roomPrefix = w.room.roomPrefix
  roomAddress : v.room.roomAddress = w.room.roomAddress
  roomPassword : v.room.roomPassword = w.room.roomPassword
  roomAttributes : v.room.roomAttributes = w.room.roomAttributes
  maxRoomSize : v.room.maxRoomSize = w.room.maxRoomSize
  roomId : v.room.roomId = w.room.roomId
  createTime : v.room.createTime = w.room.createTime
  nodeLevel : v.room.nodeLevel = w.room.nodeLevel
  avatars : List.Forall₂ ChatAvatar.Same v.avatars w.avatars
  administrators : List.Forall₂ ChatAvatar.Same v.administrators w.administrators
  moderators : List.Forall₂ ChatAvatar.Same v.moderators w.moderators
  tempModerators : List.Forall₂ ChatAvatar.Same v.tempModerators w.tempModerators
  banned : List.Forall₂ ChatAvatar.Same v.banned w.banned
  invited : List.Forall₂ ChatAvatar.Same v.invited w.invited
  voice : List.Forall₂ ChatAvatar.Same v.voice w.voice

def Notification.Same : Notification → Notification → Prop
  | .instantMessage srcAvatar destAvatarId message oob,
      .instantMessage srcAvatar' destAvatarId' message' oob' =>
    srcAvatar.Same srcAvatar' ∧ destAvatarId = destAvatarId' ∧ message = message' ∧ oob = oob'
  | .roomMessage srcAvatar roomId destList message oob messageId,
      .roomMessage srcAvatar' roomId' destList' message' oob' messageId' =>
    srcAvatar.Same srcAvatar' ∧ roomId = roomId' ∧ destList = destList' ∧ message = message' ∧
      oob = oob' ∧ messageId = messageId'
  | .friendLogin avatar friendAddress destAvatarId friendStatus,
      .friendLogin avatar' friendAddress' destAvatarId' friendStatus' =>
    avatar.Same avatar' ∧ friendAddress = friendAddress' ∧ destAvatarId = destAvatarId' ∧
      friendStatus = friendStatus'
  | .friendLogout avatar friendAddress destAvatarId,
      .friendLogout avatar' friendAddress' destAvatarId' =>
    avatar.Same avatar' ∧ friendAddress = friendAddress' ∧ destAvatarId = destAvatarId'
  | .enterRoom srcAvatar roomId, .enterRoom srcAvatar' roomId' =>
    srcAvatar.Same srcAvatar' ∧ roomId = roomId'
  | .leaveRoom avatarId roomId, .leaveRoom avatarId' roomId' =>
    avatarId = avatarId' ∧ roomId = roomId'
  | .destroyRoom srcAvatar roomId, .destroyRoom srcAvatar' roomId' =>
    srcAvatar.Same srcAvatar' ∧ roomId = roomId'
  | .persistentMessage destAvatarId header, .persistentMessage destAvatarId' header' =>
    destAvatarId = destAvatarId' ∧ header.Same header'
  | .kickAvatar srcAvatar destAvatar roomName roomAddress,
      .kickAvatar srcAvatar' destAvatar' roomName' roomAddress' =>
    srcAvatar.Same srcAvatar' ∧ destAvatar.Same destAvatar' ∧ roomName = roomName' ∧
      roomAddress = roomAddress'
  | _, _ => False

structure RoomFields.Same (v w : RoomFields) : Prop where
  room : v.room.Same w.room
  extraRooms : List.Forall₂ RoomImage.Same v.extraRooms w.extraRooms

/-- What a flag or a result keeps from being written need not be equal. -/
def ResponseShape.Same (success : Prop) : (shape : ResponseShape) → shape.Fields → shape.Fields → Prop
  | .nothing, _, _ => True
  | .roomId, v, w => v = w
  | .room, v, w => success → v.Same w
  | .enterRoom, v, w => v.roomId = w.roomId ∧ v.gotRoomObj = w.gotRoomObj ∧
      (v.gotRoomObj → RoomFields.Same ⟨v.room, v.extraRooms⟩ ⟨w.room, w.extraRooms⟩)
  | .avatar, v, w => success → v.Same w
  | .anyAvatar, v, w => v.isOnline = w.isOnline ∧ (success → v.avatar.Same w.avatar)
  | .friends, v, w => success → v.getD [] = w.getD []
  | .ignored, v, w => success → v.getD [] = w.getD []
  | .headers, v, w => List.Forall₂ PersistentHeader.Same v w
  | .message, v, w => success → v.Same w
  | .rooms, v, w => v = w
  | .messageId, v, w => success → v = w
  | .version, v, w => v = w
  | .chatServer, v, w => v.hostname = w.hostname ∧ v.port = w.port

structure Res.Same {type : ResponseType} (v w : Res type) : Prop where
  track : v.track = w.track
  result : v.result = w.result
  fields : type.shape.Same (v.result = ChatResultCode.success.code) v.fields w.fields

end Same

section Short

/-- A string whose length fits the 32 bits it is written in. -/
def ShortString (value : U16String) : Prop := value.length < 2 ^ 32

/-- A list whose size fits its 32 bits, of elements of which the same holds. -/
def ShortList {α : Type} (short : α → Prop) (values : List α) : Prop :=
  values.length < 2 ^ 32 ∧ ∀ value ∈ values, short value

structure ChatAvatar.Short (data : ChatAvatar) : Prop where
  name : ShortString data.self.name
  address : ShortString data.self.address
  loginLocation : ShortString data.loginLocation
  server : ShortString data.server
  gateway : ShortString data.gateway

structure FriendEntry.Short (data : FriendEntry) : Prop where
  name : ShortString data.name
  address : ShortString data.address
  comment : ShortString data.comment

structure IgnoreEntry.Short (data : IgnoreEntry) : Prop where
  name : ShortString data.name
  address : ShortString data.address

structure PersistentHeader.Short (data : PersistentHeader) : Prop where
  fromName : ShortString data.fromName
  fromAddress : ShortString data.fromAddress
  subject : ShortString data.subject

structure PersistentMessage.Short (data : PersistentMessage) : Prop where
  header : data.header.Short
  message : ShortString data.message
  oob : ShortString data.oob

structure RoomSummary.Short (data : RoomSummary) : Prop where
  roomAddress : ShortString data.roomAddress
  roomTopic : ShortString data.roomTopic

structure RoomImage.Short (data : RoomImage) : Prop where
  creatorName : ShortString data.room.creatorName
  creatorAddress : ShortString data.room.creatorAddress
  roomName : ShortString data.room.roomName
  roomTopic : ShortString data.room.roomTopic
  roomPrefix : ShortString data.room.roomPrefix
  roomAddress : ShortString data.room.roomAddress
  roomPassword : ShortString data.room.roomPassword
  avatars : ShortList ChatAvatar.Short data.avatars
  administrators : ShortList ChatAvatar.Short data.administrators
  moderators : ShortList ChatAvatar.Short data.moderators
  tempModerators : ShortList ChatAvatar.Short data.tempModerators
  banned : ShortList ChatAvatar.Short data.banned
  invited : ShortList ChatAvatar.Short data.invited
  voice : ShortList ChatAvatar.Short data.voice

def Notification.Short : Notification → Prop
  | .instantMessage srcAvatar _ message oob => srcAvatar.Short ∧ ShortString message ∧ ShortString oob
  | .roomMessage srcAvatar _ destList message oob _ => srcAvatar.Short ∧
      ShortList (fun _ => True) destList ∧ ShortString message ∧ ShortString oob
  | .friendLogin avatar friendAddress _ friendStatus =>
    avatar.Short ∧ ShortString friendAddress ∧ ShortString friendStatus
  | .friendLogout avatar friendAddress _ => avatar.Short ∧ ShortString friendAddress
  | .enterRoom srcAvatar _ => srcAvatar.Short
  | .leaveRoom _ _ => True
  | .destroyRoom srcAvatar _ => srcAvatar.Short
  | .persistentMessage _ header => header.Short
  | .kickAvatar srcAvatar destAvatar roomName roomAddress =>
    srcAvatar.Short ∧ destAvatar.Short ∧ ShortString roomName ∧ ShortString roomAddress

structure RoomFields.Short (data : RoomFields) : Prop where
  room : data.room.Short
  extraRooms : ShortList RoomImage.Short data.extraRooms

def ResponseShape.Short : (shape : ResponseShape) → shape.Fields → Prop
  | .nothing, _ | .roomId, _ | .messageId, _ | .version, _ => True
  | .room, data => data.Short
  | .enterRoom, data => RoomFields.Short ⟨data.room, data.extraRooms⟩
  | .avatar, data => data.Short
  | .anyAvatar, data => data.avatar.Short
  | .friends, contacts => ShortList FriendEntry.Short (contacts.getD [])
  | .ignored, contacts => ShortList IgnoreEntry.Short (contacts.getD [])
  | .headers, list => ShortList PersistentHeader.Short list
  | .message, data => data.Short
  | .rooms, list => ShortList RoomSummary.Short list
  | .chatServer, data => ShortString data.hostname

def Res.Short {type : ResponseType} (data : Res type) : Prop := type.shape.Short data.fields

end Short

section Integers
variable {s t : List UInt8}

theorem length_integerBytes (width n : Nat) : (integerBytes width n).length = width := by
  induction width generalizing n with
  | zero => rfl
  | succ width ih => rw [integerBytes, List.length_cons, ih]

/-- Reading the bytes back. -/
theorem littleEndian_integerBytes {width n : Nat} (h : n < 256 ^ width) :
    littleEndian (integerBytes width n) = n := by
  induction width generalizing n with
  | zero =>
    rw [Nat.pow_zero] at h
    rw [Nat.lt_one_iff.mp h]
    rfl
  | succ width ih =>
    rw [Nat.pow_succ] at h
    have hrest : n / 256 < 256 ^ width := Nat.div_lt_of_lt_mul (by omega)
    rw [integerBytes, littleEndian, ih hrest, UInt8.toNat_ofNat']
    omega

theorem tells_integerBytes (width : Nat) : Tells (· < 256 ^ width) (integerBytes width) Eq := by
  apply tells_fixed (length_integerBytes width)
  intro a b ha hb h
  rw [← littleEndian_integerBytes ha, ← littleEndian_integerBytes hb, h]

theorem writeUInt16_append (a b : UInt16) :
    writeUInt16 a ++ s = writeUInt16 b ++ t ↔ a = b ∧ s = t := by
  rw [writeUInt16, writeUInt16, (tells_integerBytes 2).append_eq_iff a.toNat_lt b.toNat_lt,
    UInt16.toNat_inj]

theorem writeUInt32_append (a b : UInt32) :
    writeUInt32 a ++ s = writeUInt32 b ++ t ↔ a = b ∧ s = t := by
  rw [writeUInt32, writeUInt32, (tells_integerBytes 4).append_eq_iff a.toNat_lt b.toNat_lt,
    UInt32.toNat_inj]

theorem writeBool_append (a b : Bool) : writeBool a ++ s = writeBool b ++ t ↔ a = b ∧ s = t := by
  rw [writeBool, writeBool, (tells_integerBytes 1).append_eq_iff (by cases a <;> decide)
    (by cases b <;> decide)]
  cases a <;> cases b <;> simp

end Integers

section Lists
variable {α : Type} {short : α → Prop} {write : α → List UInt8} {same : α → α → Prop}

theorem tells_writeUInt16 : Tells (fun _ => True) writeUInt16 Eq :=
  fun a b _ _ _ _ h => (writeUInt16_append a b).mp h

theorem tells_writeUInt32 : Tells (fun _ => True) writeUInt32 Eq :=
  fun a b _ _ _ _ h => (writeUInt32_append a b).mp h

theorem tells_writeSize : Tells (· < 2 ^ 32) writeSize Eq := by
  intro a b ha hb s t h
  obtain ⟨hsize, hrest⟩ := (writeUInt32_append _ _).mp h
  rw [← UInt32.toNat_inj, UInt32.toNat_ofNat_of_lt' ha, UInt32.toNat_ofNat_of_lt' hb] at hsize
  exact ⟨hsize, hrest⟩

theorem tells_writeAll (h : Tells short write same) :
    Tells (ShortList short) (writeAll write) (List.Forall₂ same) := tells_writeSize.list h

theorem tells_writeAll_eq (h : Tells short write Eq) : Tells (ShortList short) (writeAll write) Eq := by
  intro a b ha hb s t heq
  obtain ⟨hsame, hrest⟩ := tells_writeAll h ha hb heq
  exact ⟨List.forall₂_eq_eq_eq ▸ hsame, hrest⟩

/-- A string that fits is written as a list of units. -/
theorem writeU16String_eq {value : U16String} (h : ShortString value) :
    writeU16String value = writeAll writeUInt16 value := by
  simp only [writeU16String, UInt32.toNat_ofNat_of_lt' h, List.take_length]
  rfl

theorem writeU16String_append {a b : U16String} (ha : ShortString a) (hb : ShortString b)
    {s t : List UInt8} : writeU16String a ++ s = writeU16String b ++ t ↔ a = b ∧ s = t := by
  rw [writeU16String_eq ha, writeU16String_eq hb]
  exact (tells_writeAll_eq tells_writeUInt16).append_eq_iff ⟨ha, fun _ _ => trivial⟩
    ⟨hb, fun _ _ => trivial⟩ s t

end Lists
end StationChat
