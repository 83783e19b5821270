import StationChat.Model.Messages

/-! The response structures and the encoders of everything that is sent. A pointer stands for the
object behind it; where an encoder follows none, the object is not looked at. -/
namespace StationChat

/-- An integer as the hosts hold it in memory: `width` bytes, the lowest first. -/
def integerBytes : Nat → Nat → List UInt8
  | 0, _ => []
  | width + 1, n => UInt8.ofNat n :: integerBytes width (n / 256)

def writeUInt16 (value : UInt16) : List UInt8 := integerBytes 2 value.toNat

def writeUInt32 (value : UInt32) : List UInt8 := integerBytes 4 value.toNat

def writeBool (value : Bool) : List UInt8 := integerBytes 1 (if value then 1 else 0)

/-- `write` of a `std::u16string`: the loop ends at the length that was written. -/
def writeU16String (value : U16String) : List UInt8 :=
  let length := UInt32.ofNat value.length
  writeUInt32 length ++ (value.take length.toNat).flatMap writeUInt16

/-- The size of a vector, as a 32-bit integer. -/
def writeSize (size : Nat) : List UInt8 := writeUInt32 (UInt32.ofNat size)

/-- A vector: its size, then every element. -/
def writeAll {α : Type} (write : α → List UInt8) (values : List α) : List UInt8 :=
  writeSize values.length ++ values.flatMap write

def ChatAvatar.write (data : ChatAvatar) : List UInt8 :=
  List.flatten [
    writeUInt32 data.self.avatarId,
    writeUInt32 data.userId,
    writeU16String data.self.name,
    writeU16String data.self.address,
    writeUInt32 data.attributes,
    writeU16String data.loginLocation,
    writeU16String data.server,
    writeU16String data.gateway,
    writeUInt32 data.serverId,
    writeUInt32 data.gatewayId]

/-- The online flag of a friend is written as a `short`. -/
def FriendEntry.write (data : FriendEntry) : List UInt8 :=
  List.flatten [
    writeU16String data.name,
    writeU16String data.address,
    writeU16String data.comment,
    writeUInt16 (if data.isOnline then 1 else 0)]

def IgnoreEntry.write (data : IgnoreEntry) : List UInt8 :=
  List.flatten [
    writeU16String data.name,
    writeU16String data.address]

def PersistentHeader.write (data : PersistentHeader) : List UInt8 :=
  List.flatten [
    writeUInt32 data.messageId,
    writeUInt32 data.avatarId,
    writeU16String data.fromName,
    writeU16String data.fromAddress,
    writeU16String data.subject,
    writeUInt32 data.sentTime,
    writeUInt32 data.status]

def PersistentMessage.write (data : PersistentMessage) : List UInt8 :=
  List.flatten [
    data.header.write,
    writeU16String data.message,
    writeU16String data.oob]

def RoomSummary.write (data : RoomSummary) : List UInt8 :=
  List.flatten [
    writeU16String data.roomAddress,
    writeU16String data.roomTopic,
    writeUInt32 data.roomAttributes,
    writeUInt32 data.currentRoomSize,
    writeUInt32 data.maxRoomSize]

/-- `write` of a `ChatRoom`. -/
def RoomImage.write (data : RoomImage) : List UInt8 :=
  List.flatten [
    writeU16String data.room.creatorName,
    writeU16String data.room.creatorAddress,
    writeUInt32 data.room.creatorId,
    writeU16String data.room.roomName,
    writeU16String data.room.roomTopic,
    writeU16String data.room.roomPrefix,
    writeU16String data.room.roomAddress,
    writeU16String data.room.roomPassword,
    writeUInt32 data.room.roomAttributes,
    writeUInt32 data.room.maxRoomSize,
    writeUInt32 data.room.roomId,
    writeUInt32 data.room.createTime,
    writeUInt32 data.room.nodeLevel,
    writeAll ChatAvatar.write data.avatars,
    writeAll ChatAvatar.write data.administrators,
    writeAll ChatAvatar.write data.moderators,
    writeAll ChatAvatar.write data.tempModerators,
    writeAll ChatAvatar.write data.banned,
    writeAll ChatAvatar.write data.invited,
    writeAll ChatAvatar.write data.voice]

section Notifications

/-- The values of `ChatMessageType`. -/
def Notification.code : Notification → UInt16
  | .instantMessage .. => 0 | .roomMessage .. => 1 | .friendLogin .. => 3 | .friendLogout .. => 4
  | .enterRoom .. => 16 | .leaveRoom .. => 17 | .destroyRoom .. => 18 | .persistentMessage .. => 20
  | .kickAvatar .. => 23

/-- What the encoder of a notification writes behind the type and the track number. -/
def Notification.writeFields : Notification → List UInt8
  | .instantMessage srcAvatar destAvatarId message oob =>
    List.flatten
      [srcAvatar.write, writeUInt32 destAvatarId, writeU16String message, writeU16String oob]
  | .roomMessage srcAvatar roomId destList message oob messageId =>
    List.flatten [srcAvatar.write, writeUInt32 roomId, writeAll writeUInt32 destList,
      writeU16String message, writeU16String oob, writeUInt32 messageId]
  | .friendLogin avatar friendAddress destAvatarId friendStatus =>
    List.flatten [avatar.write, writeU16String friendAddress, writeUInt32 destAvatarId,
      writeU16String friendStatus]
  | .friendLogout avatar friendAddress destAvatarId =>
    List.flatten [avatar.write, writeU16String friendAddress, writeUInt32 destAvatarId]
  | .enterRoom srcAvatar roomId => List.flatten [srcAvatar.write, writeUInt32 roomId]
  | .leaveRoom avatarId roomId => List.flatten [writeUInt32 avatarId, writeUInt32 roomId]
  | .destroyRoom srcAvatar roomId => List.flatten [srcAvatar.write, writeUInt32 roomId]
  | .persistentMessage destAvatarId header => List.flatten [writeUInt32 destAvatarId, header.write]
  | .kickAvatar srcAvatar destAvatar roomName roomAddress =>
    List.flatten [srcAvatar.write, destAvatar.write, writeU16String roomName,
      writeU16String roomAddress]

def Notification.write (data : Notification) : List UInt8 :=
  List.flatten [writeUInt16 data.code, writeUInt32 0, data.writeFields]

end Notifications

section Responses

/-- The types that have a response structure. The gateway does not dispatch DESTROYAVATAR, and
REGISTRAR_GETCHATSERVER is the registrar's. -/
inductive ResponseType where
  | dispatched (type : ChatResponseType)
  | destroyAvatar
  | registrarGetChatServer
  deriving DecidableEq, Repr

def ResponseType.code : ResponseType → UInt16
  | .dispatched type => type.code
  | .destroyAvatar => 2
  | .registrarGetChatServer => 20001

/-- `ResCreateRoom` and `ResGetRoom`. -/
structure RoomFields where
  room : RoomImage
  extraRooms : List RoomImage

structure EnterRoomFields where
  roomId : UInt32
  gotRoomObj : Bool
  room : RoomImage
  extraRooms : List RoomImage

structure AnyAvatarFields where
  isOnline : Bool
  avatar : ChatAvatar

structure ChatServerFields where
  hostname : U16String
  port : UInt16

/-- What a response structure has besides type, track and result. -/
inductive ResponseShape where
  | nothing | roomId | room | enterRoom | avatar | anyAvatar | friends | ignored | headers | message
  | rooms | messageId | version | chatServer
  deriving DecidableEq, Repr

/-- The members of the structures of a shape. `ResFriendStatus` and `ResIgnoreStatus` hold an avatar
that may be null, of which one list is written. -/
@[reducible] def ResponseShape.Fields : ResponseShape → Type
  | nothing => Unit
  | roomId => UInt32
  | room => RoomFields
  | enterRoom => EnterRoomFields
  | avatar => ChatAvatar
  | anyAvatar => AnyAvatarFields
  | friends => Option (List FriendEntry)
  | ignored => Option (List IgnoreEntry)
  | headers => List PersistentHeader
  | message => PersistentMessage
  | rooms => List RoomSummary
  | messageId => UInt32
  | version => UInt32
  | chatServer => ChatServerFields

def ResponseType.shape : ResponseType → ResponseShape
  | .dispatched type => match type with
    | .addBan | .addInvite | .addModerator | .destroyRoom | .kickAvatar | .leaveRoom | .removeBan
    | .removeInvite | .removeModerator | .sendRoomMessage => .roomId
    | .createRoom | .getRoom => .room
    | .enterRoom => .enterRoom
    | .loginAvatar | .setAvatarAttributes => .avatar
    | .getAnyAvatar => .anyAvatar
    | .friendStatus => .friends
    | .ignoreStatus => .ignored
    | .getPersistentHeaders => .headers
    | .getPersistentMessage => .message
    | .getRoomSummaries => .rooms
    | .sendPersistentMessage => .messageId
    | .setApiVersion => .version
    | .addFriend | .addIgnore | .failoverReLoginAvatar | .logoutAvatar | .removeFriend
    | .removeIgnore | .sendInstantMessage | .updatePersistentMessage
    | .updatePersistentMessages => .nothing
  | .destroyAvatar => .nothing
  | .registrarGetChatServer => .chatServer

/-- A room and the rooms above it. -/
def RoomFields.write (data : RoomFields) : List UInt8 :=
  List.flatten [data.room.write, writeAll RoomImage.write data.extraRooms]

/-- What the encoders write behind the result; `success` is whether the result is SUCCESS. -/
def ResponseShape.write (success : Prop) [Decidable success] :
    (shape : ResponseShape) → shape.Fields → List UInt8
  | .nothing, _ => []
  | .roomId, id => writeUInt32 id
  | .room, data => if success then data.write else []
  | .enterRoom, data =>
    List.flatten [writeUInt32 data.roomId, writeBool data.gotRoomObj,
      if data.gotRoomObj then RoomFields.write ⟨data.room, data.extraRooms⟩ else []]
  | .avatar, data => if success then data.write else []
  | .anyAvatar, data =>
    List.flatten [writeBool data.isOnline, if success then data.avatar.write else []]
  | .friends, contacts => writeAll FriendEntry.write (if success then contacts.getD [] else [])
  | .ignored, contacts => writeAll IgnoreEntry.write (if success then contacts.getD [] else [])
  | .headers, list => writeAll PersistentHeader.write list
  | .message, data => if success then data.write else []
  | .rooms, list => writeAll RoomSummary.write list
  | .messageId, id => if success then writeUInt32 id else []
  | .version, number => writeUInt32 number
  | .chatServer, data => List.flatten [writeU16String data.hostname, writeUInt16 data.port]

/-- The response structure of a type. Its result is any 32-bit value. -/
structure Res (type : ResponseType) where
  track : UInt32
  result : UInt32
  fields : type.shape.Fields

def Res.write {type : ResponseType} (data : Res type) : List UInt8 :=
  List.flatten [
    writeUInt16 type.code,
    writeUInt32 data.track,
    writeUInt32 data.result,
    type.shape.write (data.result = ChatResultCode.success.code) data.fields]

end Responses
end StationChat
