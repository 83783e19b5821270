import StationChat.Model.ChatRoom

/-! What the gateway sends: the notifications and the responses, with every datum their encoders
write read from the objects at the moment of sending. -/
namespace StationChat

/-- `status` is any 32-bit value; `PersistentState.code` names five of them. -/
structure PersistentHeader where
  messageId : UInt32 := 0
  avatarId : UInt32
  fromName : U16String
  fromAddress : U16String
  subject : U16String
  sentTime : UInt32 := 0
  status : UInt32 := PersistentState.new.code
  folder : U16String := []
  category : U16String := []
  deriving DecidableEq, Repr

structure PersistentMessage where
  header : PersistentHeader
  message : U16String
  oob : U16String
  deriving DecidableEq, Repr

/-- The notifications `M*`. Their type code and the zero track number are constants. -/
inductive Notification where
  | instantMessage (srcAvatar : ChatAvatar) (destAvatarId : UInt32) (message oob : U16String)
  | roomMessage (srcAvatar : ChatAvatar) (roomId : UInt32) (destList : List UInt32)
      (message oob : U16String) (messageId : UInt32)
  | friendLogin (avatar : ChatAvatar) (friendAddress : U16String) (destAvatarId : UInt32)
      (friendStatus : U16String)
  | friendLogout (avatar : ChatAvatar) (friendAddress : U16String) (destAvatarId : UInt32)
  | enterRoom (srcAvatar : ChatAvatar) (roomId : UInt32)
  | leaveRoom (avatarId roomId : UInt32)
  | destroyRoom (srcAvatar : ChatAvatar) (roomId : UInt32)
  | persistentMessage (destAvatarId : UInt32) (header : PersistentHeader)
  | kickAvatar (srcAvatar destAvatar : ChatAvatar) (roomName roomAddress : U16String)
  deriving DecidableEq, Repr

/-- The friend contact an encoder writes: name, address, comment, online flag. -/
structure FriendEntry where
  name : U16String
  address : U16String
  comment : U16String
  isOnline : Bool
  deriving DecidableEq, Repr

structure IgnoreEntry where
  name : U16String
  address : U16String
  deriving DecidableEq, Repr

/-- A room with the avatar objects behind its seven lists. -/
structure RoomImage where
  room : ChatRoom
  avatars : List ChatAvatar
  administrators : List ChatAvatar
  moderators : List ChatAvatar
  tempModerators : List ChatAvatar
  banned : List ChatAvatar
  invited : List ChatAvatar
  voice : List ChatAvatar
  deriving DecidableEq, Repr

structure RoomSummary where
  roomAddress : U16String
  roomTopic : U16String
  roomAttributes : UInt32
  currentRoomSize : UInt32
  maxRoomSize : UInt32
  deriving DecidableEq, Repr

/-- What follows type, track and result in an encoded response. A field the source leaves without
a value is `none`. -/
inductive ResponseBody where
  | empty
  | roomId (roomId : Option UInt32)
  | enterRoom (roomId : Option UInt32) (gotRoomObj : Bool)
  | room (room : RoomImage)
  | avatar (avatar : ChatAvatar)
  | anyAvatar (isOnline : Option Bool) (avatar : Option ChatAvatar)
  | friends (friends : List FriendEntry)
  | ignored (ignored : List IgnoreEntry)
  | headers (headers : List PersistentHeader)
  | message (message : PersistentMessage)
  | rooms (rooms : List RoomSummary)
  | messageId (messageId : Option UInt32)
  | version (version : Option UInt32)
  deriving DecidableEq, Repr

inductive Outgoing where
  | response (type : ChatResponseType) (track : UInt32) (result : ChatResultCode) (body : ResponseBody)
  | notify (message : Notification)
  deriving DecidableEq, Repr

/-- A `ChatRoom*` that is not null: the position of the room in `rooms_`. -/
abbrev RoomPtr := Nat

/-- The response structure a handler fills in. Each response type has some of these fields;
`none` stands for a field without a value, and for the null pointer of `room`. -/
structure Response where
  type : ChatResponseType
  track : UInt32
  result : ChatResultCode := .success
  roomId : Option UInt32 := none
  isOnline : Option Bool := none
  avatar : Option AvatarPtr := none
  room : Option RoomPtr := none
  rooms : List RoomPtr := []
  headers : List PersistentHeader := []
  message : Option PersistentMessage := none
  messageId : Option UInt32 := none
  version : Option UInt32 := none
  deriving DecidableEq, Repr

end StationChat
