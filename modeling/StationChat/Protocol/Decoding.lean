import StationChat.Lib.Wire
import StationChat.Protocol.Handlers

/-! The decoders of the dispatched requests, and what the gateway does with a packet. -/
namespace StationChat
open Lib

/-- An integer in memory; the hosts are little-endian. -/
def littleEndian : List UInt8 → Nat
  | [] => 0
  | byte :: bytes => byte.toNat + 256 * littleEndian bytes

namespace Wire

/-- `read` of an integer or an enumeration. -/
def readInteger (width : Nat) : Decoder Nat := .field width fun bytes => .done (littleEndian bytes)

def readUInt16 : Decoder UInt16 := do pure (UInt16.ofNat (← readInteger 2))

def readUInt32 : Decoder UInt32 := do pure (UInt32.ofNat (← readInteger 4))

def readInt32 : Decoder Int32 := do pure (← readUInt32).toInt32

/-- A `bool` is read as one byte. -/
def readBool : Decoder Bool := do pure ((← readInteger 1) != 0)

/-- `read` of a `std::u16string`: the length, then one unit at a time through one variable. -/
def readU16String : Decoder U16String := do
  let length ← readUInt32
  .units 2 length.toNat fun units => .done (units.map fun unit => UInt16.ofNat (littleEndian unit))

end Wire

open Wire

def ReqLoginAvatar.read : Decoder ReqLoginAvatar := do
  let track ← readUInt32
  let userId ← readUInt32
  let name ← readU16String
  let address ← readU16String
  let loginLocation ← readU16String
  let loginPriority ← readInt32
  let loginAttributes ← readInt32
  pure { track, userId, name, address, loginLocation, loginPriority, loginAttributes }

def ReqLogoutAvatar.read : Decoder ReqLogoutAvatar := do
  let track ← readUInt32
  let avatarId ← readUInt32
  pure { track, avatarId }

def ReqCreateRoom.read : Decoder ReqCreateRoom := do
  let track ← readUInt32
  let creatorId ← readUInt32
  let roomName ← readU16String
  let roomTopic ← readU16String
  let roomPassword ← readU16String
  let roomAttributes ← readUInt32
  let roomMaxSize ← readUInt32
  let roomAddress ← readU16String
  let srcAddress ← readU16String
  pure { track, creatorId, roomName, roomTopic, roomPassword, roomAttributes, roomMaxSize, roomAddress,
         srcAddress }

/-- The decoder of `ReqDestroyRoom` and of `ReqLeaveRoom`. -/
def ReqRoomByAvatar.read : Decoder ReqRoomByAvatar := do
  let track ← readUInt32
  let srcAvatarId ← readUInt32
  let roomAddress ← readU16String
  let srcAddress ← readU16String
  pure { track, srcAvatarId, roomAddress, srcAddress }

def ReqSendInstantMessage.read : Decoder ReqSendInstantMessage := do
  let track ← readUInt32
  let srcAvatarId ← readUInt32
  let destName ← readU16String
  let destAddress ← readU16String
  let message ← readU16String
  let oob ← readU16String
  let srcAddress ← readU16String
  pure { track, srcAvatarId, destName, destAddress, message, oob, srcAddress }

def ReqSendRoomMessage.read : Decoder ReqSendRoomMessage := do
  let track ← readUInt32
  let srcAvatarId ← readUInt32
  let destRoomAddress ← readU16String
  let message ← readU16String
  let oob ← readU16String
  let srcAddress ← readU16String
  pure { track, srcAvatarId, destRoomAddress, message, oob, srcAddress }

def ReqAddFriend.read : Decoder ReqAddFriend := do
  let track ← readUInt32
  let srcAvatarId ← readUInt32
  let destName ← readU16String
  let destAddress ← readU16String
  let comment ← readU16String
  let confirm ← readBool
  let srcAddress ← readU16String
  pure { track, srcAvatarId, destName, destAddress, comment, confirm, srcAddress }

/-- The decoder of `ReqRemoveFriend`, `ReqAddIgnore` and `ReqRemoveIgnore`. -/
def ReqContact.read : Decoder ReqContact := do
  let track ← readUInt32
  let srcAvatarId ← readUInt32
  let destName ← readU16String
  let destAddress ← readU16String
  let srcAddress ← readU16String
  pure { track, srcAvatarId, destName, destAddress, srcAddress }

/-- The decoder of `ReqFriendStatus` and of `ReqIgnoreStatus`. -/
def ReqContactStatus.read : Decoder ReqContactStatus := do
  let track ← readUInt32
  let srcAvatarId ← readUInt32
  let srcAddress ← readU16String
  pure { track, srcAvatarId, srcAddress }

def PassiveCreate.read : Decoder PassiveCreate := do
  let paramRoomTopic ← readU16String
  let paramRoomAttributes ← readUInt32
  let paramRoomMaxSize ← readUInt32
  pure { paramRoomTopic, paramRoomAttributes, paramRoomMaxSize }

def ReqEnterRoom.read : Decoder ReqEnterRoom := do
  let track ← readUInt32
  let srcAvatarId ← readUInt32
  let roomAddress ← readU16String
  let roomPassword ← readU16String
  let passiveCreate ← if ← readBool then some <$> PassiveCreate.read else pure none
  let requestingEntry ← readBool
  let srcAddress ← readU16String
  pure { track, srcAvatarId, roomAddress, roomPassword, passiveCreate, requestingEntry, srcAddress }

/-- The decoder of the seven requests about an avatar's part in a room. -/
def ReqRoomRole.read : Decoder ReqRoomRole := do
  let track ← readUInt32
  let srcAvatarId ← readUInt32
  let destAvatarName ← readU16String
  let destAvatarAddress ← readU16String
  let destRoomAddress ← readU16String
  let srcAddress ← readU16String
  pure { track, srcAvatarId, destAvatarName, destAvatarAddress, destRoomAddress, srcAddress }

def ReqGetRoom.read : Decoder ReqGetRoom := do
  let track ← readUInt32
  let roomAddress ← readU16String
  pure { track, roomAddress }

def ReqGetRoomSummaries.read : Decoder ReqGetRoomSummaries := do
  let track ← readUInt32
  let startNodeAddress ← readU16String
  let roomFilter ← readU16String
  pure { track, startNodeAddress, roomFilter }

def ReqSendPersistentMessage.read : Decoder ReqSendPersistentMessage := do
  let track ← readUInt32
  let avatarPresence ← readUInt16
  let sender ← if avatarPresence ≠ 0 then .inl <$> readUInt32 else .inr <$> readU16String
  let destName ← readU16String
  let destAddress ← readU16String
  let subject ← readU16String
  let msg ← readU16String
  let oob ← readU16String
  let category ← readU16String
  let enforceInboxLimit ← readBool
  let categoryLimit ← readUInt32
  pure { track, sender, destName, destAddress, subject, msg, oob, category, enforceInboxLimit,
         categoryLimit }

def ReqGetPersistentHeaders.read : Decoder ReqGetPersistentHeaders := do
  let track ← readUInt32
  let avatarId ← readUInt32
  let category ← readU16String
  pure { track, avatarId, category }

def ReqGetPersistentMessage.read : Decoder ReqGetPersistentMessage := do
  let track ← readUInt32
  let srcAvatarId ← readUInt32
  let messageId ← readUInt32
  pure { track, srcAvatarId, messageId }

def ReqUpdatePersistentMessage.read : Decoder ReqUpdatePersistentMessage := do
  let track ← readUInt32
  let srcAvatarId ← readUInt32
  let messageId ← readUInt32
  let status ← readUInt32
  pure { track, srcAvatarId, messageId, status }

def ReqUpdatePersistentMessages.read : Decoder ReqUpdatePersistentMessages := do
  let track ← readUInt32
  let srcAvatarId ← readUInt32
  let currentStatus ← readUInt32
  let newStatus ← readUInt32
  let category ← readU16String
  pure { track, srcAvatarId, currentStatus, newStatus, category }

def ReqFailoverReLoginAvatar.read : Decoder ReqFailoverReLoginAvatar := do
  let track ← readUInt32
  let avatarId ← readUInt32
  let userId ← readUInt32
  let name ← readU16String
  let address ← readU16String
  let loginLocation ← readU16String
  let loginPriority ← readInt32
  let attributes ← readUInt32
  pure { track, avatarId, userId, name, address, loginLocation, loginPriority, attributes }

def ReqSetApiVersion.read : Decoder ReqSetApiVersion := do
  let track ← readUInt32
  let version ← readUInt32
  pure { track, version }

def ReqSetAvatarAttributes.read : Decoder ReqSetAvatarAttributes := do
  let track ← readUInt32
  let avatarId ← readUInt32
  let avatarAttributes ← readUInt32
  let persistent ← readUInt32
  let srcAddress ← readU16String
  pure { track, avatarId, avatarAttributes, persistent, srcAddress }

def ReqGetAnyAvatar.read : Decoder ReqGetAnyAvatar := do
  let track ← readUInt32
  let name ← readU16String
  let address ← readU16String
  pure { track, name, address }

/-- `read(istream, request)` for the request type of a case of the switch. -/
def ChatRequestType.read : ChatRequestType → Decoder Request
  | loginAvatar => .loginAvatar <$> ReqLoginAvatar.read
  | logoutAvatar => .logoutAvatar <$> ReqLogoutAvatar.read
  | createRoom => .createRoom <$> ReqCreateRoom.read
  | destroyRoom => .destroyRoom <$> ReqRoomByAvatar.read
  | sendInstantMessage => .sendInstantMessage <$> ReqSendInstantMessage.read
  | sendRoomMessage => .sendRoomMessage <$> ReqSendRoomMessage.read
  | addFriend => .addFriend <$> ReqAddFriend.read
  | removeFriend => .removeFriend <$> ReqContact.read
  | friendStatus => .friendStatus <$> ReqContactStatus.read
  | addIgnore => .addIgnore <$> ReqContact.read
  | removeIgnore => .removeIgnore <$> ReqContact.read
  | enterRoom => .enterRoom <$> ReqEnterRoom.read
  | leaveRoom => .leaveRoom <$> ReqRoomByAvatar.read
  | addModerator => .addModerator <$> ReqRoomRole.read
  | removeModerator => .removeModerator <$> ReqRoomRole.read
  | addBan => .addBan <$> ReqRoomRole.read
  | removeBan => .removeBan <$> ReqRoomRole.read
  | addInvite => .addInvite <$> ReqRoomRole.read
  | removeInvite => .removeInvite <$> ReqRoomRole.read
  | kickAvatar => .kickAvatar <$> ReqRoomRole.read
  | getRoom => .getRoom <$> ReqGetRoom.read
  | getRoomSummaries => .getRoomSummaries <$> ReqGetRoomSummaries.read
  | sendPersistentMessage => .sendPersistentMessage <$> ReqSendPersistentMessage.read
  | getPersistentHeaders => .getPersistentHeaders <$> ReqGetPersistentHeaders.read
  | getPersistentMessage => .getPersistentMessage <$> ReqGetPersistentMessage.read
  | updatePersistentMessage => .updatePersistentMessage <$> ReqUpdatePersistentMessage.read
  | updatePersistentMessages => .updatePersistentMessages <$> ReqUpdatePersistentMessages.read
  | ignoreStatus => .ignoreStatus <$> ReqContactStatus.read
  | failoverReLoginAvatar => .failoverReLoginAvatar <$> ReqFailoverReLoginAvatar.read
  | setApiVersion => .setApiVersion <$> ReqSetApiVersion.read
  | setAvatarAttributes => .setAvatarAttributes <$> ReqSetAvatarAttributes.read
  | getAnyAvatar => .getAnyAvatar <$> ReqGetAnyAvatar.read

/-- What `OnIncoming` reads: the type code, and the request if the switch has a case for it. -/
def readPacket : Decoder (Option Request) := do
  match ChatRequestType.ofCode (← readUInt16) with
  | some type => some <$> type.read
  | none => pure none

/-- `OnRoutePacket` gives the stream the bytes of the packet. `memory` is what variables hold before they are
read into. -/
def decodePacket (memory : Nat → UInt8) (bytes : List UInt8) : Option Request × Reading :=
  readPacket.run memory (Decoder.start bytes)

/-- `GatewayClient::OnIncoming`. Nothing looks at the state of the stream. -/
def onIncoming (memory : Nat → UInt8) (client : ClientId) (bytes : List UInt8) : Serve Unit :=
  match (decodePacket memory bytes).1 with
  | some request => request.handle client
  | none => pure ()

end StationChat
