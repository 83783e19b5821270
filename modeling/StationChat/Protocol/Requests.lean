import StationChat.Model.ChatEnums

/-! The decoded requests. Requests with the same fields in the same order share a structure. -/
namespace StationChat

structure ReqLoginAvatar where
  track : UInt32
  userId : UInt32
  name : U16String
  address : U16String
  loginLocation : U16String
  loginPriority : Int32
  loginAttributes : Int32
  deriving DecidableEq, Repr

structure ReqLogoutAvatar where
  track : UInt32
  avatarId : UInt32
  deriving DecidableEq, Repr

structure ReqCreateRoom where
  track : UInt32
  creatorId : UInt32
  roomName : U16String
  roomTopic : U16String
  roomPassword : U16String
  roomAttributes : UInt32
  roomMaxSize : UInt32
  roomAddress : U16String
  srcAddress : U16String
  deriving DecidableEq, Repr

/-- The fields of `ReqDestroyRoom` and `ReqLeaveRoom`. -/
structure ReqRoomByAvatar where
  track : UInt32
  srcAvatarId : UInt32
  roomAddress : U16String
  srcAddress : U16String
  deriving DecidableEq, Repr

abbrev ReqDestroyRoom := ReqRoomByAvatar
abbrev ReqLeaveRoom := ReqRoomByAvatar

structure ReqSendInstantMessage where
  track : UInt32
  srcAvatarId : UInt32
  destName : U16String
  destAddress : U16String
  message : U16String
  oob : U16String
  srcAddress : U16String
  deriving DecidableEq, Repr

structure ReqSendRoomMessage where
  track : UInt32
  srcAvatarId : UInt32
  destRoomAddress : U16String
  message : U16String
  oob : U16String
  srcAddress : U16String
  deriving DecidableEq, Repr

structure ReqAddFriend where
  track : UInt32
  srcAvatarId : UInt32
  destName : U16String
  destAddress : U16String
  comment : U16String
  confirm : Bool
  srcAddress : U16String
  deriving DecidableEq, Repr

/-- The fields of `ReqRemoveFriend`, `ReqAddIgnore` and `ReqRemoveIgnore`. -/
structure ReqContact where
  track : UInt32
  srcAvatarId : UInt32
  destName : U16String
  destAddress : U16String
  srcAddress : U16String
  deriving DecidableEq, Repr

abbrev ReqRemoveFriend := ReqContact
abbrev ReqAddIgnore := ReqContact
abbrev ReqRemoveIgnore := ReqContact

/-- The fields of `ReqFriendStatus` and `ReqIgnoreStatus`. -/
structure ReqContactStatus where
  track : UInt32
  srcAvatarId : UInt32
  srcAddress : U16String
  deriving DecidableEq, Repr

abbrev ReqFriendStatus := ReqContactStatus
abbrev ReqIgnoreStatus := ReqContactStatus

/-- What ENTERROOM carries only when its `passiveCreate` flag is set. -/
structure PassiveCreate where
  paramRoomTopic : U16String
  paramRoomAttributes : UInt32
  paramRoomMaxSize : UInt32
  deriving DecidableEq, Repr

structure ReqEnterRoom where
  track : UInt32
  srcAvatarId : UInt32
  roomAddress : U16String
  roomPassword : U16String
  passiveCreate : Option PassiveCreate
  requestingEntry : Bool
  srcAddress : U16String
  deriving DecidableEq, Repr

/-- The fields of the seven requests about an avatar's part in a room. -/
structure ReqRoomRole where
  track : UInt32
  srcAvatarId : UInt32
  destAvatarName : U16String
  destAvatarAddress : U16String
  destRoomAddress : U16String
  srcAddress : U16String
  deriving DecidableEq, Repr

abbrev ReqAddModerator := ReqRoomRole
abbrev ReqRemoveModerator := ReqRoomRole
abbrev ReqAddBan := ReqRoomRole
abbrev ReqRemoveBan := ReqRoomRole
abbrev ReqAddInvite := ReqRoomRole
abbrev ReqRemoveInvite := ReqRoomRole
abbrev ReqKickAvatar := ReqRoomRole

structure ReqGetRoom where
  track : UInt32
  roomAddress : U16String
  deriving DecidableEq, Repr

structure ReqGetRoomSummaries where
  track : UInt32
  startNodeAddress : U16String
  roomFilter : U16String
  deriving DecidableEq, Repr

/-- `sender` is the avatar id if `avatarPresence` is not zero, and a name otherwise. -/
structure ReqSendPersistentMessage where
  track : UInt32
  sender : UInt32 ⊕ U16String
  destName : U16String
  destAddress : U16String
  subject : U16String
  msg : U16String
  oob : U16String
  category : U16String
  enforceInboxLimit : Bool
  categoryLimit : UInt32
  deriving DecidableEq, Repr

structure ReqGetPersistentHeaders where
  track : UInt32
  avatarId : UInt32
  category : U16String
  deriving DecidableEq, Repr

structure ReqGetPersistentMessage where
  track : UInt32
  srcAvatarId : UInt32
  messageId : UInt32
  deriving DecidableEq, Repr

structure ReqUpdatePersistentMessage where
  track : UInt32
  srcAvatarId : UInt32
  messageId : UInt32
  status : UInt32
  deriving DecidableEq, Repr

structure ReqUpdatePersistentMessages where
  track : UInt32
  srcAvatarId : UInt32
  currentStatus : UInt32
  newStatus : UInt32
  category : U16String
  deriving DecidableEq, Repr

structure ReqFailoverReLoginAvatar where
  track : UInt32
  avatarId : UInt32
  userId : UInt32
  name : U16String
  address : U16String
  loginLocation : U16String
  loginPriority : Int32
  attributes : UInt32
  deriving DecidableEq, Repr

structure ReqSetApiVersion where
  track : UInt32
  version : UInt32
  deriving DecidableEq, Repr

structure ReqSetAvatarAttributes where
  track : UInt32
  avatarId : UInt32
  avatarAttributes : UInt32
  persistent : UInt32
  srcAddress : U16String
  deriving DecidableEq, Repr

structure ReqGetAnyAvatar where
  track : UInt32
  name : U16String
  address : U16String
  deriving DecidableEq, Repr

inductive Request where
  | loginAvatar (r : ReqLoginAvatar)
  | logoutAvatar (r : ReqLogoutAvatar)
  | createRoom (r : ReqCreateRoom)
  | destroyRoom (r : ReqDestroyRoom)
  | sendInstantMessage (r : ReqSendInstantMessage)
  | sendRoomMessage (r : ReqSendRoomMessage)
  | addFriend (r : ReqAddFriend)
  | removeFriend (r : ReqRemoveFriend)
  | friendStatus (r : ReqFriendStatus)
  | addIgnore (r : ReqAddIgnore)
  | removeIgnore (r : ReqRemoveIgnore)
  | enterRoom (r : ReqEnterRoom)
  | leaveRoom (r : ReqLeaveRoom)
  | addModerator (r : ReqAddModerator)
  | removeModerator (r : ReqRemoveModerator)
  | addBan (r : ReqAddBan)
  | removeBan (r : ReqRemoveBan)
  | addInvite (r : ReqAddInvite)
  | removeInvite (r : ReqRemoveInvite)
  | kickAvatar (r : ReqKickAvatar)
  | getRoom (r : ReqGetRoom)
  | getRoomSummaries (r : ReqGetRoomSummaries)
  | sendPersistentMessage (r : ReqSendPersistentMessage)
  | getPersistentHeaders (r : ReqGetPersistentHeaders)
  | getPersistentMessage (r : ReqGetPersistentMessage)
  | updatePersistentMessage (r : ReqUpdatePersistentMessage)
  | updatePersistentMessages (r : ReqUpdatePersistentMessages)
  | ignoreStatus (r : ReqIgnoreStatus)
  | failoverReLoginAvatar (r : ReqFailoverReLoginAvatar)
  | setApiVersion (r : ReqSetApiVersion)
  | setAvatarAttributes (r : ReqSetAvatarAttributes)
  | getAnyAvatar (r : ReqGetAnyAvatar)
  deriving DecidableEq, Repr

namespace Request

def type : Request → ChatRequestType
  | loginAvatar _ => .loginAvatar | logoutAvatar _ => .logoutAvatar
  | createRoom _ => .createRoom | destroyRoom _ => .destroyRoom
  | sendInstantMessage _ => .sendInstantMessage | sendRoomMessage _ => .sendRoomMessage
  | addFriend _ => .addFriend | removeFriend _ => .removeFriend | friendStatus _ => .friendStatus
  | addIgnore _ => .addIgnore | removeIgnore _ => .removeIgnore | enterRoom _ => .enterRoom
  | leaveRoom _ => .leaveRoom | addModerator _ => .addModerator
  | removeModerator _ => .removeModerator | addBan _ => .addBan | removeBan _ => .removeBan
  | addInvite _ => .addInvite | removeInvite _ => .removeInvite | kickAvatar _ => .kickAvatar
  | getRoom _ => .getRoom | getRoomSummaries _ => .getRoomSummaries
  | sendPersistentMessage _ => .sendPersistentMessage
  | getPersistentHeaders _ => .getPersistentHeaders
  | getPersistentMessage _ => .getPersistentMessage
  | updatePersistentMessage _ => .updatePersistentMessage
  | updatePersistentMessages _ => .updatePersistentMessages
  | ignoreStatus _ => .ignoreStatus | failoverReLoginAvatar _ => .failoverReLoginAvatar
  | setApiVersion _ => .setApiVersion | setAvatarAttributes _ => .setAvatarAttributes
  | getAnyAvatar _ => .getAnyAvatar

def track : Request → UInt32
  | loginAvatar r => r.track | logoutAvatar r => r.track | createRoom r => r.track
  | destroyRoom r => r.track | sendInstantMessage r => r.track | sendRoomMessage r => r.track
  | addFriend r => r.track | removeFriend r => r.track | friendStatus r => r.track
  | addIgnore r => r.track | removeIgnore r => r.track | enterRoom r => r.track
  | leaveRoom r => r.track | addModerator r => r.track | removeModerator r => r.track
  | addBan r => r.track | removeBan r => r.track | addInvite r => r.track
  | removeInvite r => r.track | kickAvatar r => r.track | getRoom r => r.track
  | getRoomSummaries r => r.track | sendPersistentMessage r => r.track
  | getPersistentHeaders r => r.track | getPersistentMessage r => r.track
  | updatePersistentMessage r => r.track | updatePersistentMessages r => r.track
  | ignoreStatus r => r.track | failoverReLoginAvatar r => r.track | setApiVersion r => r.track
  | setAvatarAttributes r => r.track | getAnyAvatar r => r.track

end Request
end StationChat
