import StationChat.Model.Text

/-! Request, response and result codes. Only the codes some modelled function names are listed, and
`ROOMMAXAVATARSREACHED`, which none does. -/
namespace StationChat

/-- The requests the gateway dispatches. -/
inductive ChatRequestType where
  | loginAvatar | logoutAvatar | createRoom | destroyRoom | sendInstantMessage | sendRoomMessage
  | addFriend | removeFriend | friendStatus | addIgnore | removeIgnore | enterRoom | leaveRoom
  | addModerator | removeModerator | addBan | removeBan | addInvite | removeInvite | kickAvatar
  | getRoom | getRoomSummaries | sendPersistentMessage | getPersistentHeaders
  | getPersistentMessage | updatePersistentMessage | ignoreStatus | failoverReLoginAvatar
  | updatePersistentMessages | setApiVersion | setAvatarAttributes | getAnyAvatar
  deriving DecidableEq, Repr

namespace ChatRequestType

/-- The enumerator's value on the wire; responses carry the same one. -/
def code : ChatRequestType → UInt16
  | loginAvatar => 0 | logoutAvatar => 1 | createRoom => 4 | destroyRoom => 5
  | sendInstantMessage => 6 | sendRoomMessage => 7 | addFriend => 9 | removeFriend => 10
  | friendStatus => 11 | addIgnore => 12 | removeIgnore => 13 | enterRoom => 14 | leaveRoom => 15
  | addModerator => 16 | removeModerator => 17 | addBan => 18 | removeBan => 19 | addInvite => 20
  | removeInvite => 21 | kickAvatar => 22 | getRoom => 24 | getRoomSummaries => 25
  | sendPersistentMessage => 26 | getPersistentHeaders => 27 | getPersistentMessage => 28
  | updatePersistentMessage => 29 | ignoreStatus => 31 | failoverReLoginAvatar => 32
  | updatePersistentMessages => 39 | setApiVersion => 42 | setAvatarAttributes => 47
  | getAnyAvatar => 65

/-- The cases of the dispatching switch, in its order. -/
def dispatched : List ChatRequestType :=
  [loginAvatar, logoutAvatar, createRoom, destroyRoom, sendInstantMessage, sendRoomMessage,
    addFriend, removeFriend, friendStatus, addIgnore, removeIgnore, enterRoom, leaveRoom,
    addModerator, removeModerator, addBan, removeBan, addInvite, removeInvite, kickAvatar,
    getRoom, getRoomSummaries, sendPersistentMessage, getPersistentHeaders,
    getPersistentMessage, updatePersistentMessage, updatePersistentMessages, ignoreStatus,
    failoverReLoginAvatar, setApiVersion, setAvatarAttributes, getAnyAvatar]

/-- The switch on the request type; `none` is its default branch. -/
def ofCode (c : UInt16) : Option ChatRequestType := dispatched.find? fun t => t.code == c

theorem ofCode_code (t : ChatRequestType) : ofCode t.code = some t := by
  cases t <;> rfl

end ChatRequestType

/-- The types of the responses to the dispatched requests. -/
abbrev ChatResponseType := ChatRequestType

inductive ChatResultCode where
  | success | srcAvatarDoesntExist | destAvatarDoesntExist | addressDoesntExist | addressNotRoom
  | roomBannedAvatar | roomPrivateRoom | roomNotInRoom | roomNoPrivileges | database
  | pmsgNotFound | roomMaxAvatarsReached | ignoring | roomAlreadyExists | dbFail
  | roomDestAvatarNotModerator | roomDestAvatarNotInvited | roomDestAvatarNotBanned | roomDuplicateBan
  | roomDuplicateModerator | roomDuplicateInvite | roomAlreadyInRoom | wrongChatServerForRequest
  deriving DecidableEq, Repr

/-- The value written for a result code. -/
def ChatResultCode.code : ChatResultCode → UInt32
  | success => 0 | srcAvatarDoesntExist => 3 | destAvatarDoesntExist => 4
  | addressDoesntExist => 5 | addressNotRoom => 6 | roomBannedAvatar => 12
  | roomPrivateRoom => 13 | roomNotInRoom => 15 | roomNoPrivileges => 16 | database => 17
  | pmsgNotFound => 21 | roomMaxAvatarsReached => 22 | ignoring => 23 | roomAlreadyExists => 24 | dbFail => 29
  | roomDestAvatarNotModerator => 30 | roomDestAvatarNotInvited => 31
  | roomDestAvatarNotBanned => 32 | roomDuplicateBan => 33 | roomDuplicateModerator => 34
  | roomDuplicateInvite => 35 | roomAlreadyInRoom => 36 | wrongChatServerForRequest => 42

/-- `PersistentState`: the enumerators of the mail states. A stored or received state is any
32-bit value. -/
inductive PersistentState where
  | new | unread | read | trash | deleted
  deriving DecidableEq, Repr

def PersistentState.code : PersistentState → UInt32
  | new => 1 | unread => 2 | read => 3 | trash => 4 | deleted => 5

end StationChat
