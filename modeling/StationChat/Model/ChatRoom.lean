import StationChat.Model.ChatAvatar
import StationChat.Model.ChatEnums

/-! Chat rooms and the operations on one room that reach no database. -/
namespace StationChat

/-- `ChatRoom::roomService_`: the default constructor leaves it without a value. -/
inductive RoomServicePtr where
  | unset | owner
  deriving DecidableEq, Repr

structure ChatRoom where
  roomService : RoomServicePtr := .unset
  creatorName : U16String
  creatorAddress : U16String
  roomName : U16String
  roomTopic : U16String
  roomPassword : U16String
  roomPrefix : U16String := []
  roomAddress : U16String
  creatorId : UInt32
  roomAttributes : UInt32
  maxRoomSize : UInt32
  roomId : UInt32 := 0
  createTime : UInt32 := 0
  nodeLevel : UInt32 := 0
  roomMessageId : UInt32 := 1
  dbId : Int := -1
  avatars : List AvatarPtr := []
  administrators : List AvatarPtr := []
  moderators : List AvatarPtr := []
  tempModerators : List AvatarPtr := []
  banned : List AvatarPtr := []
  invited : List AvatarPtr := []
  voice : List AvatarPtr := []
  deriving DecidableEq, Repr

inductive RoomAttribute where
  | isPrivate | moderated | persistent | localWorld | localGame

def RoomAttribute.mask : RoomAttribute → UInt32
  | isPrivate => 1 | moderated => 2 | persistent => 4 | localWorld => 16 | localGame => 32

/-- The address a room has once its name is appended to the address it is created at. -/
def fullAddress (roomAddress roomName : U16String) : U16String := roomAddress ++ 0x2B :: roomName

/-- The lists an operation of the room names an avatar in. -/
inductive RoomList where
  | administrators | moderators | banned | invited
  deriving DecidableEq, Repr

namespace ChatRoom

/-- The ten-argument constructor. The creator starts as administrator and moderator. -/
def make (roomId : UInt32) (creator : AvatarPtr) (roomName roomTopic roomPassword : U16String)
    (roomAttributes maxRoomSize : UInt32) (roomAddress : U16String) : ChatRoom where
  roomService := .owner
  roomId := roomId
  creatorName := creator.name
  creatorAddress := creator.address
  roomName := roomName
  roomTopic := roomTopic
  roomPassword := roomPassword
  roomAddress := fullAddress roomAddress roomName
  creatorId := creator.avatarId
  roomAttributes := roomAttributes
  maxRoomSize := maxRoomSize
  administrators := [creator]
  moderators := [creator]

variable (room : ChatRoom)

def hasAttribute (a : RoomAttribute) : Bool := room.roomAttributes &&& a.mask != 0
def isPrivate : Bool := room.hasAttribute .isPrivate
def isPersistent : Bool := room.hasAttribute .persistent

/-- The reply has 32 bits for the size of the vector. -/
def getCurrentRoomSize : UInt32 := UInt32.ofNat room.avatars.length
def getMaxRoomSize : UInt32 := room.maxRoomSize

def list : RoomList → List AvatarPtr
  | .administrators => room.administrators
  | .moderators => room.moderators
  | .banned => room.banned
  | .invited => room.invited

def setList : RoomList → List AvatarPtr → ChatRoom
  | .administrators, l => { room with administrators := l }
  | .moderators, l => { room with moderators := l }
  | .banned, l => { room with banned := l }
  | .invited, l => { room with invited := l }

/-- `find_if` over one of the lists by avatar id. -/
def inList (l : RoomList) (avatarId : UInt32) : Bool := (room.list l).any (·.avatarId == avatarId)

def isCreator (avatarId : UInt32) : Bool := avatarId == room.creatorId
def isModerator (avatarId : UInt32) : Bool := room.inList .moderators avatarId
def isAdministrator (avatarId : UInt32) : Bool := room.inList .administrators avatarId
def isBanned (avatarId : UInt32) : Bool := room.inList .banned avatarId
def isInvited (avatarId : UInt32) : Bool := room.inList .invited avatarId
def isInRoom (avatarId : UInt32) : Bool := room.avatars.any (·.avatarId == avatarId)

def enterRoom (avatar : AvatarPtr) (password : U16String) : Except ChatResultCode ChatRoom :=
  if room.roomPassword.length > 0 ∧ room.roomPassword ≠ password then .error .roomPrivateRoom
  else if room.isBanned avatar.avatarId then .error .roomBannedAvatar
  else if room.isInRoom avatar.avatarId then .error .roomAlreadyInRoom
  else if room.isPrivate && !room.isCreator avatar.avatarId && !room.isInvited avatar.avatarId then
    .error .roomPrivateRoom
  else .ok { room with avatars := room.avatars ++ [avatar] }

def leaveRoom (avatar : AvatarPtr) : ChatRoom :=
  { room with avatars := room.avatars.filter (·.avatarId != avatar.avatarId) }

def kickAvatar (srcAvatarId : UInt32) (destAvatar : AvatarPtr) : Except ChatResultCode ChatRoom :=
  if !room.isModerator srcAvatarId then .error .roomNoPrivileges
  else if !room.isInRoom destAvatar.avatarId then .error .roomNotInRoom
  else .ok (room.leaveRoom destAvatar)

/-- Members' addresses in order of first appearance. -/
def getConnectedAddresses : List U16String :=
  room.avatars.foldl (fun seen a => if a.address ∈ seen then seen else seen ++ [a.address]) []

/-- The same without the address of the room's creator. -/
def getRemoteAddresses : List U16String :=
  room.avatars.foldl (fun seen a =>
    if room.creatorAddress ≠ a.address ∧ a.address ∉ seen then seen ++ [a.address] else seen) []

section Lists
variable {room}

@[simp] theorem list_setList_self (l : RoomList) (as : List AvatarPtr) :
    (room.setList l as).list l = as := by
  cases l <;> rfl

@[simp] theorem setList_self (l : RoomList) : room.setList l (room.list l) = room := by
  cases l <;> rfl

theorem list_setList_of_ne {l m : RoomList} (h : m ≠ l) (as : List AvatarPtr) :
    (room.setList l as).list m = room.list m := by
  cases l <;> cases m <;> first | rfl | exact absurd rfl h

/-- Changing a role list leaves everything else of the room alone. -/
theorem setList_frame (room : ChatRoom) (l : RoomList) (as : List AvatarPtr) :
    (room.setList l as).roomService = room.roomService ∧
      (room.setList l as).roomId = room.roomId ∧ (room.setList l as).dbId = room.dbId ∧
      (room.setList l as).roomAddress = room.roomAddress ∧
      (room.setList l as).roomName = room.roomName ∧
      (room.setList l as).roomAttributes = room.roomAttributes ∧
      (room.setList l as).avatars = room.avatars := by
  cases l <;> exact ⟨rfl, rfl, rfl, rfl, rfl, rfl, rfl⟩

end Lists

section Members

theorem enterRoom_ok {r r' : ChatRoom} {avatar : AvatarPtr} {password : U16String}
    (h : r.enterRoom avatar password = .ok r') : r' = { r with avatars := r.avatars ++ [avatar] } := by
  unfold enterRoom at h
  split at h
  · exact absurd h (by simp)
  split at h
  · exact absurd h (by simp)
  split at h
  · exact absurd h (by simp)
  split at h
  · exact absurd h (by simp)
  · exact (Except.ok.inj h).symm

theorem enterRoom_isInRoom {r r' : ChatRoom} {avatar : AvatarPtr} {password : U16String}
    (h : r.enterRoom avatar password = .ok r') : r.isInRoom avatar.avatarId = false := by
  unfold enterRoom at h
  split at h
  · exact absurd h (by simp)
  split at h
  · exact absurd h (by simp)
  split at h
  · exact absurd h (by simp)
  · rename_i hout
    simpa using hout

/-- The size of the room is none of the reasons. -/
theorem enterRoom_refused {r : ChatRoom} {avatar : AvatarPtr} {password : U16String}
    {code : ChatResultCode} (h : r.enterRoom avatar password = .error code) :
    code ∈ [ChatResultCode.roomPrivateRoom, .roomBannedAvatar, .roomAlreadyInRoom] := by
  unfold enterRoom at h
  split at h
  · simp [← Except.error.inj h]
  split at h
  · simp [← Except.error.inj h]
  split at h
  · simp [← Except.error.inj h]
  split at h
  · simp [← Except.error.inj h]
  · exact absurd h (by simp)

theorem enterRoom_error {r : ChatRoom} {avatar : AvatarPtr} {password : U16String}
    {code : ChatResultCode} (h : r.enterRoom avatar password = .error code) : code ≠ .success := by
  rintro rfl
  exact absurd (enterRoom_refused h) (by decide)

theorem kickAvatar_ok {r r' : ChatRoom} {srcAvatarId : UInt32} {destAvatar : AvatarPtr}
    (h : r.kickAvatar srcAvatarId destAvatar = .ok r') : r' = r.leaveRoom destAvatar := by
  unfold kickAvatar at h
  split at h
  · exact absurd h (by simp)
  split at h
  · exact absurd h (by simp)
  · exact (Except.ok.inj h).symm

theorem kickAvatar_isInRoom {r r' : ChatRoom} {srcAvatarId : UInt32} {destAvatar : AvatarPtr}
    (h : r.kickAvatar srcAvatarId destAvatar = .ok r') : r.isInRoom destAvatar.avatarId = true := by
  unfold kickAvatar at h
  split at h
  · exact absurd h (by simp)
  split at h
  · exact absurd h (by simp)
  · rename_i hin
    simpa using hin

theorem kickAvatar_refused {r : ChatRoom} {srcAvatarId : UInt32} {destAvatar : AvatarPtr}
    {code : ChatResultCode} (h : r.kickAvatar srcAvatarId destAvatar = .error code) :
    code ∈ [ChatResultCode.roomNoPrivileges, .roomNotInRoom] := by
  unfold kickAvatar at h
  split at h
  · simp [← Except.error.inj h]
  split at h
  · simp [← Except.error.inj h]
  · exact absurd h (by simp)

theorem kickAvatar_error {r : ChatRoom} {srcAvatarId : UInt32} {destAvatar : AvatarPtr}
    {code : ChatResultCode} (h : r.kickAvatar srcAvatarId destAvatar = .error code) :
    code ≠ .success := by
  rintro rfl
  exact absurd (kickAvatar_refused h) (by decide)

end Members
end ChatRoom
end StationChat
