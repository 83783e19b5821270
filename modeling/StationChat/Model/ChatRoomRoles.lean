import StationChat.Model.ChatRoomService

/-! The operations of `ChatRoom` on a room of the server. A persistent room writes each change of a
role list through `roomService_`, and names itself there by `roomId_`. -/
namespace StationChat
open Lib Lib.Action

/-- A call through the `roomService_` pointer of the room. -/
def throughService (room : RoomPtr) (call : Serve Unit) : Serve Unit := do
  match (← readRoom room).roomService with
  | .owner => call
  | .unset => throw .unsetService

/-- The last step of a role operation: the list is replaced, and the change of a persistent room is
written when the list has a table. -/
def storeRole (room : RoomPtr) (l : RoomList) (as : List AvatarPtr)
    (call : Option (UInt32 → Serve Unit)) : Serve Unit := do
  writeRoom room (·.setList l as)
  let r ← readRoom room
  match call with
  | some write => runIf r.isPersistent (throughService room (write r.roomId))
  | none => pure ()

/-- `AddModerator`, `AddBanned`, `AddInvite`. -/
def addToList (l : RoomList) (privileged : ChatRoom → Bool) (duplicate : ChatResultCode)
    (persist : Option (UInt32 → UInt32 → Serve Unit)) (room : RoomPtr) (avatar : AvatarPtr) :
    Serve Unit := do
  let r ← readRoom room
  if !privileged r then throw (.chatResult .roomNoPrivileges [])
  else if r.inList l avatar.avatarId then throw (.chatResult duplicate [])
  else storeRole room l (r.list l ++ [avatar]) (persist.map (· avatar.avatarId))

/-- `RemoveModerator`, `RemoveBanned`, `RemoveInvite`. -/
def removeFromList (l : RoomList) (privileged : ChatRoom → Bool) (absent : ChatResultCode)
    (delete : Option (UInt32 → UInt32 → Serve Unit)) (room : RoomPtr) (avatarId : UInt32) :
    Serve Unit := do
  let r ← readRoom room
  if !privileged r then throw (.chatResult .roomNoPrivileges [])
  else if (r.list l).isEmpty || !r.inList l avatarId then throw (.chatResult absent [])
  else storeRole room l ((r.list l).filter (·.avatarId != avatarId)) (delete.map (· avatarId))

section Operations
variable (room : RoomPtr) (srcAvatarId : UInt32)

/-- An administrator that is there already is left alone without an error. -/
def addAdministrator (administrator : AvatarPtr) : Serve Unit := do
  let r ← readRoom room
  if !r.isCreator srcAvatarId then throw (.chatResult .roomNoPrivileges [])
  else if r.isAdministrator administrator.avatarId then pure ()
  else
    storeRole room .administrators (r.administrators ++ [administrator])
      (some (persistAdministrator administrator.avatarId))

def addModerator (moderator : AvatarPtr) : Serve Unit :=
  addToList .moderators (·.isCreator srcAvatarId) .roomDuplicateModerator (some persistModerator)
    room moderator

def addBanned (banned : AvatarPtr) : Serve Unit :=
  addToList .banned (·.isModerator srcAvatarId) .roomDuplicateBan (some persistBanned) room banned

def addInvite (invited : AvatarPtr) : Serve Unit :=
  addToList .invited (·.isModerator srcAvatarId) .roomDuplicateInvite none room invited

/-- Only an empty list is left alone; whether the avatar is in it does not matter. -/
def removeAdministrator (avatarId : UInt32) : Serve Unit := do
  let r ← readRoom room
  if !r.isCreator srcAvatarId then throw (.chatResult .roomNoPrivileges [])
  else if r.administrators.isEmpty then pure ()
  else
    storeRole room .administrators (r.administrators.filter (·.avatarId != avatarId))
      (some (deleteAdministrator avatarId))

def removeModerator (avatarId : UInt32) : Serve Unit :=
  removeFromList .moderators (·.isCreator srcAvatarId) .roomDestAvatarNotModerator
    (some deleteModerator) room avatarId

def removeBanned (avatarId : UInt32) : Serve Unit :=
  removeFromList .banned (·.isModerator srcAvatarId) .roomDestAvatarNotBanned (some deleteBanned)
    room avatarId

def removeInvite (avatarId : UInt32) : Serve Unit :=
  removeFromList .invited (·.isModerator srcAvatarId) .roomDestAvatarNotInvited none room avatarId

end Operations

/-- An operation of the room that reaches no database. -/
def changeRoom (room : RoomPtr) (f : ChatRoom → Except ChatResultCode ChatRoom) : Serve Unit := do
  match f (← readRoom room) with
  | .ok r => writeRoom room fun _ => r
  | .error code => throw (.chatResult code [])

end StationChat
