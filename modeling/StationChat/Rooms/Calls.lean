import StationChat.Lib.Contract
import StationChat.Model.ChatRoomRoles

/-! The calls the room service and its rooms receive, with one description of what each can do. -/
namespace StationChat
open Lib Lib.Action

/-- The six operations that change a role list with a table. -/
inductive RoleOperation where
  | addAdministrator | addModerator | addBanned
  | removeAdministrator | removeModerator | removeBanned
  deriving DecidableEq, Repr

/-- The operations of a room that write no table. -/
inductive RoomOperation where
  | enterRoom (avatar : AvatarPtr) (password : U16String)
  | leaveRoom (avatar : AvatarPtr)
  | kickAvatar (srcAvatarId : UInt32) (destAvatar : AvatarPtr)
  | addInvite (srcAvatarId : UInt32) (invited : AvatarPtr)
  | removeInvite (srcAvatarId : UInt32) (avatarId : UInt32)
  | getNextMessageId
  deriving DecidableEq, Repr

inductive RoomCall where
  | load (baseAddress : U16String)
  | create (creator : Option AvatarPtr) (roomName roomTopic roomPassword : U16String)
      (roomAttributes maxRoomSize : UInt32) (roomAddress : U16String)
  | destroy (room : RoomPtr)
  | role (operation : RoleOperation) (room : RoomPtr) (srcAvatarId : UInt32) (avatar : AvatarPtr)
  | loadRole (table : RoleTable) (room : RoomPtr)
  | operate (operation : RoomOperation) (room : RoomPtr)
  deriving DecidableEq, Repr

namespace RoleOperation

def run : RoleOperation → RoomPtr → UInt32 → AvatarPtr → Serve Unit
  | addAdministrator => StationChat.addAdministrator
  | addModerator => StationChat.addModerator
  | addBanned => StationChat.addBanned
  | removeAdministrator => fun room src avatar => StationChat.removeAdministrator room src avatar.avatarId
  | removeModerator => fun room src avatar => StationChat.removeModerator room src avatar.avatarId
  | removeBanned => fun room src avatar => StationChat.removeBanned room src avatar.avatarId

/-- The privilege and duplicate checks of the operation. -/
def passes (r : ChatRoom) (srcAvatarId avatarId : UInt32) : RoleOperation → Bool
  | addAdministrator => r.isCreator srcAvatarId && !r.isAdministrator avatarId
  | addModerator => r.isCreator srcAvatarId && !r.isModerator avatarId
  | addBanned => r.isModerator srcAvatarId && !r.isBanned avatarId
  | removeAdministrator => r.isCreator srcAvatarId && !r.administrators.isEmpty
  | removeModerator => r.isCreator srcAvatarId && r.isModerator avatarId
  | removeBanned => r.isModerator srcAvatarId && r.isBanned avatarId

def table : RoleOperation → RoleTable
  | addAdministrator | removeAdministrator => .administrator
  | addModerator | removeModerator => .moderator
  | addBanned | removeBanned => .ban

/-- The list after the operation. -/
def changed (r : ChatRoom) (avatar : AvatarPtr) (operation : RoleOperation) : List AvatarPtr :=
  match operation with
  | addAdministrator | addModerator | addBanned => r.list operation.table.list ++ [avatar]
  | removeAdministrator | removeModerator | removeBanned =>
    (r.list operation.table.list).filter (·.avatarId != avatar.avatarId)

/-- The statement of a persistent room. -/
def statement (avatarId roomId : UInt32) : RoleOperation → Statement Unit
  | addAdministrator => .insertRole .administrator avatarId roomId
  | addModerator => .insertRole .moderator avatarId roomId
  | addBanned => .insertRole .ban avatarId roomId
  | removeAdministrator => .deleteRole .administrator avatarId roomId
  | removeModerator => .deleteRole .moderator avatarId roomId
  | removeBanned => .deleteRole .ban avatarId roomId

/-- The rows of the tables after that statement. -/
def tables (db : Database) (avatarId roomId : UInt32) : RoleOperation → Database
  | addAdministrator => db.insertRole .administrator avatarId.toNat roomId.toNat
  | addModerator => db.insertRole .moderator avatarId.toNat roomId.toNat
  | addBanned => db.insertRole .ban avatarId.toNat roomId.toNat
  | removeAdministrator => db.deleteRole .administrator avatarId.toNat roomId.toNat
  | removeModerator => db.deleteRole .moderator avatarId.toNat roomId.toNat
  | removeBanned => db.deleteRole .ban avatarId.toNat roomId.toNat

end RoleOperation

def RoomOperation.run (room : RoomPtr) : RoomOperation → Serve Unit
  | .enterRoom avatar password => changeRoom room (·.enterRoom avatar password)
  | .leaveRoom avatar => writeRoom room (·.leaveRoom avatar)
  | .kickAvatar srcAvatarId destAvatar => changeRoom room (·.kickAvatar srcAvatarId destAvatar)
  | .addInvite srcAvatarId invited => StationChat.addInvite room srcAvatarId invited
  | .removeInvite srcAvatarId avatarId => StationChat.removeInvite room srcAvatarId avatarId
  | .getNextMessageId => writeRoom room fun r => { r with roomMessageId := r.roomMessageId + 1 }

def RoomCall.run : RoomCall → Serve Unit
  | .load baseAddress => loadRoomsFromStorage baseAddress
  | .create creator roomName roomTopic roomPassword roomAttributes maxRoomSize roomAddress => do
    let _ ← createRoom creator roomName roomTopic roomPassword roomAttributes maxRoomSize roomAddress
  | .destroy room => destroyRoom room
  | .role operation room srcAvatarId avatar => operation.run room srcAvatarId avatar
  | .loadRole table room => StationChat.loadRole table room
  | .operate operation room => operation.run room

/-- The C++ exceptions; the rest is undefined behaviour, which nothing follows. -/
def Exn.isException : Exn → Bool
  | .chatResult _ _ | .database | .outOfRange => true
  | _ => false

namespace Server

/-- One call. A call that ends with an exception may be followed by another. -/
def call (s : Server) (c : RoomCall) : Option Server :=
  match c.run s with
  | (.ok _, t) => some t
  | (.error e, t) => if e.isException then some t else none

/-- Runs of calls that are each admitted where they are made. -/
def Calls (admitted : Server → RoomCall → Prop) : Server → Server → Prop := Runs call admitted

theorem call_eq_some {s t : Server} {c : RoomCall} (h : s.call c = some t) :
    ∃ result, c.run s = (result, t) := by
  unfold call at h
  split at h
  · rename_i hrun
    exact ⟨_, Option.some.inj h ▸ hrun⟩
  · rename_i hrun
    split at h
    · exact ⟨_, Option.some.inj h ▸ hrun⟩
    · exact absurd h (by simp)

end Server

section Concrete

/-- Two stored avatars, for the runs on fixed inputs. -/
def Database.twoAvatars : Database :=
  { Database.empty with avatar := [⟨1, 1, [0x61], [0x62], 0⟩, ⟨2, 2, [0x63], [0x62], 0⟩] }

def Server.twoAvatars : Server := Server.start .twoAvatars (fun _ => false) 2 {}

def firstAvatar : AvatarPtr := ⟨0, 1, [0x61], [0x62]⟩

def secondAvatar : AvatarPtr := ⟨1, 2, [0x63], [0x62]⟩

/-- The creation of a persistent room by the first of them. -/
def createPersistent (roomName roomAddress : U16String) : RoomCall :=
  .create (some firstAvatar) roomName [] [] RoomAttribute.persistent.mask 0 roomAddress

end Concrete

section Roles
variable {s : Server} {room : RoomPtr} {r : ChatRoom}

theorem changeRoom_run (hr : s.rooms[room]? = some r) (f : ChatRoom → Except ChatResultCode ChatRoom) :
    changeRoom room f s = match f r with
      | .ok r' => (.ok (), s.updateRoom room fun _ => r')
      | .error code => (.error (.chatResult code []), s) := by
  rw [changeRoom, bind_ok (readRoom_of_getElem? hr)]
  cases f r with
  | ok r' => exact writeRoom_of_getElem? hr _
  | error code => rfl

/-- The write of a role list: first the memory, then the table through the service pointer. -/
theorem storeRole_run (hr : s.rooms[room]? = some r) (l : RoomList) (as : List AvatarPtr)
    (write : UInt32 → Serve Unit) :
    storeRole room l as (some write) s =
      if r.isPersistent then
        match r.roomService with
        | .owner => write r.roomId (s.updateRoom room (·.setList l as))
        | .unset => (.error .unsetService, s.updateRoom room (·.setList l as))
      else (.ok (), s.updateRoom room (·.setList l as)) := by
  have hget : (s.updateRoom room (·.setList l as)).rooms[room]? = some (r.setList l as) :=
    getElem?_updateRoom hr
  have hframe := r.setList_frame l as
  have hpersistent : (r.setList l as).isPersistent = r.isPersistent := by
    rw [ChatRoom.isPersistent, ChatRoom.hasAttribute, hframe.2.2.2.2.2.1]
    rfl
  rw [storeRole, bind_ok (writeRoom_of_getElem? hr _), bind_ok (readRoom_of_getElem? hget)]
  simp only [runIf, hpersistent, hframe.2.1]
  by_cases hp : r.isPersistent = true
  · rw [if_pos hp, if_pos hp, throughService, bind_ok (readRoom_of_getElem? hget)]
    simp only [hframe.1]
    cases r.roomService <;> rfl
  · rw [if_neg hp, if_neg hp]
    rfl

/-- A list without a table is written in memory only. -/
theorem storeRole_none_run (hr : s.rooms[room]? = some r) (l : RoomList) (as : List AvatarPtr) :
    storeRole room l as none s = (.ok (), s.updateRoom room (·.setList l as)) := by
  rw [storeRole, bind_ok (writeRoom_of_getElem? hr _), bind_ok (readRoom_of_getElem? (getElem?_updateRoom hr))]
  rfl

/-- How an operation whose checks fail ends. Two of them do nothing instead of failing. -/
def RoleOperation.refusal (r : ChatRoom) (srcAvatarId : UInt32) : RoleOperation → Except Exn Unit
  | addAdministrator | removeAdministrator =>
    if r.isCreator srcAvatarId then .ok () else .error (.chatResult .roomNoPrivileges [])
  | addModerator =>
    .error (.chatResult (if r.isCreator srcAvatarId then .roomDuplicateModerator
      else .roomNoPrivileges) [])
  | addBanned =>
    .error (.chatResult (if r.isModerator srcAvatarId then .roomDuplicateBan
      else .roomNoPrivileges) [])
  | removeModerator =>
    .error (.chatResult (if r.isCreator srcAvatarId then .roomDestAvatarNotModerator
      else .roomNoPrivileges) [])
  | removeBanned =>
    .error (.chatResult (if r.isModerator srcAvatarId then .roomDestAvatarNotBanned
      else .roomNoPrivileges) [])

theorem addToList_run (hr : s.rooms[room]? = some r) (l : RoomList)
    (privileged : ChatRoom → Bool) (duplicate : ChatResultCode)
    (persist : Option (UInt32 → UInt32 → Serve Unit)) (avatar : AvatarPtr) :
    addToList l privileged duplicate persist room avatar s =
      if privileged r && !r.inList l avatar.avatarId then
        storeRole room l (r.list l ++ [avatar]) (persist.map (· avatar.avatarId)) s
      else (.error (.chatResult (if privileged r then duplicate else .roomNoPrivileges) []), s) := by
  rw [addToList, bind_ok (readRoom_of_getElem? hr)]
  cases privileged r <;> cases r.inList l avatar.avatarId <;> rfl

/-- An avatar is only in a list that is not empty. -/
theorem removeFromList_run (hr : s.rooms[room]? = some r) (l : RoomList)
    (privileged : ChatRoom → Bool) (absent : ChatResultCode)
    (delete : Option (UInt32 → UInt32 → Serve Unit)) (avatarId : UInt32) :
    removeFromList l privileged absent delete room avatarId s =
      if privileged r && r.inList l avatarId then
        storeRole room l ((r.list l).filter (·.avatarId != avatarId)) (delete.map (· avatarId)) s
      else (.error (.chatResult (if privileged r then absent else .roomNoPrivileges) []), s) := by
  have hempty : ((r.list l).isEmpty || !r.inList l avatarId) = !r.inList l avatarId := by
    cases h : r.list l <;> simp [ChatRoom.inList, h]
  rw [removeFromList, bind_ok (readRoom_of_getElem? hr)]
  simp only [hempty]
  cases privileged r <;> cases r.inList l avatarId <;> rfl

/-- What a role operation does to a room that is there. -/
theorem RoleOperation.run_eq (operation : RoleOperation) (hr : s.rooms[room]? = some r)
    (srcAvatarId : UInt32) (avatar : AvatarPtr) :
    operation.run room srcAvatarId avatar s =
      if operation.passes r srcAvatarId avatar.avatarId then
        storeRole room operation.table.list (operation.changed r avatar)
          (some fun roomId => execute (operation.statement avatar.avatarId roomId)) s
      else (operation.refusal r srcAvatarId, s) := by
  cases operation with
  | addAdministrator =>
    change StationChat.addAdministrator room srcAvatarId avatar s = _
    rw [StationChat.addAdministrator, bind_ok (readRoom_of_getElem? hr)]
    simp only [passes, refusal]
    by_cases hc : r.isCreator srcAvatarId = true <;>
      by_cases ha : r.isAdministrator avatar.avatarId = true <;> simp only [hc, ha] <;> rfl
  | removeAdministrator =>
    change StationChat.removeAdministrator room srcAvatarId avatar.avatarId s = _
    rw [StationChat.removeAdministrator, bind_ok (readRoom_of_getElem? hr)]
    simp only [passes, refusal]
    by_cases hc : r.isCreator srcAvatarId = true <;>
      by_cases ha : r.administrators.isEmpty = true <;> simp only [hc, ha] <;> rfl
  | addModerator => exact addToList_run hr _ _ _ _ _
  | addBanned => exact addToList_run hr _ _ _ _ _
  | removeModerator => exact removeFromList_run hr _ _ _ _ _
  | removeBanned => exact removeFromList_run hr _ _ _ _ _

theorem RoleOperation.statement_run (operation : RoleOperation) (avatarId roomId : UInt32)
    (db : Database) : db.run (operation.statement avatarId roomId) =
      some ((), operation.tables db avatarId roomId) := by
  cases operation <;> rfl

theorem RoleOperation.statement_roleKey (operation : RoleOperation) (avatarId roomId : UInt32) :
    (operation.statement avatarId roomId).roleKey = some (operation.table, roomId) := by
  cases operation <;> rfl

/-- Only the three role tables change. -/
theorem RoleOperation.tables_rest (operation : RoleOperation) (avatarId roomId : UInt32)
    (db : Database) : operation.tables db avatarId roomId =
      { db with role := (operation.tables db avatarId roomId).role } := by
  have hinsert : ∀ table, db.insertRole table avatarId.toNat roomId.toNat =
      { db with role := (db.insertRole table avatarId.toNat roomId.toNat).role } := by
    intro table
    unfold Database.insertRole
    split <;> rfl
  cases operation with
  | addAdministrator | addModerator | addBanned => exact hinsert _
  | removeAdministrator | removeModerator | removeBanned => rfl

end Roles
end StationChat
