import StationChat.Model.ChatAvatarService

/-! The room service: the rooms in memory, their rows, and the role operations of one room that
write through the service. -/
namespace StationChat
open Lib Lib.Action

def Server.roomExists (s : Server) (roomAddress : U16String) : Bool :=
  s.rooms.any fun room => roomAddress == room.roomAddress

/-- `room->dbId_` is an `int`. -/
def toInt32 (n : UInt32) : Int := n.toInt32.toInt

theorem toInt32_ofNat {n : Nat} (h : n < 2 ^ 31) : toInt32 (UInt32.ofNat n) = n := by
  have hbits : (UInt32.ofNat n).toInt32.toBitVec = BitVec.ofNat 32 n := rfl
  have hsmall : n % 2 ^ 32 = n := Nat.mod_eq_of_lt (by omega)
  rw [toInt32, Int32.toInt, hbits, BitVec.toInt, BitVec.toNat_ofNat, hsmall, if_pos (by omega)]

theorem roomExists_eq_false {s : Server} {roomAddress : U16String} :
    s.roomExists roomAddress = false ↔ ∀ r ∈ s.rooms, r.roomAddress ≠ roomAddress := by
  rw [Server.roomExists, List.any_eq_false]
  refine forall₂_congr fun r _ => ?_
  rw [beq_iff_eq]
  exact not_congr eq_comm

/-- One row of `LoadRoomsFromStorage`, field by field into a default-constructed room. The id is
taken before the columns are read, and `roomService_` is never assigned. -/
def loadRoomRow (row : RoomRow) : Serve Unit := do
  let roomId := (← get).nextRoomId
  modify fun s => { s with nextRoomId := s.nextRoomId + 1 }
  let dbId ← columnInt row.id
  let creatorId ← columnInt row.creatorId
  let roomAttributes ← columnInt row.roomAttributes
  let maxRoomSize ← columnInt row.roomMaxSize
  let roomMessageId ← columnInt row.roomMessageId
  let createTime ← columnInt row.createdAt
  let nodeLevel ← columnInt row.nodeLevel
  let room : ChatRoom := {
    roomId := roomId
    dbId := dbId.toNat
    creatorId := creatorId
    creatorName := toWideString row.creatorName
    creatorAddress := toWideString row.creatorAddress
    roomName := toWideString row.roomName
    roomTopic := toWideString row.roomTopic
    roomPassword := toWideString row.roomPassword
    roomPrefix := toWideString row.roomPrefix
    roomAddress := toWideString row.roomAddress
    roomAttributes := roomAttributes
    maxRoomSize := maxRoomSize
    roomMessageId := roomMessageId
    createTime := createTime
    nodeLevel := nodeLevel }
  unless (← get).roomExists room.roomAddress do
    modify fun s => { s with rooms := s.rooms ++ [room] }

def loadRoomsFromStorage (baseAddress : U16String) : Serve Unit := do
  modify fun s => { s with rooms := [] }
  let rows ← execute (.selectRooms (fromWideString baseAddress))
  forM rows loadRoomRow

/-- The columns `PersistNewRoom` binds. -/
def roomColumns (room : ChatRoom) : RoomColumns where
  creatorId := room.creatorId.toNat
  creatorName := fromWideString room.creatorName
  creatorAddress := fromWideString room.creatorAddress
  roomName := fromWideString room.roomName
  roomTopic := fromWideString room.roomTopic
  roomPassword := fromWideString room.roomPassword
  roomPrefix := fromWideString room.roomPrefix
  roomAddress := fromWideString room.roomAddress
  roomAttributes := room.roomAttributes.toNat
  roomMaxSize := room.maxRoomSize.toNat
  roomMessageId := room.roomMessageId.toNat
  createdAt := room.createTime.toNat
  nodeLevel := room.nodeLevel.toNat

/-- A failed insert becomes a result code here. -/
def persistNewRoom (room : RoomPtr) : Serve ChatResultCode :=
  tryCatch
    (do
      let r ← readRoom room
      let id ← execute (.insertRoom (roomColumns r))
      writeRoom room fun r => { r with dbId := toInt32 (UInt32.ofNat id) }
      pure .success)
    fun
      | .database => pure .dbFail
      | e => throw e

/-- The constructor's `srcAddress` is not used. The result of `PersistNewRoom` is dropped. -/
def createRoom (creator : Option AvatarPtr) (roomName roomTopic roomPassword : U16String)
    (roomAttributes maxRoomSize : UInt32) (roomAddress : U16String) : Serve RoomPtr := do
  if (← get).roomExists (fullAddress roomAddress roomName) then
    throw (.chatResult .roomAlreadyExists (literal "ChatRoom already exists"))
  else
    let roomId := (← get).nextRoomId
    modify fun s => { s with nextRoomId := s.nextRoomId + 1 }
    let creator ← deref creator
    let room := ChatRoom.make roomId creator roomName roomTopic roomPassword roomAttributes
      maxRoomSize roomAddress
    let roomPtr : RoomPtr := (← get).rooms.length
    modify fun s => { s with rooms := s.rooms ++ [room] }
    runIf room.isPersistent (do let _ ← persistNewRoom roomPtr)
    pure roomPtr

/-- The pass of `std::remove_if` over the rooms still to visit. A room that stays is moved to the slot
after those kept so far. The move onto the slot of `target` destroys that room, and the predicate
reads its id again for every further room. -/
def erasePass (roomId : UInt32) (target : RoomPtr) (kept : List ChatRoom) (visited : Nat)
    (destroyed : Bool) : List ChatRoom → Option (List ChatRoom)
  | [] => some kept
  | r :: rest =>
    if destroyed then none
    else if r.roomId == roomId then erasePass roomId target kept (visited + 1) false rest
    else
      let moved := kept.length < visited
      erasePass roomId target (kept ++ [r]) (visited + 1) (moved && kept.length == target) rest

/-- The rooms that carry the id of `room` leave `rooms_`. -/
def destroyRoom (room : RoomPtr) : Serve Unit := do
  let r ← readRoom room
  runIf r.isPersistent (execute (.deleteRoom r.dbId))
  match erasePass r.roomId room [] 0 false (← get).rooms with
  | some rooms => modify fun s => { s with rooms }
  | none => throw .freedRoom

def getRoom (roomAddress : U16String) : Serve (Option RoomPtr) := do
  pure ((← get).rooms.findIdx? fun room => roomAddress == room.roomAddress)

/-- Positions of the rooms that satisfy a predicate, in order. -/
def Server.roomsWhere (s : Server) (p : ChatRoom → Bool) : List RoomPtr :=
  s.rooms.findIdxs p

/-- `GetRoomSummaries`: the filter argument is not used. -/
def getRoomSummaries (startNode : U16String) : Serve (List RoomPtr) := do
  pure ((← get).roomsWhere fun room => startNode.isPrefixOf room.roomAddress && !room.isPrivate)

def getJoinedRooms (avatar : Option AvatarPtr) : Serve (List RoomPtr) := do
  let rooms := (← get).rooms
  if rooms.isEmpty then pure []
  else
    let avatar ← deref avatar
    pure ((← get).roomsWhere (·.isInRoom avatar.avatarId))

section ErasePass
variable {roomId : UInt32} {target : RoomPtr} {kept rooms : List ChatRoom} {visited : Nat}

/-- A pass that ends keeps the rooms of other ids, in order. -/
theorem erasePass_eq_some {destroyed : Bool} {left : List ChatRoom}
    (h : erasePass roomId target kept visited destroyed rooms = some left) :
    left = kept ++ rooms.filter (·.roomId != roomId) := by
  induction rooms generalizing kept visited destroyed with
  | nil => simpa [erasePass] using h.symm
  | cons r rest ih =>
    rw [erasePass] at h
    split at h
    · exact absurd h (by simp)
    split at h
    · rename_i heq
      rw [ih h, List.filter_cons_of_neg (by simpa using heq)]
    · rename_i hne
      rw [ih h, List.filter_cons_of_pos (by simpa using hne), List.append_assoc]
      rfl

/-- With at most one room behind the target, no room is visited after the target is destroyed. -/
theorem erasePass_ends (roomId : UInt32) (target : RoomPtr) (kept rooms : List ChatRoom)
    (hkept : kept.length ≤ visited) (h : visited + rooms.length ≤ target + 2) :
    ∃ left, erasePass roomId target kept visited false rooms = some left := by
  induction rooms generalizing kept visited with
  | nil => exact ⟨kept, rfl⟩
  | cons r rest ih =>
    rw [List.length_cons] at h
    rw [erasePass, if_neg (by simp)]
    split
    · exact ih _ (by omega) (by omega)
    · by_cases hlast : kept.length < visited ∧ kept.length = target
      · have hrest : rest = [] := List.eq_nil_of_length_eq_zero (by omega)
        exact ⟨kept ++ [r], by rw [hrest]; rfl⟩
      · have hmoved : (decide (kept.length < visited) && kept.length == target) = false := by
          simpa using hlast
        simp only [hmoved]
        exact ih _ (by simp; omega) (by omega)

end ErasePass

section RoleTables
variable (table : RoleTable)

/-- `PersistAdministrator`, `PersistModerator`, `PersistBanned`. -/
def persistRole (avatarId roomId : UInt32) : Serve Unit :=
  execute (.insertRole table avatarId roomId)

def deleteRole (avatarId roomId : UInt32) : Serve Unit :=
  execute (.deleteRole table avatarId roomId)

def RoleTable.list : RoleTable → RoomList
  | .administrator => .administrators
  | .moderator => .moderators
  | .ban => .banned

/-- `LoadAdministrators`, `LoadModerators`, `LoadBanned`. Nothing calls them. A null result would
enter the list and be followed by its next reader; here it is followed at once. -/
def loadRole (room : RoomPtr) : Serve Unit := do
  let r ← readRoom room
  let rows ← execute (.selectRole table r.roomId)
  forM rows fun row => do
    let avatarId ← columnInt row.avatarId
    let avatar ← deref (← getAvatarById avatarId)
    writeRoom room fun r => r.setList table.list (r.list table.list ++ [avatar])

end RoleTables

def persistModerator := persistRole .moderator
def deleteModerator := deleteRole .moderator
def loadModerators := loadRole .moderator
def persistAdministrator := persistRole .administrator
def deleteAdministrator := deleteRole .administrator
def loadAdministrators := loadRole .administrator
def persistBanned := persistRole .ban
def deleteBanned := deleteRole .ban
def loadBanned := loadRole .ban

end StationChat
