import StationChat.Lib.Like
import StationChat.Model.Text
import Mathlib.Logic.Function.Basic

/-! The tables of the baseline migration and the effect of each SQL statement the program sends.
Keys and foreign keys are enforced; a statement the server rejects has no effect. Rows come in the order of their
insertion. The character comparison of LIKE is the collation's; `=` and the keys compare bytes. -/
namespace StationChat
open Lib

structure AvatarRow where
  id : Nat
  userId : Nat
  name : StdString
  address : StdString
  attributes : Nat
  deriving DecidableEq, Repr

/-- The columns of `room` that an insert binds. -/
structure RoomColumns where
  creatorId : Nat
  creatorName : StdString
  creatorAddress : StdString
  roomName : StdString
  roomTopic : StdString
  roomPassword : StdString
  roomPrefix : StdString
  roomAddress : StdString
  roomAttributes : Nat
  roomMaxSize : Nat
  roomMessageId : Nat
  createdAt : Nat
  nodeLevel : Nat
  deriving DecidableEq, Repr

structure RoomRow extends RoomColumns where
  id : Nat
  deriving DecidableEq, Repr

/-- A row of `room_administrator`, `room_moderator` or `room_ban`. -/
structure RoleRow where
  avatarId : Nat
  roomId : Nat
  deriving DecidableEq, Repr

inductive RoleTable where
  | administrator | moderator | ban
  deriving DecidableEq, Repr

structure FriendRow where
  avatarId : Nat
  friendAvatarId : Nat
  comment : StdString
  deriving DecidableEq, Repr

structure IgnoreRow where
  avatarId : Nat
  ignoreAvatarId : Nat
  deriving DecidableEq, Repr

/-- The columns of `persistent_message` that an insert binds. -/
structure MessageColumns where
  avatarId : Nat
  fromName : StdString
  fromAddress : StdString
  subject : StdString
  sentTime : Nat
  status : Nat
  folder : StdString
  category : StdString
  message : StdString
  oob : List UInt8
  deriving DecidableEq, Repr

structure MessageRow extends MessageColumns where
  id : Nat
  deriving DecidableEq, Repr

/-- The tables, with the next AUTO_INCREMENT value of each table that has one, and the collation of `room_address`. -/
structure Database where
  avatar : List AvatarRow
  room : List RoomRow
  role : RoleTable → List RoleRow
  persistentMessage : List MessageRow
  friend : List FriendRow
  ignore : List IgnoreRow
  nextAvatarId : Nat
  nextRoomId : Nat
  nextMessageId : Nat
  collation : Collation UInt8

namespace Database

/-- The tables the migration creates. -/
def empty : Database := ⟨[], [], fun _ => [], [], [], [], 1, 1, 1, .binary⟩

def HasAvatar (db : Database) (id : Nat) : Prop := ∃ row ∈ db.avatar, row.id = id

def HasRoom (db : Database) (id : Nat) : Prop := ∃ row ∈ db.room, row.id = id

instance (db : Database) (id : Nat) : Decidable (db.HasAvatar id) :=
  inferInstanceAs (Decidable (∃ row ∈ db.avatar, row.id = id))

instance (db : Database) (id : Nat) : Decidable (db.HasRoom id) :=
  inferInstanceAs (Decidable (∃ row ∈ db.room, row.id = id))

end Database

/-- A statement with its bound values, indexed by what its execution yields. -/
inductive Statement : Type → Type where
  | selectAvatarByName (name address : StdString) : Statement (List AvatarRow)
  | selectAvatarById (avatarId : UInt32) : Statement (List AvatarRow)
  | insertAvatar (userId : UInt32) (name address : StdString) (attributes : UInt32) : Statement Nat
  | updateAvatar (userId : UInt32) (name address : StdString) (attributes avatarId : UInt32) : Statement Unit
  | deleteAvatar (avatarId : UInt32) : Statement Unit
  | selectFriends (avatarId : UInt32) : Statement (List FriendRow)
  | insertFriend (avatarId friendAvatarId : UInt32) (comment : StdString) : Statement Unit
  | updateFriend (avatarId friendAvatarId : UInt32) (comment : StdString) : Statement Unit
  | deleteFriend (avatarId friendAvatarId : UInt32) : Statement Unit
  | selectIgnored (avatarId : UInt32) : Statement (List IgnoreRow)
  | insertIgnore (avatarId ignoreAvatarId : UInt32) : Statement Unit
  | deleteIgnore (avatarId ignoreAvatarId : UInt32) : Statement Unit
  | selectRooms (baseAddress : StdString) : Statement (List RoomRow)
  | insertRoom (columns : RoomColumns) : Statement Nat
  | deleteRoom (id : Int) : Statement Unit
  | selectRole (table : RoleTable) (roomId : UInt32) : Statement (List RoleRow)
  | insertRole (table : RoleTable) (avatarId roomId : UInt32) : Statement Unit
  | deleteRole (table : RoleTable) (avatarId roomId : UInt32) : Statement Unit
  | insertMessage (columns : MessageColumns) : Statement Nat
  | selectHeaders (avatarId : UInt32) : Statement (List MessageRow)
  | selectMessage (messageId avatarId : UInt32) : Statement (List MessageRow)
  | updateStatus (status messageId avatarId : UInt32) : Statement Unit
  | bulkUpdateStatus (status avatarId : UInt32) (category : StdString) : Statement Unit

/-- The `room_id` a statement on a role table binds. -/
def Statement.roleKey {α : Type} : Statement α → Option (RoleTable × UInt32)
  | .selectRole table roomId => some (table, roomId)
  | .insertRole table _ roomId => some (table, roomId)
  | .deleteRole table _ roomId => some (table, roomId)
  | _ => none

/-- `%`, `_` and the backslash. -/
def sqlAlphabet : LikeAlphabet UInt8 := ⟨0x25, 0x5F, 0x5C⟩

/-- `room_address LIKE @baseAddress||'%'`. -/
def addressLike (collation : Collation UInt8) (baseAddress address : StdString) : Bool :=
  like collation sqlAlphabet (baseAddress ++ [sqlAlphabet.percent]) address

namespace Database

/-- `INSERT INTO avatar`: the key `uq_avatar_name_address` must stay unique. -/
def insertAvatar (db : Database) (userId : Nat) (name address : StdString) (attributes : Nat) :
    Option (Nat × Database) :=
  if ∃ row ∈ db.avatar, row.name = name ∧ row.address = address then none
  else some (db.nextAvatarId, { db with
    avatar := db.avatar ++ [⟨db.nextAvatarId, userId, name, address, attributes⟩]
    nextAvatarId := db.nextAvatarId + 1 })

def updateAvatar (db : Database) (userId : Nat) (name address : StdString) (attributes id : Nat) :
    Option Database :=
  if ∃ row ∈ db.avatar, row.id ≠ id ∧ row.name = name ∧ row.address = address then none
  else some { db with avatar := db.avatar.map fun row =>
    if row.id = id then ⟨row.id, userId, name, address, attributes⟩ else row }

/-- `DELETE FROM avatar`: restricted by `fk_room_creator`, cascading everywhere else. -/
def deleteAvatar (db : Database) (id : Nat) : Option Database :=
  if ∃ row ∈ db.room, row.creatorId = id then none
  else some { db with
    avatar := db.avatar.filter (·.id ≠ id)
    role := fun table => (db.role table).filter (·.avatarId ≠ id)
    persistentMessage := db.persistentMessage.filter (·.avatarId ≠ id)
    friend := db.friend.filter fun row => row.avatarId ≠ id ∧ row.friendAvatarId ≠ id
    ignore := db.ignore.filter fun row => row.avatarId ≠ id ∧ row.ignoreAvatarId ≠ id }

def insertFriend (db : Database) (avatarId friendAvatarId : Nat) (comment : StdString) :
    Option Database :=
  if (∃ row ∈ db.friend, row.avatarId = avatarId ∧ row.friendAvatarId = friendAvatarId) ∨
      ¬ db.HasAvatar avatarId ∨ ¬ db.HasAvatar friendAvatarId then none
  else some { db with friend := db.friend ++ [⟨avatarId, friendAvatarId, comment⟩] }

def insertIgnore (db : Database) (avatarId ignoreAvatarId : Nat) : Option Database :=
  if (∃ row ∈ db.ignore, row.avatarId = avatarId ∧ row.ignoreAvatarId = ignoreAvatarId) ∨
      ¬ db.HasAvatar avatarId ∨ ¬ db.HasAvatar ignoreAvatarId then none
  else some { db with ignore := db.ignore ++ [⟨avatarId, ignoreAvatarId⟩] }

/-- `INSERT INTO room`: unique by name and address, with a stored creator. -/
def insertRoom (db : Database) (columns : RoomColumns) : Option (Nat × Database) :=
  if (∃ row ∈ db.room, row.roomName = columns.roomName ∧ row.roomAddress = columns.roomAddress) ∨
      ¬ db.HasAvatar columns.creatorId then none
  else some (db.nextRoomId, { db with
    room := db.room ++ [{ columns with id := db.nextRoomId }]
    nextRoomId := db.nextRoomId + 1 })

/-- `DELETE FROM room WHERE id = @id`, cascading to the role tables. -/
def deleteRoom (db : Database) (id : Int) : Database :=
  { db with
    room := db.room.filter fun row => (row.id : Int) ≠ id
    role := fun table => (db.role table).filter fun row => (row.roomId : Int) ≠ id }

/-- `INSERT IGNORE`: a row that breaks a key or a foreign key is dropped without an error. -/
def insertRole (db : Database) (table : RoleTable) (avatarId roomId : Nat) : Database :=
  if ⟨avatarId, roomId⟩ ∈ db.role table ∨ ¬ db.HasAvatar avatarId ∨ ¬ db.HasRoom roomId then db
  else { db with role := Function.update db.role table (db.role table ++ [⟨avatarId, roomId⟩]) }

def deleteRole (db : Database) (table : RoleTable) (avatarId roomId : Nat) : Database :=
  { db with role := Function.update db.role table ((db.role table).filter (· ≠ ⟨avatarId, roomId⟩)) }

def insertMessage (db : Database) (columns : MessageColumns) : Option (Nat × Database) :=
  if ¬ db.HasAvatar columns.avatarId then none
  else some (db.nextMessageId, { db with
    persistentMessage := db.persistentMessage ++ [{ columns with id := db.nextMessageId }]
    nextMessageId := db.nextMessageId + 1 })

def updateMessages (db : Database) (which : MessageRow → Bool) (status : Nat) : Database :=
  { db with persistentMessage := db.persistentMessage.map fun row =>
      if which row then { row with status := status } else row }

/-- What the server answers: rows or the inserted id, with the tables afterwards. -/
def run (db : Database) : {α : Type} → Statement α → Option (α × Database)
  | _, .selectAvatarByName name address =>
    some (db.avatar.filter fun row => row.name = name ∧ row.address = address, db)
  | _, .selectAvatarById avatarId => some (db.avatar.filter (·.id = avatarId.toNat), db)
  | _, .insertAvatar userId name address attributes =>
    db.insertAvatar userId.toNat name address attributes.toNat
  | _, .updateAvatar userId name address attributes avatarId =>
    (db.updateAvatar userId.toNat name address attributes.toNat avatarId.toNat).map ((), ·)
  | _, .deleteAvatar avatarId => (db.deleteAvatar avatarId.toNat).map ((), ·)
  | _, .selectFriends avatarId => some (db.friend.filter (·.avatarId = avatarId.toNat), db)
  | _, .insertFriend avatarId friendAvatarId comment =>
    (db.insertFriend avatarId.toNat friendAvatarId.toNat comment).map ((), ·)
  | _, .updateFriend avatarId friendAvatarId comment =>
    some ((), { db with friend := db.friend.map fun row =>
      if row.avatarId = avatarId.toNat ∧ row.friendAvatarId = friendAvatarId.toNat
      then { row with comment } else row })
  | _, .deleteFriend avatarId friendAvatarId =>
    some ((), { db with friend := db.friend.filter fun row =>
      ¬ (row.avatarId = avatarId.toNat ∧ row.friendAvatarId = friendAvatarId.toNat) })
  | _, .selectIgnored avatarId => some (db.ignore.filter (·.avatarId = avatarId.toNat), db)
  | _, .insertIgnore avatarId ignoreAvatarId =>
    (db.insertIgnore avatarId.toNat ignoreAvatarId.toNat).map ((), ·)
  | _, .deleteIgnore avatarId ignoreAvatarId =>
    some ((), { db with ignore := db.ignore.filter fun row =>
      ¬ (row.avatarId = avatarId.toNat ∧ row.ignoreAvatarId = ignoreAvatarId.toNat) })
  | _, .selectRooms baseAddress =>
    some (db.room.filter fun row => addressLike db.collation baseAddress row.roomAddress, db)
  | _, .insertRoom columns => db.insertRoom columns
  | _, .deleteRoom id => some ((), db.deleteRoom id)
  | _, .selectRole table roomId => some ((db.role table).filter (·.roomId = roomId.toNat), db)
  | _, .insertRole table avatarId roomId => some ((), db.insertRole table avatarId.toNat roomId.toNat)
  | _, .deleteRole table avatarId roomId => some ((), db.deleteRole table avatarId.toNat roomId.toNat)
  | _, .insertMessage columns => db.insertMessage columns
  | _, .selectHeaders avatarId =>
    some (db.persistentMessage.filter fun row =>
      row.avatarId = avatarId.toNat ∧ row.status ∈ [1, 2, 3], db)
  | _, .selectMessage messageId avatarId =>
    some (db.persistentMessage.filter fun row =>
      row.id = messageId.toNat ∧ row.avatarId = avatarId.toNat, db)
  | _, .updateStatus status messageId avatarId =>
    some ((), db.updateMessages
      (fun row => row.id = messageId.toNat ∧ row.avatarId = avatarId.toNat) status.toNat)
  | _, .bulkUpdateStatus status avatarId category =>
    some ((), db.updateMessages
      (fun row => row.avatarId = avatarId.toNat ∧ row.category = category) status.toNat)

end Database
end StationChat
