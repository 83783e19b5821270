import StationChat.Rooms.Frame

/-! Loading, creating and destroying rooms: the state each call ends in. -/
namespace StationChat
open Lib Lib.Action

/-- The room that `LoadRoomsFromStorage` builds from a readable row. -/
def storedRoom (roomId : UInt32) (row : RoomRow) : ChatRoom where
  roomId := roomId
  dbId := row.id
  creatorId := UInt32.ofNat row.creatorId
  creatorName := toWideString row.creatorName
  creatorAddress := toWideString row.creatorAddress
  roomName := toWideString row.roomName
  roomTopic := toWideString row.roomTopic
  roomPassword := toWideString row.roomPassword
  roomPrefix := toWideString row.roomPrefix
  roomAddress := toWideString row.roomAddress
  roomAttributes := UInt32.ofNat row.roomAttributes
  maxRoomSize := UInt32.ofNat row.roomMaxSize
  roomMessageId := UInt32.ofNat row.roomMessageId
  createTime := UInt32.ofNat row.createdAt
  nodeLevel := UInt32.ofNat row.nodeLevel

namespace Server

/-- An id is taken for every row, also for one that adds no room. -/
def takeRoomId (s : Server) : Server := { s with nextRoomId := s.nextRoomId + 1 }

def loadRow (s : Server) (row : RoomRow) : Server :=
  if s.roomExists (toWideString row.roomAddress) then s.takeRoomId
  else { s.takeRoomId with rooms := s.rooms ++ [storedRoom s.nextRoomId row] }

def loadRows (s : Server) (rows : List RoomRow) : Server := rows.foldl loadRow s

/-- The rows a load selects. -/
def selectedRooms (s : Server) (baseAddress : U16String) : List RoomRow :=
  s.db.room.filter fun row => addressLike s.db.collation (fromWideString baseAddress) row.roomAddress

/-- Where a load starts reading its rows. -/
def cleared (s : Server) : Server := { s with rooms := [], executed := s.executed + 1 }

end Server

section Load
variable {s : Server} {row : RoomRow} {rows : List RoomRow}

theorem loadRoomRow_run (h : row.Small) : loadRoomRow row s = (.ok (), s.loadRow row) := by
  obtain ⟨h1, h2, h3, h4, h5, h6, h7⟩ := h
  have hid : (UInt32.ofNat row.id).toNat = row.id := by
    rw [UInt32.toNat_ofNat']
    omega
  rw [loadRoomRow, get_bind_run, modify_bind_run, bind_ok (columnInt_of_lt h1),
    bind_ok (columnInt_of_lt h2), bind_ok (columnInt_of_lt h3), bind_ok (columnInt_of_lt h4),
    bind_ok (columnInt_of_lt h5), bind_ok (columnInt_of_lt h6), bind_ok (columnInt_of_lt h7),
    get_bind_run, hid, Server.loadRow]
  have hsame : Server.roomExists { s with nextRoomId := s.nextRoomId + 1 }
      (toWideString row.roomAddress) = s.roomExists (toWideString row.roomAddress) := rfl
  simp only [hsame]
  cases s.roomExists (toWideString row.roomAddress) <;> rfl

/-- The first integer out of range ends the row; its id stays taken. -/
theorem loadRoomRow_unreadable (h : ¬ row.Small) :
    loadRoomRow row s = (.error .outOfRange, s.takeRoomId) := by
  rw [loadRoomRow, get_bind_run, modify_bind_run]
  by_cases h1 : row.id < 2 ^ 31
  case neg => exact bind_error (columnInt_of_not_lt h1) _
  rw [bind_ok (columnInt_of_lt h1)]
  by_cases h2 : row.creatorId < 2 ^ 31
  case neg => exact bind_error (columnInt_of_not_lt h2) _
  rw [bind_ok (columnInt_of_lt h2)]
  by_cases h3 : row.roomAttributes < 2 ^ 31
  case neg => exact bind_error (columnInt_of_not_lt h3) _
  rw [bind_ok (columnInt_of_lt h3)]
  by_cases h4 : row.roomMaxSize < 2 ^ 31
  case neg => exact bind_error (columnInt_of_not_lt h4) _
  rw [bind_ok (columnInt_of_lt h4)]
  by_cases h5 : row.roomMessageId < 2 ^ 31
  case neg => exact bind_error (columnInt_of_not_lt h5) _
  rw [bind_ok (columnInt_of_lt h5)]
  by_cases h6 : row.createdAt < 2 ^ 31
  case neg => exact bind_error (columnInt_of_not_lt h6) _
  rw [bind_ok (columnInt_of_lt h6)]
  by_cases h7 : row.nodeLevel < 2 ^ 31
  case neg => exact bind_error (columnInt_of_not_lt h7) _
  exact absurd ⟨h1, h2, h3, h4, h5, h6, h7⟩ h

/-- The loop over the rows. It stops at the first row that cannot be read. -/
theorem loadRoomRows_run :
    (forM rows loadRoomRow : Serve PUnit) s =
      if ∀ row ∈ rows, row.Small then (.ok (), s.loadRows rows)
      else (.error .outOfRange, (s.loadRows (rows.takeWhile fun row => row.Small)).takeRoomId) := by
  induction rows generalizing s with
  | nil => simp [List.forM_nil, Server.loadRows]
  | cons row rest ih =>
    rw [List.forM_cons]
    by_cases h : row.Small
    · rw [bind_ok (loadRoomRow_run h), ih]
      by_cases hrest : ∀ row ∈ rest, row.Small
      · rw [if_pos hrest, if_pos (by simpa [h] using hrest)]
        rfl
      · rw [if_neg hrest, if_neg (by simpa [h] using hrest), List.takeWhile_cons_of_pos (by simpa using h)]
        rfl
    · rw [bind_error (loadRoomRow_unreadable h), if_neg (by simp [h]),
        List.takeWhile_cons_of_neg (by simpa using h)]
      rfl

theorem loadRoomsFromStorage_failed (baseAddress : U16String) (hf : s.fails s.executed = true) :
    loadRoomsFromStorage baseAddress s =
      (.error .database, { s.cleared with failures := s.failures + 1 }) := by
  rw [loadRoomsFromStorage, modify_bind_run]
  refine bind_error (execute_failed (s := { s with rooms := [] }) (.inl hf)) _ |>.trans ?_
  rw [attempt_of_roleKey_none rfl]
  rfl

theorem loadRoomsFromStorage_run (baseAddress : U16String) (hf : s.fails s.executed = false) :
    loadRoomsFromStorage baseAddress s =
      (forM (s.selectedRooms baseAddress) loadRoomRow : Serve PUnit) s.cleared := by
  rw [loadRoomsFromStorage, modify_bind_run]
  refine (bind_ok (execute_ok (s := { s with rooms := [] }) hf rfl) _).trans ?_
  rw [attempt_of_roleKey_none rfl]
  rfl

end Load

section Create
variable {s : Server} {creator : AvatarPtr} {roomName roomTopic roomPassword : U16String}
  {roomAttributes maxRoomSize : UInt32} {roomAddress : U16String}

theorem createRoom_refused {creator : Option AvatarPtr}
    (h : s.roomExists (fullAddress roomAddress roomName) = true) :
    createRoom creator roomName roomTopic roomPassword roomAttributes maxRoomSize roomAddress s =
      (.error (.chatResult .roomAlreadyExists (literal "ChatRoom already exists")), s) := by
  rw [createRoom, get_bind_run, if_pos h]
  rfl

/-- The server with a room added, and an id taken. -/
def Server.withRoom (s : Server) (r : ChatRoom) : Server :=
  { s.takeRoomId with rooms := s.rooms ++ [r] }

/-- The insert of a persistent room, with the id its row gets. -/
def Server.insertedRow (s : Server) (r : ChatRoom) : Option (Nat × Database) :=
  if s.fails s.executed then none else s.db.insertRoom (roomColumns r)

/-- The server after the insert. A failure is only counted: the room looks like a stored one, but
for its `dbId_`. -/
def Server.persisted (s : Server) (r : ChatRoom) : Server :=
  match s.insertedRow r with
  | some (id, db) =>
    { s.withRoom { r with dbId := toInt32 (UInt32.ofNat id) } with executed := s.executed + 1, db }
  | none => { s.withRoom r with executed := s.executed + 1, failures := s.failures + 1 }

def Server.added (s : Server) (r : ChatRoom) : Server :=
  if r.isPersistent then s.persisted r else s.withRoom r

theorem insertedRow_eq_some {r : ChatRoom} {id : Nat} {db : Database}
    (h : s.insertedRow r = some (id, db)) :
    s.fails s.executed = false ∧ s.db.insertRoom (roomColumns r) = some (id, db) := by
  unfold Server.insertedRow at h
  split at h
  · exact absurd h (by simp)
  · rename_i hf
    exact ⟨by simpa using hf, h⟩

theorem insertedRow_eq_none {r : ChatRoom} (h : s.insertedRow r = none) :
    s.fails s.executed = true ∨ s.db.insertRoom (roomColumns r) = none := by
  unfold Server.insertedRow at h
  split at h
  · exact .inl ‹_›
  · exact .inr h

private theorem modify_append_singleton {α : Type} (xs : List α) (x : α) (f : α → α) :
    (xs ++ [x]).modify xs.length f = xs ++ [f x] := by
  induction xs with
  | nil => rfl
  | cons y ys ih => simpa using ih

private theorem persistNewRoom_run (r : ChatRoom) :
    ∃ code, persistNewRoom s.rooms.length (s.withRoom r) = (.ok code, s.persisted r) := by
  have hr : (s.withRoom r).rooms[s.rooms.length]? = some r := by simp [Server.withRoom]
  have hkey : (Statement.insertRoom (roomColumns r)).roleKey = none := rfl
  cases hrow : s.insertedRow r with
  | none =>
    have hexec : execute (.insertRoom (roomColumns r)) (s.withRoom r) = _ :=
      execute_failed (insertedRow_eq_none hrow)
    rw [attempt_of_roleKey_none hkey] at hexec
    refine ⟨.dbFail, ?_⟩
    rw [Server.persisted, hrow, persistNewRoom]
    rw [tryCatch_run, bind_ok (readRoom_of_getElem? hr), bind_error hexec]
    rfl
  | some row =>
    obtain ⟨id, db⟩ := row
    obtain ⟨hf, hrun⟩ := insertedRow_eq_some hrow
    have hrun : (s.withRoom r).db.run (.insertRoom (roomColumns r)) = some (id, db) := hrun
    have hexec : execute (.insertRoom (roomColumns r)) (s.withRoom r) =
        (.ok id, { s.withRoom r with executed := s.executed + 1, db }) :=
      (execute_ok (s := s.withRoom r) hf hrun).trans (by rw [attempt_of_roleKey_none hkey]; rfl)
    have hr' : ({ s.withRoom r with executed := s.executed + 1, db } : Server).rooms[s.rooms.length]? =
        some r := hr
    refine ⟨.success, ?_⟩
    rw [Server.persisted, hrow, persistNewRoom, tryCatch_run, bind_ok (readRoom_of_getElem? hr),
      bind_ok hexec, bind_ok (writeRoom_of_getElem? hr' _)]
    simp only [Server.updateRoom, Server.withRoom, modify_append_singleton]
    rfl

/-- Nothing tells a stored room from one whose insert failed. -/
theorem createRoom_run (h : s.roomExists (fullAddress roomAddress roomName) = false) :
    createRoom (some creator) roomName roomTopic roomPassword roomAttributes maxRoomSize roomAddress
        s =
      (.ok s.rooms.length, s.added (ChatRoom.make s.nextRoomId creator roomName roomTopic
        roomPassword roomAttributes maxRoomSize roomAddress)) := by
  rw [createRoom, get_bind_run, if_neg (by simp [h])]
  rw [get_bind_run]
  change (modify _ >>= _ : Serve RoomPtr) s = _
  rw [modify_bind_run, deref, pure_bind_run, get_bind_run]
  change (modify _ >>= _ : Serve RoomPtr) _ = _
  rw [modify_bind_run]
  generalize ChatRoom.make s.nextRoomId creator roomName roomTopic roomPassword roomAttributes
    maxRoomSize roomAddress = r
  rw [Server.added, runIf]
  obtain ⟨code, hpersist⟩ := persistNewRoom_run (s := s) r
  by_cases hp : r.isPersistent = true
  · rw [if_pos hp, if_pos hp]
    exact bind_ok (bind_ok hpersist _) _
  · rw [if_neg hp, if_neg hp]
    rfl

end Create

section Destroy
variable {s t : Server} {room : RoomPtr} {r : ChatRoom}

/-- The rooms that share the id leave memory. -/
def Server.withoutRoom (s : Server) (roomId : UInt32) : Server :=
  { s with rooms := s.rooms.filter (·.roomId != roomId) }

def Server.deletedRow (s : Server) (dbId : Int) : Server :=
  { s with executed := s.executed + 1, db := s.db.deleteRoom dbId }

/-- Where the pass over the rooms ends, unless it reads the destroyed room. -/
private theorem eraseRooms_run {x : Serve Unit} (h : x s = (.ok (), t)) :
    (do x
        match erasePass r.roomId room [] 0 false (← get).rooms with
        | some rooms => modify fun s => { s with rooms }
        | none => throw .freedRoom : Serve Unit) s =
      match erasePass r.roomId room [] 0 false t.rooms with
      | some _ => (.ok (), t.withoutRoom r.roomId)
      | none => (.error .freedRoom, t) := by
  rw [bind_ok h, get_bind_run]
  cases hpass : erasePass r.roomId room [] 0 false t.rooms with
  | none => rfl
  | some left =>
    have hleft := erasePass_eq_some hpass
    rw [List.nil_append] at hleft
    rw [hleft]
    rfl

/-- A failed delete leaves the room in memory. -/
theorem destroyRoom_run (hr : s.rooms[room]? = some r) :
    destroyRoom room s =
      if r.isPersistent && s.fails s.executed then
        (.error .database, { s with executed := s.executed + 1, failures := s.failures + 1 })
      else match erasePass r.roomId room [] 0 false s.rooms with
        | some _ =>
          (.ok (), (if r.isPersistent then s.deletedRow r.dbId else s).withoutRoom r.roomId)
        | none => (.error .freedRoom, if r.isPersistent then s.deletedRow r.dbId else s) := by
  have hkey : (Statement.deleteRoom r.dbId).roleKey = none := rfl
  rw [destroyRoom, bind_ok (readRoom_of_getElem? hr), runIf]
  cases hp : r.isPersistent with
  | false => exact eraseRooms_run rfl
  | true =>
    by_cases hf : s.fails s.executed = true
    · simp only [hf, Bool.and_self, if_true]
      rw [bind_error (execute_failed (.inl hf)), attempt_of_roleKey_none hkey]
    · have hexec : execute (.deleteRoom r.dbId) s = (.ok (), s.deletedRow r.dbId) :=
        (execute_ok (by simpa using hf) rfl).trans (by rw [attempt_of_roleKey_none hkey]; rfl)
      simp only [hf, Bool.and_false, Bool.false_eq_true, if_false, if_true]
      exact eraseRooms_run hexec

end Destroy
end StationChat
