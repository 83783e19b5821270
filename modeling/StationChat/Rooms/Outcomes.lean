import Mathlib.Data.List.TakeWhile
import StationChat.Rooms.Life

/-! What each call can do, said once. The invariants of whole runs are derived from these. -/
namespace StationChat
open Lib Lib.Action Lib.Contract

variable {s t : Server} {room : RoomPtr}

theorem call_eq_of_run {c : RoomCall} {result : Except Exn Unit} {u : Server}
    (h : s.call c = some t) (hrun : c.run s = (result, u)) : t = u := by
  obtain ⟨result', hrun'⟩ := Server.call_eq_some h
  exact (Prod.mk.inj (hrun'.symm.trans hrun)).2

section Load
variable {baseAddress : U16String} {row : RoomRow} {rows : List RoomRow}

theorem mem_loadRows {r : ChatRoom} (h : r ∈ (s.loadRows rows).rooms) :
    r ∈ s.rooms ∨ ∃ row ∈ rows, ∃ roomId, r = storedRoom roomId row := by
  induction rows generalizing s with
  | nil => exact .inl h
  | cons row rest ih =>
    rcases ih (s := s.loadRow row) h with hr | ⟨row', hrow', hr⟩
    · unfold Server.loadRow at hr
      split at hr
      · exact .inl hr
      · rcases List.mem_append.mp hr with hr | hr
        · exact .inl hr
        · exact .inr ⟨row, List.mem_cons_self, s.nextRoomId, List.mem_singleton.mp hr⟩
    · exact .inr ⟨row', List.mem_cons_of_mem row hrow', hr⟩

theorem loadRow_rest :
    s.loadRow row = { s.takeRoomId with rooms := (s.loadRow row).rooms } := by
  unfold Server.loadRow
  split <;> rfl

/-- Reading rows changes the rooms and takes ids; nothing else. -/
theorem loadRows_rest (s : Server) (rows : List RoomRow) : s.loadRows rows =
    { s with rooms := (s.loadRows rows).rooms, nextRoomId := (s.loadRows rows).nextRoomId } := by
  induction rows generalizing s with
  | nil => rfl
  | cons row rest ih =>
    have hcons : s.loadRows (row :: rest) = (s.loadRow row).loadRows rest := rfl
    rw [hcons, ih, loadRow_rest]
    rfl

/-- No two rooms in memory share an address. -/
def Server.DistinctRooms (s : Server) : Prop := (s.rooms.map (·.roomAddress)).Nodup

theorem distinctRooms_append {r : ChatRoom} (h : s.DistinctRooms)
    (hnew : s.roomExists r.roomAddress = false) (ht : t.rooms = s.rooms ++ [r]) :
    t.DistinctRooms := by
  rw [Server.DistinctRooms, ht, List.map_append, List.nodup_append]
  refine ⟨h, by simp, ?_⟩
  intro address haddress address' haddress'
  obtain ⟨r', hr', rfl⟩ := List.mem_map.mp haddress
  have heq : address' = r.roomAddress := by simpa using haddress'
  exact heq ▸ roomExists_eq_false.mp hnew r' hr'

theorem distinctRooms_loadRows (h : s.DistinctRooms) : (s.loadRows rows).DistinctRooms := by
  induction rows generalizing s with
  | nil => exact h
  | cons row rest ih =>
    refine ih (s := s.loadRow row) ?_
    unfold Server.loadRow
    split
    · exact h
    · rename_i hnew
      exact distinctRooms_append (r := storedRoom s.nextRoomId row) h
        (eq_false_of_ne_true hnew) rfl

/-- What a load leaves: the tables as they were, and rooms built from readable rows. -/
structure Loaded (s : Server) (baseAddress : U16String) (t : Server) : Prop where
  rooms : ∀ r ∈ t.rooms, ∃ row ∈ s.selectedRooms baseAddress, row.Small ∧
    ∃ roomId, r = storedRoom roomId row
  distinct : t.DistinctRooms
  db : t.db = s.db
  roleKeys : t.roleKeys = s.roleKeys
  fails : t.fails = s.fails
  failures : s.failures ≤ t.failures

theorem loaded_of_run {result : Except Exn Unit}
    (h : loadRoomsFromStorage baseAddress s = (result, t)) : Loaded s baseAddress t := by
  have hrows : ∀ rows, (∀ row ∈ rows, row ∈ s.selectedRooms baseAddress ∧ row.Small) →
      Loaded s baseAddress (s.cleared.loadRows rows) := by
    intro rows hsub
    have hrest := loadRows_rest s.cleared rows
    refine ⟨fun r hr => ?_, distinctRooms_loadRows List.nodup_nil, ?_, ?_, ?_, ?_⟩
    · rcases mem_loadRows hr with hr | ⟨row, hrow, hr⟩
      · exact absurd hr (by simp [Server.cleared])
      · exact ⟨row, (hsub row hrow).1, (hsub row hrow).2, hr⟩
    all_goals rw [hrest]
    all_goals rfl
  by_cases hf : s.fails s.executed = true
  · rw [loadRoomsFromStorage_failed baseAddress hf] at h
    obtain rfl := (Prod.mk.inj h).2
    exact ⟨by simp [Server.cleared], List.nodup_nil, rfl, rfl, rfl, Nat.le_succ _⟩
  · rw [loadRoomsFromStorage_run baseAddress (by simpa using hf), loadRoomRows_run] at h
    split at h
    · rename_i hsmall
      obtain rfl := (Prod.mk.inj h).2
      exact hrows _ fun row hrow => ⟨hrow, hsmall row hrow⟩
    · obtain rfl := (Prod.mk.inj h).2
      have hread := hrows ((s.selectedRooms baseAddress).takeWhile fun row => row.Small)
        fun row hrow =>
          have hsmall := List.mem_takeWhile_imp hrow
          ⟨(List.takeWhile_prefix _).subset hrow, by simpa using hsmall⟩
      exact ⟨hread.rooms, hread.distinct, hread.db, hread.roleKeys, hread.fails,
        hread.failures⟩

end Load

section Create
variable {creator : Option AvatarPtr} {roomName roomTopic roomPassword : U16String}
  {roomAttributes maxRoomSize : UInt32} {roomAddress : U16String}

theorem create_refused (h : s.roomExists (fullAddress roomAddress roomName) = true) :
    RoomCall.run (.create creator roomName roomTopic roomPassword roomAttributes maxRoomSize
        roomAddress) s =
      (.error (.chatResult .roomAlreadyExists (literal "ChatRoom already exists")), s) :=
  bind_error (createRoom_refused h) _

/-- Either the address is taken and nothing happens, or a room is added. -/
theorem create_cases (h : s.call (.create creator roomName roomTopic roomPassword roomAttributes
    maxRoomSize roomAddress) = some t) :
    s.roomExists (fullAddress roomAddress roomName) = true ∧ t = s ∨
      s.roomExists (fullAddress roomAddress roomName) = false ∧ ∃ avatar r, creator = some avatar ∧
        r = ChatRoom.make s.nextRoomId avatar roomName roomTopic roomPassword roomAttributes
          maxRoomSize roomAddress ∧ t = s.added r := by
  by_cases hexists : s.roomExists (fullAddress roomAddress roomName) = true
  · exact .inl ⟨hexists, call_eq_of_run h (create_refused hexists)⟩
  have hexists : s.roomExists (fullAddress roomAddress roomName) = false := by simpa using hexists
  cases creator with
  | some avatar =>
    exact .inr ⟨hexists, avatar, _, rfl, rfl, call_eq_of_run h (bind_ok (createRoom_run hexists) _)⟩
  | none =>
    have hnull : RoomCall.run (.create none roomName roomTopic roomPassword roomAttributes
        maxRoomSize roomAddress) s = (.error .nullPointer, s.takeRoomId) := by
      refine bind_error ?_ _
      rw [createRoom, get_bind_run, if_neg (by simp [hexists])]
      rfl
    simp [Server.call, hnull, Exn.isException] at h

/-- The room a creation adds differs from the one it makes in its `dbId_` at most. -/
theorem added_rooms (r : ChatRoom) :
    (∃ dbId, (s.added r).rooms = s.rooms ++ [{ r with dbId }]) ∧
      (s.added r).nextRoomId = s.takeRoomId.nextRoomId ∧ s.failures ≤ (s.added r).failures := by
  unfold Server.added
  split
  · unfold Server.persisted
    split
    · exact ⟨⟨_, rfl⟩, rfl, Nat.le_refl _⟩
    · exact ⟨⟨r.dbId, rfl⟩, rfl, Nat.le_succ _⟩
  · exact ⟨⟨r.dbId, rfl⟩, rfl, Nat.le_refl _⟩

end Create

/-- The rooms that share the id leave memory, and the row of a persistent one its table; a delete
that fails changes nothing. After a pass that reads the destroyed room there is no next state. -/
theorem destroy_cases (h : s.call (.destroy room) = some t) :
    ∃ r, s.rooms[room]? = some r ∧
      (t = { s with executed := s.executed + 1, failures := s.failures + 1 } ∧
          r.isPersistent = true ∧ s.fails s.executed = true ∨
        t = (s.deletedRow r.dbId).withoutRoom r.roomId ∧ r.isPersistent = true ∧
          s.fails s.executed = false ∨
        t = s.withoutRoom r.roomId ∧ r.isPersistent = false) := by
  cases hr : s.rooms[room]? with
  | none =>
    have hdangling : (destroyRoom room) s = (.error .dangling, s) := bind_error (readRoom_none hr) _
    simp [Server.call, RoomCall.run, hdangling, Exn.isException] at h
  | some r =>
    refine ⟨r, rfl, ?_⟩
    have hrun := destroyRoom_run hr
    by_cases hfailed : (r.isPersistent && s.fails s.executed) = true
    · rw [if_pos hfailed] at hrun
      obtain ⟨hp, hf⟩ := Bool.and_eq_true_iff.mp hfailed
      exact .inl ⟨call_eq_of_run h hrun, hp, hf⟩
    rw [if_neg hfailed] at hrun
    cases hpass : erasePass r.roomId room [] 0 false s.rooms with
    | none =>
      rw [hpass] at hrun
      simp only [Server.call, RoomCall.run, hrun] at h
      exact absurd h (by simp [Exn.isException])
    | some left =>
      rw [hpass] at hrun
      cases hp : r.isPersistent with
      | false => exact .inr (.inr ⟨by simpa [hp] using call_eq_of_run h hrun, rfl⟩)
      | true =>
        refine .inr (.inl ⟨by simpa [hp] using call_eq_of_run h hrun, rfl, ?_⟩)
        simpa [hp] using hfailed

section Roles
variable {operation : RoleOperation} {srcAvatarId : UInt32} {avatar : AvatarPtr}

/-- The server after the statement of a role operation on the room `r`. -/
def Server.wroteRole (s : Server) (operation : RoleOperation) (avatarId roomId : UInt32) : Server :=
  if s.fails s.executed then
    { s.attempt (operation.statement avatarId roomId) with failures := s.failures + 1 }
  else
    { s.attempt (operation.statement avatarId roomId) with
      db := operation.tables s.db avatarId roomId }

theorem writeRole_run (operation : RoleOperation) (avatarId roomId : UInt32) (s : Server) :
    ∃ result, (result = .ok () ∨ result = .error .database) ∧
      execute (operation.statement avatarId roomId) s =
        (result, s.wroteRole operation avatarId roomId) := by
  have hrun := operation.statement_run avatarId roomId s.db
  unfold Server.wroteRole
  by_cases hf : s.fails s.executed = true
  · exact ⟨_, .inr rfl, by rw [if_pos hf, execute_failed (.inl hf)]⟩
  · exact ⟨_, .inl rfl, by rw [if_neg hf, execute_ok (by simpa using hf) hrun]⟩

theorem wroteRole_log (operation : RoleOperation) (avatarId roomId : UInt32) (s : Server) :
    (s.wroteRole operation avatarId roomId).executed = s.executed + 1 ∧
      (s.wroteRole operation avatarId roomId).roleKeys =
        s.roleKeys ++ [(operation.table, roomId)] := by
  have hkey := operation.statement_roleKey avatarId roomId
  unfold Server.wroteRole Server.attempt
  split <;> simp [hkey]

theorem role_missing (operation : RoleOperation) (srcAvatarId : UInt32) (avatar : AvatarPtr)
    (hr : s.rooms[room]? = none) :
    operation.run room srcAvatarId avatar s = (.error .dangling, s) := by
  cases operation <;> exact bind_error (readRoom_none hr) _

/-- The list of the room is changed once the checks pass, and its table if the room is persistent.
Through an unset service pointer there is no next state. -/
theorem role_cases (h : s.call (.role operation room srcAvatarId avatar) = some t) :
    ∃ r, s.rooms[room]? = some r ∧
      (t = s ∧ operation.passes r srcAvatarId avatar.avatarId = false ∨
        operation.passes r srcAvatarId avatar.avatarId = true ∧ ∃ u,
          u = s.updateRoom room (·.setList operation.table.list (operation.changed r avatar)) ∧
          (t = u ∧ r.isPersistent = false ∨
            t = u.wroteRole operation avatar.avatarId r.roomId ∧ r.isPersistent = true ∧
              r.roomService = .owner)) := by
  cases hr : s.rooms[room]? with
  | none =>
    have hdangling := role_missing operation srcAvatarId avatar hr
    simp [Server.call, RoomCall.run, hdangling, Exn.isException] at h
  | some r =>
    refine ⟨r, rfl, ?_⟩
    have hrun := operation.run_eq hr srcAvatarId avatar
    by_cases hpass : operation.passes r srcAvatarId avatar.avatarId = true
    case neg =>
      rw [if_neg hpass] at hrun
      exact .inl ⟨call_eq_of_run h hrun, by simpa using hpass⟩
    rw [if_pos hpass, storeRole_run hr] at hrun
    refine .inr ⟨hpass, _, rfl, ?_⟩
    by_cases hp : r.isPersistent = true
    case neg =>
      rw [if_neg hp] at hrun
      exact .inl ⟨call_eq_of_run h hrun, by simpa using hp⟩
    rw [if_pos hp] at hrun
    cases hs : r.roomService with
    | unset =>
      rw [hs] at hrun
      simp only [Server.call, RoomCall.run, hrun] at h
      exact absurd h (by simp [Exn.isException])
    | owner =>
      rw [hs] at hrun
      obtain ⟨result, _, hwrite⟩ := writeRole_run operation avatar.avatarId r.roomId
        (s.updateRoom room (·.setList operation.table.list (operation.changed r avatar)))
      exact .inr ⟨call_eq_of_run h (hrun.trans hwrite), hp, rfl⟩

/-- What a role operation leaves alone: all of the rooms but their lists, all tables but those of the
roles. -/
structure RoleFrame (s t : Server) : Prop where
  rooms : t.rooms.map ChatRoom.identity = s.rooms.map ChatRoom.identity
  db : t.db = { s.db with role := t.db.role }
  nextRoomId : t.nextRoomId = s.nextRoomId
  failures : s.failures ≤ t.failures

theorem role_frame (h : s.call (.role operation room srcAvatarId avatar) = some t) :
    RoleFrame s t := by
  have hset : ∀ l as, (s.updateRoom room (·.setList l as)).rooms.map ChatRoom.identity =
      s.rooms.map ChatRoom.identity := fun l as =>
    identity_modify fun r _ => r.identity_setList l as
  obtain ⟨r, _, ⟨rfl, _⟩ | ⟨_, u, rfl, ⟨rfl, _⟩ | ⟨rfl, _⟩⟩⟩ := role_cases h
  · exact ⟨rfl, rfl, rfl, Nat.le_refl _⟩
  · exact ⟨hset _ _, rfl, rfl, Nat.le_refl _⟩
  · unfold Server.wroteRole
    split
    · exact ⟨hset _ _, rfl, rfl, Nat.le_succ _⟩
    · exact ⟨hset _ _, operation.tables_rest avatar.avatarId r.roomId s.db, rfl, Nat.le_refl _⟩

end Roles

section Reading

theorem operate_quiet {operation : RoomOperation} (h : s.call (.operate operation room) = some t) :
    Quiet s t := by
  obtain ⟨result, hrun⟩ := Server.call_eq_some h
  exact quiet_of_run (quiet_operate operation) hrun

/-- Filling a role list in from its table changes nothing but lists, and logs one query. -/
theorem loadRole_cases {table : RoleTable} (h : s.call (.loadRole table room) = some t) :
    ∃ r, s.rooms[room]? = some r ∧
      Quiet { s with roleKeys := s.roleKeys ++ [(table, r.roomId)] } t := by
  cases hr : s.rooms[room]? with
  | none =>
    have hdangling : loadRole table room s = (.error .dangling, s) := bind_error (readRoom_none hr) _
    simp [Server.call, RoomCall.run, hdangling, Exn.isException] at h
  | some r =>
    refine ⟨r, rfl, ?_⟩
    obtain ⟨result, hrun⟩ := Server.call_eq_some h
    change loadRole table room s = (result, t) at hrun
    rw [loadRole, bind_ok (readRoom_of_getElem? hr)] at hrun
    by_cases hf : s.fails s.executed = true
    · rw [bind_error (execute_failed (.inl hf))] at hrun
      obtain rfl := (Prod.mk.inj hrun).2
      exact ⟨rfl, rfl, rfl, rfl, rfl, Nat.le_succ _⟩
    · have hexec : execute (.selectRole table r.roomId) s = _ := execute_ok (by simpa using hf) rfl
      rw [bind_ok hexec] at hrun
      refine Quiet.trans ?_ (quiet_of_run (quiet_fillRole table _) hrun)
      exact ⟨rfl, rfl, rfl, rfl, rfl, Nat.le_refl _⟩

end Reading
end StationChat
