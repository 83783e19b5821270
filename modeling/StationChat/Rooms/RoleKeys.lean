import StationChat.Rooms.Outcomes

/-! Which row the role statements of a room name, and whose roles they touch. -/
namespace StationChat
open Lib Lib.Action

/-- The room a call acts on. -/
def RoomCall.room? : RoomCall → Option RoomPtr
  | .destroy room | .role _ room _ _ | .loadRole _ room | .operate _ room => some room
  | .load _ | .create .. => none

/-- The rows of a role table that belong to other rooms than the one stored under `id`. -/
def Database.othersRoles (db : Database) (id : Int) (table : RoleTable) : List RoleRow :=
  (db.role table).filter fun row => (row.roomId : Int) ≠ id

/-- On behalf of a persistent room, every role statement binds the id of the room's row, and the
roles of all other rooms stay what they are. -/
def KeyedByRow (s : Server) (c : RoomCall) (t : Server) : Prop :=
  ∀ room r, c.room? = some room → s.rooms[room]? = some r → r.isPersistent = true →
    (∃ keys, t.roleKeys = s.roleKeys ++ keys ∧ ∀ key ∈ keys, (key.2.toNat : Int) = r.dbId) ∧
      ∀ table, t.db.othersRoles r.dbId table = s.db.othersRoles r.dbId table

/-- A call that sends a role statement for a persistent room finds it with a `roomId_` that equals
the id of its row. -/
def MatchingIds (s : Server) (c : RoomCall) : Prop :=
  ∀ room r, s.rooms[room]? = some r → r.isPersistent = true →
    match c with
    | .role operation room' srcAvatarId avatar => room' = room →
        operation.passes r srcAvatarId avatar.avatarId = true → (r.roomId.toNat : Int) = r.dbId
    | .loadRole _ room' => room' = room → (r.roomId.toNat : Int) = r.dbId
    | _ => True

section Tables
variable {db : Database} {id : Int}

/-- A role statement changes rows of the room it names only. -/
theorem RoleOperation.othersRoles_tables (operation : RoleOperation) (avatarId roomId : UInt32)
    (hid : (roomId.toNat : Int) = id) (table : RoleTable) :
    (operation.tables db avatarId roomId).othersRoles id table = db.othersRoles id table := by
  have hinsert : ∀ changed, (db.insertRole changed avatarId.toNat roomId.toNat).othersRoles id table =
      db.othersRoles id table := by
    intro changed
    unfold Database.insertRole
    split
    · rfl
    · by_cases heq : table = changed
      · simp [Database.othersRoles, heq, hid]
      · simp [Database.othersRoles, Function.update_of_ne heq]
  have hdelete : ∀ changed, (db.deleteRole changed avatarId.toNat roomId.toNat).othersRoles id table =
      db.othersRoles id table := by
    intro changed
    unfold Database.deleteRole
    by_cases heq : table = changed
    · subst heq
      simp only [Database.othersRoles, Function.update_self, List.filter_filter]
      refine List.filter_congr fun row _ => ?_
      by_cases hrow : (row.roomId : Int) = id
      · simp [hrow]
      · have hne : row ≠ ⟨avatarId.toNat, roomId.toNat⟩ := by
          rintro rfl
          exact hrow hid
        simp [hrow, hne]
    · simp [Database.othersRoles, Function.update_of_ne heq]
  cases operation <;> first | exact hinsert _ | exact hdelete _

theorem Database.othersRoles_deleteRoom (table : RoleTable) :
    (db.deleteRoom id).othersRoles id table = db.othersRoles id table := by
  simp [Database.deleteRoom, Database.othersRoles]

end Tables

section Steps
variable {s t : Server}

/-- A quiet call sends no role statement. -/
theorem Quiet.keyedByRow (h : Quiet s t) (c : RoomCall) : KeyedByRow s c t := by
  intro room r _ _ _
  refine ⟨⟨[], by rw [h.roleKeys, List.append_nil], by simp⟩, fun table => ?_⟩
  rw [h.db]

private theorem key_eq {key : RoleTable × UInt32} {keys log : List (RoleTable × UInt32)} {id : Int}
    (hlog : log ++ [key] = log ++ keys) (hkeys : ∀ key ∈ keys, (key.2.toNat : Int) = id) :
    (key.2.toNat : Int) = id :=
  hkeys key (List.append_cancel_left hlog ▸ List.mem_singleton.mpr rfl)

theorem destroy_keyed {room : RoomPtr} (h : s.call (.destroy room) = some t) :
    KeyedByRow s (.destroy room) t := by
  intro room' r' hroom hr' _
  obtain rfl : room = room' := Option.some.inj hroom
  obtain ⟨r, hr, ⟨rfl, _⟩ | ⟨rfl, _⟩ | ⟨rfl, _⟩⟩ := destroy_cases h
  · exact ⟨⟨[], by simp, by simp⟩, fun _ => rfl⟩
  · obtain rfl : r = r' := Option.some.inj (hr.symm.trans hr')
    exact ⟨⟨[], by simp [Server.withoutRoom, Server.deletedRow], by simp⟩,
      fun table => Database.othersRoles_deleteRoom table⟩
  · exact ⟨⟨[], by simp [Server.withoutRoom], by simp⟩, fun _ => rfl⟩

theorem role_keyed_iff {operation : RoleOperation} {room : RoomPtr} {srcAvatarId : UInt32}
    {avatar : AvatarPtr} (h : s.call (.role operation room srcAvatarId avatar) = some t) :
    KeyedByRow s (.role operation room srcAvatarId avatar) t ↔
      MatchingIds s (.role operation room srcAvatarId avatar) := by
  obtain ⟨r, hr, ⟨rfl, hpass⟩ | ⟨hpass, u, rfl, ⟨rfl, hp⟩ | ⟨rfl, hp, _⟩⟩⟩ := role_cases h
  · refine iff_of_true ((Quiet.refl t).keyedByRow _) fun room' r' hr' _ hroom hpass' => ?_
    obtain rfl : r = r' := Option.some.inj (hr.symm.trans (hroom ▸ hr'))
    exact absurd (hpass.symm.trans hpass') (by simp)
  · refine iff_of_true ?_ ?_
    · intro room' r' hroom hr' hp'
      obtain rfl : room = room' := Option.some.inj hroom
      obtain rfl : r = r' := Option.some.inj (hr.symm.trans hr')
      exact absurd (hp.symm.trans hp') (by simp)
    · intro room' r' hr' hp' hroom _
      obtain rfl : r = r' := Option.some.inj (hr.symm.trans (hroom ▸ hr'))
      exact absurd (hp.symm.trans hp') (by simp)
  · have hlog := (wroteRole_log operation avatar.avatarId r.roomId
      (s.updateRoom room (·.setList operation.table.list (operation.changed r avatar)))).2
    constructor
    · intro hkeyed room' r' hr' hp' hroom _
      obtain rfl : r = r' := Option.some.inj (hr.symm.trans (hroom ▸ hr'))
      obtain ⟨⟨keys, hkeys, hid⟩, _⟩ := hkeyed room r rfl hr hp
      exact key_eq (hlog.symm.trans hkeys) hid
    · intro hmatch room' r' hroom hr' _
      obtain rfl : room = room' := Option.some.inj hroom
      obtain rfl : r = r' := Option.some.inj (hr.symm.trans hr')
      have hid := hmatch room r hr hp rfl hpass
      refine ⟨⟨[(operation.table, r.roomId)], hlog, by simpa using hid⟩, fun table => ?_⟩
      unfold Server.wroteRole
      split
      · rfl
      · exact operation.othersRoles_tables avatar.avatarId r.roomId hid table

theorem loadRole_keyed_iff {table : RoleTable} {room : RoomPtr}
    (h : s.call (.loadRole table room) = some t) :
    KeyedByRow s (.loadRole table room) t ↔ MatchingIds s (.loadRole table room) := by
  obtain ⟨r, hr, hquiet⟩ := loadRole_cases h
  constructor
  · intro hkeyed room' r' hr' hp' hroom
    obtain rfl : r = r' := Option.some.inj (hr.symm.trans (hroom ▸ hr'))
    obtain ⟨⟨keys, hkeys, hid⟩, _⟩ := hkeyed room r rfl hr hp'
    exact key_eq (hquiet.roleKeys.symm.trans hkeys) hid
  · intro hmatch room' r' hroom hr' hp'
    obtain rfl : room = room' := Option.some.inj hroom
    obtain rfl : r = r' := Option.some.inj (hr.symm.trans hr')
    refine ⟨⟨[(table, r.roomId)], hquiet.roleKeys, ?_⟩, fun table => by rw [hquiet.db]⟩
    simpa using hmatch room r hr hp' rfl

/-- One call. -/
theorem keyed_step_iff {c : RoomCall} (h : s.call c = some t) :
    KeyedByRow s c t ↔ MatchingIds s c := by
  cases c with
  | load =>
    refine iff_of_true (fun _ _ hroom => ?_) fun _ _ _ _ => trivial
    exact absurd hroom (by simp [RoomCall.room?])
  | create =>
    refine iff_of_true (fun _ _ hroom => ?_) fun _ _ _ _ => trivial
    exact absurd hroom (by simp [RoomCall.room?])
  | destroy => exact iff_of_true (destroy_keyed h) fun _ _ _ _ => trivial
  | role => exact role_keyed_iff h
  | loadRole => exact loadRole_keyed_iff h
  | operate => exact iff_of_true ((operate_quiet h).keyedByRow _) fun _ _ _ _ => trivial

/-- In every run, the role statements name the rooms' own rows exactly if each of them is sent for a
room whose two ids agree. -/
theorem roles_keyed_iff (s : Server) (calls : List RoomCall) :
    (∀ x ∈ runSteps Server.call s calls, KeyedByRow x.1 x.2.1 x.2.2) ↔
      ∀ x ∈ runSteps Server.call s calls, MatchingIds x.1 x.2.1 :=
  forall₂_congr fun _ hx => keyed_step_iff (step_of_mem_runSteps hx)

/-- With two new rooms, a moderator added to the second becomes one of the first. -/
theorem moderator_row_of_another_room :
    ∃ s, Server.Calls (fun _ _ => True) Server.twoAvatars s ∧
      ∃ other ∈ s.rooms[0]?, ∃ r ∈ s.rooms[1]?, other.isPersistent = true ∧ r.isPersistent = true ∧
        other.dbId = 1 ∧ r.dbId = 2 ∧
        ∃ t ∈ s.call (.role .addModerator 1 1 secondAvatar),
          t.roleKeys = s.roleKeys ++ [(.moderator, 1)] ∧
            s.db.role .moderator = [] ∧ t.db.role .moderator = [⟨2, 1⟩] :=
  Runs.exists_of_inputs [createPersistent [0x72] [0x62], createPersistent [0x73] [0x62]]
    (by decide +kernel) fun _ _ => trivial

end Steps
end StationChat
