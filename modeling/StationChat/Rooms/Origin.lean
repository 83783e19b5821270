import StationChat.Rooms.Outcomes

/-! Where the rooms in memory came from, and which of them can write their role tables. -/
namespace StationChat
open Lib Lib.Action

/-- The two ways in which a room comes into being. -/
inductive Origin where
  | created | loaded
  deriving DecidableEq, Repr

/-- The service beside the origin of each room in memory. The origins follow from the calls; no
field of a room is consulted. -/
structure Traced where
  server : Server
  origins : List Origin

/-- A load replaces all rooms, a creation appends one, a destruction keeps the rooms whose id is
still in memory. -/
def originsAfter (s : Server) (c : RoomCall) (t : Server) (origins : List Origin) : List Origin :=
  match c with
  | .load _ => t.rooms.map fun _ => .loaded
  | .create .. => origins ++ (t.rooms.drop s.rooms.length).map fun _ => .created
  | .destroy _ =>
    ((s.rooms.zip origins).filter fun p => t.rooms.any (·.roomId == p.1.roomId)).map Prod.snd
  | _ => origins

def Traced.step (w : Traced) (c : RoomCall) : Option Traced :=
  (w.server.call c).map fun t => ⟨t, originsAfter w.server c t w.origins⟩

/-- The origin that a room's service pointer shows. -/
def ChatRoom.origin (r : ChatRoom) : Origin :=
  match r.roomService with
  | .owner => .created
  | .unset => .loaded

section Steps
variable {s t : Server} {origins : List Origin} {room : RoomPtr}

theorem origins_of_identity (h : t.rooms.map ChatRoom.identity = s.rooms.map ChatRoom.identity) :
    t.rooms.map ChatRoom.origin = s.rooms.map ChatRoom.origin := by
  have horigin : ∀ rooms : List ChatRoom,
      rooms.map ChatRoom.origin = (rooms.map ChatRoom.identity).map ChatRoom.origin := by
    intro rooms
    rw [List.map_map]
    rfl
  rw [horigin, h, ← horigin]

private theorem filter_zip_map {α β : Type} (keep : α → Bool) (g : α → β) (xs : List α) :
    ((xs.zip (xs.map g)).filter fun p => keep p.1).map Prod.snd = (xs.filter keep).map g := by
  induction xs with
  | nil => rfl
  | cons x xs ih =>
    simp only [List.map_cons, List.zip_cons_cons, List.filter_cons]
    cases keep x <;> simp [ih]

/-- The rooms a destruction leaves are those whose id is not gone. -/
theorem destroy_rooms (h : s.call (.destroy room) = some t) :
    t.rooms = s.rooms.filter fun r => t.rooms.any (·.roomId == r.roomId) := by
  have hall : s.rooms = s.rooms.filter fun r => s.rooms.any (·.roomId == r.roomId) := by
    refine (List.filter_eq_self.mpr fun r hr => ?_).symm
    exact List.any_eq_true.mpr ⟨r, hr, beq_self_eq_true _⟩
  have hgone : ∀ roomId, s.rooms.filter (·.roomId != roomId) = s.rooms.filter fun r =>
      (s.rooms.filter (·.roomId != roomId)).any (·.roomId == r.roomId) := by
    intro roomId
    refine List.filter_congr fun r hr => ?_
    rw [Bool.eq_iff_iff, List.any_eq_true]
    constructor
    · exact fun hne => ⟨r, List.mem_filter.mpr ⟨hr, hne⟩, beq_self_eq_true _⟩
    · rintro ⟨r', hr', heq⟩
      have hne := (List.mem_filter.mp hr').2
      rwa [eq_of_beq heq] at hne
  obtain ⟨r, _, ⟨rfl, _⟩ | ⟨rfl, _⟩ | ⟨rfl, _⟩⟩ := destroy_cases h
  · exact hall
  · exact hgone r.roomId
  · exact hgone r.roomId

/-- One call keeps the traced origins equal to those the service pointers show. -/
theorem origins_step {c : RoomCall} (h : s.call c = some t) :
    originsAfter s c t (s.rooms.map ChatRoom.origin) = t.rooms.map ChatRoom.origin := by
  cases c with
  | load baseAddress =>
    obtain ⟨result, hrun⟩ := Server.call_eq_some h
    refine List.map_congr_left fun r hr => ?_
    obtain ⟨row, _, _, roomId, rfl⟩ := (loaded_of_run hrun).rooms r hr
    rfl
  | create =>
    rcases create_cases h with ⟨_, rfl⟩ | ⟨_, avatar, r, _, hr, rfl⟩
    · simp [originsAfter]
    · obtain ⟨⟨dbId, hrooms⟩, _⟩ := added_rooms (s := s) r
      have howner : r.roomService = .owner := by rw [hr]; rfl
      simp [originsAfter, hrooms, ChatRoom.origin, howner]
  | destroy room =>
    have hrooms := destroy_rooms h
    rw [originsAfter, filter_zip_map fun r : ChatRoom => t.rooms.any (·.roomId == r.roomId), ← hrooms]
  | role => exact (origins_of_identity (role_frame h).rooms).symm
  | loadRole table room =>
    obtain ⟨r, _, hquiet⟩ := loadRole_cases h
    exact (origins_of_identity hquiet.rooms).symm
  | operate => exact (origins_of_identity (operate_quiet h).rooms).symm

end Steps

section Service
variable {w : Traced} {room : RoomPtr} {r : ChatRoom} {operation : RoleOperation}
  {srcAvatarId : UInt32} {avatar : AvatarPtr}

/-- In every run from a fresh service. -/
theorem origins_eq {db : Database} {fails : Nat → Bool} {version : UInt32} {config : Policy.Config}
    (h : Runs Traced.step (fun _ _ => True) ⟨Server.start db fails version config, []⟩ w) :
    w.origins = w.server.rooms.map ChatRoom.origin := by
  refine Runs.invariant (I := fun w => w.origins = w.server.rooms.map ChatRoom.origin) h rfl ?_
  intro w c w' hw _ hstep
  obtain ⟨t, ht, rfl⟩ := Option.map_eq_some_iff.mp hstep
  exact hw ▸ origins_step ht

/-- The operation executes its statement, through the service, and completes or ends with the
database's exception. -/
def ReachesDatabase (operation : RoleOperation) (room : RoomPtr) (srcAvatarId : UInt32)
    (avatar : AvatarPtr) (s : Server) : Prop :=
  ∃ t, (operation.run room srcAvatarId avatar s = (.ok (), t) ∨
      operation.run room srcAvatarId avatar s = (.error .database, t)) ∧
    t.executed = s.executed + 1 ∧ ∃ roomId, t.roleKeys = s.roleKeys ++ [(operation.table, roomId)]

theorem reachesDatabase_iff {s : Server} (hr : s.rooms[room]? = some r)
    (hp : r.isPersistent = true) (hpass : operation.passes r srcAvatarId avatar.avatarId = true) :
    ReachesDatabase operation room srcAvatarId avatar s ↔ r.roomService = .owner := by
  have hrun := operation.run_eq hr srcAvatarId avatar
  rw [if_pos hpass, storeRole_run hr, if_pos hp] at hrun
  cases hs : r.roomService with
  | unset =>
    rw [hs] at hrun
    simp [ReachesDatabase, hrun]
  | owner =>
    rw [hs] at hrun
    obtain ⟨result, hresult, hwrite⟩ := writeRole_run operation avatar.avatarId r.roomId
      (s.updateRoom room (·.setList operation.table.list (operation.changed r avatar)))
    obtain ⟨hexecuted, hkeys⟩ := wroteRole_log operation avatar.avatarId r.roomId
      (s.updateRoom room (·.setList operation.table.list (operation.changed r avatar)))
    refine iff_of_true ⟨_, ?_, hexecuted, r.roomId, hkeys⟩ rfl
    rcases hresult with rfl | rfl
    · exact .inl (hrun.trans hwrite)
    · exact .inr (hrun.trans hwrite)

/-- A role operation whose checks pass on a persistent room reaches the database exactly if the
room came from `CreateRoom`. -/
theorem role_reaches_database_iff {db : Database} {fails : Nat → Bool} {version : UInt32}
    {config : Policy.Config}
    (h : Runs Traced.step (fun _ _ => True) ⟨Server.start db fails version config, []⟩ w)
    (hr : w.server.rooms[room]? = some r) (hp : r.isPersistent = true)
    (hpass : operation.passes r srcAvatarId avatar.avatarId = true) :
    ReachesDatabase operation room srcAvatarId avatar w.server ↔
      w.origins[room]? = some .created := by
  rw [reachesDatabase_iff hr hp hpass, origins_eq h, List.getElem?_map, hr]
  cases hs : r.roomService <;> simp [ChatRoom.origin, hs]

/-- A moderator is added to a room just created. -/
theorem role_reaches_database_created :
    ∃ s r, s.rooms[0]? = some r ∧ r.isPersistent = true ∧
      ReachesDatabase .addModerator 0 1 secondAvatar s := by
  have hw : ∃ w, Runs Traced.step (fun _ _ => True) ⟨Server.twoAvatars, []⟩ w ∧
      w.origins[0]? = some .created ∧ ∃ r ∈ w.server.rooms[0]?, r.isPersistent = true ∧
        RoleOperation.addModerator.passes r 1 secondAvatar.avatarId = true :=
    Runs.exists_of_inputs [createPersistent [0x72] [0x62]] (by decide +kernel) fun _ _ => trivial
  obtain ⟨w, hrun, horigin, r, hr, hp, hpass⟩ := hw
  exact ⟨w.server, r, hr, hp, (role_reaches_database_iff hrun hr hp hpass).mpr horigin⟩

/-- After a load the creator's own operation goes through the pointer that was never set. -/
theorem loaded_room_has_no_service :
    ∃ s, Server.Calls (fun _ _ => True) Server.twoAvatars s ∧
      ∃ r ∈ s.rooms[0]?, r.isPersistent = true ∧
        RoleOperation.addModerator.passes r 1 secondAvatar.avatarId = true ∧
        (addModerator 0 1 secondAvatar s).1 = .error .unsetService :=
  Runs.exists_of_inputs [createPersistent [0x72] [0x62], .load [0x62]] (by decide +kernel)
    fun _ _ => trivial

end Service
end StationChat
