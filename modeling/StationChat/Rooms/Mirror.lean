import Mathlib.Data.List.Nodup
import StationChat.Rooms.Origin

/-! The room table against the persistent rooms in memory, over whole runs. -/
namespace StationChat
open Lib Lib.Action

/-- The row is the room's: its id, and the texts that a load would give the room. -/
def Mirrors (r : ChatRoom) (row : RoomRow) : Prop :=
  (row.id : Int) = r.dbId ∧ toWideString row.roomName = r.roomName ∧
    toWideString row.roomAddress = r.roomAddress

/-- What the room table itself satisfies. Its rows come from persistent rooms. -/
structure Database.Tidy (db : Database) : Prop where
  persistent : ∀ row ∈ db.room, (storedRoom 0 row).isPersistent = true
  ids : ∀ row ∈ db.room, ∀ row' ∈ db.room, row.id = row'.id → row = row'
  below : ∀ row ∈ db.room, row.id < db.nextRoomId

/-- Persistent rooms have their rows, and no row has the address of a transient room. -/
structure Mirrored (s : Server) : Prop where
  tidy : s.db.Tidy
  distinct : s.DistinctRooms
  stored : ∀ r ∈ s.rooms, r.isPersistent = true → ∃ row ∈ s.db.room, Mirrors r row
  unstored : ∀ r ∈ s.rooms, r.isPersistent = false →
    ∀ row ∈ s.db.room, toWideString row.roomAddress ≠ r.roomAddress

/-- The insert of a room that a creation stores succeeds and loses nothing. -/
structure Server.Stores (s : Server) (creator : Option AvatarPtr) (roomName roomAddress : U16String) : Prop where
  narrowable : Narrowable (fullAddress roomAddress roomName)
  works : s.fails s.executed = false
  readable : s.db.nextRoomId < 2 ^ 31
  creator : ∀ avatar ∈ creator, s.db.HasAvatar avatar.avatarId.toNat
  key : ∀ row ∈ s.db.room, row.roomName = fromWideString roomName →
    row.roomAddress ≠ fromWideString (fullAddress roomAddress roomName)

/-- A creation that adds a persistent room stores it, and one that adds a transient room takes an address that no row
has. The only row at the address of a persistent room that is destroyed is its own. -/
def Server.Storable (s : Server) : RoomCall → Prop
  | .create creator roomName _ _ roomAttributes _ roomAddress =>
    s.roomExists (fullAddress roomAddress roomName) = true ∨
      if roomAttributes &&& RoomAttribute.persistent.mask ≠ 0 then s.Stores creator roomName roomAddress
      else ∀ row ∈ s.db.room, toWideString row.roomAddress ≠ fullAddress roomAddress roomName
  | .destroy room => ∀ r ∈ s.rooms[room]?, r.isPersistent = true →
      ∀ row ∈ s.db.room, toWideString row.roomAddress = r.roomAddress → (row.id : Int) = r.dbId
  | _ => True

instance (s : Server) (creator : Option AvatarPtr) (roomName roomAddress : U16String) :
    Decidable (s.Stores creator roomName roomAddress) :=
  decidable_of_iff (Narrowable (fullAddress roomAddress roomName) ∧ s.fails s.executed = false ∧
    s.db.nextRoomId < 2 ^ 31 ∧ (∀ avatar ∈ creator, s.db.HasAvatar avatar.avatarId.toNat) ∧
    ∀ row ∈ s.db.room, row.roomName = fromWideString roomName →
      row.roomAddress ≠ fromWideString (fullAddress roomAddress roomName))
  ⟨fun h => ⟨h.1, h.2.1, h.2.2.1, h.2.2.2.1, h.2.2.2.2⟩,
    fun h => ⟨h.narrowable, h.works, h.readable, h.creator, h.key⟩⟩

instance (s : Server) (c : RoomCall) : Decidable (s.Storable c) := by
  cases c <;> unfold Server.Storable <;> infer_instance

section Steps
variable {s t : Server} {room : RoomPtr}

/-- Memory and rows that only differ in lists, counters and role tables. -/
theorem Mirrored.of_identity (h : Mirrored s)
    (hrooms : t.rooms.map ChatRoom.identity = s.rooms.map ChatRoom.identity)
    (hroom : t.db.room = s.db.room) (hnext : t.db.nextRoomId = s.db.nextRoomId) : Mirrored t := by
  have hsame : ∀ r ∈ t.rooms, ∃ r' ∈ s.rooms, r'.identity = r.identity := fun r hr =>
    List.mem_map.mp (hrooms ▸ List.mem_map_of_mem hr)
  have haddress : ∀ rooms : List ChatRoom,
      rooms.map (·.roomAddress) = (rooms.map ChatRoom.identity).map (·.roomAddress) := by
    intro rooms
    rw [List.map_map]
    rfl
  refine ⟨?_, ?_, fun r hr hp => ?_, fun r hr hp row hrow => ?_⟩
  · obtain ⟨h1, h2, h3⟩ := h.tidy
    constructor <;> simpa only [hroom, hnext]
  · rw [Server.DistinctRooms, haddress, hrooms, ← haddress]
    exact h.distinct
  · obtain ⟨r', hr', heq⟩ := hsame r hr
    obtain ⟨row, hrow, hmirrors⟩ := h.stored r' hr' ((congrArg ChatRoom.isPersistent heq).trans hp)
    refine ⟨row, hroom ▸ hrow, ?_⟩
    exact (congrArg (Mirrors · row) heq).mp hmirrors
  · obtain ⟨r', hr', heq⟩ := hsame r hr
    have hne := h.unstored r' hr' ((congrArg ChatRoom.isPersistent heq).trans hp) row (hroom ▸ hrow)
    have haddress : r'.identity.roomAddress = r.identity.roomAddress := congrArg _ heq
    exact fun hsame => hne (hsame.trans haddress.symm)

theorem Loaded.mirrored {baseAddress : U16String} (hl : Loaded s baseAddress t) (h : Mirrored s) :
    Mirrored t := by
  have hrow : ∀ r ∈ t.rooms, ∃ row ∈ s.db.room, ∃ roomId, r = storedRoom roomId row := by
    intro r hr
    obtain ⟨row, hrow, _, roomId, rfl⟩ := hl.rooms r hr
    exact ⟨row, (List.mem_filter.mp hrow).1, roomId, rfl⟩
  refine ⟨hl.db ▸ h.tidy, hl.distinct, fun r hr _ => ?_, fun r hr hp => ?_⟩
  · obtain ⟨row, hrow, roomId, rfl⟩ := hrow r hr
    exact ⟨row, hl.db ▸ hrow, rfl, rfl, rfl⟩
  · obtain ⟨row, hrow, roomId, rfl⟩ := hrow r hr
    exact absurd ((h.tidy.persistent row hrow).symm.trans hp) (by simp)

/-- A transient room at an address that no row has. -/
theorem Mirrored.withRoom (h : Mirrored s) {r : ChatRoom}
    (hnew : s.roomExists r.roomAddress = false) (hp : r.isPersistent = false)
    (hfree : ∀ row ∈ s.db.room, toWideString row.roomAddress ≠ r.roomAddress) :
    Mirrored (s.withRoom r) := by
  refine ⟨h.tidy, distinctRooms_append h.distinct hnew rfl, fun r' hr' hp' => ?_, fun r' hr' hp' => ?_⟩
  · rcases List.mem_append.mp hr' with hr' | hr'
    · exact h.stored r' hr' hp'
    · rw [List.mem_singleton.mp hr'] at hp'
      exact absurd (hp.symm.trans hp') (by simp)
  · rcases List.mem_append.mp hr' with hr' | hr'
    · exact h.unstored r' hr' hp'
    · rw [List.mem_singleton.mp hr']
      exact hfree

theorem Database.insertRoom_of_new {db : Database} {columns : RoomColumns}
    (hnew : ∀ row ∈ db.room, row.roomName = columns.roomName → row.roomAddress ≠ columns.roomAddress)
    (hcreator : db.HasAvatar columns.creatorId) :
    db.insertRoom columns = some (db.nextRoomId, { db with
      room := db.room ++ [{ columns with id := db.nextRoomId }]
      nextRoomId := db.nextRoomId + 1 }) := by
  rw [Database.insertRoom, if_neg]
  rintro (⟨row, hrow, hname, haddress⟩ | hmissing)
  · exact hnew row hrow hname haddress
  · exact hmissing hcreator

/-- The new row goes in at the end. -/
theorem Database.Tidy.insert {db : Database} (h : db.Tidy) {row : RoomRow}
    (hp : (storedRoom 0 row).isPersistent = true) (hid : row.id = db.nextRoomId) :
    Database.Tidy { db with room := db.room ++ [row], nextRoomId := db.nextRoomId + 1 } := by
  have hcases : ∀ row' ∈ db.room ++ [row], row' ∈ db.room ∨ row' = row := by
    intro row' hrow'
    simpa using hrow'
  constructor
  · intro row' hrow'
    rcases hcases row' hrow' with hrow' | rfl
    · exact h.persistent row' hrow'
    · exact hp
  · intro a ha b hb heq
    rcases hcases a ha with hold | rfl <;> rcases hcases b hb with hold' | rfl
    · exact h.ids a hold b hold' heq
    · have hlt := h.below a hold
      omega
    · have hlt := h.below b hold'
      omega
    · rfl
  · intro a ha
    rcases hcases a ha with ha | rfl
    · exact Nat.lt_succ_of_lt (h.below a ha)
    · exact Nat.lt_succ_of_le (Nat.le_of_eq hid)

/-- A persistent room whose insert succeeds. -/
theorem Mirrored.persisted (h : Mirrored s) {r : ChatRoom}
    (hnew : s.roomExists r.roomAddress = false) (hp : r.isPersistent = true)
    (hkey : ∀ row ∈ s.db.room, row.roomName = fromWideString r.roomName →
      row.roomAddress ≠ fromWideString r.roomAddress)
    (hname : Narrowable r.roomName) (haddress : Narrowable r.roomAddress)
    (hf : s.fails s.executed = false) (hid : s.db.nextRoomId < 2 ^ 31)
    (hcreator : s.db.HasAvatar r.creatorId.toNat) :
    Mirrored (s.persisted r) ∧ ∃ row ∈ (s.persisted r).db.room, row ∉ s.db.room ∧
      toWideString row.roomName = r.roomName ∧ toWideString row.roomAddress = r.roomAddress := by
  let row : RoomRow := { roomColumns r with id := s.db.nextRoomId }
  let stored : ChatRoom := { r with dbId := toInt32 (UInt32.ofNat s.db.nextRoomId) }
  have hpersistent : (storedRoom 0 row).isPersistent = true := by
    rw [← hp]
    simp [ChatRoom.isPersistent, ChatRoom.hasAttribute, storedRoom, row, roomColumns]
  have hinsert : s.insertedRow r = _ :=
    (if_neg (by simp [hf])).trans (Database.insertRoom_of_new hkey hcreator)
  have hmem : row ∈ s.db.room ++ [row] := List.mem_append_right _ (List.mem_singleton.mpr rfl)
  have hmirrors : Mirrors stored row := ⟨(toInt32_ofNat hid).symm, hname, haddress⟩
  rw [Server.persisted, hinsert]
  refine ⟨⟨h.tidy.insert hpersistent rfl, ?_, fun r' hr' hp' => ?_, fun r' hr' hp' => ?_⟩,
    row, hmem, fun hrow => Nat.lt_irrefl _ (h.tidy.below row hrow), hname, haddress⟩
  · exact distinctRooms_append (r := stored) h.distinct hnew rfl
  · rcases List.mem_append.mp hr' with hr' | hr'
    · obtain ⟨row', hrow', hmirrors'⟩ := h.stored r' hr' hp'
      exact ⟨row', List.mem_append_left _ hrow', hmirrors'⟩
    · rw [List.mem_singleton.mp hr']
      exact ⟨row, hmem, hmirrors⟩
  · rcases List.mem_append.mp hr' with hr' | hr'
    · intro row' hrow'
      rcases List.mem_append.mp hrow' with hrow' | hrow'
      · exact h.unstored r' hr' hp' row' hrow'
      · rw [List.mem_singleton.mp hrow']
        exact fun heq => roomExists_eq_false.mp hnew r' hr' (heq.symm.trans haddress)
    · rw [List.mem_singleton.mp hr'] at hp'
      exact absurd (hp.symm.trans hp') (by simp)

/-- The row of a destroyed room goes. -/
theorem deletedRow_gone {r : ChatRoom} (hown : ∀ row ∈ s.db.room, toWideString row.roomAddress = r.roomAddress →
    (row.id : Int) = r.dbId) :
    ∀ row ∈ (s.deletedRow r.dbId).db.room, toWideString row.roomAddress ≠ r.roomAddress := by
  intro row hrow heq
  obtain ⟨hmem, hid⟩ := List.mem_filter.mp hrow
  exact of_decide_eq_true hid (hown row hmem heq)

theorem Database.Tidy.delete {db : Database} (h : db.Tidy) (id : Int) : (db.deleteRoom id).Tidy := by
  have hsub : ∀ row ∈ (db.deleteRoom id).room, row ∈ db.room := fun row hrow =>
    (List.mem_filter.mp hrow).1
  exact ⟨fun a ha => h.persistent a (hsub a ha),
    fun a ha b hb => h.ids a (hsub a ha) b (hsub b hb),
    fun a ha => h.below a (hsub a ha)⟩

private theorem DistinctRooms.withoutRoom (h : s.DistinctRooms) (roomId : UInt32) :
    (s.withoutRoom roomId).DistinctRooms :=
  h.sublist (List.filter_sublist.map _)

theorem mirrored_destroy (h : Mirrored s) (hcall : s.call (.destroy room) = some t) : Mirrored t := by
  obtain ⟨r, hr, ⟨rfl, _⟩ | ⟨rfl, hp, _⟩ | ⟨rfl, _⟩⟩ := destroy_cases hcall
  · exact ⟨h.tidy, h.distinct, h.stored, h.unstored⟩
  · have hmem := List.mem_of_getElem? hr
    refine ⟨h.tidy.delete _, DistinctRooms.withoutRoom h.distinct _, fun r' hr' hp' => ?_,
      fun r' hr' hp' row hrow => ?_⟩
    · obtain ⟨hmem', hid⟩ := List.mem_filter.mp hr'
      obtain ⟨row, hrow, hmirrors⟩ := h.stored r' hmem' hp'
      refine ⟨row, List.mem_filter.mpr ⟨hrow, ?_⟩, hmirrors⟩
      refine decide_eq_true fun heq => ?_
      obtain ⟨own, hown, hdbId, _, haddress⟩ := h.stored r hmem hp
      have hsame := h.tidy.ids row hrow own hown (Int.ofNat_inj.mp (heq.trans hdbId.symm))
      have hroom : r' = r := List.inj_on_of_nodup_map h.distinct hmem' hmem
        (hmirrors.2.2.symm.trans (hsame ▸ haddress))
      simp [hroom] at hid
    · exact h.unstored r' (List.mem_filter.mp hr').1 hp' row (List.mem_filter.mp hrow).1
  · exact ⟨h.tidy, DistinctRooms.withoutRoom h.distinct _,
      fun r' hr' => h.stored r' (List.mem_filter.mp hr').1,
      fun r' hr' => h.unstored r' (List.mem_filter.mp hr').1⟩

theorem mirrored_create {creator : Option AvatarPtr} {roomName roomTopic roomPassword : U16String}
    {roomAttributes maxRoomSize : UInt32} {roomAddress : U16String} (h : Mirrored s)
    (ha : s.Storable (.create creator roomName roomTopic roomPassword roomAttributes maxRoomSize
      roomAddress))
    (hcall : s.call (.create creator roomName roomTopic roomPassword roomAttributes maxRoomSize
      roomAddress) = some t) :
    Mirrored t ∧ (s.roomExists (fullAddress roomAddress roomName) = false →
      roomAttributes &&& RoomAttribute.persistent.mask ≠ 0 →
      ∃ row ∈ t.db.room, row ∉ s.db.room ∧ toWideString row.roomName = roomName ∧
        toWideString row.roomAddress = fullAddress roomAddress roomName) := by
  rcases create_cases hcall with ⟨htaken, rfl⟩ | ⟨hfree, avatar, r, rfl, hr, rfl⟩
  · exact ⟨h, fun hfree => absurd (htaken.symm.trans hfree) (by simp)⟩
  have hstore := ha.resolve_left (by simp [hfree])
  have haddress : r.roomAddress = fullAddress roomAddress roomName := by rw [hr]; rfl
  have hname : r.roomName = roomName := by rw [hr]; rfl
  rw [← haddress] at hfree
  have hpersistent : r.isPersistent = true ↔ roomAttributes &&& RoomAttribute.persistent.mask ≠ 0 := by
    rw [hr]
    simp [ChatRoom.isPersistent, ChatRoom.hasAttribute, ChatRoom.make]
  by_cases hp : r.isPersistent = true
  · rw [if_pos (hpersistent.mp hp)] at hstore
    obtain ⟨hnarrow, hf, hid, hcreator, hkey⟩ := hstore
    rw [← haddress] at hnarrow hkey
    rw [← hname] at hkey
    have hcreator : s.db.HasAvatar r.creatorId.toNat := by
      rw [hr]
      exact hcreator avatar rfl
    have hnarrowName : Narrowable r.roomName := by
      rw [narrowable_iff_units] at hnarrow ⊢
      intro u hu
      refine hnarrow u (haddress ▸ ?_)
      exact List.mem_append_right _ (List.mem_cons_of_mem _ (hname ▸ hu))
    obtain ⟨hmirrored, row, hrow, hnewRow, hrowName, hrowAddress⟩ :=
      h.persisted hfree hp hkey hnarrowName hnarrow hf hid hcreator
    rw [Server.added, if_pos hp]
    exact ⟨hmirrored, fun _ _ => ⟨row, hrow, hnewRow, hrowName.trans hname,
      hrowAddress.trans haddress⟩⟩
  · rw [if_neg fun hbit => hp (hpersistent.mpr hbit), ← haddress] at hstore
    rw [Server.added, if_neg hp]
    exact ⟨h.withRoom hfree (by simpa using hp) hstore, fun _ hbit => absurd (hpersistent.mpr hbit) hp⟩

/-- One call. -/
theorem mirrored_step {c : RoomCall} (h : Mirrored s) (ha : s.Storable c) (hcall : s.call c = some t) :
    Mirrored t := by
  cases c with
  | load baseAddress =>
    obtain ⟨result, hrun⟩ := Server.call_eq_some hcall
    exact (loaded_of_run hrun).mirrored h
  | create => exact (mirrored_create h ha hcall).1
  | destroy => exact mirrored_destroy h hcall
  | role operation room srcAvatarId avatar =>
    have hframe := role_frame hcall
    exact h.of_identity hframe.rooms (by rw [hframe.db]) (by rw [hframe.db])
  | loadRole =>
    obtain ⟨r, _, hquiet⟩ := loadRole_cases hcall
    exact h.of_identity hquiet.rooms (by rw [hquiet.db]) (by rw [hquiet.db])
  | operate =>
    have hquiet := operate_quiet hcall
    exact h.of_identity hquiet.rooms (by rw [hquiet.db]) (by rw [hquiet.db])

end Steps

section Runs
variable {s t : Server} {db : Database} {fails : Nat → Bool} {version : UInt32}
  {config : Policy.Config} {c : RoomCall}

theorem mirrored_run (hdb : db.Tidy)
    (h : Server.Calls Server.Storable (Server.start db fails version config) s) : Mirrored s :=
  Runs.invariant h ⟨hdb, List.nodup_nil, by simp [Server.start], by simp [Server.start]⟩
    fun _ _ _ hi ha hcall => mirrored_step hi ha hcall

/-- What a call must leave for the room table to mirror the persistent rooms. -/
structure TableMirrors (s : Server) (c : RoomCall) (t : Server) : Prop where
  stored : ∀ r ∈ t.rooms, r.isPersistent = true → ∃ row ∈ t.db.room, Mirrors r row
  created : ∀ creator roomName roomTopic roomPassword roomAttributes maxRoomSize roomAddress,
    c = .create creator roomName roomTopic roomPassword roomAttributes maxRoomSize roomAddress →
    (c.run s).1 = .ok () → roomAttributes &&& RoomAttribute.persistent.mask ≠ 0 →
    ∃ row ∈ t.db.room, row ∉ s.db.room ∧ toWideString row.roomName = roomName ∧
      toWideString row.roomAddress = fullAddress roomAddress roomName
  destroyed : ∀ room r, c = .destroy room → s.rooms[room]? = some r → (c.run s).1 = .ok () →
    (∀ row ∈ t.db.room, toWideString row.roomAddress ≠ r.roomAddress) ∧
      ∀ baseAddress result u, loadRoomsFromStorage baseAddress t = (result, u) →
        ∀ r' ∈ u.rooms, r'.roomAddress ≠ r.roomAddress

/-- In a run whose calls are all storable, the room table mirrors the persistent rooms after every call. -/
theorem table_mirrors (hdb : db.Tidy)
    (h : Server.Calls Server.Storable (Server.start db fails version config) s) (ha : s.Storable c)
    (hcall : s.call c = some t) : TableMirrors s c t := by
  have hs := mirrored_run hdb h
  have ht := mirrored_step hs ha hcall
  refine ⟨ht.stored, ?_, ?_⟩
  · rintro creator roomName roomTopic roomPassword roomAttributes maxRoomSize roomAddress rfl hok hbit
    refine (mirrored_create hs ha hcall).2 (Bool.eq_false_iff.mpr fun htaken => ?_) hbit
    rw [create_refused htaken] at hok
    exact absurd hok (by simp)
  · rintro room r rfl hr hok
    have hgone : ∀ row ∈ t.db.room, toWideString row.roomAddress ≠ r.roomAddress := by
      obtain ⟨r', hr', ⟨rfl, hp, hf⟩ | ⟨rfl, hp, _⟩ | ⟨rfl, hp⟩⟩ := destroy_cases hcall
      · have hrun := destroyRoom_run hr'
        rw [if_pos (by simp [hp, hf])] at hrun
        simp [RoomCall.run, hrun] at hok
      · obtain rfl : r' = r := Option.some.inj (hr'.symm.trans hr)
        exact deletedRow_gone (ha r' hr hp)
      · obtain rfl : r' = r := Option.some.inj (hr'.symm.trans hr)
        exact hs.unstored r' (List.mem_of_getElem? hr) hp
    refine ⟨hgone, fun baseAddress result u hload r' hr' => ?_⟩
    obtain ⟨row, hrow, _, roomId, rfl⟩ := (loaded_of_run hload).rooms r' hr'
    exact hgone row (List.mem_filter.mp hrow).1

theorem Database.tidy_twoAvatars : Database.twoAvatars.Tidy :=
  ⟨by simp [Database.twoAvatars, Database.empty], by simp [Database.twoAvatars, Database.empty],
    by simp [Database.twoAvatars, Database.empty]⟩

/-- The first of two stored rooms is destroyed. -/
theorem table_mirrors_destroyed : ∃ s t, s.rooms.length = 2 ∧ t.db.room.length = 1 ∧ TableMirrors s (.destroy 0) t := by
  have hrun : ∃ s, Server.Calls Server.Storable Server.twoAvatars s ∧ s.rooms.length = 2 ∧ s.Storable (.destroy 0) ∧
      (s.call (.destroy 0)).any (·.db.room.length == 1) = true :=
    Runs.exists_of_admitted [createPersistent [0x72] [0x62], createPersistent [0x71] [0x62]] (by decide +kernel)
  obtain ⟨s, hcalls, hrooms, hstorable, hcall⟩ := hrun
  obtain ⟨t, ht, hlength⟩ := (Option.any_eq_true _ _).mp hcall
  exact ⟨s, t, hrooms, eq_of_beq hlength, table_mirrors Database.tidy_twoAvatars hcalls hstorable ht⟩

/-- A persistent room whose insert fails is reported as created, with no row. A transient room may
take the address of a stored one; it is destroyed, the row stays, and a load brings a room back. -/
theorem table_misses_a_room :
    (((createPersistent [0x72] [0x62]).run { Server.twoAvatars with fails := (· == 0) }).1 = .ok () ∧
      ∃ s, Server.Calls (fun _ _ => True) { Server.twoAvatars with fails := (· == 0) } s ∧
        ∃ r ∈ s.rooms[0]?, r.isPersistent = true ∧ s.db.room = []) ∧
    ∃ s, Server.Calls (fun _ _ => True) Server.twoAvatars s ∧
      (RoomCall.run (.destroy 0) s).1 = .ok () ∧
      ∃ r ∈ s.rooms[0]?, ∃ t ∈ s.call (.destroy 0),
        (∃ row ∈ t.db.room, toWideString row.roomAddress = r.roomAddress) ∧
        ∃ u ∈ t.call (.load [0x62]), ∃ r' ∈ u.rooms, r'.roomAddress = r.roomAddress := by
  refine ⟨⟨by decide +kernel, ?_⟩, ?_⟩
  · exact Runs.exists_of_inputs [createPersistent [0x72] [0x62]] (by decide +kernel)
      fun _ _ => trivial
  · exact Runs.exists_of_inputs [createPersistent [0x72] [0x62], .load [0x61],
      .create (some firstAvatar) [0x72] [] [] 0 0 [0x62]] (by decide +kernel) fun _ _ => trivial

end Runs
end StationChat
