import StationChat.Rooms.Loading

/-! Which persistent rooms come back from a load as they were. -/
namespace StationChat
open Lib Lib.Action

/-- The keys of the room table. -/
structure Database.RoomKeys (db : Database) : Prop where
  ids : ∀ row ∈ db.room, ∀ row' ∈ db.room, row.id = row'.id → row = row'
  named : ∀ row ∈ db.room, ∀ row' ∈ db.room,
    row.roomName = row'.roomName → row.roomAddress = row'.roomAddress → row = row'
  below : ∀ row ∈ db.room, row.id < db.nextRoomId

/-- The row holds the columns of the room; the message counter moves on without being stored. -/
def StoredAs (r : ChatRoom) (row : RoomRow) : Prop :=
  (row.id : Int) = r.dbId ∧
    { row.toRoomColumns with roomMessageId := 0 } = roomColumns r.identity

/-- Each persistent room has a row of its own. -/
structure Rowed (s : Server) : Prop where
  keys : s.db.RoomKeys
  stored : ∀ r ∈ s.rooms, r.isPersistent = true → ∃ row ∈ s.db.room, StoredAs r row
  apart : ∀ r ∈ s.rooms, ∀ r' ∈ s.rooms, r.isPersistent = true → r'.isPersistent = true →
    r.dbId = r'.dbId → r.identity = r'.identity

/-- Creations, role operations and destructions, while the room table hands out readable ids. -/
def Server.Edits (s : Server) : RoomCall → Prop
  | .create .. => s.db.nextRoomId < 2 ^ 31
  | .role .. | .destroy _ => True
  | _ => False

theorem Database.insertRoom_eq_some {db db' : Database} {columns : RoomColumns} {id : Nat}
    (h : db.insertRoom columns = some (id, db')) :
    (∀ row ∈ db.room, ¬ (row.roomName = columns.roomName ∧ row.roomAddress = columns.roomAddress)) ∧
      id = db.nextRoomId ∧ db' = { db with
        room := db.room ++ [{ columns with id := db.nextRoomId }]
        nextRoomId := db.nextRoomId + 1 } := by
  unfold Database.insertRoom at h
  split at h
  · exact absurd h (by simp)
  · rename_i hnew
    obtain ⟨rfl, rfl⟩ := Prod.mk.inj (Option.some.inj h)
    exact ⟨fun row hrow hsame => hnew (.inl ⟨row, hrow, hsame⟩), rfl, rfl⟩

theorem Database.RoomKeys.insertRoom {db db' : Database} {columns : RoomColumns} {id : Nat} (h : db.RoomKeys)
    (hinsert : db.insertRoom columns = some (id, db')) : db'.RoomKeys := by
  obtain ⟨hnew, rfl, rfl⟩ := Database.insertRoom_eq_some hinsert
  refine ⟨?_, ?_, ?_⟩
  · intro a ha b hb heq
    rcases List.mem_append.mp ha with ha | ha <;> rcases List.mem_append.mp hb with hb | hb
    · exact h.ids a ha b hb heq
    · rw [List.mem_singleton.mp hb] at heq
      exact absurd heq (Nat.ne_of_lt (h.below a ha))
    · rw [List.mem_singleton.mp ha] at heq
      exact absurd heq.symm (Nat.ne_of_lt (h.below b hb))
    · exact (List.mem_singleton.mp ha).trans (List.mem_singleton.mp hb).symm
  · intro a ha b hb hname haddress
    rcases List.mem_append.mp ha with ha | ha <;> rcases List.mem_append.mp hb with hb | hb
    · exact h.named a ha b hb hname haddress
    · rw [List.mem_singleton.mp hb] at hname haddress
      exact absurd ⟨hname, haddress⟩ (hnew a ha)
    · rw [List.mem_singleton.mp ha] at hname haddress
      exact absurd ⟨hname.symm, haddress.symm⟩ (hnew b hb)
    · exact (List.mem_singleton.mp ha).trans (List.mem_singleton.mp hb).symm
  · intro a ha
    rcases List.mem_append.mp ha with ha | ha
    · exact Nat.lt_succ_of_lt (h.below a ha)
    · rw [List.mem_singleton.mp ha]
      exact Nat.lt_succ_self _

theorem Database.RoomKeys.sublist {db db' : Database} (h : db.RoomKeys) (hrows : ∀ row ∈ db'.room, row ∈ db.room)
    (hnext : db.nextRoomId ≤ db'.nextRoomId) : db'.RoomKeys where
  ids a ha b hb := h.ids a (hrows a ha) b (hrows b hb)
  named a ha b hb := h.named a (hrows a ha) b (hrows b hb)
  below a ha := Nat.lt_of_lt_of_le (h.below a (hrows a ha)) hnext

section Steps
variable {s t : Server} {room : RoomPtr}

theorem Rowed.of_identity (h : Rowed s)
    (hrooms : t.rooms.map ChatRoom.identity = s.rooms.map ChatRoom.identity)
    (hroom : t.db.room = s.db.room) (hnext : t.db.nextRoomId = s.db.nextRoomId) : Rowed t := by
  have hsame : ∀ r ∈ t.rooms, ∃ r' ∈ s.rooms, r'.identity = r.identity := fun r hr =>
    List.mem_map.mp (hrooms ▸ List.mem_map_of_mem hr)
  refine ⟨?_, fun r hr hp => ?_, fun a ha b hb hpa hpb hid => ?_⟩
  · obtain ⟨h1, h2, h3⟩ := h.keys
    constructor <;> simpa only [hroom, hnext]
  · obtain ⟨r', hr', heq⟩ := hsame r hr
    obtain ⟨row, hrow, hstored⟩ := h.stored r' hr' ((congrArg ChatRoom.isPersistent heq).trans hp)
    refine ⟨row, hroom ▸ hrow, ?_⟩
    exact (congrArg (StoredAs · row) heq).mp hstored
  · obtain ⟨a', ha', heqa⟩ := hsame a ha
    obtain ⟨b', hb', heqb⟩ := hsame b hb
    have hida : a'.identity.dbId = a.identity.dbId := congrArg _ heqa
    have hidb : b'.identity.dbId = b.identity.dbId := congrArg _ heqb
    have hsameId : a'.dbId = b'.dbId := hida.trans (hid.trans hidb.symm)
    rw [← heqa, ← heqb]
    exact h.apart a' ha' b' hb' ((congrArg ChatRoom.isPersistent heqa).trans hpa)
      ((congrArg ChatRoom.isPersistent heqb).trans hpb) hsameId

theorem Rowed.withRoom (h : Rowed s) {r : ChatRoom} (hp : r.isPersistent = false) :
    Rowed (s.withRoom r) := by
  have hcases : ∀ r' ∈ (s.withRoom r).rooms, r'.isPersistent = true → r' ∈ s.rooms := by
    intro r' hr' hp'
    rcases List.mem_append.mp hr' with hr' | hr'
    · exact hr'
    · rw [List.mem_singleton.mp hr'] at hp'
      exact absurd (hp.symm.trans hp') (by simp)
  exact ⟨h.keys, fun r' hr' hp' => h.stored r' (hcases r' hr' hp') hp',
    fun a ha b hb hpa hpb => h.apart a (hcases a ha hpa) b (hcases b hb hpb) hpa hpb⟩

/-- A persistent room, unless its insert fails. -/
theorem Rowed.persisted (h : Rowed s) {r : ChatRoom} (hid : s.db.nextRoomId < 2 ^ 31)
    (hok : (s.persisted r).failures = s.failures) : Rowed (s.persisted r) := by
  cases hrow : s.insertedRow r with
  | none =>
    rw [Server.persisted, hrow] at hok
    exact absurd hok (Nat.succ_ne_self _)
  | some result =>
    obtain ⟨id, db⟩ := result
    obtain ⟨hnew, rfl, rfl⟩ := Database.insertRoom_eq_some (insertedRow_eq_some hrow).2
    rw [Server.persisted, hrow]
    have hold : ∀ a ∈ s.rooms, a.isPersistent = true →
        a.dbId ≠ toInt32 (UInt32.ofNat s.db.nextRoomId) := by
      intro a ha hp heq
      obtain ⟨row, hrow, hid', _⟩ := h.stored a ha hp
      rw [heq, toInt32_ofNat hid] at hid'
      exact absurd (Int.ofNat.inj hid') (Nat.ne_of_lt (h.keys.below row hrow))
    refine ⟨h.keys.insertRoom (insertedRow_eq_some hrow).2, ?_, ?_⟩
    · intro a ha hp
      rcases List.mem_append.mp ha with ha | ha
      · obtain ⟨row, hrow, hstored⟩ := h.stored a ha hp
        exact ⟨row, List.mem_append_left _ hrow, hstored⟩
      · rw [List.mem_singleton.mp ha]
        exact ⟨_, List.mem_append_right _ (List.mem_singleton_self _), (toInt32_ofNat hid).symm, rfl⟩
    · intro a ha b hb hpa hpb heq
      rcases List.mem_append.mp ha with ha | ha <;> rcases List.mem_append.mp hb with hb | hb
      · exact h.apart a ha b hb hpa hpb heq
      · rw [List.mem_singleton.mp hb] at heq
        exact absurd heq (hold a ha hpa)
      · rw [List.mem_singleton.mp ha] at heq
        exact absurd heq.symm (hold b hb hpb)
      · rw [List.mem_singleton.mp ha, List.mem_singleton.mp hb]

/-- The row that goes is the row of the rooms that go. -/
theorem rowed_destroy (h : Rowed s) (hcall : s.call (.destroy room) = some t) : Rowed t := by
  obtain ⟨r, hr, ⟨rfl, _⟩ | ⟨rfl, hp, _⟩ | ⟨rfl, _⟩⟩ := destroy_cases hcall
  · exact ⟨h.keys, h.stored, h.apart⟩
  · have hrow : ∀ row ∈ s.db.room.filter (fun row => (row.id : Int) ≠ r.dbId), row ∈ s.db.room :=
      fun row hrow => (List.mem_filter.mp hrow).1
    have hroom : ∀ a ∈ s.rooms.filter (·.roomId != r.roomId), a ∈ s.rooms ∧ a.roomId ≠ r.roomId :=
      fun a ha => ⟨(List.mem_filter.mp ha).1, by simpa using (List.mem_filter.mp ha).2⟩
    refine ⟨h.keys.sublist hrow (Nat.le_refl _), ?_, ?_⟩
    · intro a ha hpa
      obtain ⟨row, hmem, hid, hcolumns⟩ := h.stored a (hroom a ha).1 hpa
      refine ⟨row, List.mem_filter.mpr ⟨hmem, ?_⟩, hid, hcolumns⟩
      have hne : a.dbId ≠ r.dbId := fun heq =>
        have hsame : a.identity.roomId = r.identity.roomId :=
          congrArg _ (h.apart a (hroom a ha).1 r (List.mem_of_getElem? hr) hpa hp heq)
        (hroom a ha).2 hsame
      rw [hid]
      simpa using hne
    · exact fun a ha b hb => h.apart a (hroom a ha).1 b (hroom b hb).1
  · have hroom : ∀ a ∈ s.rooms.filter (·.roomId != r.roomId), a ∈ s.rooms :=
      fun a ha => (List.mem_filter.mp ha).1
    exact ⟨h.keys, fun a ha => h.stored a (hroom a ha),
      fun a ha b hb => h.apart a (hroom a ha) b (hroom b hb)⟩

/-- One call none of whose statements fails. -/
theorem rowed_step {c : RoomCall} (h : Rowed s) (ha : s.Edits c) (hcall : s.call c = some t)
    (hok : t.failures = s.failures) : Rowed t := by
  cases c with
  | create =>
    rcases create_cases hcall with ⟨_, rfl⟩ | ⟨_, avatar, r, _, _, rfl⟩
    · exact h
    · unfold Server.added at hok ⊢
      by_cases hp : r.isPersistent = true
      · rw [if_pos hp] at hok ⊢
        exact h.persisted ha hok
      · rw [if_neg hp]
        exact h.withRoom (by simpa using hp)
  | role =>
    have hframe := role_frame hcall
    exact h.of_identity hframe.rooms (by rw [hframe.db]) (by rw [hframe.db])
  | destroy => exact rowed_destroy h hcall
  | load => exact ha.elim
  | loadRole => exact ha.elim
  | operate => exact ha.elim

theorem failures_le_of_edit {c : RoomCall} (ha : s.Edits c) (hcall : s.call c = some t) :
    s.failures ≤ t.failures := by
  cases c with
  | create =>
    rcases create_cases hcall with ⟨_, rfl⟩ | ⟨_, avatar, r, _, _, rfl⟩
    · exact Nat.le_refl _
    · exact (added_rooms r).2.2
  | role => exact (role_frame hcall).failures
  | destroy =>
    obtain ⟨r, _, ⟨rfl, _⟩ | ⟨rfl, _⟩ | ⟨rfl, _⟩⟩ := destroy_cases hcall
    · exact Nat.le_succ _
    · exact Nat.le_refl _
    · exact Nat.le_refl _
  | load => exact ha.elim
  | loadRole => exact ha.elim
  | operate => exact ha.elim

/-- In every run none of whose statements failed. -/
theorem rowed_run {db : Database} {fails : Nat → Bool} {version : UInt32} {config : Policy.Config}
    (hkeys : db.RoomKeys) (h : Server.Calls Server.Edits (Server.start db fails version config) s)
    (hok : s.failures = 0) : Rowed s := by
  refine Runs.invariant (I := fun s => s.failures = 0 → Rowed s) h
    (fun _ => ⟨hkeys, by simp [Server.start], by simp [Server.start]⟩) ?_ hok
  intro s c t hi ha hcall ht
  have hle := failures_le_of_edit ha hcall
  have hs : s.failures = 0 := Nat.le_zero.mp (ht ▸ hle)
  exact rowed_step (hi hs) ha hcall (ht.trans hs.symm)

end Steps

section Survival
variable {s : Server} {rows : List RoomRow}

/-- A room that is found stays the one found while rows are read. -/
private theorem find?_loadRows_of_some {p : ChatRoom → Bool} {r : ChatRoom}
    (h : s.rooms.find? p = some r) (rows : List RoomRow) :
    (s.loadRows rows).rooms.find? p = some r := by
  obtain ⟨added, hadded⟩ := loadRows_extends (s := s) rows
  rw [← hadded, List.find?_append, h]
  rfl

/-- An address that is new finds the first row that has it. -/
theorem find?_loadRows {address : U16String} (h : s.roomExists address = false)
    (rows : List RoomRow) : ∃ roomId,
      (s.loadRows rows).rooms.find? (fun r => address == r.roomAddress) =
        (rows.find? fun row => address == toWideString row.roomAddress).map (storedRoom roomId) := by
  induction rows generalizing s with
  | nil =>
    refine ⟨0, List.find?_eq_none.mpr fun r hr => ?_⟩
    simpa using (roomExists_eq_false.mp h r hr).symm
  | cons row rest ih =>
    have hnone : s.rooms.find? (fun r => address == r.roomAddress) = none :=
      List.find?_eq_none.mpr fun r hr => by simpa using (roomExists_eq_false.mp h r hr).symm
    by_cases heq : address = toWideString row.roomAddress
    · refine ⟨s.nextRoomId, ?_⟩
      have hrow : s.loadRow row =
          { s.takeRoomId with rooms := s.rooms ++ [storedRoom s.nextRoomId row] } := by
        rw [Server.loadRow, ← heq, h, if_neg (by simp)]
      have hfound : (s.loadRow row).rooms.find? (fun r => address == r.roomAddress) =
          some (storedRoom s.nextRoomId row) := by
        rw [hrow, List.find?_append, hnone, heq]
        simp [storedRoom]
      rw [List.find?_cons_of_pos (by simpa using heq)]
      exact find?_loadRows_of_some hfound rest
    · have hnew : (s.loadRow row).roomExists address = false := by
        refine roomExists_eq_false.mpr fun r hr => ?_
        unfold Server.loadRow at hr
        split at hr
        · exact roomExists_eq_false.mp h r hr
        · rcases List.mem_append.mp hr with hr | hr
          · exact roomExists_eq_false.mp h r hr
          · rw [List.mem_singleton.mp hr]
            exact fun hsame => heq hsame.symm
      obtain ⟨roomId, hfind⟩ := ih hnew
      refine ⟨roomId, ?_⟩
      rw [List.find?_cons_of_neg (by simpa using heq)]
      exact hfind

/-- The same creator, name, topic, password, attributes and size, and the same avatars in the three
stored lists. -/
def SameRoom (R r : ChatRoom) : Prop :=
  (r.creatorId = R.creatorId ∧ r.creatorName = R.creatorName ∧
    r.creatorAddress = R.creatorAddress) ∧
  (r.roomName = R.roomName ∧ r.roomTopic = R.roomTopic ∧ r.roomPassword = R.roomPassword) ∧
  (r.roomAttributes = R.roomAttributes ∧ r.maxRoomSize = R.maxRoomSize) ∧
  ∀ table : RoleTable, ∀ avatarId, r.inList table.list avatarId = R.inList table.list avatarId

/-- The load ends, and the room then found at the address of `R` is the same room. -/
def Survives (s : Server) (baseAddress : U16String) (R : ChatRoom) : Prop :=
  ∃ t room r, loadRoomsFromStorage baseAddress s = (.ok (), t) ∧
    getRoom R.roomAddress t = (.ok (some room), t) ∧ t.rooms[room]? = some r ∧ SameRoom R r

/-- The room has no administrator, moderator or banned avatar, as no load fills these lists in. Its
texts survive storage, its row is selected, and no other row takes its address first. -/
structure Reloadable (s : Server) (baseAddress : U16String) (R : ChatRoom) : Prop where
  lists : ∀ table : RoleTable, R.list table.list = []
  texts : ∀ text ∈ [R.creatorName, R.creatorAddress, R.roomName, R.roomTopic, R.roomPassword,
    R.roomAddress], Narrowable text
  small : ∀ row ∈ s.selectedRooms baseAddress, row.Small
  selected : addressLike s.db.collation (fromWideString baseAddress) (fromWideString R.roomAddress) = true
  first : ∀ row ∈ (s.selectedRooms baseAddress).find? (fun row =>
    row.roomAddress = fromWideString R.roomAddress), row.roomName = fromWideString R.roomName

instance (baseAddress : U16String) (R : ChatRoom) : Decidable (Reloadable s baseAddress R) :=
  decidable_of_iff ((∀ table ∈ [RoleTable.administrator, .moderator, .ban],
      R.list table.list = []) ∧
    (∀ text ∈ [R.creatorName, R.creatorAddress, R.roomName, R.roomTopic, R.roomPassword,
      R.roomAddress], Narrowable text) ∧
    (∀ row ∈ s.selectedRooms baseAddress, row.Small) ∧
    addressLike s.db.collation (fromWideString baseAddress) (fromWideString R.roomAddress) = true ∧
    ∀ row ∈ (s.selectedRooms baseAddress).find? (fun row =>
      row.roomAddress = fromWideString R.roomAddress), row.roomName = fromWideString R.roomName)
  ⟨fun ⟨hlists, htexts, hsmall, hlike, hfirst⟩ =>
      ⟨fun table => hlists table (by cases table <;> simp), htexts, hsmall, hlike, hfirst⟩,
    fun h => ⟨fun table _ => h.lists table, h.texts, h.small, h.selected, h.first⟩⟩

private theorem sameRoom_storedRoom {R : ChatRoom} {roomId : UInt32} {row : RoomRow}
    (h : SameRoom R (storedRoom roomId row)) (table : RoleTable) : R.list table.list = [] := by
  have hempty : ∀ avatarId, R.inList table.list avatarId = false := by
    intro avatarId
    rw [← h.2.2.2 table avatarId]
    cases table <;> rfl
  cases hlist : R.list table.list with
  | nil => rfl
  | cons avatar rest =>
    have hin := hempty avatar.avatarId
    simp [ChatRoom.inList, hlist] at hin

/-- What survives, in terms of the first row at the address. -/
private theorem survives_iff_row {baseAddress : U16String} {R : ChatRoom}
    (hf : s.fails s.executed = false) : Survives s baseAddress R ↔
      (∀ row ∈ s.selectedRooms baseAddress, row.Small) ∧
        ∃ row roomId, (s.selectedRooms baseAddress).find? (fun row =>
          R.roomAddress == toWideString row.roomAddress) = some row ∧
          SameRoom R (storedRoom roomId row) := by
  have hrun := loadRoomsFromStorage_run baseAddress hf
  rw [loadRoomRows_run] at hrun
  have hfresh : s.cleared.roomExists R.roomAddress = false := rfl
  obtain ⟨roomId, hfind⟩ := find?_loadRows hfresh (s.selectedRooms baseAddress)
  constructor
  · rintro ⟨t, room, r, hload, hroom, hr, hsame⟩
    by_cases hsmall : ∀ row ∈ s.selectedRooms baseAddress, row.Small
    case neg =>
      rw [if_neg hsmall, hload] at hrun
      exact absurd (Prod.mk.inj hrun).1 (by simp)
    rw [if_pos hsmall, hload] at hrun
    obtain rfl := (Prod.mk.inj hrun).2
    have hidx : (s.cleared.loadRows (s.selectedRooms baseAddress)).rooms.findIdx?
        (fun r => R.roomAddress == r.roomAddress) = some room :=
      Except.ok.inj (Prod.mk.inj hroom).1
    rw [List.find?_eq_bind_findIdx?_getElem?, hidx, Option.bind_some, hr] at hfind
    obtain ⟨row, hrow, rfl⟩ := Option.map_eq_some_iff.mp hfind.symm
    exact ⟨hsmall, row, roomId, hrow, hsame⟩
  · rintro ⟨hsmall, row, anyId, hrow, hsame⟩
    rw [if_pos hsmall] at hrun
    rw [hrow, Option.map_some, List.find?_eq_bind_findIdx?_getElem?] at hfind
    obtain ⟨room, hroom, hr⟩ := Option.bind_eq_some_iff.mp hfind
    refine ⟨_, room, _, hrun, ?_, hr, hsame⟩
    exact congrArg (fun found => (Except.ok found, _)) hroom

private theorem widen_eq_iff {text : U16String} (h : Narrowable text) (stored : StdString) :
    (text == toWideString stored) = decide (stored = fromWideString text) := by
  rw [Bool.eq_iff_iff, beq_iff_eq, decide_eq_true_iff]
  constructor
  · rintro rfl
    rw [fromWideString_toWideString]
  · rintro rfl
    exact h.symm

/-- After any run of calls whose statements all succeed, a persistent room comes back from a load
exactly if it is reloadable. -/
theorem survives_iff {db : Database} {fails : Nat → Bool} {version : UInt32}
    {config : Policy.Config} (hkeys : db.RoomKeys)
    (h : Server.Calls Server.Edits (Server.start db fails version config) s) (hok : s.failures = 0)
    {R : ChatRoom} (hR : R ∈ s.rooms) (hp : R.isPersistent = true) (baseAddress : U16String)
    (hf : s.fails s.executed = false) : Survives s baseAddress R ↔ Reloadable s baseAddress R := by
  rw [survives_iff_row hf]
  constructor
  · rintro ⟨hsmall, row, roomId, hrow, hsame⟩
    have haddress : R.roomAddress = toWideString row.roomAddress := by
      simpa using List.find?_some hrow
    have hmem := List.mem_filter.mp (List.mem_of_find?_eq_some hrow)
    have hlists := sameRoom_storedRoom hsame
    obtain ⟨⟨_, hname, hcreator⟩, ⟨hroomName, htopic, hpassword⟩, _, _⟩ := hsame
    have hnarrow : Narrowable R.roomAddress := haddress ▸ narrowable_toWideString _
    refine ⟨hlists, ?_, hsmall, ?_, ?_⟩
    · intro text htext
      simp only [List.mem_cons, List.not_mem_nil, or_false] at htext
      rcases htext with rfl | rfl | rfl | rfl | rfl | rfl
      · exact hname ▸ narrowable_toWideString _
      · exact hcreator ▸ narrowable_toWideString _
      · exact hroomName ▸ narrowable_toWideString _
      · exact htopic ▸ narrowable_toWideString _
      · exact hpassword ▸ narrowable_toWideString _
      · exact hnarrow
    · rw [haddress, fromWideString_toWideString]
      exact hmem.2
    · intro row' hrow'
      simp only [widen_eq_iff hnarrow] at hrow
      obtain rfl := Option.some.inj (hrow.symm.trans hrow')
      rw [← hroomName]
      exact (fromWideString_toWideString _).symm
  · intro hreload
    have hrowed := rowed_run hkeys h hok
    obtain ⟨row, hrow, _, hcolumns⟩ := hrowed.stored R hR hp
    have haddress : row.roomAddress = fromWideString R.roomAddress :=
      congrArg (fun c : RoomColumns => c.roomAddress) hcolumns
    have hname : row.roomName = fromWideString R.roomName :=
      congrArg (fun c : RoomColumns => c.roomName) hcolumns
    have htexts : ∀ text ∈ [R.creatorName, R.creatorAddress, R.roomName, R.roomTopic,
        R.roomPassword, R.roomAddress], toWideString (fromWideString text) = text := hreload.texts
    simp only [List.forall_mem_cons] at htexts
    obtain ⟨hcreatorName, hcreatorAddress, hroomName, htopic, hpassword, hroomAddress, _⟩ := htexts
    have hselected : row ∈ s.selectedRooms baseAddress :=
      List.mem_filter.mpr ⟨hrow, by rw [haddress]; exact hreload.selected⟩
    refine ⟨hreload.small, row, 0, ?_, ?_⟩
    · simp only [widen_eq_iff hroomAddress]
      cases hfirst : (s.selectedRooms baseAddress).find? (fun row =>
          row.roomAddress = fromWideString R.roomAddress) with
      | none =>
        have hnone := List.find?_eq_none.mp hfirst row hselected
        exact absurd haddress (by simpa using hnone)
      | some row' =>
        have hfirst' : row'.roomAddress = fromWideString R.roomAddress := by
          simpa using List.find?_some hfirst
        have hmem := (List.mem_filter.mp (List.mem_of_find?_eq_some hfirst)).1
        exact congrArg some (hrowed.keys.named row' hmem row hrow
          ((hreload.first row' hfirst).trans hname.symm) (hfirst'.trans haddress.symm))
    · have hfields := RoomColumns.mk.inj hcolumns
      obtain ⟨hcreatorId, hstoredName, hstoredAddress, _, hstoredTopic, hstoredPassword, _, _,
        hattributes, hsize, _⟩ := hfields
      refine ⟨⟨?_, ?_, ?_⟩, ⟨?_, ?_, ?_⟩, ⟨?_, ?_⟩, fun table avatarId => ?_⟩
      · exact (congrArg UInt32.ofNat hcreatorId).trans (UInt32.ofNat_toNat ..)
      · exact (congrArg toWideString hstoredName).trans hcreatorName
      · exact (congrArg toWideString hstoredAddress).trans hcreatorAddress
      · exact (congrArg toWideString hname).trans hroomName
      · exact (congrArg toWideString hstoredTopic).trans htopic
      · exact (congrArg toWideString hstoredPassword).trans hpassword
      · exact (congrArg UInt32.ofNat hattributes).trans (UInt32.ofNat_toNat ..)
      · exact (congrArg UInt32.ofNat hsize).trans (UInt32.ofNat_toNat ..)
      · have hlist := hreload.lists table
        simp only [ChatRoom.inList, hlist]
        cases table <;> rfl

private theorem twoAvatars_roomKeys : Database.twoAvatars.RoomKeys := by
  constructor <;> simp [Database.twoAvatars, Database.empty]

/-- A room whose creator has given up both roles. -/
theorem survives_without_roles :
    ∃ s : Server, ∃ R ∈ s.rooms, R.isPersistent = true ∧ Survives s [0x62] R := by
  have hrun : ∃ s₁ ∈ Server.twoAvatars.call (createPersistent [0x72] [0x62]),
      ∃ s₂ ∈ s₁.call (.role .removeAdministrator 0 1 firstAvatar),
      ∃ s₃ ∈ s₂.call (.role .removeModerator 0 1 firstAvatar),
      s₃.failures = 0 ∧ s₃.fails s₃.executed = false ∧
        ∃ R ∈ s₃.rooms, R.isPersistent = true ∧ Reloadable s₃ [0x62] R := by decide +kernel
  obtain ⟨s₁, h₁, s₂, h₂, s₃, h₃, hok, hf, R, hR, hp, hreload⟩ := hrun
  have hcreate : Server.twoAvatars.Edits (createPersistent [0x72] [0x62]) := by
    show (1 : Nat) < 2 ^ 31
    decide
  have hreach : Server.Calls Server.Edits Server.twoAvatars s₃ :=
    ((Relation.ReflTransGen.single ⟨createPersistent [0x72] [0x62], hcreate, h₁⟩).tail
      ⟨.role .removeAdministrator 0 1 firstAvatar, trivial, h₂⟩).tail
      ⟨.role .removeModerator 0 1 firstAvatar, trivial, h₃⟩
  exact ⟨s₃, R, hR, hp, (survives_iff twoAvatars_roomKeys hreach hok hR hp [0x62] hf).mpr hreload⟩

/-- A creator is no longer a moderator of the room once it is reloaded. -/
theorem created_room_lost :
    ∃ s : Server, Server.Calls Server.Edits Server.twoAvatars s ∧ s.failures = 0 ∧
      s.fails s.executed = false ∧ ∃ R ∈ s.rooms, R.isPersistent = true ∧
        [0x62] <+: R.roomAddress ∧ ¬ Survives s [0x62] R := by
  have hrun : ∃ s ∈ Server.twoAvatars.call (createPersistent [0x72] [0x62]),
      s.failures = 0 ∧ s.fails s.executed = false ∧ ∃ R ∈ s.rooms, R.isPersistent = true ∧
        [0x62] <+: R.roomAddress ∧ R.list .moderators ≠ [] := by decide +kernel
  obtain ⟨s, hcall, hok, hf, R, hR, hp, hbase, hlist⟩ := hrun
  have hcreate : Server.twoAvatars.Edits (createPersistent [0x72] [0x62]) := by
    show (1 : Nat) < 2 ^ 31
    decide
  refine ⟨s, Relation.ReflTransGen.single ⟨_, hcreate, hcall⟩, hok, hf, R, hR, hp, hbase, ?_⟩
  intro hsurvives
  obtain ⟨_, row, roomId, _, hsame⟩ := (survives_iff_row hf).mp hsurvives
  exact hlist (sameRoom_storedRoom hsame .moderator)

end Survival
end StationChat
