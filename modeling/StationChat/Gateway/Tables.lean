import StationChat.Gateway.Contract

/-! Each statement the gateway executes keeps the foreign keys, and keeps the stored integers in
range if those it stores are. -/
namespace StationChat

/-- The tables as the contract needs them. -/
def Database.Good (range : Prop) (db : Database) : Prop := db.Referential ∧ (¬ range → db.Small)

namespace Database.Good
variable {range : Prop} {db db' : Database}

/-- The tables that are read back are the same, and the contact rows are old ones. -/
theorem of_sub (h : db.Good range) (havatar : db'.avatar = db.avatar) (hroom : db'.room = db.room)
    (hmessage : db'.persistentMessage = db.persistentMessage)
    (hfriend : ∀ row ∈ db'.friend, row ∈ db.friend) (hignore : ∀ row ∈ db'.ignore, row ∈ db.ignore) :
    db'.Good range := by
  refine ⟨⟨fun row hrow => ?_, fun row hrow => ?_⟩, fun hr => ⟨?_, ?_, ?_⟩⟩
  · rw [HasAvatar, havatar]
    exact h.1.friend row (hfriend row hrow)
  · rw [HasAvatar, havatar]
    exact h.1.ignored row (hignore row hrow)
  · exact havatar ▸ (h.2 hr).avatar
  · exact hroom ▸ (h.2 hr).room
  · exact hmessage ▸ (h.2 hr).message

theorem insertAvatar (h : db.Good range) {userId attributes : Nat} {name address : StdString}
    {id : Nat} (hrow : ¬ range → db.nextAvatarId < 2 ^ 31 ∧ userId < 2 ^ 31 ∧ attributes < 2 ^ 31)
    (hrun : db.insertAvatar userId name address attributes = some (id, db')) :
    db'.Good range ∧ id = db.nextAvatarId := by
  unfold Database.insertAvatar at hrun
  split at hrun
  · exact absurd hrun (by simp)
  obtain ⟨rfl, rfl⟩ := Prod.ext_iff.mp (Option.some.inj hrun)
  have hmono : ∀ id, db.HasAvatar id → ∃ row ∈ db.avatar ++ [⟨db.nextAvatarId, userId, name, address,
      attributes⟩], row.id = id := fun _ ⟨row, hmem, heq⟩ => ⟨row, List.mem_append_left _ hmem, heq⟩
  refine ⟨⟨⟨fun row hr => hmono _ (h.1.friend row hr), fun row hr => hmono _ (h.1.ignored row hr)⟩,
    fun hr => { h.2 hr with avatar := fun row hmem => ?_ }⟩, rfl⟩
  rcases List.mem_append.mp hmem with hmem | hmem
  · exact (h.2 hr).avatar row hmem
  · rw [List.mem_singleton.mp hmem]
    exact hrow hr

theorem updateAvatar (h : db.Good range) {userId attributes id : Nat} {name address : StdString}
    (hrow : ¬ range → userId < 2 ^ 31 ∧ attributes < 2 ^ 31)
    (hrun : db.updateAvatar userId name address attributes id = some db') : db'.Good range := by
  unfold Database.updateAvatar at hrun
  split at hrun
  · exact absurd hrun (by simp)
  obtain rfl := Option.some.inj hrun
  have hmono : ∀ n, db.HasAvatar n → ∃ row ∈ db.avatar.map fun row =>
      if row.id = id then ⟨row.id, userId, name, address, attributes⟩ else row, row.id = n := by
    rintro n ⟨row, hmem, rfl⟩
    refine ⟨_, List.mem_map_of_mem hmem, ?_⟩
    split <;> rfl
  refine ⟨⟨fun row hr => hmono _ (h.1.friend row hr), fun row hr => hmono _ (h.1.ignored row hr)⟩,
    fun hr => { h.2 hr with avatar := fun row hmem => ?_ }⟩
  obtain ⟨old, hold, rfl⟩ := List.mem_map.mp hmem
  have hsmall := (h.2 hr).avatar old hold
  split
  · exact ⟨hsmall.1, hrow hr⟩
  · exact hsmall

theorem insertFriend (h : db.Good range) {avatarId friendAvatarId : Nat} {comment : StdString}
    (hrun : db.insertFriend avatarId friendAvatarId comment = some db') : db'.Good range := by
  unfold Database.insertFriend at hrun
  split at hrun
  · exact absurd hrun (by simp)
  rename_i hok
  obtain rfl := Option.some.inj hrun
  refine ⟨{ h.1 with friend := fun row hmem => ?_ }, fun hr => ⟨(h.2 hr).1, (h.2 hr).2, (h.2 hr).3⟩⟩
  rcases List.mem_append.mp hmem with hmem | hmem
  · exact h.1.friend row hmem
  · rw [List.mem_singleton.mp hmem]
    push Not at hok
    exact hok.2.2

theorem insertIgnore (h : db.Good range) {avatarId ignoreAvatarId : Nat}
    (hrun : db.insertIgnore avatarId ignoreAvatarId = some db') : db'.Good range := by
  unfold Database.insertIgnore at hrun
  split at hrun
  · exact absurd hrun (by simp)
  rename_i hok
  obtain rfl := Option.some.inj hrun
  refine ⟨{ h.1 with ignored := fun row hmem => ?_ }, fun hr => ⟨(h.2 hr).1, (h.2 hr).2, (h.2 hr).3⟩⟩
  rcases List.mem_append.mp hmem with hmem | hmem
  · exact h.1.ignored row hmem
  · rw [List.mem_singleton.mp hmem]
    push Not at hok
    exact hok.2.2

theorem insertRoom (h : db.Good range) {columns : RoomColumns} {id : Nat}
    (hrow : ¬ range → RoomRow.Small { columns with id := db.nextRoomId })
    (hrun : db.insertRoom columns = some (id, db')) : db'.Good range := by
  unfold Database.insertRoom at hrun
  split at hrun
  · exact absurd hrun (by simp)
  obtain ⟨rfl, rfl⟩ := Prod.ext_iff.mp (Option.some.inj hrun)
  refine ⟨⟨h.1.friend, h.1.ignored⟩, fun hr => ⟨(h.2 hr).avatar, fun row hmem => ?_, (h.2 hr).message⟩⟩
  rcases List.mem_append.mp hmem with hmem | hmem
  · exact (h.2 hr).room row hmem
  · rw [List.mem_singleton.mp hmem]
    exact hrow hr

theorem deleteRoom (h : db.Good range) (id : Int) : (db.deleteRoom id).Good range :=
  ⟨⟨h.1.friend, h.1.ignored⟩, fun hr => ⟨(h.2 hr).avatar,
    fun row hmem => (h.2 hr).room row (List.mem_filter.mp hmem).1, (h.2 hr).message⟩⟩

theorem insertRole (h : db.Good range) (table : RoleTable) (avatarId roomId : Nat) :
    (db.insertRole table avatarId roomId).Good range := by
  unfold Database.insertRole
  split
  · exact h
  · exact h.of_sub rfl rfl rfl (fun _ hr => hr) fun _ hr => hr

theorem insertMessage (h : db.Good range) {columns : MessageColumns} {id : Nat}
    (hrow : ¬ range → MessageRow.Small { columns with id := db.nextMessageId })
    (hrun : db.insertMessage columns = some (id, db')) : db'.Good range := by
  unfold Database.insertMessage at hrun
  split at hrun
  · exact absurd hrun (by simp)
  obtain ⟨rfl, rfl⟩ := Prod.ext_iff.mp (Option.some.inj hrun)
  refine ⟨⟨h.1.friend, h.1.ignored⟩, fun hr => ⟨(h.2 hr).avatar, (h.2 hr).room, fun row hmem => ?_⟩⟩
  rcases List.mem_append.mp hmem with hmem | hmem
  · exact (h.2 hr).message row hmem
  · rw [List.mem_singleton.mp hmem]
    exact hrow hr

theorem updateMessages (h : db.Good range) {which : MessageRow → Bool} {status : Nat}
    (hstatus : ¬ range → (∃ row ∈ db.persistentMessage, which row = true) → status < 2 ^ 31) :
    (db.updateMessages which status).Good range := by
  refine ⟨⟨h.1.friend, h.1.ignored⟩, fun hr => ⟨(h.2 hr).avatar, (h.2 hr).room, fun row hmem => ?_⟩⟩
  obtain ⟨old, hold, rfl⟩ := List.mem_map.mp hmem
  have hsmall := (h.2 hr).message old hold
  split
  · rename_i hwhich
    exact ⟨hsmall.1, hsmall.2.1, hsmall.2.2.1, hstatus hr ⟨old, hold, hwhich⟩⟩
  · exact hsmall

end Database.Good
end StationChat
