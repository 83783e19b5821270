import StationChat.Rooms.Erasure
import StationChat.Rooms.Loading

/-! Addresses and ids of the rooms in memory stay unique; what a destruction removes. -/
namespace StationChat
open Lib Lib.Action

variable {s t : Server} {room : RoomPtr} {r : ChatRoom}

/-- No two rooms in memory share an id. -/
def Server.DistinctIds (s : Server) : Prop := (s.rooms.map (·.roomId)).Nodup

/-- What `GetRoom` and the guard of `CreateRoom` rely on. -/
structure UniqueRooms (s : Server) : Prop where
  addresses : s.DistinctRooms
  ids : s.DistinctIds
  below : s.IdsBelow

section Ids
variable {row : RoomRow}

/-- The next id is new while the counter has not wrapped. -/
theorem distinctIds_append (h : s.DistinctIds) (hbelow : s.IdsBelow) (hid : r.roomId = s.nextRoomId)
    (ht : t.rooms = s.rooms ++ [r]) : t.DistinctIds := by
  rw [Server.DistinctIds, ht, List.map_append, List.nodup_append]
  refine ⟨h, by simp, ?_⟩
  intro id hmem id' hmem'
  obtain ⟨r', hr', rfl⟩ := List.mem_map.mp hmem
  have heq : id' = s.nextRoomId := by simpa [hid] using hmem'
  rintro rfl
  exact absurd (heq ▸ hbelow r' hr') (Nat.lt_irrefl _)

private theorem loadRow_ids (h : s.DistinctIds ∧ s.IdsBelow) (hnext : s.nextRoomId.toNat + 1 < 2 ^ 32) :
    (s.loadRow row).DistinctIds ∧ (s.loadRow row).IdsBelow := by
  have hcount : (s.loadRow row).nextRoomId.toNat = s.nextRoomId.toNat + 1 := by
    rw [loadRow_rest]
    exact takeRoomId_toNat hnext
  have hrooms : (s.loadRow row).rooms = s.rooms ∨
      (s.loadRow row).rooms = s.rooms ++ [storedRoom s.nextRoomId row] := by
    unfold Server.loadRow
    split
    · exact .inl rfl
    · exact .inr rfl
  rcases hrooms with hrooms | hrooms
  · refine ⟨?_, fun r hr => ?_⟩
    · rw [Server.DistinctIds, hrooms]
      exact h.1
    · rw [hcount]
      exact Nat.lt_succ_of_lt (h.2 r (hrooms ▸ hr))
  · refine ⟨distinctIds_append h.1 h.2 rfl hrooms, fun r hr => ?_⟩
    rw [hcount]
    rcases List.mem_append.mp (hrooms ▸ hr) with hr | hr
    · exact Nat.lt_succ_of_lt (h.2 r hr)
    · rw [List.mem_singleton.mp hr]
      exact Nat.lt_succ_self _

theorem distinctIds_loadRows (rows : List RoomRow) (h : s.DistinctIds ∧ s.IdsBelow)
    (hnext : s.nextRoomId.toNat + rows.length < 2 ^ 32) : (s.loadRows rows).DistinctIds := by
  induction rows generalizing s with
  | nil => exact h.1
  | cons row rest ih =>
    rw [List.length_cons] at hnext
    have hcount : (s.loadRow row).nextRoomId.toNat = s.nextRoomId.toNat + 1 := by
      rw [loadRow_rest]
      exact takeRoomId_toNat (by omega)
    exact ih (loadRow_ids h (by omega)) (by omega)

end Ids

/-- A call that changes rooms in their lists only keeps them apart. -/
private theorem uniqueRooms_of_identity (h : UniqueRooms s)
    (hrooms : t.rooms.map ChatRoom.identity = s.rooms.map ChatRoom.identity)
    (hnext : t.nextRoomId = s.nextRoomId) : UniqueRooms t := by
  have haddresses : t.rooms.map (·.roomAddress) = s.rooms.map (·.roomAddress) := by
    have hmap := congrArg (List.map fun r : ChatRoom => r.roomAddress) hrooms
    rwa [List.map_map, List.map_map] at hmap
  have hids : t.rooms.map (·.roomId) = s.rooms.map (·.roomId) := by
    have hmap := congrArg (List.map fun r : ChatRoom => r.roomId) hrooms
    rwa [List.map_map, List.map_map] at hmap
  refine ⟨?_, ?_, idsBelow_of_identity h.below hrooms hnext⟩
  · rw [Server.DistinctRooms, haddresses]
    exact h.addresses
  · rw [Server.DistinctIds, hids]
    exact h.ids

theorem uniqueRooms_step {c : RoomCall} (h : UniqueRooms s) (ha : s.IdsLeft c)
    (hcall : s.call c = some t) : UniqueRooms t := by
  have hbelow := idsBelow_step h.below ha hcall
  cases c with
  | load baseAddress =>
    obtain ⟨result, hrun⟩ := Server.call_eq_some hcall
    obtain ⟨rows, hrooms, hrows⟩ := load_ids hrun
    have hbound : s.cleared.nextRoomId.toNat + (s.selectedRooms baseAddress).length < 2 ^ 32 := ha
    have hfresh : s.cleared.DistinctIds ∧ s.cleared.IdsBelow :=
      ⟨List.nodup_nil, fun r hr => absurd hr List.not_mem_nil⟩
    have hids := distinctIds_loadRows rows hfresh (by omega)
    refine ⟨(loaded_of_run hrun).distinct, ?_, hbelow⟩
    rw [Server.DistinctIds, hrooms]
    exact hids
  | create =>
    rcases create_cases hcall with ⟨_, rfl⟩ | ⟨hnew, avatar, r, _, hr, rfl⟩
    · exact h
    · obtain ⟨⟨dbId, hrooms⟩, _, _⟩ := added_rooms (s := s) r
      have hnew' : s.roomExists ({ r with dbId } : ChatRoom).roomAddress = false := by rw [hr]; exact hnew
      exact ⟨distinctRooms_append h.addresses hnew' hrooms,
        distinctIds_append h.ids h.below (by rw [hr]; rfl) hrooms, hbelow⟩
  | destroy =>
    have hfilter : ∀ roomId, UniqueRooms (s.withoutRoom roomId) := fun roomId =>
      ⟨h.addresses.sublist (List.filter_sublist.map _), h.ids.sublist (List.filter_sublist.map _),
        fun r hr => h.below r (List.mem_filter.mp hr).1⟩
    obtain ⟨r, _, ⟨rfl, _⟩ | ⟨rfl, _⟩ | ⟨rfl, _⟩⟩ := destroy_cases hcall
    · exact ⟨h.addresses, h.ids, h.below⟩
    · exact ⟨(hfilter r.roomId).addresses, (hfilter r.roomId).ids, (hfilter r.roomId).below⟩
    · exact hfilter r.roomId
  | role =>
    have hframe := role_frame hcall
    exact uniqueRooms_of_identity h hframe.rooms hframe.nextRoomId
  | loadRole =>
    obtain ⟨r, _, hquiet⟩ := loadRole_cases hcall
    exact uniqueRooms_of_identity h hquiet.rooms hquiet.nextRoomId
  | operate =>
    have hquiet := operate_quiet hcall
    exact uniqueRooms_of_identity h hquiet.rooms hquiet.nextRoomId

theorem uniqueRooms_run {db : Database} {fails : Nat → Bool} {version : UInt32}
    {config : Policy.Config}
    (h : Server.Calls Server.IdsLeft (Server.start db fails version config) s) : UniqueRooms s :=
  Runs.invariant h ⟨List.nodup_nil, List.nodup_nil, by simp [Server.IdsBelow, Server.start]⟩
    fun _ _ _ hi ha hcall => uniqueRooms_step hi ha hcall

theorem UniqueRooms.getRoom (h : UniqueRooms s) (hr : s.rooms[room]? = some r) :
    getRoom r.roomAddress s = (.ok (some room), s) := by
  obtain ⟨hlt, hget⟩ := List.getElem?_eq_some_iff.mp hr
  have hfound : s.rooms.findIdx? (fun r' => r.roomAddress == r'.roomAddress) = some room := by
    refine List.findIdx?_eq_some_iff_getElem.mpr ⟨hlt, by simp [hget], fun i hi => ?_⟩
    have hne : s.rooms[i].roomAddress ≠ s.rooms[room].roomAddress := by
      intro heq
      have hmap : (s.rooms.map (·.roomAddress))[i]? = (s.rooms.map (·.roomAddress))[room]? := by
        simp [hlt, Nat.lt_trans hi hlt, heq]
      have hidx := (List.getElem?_inj (by simpa using Nat.lt_trans hi hlt) h.addresses).mp hmap
      exact absurd hidx (Nat.ne_of_lt hi)
    simpa [hget] using hne.symm
  exact congrArg (fun found => (Except.ok found, s)) hfound

section Destroy

/-- The rooms before and behind the one with a given id. -/
private theorem split_at_room (h : s.DistinctIds) (hr : s.rooms[room]? = some r) :
    ∃ front back, s.rooms = front ++ r :: back ∧ front.length = room ∧
      (∀ r' ∈ front, r'.roomId ≠ r.roomId) ∧ ∀ r' ∈ back, r'.roomId ≠ r.roomId := by
  obtain ⟨hlt, rfl⟩ := List.getElem?_eq_some_iff.mp hr
  have hsplit : s.rooms = s.rooms.take room ++ s.rooms[room] :: s.rooms.drop (room + 1) := by
    rw [← List.drop_eq_getElem_cons hlt, List.take_append_drop]
  refine ⟨_, _, hsplit, by simp [Nat.le_of_lt hlt], ?_⟩
  have hids := h
  rw [Server.DistinctIds, hsplit, List.map_append, List.map_cons] at hids
  obtain ⟨_, hback, hapart⟩ := List.nodup_append.mp hids
  constructor
  · exact fun r' hr' => hapart _ (List.mem_map_of_mem hr') _ List.mem_cons_self
  · intro r' hr' heq
    exact (List.nodup_cons.mp hback).1 (heq ▸ List.mem_map_of_mem hr')

/-- The first room behind the target takes its slot, and the next one is compared with a room that is
gone. -/
private theorem erasePass_distinct_iff (h : s.DistinctIds) (hr : s.rooms[room]? = some r) :
    (erasePass r.roomId room [] 0 false s.rooms).isSome = true ↔ s.rooms.length ≤ room + 2 := by
  rw [erasePass_isSome_iff hr]
  obtain ⟨front, back, hsplit, rfl, hfront, hback⟩ := split_at_room h hr
  have htake : s.rooms.take front.length = front := by rw [hsplit, List.take_left]
  have hdrop : s.rooms.drop (front.length + 1) = back := by
    rw [hsplit, ← List.drop_drop, List.drop_left, List.drop_one, List.tail_cons]
  have hsame : front.countP (·.roomId == r.roomId) = 0 :=
    List.countP_eq_zero.mpr fun r' hr' => by simpa using hfront r' hr'
  have hothers : back.dropLast.countP (·.roomId != r.roomId) = back.dropLast.length :=
    List.countP_eq_length.mpr fun r' hr' => by simpa using hback r' (List.dropLast_subset _ hr')
  rw [htake, hdrop, hsame, hothers, List.length_dropLast, hsplit, List.length_append,
    List.length_cons]
  omega

/-- The call ends and has removed just this room, or it fails in the database and has removed none. -/
def DestroysOne (s : Server) (room : RoomPtr) : Prop :=
  (destroyRoom room).Ends s (fun _ t => t.rooms = s.rooms.eraseIdx room)
    (fun e t => e = .database ∧ t.rooms = s.rooms)

theorem destroysOne_iff (h : s.DistinctIds) (hr : s.rooms[room]? = some r) :
    DestroysOne s room ↔
      s.rooms.length ≤ room + 2 ∨ r.isPersistent = true ∧ s.fails s.executed = true := by
  have hremoved : s.rooms.filter (·.roomId != r.roomId) = s.rooms.eraseIdx room := by
    obtain ⟨front, back, hsplit, rfl, hfront, hback⟩ := split_at_room h hr
    have hkeep : ∀ rooms : List ChatRoom, (∀ r' ∈ rooms, r'.roomId ≠ r.roomId) →
        rooms.filter (·.roomId != r.roomId) = rooms := fun rooms hrooms =>
      List.filter_eq_self.mpr fun r' hr' => by simpa using hrooms r' hr'
    rw [hsplit, List.filter_append, List.filter_cons_of_neg (by simp), hkeep front hfront,
      hkeep back hback, List.eraseIdx_append_of_length_le (Nat.le_refl _)]
    simp
  rw [← erasePass_distinct_iff h hr, ← Bool.and_eq_true_iff]
  unfold DestroysOne Ends
  rw [destroyRoom_run hr]
  by_cases hfailed : (r.isPersistent && s.fails s.executed) = true
  · rw [if_pos hfailed]
    exact ⟨fun _ => .inr hfailed, fun _ => ⟨rfl, rfl⟩⟩
  rw [if_neg hfailed]
  cases hpass : erasePass r.roomId room [] 0 false s.rooms with
  | none =>
    refine ⟨fun hends => absurd hends.1 (by simp), ?_⟩
    rintro (hsome | hfail)
    · exact absurd hsome (by simp)
    · exact absurd hfail hfailed
  | some left =>
    refine ⟨fun _ => .inl rfl, fun _ => ?_⟩
    cases r.isPersistent <;> exact hremoved

end Destroy

/-- In every state of a run the rooms are unique by address and by id, `GetRoom` finds the only room at
its address, a creation at a taken address is refused, and a destruction removes its room exactly if
no two rooms stand behind it. -/
theorem rooms_stay_unique {db : Database} {fails : Nat → Bool} {version : UInt32}
    {config : Policy.Config}
    (h : Server.Calls Server.IdsLeft (Server.start db fails version config) s) :
    UniqueRooms s ∧
      (∀ room r, s.rooms[room]? = some r → getRoom r.roomAddress s = (.ok (some room), s)) ∧
      (∀ creator roomName roomTopic roomPassword roomAttributes maxRoomSize roomAddress,
        (∃ r ∈ s.rooms, r.roomAddress = fullAddress roomAddress roomName) →
          createRoom creator roomName roomTopic roomPassword roomAttributes maxRoomSize roomAddress s =
            (.error (.chatResult .roomAlreadyExists (literal "ChatRoom already exists")), s)) ∧
      ∀ room r, s.rooms[room]? = some r → (DestroysOne s room ↔
        s.rooms.length ≤ room + 2 ∨ r.isPersistent = true ∧ s.fails s.executed = true) := by
  have hunique := uniqueRooms_run h
  refine ⟨hunique, fun room r hr => hunique.getRoom hr, ?_, fun room r hr =>
    destroysOne_iff hunique.ids hr⟩
  rintro creator roomName roomTopic roomPassword roomAttributes maxRoomSize roomAddress ⟨r, hr, haddress⟩
  exact createRoom_refused (List.any_eq_true.mpr ⟨r, hr, by simp [haddress]⟩)

/-- Two rooms created at one base address. -/
theorem rooms_stay_unique_created : ∃ s : Server, s.rooms.length = 2 ∧ UniqueRooms s := by
  have hrun : ∃ s₁ ∈ Server.twoAvatars.call (createPersistent [0x72] [0x62]),
      ∃ s₂ ∈ s₁.call (createPersistent [0x74] [0x62]),
      s₂.rooms.length = 2 ∧ s₁.nextRoomId.toNat + 1 < 2 ^ 32 := by decide +kernel
  obtain ⟨s₁, h₁, s₂, h₂, hlen, hleft⟩ := hrun
  have hstart : Server.twoAvatars.IdsLeft (createPersistent [0x72] [0x62]) := by
    show (0 : UInt32).toNat + 1 < 2 ^ 32
    decide
  have hreach : Server.Calls Server.IdsLeft Server.twoAvatars s₂ :=
    (Relation.ReflTransGen.single ⟨createPersistent [0x72] [0x62], hstart, h₁⟩).tail
      ⟨createPersistent [0x74] [0x62], hleft, h₂⟩
  exact ⟨s₂, hlen, (rooms_stay_unique hreach).1⟩

/-- Destroying the first of three rooms reads it after it is gone. -/
theorem destroy_first_of_three :
    ∃ s, Server.Calls (fun _ _ => True) Server.twoAvatars s ∧ s.rooms.length = 3 ∧
      (destroyRoom 0 s).1 = .error .freedRoom ∧ ¬ DestroysOne s 0 := by
  have hrun : ∃ s, Server.Calls (fun _ _ => True) Server.twoAvatars s ∧
      (s.rooms.length = 3 ∧ (destroyRoom 0 s).1 = .error .freedRoom) :=
    Runs.exists_of_inputs [createPersistent [0x72] [0x62], createPersistent [0x74] [0x62],
      createPersistent [0x75] [0x62]] (by decide +kernel) fun _ _ => trivial
  obtain ⟨s, hreach, hlen, herror⟩ := hrun
  refine ⟨s, hreach, hlen, herror, fun hone => ?_⟩
  have hend := hone.err_of_run (Prod.ext herror rfl)
  exact absurd hend.1 (by simp)

end StationChat
