import StationChat.Avatars.Upkeep
import StationChat.Gateway.Everyday
import StationChat.Rooms.Charge
import StationChat.Rooms.Reload

/-! The counter of a stored room: it starts at the value in the row when the rooms are loaded, and counts
the messages to the room from then on. -/
namespace StationChat
open Lib Lib.Action Lib.Contract Relation

variable {α : Type} {s t u : Server} {r r' : ChatRoom} {row : RoomRow} {n : RoomRow → Nat}

/-- Rooms change in their lists only, and rows of rooms not at all. -/
structure Steady (s t : Server) : Prop where
  rooms : t.rooms.map (fun r => (r.identity, r.roomMessageId)) = s.rooms.map fun r => (r.identity, r.roomMessageId)
  room : t.db.room = s.db.room
  nextRoomId : t.db.nextRoomId = s.db.nextRoomId

namespace Steady

theorem refl (s : Server) : Steady s s := ⟨rfl, rfl, rfl⟩

theorem trans (h : Steady s t) (h' : Steady t u) : Steady s u :=
  ⟨h'.rooms.trans h.rooms, h'.room.trans h.room, h'.nextRoomId.trans h.nextRoomId⟩

/-- Only fields that do not hold rooms differ. -/
theorem of_eq (hrooms : t.rooms = s.rooms) (hdb : t.db = s.db) : Steady s t :=
  ⟨by rw [hrooms], by rw [hdb], by rw [hdb]⟩

theorem identities (h : Steady s t) : t.rooms.map ChatRoom.identity = s.rooms.map ChatRoom.identity := by
  have hfirst := congrArg (List.map Prod.fst) h.rooms
  rwa [List.map_map, List.map_map] at hfirst

theorem back (h : Steady s t) (hr : r ∈ t.rooms) :
    ∃ r' ∈ s.rooms, r'.identity = r.identity ∧ r'.roomMessageId = r.roomMessageId := by
  have hmem : (r.identity, r.roomMessageId) ∈ s.rooms.map fun r => (r.identity, r.roomMessageId) :=
    h.rooms ▸ List.mem_map_of_mem hr
  obtain ⟨r', hr', heq⟩ := List.mem_map.mp hmem
  exact ⟨r', hr', (Prod.mk.inj heq).1, (Prod.mk.inj heq).2⟩

end Steady

/-- A statement that is not about rooms leaves their rows. -/
theorem room_of_run {statement : Statement α} {a : α} {db : Database} (hrun : s.db.run statement = some (a, db))
    (h : statement.housing = false) : db.room = s.db.room ∧ db.nextRoomId = s.db.nextRoomId := by
  cases statement with
  | insertRoom columns => exact absurd h (by simp [Statement.housing])
  | deleteRoom id => exact absurd h (by simp [Statement.housing])
  | insertAvatar userId name address attributes =>
    obtain ⟨-, -, rfl⟩ := insertAvatar_eq_some hrun
    exact ⟨rfl, rfl⟩
  | updateAvatar userId name address attributes avatarId =>
    obtain ⟨db', hupdate, heq⟩ := Option.map_eq_some_iff.mp hrun
    obtain rfl : db' = db := congrArg Prod.snd heq
    obtain ⟨f, -, rfl⟩ := updateAvatar_eq_some hupdate
    exact ⟨rfl, rfl⟩
  | deleteAvatar avatarId =>
    obtain ⟨db', hdelete, heq⟩ := Option.map_eq_some_iff.mp hrun
    obtain rfl : db' = db := congrArg Prod.snd heq
    unfold Database.deleteAvatar at hdelete
    split at hdelete
    · exact absurd hdelete (by simp)
    · obtain rfl := Option.some.inj hdelete
      exact ⟨rfl, rfl⟩
  | insertFriend avatarId friendAvatarId comment =>
    obtain ⟨db', hinsert, heq⟩ := Option.map_eq_some_iff.mp hrun
    obtain rfl : db' = db := congrArg Prod.snd heq
    obtain ⟨-, -, -, rfl⟩ := insertFriend_eq_some hinsert
    exact ⟨rfl, rfl⟩
  | insertIgnore avatarId ignoreAvatarId =>
    obtain ⟨db', hinsert, heq⟩ := Option.map_eq_some_iff.mp hrun
    obtain rfl : db' = db := congrArg Prod.snd heq
    obtain ⟨-, -, -, rfl⟩ := insertIgnore_eq_some hinsert
    exact ⟨rfl, rfl⟩
  | insertRole table avatarId roomId =>
    obtain ⟨-, rfl⟩ := Prod.mk.inj (Option.some.inj hrun)
    unfold Database.insertRole
    split <;> exact ⟨rfl, rfl⟩
  | insertMessage columns =>
    have hinsert : s.db.insertMessage columns = some (a, db) := hrun
    unfold Database.insertMessage at hinsert
    split at hinsert
    · exact absurd hinsert (by simp)
    · obtain ⟨-, rfl⟩ := Prod.mk.inj (Option.some.inj hinsert)
      exact ⟨rfl, rfl⟩
  | selectAvatarByName | selectAvatarById | selectFriends | updateFriend | deleteFriend | selectIgnored | deleteIgnore
  | selectRooms | selectRole | deleteRole | selectHeaders | selectMessage | updateStatus | bulkUpdateStatus =>
    obtain ⟨-, rfl⟩ := Prod.mk.inj (Option.some.inj hrun)
    exact ⟨rfl, rfl⟩

theorem steady_change (h : Change False False True s t) : Steady s t := by
  cases h with
  | answered statement a db hf hrun h =>
    obtain ⟨hroom, hnext⟩ := room_of_run hrun (by simpa using h)
    exact ⟨rfl, hroom, hnext⟩
  | lists room f hf =>
    refine ⟨?_, rfl, rfl⟩
    apply List.ext_getElem?
    intro i
    rw [List.getElem?_map, List.getElem?_map, Server.updateRoom, List.getElem?_modify]
    by_cases hi : room = i
    · subst hi
      cases hr : s.rooms[room]? with
      | none => simp
      | some r =>
        obtain ⟨hidentity, hcounter⟩ := hf r hr
        simp [hidentity, hcounter]
    · simp [hi]
  | counter room h => exact h.elim
  | rooms rooms nextRoomId h => exact h.elim
  | _ => exact .of_eq rfl rfl

theorem steady_changes (h : ReflTransGen (Change False False True) s t) : Steady s t :=
  changes_related Steady.refl Steady.trans (fun _ _ => steady_change) h

instance (r : ChatRoom) (row : RoomRow) : Decidable (StoredAs r row) :=
  inferInstanceAs (Decidable (_ ∧ { row.toRoomColumns with roomMessageId := 0 } = roomColumns r.identity))

/-- The counter of each room with a row is the value in the row plus `n`. -/
structure Counted (n : RoomRow → Nat) (s : Server) : Prop where
  keys : s.db.RoomKeys
  fresh : ∀ row : RoomRow, s.db.nextRoomId ≤ row.id → n row = 0
  below : ∀ r ∈ s.rooms, r.dbId < s.db.nextRoomId
  apart : (s.rooms.map ChatRoom.identity).Pairwise fun r r' =>
    ∀ row ∈ s.db.room, StoredAs r row → ¬ StoredAs r' row
  counted : ∀ r ∈ s.rooms, ∀ row ∈ s.db.room, StoredAs r row →
    r.roomMessageId = UInt32.ofNat (row.roomMessageId + n row)

theorem storedAs_of_identity (h : r'.identity = r.identity) (hstored : StoredAs r row) : StoredAs r' row := by
  have hsame : StoredAs r'.identity row := by
    rw [h]
    exact hstored
  exact hsame

theorem toInt32_le (k : UInt32) : toInt32 k ≤ k.toNat := by
  have hbits : k.toInt32.toBitVec = k.toBitVec := rfl
  rw [toInt32, Int32.toInt, hbits, BitVec.toInt]
  split
  · exact Int.le_refl _
  · have hlt := k.toBitVec.isLt
    omega

namespace Counted

theorem steady (h : Counted n s) (hst : Steady s t) : Counted n t := by
  refine ⟨?_, ?_, fun r hr => ?_, ?_, fun r hr row hrow hstored => ?_⟩
  · exact h.keys.sublist (fun row hrow => hst.room ▸ hrow) (Nat.le_of_eq hst.nextRoomId.symm)
  · rw [hst.nextRoomId]
    exact h.fresh
  · obtain ⟨r', hr', hidentity, -⟩ := hst.back hr
    have hid : r'.identity.dbId = r.identity.dbId := congrArg ChatRoom.dbId hidentity
    rw [hst.nextRoomId, show r.dbId = r'.dbId from hid.symm]
    exact h.below r' hr'
  · rw [hst.identities, hst.room]
    exact h.apart
  · obtain ⟨r', hr', hidentity, hcounter⟩ := hst.back hr
    rw [← hcounter]
    exact h.counted r' hr' row (hst.room ▸ hrow) (storedAs_of_identity hidentity hstored)

/-- No room is in memory. -/
theorem of_nil (hkeys : s.db.RoomKeys) (hrooms : s.rooms = []) : Counted (fun _ => 0) s := by
  refine ⟨hkeys, fun _ _ => rfl, ?_, ?_, ?_⟩ <;> simp [hrooms]

/-- Rooms and rows go. -/
theorem fewer (h : Counted n s) (hrooms : t.rooms.Sublist s.rooms) (hroom : ∀ row ∈ t.db.room, row ∈ s.db.room)
    (hnext : t.db.nextRoomId = s.db.nextRoomId) : Counted n t := by
  refine ⟨h.keys.sublist hroom (Nat.le_of_eq hnext.symm), ?_, fun r hr => ?_, ?_, fun r hr row hrow => ?_⟩
  · rw [hnext]
    exact h.fresh
  · rw [hnext]
    exact h.below r (hrooms.subset hr)
  · apply (h.apart.sublist (hrooms.map _)).imp
    exact fun happart row hrow => happart row (hroom row hrow)
  · exact h.counted r (hrooms.subset hr) row (hroom row hrow)

/-- One more room without a row. -/
theorem unstored (h : Counted n s) (hrooms : t.rooms = s.rooms ++ [r]) (hdb : t.db = s.db) (hid : r.dbId = -1) :
    Counted n t := by
  have hnone : ∀ row : RoomRow, ¬ StoredAs r row := by
    intro row hstored
    have hrow := hstored.1
    omega
  refine ⟨hdb ▸ h.keys, hdb ▸ h.fresh, fun r' hr' => ?_, ?_, fun r' hr' row hrow hstored => ?_⟩
  · rw [hdb]
    rcases List.mem_append.mp (hrooms ▸ hr') with hr' | hr'
    · exact h.below r' hr'
    · rw [List.mem_singleton.mp hr', hid]
      omega
  · rw [hrooms, List.map_append, List.pairwise_append, hdb]
    refine ⟨h.apart, by simp, fun _ _ r' hr' row _ _ hstored => ?_⟩
    rw [List.map_singleton, List.mem_singleton] at hr'
    subst hr'
    exact hnone row hstored
  · rcases List.mem_append.mp (hrooms ▸ hr') with hr' | hr'
    · exact h.counted r' hr' row (hdb ▸ hrow) hstored
    · rw [List.mem_singleton.mp hr'] at hstored
      exact absurd hstored (hnone row)

/-- One more room with the row that its insert added. -/
theorem stored {id : Nat} {db : Database} (h : Counted n s) (hinsert : s.db.insertRoom (roomColumns r) = some (id, db))
    (hrooms : t.rooms = s.rooms ++ [{ r with dbId := toInt32 (UInt32.ofNat id) }]) (hdb : t.db = db) : Counted n t := by
  have hkeys := h.keys.insertRoom hinsert
  obtain ⟨hnew, rfl, hafter⟩ := Database.insertRoom_eq_some hinsert
  have hroom : t.db.room = s.db.room ++ [{ roomColumns r with id := s.db.nextRoomId }] := by rw [hdb, hafter]
  have hnext : t.db.nextRoomId = s.db.nextRoomId + 1 := by rw [hdb, hafter]
  -- a room from before has a smaller id than the new row, and the new room another name than an old row
  have hold : ∀ r' ∈ s.rooms, ¬ StoredAs r' { roomColumns r with id := s.db.nextRoomId } := by
    intro r' hr' hstored
    have hlt := h.below r' hr'
    rw [← hstored.1] at hlt
    exact absurd hlt (Int.lt_irrefl _)
  have hother : ∀ row ∈ s.db.room, ¬ StoredAs { r with dbId := toInt32 (UInt32.ofNat s.db.nextRoomId) } row := by
    intro row hrow hstored
    have hname := congrArg RoomColumns.roomName hstored.2
    have haddress := congrArg RoomColumns.roomAddress hstored.2
    exact hnew row hrow ⟨hname, haddress⟩
  refine ⟨hdb ▸ hkeys, fun row hrow => ?_, fun r' hr' => ?_, ?_, fun r' hr' row hrow hstored => ?_⟩
  · apply h.fresh row
    omega
  · rw [hnext]
    rcases List.mem_append.mp (hrooms ▸ hr') with hr' | hr'
    · have hlt := h.below r' hr'
      omega
    · rw [List.mem_singleton.mp hr']
      have hle := toInt32_le (UInt32.ofNat s.db.nextRoomId)
      have hmod : (UInt32.ofNat s.db.nextRoomId).toNat ≤ s.db.nextRoomId := by
        rw [UInt32.toNat_ofNat']
        exact Nat.mod_le _ _
      show toInt32 _ < _
      omega
  · rw [hrooms, List.map_append, List.pairwise_append]
    refine ⟨?_, by simp, fun a ha b hb row hrow hstored hstored' => ?_⟩
    · apply List.Pairwise.imp_of_mem _ h.apart
      intro a b ha hb happart row hrow hstored hstored'
      obtain ⟨r', hr', rfl⟩ := List.mem_map.mp ha
      rcases List.mem_append.mp (hroom ▸ hrow) with hrow | hrow
      · exact happart row hrow hstored hstored'
      · rw [List.mem_singleton.mp hrow] at hstored
        exact hold r' hr' hstored
    · obtain ⟨r', hr', rfl⟩ := List.mem_map.mp ha
      rw [List.map_singleton, List.mem_singleton] at hb
      subst hb
      rcases List.mem_append.mp (hroom ▸ hrow) with hrow | hrow
      · exact hother row hrow hstored'
      · rw [List.mem_singleton.mp hrow] at hstored
        exact hold r' hr' hstored
  · rcases List.mem_append.mp (hrooms ▸ hr') with hr' | hr' <;> rcases List.mem_append.mp (hroom ▸ hrow) with hrow | hrow
    · exact h.counted r' hr' row hrow hstored
    · rw [List.mem_singleton.mp hrow] at hstored
      exact absurd hstored (hold r' hr')
    · rw [List.mem_singleton.mp hr'] at hstored
      exact absurd hstored (hother row hrow)
    · rw [List.mem_singleton.mp hr', List.mem_singleton.mp hrow, h.fresh _ (Nat.le_refl _)]
      simp [roomColumns]

/-- The rooms that are loaded have their own rows, and count from the value in it. -/
theorem loaded {baseAddress : U16String} {result : Except Exn Unit} (hkeys : s.db.RoomKeys)
    (hrun : loadRoomsFromStorage baseAddress s = (result, t)) : Counted (fun _ => 0) t := by
  have hload := loaded_of_run hrun
  have hkeys : t.db.RoomKeys := hload.db ▸ hkeys
  have hrows : ∀ r ∈ t.rooms, ∃ row ∈ t.db.room, ∃ roomId, r = storedRoom roomId row := by
    intro r hr
    obtain ⟨row, hrow, -, hroom⟩ := hload.rooms r hr
    exact ⟨row, hload.db ▸ (List.mem_filter.mp hrow).1, hroom⟩
  have hown : ∀ roomId, ∀ row ∈ t.db.room, ∀ row' ∈ t.db.room, StoredAs (storedRoom roomId row) row' → row' = row := by
    intro roomId row hrow row' hrow' hstored
    exact hkeys.ids row' hrow' row hrow (Int.ofNat.inj hstored.1)
  refine ⟨hkeys, fun _ _ => rfl, fun r hr => ?_, ?_, fun r hr row hrow hstored => ?_⟩
  · obtain ⟨row, hrow, roomId, rfl⟩ := hrows r hr
    exact Int.ofNat_lt.mpr (hkeys.below row hrow)
  · have hdistinct := hload.distinct
    rw [Server.DistinctRooms, List.Nodup, List.pairwise_map] at hdistinct
    rw [List.pairwise_map]
    apply List.Pairwise.imp_of_mem _ hdistinct
    intro a b ha hb hne row hrow hstored hstored'
    obtain ⟨rowA, hrowA, idA, rfl⟩ := hrows a ha
    obtain ⟨rowB, hrowB, idB, rfl⟩ := hrows b hb
    apply hne
    rw [← hown idA rowA hrowA row hrow hstored, ← hown idB rowB hrowB row hrow hstored']
    rfl
  · obtain ⟨row', hrow', roomId, rfl⟩ := hrows r hr
    rw [hown roomId row' hrow' row hrow hstored]
    rfl

/-- A message to a room. -/
theorem messaged {room : RoomPtr} (h : Counted n s) (hr : s.rooms[room]? = some r) :
    Counted (fun row => if row ∈ s.db.room ∧ StoredAs r row then n row + 1 else n row)
      (s.updateRoom room fun r => { r with roomMessageId := r.roomMessageId + 1 }) := by
  obtain ⟨hlt, hget⟩ := List.getElem?_eq_some_iff.mp hr
  have hmodify := fun f => List.modify_eq_take_cons_drop (f := f) hlt
  have hsplit : s.rooms = s.rooms.take room ++ r :: s.rooms.drop (room + 1) := by
    rw [← hget, ← List.drop_eq_getElem_cons hlt, List.take_append_drop]
  rw [hget] at hmodify
  generalize s.rooms.take room = front at hmodify hsplit
  generalize s.rooms.drop (room + 1) = back at hmodify hsplit
  have hidentity : (s.updateRoom room fun r => { r with roomMessageId := r.roomMessageId + 1 }).rooms.map
      ChatRoom.identity = s.rooms.map ChatRoom.identity := identity_modify fun _ _ => rfl
  have hapart := h.apart
  rw [hsplit, List.map_append, List.map_cons, List.pairwise_append] at hapart
  obtain ⟨-, hback, hfront⟩ := hapart
  -- another room with the row would break `apart`
  have hkept : ∀ r' ∈ front ++ back, ∀ row ∈ s.db.room, StoredAs r' row → ¬ StoredAs r row := by
    intro r' hr' row hrow hstored hstored'
    rcases List.mem_append.mp hr' with hr' | hr'
    · exact hfront _ (List.mem_map_of_mem hr') _ List.mem_cons_self row hrow hstored hstored'
    · exact (List.pairwise_cons.mp hback).1 _ (List.mem_map_of_mem hr') row hrow hstored' hstored
  refine ⟨h.keys, fun row hrow => ?_, fun r' hr' => ?_, hidentity ▸ h.apart, fun r' hr' row hrow hstored => ?_⟩
  · rw [if_neg fun hin => absurd (h.keys.below row hin.1) (Nat.not_lt.mpr hrow)]
    exact h.fresh row hrow
  · obtain ⟨r'', hr'', hsame⟩ := List.mem_map.mp (hidentity ▸ List.mem_map_of_mem hr')
    have hid : r''.identity.dbId = r'.identity.dbId := congrArg ChatRoom.dbId hsame
    rw [show r'.dbId = r''.dbId from hid.symm]
    exact h.below r'' hr''
  · rw [Server.updateRoom, hmodify] at hr'
    rcases List.mem_append.mp hr' with hr' | hr'
    · rw [if_neg fun hin => hkept r' (List.mem_append_left _ hr') row hrow hstored hin.2]
      exact h.counted r' (hsplit ▸ List.mem_append_left _ hr') row hrow hstored
    · rcases List.mem_cons.mp hr' with rfl | hr'
      · have hstored : StoredAs r row := hstored
        rw [if_pos ⟨hrow, hstored⟩, h.counted r (hsplit ▸ List.mem_append_right _ List.mem_cons_self) row hrow hstored]
        exact (UInt32.ofNat_add _ 1).symm
      · rw [if_neg fun hin => hkept r' (List.mem_append_right _ hr') row hrow hstored hin.2]
        exact h.counted r' (hsplit ▸ List.mem_append_right _ (List.mem_cons_of_mem r hr')) row hrow hstored

end Counted

section Requests

/-- Whatever the counters stand at, they stand there still. -/
def KeepsCounts (s t : Server) : Prop := ∀ n, Counted n s → Counted n t

theorem keepsCounts_change (h : Change False False True s t) : KeepsCounts s t :=
  fun _ hs => hs.steady (steady_change h)

theorem keepsCounts_makes {x : Serve α} (h : x.Makes (Change False False True)) : x.Makes KeepsCounts :=
  h.mono fun _ _ => keepsCounts_change

theorem Counted.added (h : Counted n s) (hid : r.dbId = -1) : Counted n (s.added r) := by
  unfold Server.added
  split
  · cases hrow : s.insertedRow r with
    | none =>
      rw [Server.persisted, hrow]
      exact h.unstored rfl rfl hid
    | some result =>
      obtain ⟨id, db⟩ := result
      rw [Server.persisted, hrow]
      exact h.stored (insertedRow_eq_some hrow).2 rfl rfl
  · exact h.unstored rfl rfl hid

private theorem keepsCounts_createRoom (creator : Option AvatarPtr) (roomName roomTopic roomPassword : U16String)
    (roomAttributes maxRoomSize : UInt32) (roomAddress : U16String) :
    (createRoom creator roomName roomTopic roomPassword roomAttributes maxRoomSize roomAddress).Makes
      KeepsCounts := by
  intro s
  apply ReflTransGen.single
  intro n hs
  cases hexists : s.roomExists (fullAddress roomAddress roomName) with
  | true =>
    rw [createRoom_refused hexists]
    exact hs
  | false =>
    cases creator with
    | none =>
      rw [createRoom, get_bind_run, if_neg (by simp [hexists])]
      exact hs.steady (.of_eq rfl rfl)
    | some creator =>
      rw [createRoom_run hexists]
      exact hs.added rfl

private theorem keepsCounts_destroyRoom (room : RoomPtr) : (destroyRoom room).Makes KeepsCounts := by
  intro s
  apply ReflTransGen.single
  intro n hs
  cases hr : s.rooms[room]? with
  | none =>
    rw [destroyRoom, bind_error (readRoom_none hr)]
    exact hs
  | some r =>
    have hdeleted : Counted n (if r.isPersistent then s.deletedRow r.dbId else s) := by
      split
      · exact hs.fewer (List.Sublist.refl _) (fun row hrow => (List.mem_filter.mp hrow).1) rfl
      · exact hs
    rw [destroyRoom_run hr]
    split
    · exact hs.steady (.of_eq rfl rfl)
    · split
      · exact hdeleted.fewer List.filter_sublist (fun _ hrow => hrow) rfl
      · exact hdeleted

/-- Only messages to rooms and the logins of SYSTEM move counters. -/
theorem keepsCounts_handler (client : ClientId) (request : Request) (hspeaking : ¬ request.speaking)
    (hsystem : ¬ s.SystemLogin request) : KeepsCounts s (request.handler client s).2 := by
  have hmakes : ReflTransGen KeepsCounts s (request.handler client s).2 := by
    have hkeep : ∀ t u, Change False False True t u → KeepsCounts t u := fun _ _ => keepsCounts_change
    cases request with
    | sendRoomMessage r => exact absurd trivial hspeaking
    | createRoom r =>
      refine Makes.bind (keepsCounts_makes (makes_getAvatarById r.creatorId)) (fun creator => ?_) s
      refine (keepsCounts_createRoom creator _ _ _ _ _ _).bind fun room => ?_
      exact keepsCounts_makes (makes_setResponse _)
    | destroyRoom r =>
      refine Makes.bind (keepsCounts_makes (makes_requireSrcAvatar _)) (fun src => ?_) s
      refine (keepsCounts_makes (makes_requireRoom _ _)).bind fun room => ?_
      refine (still_readRoom room).makes.bind fun r => (keepsCounts_makes (makes_setResponse _)).bind fun _ => ?_
      exact (keepsCounts_destroyRoom room).bind fun _ => keepsCounts_makes (makes_sendDestroyRoomUpdate _ _ _)
    | loginAvatar r =>
      apply ReflTransGen.mono hkeep _ _ (Handler.changes_loginAvatar trivial client r _)
      exact fun avatar t hrun hname => hsystem ⟨avatar, t, hrun, hname⟩
    | failoverReLoginAvatar r =>
      apply ReflTransGen.mono hkeep _ _ (Handler.changes_failoverReLoginAvatar trivial client r _)
      exact fun avatar t hrun hname => hsystem ⟨avatar, t, hrun, hname⟩
    | _ => exact keepsCounts_makes (makes_handler client _ id id fun _ => trivial) s
  exact changes_related (fun _ _ h => h) (fun h h' n hs => h' n (h n hs)) (fun _ _ h => h) hmakes

end Requests
end StationChat
