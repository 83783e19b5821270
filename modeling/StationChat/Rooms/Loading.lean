import StationChat.Protocol.Gateway
import StationChat.Rooms.Origin

/-! What a load does to the rooms that were in memory. -/
namespace StationChat
open Lib Lib.Action

section Ids
variable {s t : Server} {row : RoomRow} {rows : List RoomRow}

/-- Every room id in use was handed out before. -/
def Server.IdsBelow (s : Server) : Prop := ∀ r ∈ s.rooms, r.roomId.toNat < s.nextRoomId.toNat

/-- The ids a call takes do not exhaust the counter. -/
def Server.IdsLeft (s : Server) : RoomCall → Prop
  | .load baseAddress => s.nextRoomId.toNat + (s.selectedRooms baseAddress).length < 2 ^ 32
  | .create .. => s.nextRoomId.toNat + 1 < 2 ^ 32
  | _ => True

theorem takeRoomId_toNat (h : s.nextRoomId.toNat + 1 < 2 ^ 32) :
    s.takeRoomId.nextRoomId.toNat = s.nextRoomId.toNat + 1 := by
  rw [Server.takeRoomId, UInt32.toNat_add]
  exact Nat.mod_eq_of_lt h

/-- Each row takes one id, and the rooms that are new have ids taken on the way. -/
theorem loadRows_ids (rows : List RoomRow) (h : s.nextRoomId.toNat + rows.length < 2 ^ 32) :
    (s.loadRows rows).nextRoomId.toNat = s.nextRoomId.toNat + rows.length ∧
      ∀ r ∈ (s.loadRows rows).rooms, r ∈ s.rooms ∨ s.nextRoomId.toNat ≤ r.roomId.toNat ∧
        r.roomId.toNat < s.nextRoomId.toNat + rows.length := by
  induction rows generalizing s with
  | nil => exact ⟨rfl, fun r hr => .inl hr⟩
  | cons row rest ih =>
    rw [List.length_cons] at h ⊢
    have hnext : (s.loadRow row).nextRoomId.toNat = s.nextRoomId.toNat + 1 := by
      rw [loadRow_rest]
      exact takeRoomId_toNat (by omega)
    obtain ⟨hcount, hrooms⟩ := ih (s := s.loadRow row) (by omega)
    refine ⟨hcount.trans (by omega), fun r hr => ?_⟩
    rcases hrooms r hr with hr | ⟨hle, hlt⟩
    · unfold Server.loadRow at hr
      split at hr
      · exact .inl hr
      · rcases List.mem_append.mp hr with hr | hr
        · exact .inl hr
        · rw [List.mem_singleton.mp hr]
          exact .inr ⟨Nat.le_refl _, by simp only [storedRoom]; omega⟩
    · exact .inr ⟨by omega, by omega⟩

/-- Where a load stops reading: every row read took an id, and so did the one it stopped at. -/
theorem load_ids {baseAddress : U16String} {result : Except Exn Unit}
    (h : loadRoomsFromStorage baseAddress s = (result, t)) :
    ∃ rows, t.rooms = (s.cleared.loadRows rows).rooms ∧
      (rows.length ≤ (s.selectedRooms baseAddress).length ∧
          t.nextRoomId = (s.cleared.loadRows rows).nextRoomId ∨
        rows.length + 1 ≤ (s.selectedRooms baseAddress).length ∧
          t.nextRoomId = (s.cleared.loadRows rows).takeRoomId.nextRoomId) := by
  by_cases hf : s.fails s.executed = true
  · rw [loadRoomsFromStorage_failed baseAddress hf] at h
    obtain rfl := (Prod.mk.inj h).2
    exact ⟨[], rfl, .inl ⟨Nat.zero_le _, rfl⟩⟩
  rw [loadRoomsFromStorage_run baseAddress (by simpa using hf), loadRoomRows_run] at h
  split at h
  · obtain rfl := (Prod.mk.inj h).2
    exact ⟨_, rfl, .inl ⟨Nat.le_refl _, rfl⟩⟩
  · rename_i hsmall
    obtain rfl := (Prod.mk.inj h).2
    refine ⟨(s.selectedRooms baseAddress).takeWhile fun row => row.Small, rfl, .inr ⟨?_, rfl⟩⟩
    have hread := List.takeWhile_prefix (l := s.selectedRooms baseAddress)
      (p := fun row => decide row.Small)
    refine Nat.lt_of_le_of_ne hread.length_le fun heq => hsmall ?_
    simpa using List.takeWhile_eq_self_iff.mp (hread.eq_of_length heq)

theorem idsBelow_of_identity (h : s.IdsBelow)
    (hrooms : t.rooms.map ChatRoom.identity = s.rooms.map ChatRoom.identity)
    (hnext : t.nextRoomId = s.nextRoomId) : t.IdsBelow := by
  intro r hr
  obtain ⟨r', hr', heq⟩ := List.mem_map.mp (hrooms ▸ List.mem_map_of_mem hr)
  have hid : r'.identity.roomId = r.identity.roomId := congrArg _ heq
  have hlt := h r' hr'
  rw [hnext]
  exact (congrArg UInt32.toNat hid : r'.roomId.toNat = r.roomId.toNat) ▸ hlt

theorem idsBelow_step {c : RoomCall} (h : s.IdsBelow) (ha : s.IdsLeft c) (hcall : s.call c = some t) :
    t.IdsBelow := by
  cases c with
  | load baseAddress =>
    obtain ⟨result, hrun⟩ := Server.call_eq_some hcall
    obtain ⟨rows, hrooms, hnext⟩ := load_ids hrun
    have hbound : s.cleared.nextRoomId.toNat + (s.selectedRooms baseAddress).length < 2 ^ 32 := ha
    have hlen : rows.length ≤ (s.selectedRooms baseAddress).length := by omega
    obtain ⟨hcount, hids⟩ := loadRows_ids (s := s.cleared) rows (by omega)
    intro r hr
    have hlt : r.roomId.toNat < s.cleared.nextRoomId.toNat + rows.length := by
      rcases hids r (hrooms ▸ hr) with hold | hnew
      · exact absurd hold (by simp [Server.cleared])
      · exact hnew.2
    rcases hnext with ⟨_, hnext⟩ | ⟨hlen', hnext⟩
    · rw [hnext, hcount]
      exact hlt
    · rw [hnext, takeRoomId_toNat (by omega), hcount]
      omega
  | create =>
    have hbound : s.nextRoomId.toNat + 1 < 2 ^ 32 := ha
    rcases create_cases hcall with ⟨_, rfl⟩ | ⟨_, avatar, r, _, hr, rfl⟩
    · exact h
    · obtain ⟨⟨dbId, hrooms⟩, hnext, _⟩ := added_rooms (s := s) r
      intro r' hr'
      rw [hnext, takeRoomId_toNat hbound]
      rw [hrooms] at hr'
      rcases List.mem_append.mp hr' with hr' | hr'
      · exact Nat.lt_succ_of_lt (h r' hr')
      · have hid : r'.roomId = s.nextRoomId := by rw [List.mem_singleton.mp hr', hr]; rfl
        rw [hid]
        exact Nat.lt_succ_self _
  | destroy room =>
    obtain ⟨r, _, ⟨rfl, _⟩ | ⟨rfl, _⟩ | ⟨rfl, _⟩⟩ := destroy_cases hcall
    · exact h
    · exact fun r' hr' => h r' (List.mem_filter.mp hr').1
    · exact fun r' hr' => h r' (List.mem_filter.mp hr').1
  | role =>
    have hframe := role_frame hcall
    exact idsBelow_of_identity h hframe.rooms hframe.nextRoomId
  | loadRole =>
    obtain ⟨r, _, hquiet⟩ := loadRole_cases hcall
    exact idsBelow_of_identity h hquiet.rooms hquiet.nextRoomId
  | operate =>
    have hquiet := operate_quiet hcall
    exact idsBelow_of_identity h hquiet.rooms hquiet.nextRoomId

/-- In every run that does not exhaust the counter. -/
theorem idsBelow_run {db : Database} {fails : Nat → Bool} {version : UInt32}
    {config : Policy.Config}
    (h : Server.Calls Server.IdsLeft (Server.start db fails version config) s) : s.IdsBelow :=
  Runs.invariant h (by simp [Server.IdsBelow, Server.start])
    fun _ _ _ hi ha hcall => idsBelow_step hi ha hcall

end Ids

section Others
variable {s : Server} {baseAddress : U16String} {rows : List RoomRow}

theorem loadRows_extends (rows : List RoomRow) : s.rooms <+: (s.loadRows rows).rooms := by
  induction rows generalizing s with
  | nil => exact List.prefix_rfl
  | cons row rest ih =>
    refine List.IsPrefix.trans ?_ (ih (s := s.loadRow row))
    unfold Server.loadRow
    split
    · exact List.prefix_rfl
    · exact List.prefix_append _ _

/-- The first row read always gives a room. -/
theorem loadRows_cleared_eq_nil : (s.cleared.loadRows rows).rooms = [] ↔ rows = [] := by
  constructor
  · intro h
    cases rows with
    | nil => rfl
    | cons row rest =>
      have hfirst : (s.cleared.loadRow row).rooms = [storedRoom s.nextRoomId row] := rfl
      have hread := loadRows_extends (s := s.cleared.loadRow row) rest
      rw [hfirst] at hread
      have hle := hread.length_le
      have hempty : ((s.cleared.loadRow row).loadRows rest).rooms = [] := h
      rw [hempty] at hle
      exact absurd hle (by simp)
  · rintro rfl
    rfl

/-- The room is still there, with its members and role lists. -/
def SameInMemory (r r' : ChatRoom) : Prop :=
  r'.roomId = r.roomId ∧ r'.roomAddress = r.roomAddress ∧ r'.avatars = r.avatars ∧
    ∀ l, r'.list l = r.list l

/-- A load leaves the rooms of other base addresses alone, and a load that fails all rooms. -/
def KeepsOthers (baseAddress : U16String) (s : Server) : Prop :=
  (loadRoomsFromStorage baseAddress).Ends s
    (fun _ t => ∀ r ∈ s.rooms, ¬ baseAddress <+: r.roomAddress → ∃ r' ∈ t.rooms, SameInMemory r r')
    (fun _ t => t.rooms = s.rooms)

/-- There are no other rooms; and none at all if the load fails, which then adds none either. -/
def NoOthers (baseAddress : U16String) (s : Server) : Prop :=
  if s.fails s.executed then s.rooms = []
  else if ∀ row ∈ s.selectedRooms baseAddress, row.Small then
    ∀ r ∈ s.rooms, baseAddress <+: r.roomAddress
  else s.rooms = [] ∧ ∀ row ∈ (s.selectedRooms baseAddress).head?, ¬ row.Small

instance : Decidable (NoOthers baseAddress s) := by
  unfold NoOthers
  infer_instance

private theorem fresh_of_load (h : s.IdsBelow) (hids : s.IdsLeft (.load baseAddress))
    {rows : List RoomRow} (hlen : rows.length ≤ (s.selectedRooms baseAddress).length) {r r' : ChatRoom}
    (hr : r ∈ s.rooms) (hr' : r' ∈ (s.cleared.loadRows rows).rooms) : r'.roomId ≠ r.roomId := by
  have hlt := h r hr
  have hbound : s.nextRoomId.toNat + (s.selectedRooms baseAddress).length < 2 ^ 32 := hids
  have hfresh := (loadRows_ids (s := s.cleared) rows
    (Nat.lt_of_le_of_lt (Nat.add_le_add_left hlen _) hbound)).2 r' hr'
  intro heq
  rcases hfresh with hold | ⟨hle, _⟩
  · exact absurd hold (by simp [Server.cleared])
  · rw [heq] at hle
    exact absurd (Nat.lt_of_lt_of_le hlt hle) (Nat.lt_irrefl _)

/-- In every state that a run reaches, a load disturbs no other room exactly if there is none. -/
theorem load_keeps_others_iff {db : Database} {fails : Nat → Bool} {version : UInt32}
    {config : Policy.Config}
    (h : Server.Calls Server.IdsLeft (Server.start db fails version config) s)
    (hids : s.IdsLeft (.load baseAddress)) : KeepsOthers baseAddress s ↔ NoOthers baseAddress s := by
  have hbelow := idsBelow_run h
  unfold KeepsOthers NoOthers Ends
  by_cases hf : s.fails s.executed = true
  · rw [loadRoomsFromStorage_failed baseAddress hf, if_pos hf]
    exact eq_comm
  rw [loadRoomsFromStorage_run baseAddress (by simpa using hf), loadRoomRows_run, if_neg hf]
  by_cases hsmall : ∀ row ∈ s.selectedRooms baseAddress, row.Small
  · rw [if_pos hsmall, if_pos hsmall]
    refine forall₂_congr fun r hr => ⟨fun hkept => Classical.byContradiction fun hother => ?_,
      fun hbase hother => absurd hbase hother⟩
    obtain ⟨r', hr', hid, _⟩ := hkept hother
    exact fresh_of_load hbelow hids (Nat.le_refl _) hr hr' hid
  · rw [if_neg hsmall, if_neg hsmall]
    have hlen := (List.takeWhile_prefix (l := s.selectedRooms baseAddress)
      (p := fun row => decide row.Small)).length_le
    have hhead : ((s.selectedRooms baseAddress).takeWhile fun row => row.Small) = [] ↔
        ∀ row ∈ (s.selectedRooms baseAddress).head?, ¬ row.Small := by
      cases s.selectedRooms baseAddress with
      | nil => simp
      | cons row rest => by_cases hrow : row.Small <;> simp [hrow]
    constructor
    · intro hrooms
      have hnone : s.rooms = [] := List.eq_nil_iff_forall_not_mem.mpr fun r hr =>
        fresh_of_load hbelow hids hlen hr (hrooms ▸ hr) rfl
      exact ⟨hnone, hhead.mp (loadRows_cleared_eq_nil.mp (hrooms.trans hnone))⟩
    · rintro ⟨hnone, hfirst⟩
      exact (loadRows_cleared_eq_nil.mpr (hhead.mpr hfirst)).trans hnone.symm

/-- A load of the base address that the only room in memory has. -/
theorem load_keeps_others_single :
    ∃ s : Server, s.rooms ≠ [] ∧ KeepsOthers [0x62] s := by
  have hfirst : ∃ s ∈ Server.twoAvatars.call (createPersistent [0x72] [0x62]),
      s.rooms ≠ [] ∧ s.nextRoomId.toNat + (s.selectedRooms [0x62]).length < 2 ^ 32 ∧
        NoOthers [0x62] s := by decide +kernel
  obtain ⟨s, hcall, hrooms, hids, hothers⟩ := hfirst
  have hleft : Server.twoAvatars.IdsLeft (createPersistent [0x72] [0x62]) := by
    show (0 : UInt32).toNat + 1 < 2 ^ 32
    decide
  exact ⟨s, hrooms, (load_keeps_others_iff
    (Relation.ReflTransGen.single ⟨_, hleft, hcall⟩) hids).mpr hothers⟩

/-- The login of one game server drops the room of another from memory. -/
theorem login_drops_other_rooms :
    ∃ s, Server.Reaches (fun _ _ => True) Server.twoAvatars s ∧
      ∃ r ∈ s.rooms, ¬ [0x61] <+: r.roomAddress ∧
        ∃ t ∈ s.step (.request 0 (.loginAvatar ⟨2, 7, systemName, [0x61], [], 0, 0⟩) 0 0),
          t.rooms = [] :=
  Runs.exists_of_inputs [.connect, .request 0 (.createRoom ⟨1, 1, [0x72], [], [], 0, 0, [0x62], []⟩) 0 0]
    (by decide +kernel) fun _ _ => trivial

end Others
end StationChat
