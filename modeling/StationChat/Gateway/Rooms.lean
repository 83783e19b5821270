import StationChat.Gateway.Contacts
import StationChat.Model.ChatRoomRoles
import Mathlib.Data.List.Basic

/-! The contract of the rooms: their creation, loading and destruction, and their role lists. -/
namespace StationChat
open Lib Lib.Action Lib.Contract

variable {P : Exn → Prop} {keep : Prop} {s : Server} {room : RoomPtr}

section Lists

theorem mem_pointers_setList {r : ChatRoom} {l : RoomList} {as : List AvatarPtr} {p : AvatarPtr}
    (h : p ∈ (r.setList l as).pointers) : p ∈ r.pointers ∨ p ∈ as := by
  cases l <;> simp only [ChatRoom.setList, ChatRoom.pointers, List.mem_append] at h ⊢ <;> tauto

theorem mem_pointers_list {r : ChatRoom} {l : RoomList} {p : AvatarPtr} (h : p ∈ r.list l) :
    p ∈ r.pointers := by
  cases l <;> simp only [ChatRoom.list] at h <;> simp [ChatRoom.pointers, h]

/-- A room found at a position is one of the rooms. -/
theorem Fit.room_pointers (hs : Fit P s) {r : ChatRoom} (h : s.rooms[room]? = some r) :
    ∀ p ∈ r.pointers, Live s.avatarCache p := hs.1.rooms r (List.mem_of_getElem? h)

/-- The rooms in which a persistent role change may be made: all if the unset service pointer is
tolerated, else those that have their service. -/
def Owned (P : Exn → Prop) (s : Server) (room : RoomPtr) : Prop :=
  ¬ P .unsetService → ∀ r, s.rooms[room]? = some r → r.isPersistent = true → r.roomService = .owner

theorem Fit.setList (hs : Fit P s) {l : RoomList} {as : List AvatarPtr} (howned : Owned P s room)
    (has : ∀ p ∈ as, Live s.avatarCache p) : Fit P (s.updateRoom room (·.setList l as)) := by
  refine hs.updateRoom (fun r hr p hp => ?_) fun hu r hr hunset hpersistent => ?_
  · rcases mem_pointers_setList hp with hp | hp
    · exact hs.room_pointers hr p hp
    · exact has p hp
  · have hframe := r.setList_frame l as
    rw [hframe.1] at hunset
    rw [ChatRoom.isPersistent, ChatRoom.hasAttribute, hframe.2.2.2.2.2.1] at hpersistent
    rw [howned hu r hr hpersistent] at hunset
    exact absurd hunset (by simp)

theorem lt_of_getElem? {r : ChatRoom} (h : s.rooms[room]? = some r) : room < s.rooms.length :=
  (List.getElem?_eq_some_iff.mp h).1

/-- The write of a role list and, for a persistent room, of its table. -/
theorem holds_storeRole {r : ChatRoom} {l : RoomList} {as : List AvatarPtr}
    {call : Option (UInt32 → Serve Unit)} (hs : Fit P s) (hr : s.rooms[room]? = some r)
    (howned : Owned P s room) (has : ∀ p ∈ as, Live s.avatarCache p)
    (hcall : ∀ write, call = some write → ∀ roomId t, Fit P t →
      (gateway P keep).Holds (write roomId) t fun _ _ => True) :
    (gateway P keep).Holds (storeRole room l as call) s fun _ _ => True := by
  have hlt := lt_of_getElem? hr
  refine (holds_writeRoom (hs.setList howned has) hlt).bind fun _ t ht _ heq => ?_
  subst heq
  have hr' : (s.updateRoom room (·.setList l as)).rooms[room]? = some (r.setList l as) :=
    getElem?_updateRoom hr
  refine (holds_readRoom ht (lt_of_getElem? hr')).bind fun r' t ht _ ⟨heq, hget⟩ => ?_
  subst heq
  obtain rfl := Option.some.inj (hr'.symm.trans hget)
  cases call with
  | none => exact holds_pure ht trivial
  | some write =>
    refine holds_runIf ht fun hpersistent => ?_
    refine (holds_readRoom ht (lt_of_getElem? hr')).bind fun r' t ht _ ⟨heq, hget⟩ => ?_
    subst heq
    obtain rfl := Option.some.inj (hr'.symm.trans hget)
    have hframe := r.setList_frame l as
    cases hservice : (r.setList l as).roomService with
    | owner => exact hcall write rfl _ _ ht
    | unset =>
      refine holds_throw ht ?_
      by_contra hu
      rw [ChatRoom.isPersistent, ChatRoom.hasAttribute, hframe.2.2.2.2.2.1] at hpersistent
      rw [hframe.1, howned hu r hr hpersistent] at hservice
      exact absurd hservice (by simp)

theorem holds_persistRole (table : RoleTable) (avatarId roomId : UInt32) (hs : Fit P s) :
    (gateway P keep).Holds (persistRole table avatarId roomId) s fun _ _ => True := by
  refine (holds_execute hs fun _ db h => ?_).mono fun _ _ _ _ _ => trivial
  obtain ⟨_, rfl⟩ := Prod.ext_iff.mp (Option.some.inj h)
  exact hs.good.insertRole table _ _

theorem holds_deleteRole (table : RoleTable) (avatarId roomId : UInt32) (hs : Fit P s) :
    (gateway P keep).Holds (deleteRole table avatarId roomId) s fun _ _ => True := by
  refine (holds_execute hs fun _ db h => ?_).mono fun _ _ _ _ _ => trivial
  obtain ⟨_, rfl⟩ := Prod.ext_iff.mp (Option.some.inj h)
  exact hs.good.of_sub rfl rfl rfl (fun _ hr => hr) fun _ hr => hr

/-- A role change that passes its checks needs the room's service, unless that is tolerated. -/
def Serviced (P : Exn → Prop) (s : Server) (room : RoomPtr) (passes : ChatRoom → Prop) : Prop :=
  ¬ P .unsetService → ∀ r, s.rooms[room]? = some r → passes r → r.isPersistent = true →
    r.roomService = .owner

private theorem Serviced.owned {passes : ChatRoom → Prop} {r : ChatRoom}
    (h : Serviced P s room passes) (hr : s.rooms[room]? = some r) (hpass : passes r) :
    Owned P s room := fun hu r' hr' hp => by
  obtain rfl := Option.some.inj (hr.symm.trans hr')
  exact h hu r hr hpass hp

theorem holds_addToList {l : RoomList} {privileged : ChatRoom → Bool} {duplicate : ChatResultCode}
    {persist : Option (UInt32 → UInt32 → Serve Unit)} {avatar : AvatarPtr} (hs : Fit P s)
    (hlt : room < s.rooms.length) (hlive : Live s.avatarCache avatar)
    (hcode : duplicate ≠ .success) (hserviced : Serviced P s room fun r => privileged r = true)
    (hpersist : ∀ write, persist = some write → ∀ avatarId roomId t, Fit P t →
      (gateway P keep).Holds (write avatarId roomId) t fun _ _ => True) :
    (gateway P keep).Holds (addToList l privileged duplicate persist room avatar) s
      fun _ _ => True := by
  refine (holds_readRoom hs hlt).bind fun r t ht _ ⟨heq, hr⟩ => ?_
  subst heq
  refine holds_ite (fun _ => holds_throw ht (by simp [gateway, Allowed])) fun hpriv => ?_
  refine holds_ite (fun _ => holds_throw ht hcode) fun _ => ?_
  refine holds_storeRole ht hr (hserviced.owned hr (by simpa using hpriv)) (fun p hp => ?_) ?_
  · rcases List.mem_append.mp hp with hp | hp
    · exact hs.room_pointers hr p (mem_pointers_list hp)
    · rwa [List.mem_singleton.mp hp]
  · intro write hwrite roomId u hu
    obtain ⟨write', rfl, rfl⟩ := Option.map_eq_some_iff.mp hwrite
    exact hpersist write' rfl _ _ u hu

theorem holds_removeFromList {l : RoomList} {privileged : ChatRoom → Bool} {absent : ChatResultCode}
    {delete : Option (UInt32 → UInt32 → Serve Unit)} {avatarId : UInt32} (hs : Fit P s)
    (hlt : room < s.rooms.length) (hcode : absent ≠ .success)
    (hserviced : Serviced P s room fun r => privileged r = true ∧ r.inList l avatarId = true)
    (hdelete : ∀ write, delete = some write → ∀ avatarId roomId t, Fit P t →
      (gateway P keep).Holds (write avatarId roomId) t fun _ _ => True) :
    (gateway P keep).Holds (removeFromList l privileged absent delete room avatarId) s
      fun _ _ => True := by
  refine (holds_readRoom hs hlt).bind fun r t ht _ ⟨heq, hr⟩ => ?_
  subst heq
  refine holds_ite (fun _ => holds_throw ht (by simp [gateway, Allowed])) fun hpriv => ?_
  refine holds_ite (fun _ => holds_throw ht hcode) fun hin => ?_
  have hpass : privileged r = true ∧ r.inList l avatarId = true := by
    simp only [Bool.or_eq_true, Bool.not_eq_true', not_or, Bool.not_eq_false] at hpriv hin
    exact ⟨hpriv, hin.2⟩
  refine holds_storeRole ht hr (hserviced.owned hr hpass) (fun p hp => ?_) ?_
  · exact hs.room_pointers hr p (mem_pointers_list (List.mem_filter.mp hp).1)
  · intro write hwrite roomId u hu
    obtain ⟨write', rfl, rfl⟩ := Option.map_eq_some_iff.mp hwrite
    exact hdelete write' rfl _ _ u hu

/-- A moderator's right cannot be held in a persistent room without its service. -/
theorem Fit.serviced_moderator (hs : Fit P s) (srcAvatarId : UInt32) :
    Serviced P s room fun r => r.isModerator srcAvatarId = true := by
  intro hu r hr hmod hpersistent
  cases hservice : r.roomService with
  | owner => rfl
  | unset =>
    have hnone := hs.bare hu r (List.mem_of_getElem? hr) hservice hpersistent
    simp [ChatRoom.isModerator, ChatRoom.inList, ChatRoom.list, hnone] at hmod

end Lists

section Life

theorem holds_loadRoomRow {row : RoomRow} (hs : Fit P s) (hsmall : ¬ P .outOfRange → row.Small) :
    (gateway P keep).Holds (loadRoomRow row) s fun _ _ => True := by
  refine holds_get_bind (holds_modify_bind hs ?_ ?_)
  · exact Kept.of_eq (fun _ h => h) rfl rfl rfl fun _ => Nat.le_refl _
  have hs' : Fit P { s with nextRoomId := s.nextRoomId + 1 } := hs
  refine (holds_gatewayColumnInt hs' fun h => (hsmall h).1).bind fun dbId _ ht _ ⟨_, _, h⟩ => ?_
  subst h
  refine (holds_gatewayColumnInt ht fun h => (hsmall h).2.1).bind fun creatorId _ ht _ ⟨_, _, h⟩ => ?_
  subst h
  refine (holds_gatewayColumnInt ht fun h => (hsmall h).2.2.1).bind fun attrs _ ht _ ⟨_, _, h⟩ => ?_
  subst h
  refine (holds_gatewayColumnInt ht fun h => (hsmall h).2.2.2.1).bind fun size _ ht _ ⟨_, _, h⟩ => ?_
  subst h
  refine (holds_gatewayColumnInt ht fun h => (hsmall h).2.2.2.2.1).bind fun msg _ ht _ ⟨_, _, h⟩ => ?_
  subst h
  refine (holds_gatewayColumnInt ht fun h => (hsmall h).2.2.2.2.2.1).bind fun time _ ht _ ⟨_, _, h⟩ => ?_
  subst h
  refine (holds_gatewayColumnInt ht fun h => (hsmall h).2.2.2.2.2.2).bind fun node _ ht _ ⟨_, _, h⟩ => ?_
  subst h
  refine holds_get_bind (holds_ite (fun _ => holds_pure ht trivial) fun _ => ?_)
  refine holds_modify ⟨{ ht.1 with rooms := fun r hr p hp => ?_ }, ht.2.1, ht.2.2.1, fun hu r hr => ?_⟩
    (Kept.of_eq (fun _ h => h) rfl rfl rfl fun _ => by simp) trivial
  · rcases List.mem_append.mp hr with hr | hr
    · exact ht.1.rooms r hr p hp
    · rw [List.mem_singleton.mp hr] at hp
      simp [ChatRoom.pointers] at hp
  · rcases List.mem_append.mp hr with hr | hr
    · exact ht.bare hu r hr
    · rw [List.mem_singleton.mp hr]
      exact fun _ _ => rfl

/-- Every room in memory is given up first, so room pointers do not survive. -/
theorem holds_loadRoomsFromStorage (baseAddress : U16String) (hs : Fit P s) :
    (gateway P False).Holds (loadRoomsFromStorage baseAddress) s fun _ _ => True := by
  have hcleared : Fit P { s with rooms := [] } :=
    ⟨{ hs.1 with rooms := by simp }, hs.2.1, hs.2.2.1, fun _ r hr => absurd hr (by simp)⟩
  refine holds_modify_bind hcleared ?_ ?_
  · exact Kept.of_eq (fun _ h => h) rfl rfl rfl False.elim
  refine (holds_select (a := s.db.room.filter fun row =>
    addressLike s.db.collation (fromWideString baseAddress) row.roomAddress) hcleared rfl).bind ?_
  rintro rows t ht _ ⟨rfl, rfl⟩
  refine holds_forM _ ht fun row hrow u hu _ => holds_loadRoomRow hu fun hr => ?_
  exact (hs.inRange hr).tables.room row (List.mem_filter.mp hrow).1

/-- What a created room adds to the tables is readable. -/
def RoomInRange (P : Exn → Prop) (s : Server) (roomAttributes maxRoomSize : UInt32) : Prop :=
  ¬ P .outOfRange → roomAttributes &&& RoomAttribute.persistent.mask ≠ 0 →
    s.db.nextRoomId < 2 ^ 31 ∧ roomAttributes.toNat < 2 ^ 31 ∧ maxRoomSize.toNat < 2 ^ 31

theorem holds_persistNewRoom {r : ChatRoom} (hs : Fit P s) (hr : s.rooms[room]? = some r)
    (hsmall : ¬ P .outOfRange → RoomRow.Small { roomColumns r with id := s.db.nextRoomId }) :
    (gateway P keep).Holds (persistNewRoom room) s fun _ _ => True := by
  have htry : (gateway P keep).Holds (do
      let r ← readRoom room
      let id ← execute (.insertRoom (roomColumns r))
      writeRoom room fun r => { r with dbId := toInt32 (UInt32.ofNat id) }
      pure ChatResultCode.success) s fun _ _ => True := by
    refine (holds_readRoom hs (lt_of_getElem? hr)).bind fun r' t ht _ ⟨heq, hget⟩ => ?_
    subst heq
    obtain rfl := Option.some.inj (hr.symm.trans hget)
    refine (holds_execute ht fun id db h => ?_).bind ?_
    · exact ht.good.insertRoom hsmall h
    rintro id u hu _ ⟨db, _, rfl⟩
    have hfit : Fit P (Server.updateRoom _ room fun r => { r with dbId := toInt32 (UInt32.ofNat id) }) :=
      hu.updateRoom (fun r hr p hp => hu.room_pointers hr p hp) fun hb r hr =>
        hu.bare hb r (List.mem_of_getElem? hr)
    refine (holds_writeRoom hfit (lt_of_getElem? hr)).bind fun _ v hv _ _ => ?_
    exact holds_pure hv trivial
  refine holds_tryCatch htry (fun _ h => h) (fun _ _ ht _ _ => ⟨ht, trivial⟩) fun e t ht _ he => ?_
  cases e with
  | database => exact holds_pure ht trivial
  | _ => exact holds_throw ht he

theorem holds_createRoom {creator : Option AvatarPtr} {roomName roomTopic roomPassword : U16String}
    {roomAttributes maxRoomSize : UInt32} {roomAddress : U16String} (hs : Fit P s)
    (hcreator : s.roomExists (fullAddress roomAddress roomName) = false →
      Pointer P s.avatarCache creator)
    (hsmall : s.roomExists (fullAddress roomAddress roomName) = false →
      RoomInRange P s roomAttributes maxRoomSize) :
    (gateway P True).Holds (createRoom creator roomName roomTopic roomPassword roomAttributes
      maxRoomSize roomAddress) s fun room t => room < t.rooms.length := by
  refine holds_get_bind (holds_ite (fun _ => holds_throw hs (by simp [gateway, Allowed])) fun hnew => ?_)
  have hnew : s.roomExists (fullAddress roomAddress roomName) = false := by simpa using hnew
  have hs' : Fit P { s with nextRoomId := s.nextRoomId + 1 } := hs
  refine holds_get_bind (holds_modify_bind hs' ?_ ?_)
  · exact Kept.of_eq (fun _ h => h) rfl rfl rfl fun _ => Nat.le_refl _
  refine (holds_derefPointer hs' (hcreator hnew)).bind fun p t _ _ ⟨heq, _, hlive⟩ => ?_
  subst heq
  let r := ChatRoom.make s.nextRoomId p roomName roomTopic roomPassword roomAttributes maxRoomSize
    roomAddress
  have hfit : Fit P { s with nextRoomId := s.nextRoomId + 1, rooms := s.rooms ++ [r] } := by
    refine ⟨{ hs.1 with rooms := fun r' hr' q hq => ?_ }, hs.2.1, hs.2.2.1, fun hu r' hr' => ?_⟩
    · rcases List.mem_append.mp hr' with hr' | hr'
      · exact hs.1.rooms r' hr' q hq
      · rw [List.mem_singleton.mp hr'] at hq
        obtain rfl : q = p := by simpa [r, ChatRoom.pointers, ChatRoom.make] using hq
        exact hlive
    · rcases List.mem_append.mp hr' with hr' | hr'
      · exact hs.bare hu r' hr'
      · rw [List.mem_singleton.mp hr']
        exact fun h => absurd h (by simp [r, ChatRoom.make])
  refine holds_get_bind (holds_modify_bind hfit ?_ ?_)
  · exact Kept.of_eq (fun _ h => h) rfl rfl rfl fun _ => by simp
  have hget : (s.rooms ++ [r])[s.rooms.length]? = some r := by simp
  refine (holds_runIf hfit fun hpersistent => ?_).bind fun _ t ht hst _ => holds_pure ht ?_
  · refine (holds_persistNewRoom hfit hget fun hr => ?_).bind fun _ t ht _ _ => holds_pure ht trivial
    have hrange := hsmall hnew hr (by simpa [ChatRoom.isPersistent, ChatRoom.hasAttribute,
      ChatRoom.make] using hpersistent)
    obtain ⟨a, ha, rfl⟩ := hlive
    exact ⟨hrange.1, ((hs.inRange hr).cached a ha).1, hrange.2.1, hrange.2.2,
      show (1 : UInt32).toNat < 2 ^ 31 by decide, show (0 : UInt32).toNat < 2 ^ 31 by decide,
      show (0 : UInt32).toNat < 2 ^ 31 by decide⟩
  · have hle := hst.rooms trivial
    simp only [List.length_append, List.length_singleton] at hle
    exact hle

theorem holds_destroyRoom (hs : Fit P s) (hlt : room < s.rooms.length)
    (hsettled : ¬ P .freedRoom → s.rooms.length ≤ room + 2) :
    (gateway P False).Holds (destroyRoom room) s fun _ _ => True := by
  refine (holds_readRoom hs hlt).bind fun r t ht _ ⟨heq, _⟩ => ?_
  subst heq
  refine Holds.bind (Q := fun _ u => u.rooms = t.rooms) ?_ fun _ u hu _ hrooms => ?_
  · refine holds_ite (fun _ => (holds_execute ht fun _ db h => ?_).mono ?_) fun _ => holds_pure ht rfl
    · obtain ⟨_, rfl⟩ := Prod.ext_iff.mp (Option.some.inj h)
      exact ht.good.deleteRoom _
    · rintro _ u _ _ ⟨db, _, rfl⟩
      rfl
  refine holds_get_bind ?_
  cases hpass : erasePass r.roomId room [] 0 false u.rooms with
  | none =>
    refine holds_throw hu (Classical.byContradiction fun hfreed => ?_)
    have hle := hsettled hfreed
    obtain ⟨left, hleft⟩ := erasePass_ends r.roomId room [] u.rooms (Nat.le_refl 0)
      (by rw [hrooms]; omega)
    exact absurd (hpass.symm.trans hleft) (by simp)
  | some left =>
    have hleft : ∀ r' ∈ left, r' ∈ u.rooms := by
      rw [erasePass_eq_some hpass]
      exact fun r' hr' => (List.mem_filter.mp hr').1
    refine holds_modify ⟨{ hu.1 with rooms := fun r' hr' => ?_ }, hu.2.1, hu.2.2.1, fun hb r' hr' => ?_⟩
      (Kept.of_eq (fun _ h => h) rfl rfl rfl False.elim) trivial
    · exact hu.1.rooms r' (hleft r' hr')
    · exact hu.bare hb r' (hleft r' hr')

theorem holds_getJoinedRooms {avatar : Option AvatarPtr} (hs : Fit P s)
    (ha : Pointer P s.avatarCache avatar) :
    (gateway P keep).Holds (getJoinedRooms avatar) s fun rooms t =>
      t = s ∧ ∀ room ∈ rooms, room < s.rooms.length := by
  refine holds_get_bind (holds_ite (fun _ => ?_) fun _ => ?_)
  · exact ⟨hs, Kept.refl s, rfl, by simp⟩
  · refine (holds_derefPointer hs ha).bind fun p t ht _ ⟨heq, _, _⟩ => ?_
    subst heq
    refine ⟨ht, Kept.refl t, rfl, fun i hi => ?_⟩
    exact (List.mem_findIdxs_iff_exists_getElem_pos.mp hi).1

end Life
end StationChat
