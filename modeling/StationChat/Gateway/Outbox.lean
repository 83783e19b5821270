import StationChat.Protocol.Handlers
import StationChat.Lib.Contract
import Mathlib.Data.List.Basic

/-! Sending adds messages and changes nothing else. -/
namespace StationChat
open Lib Lib.Action Lib.Contract

/-- `t` is `s` with more messages sent. -/
structure Posted (s t : Server) : Prop where
  rest : t = { s with sent := t.sent }
  sent : s.sent <+: t.sent

namespace Posted
variable {s t u : Server}

theorem refl (s : Server) : Posted s s := ⟨rfl, List.prefix_rfl⟩

theorem trans (h : Posted s t) (h' : Posted t u) : Posted s u := by
  refine ⟨?_, h.sent.trans h'.sent⟩
  rw [h'.rest, h.rest]

end Posted

/-- Computations that only send. -/
def posting : Contract Server Exn where
  inv _ := True
  step := Posted
  allowed _ := True
  refl := Posted.refl
  trans := Posted.trans

section Reading

theorem still_readAvatar (p : AvatarPtr) : Still (readAvatar p) := by
  intro s
  cases h : s.avatar? p with
  | some a => simp [readAvatar, h]
  | none => simp [readAvatar, h]

theorem still_readRoom (room : RoomPtr) : Still (readRoom room) := by
  intro s
  cases h : s.rooms[room]? with
  | some r => simp [readRoom, h]
  | none => simp [readRoom, h]

theorem still_deref {α : Type} (a : Option α) : Still (deref a : Serve α) := by
  cases a with
  | some a => exact still_pure a
  | none => exact still_throw _

theorem still_sameAvatar (contact avatar : Option AvatarPtr) : Still (sameAvatar contact avatar) :=
  (still_deref contact).bind fun _ => (still_deref avatar).bind fun _ => still_pure _

theorem still_isFriend (self : AvatarPtr) (avatar : Option AvatarPtr) : Still (isFriend self avatar) :=
  (still_readAvatar self).bind fun a => still_anyM (fun c => still_sameAvatar c.frnd avatar) a.friendList

theorem still_isIgnored (self : AvatarPtr) (avatar : Option AvatarPtr) : Still (isIgnored self avatar) :=
  (still_readAvatar self).bind fun a => still_anyM (fun c => still_sameAvatar c.ignored avatar) a.ignoreList

theorem still_removeIf {α : Type} {p : α → Serve Bool} (hp : ∀ a, Still (p a)) (l : List α) :
    Still (removeIf p l) := by
  induction l with
  | nil => exact still_pure _
  | cons a l ih => exact (hp a).bind fun _ => ih.bind fun _ => still_pure _

theorem still_getAvatarIds (room : ChatRoom) (srcAvatar : AvatarPtr) :
    Still (getAvatarIds room srcAvatar) :=
  (still_removeIf (fun roomAvatar => still_isIgnored roomAvatar (some srcAvatar)) room.avatars).bind
    fun _ => still_pure _

theorem still_friendLogin (avatar : AvatarPtr) (destAvatarId : UInt32) :
    Still (friendLogin avatar destAvatarId) :=
  (still_readAvatar avatar).bind fun _ => still_pure _

/-- A message that needs one avatar object. -/
theorem still_message (avatar : AvatarPtr) (f : ChatAvatar → Notification) :
    Still (do pure (f (← readAvatar avatar)) : Serve Notification) :=
  (still_readAvatar avatar).bind fun _ => still_pure _

end Reading

section Sending
variable {s t : Server}

theorem posted_of_run {α : Type} {x : Serve α} {Q : α → Server → Prop} (h : posting.Holds x s Q) {a : α}
    (hx : x s = (.ok a, t)) : Posted s t ∧ Q a t := by
  obtain ⟨_, hposted, hQ⟩ := Ends.ok_of_run h hx
  exact ⟨hposted, hQ⟩

theorem posting_still {α : Type} {x : Serve α} (h : Still x) :
    posting.Holds x s fun a t => t = s ∧ x s = (.ok a, s) :=
  holds_still h trivial fun _ _ _ => trivial

theorem posting_send (client : ClientId) (message : Outgoing) :
    posting.Holds (send client message) s fun _ _ => True :=
  holds_modify trivial ⟨rfl, List.prefix_append _ _⟩ trivial

theorem posting_sendTo (address : U16String) {message : Serve Notification} (h : Still message) :
    posting.Holds (sendTo address message) s fun _ _ => True := by
  refine holds_get_bind ?_
  cases s.clientAddressMap address with
  | none => exact holds_pure trivial trivial
  | some client =>
    refine holds_ite (fun _ => ?_) fun _ => holds_throw trivial trivial
    exact (posting_still h).bind fun m _ _ _ _ => posting_send client (.notify m)

theorem posting_sendFriendLoginUpdate (srcAvatar destAvatar : AvatarPtr) :
    posting.Holds (sendFriendLoginUpdate srcAvatar destAvatar) s fun _ _ => True :=
  (posting_still (still_friendLogin _ _)).bind fun m _ _ _ _ => posting_sendTo _ (still_pure m)

theorem posting_sendFriendLoginUpdates (client : ClientId) (avatar : AvatarPtr) :
    posting.Holds (sendFriendLoginUpdates client avatar) s fun _ _ => True := by
  refine holds_get_bind ((holds_forM _ trivial fun onlineAvatar _ _ _ _ => ?_).bind fun _ _ _ _ _ => ?_)
  · refine (posting_still (still_isFriend _ _)).bind fun _ _ _ _ _ => ?_
    exact holds_runIf trivial fun _ => posting_sendFriendLoginUpdate _ _
  · refine (posting_still (still_readAvatar _)).bind fun a _ _ _ _ =>
      holds_forM _ trivial fun contact _ _ _ _ => ?_
    refine (posting_still (still_deref _)).bind fun frnd _ _ _ _ => ?_
    refine (posting_still (still_readAvatar _)).bind fun f _ _ _ _ => holds_runIf trivial fun _ => ?_
    exact (posting_still (still_friendLogin _ _)).bind fun _ _ _ _ _ => posting_send _ _

theorem posting_sendFriendLogoutUpdates (avatar : Option AvatarPtr) :
    posting.Holds (sendFriendLogoutUpdates avatar) s fun _ _ => True := by
  refine holds_get_bind (holds_forM _ trivial fun onlineAvatar _ _ _ _ => ?_)
  refine (posting_still (still_isFriend _ _)).bind fun _ _ _ _ _ => holds_runIf trivial fun _ => ?_
  exact (posting_still (still_deref _)).bind fun a _ _ _ _ => posting_sendTo _ (still_message a _)

theorem posting_sendDestroyRoomUpdate (srcAvatar : AvatarPtr) (roomId : UInt32) (targets : List U16String) :
    posting.Holds (sendDestroyRoomUpdate srcAvatar roomId targets) s fun _ _ => True :=
  holds_forM targets trivial fun address _ _ _ _ => posting_sendTo address (still_message srcAvatar _)

theorem posting_sendInstantMessageUpdate (srcAvatar destAvatar : AvatarPtr) (message oob : U16String) :
    posting.Holds (sendInstantMessageUpdate srcAvatar destAvatar message oob) s fun _ _ => True :=
  posting_sendTo _ (still_message srcAvatar _)

theorem posting_sendRoomMessageUpdate (srcAvatar : AvatarPtr) (room : RoomPtr) (messageId : UInt32)
    (message oob : U16String) :
    posting.Holds (sendRoomMessageUpdate srcAvatar room messageId message oob) s fun _ _ => True := by
  refine (posting_still (still_readRoom _)).bind fun r _ _ _ _ => holds_forM _ trivial fun address _ _ _ _ => ?_
  refine (posting_still (still_readRoom _)).bind fun r _ _ _ _ => ?_
  refine (posting_still (still_getAvatarIds _ _)).bind fun destList _ _ _ _ => ?_
  exact posting_sendTo address (still_message srcAvatar _)

theorem posting_sendEnterRoomUpdate (srcAvatar : AvatarPtr) (room : RoomPtr) :
    posting.Holds (sendEnterRoomUpdate srcAvatar room) s fun _ _ => True :=
  (posting_still (still_readRoom _)).bind fun _ _ _ _ _ =>
    holds_forM _ trivial fun address _ _ _ _ => posting_sendTo address (still_message srcAvatar _)

theorem posting_sendLeaveRoomUpdate (addresses : List U16String) (srcAvatarId roomId : UInt32) :
    posting.Holds (sendLeaveRoomUpdate addresses srcAvatarId roomId) s fun _ _ => True :=
  holds_forM addresses trivial fun address _ _ _ _ => posting_sendTo address (still_pure _)

theorem posting_sendPersistentMessageUpdate (destAvatar : Option AvatarPtr) (header : PersistentHeader) :
    posting.Holds (sendPersistentMessageUpdate destAvatar header) s fun _ _ => True := by
  cases destAvatar with
  | none => exact holds_pure trivial trivial
  | some dest => exact posting_sendTo dest.address (still_pure _)

theorem posting_sendKickAvatarUpdate (addresses : List U16String) (srcAvatar destAvatar : AvatarPtr)
    (room : RoomPtr) :
    posting.Holds (sendKickAvatarUpdate addresses srcAvatar destAvatar room) s fun _ _ => True := by
  refine holds_forM addresses trivial fun address _ _ _ _ => ?_
  refine (posting_still (still_readRoom _)).bind fun r _ _ _ _ => posting_sendTo address ?_
  exact (still_readAvatar _).bind fun _ => still_message destAvatar _

end Sending

section Posting
variable {s t u : Server} {n : Notification} {address : U16String}

namespace Server

/-- The messages that reach the registered ones of the addresses. -/
def posts (s : Server) (addresses : List U16String) (n : Notification) : List (ClientId × Outgoing) :=
  addresses.filterMap fun address => (s.clientAddressMap address).map (·, .notify n)

/-- The client registered for the address is gone. -/
def Stale (s : Server) (address : U16String) : Prop :=
  ∃ client, s.clientAddressMap address = some client ∧ client ∉ s.clients

end Server

theorem mem_posts {addresses : List U16String} {m : ClientId × Outgoing} : m ∈ s.posts addresses n ↔
    ∃ address ∈ addresses, ∃ client, s.clientAddressMap address = some client ∧ m = (client, .notify n) := by
  simp only [Server.posts, List.mem_filterMap, Option.map_eq_some_iff]
  exact exists_congr fun _ => and_congr_right fun _ => exists_congr fun _ => and_congr_right fun _ => eq_comm

/-- Nothing was sent, and the same clients are registered. -/
structure Silent (s t : Server) : Prop where
  sent : t.sent = s.sent
  clients : t.clients = s.clients
  clientAddressMap : t.clientAddressMap = s.clientAddressMap

namespace Silent

theorem trans (h : Silent s t) (h' : Silent t u) : Silent s u :=
  ⟨h'.sent.trans h.sent, h'.clients.trans h.clients, h'.clientAddressMap.trans h.clientAddressMap⟩

theorem posts (h : Silent s t) : t.posts = s.posts := by
  funext addresses n
  rw [Server.posts, Server.posts, h.clientAddressMap]

theorem stale (h : Silent s t) : t.Stale = s.Stale := by
  funext address
  rw [Server.Stale, Server.Stale, h.clientAddressMap, h.clients]

end Silent

/-- Wherever the sending starts, each address gets the message, unless a client is gone. -/
def Broadcasts (s : Server) (addresses : List U16String) (n : Notification) (x : Serve Unit) : Prop :=
  ∀ sent, x.Ends { s with sent }
    (fun _ t => t = { s with sent := sent ++ s.posts addresses n })
    (fun e _ => e = .dangling ∧ ∃ address ∈ addresses, s.Stale address)

theorem broadcasts_sendTo {message : Serve Notification}
    (hmessage : ∀ sent, message { s with sent } = (.ok n, { s with sent })) :
    Broadcasts s [address] n (sendTo address message) := by
  intro sent
  unfold Ends
  rw [sendTo, get_bind_run]
  cases hclient : s.clientAddressMap address with
  | none => simp [Server.posts, hclient]
  | some client =>
    by_cases hlive : client ∈ s.clients
    · simp only [if_pos hlive]
      rw [bind_ok (hmessage sent)]
      simp [send, Server.posts, hclient]
    · simp only [if_neg hlive]
      exact ⟨rfl, address, List.mem_singleton_self _, client, hclient, hlive⟩

theorem broadcasts_forM {f : U16String → Serve Unit} (hf : ∀ address, Broadcasts s [address] n (f address))
    (addresses : List U16String) : Broadcasts s addresses n (forM addresses f) := by
  induction addresses with
  | nil =>
    intro sent
    simp [List.forM_nil, Server.posts]
  | cons address rest ih =>
    intro sent
    rw [List.forM_cons, ends_bind]
    apply (hf address sent).mono
    · rintro _ t rfl
      apply (ih _).mono
      · rintro _ t rfl
        simp [Server.posts, List.filterMap_cons]
        cases s.clientAddressMap address <;> simp
      · rintro e _ ⟨he, stale, hmem, hstale⟩
        exact ⟨he, stale, List.mem_cons_of_mem _ hmem, hstale⟩
    · rintro e _ ⟨he, stale, hmem, hstale⟩
      exact ⟨he, stale, List.mem_cons.mpr (.inl (List.mem_singleton.mp hmem)), hstale⟩

theorem broadcasts_sendLeaveRoomUpdate (addresses : List U16String) (srcAvatarId roomId : UInt32) :
    Broadcasts s addresses (.leaveRoom srcAvatarId roomId)
      (sendLeaveRoomUpdate addresses srcAvatarId roomId) :=
  broadcasts_forM (fun _ => broadcasts_sendTo fun _ => rfl) addresses

end Posting

section Leaving
variable {s t : Server} {p : AvatarPtr}

theorem leaveRoom_idem (r : ChatRoom) : (r.leaveRoom p).leaveRoom p = r.leaveRoom p := by
  simp [ChatRoom.leaveRoom]

theorem leaveRoom_of_not_isInRoom {r : ChatRoom} (h : r.isInRoom p.avatarId = false) :
    r.leaveRoom p = r := by
  have hnone : ∀ q ∈ r.avatars, (q.avatarId != p.avatarId) = true := by
    simpa [ChatRoom.isInRoom] using h
  rw [ChatRoom.leaveRoom, List.filter_eq_self.mpr hnone]

/-- The rooms at the given positions are left. -/
def leaveAt (p : AvatarPtr) (positions : List RoomPtr) (rooms : List ChatRoom) : List ChatRoom :=
  positions.foldl (fun rooms room => rooms.modify room (·.leaveRoom p)) rooms

theorem getElem?_leaveAt (positions : List RoomPtr) (rooms : List ChatRoom) (i : Nat) :
    (leaveAt p positions rooms)[i]? =
      rooms[i]?.map fun r => if i ∈ positions then r.leaveRoom p else r := by
  induction positions generalizing rooms with
  | nil => simp [leaveAt]
  | cons room positions ih =>
    have hstep := ih (rooms.modify room (·.leaveRoom p))
    rw [leaveAt, List.foldl_cons, ← leaveAt, hstep, List.getElem?_modify]
    cases rooms[i]? with
    | none => rfl
    | some r =>
      by_cases hroom : room = i
      · by_cases hmem : i ∈ positions
        · simp [hroom, hmem, leaveRoom_idem]
        · simp [hroom, hmem]
      · simp [hroom, Ne.symm hroom]

/-- Leaving the rooms an avatar is in is leaving all rooms. -/
theorem leaveAt_joined (s : Server) :
    leaveAt p (s.roomsWhere (·.isInRoom p.avatarId)) s.rooms = s.rooms.map (·.leaveRoom p) := by
  apply List.ext_getElem?
  intro i
  rw [getElem?_leaveAt, List.getElem?_map]
  cases hr : s.rooms[i]? with
  | none => rfl
  | some r =>
    simp only [Option.map_some]
    split
    · rfl
    · rename_i hout
      obtain ⟨hi, rfl⟩ := List.getElem?_eq_some_iff.mp hr
      have hnot := mt (List.mem_findIdxs_iff_pos_getElem hi).mpr hout
      rw [leaveRoom_of_not_isInRoom (by simpa using hnot)]

theorem getJoinedRooms_run (s : Server) : getJoinedRooms (some p) s =
    (.ok (s.roomsWhere (·.isInRoom p.avatarId)), s) := by
  rw [getJoinedRooms, get_bind_run]
  cases hrooms : s.rooms with
  | nil => simp [Server.roomsWhere, hrooms]
  | cons r rest => rfl

/-- A room is left once the addresses of its members are taken down. -/
private theorem leaveRoom_round {room : RoomPtr} {r : ChatRoom} (hr : s.rooms[room]? = some r) : Ends (do
      let addresses := (← readRoom room).getConnectedAddresses
      let a ← deref (some p)
      writeRoom room (·.leaveRoom a)
      sendLeaveRoomUpdate addresses a.avatarId (← readRoom room).roomId) s
    (fun _ t => t = { s with
      rooms := s.rooms.modify room (·.leaveRoom p)
      sent := s.sent ++ s.posts r.getConnectedAddresses (.leaveRoom p.avatarId r.roomId) })
    (fun e _ => e = .dangling ∧ ∃ address, s.Stale address) := by
  have hleft := getElem?_updateRoom (f := (·.leaveRoom p)) hr
  have hsends := broadcasts_sendLeaveRoomUpdate (s := s.updateRoom room (·.leaveRoom p))
    r.getConnectedAddresses p.avatarId (r.leaveRoom p).roomId s.sent
  unfold Ends
  rw [bind_ok (readRoom_of_getElem? hr)]
  change Ends (writeRoom room (·.leaveRoom p) >>= _) s _ _
  rw [Ends, bind_ok (writeRoom_of_getElem? hr _), bind_ok (readRoom_of_getElem? hleft)]
  apply Ends.mono hsends
  · exact fun _ _ ht => ht
  · exact fun _ _ ⟨he, address, _, hstale⟩ => ⟨he, address, hstale⟩

/-- What is sent about an avatar that leaves the rooms. -/
def Server.farewells (s : Server) (p : AvatarPtr) (rooms : List ChatRoom) : List (ClientId × Outgoing) :=
  rooms.flatMap fun r => s.posts r.getConnectedAddresses (.leaveRoom p.avatarId r.roomId)

theorem farewells_append (rooms : List ChatRoom) (r : ChatRoom) : s.farewells p (rooms ++ [r]) =
    s.farewells p rooms ++ s.posts r.getConnectedAddresses (.leaveRoom p.avatarId r.roomId) := by
  simp [Server.farewells]

/-- The rooms at the positions that a search finds are those it looks for. -/
theorem filterMap_roomsWhere (s : Server) (wanted : ChatRoom → Bool) :
    (s.roomsWhere wanted).filterMap (s.rooms[·]?) = s.rooms.filter wanted := by
  have hmap : (s.roomsWhere wanted).map (s.rooms[·]?) = (s.rooms.filter wanted).map some := by
    apply List.ext_getElem
    · simp [Server.roomsWhere, List.countP_eq_length_filter]
    · intro i hi hi'
      rw [List.getElem_map, List.getElem_map]
      simp [Server.roomsWhere, List.getElem_filter_eq_getElem_getElem_findIdxs]
  calc (s.roomsWhere wanted).filterMap (s.rooms[·]?)
      = ((s.roomsWhere wanted).map (s.rooms[·]?)).filterMap id := by simp
    _ = ((s.rooms.filter wanted).map some).filterMap id := by rw [hmap]
    _ = s.rooms.filter wanted := by simp

/-- LOGOUTAVATAR and DESTROYAVATAR take the avatar out of every room. -/
theorem leaveJoinedRooms_ends (s : Server) (p : AvatarPtr) : (Handler.leaveJoinedRooms (some p)).Ends s
    (fun _ t => t = { s with
      rooms := s.rooms.map (·.leaveRoom p)
      sent := s.sent ++ s.farewells p (s.rooms.filter (·.isInRoom p.avatarId)) })
    (fun e _ => e = .dangling ∧ ∃ address, s.Stale address) := by
  unfold Ends
  rw [Handler.leaveJoinedRooms, bind_ok (getJoinedRooms_run s)]
  have hnodup : (s.roomsWhere (·.isInRoom p.avatarId)).Nodup := List.nodup_findIdxs
  -- the rooms still to be left are as they were
  apply (ends_forM _ (fun rest u => ∃ done, s.roomsWhere (·.isInRoom p.avatarId) = done ++ rest ∧
      u = { s with
        rooms := leaveAt p done s.rooms
        sent := s.sent ++ s.farewells p (done.filterMap (s.rooms[·]?)) }) ?_
    (s.roomsWhere (·.isInRoom p.avatarId)) ⟨[], rfl, ?_⟩).mono
  · rintro _ u ⟨done, hdone, rfl⟩
    rw [List.append_nil] at hdone
    rw [← hdone, leaveAt_joined, filterMap_roomsWhere]
  · exact fun _ _ h => h
  · rintro room rest u ⟨done, hdone, rfl⟩
    have hmem : room ∈ s.roomsWhere (·.isInRoom p.avatarId) := by simp [hdone]
    obtain ⟨hlt, _⟩ := List.mem_findIdxs_iff_exists_getElem_pos.mp hmem
    have hr : s.rooms[room]? = some s.rooms[room] := List.getElem?_eq_getElem hlt
    have hnew : room ∉ done := by
      rw [hdone] at hnodup
      exact fun h => (List.nodup_append.mp hnodup).2.2 _ h _ List.mem_cons_self rfl
    have hhere : (leaveAt p done s.rooms)[room]? = some s.rooms[room] := by
      rw [getElem?_leaveAt, hr]
      simp [hnew]
    apply (leaveRoom_round hhere).mono
    · rintro _ v rfl
      refine ⟨done ++ [room], by rw [hdone, List.append_assoc]; rfl, ?_⟩
      rw [List.filterMap_append, List.filterMap_cons_some hr, List.filterMap_nil, farewells_append,
        ← List.append_assoc]
      simp only [leaveAt, List.foldl_append, List.foldl_cons, List.foldl_nil]
      rfl
    · exact fun _ _ h => h
  · simp [leaveAt, Server.farewells]

theorem leaveJoinedRooms_run (h : Handler.leaveJoinedRooms (some p) s = (.ok (), t)) :
    t = { s with rooms := s.rooms.map (·.leaveRoom p), sent := t.sent } ∧ s.sent <+: t.sent := by
  obtain rfl := (leaveJoinedRooms_ends s p).ok_of_run h
  exact ⟨rfl, List.prefix_append _ _⟩

end Leaving
end StationChat
