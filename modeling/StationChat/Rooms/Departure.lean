import StationChat.Avatars.News
import StationChat.Avatars.Presence
import StationChat.Rooms.Audience

/-! Leaving the rooms, one by LEAVEROOM and all by LOGOUTAVATAR: who is told, and what stays. -/
namespace StationChat
open Lib Lib.Action Lib.Contract

variable {s t u : Server} {p : AvatarPtr} {a : ChatAvatar} {r : ChatRoom} {room : RoomPtr}
  {avatarId : UInt32}

/-- The room without the avatar. -/
def ChatRoom.without (r : ChatRoom) (avatarId : UInt32) : ChatRoom :=
  { r with avatars := r.avatars.filter (·.avatarId != avatarId) }

/-- The message that some avatar leaves some room. -/
def Outgoing.Farewell (m : Outgoing) : Prop := ∃ avatarId roomId, m = .notify (.leaveRoom avatarId roomId)

/-- Of each of the rooms, its registered addresses hear once that the avatar leaves it, and no address
hears it of another room. -/
def Server.TellsLeaving (s t : Server) (avatarId : UInt32) (left : List ChatRoom) : Prop :=
  ∃ (notices : List (List (ClientId × Outgoing))) (others : List (ClientId × Outgoing)),
    List.Forall₂ (fun r more => s.Announced r.Houses (.leaveRoom avatarId r.roomId) more) left notices ∧
      t.sent = s.sent ++ notices.flatten ++ others ∧ ∀ m ∈ others, ¬ m.2.Farewell

/-- What a LOGOUTAVATAR leaves behind. -/
structure Departed (avatarId : UInt32) (s t : Server) : Prop where
  rooms : t.rooms = s.rooms.map (·.without avatarId)
  offline : ∀ a ∈ t.avatarCache, a.self.avatarId = avatarId → a.isOnline = false
  absent : ∀ q ∈ t.onlineAvatars, q.avatarId ≠ avatarId
  told : s.TellsLeaving t avatarId (s.rooms.filter (·.isInRoom avatarId))

section Rooms

theorem without_of_not_isInRoom (h : r.isInRoom avatarId = false) : r.without avatarId = r :=
  leaveRoom_of_not_isInRoom (p := ⟨0, avatarId, [], []⟩) h

theorem not_isInRoom_without : (r.without avatarId).isInRoom avatarId = false := by
  simp [ChatRoom.without, ChatRoom.isInRoom]

/-- An avatar that is not cached is nowhere. -/
theorem Pointers.not_isInRoom {db : Database} {cache : List ChatAvatar} {objects : Nat}
    {online : List AvatarPtr} {rooms : List ChatRoom} (h : Pointers db cache objects online rooms)
    (hout : ∀ a ∈ cache, a.self.avatarId ≠ avatarId) (hr : r ∈ rooms) : r.isInRoom avatarId = false := by
  simp only [ChatRoom.isInRoom, List.any_eq_false, beq_iff_eq]
  intro q hq
  obtain ⟨a, ha, rfl⟩ := h.rooms r hr q (List.mem_append_left _ hq)
  exact hout a ha

theorem Pointers.not_online {db : Database} {cache : List ChatAvatar} {objects : Nat}
    {online : List AvatarPtr} {rooms : List ChatRoom} (h : Pointers db cache objects online rooms)
    (hout : ∀ a ∈ cache, a.self.avatarId ≠ avatarId) {q : AvatarPtr} (hq : q ∈ online) :
    q.avatarId ≠ avatarId := by
  obtain ⟨a, ha, rfl⟩ := h.online q hq
  exact hout a ha

end Rooms

section Telling

theorem farewells_tell (s : Server) (p : AvatarPtr) (left : List ChatRoom) :
    ∃ notices, List.Forall₂ (fun r more => s.Announced r.Houses (.leaveRoom p.avatarId r.roomId) more)
      left notices ∧ s.farewells p left = notices.flatten := by
  refine ⟨left.map fun r => s.posts r.getConnectedAddresses (.leaveRoom p.avatarId r.roomId), ?_, rfl⟩
  induction left with
  | nil => exact .nil
  | cons r rest ih =>
    have hr := announced_posts (s := s) nodup_getConnectedAddresses
      (fun _ => mem_getConnectedAddresses (r := r)) (.leaveRoom p.avatarId r.roomId)
    exact .cons hr ih

/-- What else is sent may follow. -/
theorem Server.TellsLeaving.after {left : List ChatRoom} (h : s.TellsLeaving t avatarId left)
    {more : List (ClientId × Outgoing)} (hsent : u.sent = t.sent ++ more)
    (hmore : ∀ m ∈ more, ¬ m.2.Farewell) : s.TellsLeaving u avatarId left := by
  obtain ⟨notices, others, htold, ht, hothers⟩ := h
  refine ⟨notices, others ++ more, htold, ?_, fun m hm => ?_⟩
  · rw [hsent, ht, List.append_assoc]
  · exact (List.mem_append.mp hm).elim (hothers m) (hmore m)

theorem tellsLeaving_nothing (hsent : t.sent = s.sent) : s.TellsLeaving t avatarId [] :=
  ⟨[], [], .nil, by simp [hsent], fun _ hm => absurd hm List.not_mem_nil⟩

/-- The friends of an avatar that goes offline hear that, and nothing about rooms. -/
theorem sendFriendLogoutUpdates_ends (hs : Fit (fun _ => True) s) (hp : Live s.avatarCache p) :
    (sendFriendLogoutUpdates (some p)).Ends s
      (fun _ t => ∃ more, t = { s with sent := s.sent ++ more } ∧ ∀ m ∈ more, ¬ m.2.Farewell)
      (fun e _ => e = .dangling ∧ ∃ address, s.Stale address) := by
  obtain ⟨a, _, _, hobject⟩ := avatar?_of_live hs.allocated hp
  apply (emits_sendFriendLogoutUpdates hs hobject s.sent).mono
  · rintro _ t rfl
    refine ⟨s.departureNews p a, rfl, fun m hm => ?_⟩
    obtain ⟨q, _, hm⟩ := List.mem_flatMap.mp hm
    split at hm
    · obtain ⟨_, _, _, _, rfl⟩ := mem_posts.mp hm
      rintro ⟨_, _, heq⟩
      exact absurd heq (by simp)
    · exact absurd hm List.not_mem_nil
  · exact fun _ _ he => he

end Telling

section Leaving
variable {client : ClientId}

theorem Silent.farewells (h : Silent s u) (left : List ChatRoom) : u.farewells p left = s.farewells p left := by
  rw [Server.farewells, Server.farewells, h.posts]

/-- What a request does behind its handler. -/
theorem Departed.after (h : Departed avatarId s t) (hrooms : u.rooms = t.rooms)
    (hcache : u.avatarCache = t.avatarCache) (honline : u.onlineAvatars = t.onlineAvatars)
    {more : List (ClientId × Outgoing)} (hsent : u.sent = t.sent ++ more)
    (hmore : ∀ m ∈ more, ¬ m.2.Farewell) : Departed avatarId s u := by
  refine ⟨hrooms.trans h.rooms, ?_, ?_, h.told.after hsent hmore⟩
  · rw [hcache]
    exact h.offline
  · rw [honline]
    exact h.absent

/-- The flag says the same as the online list. -/
theorem Flagged.offline (ht : Flagged t) (habsent : ∀ q ∈ t.onlineAvatars, q.avatarId ≠ avatarId) :
    ∀ a ∈ t.avatarCache, a.self.avatarId = avatarId → a.isOnline = false := by
  intro a ha hid
  rw [← Bool.not_eq_true, ht.flagged a ha]
  exact fun hmem => habsent a.self hmem hid

/-- A lookup of an avatar that was not cached. -/
theorem departed_of_grown (hs : Fit (fun _ => True) s) (hgrown : Grown s t) (ht : Flagged t)
    (hout : ∀ a ∈ s.avatarCache, a.self.avatarId ≠ avatarId) : Departed avatarId s t := by
  have hrooms : t.rooms = s.rooms := by rw [hgrown.rest]
  have honline : t.onlineAvatars = s.onlineAvatars := by rw [hgrown.rest]
  have hnowhere : ∀ r ∈ s.rooms, r.isInRoom avatarId = false := fun r hr =>
    hs.pointers.not_isInRoom hout hr
  have habsent : ∀ q ∈ t.onlineAvatars, q.avatarId ≠ avatarId := by
    rw [honline]
    exact fun q hq => hs.pointers.not_online hout hq
  refine ⟨?_, ht.offline habsent, habsent, ?_⟩
  · rw [hrooms, List.map_congr_left fun r hr => without_of_not_isInRoom (hnowhere r hr), List.map_id']
  · rw [List.filter_eq_nil_iff.mpr fun r hr => by simp [hnowhere r hr]]
    exact tellsLeaving_nothing hgrown.silent.sent

theorem getAvatarById_cached (ha : a ∈ s.avatarCache) :
    ∃ b ∈ s.avatarCache, b.self.avatarId = a.self.avatarId ∧
      getAvatarById a.self.avatarId s = (.ok (some b.self), s) ∧
      requireSrcAvatar a.self.avatarId s = (.ok b.self, s) := by
  have hsome : (s.avatarCache.find? (·.self.avatarId == a.self.avatarId)).isSome :=
    List.find?_isSome.mpr ⟨a, ha, by simp⟩
  obtain ⟨b, hb⟩ := Option.isSome_iff_exists.mp hsome
  have hid : b.self.avatarId = a.self.avatarId := by simpa using List.find?_some hb
  have hget : (AvatarRequest.byId a.self.avatarId).run s = (.ok (some b.self), s) := run_of_cached hb
  exact ⟨b, List.mem_of_find?_eq_some hb, hid, hget, requireSrcAvatar_cached hb⟩

theorem logoutAvatar_departs {request : ReqLogoutAvatar} (hs : Fit (fun _ => True) s) (hpresent : Present s)
    (hknown : s.KnowsAvatar request.avatarId) :
    (Handler.logoutAvatar request).Ends s (fun _ t => Departed request.avatarId s t)
      (fun e t => (e = .dangling ∧ ∃ address, s.Stale address) ∨
        (∀ a ∈ s.avatarCache, a.self.avatarId ≠ request.avatarId) ∧
          (e = .outOfRange ∨ e = .database ∧ Departed request.avatarId s t)) := by
  have hfit := fit_loads.getAvatarById request.avatarId hs
  have hkept := present_loads.getAvatarById request.avatarId hpresent
  unfold Ends
  rcases hget : getAvatarById request.avatarId s with ⟨e | found, u⟩
  · have hthrows : Handler.logoutAvatar request s = (.error e, u) := bind_error hget _
    rw [hthrows]
    obtain ⟨hu, hgrown, he⟩ := hkept.err_of_run hget
    have hout : ∀ a ∈ s.avatarCache, a.self.avatarId ≠ request.avatarId := by
      intro a ha hid
      obtain ⟨b, _, _, hcached, _⟩ := getAvatarById_cached ha
      rw [hid, hget] at hcached
      exact absurd (Prod.mk.inj hcached).1 (by simp)
    rcases he with rfl | ⟨rfl, _⟩
    · exact .inr ⟨hout, .inr ⟨rfl, departed_of_grown hs hgrown hu.toFlagged hout⟩⟩
    · exact .inr ⟨hout, .inl rfl⟩
  obtain ⟨hu, _, _⟩ := hfit.ok_of_run hget
  have hu : Fit (fun _ => True) u := hu
  obtain ⟨hpu, hgrown, hfound⟩ := hkept.ok_of_run hget
  have hpu : Present u := hpu
  rw [Handler.logoutAvatar, bind_ok hget]
  cases found with
  | none =>
    obtain ⟨_, huncached, hunstored⟩ := hfound
    rcases hknown with ⟨a, ha, hid⟩ | ⟨row, hrow, hid⟩
    · exact absurd hid (huncached a ha)
    · exact absurd hid (hunstored row hrow)
  | some p =>
    have hlive := hfound.live
    obtain ⟨hid, _⟩ := hfound
    have hsilent := hgrown.silent
    have hrooms : u.rooms = s.rooms := by rw [hgrown.rest]
    have hleaves := leaveJoinedRooms_ends u p
    rcases hleave : Handler.leaveJoinedRooms (some p) u with ⟨e | _, v⟩
    · rw [bind_error hleave]
      rw [← hsilent.stale]
      exact .inl (hleaves.err_of_run hleave)
    have hv : Fit (fun _ => True) v := ((holds_leaveJoinedRooms hu hlive.pointer).ok_of_run hleave).1
    rw [bind_ok hleave]
    obtain rfl := hleaves.ok_of_run hleave
    have hfriends := sendFriendLogoutUpdates_ends hv hlive
    rcases hsend : sendFriendLogoutUpdates (some p) _ with ⟨e | _, w⟩
    · rw [bind_error hsend]
      rw [← hsilent.stale]
      exact .inl (hfriends.err_of_run hsend)
    rw [bind_ok hsend]
    obtain ⟨more, rfl, hmore⟩ := hfriends.ok_of_run hsend
    have hpw := hpu.rewritten (t := { u with
      rooms := u.rooms.map (·.leaveRoom p)
      sent := (u.sent ++ u.farewells p (u.rooms.filter (·.isInRoom p.avatarId))) ++ more })
      rfl rfl hpu.allocated hpu.referential
    obtain ⟨t, hlogout, ht, habsent, _⟩ := hpw.logout hlive
    have hrest : t.rooms = u.rooms.map (·.leaveRoom p) ∧
        t.sent = (u.sent ++ u.farewells p (u.rooms.filter (·.isInRoom p.avatarId))) ++ more := by
      obtain ⟨b, _, _, hobject⟩ := avatar?_of_live hpw.allocated hlive
      obtain ⟨_, rfl⟩ := Prod.mk.inj ((logoutAvatar_run hobject).symm.trans hlogout)
      split <;> exact ⟨rfl, rfl⟩
    obtain ⟨notices, hnotices, hflatten⟩ := farewells_tell s p (s.rooms.filter (·.isInRoom p.avatarId))
    rw [hlogout]
    rw [hid] at habsent
    refine ⟨?_, ht.toFlagged.offline habsent, habsent, notices, more, ?_, ?_, hmore⟩
    · rw [hrest.1, hrooms, ← hid]
      rfl
    · rw [← hid]
      exact hnotices
    · rw [hrest.2, hsilent.farewells, hrooms, hflatten, hsilent.sent]

theorem leaveRoom_departs {request : ReqLeaveRoom} (hs : Fit (fun _ => True) s)
    (hroom : s.roomAt request.roomAddress = some r) (hmember : r.isInRoom request.srcAvatarId = true) :
    (Handler.leaveRoom request).Ends s
      (fun _ t => (∃ room, s.rooms[room]? = some r ∧ t.rooms = s.rooms.set room (r.without request.srcAvatarId)) ∧
        s.TellsLeaving t request.srcAvatarId [r])
      (fun e _ => e = .dangling ∧ ∃ address, s.Stale address) := by
  obtain ⟨q, hq, hqid⟩ := List.any_eq_true.mp hmember
  obtain ⟨a, ha, rfl⟩ := hs.pointers.rooms r (List.mem_of_find?_eq_some hroom) q (List.mem_append_left _ hq)
  obtain ⟨b, _, hid, _, hsrc⟩ := getAvatarById_cached ha
  have hqid : a.self.avatarId = request.srcAvatarId := by simpa using hqid
  rw [hqid] at hid hsrc
  obtain ⟨room, hrequire, hr⟩ := requireRoom_at hroom .addressNotRoom
  unfold Ends
  rw [Handler.leaveRoom, bind_ok hsrc, bind_ok hrequire, bind_ok (readRoom_of_getElem? hr)]
  let v := { s with response := { s.response with roomId := some r.roomId } }
  have hv : v.rooms[room]? = some r := hr
  change Ends (writeRoom room (·.leaveRoom b.self) >>= fun _ => _) v _ _
  rw [Ends, bind_ok (writeRoom_of_getElem? hv _)]
  have hsends := broadcasts_sendLeaveRoomUpdate (s := v.updateRoom room (·.leaveRoom b.self))
    r.getConnectedAddresses b.self.avatarId r.roomId s.sent
  apply Ends.mono hsends
  · rintro _ t rfl
    obtain ⟨notices, hnotices, hflatten⟩ := farewells_tell s b.self [r]
    refine ⟨⟨room, hr, ?_⟩, notices, [], hid ▸ hnotices, ?_, fun _ hm => absurd hm List.not_mem_nil⟩
    · rw [← hid]
      exact updateRoom_eq_set hv _
    · rw [← hflatten, List.append_nil, Server.farewells, List.flatMap_singleton]
      rfl
  · rintro e _ ⟨he, address, _, hstale⟩
    exact ⟨he, address, hstale⟩

theorem not_farewell_response {type : ChatResponseType} {track : UInt32} {result : ChatResultCode}
    {body : ResponseBody} : ∀ m ∈ [(client, Outgoing.response type track result body)], ¬ m.2.Farewell := by
  intro m hm
  obtain rfl := List.mem_singleton.mp hm
  rintro ⟨_, _, heq⟩
  exact absurd heq (by simp)

/-- A logout takes the avatar out of every room and off the online list, a LEAVEROOM takes it out of one
room, and just the registered addresses of the members there hear of it, once for each room. -/
theorem leaving_is_announced {db : Database} {fails : Nat → Bool} {version : UInt32} {config : Policy.Config}
    (hdb : db.Referential) (h : Server.Reaches Server.AnyInput (Server.start db fails version config) s)
    (hunique : s.Unduplicated) (hclient : client ∈ s.clients) (time : UInt32) (steadyClock : Nat) :
    (∀ request : ReqLogoutAvatar, s.KnowsAvatar request.avatarId →
      ((Request.logoutAvatar request).handle client).Ends (s.atTime time steadyClock)
        (fun _ t => Departed request.avatarId s t ∧ ∀ r ∈ t.rooms, r.isInRoom request.avatarId = false)
        (fun e _ => (e = .dangling ∧ ∃ address, s.Stale address) ∨
          e = .outOfRange ∧ ∀ a ∈ s.avatarCache, a.self.avatarId ≠ request.avatarId)) ∧
    ∀ (request : ReqLeaveRoom) (r : ChatRoom), s.roomAt request.roomAddress = some r →
      r.isInRoom request.srcAvatarId = true →
      ((Request.leaveRoom request).handle client).Ends (s.atTime time steadyClock)
        (fun _ t => (∃ room, s.rooms[room]? = some r ∧
            t.rooms = s.rooms.set room (r.without request.srcAvatarId)) ∧
          s.TellsLeaving t request.srcAvatarId [r])
        (fun e _ => e = .dangling ∧ ∃ address, s.Stale address) := by
  have hfit := fit_reaches_any hdb h
  have hflagged := flagged_reaches hdb h hunique
  have hpresent : Present s := ⟨hflagged, hfit.allocated, hfit.pointers.referential, hunique⟩
  constructor
  · intro request hknown
    let s' := (s.atTime time steadyClock).receiving (.logoutAvatar request)
    have hpresent' : Present s' := hpresent.rewritten rfl rfl hfit.allocated hfit.pointers.referential
    have hhandler : ((Request.logoutAvatar request).handler client).Ends s' _ _ :=
      logoutAvatar_departs hfit hpresent' hknown
    have hfit' : Fit (fun _ => True) (s.atTime time steadyClock) := hfit
    apply (handle_of_handler hfit' hclient hhandler).mono
    · rintro _ t ⟨u, type, track, result, body, rfl, hu⟩
      have hdeparted : Departed request.avatarId s' u := by
        rcases hu with hu | ⟨e, v, code, he, hcode, rfl⟩
        · exact hu
        · rcases he with ⟨rfl, _⟩ | ⟨_, rfl | ⟨rfl, hv⟩⟩
          · exact absurd hcode (by simp [Exn.resultCode])
          · exact absurd hcode (by simp [Exn.resultCode])
          · exact hv.after rfl rfl rfl (List.append_nil _).symm fun _ hm => absurd hm List.not_mem_nil
      have hdeparted : Departed request.avatarId s u :=
        ⟨hdeparted.rooms, hdeparted.offline, hdeparted.absent, hdeparted.told⟩
      refine ⟨hdeparted.after rfl rfl rfl rfl not_farewell_response, fun r hr => ?_⟩
      rw [hdeparted.rooms] at hr
      obtain ⟨r, _, rfl⟩ := List.mem_map.mp hr
      exact not_isInRoom_without
    · rintro e _ ⟨hcode, u, he⟩
      rcases he with he | ⟨hout, rfl | ⟨rfl, _⟩⟩
      · exact .inl he
      · exact .inr ⟨rfl, hout⟩
      · exact absurd hcode (by simp [Exn.resultCode])
  · intro request r hroom hmember
    let s' := (s.atTime time steadyClock).receiving (.leaveRoom request)
    have hhandler : ((Request.leaveRoom request).handler client).Ends s' _ _ :=
      leaveRoom_departs hfit hroom hmember
    have hfit' : Fit (fun _ => True) (s.atTime time steadyClock) := hfit
    apply (handle_of_handler hfit' hclient hhandler).mono
    · rintro _ t ⟨u, type, track, result, body, rfl, hu⟩
      rcases hu with ⟨hrooms, htold⟩ | ⟨e, v, code, ⟨rfl, _⟩, hcode, _⟩
      · have htold : s.TellsLeaving u request.srcAvatarId [r] := htold
        exact ⟨hrooms, htold.after rfl not_farewell_response⟩
      · exact absurd hcode (by simp [Exn.resultCode])
    · rintro e _ ⟨_, _, he⟩
      exact he

/-- The second avatar logs out, or leaves the room; the first hears of it. -/
theorem leaving_is_announced_two : ∃ (s t u : Server) (r : ChatRoom),
    (Request.logoutAvatar ⟨8, 4⟩).handle 1 (s.atTime 0 0) = (.ok (), t) ∧ Departed 4 s t ∧
      (Request.leaveRoom ⟨8, 4, [0x61, 0x2B, 0x72], []⟩).handle 1 (s.atTime 0 0) = (.ok (), u) ∧
      r.Houses [0x61] ∧ (s.clientAddressMap [0x61]).isSome = true ∧ s.TellsLeaving u 4 [r] := by
  obtain ⟨s, hreach, hunique, hknown, hclient, ⟨r, hroom, hmember, hhouses⟩, hregistered, hlogout, hleave⟩ :
      ∃ s, Server.Reaches Server.AnyInput Server.blank s ∧ s.Unduplicated ∧ s.KnowsAvatar 4 ∧ 1 ∈ s.clients ∧
        (∃ r ∈ s.roomAt [0x61, 0x2B, 0x72], r.isInRoom 4 = true ∧ r.Houses [0x61]) ∧
        (s.clientAddressMap [0x61]).isSome = true ∧
        ((Request.logoutAvatar ⟨8, 4⟩).handle 1 (s.atTime 0 0)).1 = .ok () ∧
        ((Request.leaveRoom ⟨8, 4, [0x61, 0x2B, 0x72], []⟩).handle 1 (s.atTime 0 0)).1 = .ok () :=
    Server.exists_reached audienceRun (by decide +kernel)
  obtain ⟨hlogouts, hleaves⟩ := leaving_is_announced Database.referential_empty hreach hunique hclient 0 0
  obtain ⟨hdeparted, _⟩ := (hlogouts ⟨8, 4⟩ hknown).ok_of_run (Prod.ext hlogout rfl)
  obtain ⟨_, htold⟩ := (hleaves ⟨8, 4, [0x61, 0x2B, 0x72], []⟩ r hroom hmember).ok_of_run (Prod.ext hleave rfl)
  exact ⟨s, _, _, r, Prod.ext hlogout rfl, hdeparted, Prod.ext hleave rfl, hhouses, hregistered, htold⟩

end Leaving
end StationChat
