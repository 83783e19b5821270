import StationChat.Avatars.Contacts
import StationChat.Avatars.HalfLoaded
import StationChat.Gateway.Outbox
import StationChat.Gateway.Safety

/-! What still refers to an avatar object once the `DestroyAvatar` handler has destroyed it. -/
namespace StationChat
open Lib Lib.Action Lib.Contract

/-- No list of the server names the object. -/
structure Unreferenced (s : Server) (p : AvatarPtr) : Prop where
  members : ∀ r ∈ s.rooms, ∀ q ∈ r.avatars, q.obj ≠ p.obj
  roles : ∀ r ∈ s.rooms, ∀ l, ∀ q ∈ r.list l, q.obj ≠ p.obj
  friends : ∀ a ∈ s.avatarCache, ∀ c ∈ a.friendList, ∀ q ∈ c.frnd, q.obj ≠ p.obj
  ignored : ∀ a ∈ s.avatarCache, ∀ c ∈ a.ignoreList, ∀ q ∈ c.ignored, q.obj ≠ p.obj
  online : ∀ q ∈ s.onlineAvatars, q.obj ≠ p.obj
  cached : ∀ a ∈ s.avatarCache, a.self.obj ≠ p.obj

/-- The object is in none of the lists the handler leaves alone: the role lists of the rooms, and the
contact lists of other avatars. -/
structure Unlisted (s : Server) (a : ChatAvatar) : Prop where
  roles : ∀ r ∈ s.rooms, ∀ l, ∀ q ∈ r.list l, q.obj ≠ a.self.obj
  friends : ∀ b ∈ s.avatarCache, b.self.avatarId ≠ a.self.avatarId →
    ∀ c ∈ b.friendList, ∀ q ∈ c.frnd, q.obj ≠ a.self.obj
  ignored : ∀ b ∈ s.avatarCache, b.self.avatarId ≠ a.self.avatarId →
    ∀ c ∈ b.ignoreList, ∀ q ∈ c.ignored, q.obj ≠ a.self.obj
  online : a.isOnline = false → ∀ q ∈ s.onlineAvatars, q.obj ≠ a.self.obj

/-- The server after the avatar was destroyed. -/
structure Destroyed (s : Server) (a : ChatAvatar) (t : Server) : Prop where
  rooms : t.rooms = s.rooms.map (·.leaveRoom a.self)
  avatarCache : t.avatarCache = s.avatarCache.filter (·.self.avatarId != a.self.avatarId)
  onlineAvatars : t.onlineAvatars = if a.isOnline then
    s.onlineAvatars.filter (·.avatarId != a.self.avatarId) else s.onlineAvatars

variable {s t : Server} {avatarId : UInt32} {a : ChatAvatar}

section Runs

/-- The objects of other ids are not written. -/
private theorem filter_updateAvatar (hs : Allocated s.avatarCache s.objects) (ha : a ∈ s.avatarCache)
    {f : ChatAvatar → ChatAvatar} (hf : ∀ a, (f a).self = a.self) :
    (s.updateAvatar a.self f).avatarCache.filter (·.self.avatarId != a.self.avatarId) =
      s.avatarCache.filter (·.self.avatarId != a.self.avatarId) := by
  have hkept : ∀ l : List ChatAvatar, (∀ b ∈ l, b ∈ s.avatarCache) →
      (l.map fun b => if b.self.obj == a.self.obj then f b else b).filter
        (·.self.avatarId != a.self.avatarId) = l.filter (·.self.avatarId != a.self.avatarId) := by
    intro l
    induction l with
    | nil => exact fun _ => rfl
    | cons b l ih =>
      intro hl
      have hrest := ih fun c hc => hl c (List.mem_cons_of_mem b hc)
      by_cases hobj : b.self.obj = a.self.obj
      · obtain rfl := hs.distinct b (hl b List.mem_cons_self) a ha hobj
        rw [List.map_cons, if_pos (by simp), List.filter_cons_of_neg (by simp [hf]),
          List.filter_cons_of_neg (by simp), hrest]
      · rw [List.map_cons, if_neg (by simpa using hobj), List.filter_cons, List.filter_cons, hrest]
  exact hkept s.avatarCache fun _ h => h

/-- `LogoutAvatar` and `RemoveCachedAvatar`, the last two steps. -/
theorem logout_remove_run (hs : Allocated s.avatarCache s.objects) (ha : a ∈ s.avatarCache) :
    ∃ t, (StationChat.logoutAvatar (some a.self) >>= fun _ => modify fun s =>
      { s with avatarCache := s.avatarCache.filter (·.self.avatarId != a.self.avatarId) }) s = (.ok (), t) ∧
    t.rooms = s.rooms ∧
      t.avatarCache = s.avatarCache.filter (·.self.avatarId != a.self.avatarId) ∧
      t.onlineAvatars = (if a.isOnline then
        s.onlineAvatars.filter (·.avatarId != a.self.avatarId) else s.onlineAvatars) ∧
      t.db = s.db ∧ t.objects = s.objects := by
  have hread := avatar?_self hs ha
  have hderef : deref (some a.self) s = (.ok a.self, s) := rfl
  cases honline : a.isOnline with
  | true =>
    have hlogout : StationChat.logoutAvatar (some a.self) s = (.ok (), { s.updateAvatar a.self
        (fun a => { a with isOnline := false }) with
        onlineAvatars := s.onlineAvatars.filter (·.avatarId != a.self.avatarId) }) := by
      rw [StationChat.logoutAvatar, bind_ok hderef, bind_ok (readAvatar_run hread), if_pos honline,
        bind_ok (writeAvatar_run hread _)]
      rfl
    exact ⟨_, bind_ok hlogout _, rfl, filter_updateAvatar hs ha fun _ => rfl, rfl, rfl, rfl⟩
  | false =>
    have hlogout : StationChat.logoutAvatar (some a.self) s = (.ok (), s) := by
      rw [StationChat.logoutAvatar, bind_ok hderef, bind_ok (readAvatar_run hread), if_neg (by simp [honline])]
      rfl
    exact ⟨_, bind_ok hlogout _, rfl, rfl, rfl, rfl, rfl⟩

theorem destroyAvatar_run (hs : Allocated s.avatarCache s.objects)
    (hcached : s.avatarCache.find? (·.self.avatarId == avatarId) = some a)
    (h : Handler.destroyAvatar avatarId s = (.ok (), t)) : Destroyed s a t := by
  have ha := List.mem_of_find?_eq_some hcached
  rw [Handler.destroyAvatar, bind_ok (requireSrcAvatar_cached hcached)] at h
  rcases hleave : Handler.leaveJoinedRooms (some a.self) s with ⟨e | _, u⟩
  · rw [bind_error hleave] at h
    exact absurd (Prod.mk.inj h).1 (by simp)
  · obtain ⟨hu, _⟩ := leaveJoinedRooms_run hleave
    rw [bind_ok hleave, StationChat.destroyAvatar] at h
    rcases hdelete : execute (.deleteAvatar a.self.avatarId) u with ⟨e | _, v⟩
    · rw [bind_error hdelete] at h
      exact absurd (Prod.mk.inj h).1 (by simp)
    · rw [bind_ok hdelete] at h
      have hsame := execute_rest hdelete
      have hcache : v.avatarCache = s.avatarCache := by rw [hsame.avatarCache, hu]
      have hv : Allocated v.avatarCache v.objects := by
        rw [hcache, hsame.objects, hu]
        exact hs
      obtain ⟨w, hw, hrooms, hremoved, honline, -, -⟩ := logout_remove_run hv (hcache ▸ ha)
      obtain ⟨-, rfl⟩ := Prod.mk.inj (hw.symm.trans h)
      refine ⟨?_, ?_, ?_⟩
      · rw [hrooms, hsame.rooms, hu]
      · rw [hremoved, hcache]
      · rw [honline, hsame.onlineAvatars, hu]

end Runs

/-- Destroying an avatar leaves a reference behind exactly if a role list or the contact list of
another avatar names it. -/
theorem destroyed_unreferenced_iff {db : Database} {fails : Nat → Bool} {version : UInt32}
    {config : Policy.Config} (hdb : db.Referential)
    (hreach : Server.Reaches Server.AnyInput (Server.start db fails version config) s)
    (hcached : s.avatarCache.find? (·.self.avatarId == avatarId) = some a)
    (hrun : Handler.destroyAvatar avatarId s = (.ok (), t)) :
    Unreferenced t a.self ↔ Unlisted s a := by
  have hfit := fit_reaches_any hdb hreach
  have ha := List.mem_of_find?_eq_some hcached
  have hdone := destroyAvatar_run hfit.allocated hcached hrun
  have hsame : ∀ q, Live s.avatarCache q → q.avatarId ≠ a.self.avatarId → q.obj ≠ a.self.obj := by
    rintro _ ⟨b, hb, rfl⟩ hid hobj
    exact hid (congrArg (·.self.avatarId) (hfit.allocated.distinct b hb a ha hobj))
  have hcache : ∀ b, b ∈ t.avatarCache ↔ b ∈ s.avatarCache ∧ b.self.avatarId ≠ a.self.avatarId := by
    intro b
    rw [hdone.avatarCache, List.mem_filter]
    simp
  constructor
  · intro h
    refine ⟨fun r hr l q hq => ?_, fun b hb hid => h.friends b ((hcache b).mpr ⟨hb, hid⟩),
      fun b hb hid => h.ignored b ((hcache b).mpr ⟨hb, hid⟩), fun hoffline q hq => ?_⟩
    · have hleft : r.leaveRoom a.self ∈ t.rooms := hdone.rooms ▸ List.mem_map_of_mem hr
      refine h.roles _ hleft l q ?_
      cases l <;> exact hq
    · have honline := hdone.onlineAvatars
      rw [if_neg (by simp [hoffline])] at honline
      exact h.online q (honline ▸ hq)
  · intro h
    refine ⟨?_, ?_, fun b hb => ?_, fun b hb => ?_, ?_, fun b hb => ?_⟩
    · intro r hr q hq
      obtain ⟨old, hold, rfl⟩ := List.mem_map.mp (hdone.rooms ▸ hr)
      obtain ⟨hq, hid⟩ := List.mem_filter.mp hq
      have hlive := hfit.pointers.rooms old hold q (List.mem_append_left _ hq)
      exact hsame q hlive (by simpa using hid)
    · intro r hr l q hq
      obtain ⟨old, hold, rfl⟩ := List.mem_map.mp (hdone.rooms ▸ hr)
      refine h.roles old hold l q ?_
      cases l <;> exact hq
    · exact h.friends b ((hcache b).mp hb).1 ((hcache b).mp hb).2
    · exact h.ignored b ((hcache b).mp hb).1 ((hcache b).mp hb).2
    · intro q hq
      rw [hdone.onlineAvatars] at hq
      split at hq
      · obtain ⟨hq, hid⟩ := List.mem_filter.mp hq
        exact hsame q (hfit.pointers.online q hq) (by simpa using hid)
      · rename_i hoffline
        exact h.online (by simpa using hoffline) q hq
    · obtain ⟨hb, hid⟩ := (hcache b).mp hb
      exact hsame b.self ⟨b, hb, rfl⟩ hid

/-- An avatar that is in a room with the creator is destroyed. -/
theorem destroy_room_member : ∃ s a t, Server.Reaches Server.AnyInput Server.blank s ∧
    s.avatarCache.find? (·.self.avatarId == 1) = some a ∧ s.avatarCache.length = 2 ∧
    (∃ r ∈ s.rooms, a.self ∈ r.avatars) ∧ Handler.destroyAvatar 1 s = (.ok (), t) ∧ Unreferenced t a.self := by
  have hstate : ∃ s, Server.Reaches Server.AnyInput Server.blank s ∧ s.avatarCache.length = 2 ∧
      (Handler.destroyAvatar 1 s).1 = .ok () ∧ ∃ a ∈ s.avatarCache.find? (·.self.avatarId == 1),
        (∃ r ∈ s.rooms, a.self ∈ r.avatars) ∧ a.isOnline = true ∧
        (∀ r ∈ s.rooms, ∀ l ∈ [RoomList.administrators, .moderators, .banned, .invited], ∀ q ∈ r.list l,
          q.obj ≠ a.self.obj) ∧
        (∀ b ∈ s.avatarCache, b.friendList = []) ∧ ∀ b ∈ s.avatarCache, b.ignoreList = [] :=
    Server.exists_reached [.connect, .request 0 (.loginAvatar ⟨1, 1, [0x62], [0x61], [], 0, 0⟩) 0 0,
      .request 0 (.loginAvatar ⟨1, 2, [0x63], [0x61], [], 0, 0⟩) 0 0,
      .request 0 (.createRoom ⟨1, 2, [0x72], [], [], 0, 0, [0x61], []⟩) 0 0,
      .request 0 (.enterRoom ⟨1, 2, [0x61, 0x2B, 0x72], [], none, false, []⟩) 0 0,
      .request 0 (.enterRoom ⟨1, 1, [0x61, 0x2B, 0x72], [], none, false, []⟩) 0 0] (by decide +kernel)
  obtain ⟨s, hreach, hlength, hrun, a, hcached, hmember, honline, hroles, hfriends, hignored⟩ := hstate
  refine ⟨s, a, _, hreach, hcached, hlength, hmember, Prod.ext hrun rfl, ?_⟩
  refine (destroyed_unreferenced_iff Database.referential_empty hreach hcached (Prod.ext hrun rfl)).mpr ?_
  refine ⟨fun r hr l => hroles r hr l (by cases l <;> simp), fun b hb _ => ?_, fun b hb _ => ?_, by simp [honline]⟩
  · simp [hfriends b hb]
  · simp [hignored b hb]

/-- An avatar that somebody else has as a friend is destroyed, and the friend list still names it. -/
theorem destroyed_friend_named : ∃ s a, Server.Reaches Server.AnyInput Server.blank s ∧
    s.avatarCache.find? (·.self.avatarId == 1) = some a ∧ (Handler.destroyAvatar 1 s).1 = .ok () ∧
    ¬ Unreferenced (Handler.destroyAvatar 1 s).2 a.self := by
  have hstate : ∃ s, Server.Reaches Server.AnyInput Server.blank s ∧
      (Handler.destroyAvatar 1 s).1 = .ok () ∧ ∃ a ∈ s.avatarCache.find? (·.self.avatarId == 1),
        ∃ b ∈ (Handler.destroyAvatar 1 s).2.avatarCache, ∃ c ∈ b.friendList, ∃ q ∈ c.frnd,
          q.obj = a.self.obj :=
    Server.exists_reached [.connect, .request 0 (.loginAvatar ⟨1, 1, [0x62], [0x61], [], 0, 0⟩) 0 0,
      .request 0 (.loginAvatar ⟨1, 2, [0x63], [0x61], [], 0, 0⟩) 0 0,
      .request 0 (.addFriend ⟨1, 2, [0x62], [0x61], [], false, []⟩) 0 0] (by decide +kernel)
  obtain ⟨s, hreach, hrun, a, hcached, b, hb, c, hc, q, hq, hobj⟩ := hstate
  exact ⟨s, a, hreach, hcached, hrun, fun h => h.friends b hb c hc q hq hobj⟩

end StationChat
