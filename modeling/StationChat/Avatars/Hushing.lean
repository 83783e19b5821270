import StationChat.Avatars.News
import StationChat.Avatars.Presence
import StationChat.Avatars.Upkeep

/-! What neither changes who is online nor tells one avatar of another. -/
namespace StationChat
open Lib Lib.Action Lib.Contract

namespace Server

/-- The flag of the avatar with this id is set. -/
def online (s : Server) (x : UInt32) : Bool := s.avatarCache.any fun a => a.self.avatarId == x && a.isOnline

/-- The friend list of `y` has `x`. -/
def lists (s : Server) (y x : UInt32) : Bool := s.avatarCache.any fun a => a.self.avatarId == y && a.hasFriend x

/-- A client is registered for the address of `y`. -/
def serves (s : Server) (y : UInt32) : Bool :=
  s.avatarCache.any fun a => a.self.avatarId == y && (s.clientAddressMap a.self.address).isSome

end Server

variable {y x : UInt32} {s t u : Server} {p : AvatarPtr} {a : ChatAvatar} {more : List (ClientId × Outgoing)}

theorem online_iff : s.online x = true ↔ ∃ a ∈ s.avatarCache, a.self.avatarId = x ∧ a.isOnline = true := by
  simp [Server.online]

theorem lists_iff : s.lists y x = true ↔ ∃ a ∈ s.avatarCache, a.self.avatarId = y ∧ a.hasFriend x = true := by
  simp [Server.lists]

theorem serves_iff : s.serves y = true ↔
    ∃ a ∈ s.avatarCache, a.self.avatarId = y ∧ (s.clientAddressMap a.self.address).isSome = true := by
  simp [Server.serves]

theorem lastNews_eq_none (h : ∀ m ∈ more, m.2.presence y x = none) : lastNews y x more = none := by
  have hnil : more.filterMap (·.2.presence y x) = [] := List.filterMap_eq_nil_iff.mpr h
  rw [lastNews, hnil, List.getLast?_nil]

/-- Of two avatars, neither came online or went offline, and `y` heard nothing about `x`. -/
structure Hushed (y x : UInt32) (s t : Server) : Prop where
  watcher : t.online y = s.online y
  watched : t.online x = s.online x
  sent : ∃ more, t.sent = s.sent ++ more ∧ lastNews y x more = none

theorem online_of_cache (h : t.avatarCache.map (fun a => (a.self, a.isOnline)) =
    s.avatarCache.map fun a => (a.self, a.isOnline)) (z : UInt32) : t.online z = s.online z := by
  have hany : ∀ u : Server, u.online z =
      (u.avatarCache.map fun a => (a.self, a.isOnline)).any fun entry => entry.1.avatarId == z && entry.2 := by
    intro u
    rw [List.any_map]
    rfl
  rw [hany, hany, h]

/-- Loaded avatars are offline. -/
theorem online_of_loaded {loaded : List ChatAvatar} (h : t.avatarCache = s.avatarCache ++ loaded)
    (hloaded : ∀ a ∈ loaded, a.isOnline = false) (z : UInt32) : t.online z = s.online z := by
  have hnone : (loaded.any fun a => a.self.avatarId == z && a.isOnline) = false := by
    rw [List.any_eq_false]
    intro a ha
    simp [hloaded a ha]
  rw [Server.online, h, List.any_append, hnone, Bool.or_false]
  rfl

namespace Hushed

theorem of_online (h : ∀ z, t.online z = s.online z) (hsent : t.sent = s.sent) : Hushed y x s t :=
  ⟨h y, h x, [], by rw [hsent, List.append_nil], rfl⟩

theorem of_cache (hcache : t.avatarCache = s.avatarCache) (hsent : t.sent = s.sent) : Hushed y x s t :=
  of_online (online_of_cache (by rw [hcache])) hsent

theorem refl (s : Server) : Hushed y x s s := of_cache rfl rfl

theorem trans (h : Hushed y x s t) (h' : Hushed y x t u) : Hushed y x s u := by
  obtain ⟨more, hsent, hmore⟩ := h.sent
  obtain ⟨more', hsent', hmore'⟩ := h'.sent
  refine ⟨h'.watcher.trans h.watcher, h'.watched.trans h.watched, more ++ more', ?_, ?_⟩
  · rw [hsent', hsent, List.append_assoc]
  · rw [lastNews_append, hmore, hmore']
    rfl

/-- A message about other things. -/
theorem of_send (client : ClientId) (message : Outgoing) (h : message.presence y x = none) :
    Hushed y x s { s with sent := s.sent ++ [(client, message)] } := by
  refine ⟨rfl, rfl, [(client, message)], rfl, lastNews_eq_none fun m hm => ?_⟩
  rw [List.mem_singleton.mp hm]
  exact h

theorem avatarChanges : AvatarChanges (Hushed y x) where
  execute statement _ := makes_execute_of statement fun _ _ _ => of_cache rfl rfl
  object _ := of_cache rfl rfl
  cached s avatar h := of_online (online_of_loaded rfl fun a ha => List.mem_singleton.mp ha ▸ h) rfl
  write p f hself honline := (still_readAvatar p).makes.bind fun _ => makes_modify fun s =>
    of_online (online_of_cache (presence_updateAvatar hself honline)) rfl

end Hushed

section Quiet
variable {α : Type}

theorem hushed_of_run {z : Serve α} {result : Except Exn α} (h : z.Makes (Hushed y x)) (hrun : z s = (result, t)) :
    Hushed y x s t := by
  have hchanges := changes_related Hushed.refl Hushed.trans (fun _ _ h => h) (h s)
  rw [hrun] at hchanges
  exact hchanges

theorem hushed_sendTo (address : U16String) {message : Serve Notification} (hstill : Still message)
    (h : message.Returns fun n => (Outgoing.notify n).presence y x = none) :
    (sendTo address message).Makes (Hushed y x) :=
  makes_sendTo_of address hstill h fun client _ hn => makes_modify fun _ => .of_send client _ hn

theorem hushed_sendLeaveRoomUpdate (addresses : List U16String) (srcAvatarId roomId : UInt32) :
    (sendLeaveRoomUpdate addresses srcAvatarId roomId).Makes (Hushed y x) :=
  makes_forM (fun address => hushed_sendTo address (still_pure _) (returns_pure rfl)) addresses

theorem hushed_sendEnterRoomUpdate (srcAvatar : AvatarPtr) (room : RoomPtr) :
    (sendEnterRoomUpdate srcAvatar room).Makes (Hushed y x) :=
  (still_readRoom room).makes.bind fun _ => makes_forM (fun address =>
    hushed_sendTo address (still_message srcAvatar _) (returns_bind fun _ => returns_pure rfl)) _

theorem hushed_writeRoom (room : RoomPtr) (f : ChatRoom → ChatRoom) : (writeRoom room f).Makes (Hushed y x) :=
  (still_readRoom room).makes.bind fun _ => makes_modify fun _ => .of_cache rfl rfl

theorem hushed_leaveJoinedRooms (avatar : Option AvatarPtr) :
    (Handler.leaveJoinedRooms avatar).Makes (Hushed y x) := by
  refine (still_getJoinedRooms avatar).makes.bind fun rooms => makes_forM (fun room => ?_) rooms
  refine (still_readRoom room).makes.bind fun r => (still_deref avatar).makes.bind fun a => ?_
  refine (hushed_writeRoom room _).bind fun _ => (still_readRoom room).makes.bind fun _ => ?_
  exact hushed_sendLeaveRoomUpdate _ _ _

/-- The login of a game server. -/
theorem hushed_registering (address baseAddress : U16String) (client : ClientId) :
    (do registerClientAddress address client
        loadRoomsFromStorage baseAddress : Serve Unit).Makes (Hushed y x) := by
  refine (makes_modify fun s => .of_cache rfl rfl).bind fun _ => ?_
  exact makes_loadRoomsFromStorage_of baseAddress (Hushed.avatarChanges.execute _ rfl) fun _ _ _ => .of_cache rfl rfl

theorem hushed_loginTarget (name address : U16String) (userId attributes : UInt32) (loginLocation : U16String) :
    (Handler.loginTarget name address userId attributes loginLocation).Makes (Hushed y x) := by
  refine (Hushed.avatarChanges.makes_getAvatar name address).bind fun avatar => ?_
  cases avatar with
  | some avatar => exact makes_pure _
  | none => exact Hushed.avatarChanges.makes_createAvatar _ _ _ _ _

theorem hushed_contacts (srcAvatarId : UInt32) (destName destAddress : U16String)
    {operation : AvatarPtr → AvatarPtr → Serve Unit} (h : ∀ src dest, (operation src dest).Makes (Hushed y x)) :
    (do let srcAvatar ← requireSrcAvatar srcAvatarId
        let destAvatar ← requireDestAvatar destName destAddress
        operation srcAvatar destAvatar : Serve Unit).Makes (Hushed y x) :=
  (Hushed.avatarChanges.makes_requireSrcAvatar _).bind fun _ =>
    (Hushed.avatarChanges.makes_requireDestAvatar _ _).bind fun _ => h _ _

theorem hushed_removeFriendHandler (request : ReqRemoveFriend) : (Handler.removeFriend request).Makes (Hushed y x) :=
  hushed_contacts _ _ _ fun src dest => Hushed.avatarChanges.makes_removeFriend src (some dest)

theorem hushed_addIgnoreHandler (request : ReqAddIgnore) : (Handler.addIgnore request).Makes (Hushed y x) :=
  hushed_contacts _ _ _ fun src dest => Hushed.avatarChanges.makes_addIgnore src (some dest)

theorem hushed_removeIgnoreHandler (request : ReqRemoveIgnore) : (Handler.removeIgnore request).Makes (Hushed y x) :=
  (Hushed.avatarChanges.makes_requireSrcAvatar _).bind fun src =>
    (Hushed.avatarChanges.makes_getAvatar _ _).bind fun dest => Hushed.avatarChanges.makes_removeIgnore src dest

end Quiet

end StationChat
