import StationChat.Gateway.Changes
import StationChat.Gateway.Handling
import StationChat.Lib.Composed

/-! Every handler put together from a few kinds of steps. What each of these keeps, every request keeps, and
what none of them looks at makes no difference to any request. -/
namespace StationChat
open Lib Lib.Action

/-- What the services look at: not the policy engine and its clock, not what was sent, and not the record of the
statements. -/
def Server.seen (s : Server) : Server :=
  { s with
    failures := 0
    roleKeys := []
    sent := []
    steadyClock := 0
    policyConfig := {}
    recentActions := fun _ => [] }

/-- The caches and the rooms of another server. -/
def Server.withMemory (s memory : Server) : Server :=
  { s with
    avatarCache := memory.avatarCache
    onlineAvatars := memory.onlineAvatars
    objects := memory.objects
    rooms := memory.rooms
    nextRoomId := memory.nextRoomId }

/-- The statements that change the tables. -/
def Statement.writing {α : Type} : Statement α → Bool
  | .selectAvatarByName .. | .selectAvatarById _ | .selectFriends _ | .selectIgnored _ | .selectRooms _
  | .selectRole .. | .selectHeaders _ | .selectMessage .. => false
  | _ => true

/-- The calls of the avatar service that look an avatar up or make one. -/
inductive Summons : (α : Type) → Serve α → Prop
  | byId (avatarId : UInt32) : Summons (Option AvatarPtr) (getAvatarById avatarId)
  | byName (name address : U16String) : Summons (Option AvatarPtr) (getAvatar name address)
  | create (name address : U16String) (userId loginAttributes : UInt32) (loginLocation : U16String) :
      Summons AvatarPtr (createAvatar name address userId loginAttributes loginLocation)

/-- The avatars that a notification shows. -/
def Notification.avatars : Notification → List ChatAvatar
  | .instantMessage a .. | .roomMessage a .. | .friendLogin a .. | .friendLogout a .. | .enterRoom a _
  | .destroyRoom a _ => [a]
  | .kickAvatar a b .. => [a, b]
  | .leaveRoom .. | .persistentMessage .. => []

/-- What a room is told apart by, and who is in it. -/
def ChatRoom.attendance (r : ChatRoom) : UInt32 × U16String × U16String × List AvatarPtr :=
  (r.roomId, r.roomName, r.roomAddress, r.avatars)

/-- Every room of `t` has nobody in it, or was there in `s` with the same avatars in it. -/
def Seated (s t : Server) : Prop :=
  ∀ r ∈ t.rooms, r.avatars = [] ∨ ∃ r' ∈ s.rooms, r'.attendance = r.attendance

/-- What a handler may do besides: the statements by which it may change the tables, whether it may bring an avatar
online, register its client and tell it of friends, whom it may take offline, the notifications it may send, and
whether it may change who is in a room. With `loads` it fills the cache step by step, without it by calls of the
avatar service. -/
structure Powers where
  executes : (α : Type) → Statement α → Prop
  greets : Prop
  departs : UInt32 → Prop
  tells : Notification → Prop
  moves : Prop
  loads : Prop

/-- A change of the memory that the powers allow. -/
structure Powers.Permits (powers : Powers) (f : Server → Server) : Prop where
  memory : ∀ s, f s = s.withMemory (f s.seen)
  seated : (∀ s, Seated s (f s)) ∨ powers.moves
  online : (∀ s, (f s).onlineAvatars ⊆ s.onlineAvatars) ∨ powers.greets
  offline : ∀ s, ∀ p ∈ s.onlineAvatars, p ∈ (f s).onlineAvatars ∨ powers.departs p.avatarId
  selves : (∀ s, (f s).avatarCache.map (·.self) = s.avatarCache.map (·.self)) ∨ powers.loads

/-- A notification that the powers allow. Whoever it shows is in the cache when it is made. -/
structure Powers.Utters (powers : Powers) (message : Serve Notification) : Prop where
  looks : Looks Server.seen message
  tells : message.Returns powers.tells
  shows : ∀ s m t, message s = (.ok m, t) → ∀ a ∈ m.avatars, a ∈ s.avatarCache

/-- One step of a handler that runs for a client. -/
inductive Primitive (client : ClientId) (powers : Powers) : (α : Type) → Serve α → Prop
  | execute {α : Type} (statement : Statement α) (h : statement.writing = true → powers.executes α statement) :
      Primitive client powers α (execute statement)
  | memory (f : Server → Server) (h : powers.Permits f) : Primitive client powers PUnit (modify f)
  | summon {α : Type} {x : Serve α} (h : Summons α x) (hloads : ¬ powers.loads) : Primitive client powers α x
  | response (f : Response → Response) (h : ∀ r, (f r).type = r.type ∧ (f r).track = r.track) :
      Primitive client powers Unit (setResponse f)
  | policy (event : Policy.Event) : Primitive client powers Unit (evaluatePolicyEvent event)
  | sendTo (address : U16String) {message : Serve Notification} (h : powers.Utters message) :
      Primitive client powers Unit (sendTo address message)
  | forward (address : U16String) {message : Serve Notification} (h : powers.Utters message) :
      Primitive client powers Unit (message >>= fun m => StationChat.sendTo address (pure m))
  | greet {message : Serve Notification} (h : powers.Utters message) (hgreets : powers.greets) :
      Primitive client powers Unit (message >>= fun m => send client (.notify m))
  | register (address : U16String) (h : powers.greets) :
      Primitive client powers Unit (registerClientAddress address client)

/-- The computations a handler is made of. -/
abbrev Routine (client : ClientId) (powers : Powers) {α : Type} (x : Serve α) : Prop :=
  Composed Server.seen (Primitive client powers) x

section Looking

theorem looks_readAvatar (p : AvatarPtr) : Looks Server.seen (readAvatar p) := by
  refine .look _ (fun _ => rfl) fun s => ?_
  cases s.avatar? p with
  | some a => exact .pure a
  | none => exact .throw _

theorem looks_readRoom (room : RoomPtr) : Looks Server.seen (readRoom room) := by
  refine .look _ (fun _ => rfl) fun s => ?_
  cases s.rooms[room]? with
  | some r => exact .pure r
  | none => exact .throw _

theorem looks_deref {α : Type} (a : Option α) : Looks Server.seen (deref a : Serve α) := by
  cases a with
  | some a => exact .pure a
  | none => exact .throw _

theorem looks_columnInt (n : Nat) : Looks Server.seen (columnInt n) := composed_ite (.pure _) (.throw _)

theorem looks_sameAvatar (contact avatar : Option AvatarPtr) : Looks Server.seen (sameAvatar contact avatar) :=
  (looks_deref contact).bind fun _ => (looks_deref avatar).bind fun _ => .pure _

theorem looks_isFriend (self : AvatarPtr) (avatar : Option AvatarPtr) : Looks Server.seen (isFriend self avatar) :=
  (looks_readAvatar self).bind fun a => composed_anyM (fun c => looks_sameAvatar c.frnd avatar) a.friendList

theorem looks_isIgnored (self : AvatarPtr) (avatar : Option AvatarPtr) : Looks Server.seen (isIgnored self avatar) :=
  (looks_readAvatar self).bind fun a => composed_anyM (fun c => looks_sameAvatar c.ignored avatar) a.ignoreList

theorem looks_removeIf {α : Type} {p : α → Serve Bool} (hp : ∀ a, Looks Server.seen (p a)) (l : List α) :
    Looks Server.seen (removeIf p l) := by
  induction l with
  | nil => exact .pure _
  | cons a l ih => exact (hp a).bind fun _ => ih.bind fun _ => .pure _

theorem looks_getAvatarIds (room : ChatRoom) (srcAvatar : AvatarPtr) :
    Looks Server.seen (getAvatarIds room srcAvatar) :=
  (looks_removeIf (fun roomAvatar => looks_isIgnored roomAvatar (some srcAvatar)) room.avatars).bind
    fun _ => .pure _

theorem looks_getJoinedRooms (avatar : Option AvatarPtr) : Looks Server.seen (getJoinedRooms avatar) := by
  refine .look _ (fun _ => rfl) fun s => composed_ite (.pure _) ?_
  exact (looks_deref avatar).bind fun a => .look _ (fun _ => rfl) fun _ => .pure _

theorem looks_readHeader (row : MessageRow) : Looks Server.seen (readHeader row) :=
  (looks_columnInt _).bind fun _ => (looks_columnInt _).bind fun _ => (looks_columnInt _).bind fun _ =>
    (looks_columnInt _).bind fun _ => .pure _

theorem looks_readMessage (avatarId messageId : UInt32) (row : MessageRow) :
    Looks Server.seen (readMessage avatarId messageId row) := by
  refine (looks_columnInt _).bind fun _ => (looks_columnInt _).bind fun _ => ?_
  cases oobUnits row.oob with
  | none => exact .throw _
  | some oob => exact .pure _

theorem looks_mapM_readAvatar (l : List AvatarPtr) : Looks Server.seen (l.mapM readAvatar) :=
  composed_mapM looks_readAvatar l

theorem looks_roomImage (room : ChatRoom) : Looks Server.seen (roomImage room) :=
  (looks_mapM_readAvatar _).bind fun _ => (looks_mapM_readAvatar _).bind fun _ =>
    (looks_mapM_readAvatar _).bind fun _ => (looks_mapM_readAvatar _).bind fun _ =>
      (looks_mapM_readAvatar _).bind fun _ => (looks_mapM_readAvatar _).bind fun _ =>
        (looks_mapM_readAvatar _).bind fun _ => .pure _

theorem looks_friendEntry (contact : FriendContact) : Looks Server.seen (friendEntry contact) :=
  (looks_deref _).bind fun _ => (looks_readAvatar _).bind fun _ => .pure _

theorem looks_ignoreEntry (contact : IgnoreContact) : Looks Server.seen (ignoreEntry contact) :=
  (looks_deref _).bind fun _ => .pure _

theorem looks_roomSummary (room : RoomPtr) : Looks Server.seen (roomSummary room) :=
  (looks_readRoom _).bind fun _ => .pure _

/-- Encoding a response, whatever its type. -/
theorem looks_responseBody (r : Response) : Looks Server.seen (responseBody r) := by
  unfold responseBody
  cases htype : r.type <;> simp only
  case loginAvatar | setAvatarAttributes | getAnyAvatar =>
    exact composed_ite ((looks_deref _).bind fun _ => (looks_readAvatar _).bind fun _ => .pure _) (.pure _)
  case createRoom | getRoom =>
    exact composed_ite ((looks_deref _).bind fun _ => (looks_readRoom _).bind fun _ =>
      (looks_roomImage _).bind fun _ => .pure _) (.pure _)
  case friendStatus =>
    split
    · exact (looks_readAvatar _).bind fun _ => (composed_mapM looks_friendEntry _).bind fun _ => .pure _
    · exact .pure _
  case ignoreStatus =>
    split
    · exact (looks_readAvatar _).bind fun _ => (composed_mapM looks_ignoreEntry _).bind fun _ => .pure _
    · exact .pure _
  case getRoomSummaries => exact (composed_mapM looks_roomSummary _).bind fun _ => .pure _
  case getPersistentMessage => exact composed_ite ((looks_deref _).bind fun _ => .pure _) (.pure _)
  case sendPersistentMessage => exact composed_ite (.pure _) (.pure _)
  all_goals exact .pure _

end Looking

variable {client : ClientId} {powers : Powers}

section Answers

instance : Nonempty Exn := ⟨.database⟩

theorem returns_deref {α : Type} (a : Option α) : (deref a : Serve α).Returns fun b => a = some b := by
  cases a with
  | some a => exact returns_pure rfl
  | none => exact fun _ _ _ h => absurd h (by simp [deref])

theorem returns_execute {α : Type} {statement : Statement α} {Q : α → Prop}
    (h : ∀ (db : Database) a db', db.run statement = some (a, db') → Q a) : (execute statement).Returns Q := by
  intro s a t hrun
  rcases execute_cases statement s with ⟨_, hend⟩ | ⟨b, db, ⟨_, hok⟩, hend⟩ <;> rw [hend] at hrun
  · exact absurd hrun (by simp)
  · obtain rfl := Except.ok.inj (Prod.mk.inj hrun).1
    exact h _ _ _ hok

/-- The avatar found for an id has this id. -/
theorem returns_getAvatarById (avatarId : UInt32) :
    (getAvatarById avatarId).Returns fun found => ∀ p, found = some p → p.avatarId = avatarId := by
  refine returns_bind fun s => ?_
  cases s.loadDepth with
  | zero => exact fun _ _ _ h => absurd h (by simp [getAvatarWithin])
  | succ fuel =>
    refine Returns.bind (P := fun found => ∀ p, found = some p → p.avatarId = avatarId) ?_ fun cached hcached => ?_
    · refine returns_bind fun u => returns_pure fun p hp => ?_
      obtain ⟨a, ha, rfl⟩ := Option.map_eq_some_iff.mp hp
      have hid := List.find?_some ha
      exact eq_of_beq hid
    · cases cached with
      | some p => exact returns_pure hcached
      | none =>
        refine Returns.bind (P := fun loaded : Option ChatAvatar => ∀ a, loaded = some a → a.self.avatarId = avatarId) ?_
          fun loaded hloaded => ?_
        · refine Returns.bind (P := fun rows => ∀ row ∈ rows, row.id = avatarId.toNat) ?_ fun rows hrows => ?_
          · refine returns_execute fun db rows db' h row hrow => ?_
            obtain ⟨rfl, _⟩ := Prod.mk.inj (Option.some.inj h)
            exact of_decide_eq_true (List.mem_filter.mp hrow).2
          · cases rows with
            | nil => exact returns_pure (by simp)
            | cons row rest =>
              refine returns_bind fun obj => Returns.bind (P := fun id => id = UInt32.ofNat row.id) ?_ fun id hid => ?_
              · rw [columnInt]
                split
                · exact returns_pure rfl
                · exact fun _ _ _ h => absurd h (by simp)
              · refine returns_bind fun _ => returns_bind fun _ => returns_pure fun a ha => ?_
                obtain rfl := Option.some.inj ha
                rw [hid, hrows row List.mem_cons_self, UInt32.ofNat_toNat]
        · cases loaded with
          | none => exact returns_pure (by simp)
          | some a =>
            refine returns_bind fun _ => returns_bind fun _ => returns_bind fun _ => returns_pure fun p hp => ?_
            obtain rfl := Option.some.inj hp
            exact hloaded a rfl

theorem returns_requireSrcAvatar (srcAvatarId : UInt32) :
    (requireSrcAvatar srcAvatarId).Returns (·.avatarId = srcAvatarId) := by
  refine (returns_getAvatarById srcAvatarId).bind fun found hfound => ?_
  cases found with
  | some p => exact returns_pure (hfound p rfl)
  | none => exact fun _ _ _ h => absurd h (by simp)

end Answers

section Seats
variable {s t u : Server}

theorem seated_of_rooms (h : t.rooms = s.rooms) : Seated s t := fun r hr => .inr ⟨r, h ▸ hr, rfl⟩

theorem Seated.trans (h : Seated s t) (h' : Seated t u) : Seated s u := by
  intro r hr
  rcases h' r hr with hnobody | ⟨r', hr', hsame⟩
  · exact .inl hnobody
  · rcases h r' hr' with hnobody | ⟨r'', hr'', hsame'⟩
    · exact .inl ((congrArg (·.2.2.2) hsame).symm.trans hnobody)
    · exact .inr ⟨r'', hr'', hsame'.trans hsame⟩

theorem seated_updateRoom {f : ChatRoom → ChatRoom} (hf : ∀ r, (f r).attendance = r.attendance) (s : Server)
    (room : RoomPtr) : Seated s (s.updateRoom room f) := by
  intro r hr
  obtain ⟨i, hi⟩ := List.mem_iff_getElem?.mp hr
  rw [Server.updateRoom, List.getElem?_modify] at hi
  obtain ⟨r', hr', rfl⟩ := Option.map_eq_some_iff.mp hi
  refine .inr ⟨r', List.mem_of_getElem? hr', ?_⟩
  split
  · exact (hf r').symm
  · rfl

theorem seated_append (s : Server) {room : ChatRoom} (h : room.avatars = []) :
    Seated s { s with rooms := s.rooms ++ [room] } := by
  intro r hr
  rcases List.mem_append.mp hr with hr | hr
  · exact .inr ⟨r, hr, rfl⟩
  · exact .inl (List.mem_singleton.mp hr ▸ h)

end Seats

section Steps

theorem routine_execute {α : Type} (statement : Statement α) (h : powers.executes α statement) :
    Routine client powers (execute statement) :=
  .primitive (.execute statement fun _ => h)

theorem routine_select {α : Type} {statement : Statement α} (h : statement.writing = false) :
    Routine client powers (execute statement) :=
  .primitive (.execute statement fun hwrites => absurd (h.symm.trans hwrites) (by decide))

/-- A change of the rooms. -/
theorem routine_rooms (f : Server → Server) (h : ∀ s, f s = s.withMemory (f s.seen))
    (hcache : ∀ s, (f s).avatarCache = s.avatarCache) (honline : ∀ s, (f s).onlineAvatars = s.onlineAvatars)
    (hseated : (∀ s, Seated s (f s)) ∨ powers.moves) : Routine client powers (modify f : Serve PUnit) :=
  .primitive (.memory f ⟨h, hseated, .inl fun s => honline s ▸ List.Subset.refl _,
    fun s _ hp => .inl (honline s ▸ hp), .inl fun s => by rw [hcache]⟩)

/-- A change of the list of those who are online. -/
theorem routine_online (f : Server → Server) (h : ∀ s, f s = s.withMemory (f s.seen))
    (hcache : ∀ s, (f s).avatarCache = s.avatarCache) (hrooms : ∀ s, (f s).rooms = s.rooms)
    (honline : (∀ s, (f s).onlineAvatars ⊆ s.onlineAvatars) ∨ powers.greets)
    (hoffline : ∀ s, ∀ p ∈ s.onlineAvatars, p ∈ (f s).onlineAvatars ∨ powers.departs p.avatarId) :
    Routine client powers (modify f : Serve PUnit) :=
  .primitive (.memory f ⟨h, .inl fun s => seated_of_rooms (hrooms s), honline, hoffline, .inl fun s => by rw [hcache]⟩)

/-- A change of the cache. -/
theorem routine_memory (f : Server → Server) (h : ∀ s, f s = s.withMemory (f s.seen))
    (hrooms : ∀ s, (f s).rooms = s.rooms) (honline : ∀ s, (f s).onlineAvatars = s.onlineAvatars)
    (hselves : (∀ s, (f s).avatarCache.map (·.self) = s.avatarCache.map (·.self)) ∨ powers.loads) :
    Routine client powers (modify f : Serve PUnit) :=
  .primitive (.memory f ⟨h, .inl fun s => seated_of_rooms (hrooms s), .inl fun s => honline s ▸ List.Subset.refl _,
    fun s _ hp => .inl (honline s ▸ hp), hselves⟩)

theorem routine_setResponse (f : Response → Response) (h : ∀ r, (f r).type = r.type ∧ (f r).track = r.track) :
    Routine client powers (setResponse f) :=
  .primitive (.response f h)

theorem routine_evaluatePolicyEvent (event : Policy.Event) :
    Routine client powers (evaluatePolicyEvent event) :=
  .primitive (.policy event)

theorem routine_writeAvatar (p : AvatarPtr) {f : ChatAvatar → ChatAvatar} (hself : ∀ a, (f a).self = a.self) :
    Routine client powers (writeAvatar p f) :=
  (looks_readAvatar p).composed.bind fun _ =>
    routine_memory _ (fun _ => by rfl) (fun _ => by rfl) (fun _ => by rfl) (.inl fun _ => selves_updateAvatar hself)

theorem routine_writeRoom (room : RoomPtr) {f : ChatRoom → ChatRoom}
    (hf : (∀ r, (f r).attendance = r.attendance) ∨ powers.moves) : Routine client powers (writeRoom room f) :=
  (looks_readRoom room).composed.bind fun _ =>
    routine_rooms _ (fun _ => rfl) (fun _ => by rfl) (fun _ => by rfl) (hf.imp_left fun hf s => seated_updateRoom hf s room)

theorem routine_changeRoom (hmoves : powers.moves) (room : RoomPtr) (f : ChatRoom → Except ChatResultCode ChatRoom) :
    Routine client powers (changeRoom room f) := by
  refine (looks_readRoom room).composed.bind fun r => ?_
  cases f r with
  | ok r' => exact routine_writeRoom room (.inr hmoves)
  | error code => exact .throw _

end Steps

section Avatars

theorem routine_newObject : Routine client powers newObject :=
  .look _ (fun _ => rfl) fun _ => Composed.bind
    (routine_memory _ (fun _ => by rfl) (fun _ => by rfl) (fun _ => by rfl) (.inl fun _ => by rfl)) fun _ => .pure _

theorem routine_readAvatarRow (rows : List AvatarRow) : Routine client powers (readAvatarRow rows) := by
  cases rows with
  | nil => exact .pure _
  | cons row rest =>
    refine routine_newObject.bind fun _ => (looks_columnInt _).composed.bind fun _ => ?_
    exact (looks_columnInt _).composed.bind fun _ => (looks_columnInt _).composed.bind fun _ => .pure _

theorem routine_loadContacts {getAvatar : UInt32 → Serve (Option AvatarPtr)} {ρ : Type} (key : ρ → Nat)
    {push : ρ → Option AvatarPtr → ChatAvatar → ChatAvatar} (hself : ∀ row p a, (push row p a).self = a.self)
    (avatar : AvatarPtr) (rows : List ρ) (hget : ∀ id, Routine client powers (getAvatar id)) :
    Routine client powers (loadContacts getAvatar key push avatar rows) :=
  composed_forM (fun row => (looks_columnInt _).composed.bind fun _ => (hget _).bind fun contact =>
    routine_writeAvatar avatar (hself row contact)) rows

section Loading
variable (hloads : powers.loads)
include hloads

theorem routine_adopt {getAvatar : UInt32 → Serve (Option AvatarPtr)} (loaded : Option ChatAvatar)
    (hget : ∀ id, Routine client powers (getAvatar id)) :
    Routine client powers (adopt getAvatar loaded) := by
  cases loaded with
  | none => exact .pure _
  | some avatar =>
    refine (routine_memory _ (fun _ => by rfl) (fun _ => by rfl) (fun _ => by rfl) (.inr hloads)).bind fun _ => ?_
    refine Composed.bind ?_ fun _ => Composed.bind ?_ fun _ => .pure _
    · exact (routine_select rfl).bind fun rows => routine_loadContacts _ (fun _ _ _ => by rfl) _ rows hget
    · exact (routine_select rfl).bind fun rows => routine_loadContacts _ (fun _ _ _ => by rfl) _ rows hget

theorem routine_getAvatarWithin (fuel : Nat) (avatarId : UInt32) :
    Routine client powers (getAvatarWithin fuel avatarId) := by
  induction fuel generalizing avatarId with
  | zero => exact .throw _
  | succ fuel ih =>
    refine Composed.bind (.look _ (fun _ => rfl) fun _ => .pure _) fun cached => ?_
    cases cached with
    | some p => exact .pure _
    | none =>
      refine Composed.bind ?_ fun loaded => routine_adopt hloads loaded ih
      exact (routine_select rfl).bind fun rows => routine_readAvatarRow rows

end Loading

theorem routine_getAvatarById (avatarId : UInt32) : Routine client powers (getAvatarById avatarId) := by
  by_cases hloads : powers.loads
  · exact .look _ (fun _ => rfl) fun _ => routine_getAvatarWithin hloads _ avatarId
  · exact .primitive (.summon (.byId avatarId) hloads)

theorem routine_getAvatar (name address : U16String) :
    Routine client powers (getAvatar name address) := by
  by_cases hloads : powers.loads
  · refine Composed.bind (.look _ (fun _ => rfl) fun _ => .pure _) fun cached => ?_
    cases cached with
    | some p => exact .pure _
    | none =>
      refine Composed.bind ?_ fun loaded => routine_adopt hloads loaded routine_getAvatarById
      exact (routine_select rfl).bind fun rows => routine_readAvatarRow rows
  · exact .primitive (.summon (.byName name address) hloads)

theorem routine_requireSrcAvatar (srcAvatarId : UInt32) :
    Routine client powers (requireSrcAvatar srcAvatarId) := by
  refine (routine_getAvatarById srcAvatarId).bind fun avatar => ?_
  cases avatar with
  | some avatar => exact .pure _
  | none => exact .throw _

theorem routine_requireDestAvatar (destName destAddress : U16String) :
    Routine client powers (requireDestAvatar destName destAddress) := by
  refine (routine_getAvatar destName destAddress).bind fun avatar => ?_
  cases avatar with
  | some avatar => exact .pure _
  | none => exact .throw _

theorem routine_createAvatar {name address : U16String} {userId loginAttributes : UInt32} (loginLocation : U16String)
    (hinsert : powers.loads → powers.executes Nat
      (.insertAvatar userId (fromWideString name) (fromWideString address) loginAttributes)) :
    Routine client powers (createAvatar name address userId loginAttributes loginLocation) := by
  by_cases hloads : powers.loads
  · refine routine_newObject.bind fun _ => (routine_execute _ (hinsert hloads)).bind fun _ => Composed.bind ?_ fun _ => .pure _
    exact routine_memory _ (fun _ => by rfl) (fun _ => by rfl) (fun _ => by rfl) (.inr hloads)
  · exact .primitive (.summon (.create ..) hloads)

theorem routine_loginAvatar (hgreets : powers.greets) (avatar : AvatarPtr) :
    Routine client powers (loginAvatar avatar) := by
  refine (routine_writeAvatar avatar fun _ => by rfl).bind fun _ => ?_
  refine Composed.bind (.look _ (fun _ => rfl) fun _ => .pure _) fun online => composed_ite (.pure _) ?_
  exact routine_online _ (fun _ => by rfl) (fun _ => by rfl) (fun _ => by rfl) (.inr hgreets)
    fun _ _ hp => .inl (List.mem_append_left _ hp)

theorem routine_logoutAvatar {avatar : Option AvatarPtr} (hdeparts : ∀ p, avatar = some p → powers.departs p.avatarId) :
    Routine client powers (logoutAvatar avatar) := by
  refine (looks_deref avatar).composed.bind_returns (returns_deref avatar) fun p hp => ?_
  refine (looks_readAvatar p).composed.bind fun a => composed_ite ?_ (.pure _)
  refine (routine_writeAvatar p fun _ => by rfl).bind fun _ => ?_
  refine routine_online _ (fun _ => by rfl) (fun _ => by rfl) (fun _ => by rfl)
    (.inl fun _ => List.filter_subset_self _) fun s q hq => ?_
  by_cases hid : q.avatarId = p.avatarId
  · exact .inr (hid ▸ hdeparts p hp)
  · exact .inl (List.mem_filter.mpr ⟨hq, bne_iff_ne.mpr hid⟩)

theorem routine_persistAvatar {avatar : AvatarPtr} (h : ∀ userId attributes, powers.executes Unit
      (.updateAvatar userId (fromWideString avatar.name) (fromWideString avatar.address) attributes avatar.avatarId)) :
    Routine client powers (persistAvatar avatar) :=
  (looks_readAvatar avatar).composed.bind fun _ => routine_execute _ (h _ _)

section Contacts
variable {self : AvatarPtr} (avatar : Option AvatarPtr)

theorem routine_removeFriend (h : ∀ id, powers.executes Unit (.deleteFriend self.avatarId id)) :
    Routine client powers (removeFriend self avatar) := by
  refine (looks_readAvatar self).composed.bind fun a => ?_
  refine (looks_removeIf (fun _ => looks_sameAvatar _ _) _).composed.bind fun kept => ?_
  refine composed_ite ((routine_writeAvatar self fun _ => by rfl).bind fun _ => ?_) (.pure _)
  exact (looks_deref avatar).composed.bind fun _ => routine_execute _ (h _)

theorem routine_removeIgnore (h : ∀ id, powers.executes Unit (.deleteIgnore self.avatarId id)) :
    Routine client powers (removeIgnore self avatar) := by
  refine (looks_readAvatar self).composed.bind fun a => ?_
  refine (looks_removeIf (fun _ => looks_sameAvatar _ _) _).composed.bind fun kept => ?_
  refine composed_ite ((routine_writeAvatar self fun _ => by rfl).bind fun _ => ?_) (.pure _)
  exact (looks_deref avatar).composed.bind fun _ => routine_execute _ (h _)

theorem routine_addFriend (comment : U16String)
    (hinsert : ∀ id, powers.executes Unit (.insertFriend self.avatarId id (fromWideString comment)))
    (hdelete : ∀ id, powers.executes Unit (.deleteIgnore self.avatarId id)) :
    Routine client powers (addFriend self avatar comment) := by
  refine (looks_isFriend self avatar).composed.bind fun friendly => composed_ite (.pure _) ?_
  refine (looks_isIgnored self avatar).composed.bind fun ignored => ?_
  refine (composed_runIf (routine_removeIgnore avatar hdelete)).bind fun _ => ?_
  refine (routine_writeAvatar self fun _ => by rfl).bind fun _ => (looks_deref avatar).composed.bind fun _ => ?_
  exact routine_execute _ (hinsert _)

theorem routine_addIgnore (hinsert : ∀ id, powers.executes Unit (.insertIgnore self.avatarId id))
    (hdelete : ∀ id, powers.executes Unit (.deleteFriend self.avatarId id)) :
    Routine client powers (addIgnore self avatar) := by
  refine (looks_isIgnored self avatar).composed.bind fun ignored => composed_ite (.pure _) ?_
  refine (looks_isFriend self avatar).composed.bind fun friendly => ?_
  refine (composed_runIf (routine_removeFriend avatar hdelete)).bind fun _ => ?_
  refine (routine_writeAvatar self fun _ => by rfl).bind fun _ => (looks_deref avatar).composed.bind fun _ => ?_
  exact routine_execute _ (hinsert _)

end Contacts
end Avatars

section Sending

theorem readAvatar_mem {s t : Server} {p : AvatarPtr} {a : ChatAvatar} (h : readAvatar p s = (.ok a, t)) :
    a ∈ s.avatarCache := by
  rw [readAvatar, get_bind_run] at h
  cases hp : s.avatar? p with
  | none =>
    rw [hp] at h
    exact absurd h (by simp)
  | some b =>
    rw [hp] at h
    obtain rfl := Except.ok.inj (Prod.mk.inj h).1
    exact List.mem_of_find?_eq_some hp

/-- A message about an avatar. -/
theorem utters_about (avatar : AvatarPtr) {f : ChatAvatar → Notification} (htells : ∀ a, powers.tells (f a))
    (hshows : ∀ a, (f a).avatars = [a]) : powers.Utters (do pure (f (← readAvatar avatar))) := by
  refine ⟨(looks_readAvatar avatar).bind fun _ => .pure _, returns_bind fun a => returns_pure (htells a), ?_⟩
  intro s m t hrun a ha
  rcases hread : readAvatar avatar s with ⟨_ | b, u⟩
  · rw [bind_error hread] at hrun
    exact absurd hrun (by simp)
  · rw [bind_ok hread] at hrun
    obtain rfl := Except.ok.inj (Prod.mk.inj hrun).1
    rw [hshows, List.mem_singleton] at ha
    exact ha ▸ readAvatar_mem hread

theorem utters_pure {m : Notification} (htells : powers.tells m) (hshows : m.avatars = []) : powers.Utters (pure m) := by
  refine ⟨.pure m, returns_pure htells, fun s n t hrun a ha => ?_⟩
  obtain rfl := Except.ok.inj (Prod.mk.inj hrun).1
  exact absurd ha (hshows ▸ List.not_mem_nil)

section Uttering
variable {R : Server → Server → Prop} {message : Serve Notification} (h : powers.Utters message)
  (hsend : ∀ (s : Server) c m, powers.tells m → R s { s with sent := s.sent ++ [(c, .notify m)] })
include h hsend

theorem Powers.Utters.makes_sendTo (address : U16String) : (sendTo address message).Makes R :=
  makes_sendTo_of address h.looks.still h.tells fun c m hm => makes_modify fun s => hsend s c m hm

theorem Powers.Utters.makes_forward (address : U16String) :
    (message >>= fun m => sendTo address (pure m) : Serve Unit).Makes R :=
  h.looks.still.makes.bind_returns h.tells fun m hm => makes_sendTo_of address (still_pure m) (returns_pure hm)
    fun c m hm => makes_modify fun s => hsend s c m hm

theorem Powers.Utters.makes_greet (client : ClientId) :
    (message >>= fun m => send client (.notify m) : Serve Unit).Makes R :=
  h.looks.still.makes.bind_returns h.tells fun m hm => makes_modify fun s => hsend s client m hm

end Uttering

/-- Servers with the same tables and rooms and the same avatars online may be related as such. Then a step relates
them if its statement or its change of the memory does. -/
theorem Primitive.makes {R : Server → Server → Prop} {α : Type} {x : Serve α} (h : Primitive client powers α x)
    (hloads : powers.loads)
    (hsame : ∀ s t : Server, t.db = s.db → t.rooms = s.rooms → t.onlineAvatars = s.onlineAvatars → R s t)
    (hexecute : ∀ β (statement : Statement β), (statement.writing = true → powers.executes β statement) →
      (StationChat.execute statement).Makes R)
    (hmemory : ∀ f, powers.Permits f → ∀ s, R s (f s)) : x.Makes R := by
  have hsent (s : Server) (c : ClientId) (m : Notification) (_ : powers.tells m) :
      R s { s with sent := s.sent ++ [(c, .notify m)] } := hsame _ _ rfl rfl rfl
  cases h with
  | execute statement hwrites => exact hexecute _ statement hwrites
  | memory f hf => exact makes_modify (hmemory f hf)
  | summon _ hnot => exact absurd hloads hnot
  | sendTo address h => exact h.makes_sendTo hsent address
  | forward address h => exact h.makes_forward hsent address
  | greet h _ => exact h.makes_greet hsent client
  | response | policy | register => exact makes_modify fun s => hsame _ _ rfl rfl rfl

theorem makes_statement {R : Server → Server → Prop} {α : Type} {statement : Statement α}
    (hsame : ∀ s t : Server, t.db = s.db → t.rooms = s.rooms → t.onlineAvatars = s.onlineAvatars → R s t)
    (hrun : ∀ (s t : Server) a, s.db.run statement = some (a, t.db) → t.rooms = s.rooms →
      t.onlineAvatars = s.onlineAvatars → R s t) : (execute statement).Makes R := by
  intro s
  rcases execute_cases statement s with ⟨_, hend⟩ | ⟨a, db, ⟨_, hok⟩, hend⟩ <;> rw [hend]
  · exact .single (hsame _ _ rfl rfl rfl)
  · exact .single (hrun s _ a hok rfl rfl)

theorem routine_sendTo (address : U16String) {message : Serve Notification} (h : powers.Utters message) :
    Routine client powers (sendTo address message) :=
  .primitive (.sendTo address h)

private theorem utters_friendLogin (htells : ∀ a address avatarId status,
    powers.tells (.friendLogin a address avatarId status)) (avatar : AvatarPtr) (destAvatarId : UInt32) :
    powers.Utters (friendLogin avatar destAvatarId) :=
  utters_about avatar (fun a => htells a _ _ _) fun _ => rfl

theorem routine_sendFriendLoginUpdate (htells : ∀ a address avatarId status,
    powers.tells (.friendLogin a address avatarId status)) (srcAvatar destAvatar : AvatarPtr) :
    Routine client powers (sendFriendLoginUpdate srcAvatar destAvatar) :=
  .primitive (.forward _ (utters_friendLogin htells _ _))

theorem routine_sendFriendLoginUpdates (hgreets : powers.greets) (htells : ∀ a address avatarId status,
    powers.tells (.friendLogin a address avatarId status)) (avatar : AvatarPtr) :
    Routine client powers (sendFriendLoginUpdates client avatar) := by
  refine .look _ (fun _ => rfl) fun _ => (composed_forM (fun onlineAvatar => ?_) _).bind fun _ => ?_
  · refine (looks_isFriend _ _).composed.bind fun _ => composed_runIf ?_
    exact routine_sendFriendLoginUpdate htells onlineAvatar avatar
  · refine (looks_readAvatar avatar).composed.bind fun a => composed_forM (fun contact => ?_) _
    refine (looks_deref _).composed.bind fun frnd => (looks_readAvatar frnd).composed.bind fun f => composed_runIf ?_
    exact .primitive (.greet (utters_friendLogin htells _ _) hgreets)

theorem routine_sendFriendLogoutUpdates (htells : ∀ a address avatarId, powers.tells (.friendLogout a address avatarId))
    (avatar : Option AvatarPtr) : Routine client powers (sendFriendLogoutUpdates avatar) := by
  refine .look _ (fun _ => rfl) fun _ => composed_forM (fun onlineAvatar => ?_) _
  refine (looks_isFriend _ _).composed.bind fun _ => composed_runIf ?_
  exact (looks_deref avatar).composed.bind fun a => routine_sendTo _ (utters_about a (fun _ => htells _ _ _) fun _ => rfl)

theorem routine_sendDestroyRoomUpdate (htells : ∀ a roomId, powers.tells (.destroyRoom a roomId))
    (srcAvatar : AvatarPtr) (roomId : UInt32) (targets : List U16String) :
    Routine client powers (sendDestroyRoomUpdate srcAvatar roomId targets) :=
  composed_forM (fun _ => routine_sendTo _ (utters_about srcAvatar (fun _ => htells _ _) fun _ => rfl)) targets

theorem routine_sendInstantMessageUpdate (srcAvatar destAvatar : AvatarPtr) (message oob : U16String)
    (htells : ∀ a avatarId, powers.tells (.instantMessage a avatarId message oob)) :
    Routine client powers (sendInstantMessageUpdate srcAvatar destAvatar message oob) :=
  routine_sendTo _ (utters_about srcAvatar (fun _ => htells _ _) fun _ => rfl)

theorem routine_sendRoomMessageUpdate (srcAvatar : AvatarPtr) (room : RoomPtr) (messageId : UInt32)
    (message oob : U16String)
    (htells : ∀ a roomId destList, powers.tells (.roomMessage a roomId destList message oob messageId)) :
    Routine client powers (sendRoomMessageUpdate srcAvatar room messageId message oob) := by
  refine (looks_readRoom room).composed.bind fun r => composed_forM (fun address => ?_) _
  refine (looks_readRoom room).composed.bind fun r => (looks_getAvatarIds r srcAvatar).composed.bind fun _ => ?_
  exact routine_sendTo address (utters_about srcAvatar (fun _ => htells _ _ _) fun _ => rfl)

theorem routine_sendEnterRoomUpdate (htells : ∀ a roomId, powers.tells (.enterRoom a roomId)) (srcAvatar : AvatarPtr)
    (room : RoomPtr) : Routine client powers (sendEnterRoomUpdate srcAvatar room) :=
  (looks_readRoom room).composed.bind fun _ =>
    composed_forM (fun _ => routine_sendTo _ (utters_about srcAvatar (fun _ => htells _ _) fun _ => rfl)) _

theorem routine_sendLeaveRoomUpdate (htells : ∀ avatarId roomId, powers.tells (.leaveRoom avatarId roomId))
    (addresses : List U16String) (srcAvatarId roomId : UInt32) :
    Routine client powers (sendLeaveRoomUpdate addresses srcAvatarId roomId) :=
  composed_forM (fun _ => routine_sendTo _ (utters_pure (htells _ _) rfl)) addresses

theorem routine_sendPersistentMessageUpdate (destAvatar : Option AvatarPtr) (header : PersistentHeader)
    (htells : ∀ avatarId, powers.tells (.persistentMessage avatarId header)) :
    Routine client powers (sendPersistentMessageUpdate destAvatar header) := by
  cases destAvatar with
  | none => exact .pure _
  | some dest => exact routine_sendTo _ (utters_pure (htells _) rfl)

private theorem utters_kickAvatar (htells : ∀ a b name address, powers.tells (.kickAvatar a b name address))
    (srcAvatar destAvatar : AvatarPtr) (name address : U16String) : powers.Utters
      (do pure (.kickAvatar (← readAvatar srcAvatar) (← readAvatar destAvatar) name address)) := by
  refine ⟨(looks_readAvatar _).bind fun _ => (looks_readAvatar _).bind fun _ => .pure _,
    returns_bind fun _ => returns_bind fun _ => returns_pure (htells _ _ _ _), fun s m t hrun a ha => ?_⟩
  rcases hsrc : readAvatar srcAvatar s with ⟨_ | src, u⟩
  · rw [bind_error hsrc] at hrun
    exact absurd hrun (by simp)
  rw [bind_ok hsrc] at hrun
  obtain rfl : u = s := by simpa [hsrc] using still_readAvatar srcAvatar s
  rcases hdest : readAvatar destAvatar u with ⟨_ | dest, v⟩
  · rw [bind_error hdest] at hrun
    exact absurd hrun (by simp)
  rw [bind_ok hdest] at hrun
  obtain rfl := Except.ok.inj (Prod.mk.inj hrun).1
  rcases List.mem_pair.mp ha with rfl | rfl
  · exact readAvatar_mem hsrc
  · exact readAvatar_mem hdest

theorem routine_sendKickAvatarUpdate (htells : ∀ a b name address, powers.tells (.kickAvatar a b name address))
    (addresses : List U16String) (srcAvatar destAvatar : AvatarPtr) (room : RoomPtr) :
    Routine client powers (sendKickAvatarUpdate addresses srcAvatar destAvatar room) :=
  composed_forM (fun address => (looks_readRoom room).composed.bind fun _ =>
    routine_sendTo address (utters_kickAvatar htells srcAvatar destAvatar _ _)) addresses

end Sending

section Rooms
variable {room : RoomPtr}

theorem routine_requireRoom (roomAddress : U16String) (missing : ChatResultCode) :
    Routine client powers (requireRoom roomAddress missing) := by
  refine Composed.bind (.look _ (fun _ => rfl) fun _ => .pure _) fun found => ?_
  cases found with
  | some room => exact .pure _
  | none => exact .throw _

theorem routine_storeRole (l : RoomList) (as : List AvatarPtr) {call : Option (UInt32 → Serve Unit)}
    (h : ∀ write ∈ call, ∀ roomId, Routine client powers (write roomId)) :
    Routine client powers (storeRole room l as call) := by
  refine (routine_writeRoom room (.inl fun r => by cases l <;> rfl)).bind fun _ =>
    (looks_readRoom room).composed.bind fun r => ?_
  cases call with
  | none => exact .pure _
  | some write =>
    refine composed_runIf ((looks_readRoom room).composed.bind fun r' => ?_)
    cases r'.roomService with
    | owner => exact h write rfl r.roomId
    | unset => exact .throw _

theorem routine_addToList (l : RoomList) (privileged : ChatRoom → Bool) (duplicate : ChatResultCode)
    {persist : Option (UInt32 → UInt32 → Serve Unit)} (avatar : AvatarPtr)
    (h : ∀ write ∈ persist, ∀ avatarId roomId, Routine client powers (write avatarId roomId)) :
    Routine client powers (addToList l privileged duplicate persist room avatar) := by
  refine (looks_readRoom room).composed.bind fun r => composed_ite (.throw _) (composed_ite (.throw _) ?_)
  apply routine_storeRole
  intro write hwrite
  obtain ⟨write', hmem, rfl⟩ := Option.map_eq_some_iff.mp hwrite
  exact h write' hmem avatar.avatarId

theorem routine_removeFromList (l : RoomList) (privileged : ChatRoom → Bool) (absent : ChatResultCode)
    {delete : Option (UInt32 → UInt32 → Serve Unit)} (avatarId : UInt32)
    (h : ∀ write ∈ delete, ∀ avatarId roomId, Routine client powers (write avatarId roomId)) :
    Routine client powers (removeFromList l privileged absent delete room avatarId) := by
  refine (looks_readRoom room).composed.bind fun r => composed_ite (.throw _) (composed_ite (.throw _) ?_)
  apply routine_storeRole
  intro write hwrite
  obtain ⟨write', hmem, rfl⟩ := Option.map_eq_some_iff.mp hwrite
  exact h write' hmem avatarId

theorem routine_persistRole {table : RoleTable} {avatarId roomId : UInt32}
    (h : powers.executes Unit (.insertRole table avatarId roomId)) :
    Routine client powers (persistRole table avatarId roomId) :=
  routine_execute _ h

theorem routine_deleteRole {table : RoleTable} {avatarId roomId : UInt32}
    (h : powers.executes Unit (.deleteRole table avatarId roomId)) :
    Routine client powers (deleteRole table avatarId roomId) :=
  routine_execute _ h

section Operations
variable (srcAvatarId : UInt32)

theorem routine_addModerator (moderator : AvatarPtr)
    (h : ∀ avatarId roomId, powers.executes Unit (.insertRole .moderator avatarId roomId)) :
    Routine client powers (addModerator room srcAvatarId moderator) :=
  routine_addToList _ _ _ moderator (by rintro _ ⟨⟩ avatarId roomId; exact routine_persistRole (h avatarId roomId))

theorem routine_addBanned (banned : AvatarPtr)
    (h : ∀ avatarId roomId, powers.executes Unit (.insertRole .ban avatarId roomId)) :
    Routine client powers (addBanned room srcAvatarId banned) :=
  routine_addToList _ _ _ banned (by rintro _ ⟨⟩ avatarId roomId; exact routine_persistRole (h avatarId roomId))

theorem routine_addInvite (invited : AvatarPtr) :
    Routine client powers (addInvite room srcAvatarId invited) :=
  routine_addToList _ _ _ invited (by rintro _ ⟨⟩)

theorem routine_removeModerator (avatarId : UInt32)
    (h : ∀ avatarId roomId, powers.executes Unit (.deleteRole .moderator avatarId roomId)) :
    Routine client powers (removeModerator room srcAvatarId avatarId) :=
  routine_removeFromList _ _ _ avatarId (by rintro _ ⟨⟩ avatarId roomId; exact routine_deleteRole (h avatarId roomId))

theorem routine_removeBanned (avatarId : UInt32)
    (h : ∀ avatarId roomId, powers.executes Unit (.deleteRole .ban avatarId roomId)) :
    Routine client powers (removeBanned room srcAvatarId avatarId) :=
  routine_removeFromList _ _ _ avatarId (by rintro _ ⟨⟩ avatarId roomId; exact routine_deleteRole (h avatarId roomId))

theorem routine_removeInvite (avatarId : UInt32) :
    Routine client powers (removeInvite room srcAvatarId avatarId) :=
  routine_removeFromList _ _ _ avatarId (by rintro _ ⟨⟩)

end Operations

theorem routine_loadRoomsFromStorage (baseAddress : U16String) :
    Routine client powers (loadRoomsFromStorage baseAddress) := by
  refine Composed.bind (routine_rooms _ (fun _ => rfl) (fun _ => by rfl) (fun _ => by rfl)
    (.inl fun s r hr => absurd hr List.not_mem_nil)) fun _ => ?_
  refine (routine_select rfl).bind fun rows => composed_forM (fun row => ?_) rows
  refine .look _ (fun _ => rfl) fun _ => Composed.bind
    (routine_memory _ (fun _ => by rfl) (fun _ => by rfl) (fun _ => by rfl) (.inl fun _ => by rfl)) fun _ => ?_
  refine (looks_columnInt _).composed.bind fun _ => (looks_columnInt _).composed.bind fun _ => ?_
  refine (looks_columnInt _).composed.bind fun _ => (looks_columnInt _).composed.bind fun _ => ?_
  refine (looks_columnInt _).composed.bind fun _ => (looks_columnInt _).composed.bind fun _ => ?_
  refine (looks_columnInt _).composed.bind fun _ => .look _ (fun _ => rfl) fun _ => composed_ite (.pure _) ?_
  exact routine_rooms _ (fun _ => rfl) (fun _ => by rfl) (fun _ => by rfl) (.inl fun s => seated_append s rfl)

section Storing
variable (hinsert : ∀ columns, powers.executes Nat (.insertRoom columns))
include hinsert

theorem routine_persistNewRoom (room : RoomPtr) : Routine client powers (persistNewRoom room) := by
  refine .tryCatch ?_ fun e => ?_
  · refine (looks_readRoom room).composed.bind fun r => (routine_execute _ (hinsert _)).bind fun id => ?_
    exact (routine_writeRoom room (.inl fun _ => by rfl)).bind fun _ => .pure _
  · cases e <;> first | exact .pure _ | exact .throw _

theorem routine_createRoom (creator : Option AvatarPtr) (roomName roomTopic roomPassword : U16String)
    (roomAttributes maxRoomSize : UInt32) (roomAddress : U16String) : Routine client powers
      (createRoom creator roomName roomTopic roomPassword roomAttributes maxRoomSize roomAddress) := by
  refine .look _ (fun _ => rfl) fun _ => composed_ite (.throw _) (.look _ (fun _ => rfl) fun _ => ?_)
  refine Composed.bind
    (routine_memory _ (fun _ => by rfl) (fun _ => by rfl) (fun _ => by rfl) (.inl fun _ => by rfl)) fun _ => ?_
  refine (looks_deref creator).composed.bind fun creator => .look _ (fun _ => rfl) fun _ => Composed.bind
    (routine_rooms _ (fun _ => rfl) (fun _ => by rfl) (fun _ => by rfl) (.inl fun s => seated_append s rfl)) fun _ => ?_
  exact (composed_runIf ((routine_persistNewRoom hinsert _).bind fun _ => .pure _)).bind fun _ => .pure _

end Storing

/-- The rooms that an erase pass leaves, if it ends. -/
private def Server.erased (s : Server) (roomId : UInt32) (room : RoomPtr) : Server :=
  { s with rooms := (erasePass roomId room [] 0 false s.rooms).getD s.rooms }

private theorem seated_erased (s : Server) (roomId : UInt32) (room : RoomPtr) : Seated s (s.erased roomId room) := by
  intro r hr
  rw [Server.erased] at hr
  cases hpass : erasePass roomId room [] 0 false s.rooms with
  | none => exact .inr ⟨r, by simpa [hpass] using hr, rfl⟩
  | some rooms =>
    have hleft := erasePass_eq_some hpass
    refine .inr ⟨r, List.mem_of_mem_filter (p := (·.roomId != roomId)) ?_, rfl⟩
    simpa [hpass, hleft] using hr

/-- The pass is over the rooms of the state it is made in. -/
private theorem destroyRoom_eq (room : RoomPtr) : destroyRoom room = readRoom room >>= fun r =>
    runIf r.isPersistent (execute (.deleteRoom r.dbId)) >>= fun _ => get >>= fun s =>
      if (erasePass r.roomId room [] 0 false s.rooms).isSome then modify (·.erased r.roomId room)
      else throw .freedRoom := by
  rw [destroyRoom]
  congr 1
  funext r
  congr 1
  funext _ s
  rw [get_bind_run, get_bind_run]
  cases hpass : erasePass r.roomId room [] 0 false s.rooms with
  | none => rfl
  | some rooms =>
    change (Except.ok PUnit.unit, { s with rooms }) = (Except.ok PUnit.unit, s.erased r.roomId room)
    rw [Server.erased, hpass]
    rfl

theorem routine_destroyRoom (hdelete : ∀ id, powers.executes Unit (.deleteRoom id)) (room : RoomPtr) :
    Routine client powers (destroyRoom room) := by
  rw [destroyRoom_eq]
  refine (looks_readRoom room).composed.bind fun r => Composed.bind (composed_runIf (routine_execute _ (hdelete _))) fun _ => ?_
  refine .look _ (fun _ => rfl) fun s => composed_ite ?_ (.throw _)
  exact routine_rooms _ (fun _ => rfl) (fun _ => by rfl) (fun _ => by rfl) (.inl fun s => seated_erased s r.roomId room)

theorem routine_leaveJoinedRooms (hmoves : powers.moves)
    (htells : ∀ avatarId roomId, powers.tells (.leaveRoom avatarId roomId)) (avatar : Option AvatarPtr) :
    Routine client powers (Handler.leaveJoinedRooms avatar) := by
  refine (looks_getJoinedRooms avatar).composed.bind fun rooms => composed_forM (fun room => ?_) rooms
  refine (looks_readRoom room).composed.bind fun r => (looks_deref avatar).composed.bind fun a => ?_
  refine (routine_writeRoom room (.inr hmoves)).bind fun _ => (looks_readRoom room).composed.bind fun _ => ?_
  exact routine_sendLeaveRoomUpdate htells _ _ _

end Rooms
end StationChat
