import StationChat.Gateway.Outbox

/-! What the room service, the mail service and the notifications leave alone: the avatars, their
rows, their contacts and the response. -/
namespace StationChat
open Lib Lib.Action Lib.Contract

/-- Neither the avatars nor the response under way changed. -/
structure Aside (s t : Server) : Prop where
  avatarCache : t.avatarCache = s.avatarCache
  onlineAvatars : t.onlineAvatars = s.onlineAvatars
  objects : t.objects = s.objects
  response : t.response = s.response
  fails : t.fails = s.fails
  avatar : t.db.avatar = s.db.avatar
  nextAvatarId : t.db.nextAvatarId = s.db.nextAvatarId
  friend : t.db.friend = s.db.friend
  ignore : t.db.ignore = s.db.ignore

namespace Aside
variable {s t u : Server}

theorem refl (s : Server) : Aside s s := ⟨rfl, rfl, rfl, rfl, rfl, rfl, rfl, rfl, rfl⟩

theorem trans (h : Aside s t) (h' : Aside t u) : Aside s u where
  avatarCache := h'.avatarCache.trans h.avatarCache
  onlineAvatars := h'.onlineAvatars.trans h.onlineAvatars
  objects := h'.objects.trans h.objects
  response := h'.response.trans h.response
  fails := h'.fails.trans h.fails
  avatar := h'.avatar.trans h.avatar
  nextAvatarId := h'.nextAvatarId.trans h.nextAvatarId
  friend := h'.friend.trans h.friend
  ignore := h'.ignore.trans h.ignore

theorem of_posted (h : Posted s t) : Aside s t := by
  rw [h.rest]
  exact ⟨rfl, rfl, rfl, rfl, rfl, rfl, rfl, rfl, rfl⟩

end Aside

def aside : Contract Server Exn where
  inv _ := True
  step := Aside
  allowed _ := True
  refl := Aside.refl
  trans := Aside.trans

/-- Statements on other tables than those of the avatars and their contacts. -/
def Statement.Elsewhere {α : Type} (statement : Statement α) : Prop :=
  ∀ (db : Database) (a : α) (db' : Database), db.run statement = some (a, db') →
    db'.avatar = db.avatar ∧ db'.nextAvatarId = db.nextAvatarId ∧ db'.friend = db.friend ∧
      db'.ignore = db.ignore

section Statements

theorem elsewhere_select {α : Type} {statement : Statement α}
    (h : ∀ db : Database, ∃ a, db.run statement = some (a, db)) : statement.Elsewhere := by
  intro db a db' hrun
  obtain ⟨b, hb⟩ := h db
  obtain ⟨_, rfl⟩ := Prod.mk.inj (Option.some.inj (hb.symm.trans hrun))
  exact ⟨rfl, rfl, rfl, rfl⟩

theorem elsewhere_insertRoom (columns : RoomColumns) : (Statement.insertRoom columns).Elsewhere := by
  intro db a db' hrun
  simp only [Database.run, Database.insertRoom] at hrun
  split at hrun
  · exact absurd hrun (by simp)
  · obtain ⟨_, rfl⟩ := Prod.mk.inj (Option.some.inj hrun)
    exact ⟨rfl, rfl, rfl, rfl⟩

theorem elsewhere_deleteRoom (id : Int) : (Statement.deleteRoom id).Elsewhere := by
  intro db a db' hrun
  obtain ⟨_, rfl⟩ := Prod.mk.inj (Option.some.inj hrun)
  exact ⟨rfl, rfl, rfl, rfl⟩

theorem elsewhere_insertRole (table : RoleTable) (avatarId roomId : UInt32) :
    (Statement.insertRole table avatarId roomId).Elsewhere := by
  intro db a db' hrun
  obtain ⟨_, rfl⟩ := Prod.mk.inj (Option.some.inj hrun)
  simp only [Database.insertRole]
  split <;> exact ⟨rfl, rfl, rfl, rfl⟩

theorem elsewhere_deleteRole (table : RoleTable) (avatarId roomId : UInt32) :
    (Statement.deleteRole table avatarId roomId).Elsewhere := by
  intro db a db' hrun
  obtain ⟨_, rfl⟩ := Prod.mk.inj (Option.some.inj hrun)
  exact ⟨rfl, rfl, rfl, rfl⟩

theorem elsewhere_insertMessage (columns : MessageColumns) :
    (Statement.insertMessage columns).Elsewhere := by
  intro db a db' hrun
  simp only [Database.run, Database.insertMessage] at hrun
  split at hrun
  · exact absurd hrun (by simp)
  · obtain ⟨_, rfl⟩ := Prod.mk.inj (Option.some.inj hrun)
    exact ⟨rfl, rfl, rfl, rfl⟩

theorem elsewhere_updateStatus (status messageId avatarId : UInt32) :
    (Statement.updateStatus status messageId avatarId).Elsewhere := by
  intro db a db' hrun
  obtain ⟨_, rfl⟩ := Prod.mk.inj (Option.some.inj hrun)
  exact ⟨rfl, rfl, rfl, rfl⟩

theorem elsewhere_bulkUpdateStatus (status avatarId : UInt32) (category : StdString) :
    (Statement.bulkUpdateStatus status avatarId category).Elsewhere := by
  intro db a db' hrun
  obtain ⟨_, rfl⟩ := Prod.mk.inj (Option.some.inj hrun)
  exact ⟨rfl, rfl, rfl, rfl⟩

end Statements

section Steps
variable {s : Server} {room : RoomPtr}

theorem aside_still {α : Type} {x : Serve α} (h : Still x) :
    aside.Holds x s fun a t => t = s ∧ x s = (.ok a, s) :=
  holds_still h trivial fun _ _ _ => trivial

theorem aside_throw {α : Type} {e : Exn} {Q : α → Server → Prop} :
    aside.Holds (throw e : Serve α) s Q := holds_throw trivial trivial

theorem aside_posting {α : Type} {x : Serve α} {Q : α → Server → Prop} (h : posting.Holds x s Q) :
    aside.Holds x s Q :=
  h.weaken (fun _ _ _ => trivial) (fun _ _ hst => Aside.of_posted hst) fun _ _ => trivial

theorem aside_execute {α : Type} {statement : Statement α} (h : statement.Elsewhere) :
    aside.Holds (execute statement) s fun _ _ => True := by
  cases hrun : s.db.run statement with
  | none =>
    unfold Holds Ends
    rw [execute_failed (.inr hrun)]
    exact ⟨trivial, ⟨rfl, rfl, rfl, rfl, rfl, rfl, rfl, rfl, rfl⟩, trivial⟩
  | some result =>
    obtain ⟨a, db⟩ := result
    obtain ⟨havatar, hnext, hfriend, hignore⟩ := h s.db a db hrun
    by_cases hf : s.fails s.executed = true
    · unfold Holds Ends
      rw [execute_failed (.inl hf)]
      exact ⟨trivial, ⟨rfl, rfl, rfl, rfl, rfl, rfl, rfl, rfl, rfl⟩, trivial⟩
    · refine Ends.of_run (execute_ok (by simpa using hf) hrun) ?_
      exact ⟨trivial, ⟨rfl, rfl, rfl, rfl, rfl, havatar, hnext, hfriend, hignore⟩, trivial⟩

theorem aside_columnInt (n : Nat) : aside.Holds (columnInt n) s fun _ _ => True :=
  holds_ite (fun _ => holds_pure trivial trivial) fun _ => aside_throw

theorem aside_writeRoom (room : RoomPtr) (f : ChatRoom → ChatRoom) :
    aside.Holds (writeRoom room f) s fun _ _ => True :=
  (aside_still (still_readRoom room)).bind fun _ _ _ _ _ =>
    holds_modify trivial ⟨rfl, rfl, rfl, rfl, rfl, rfl, rfl, rfl, rfl⟩ trivial

theorem aside_changeRoom (room : RoomPtr) (f : ChatRoom → Except ChatResultCode ChatRoom) :
    aside.Holds (changeRoom room f) s fun _ _ => True := by
  refine (aside_still (still_readRoom room)).bind fun r _ _ _ _ => ?_
  cases f r with
  | ok r' => exact aside_writeRoom room _
  | error code => exact aside_throw

theorem aside_evaluatePolicyEvent (event : Policy.Event) :
    aside.Holds (evaluatePolicyEvent event) s fun _ _ => True :=
  holds_modify trivial ⟨rfl, rfl, rfl, rfl, rfl, rfl, rfl, rfl, rfl⟩ trivial

end Steps

section Rooms
variable {s : Server} {room : RoomPtr}

theorem aside_throughService {call : Serve Unit} (h : ∀ t, aside.Holds call t fun _ _ => True) :
    aside.Holds (throughService room call) s fun _ _ => True := by
  refine (aside_still (still_readRoom room)).bind fun r t _ _ _ => ?_
  cases r.roomService with
  | owner => exact h t
  | unset => exact aside_throw

theorem aside_storeRole (l : RoomList) (as : List AvatarPtr) {call : Option (UInt32 → Serve Unit)}
    (h : ∀ write ∈ call, ∀ roomId t, aside.Holds (write roomId) t fun _ _ => True) :
    aside.Holds (storeRole room l as call) s fun _ _ => True := by
  refine (aside_writeRoom room _).bind fun _ t _ _ _ => ?_
  refine (aside_still (still_readRoom room)).bind fun r u _ _ _ => ?_
  cases call with
  | some write => exact holds_runIf trivial fun _ => aside_throughService (h write rfl r.roomId)
  | none => exact holds_pure trivial trivial

private theorem aside_storeRoleOf (l : RoomList) (as : List AvatarPtr)
    {write : Option (UInt32 → UInt32 → Serve Unit)} (avatarId : UInt32)
    (h : ∀ f ∈ write, ∀ avatarId roomId t, aside.Holds (f avatarId roomId) t fun _ _ => True) :
    aside.Holds (storeRole room l as (write.map (· avatarId))) s fun _ _ => True := by
  apply aside_storeRole
  intro f hf
  obtain ⟨f', hmem, rfl⟩ := Option.map_eq_some_iff.mp hf
  exact h f' hmem avatarId

theorem aside_addToList (l : RoomList) (privileged : ChatRoom → Bool) (duplicate : ChatResultCode)
    {persist : Option (UInt32 → UInt32 → Serve Unit)} (avatar : AvatarPtr)
    (h : ∀ write ∈ persist, ∀ avatarId roomId t, aside.Holds (write avatarId roomId) t fun _ _ => True) :
    aside.Holds (addToList l privileged duplicate persist room avatar) s fun _ _ => True := by
  refine (aside_still (still_readRoom room)).bind fun r t _ _ _ => ?_
  apply holds_ite (fun _ => aside_throw) fun _ => ?_
  apply holds_ite (fun _ => aside_throw) fun _ => ?_
  exact aside_storeRoleOf l _ avatar.avatarId h

theorem aside_removeFromList (l : RoomList) (privileged : ChatRoom → Bool) (absent : ChatResultCode)
    {delete : Option (UInt32 → UInt32 → Serve Unit)} (avatarId : UInt32)
    (h : ∀ write ∈ delete, ∀ avatarId roomId t, aside.Holds (write avatarId roomId) t fun _ _ => True) :
    aside.Holds (removeFromList l privileged absent delete room avatarId) s fun _ _ => True := by
  refine (aside_still (still_readRoom room)).bind fun r t _ _ _ => ?_
  apply holds_ite (fun _ => aside_throw) fun _ => ?_
  apply holds_ite (fun _ => aside_throw) fun _ => ?_
  exact aside_storeRoleOf l _ avatarId h

theorem aside_persistRole (table : RoleTable) (avatarId roomId : UInt32) :
    aside.Holds (persistRole table avatarId roomId) s fun _ _ => True :=
  aside_execute (elsewhere_insertRole table avatarId roomId)

theorem aside_deleteRole (table : RoleTable) (avatarId roomId : UInt32) :
    aside.Holds (deleteRole table avatarId roomId) s fun _ _ => True :=
  aside_execute (elsewhere_deleteRole table avatarId roomId)

theorem aside_addBanned (srcAvatarId : UInt32) (banned : AvatarPtr) :
    aside.Holds (addBanned room srcAvatarId banned) s fun _ _ => True :=
  aside_addToList _ _ _ _ fun _ h _ _ _ => Option.some.inj h ▸ aside_persistRole _ _ _

theorem aside_addInvite (srcAvatarId : UInt32) (invited : AvatarPtr) :
    aside.Holds (addInvite room srcAvatarId invited) s fun _ _ => True :=
  aside_addToList _ _ _ _ fun _ h => absurd h (by simp)

theorem aside_addModerator (srcAvatarId : UInt32) (moderator : AvatarPtr) :
    aside.Holds (addModerator room srcAvatarId moderator) s fun _ _ => True :=
  aside_addToList _ _ _ _ fun _ h _ _ _ => Option.some.inj h ▸ aside_persistRole _ _ _

theorem aside_removeBanned (srcAvatarId avatarId : UInt32) :
    aside.Holds (removeBanned room srcAvatarId avatarId) s fun _ _ => True :=
  aside_removeFromList _ _ _ _ fun _ h _ _ _ => Option.some.inj h ▸ aside_deleteRole _ _ _

theorem aside_removeInvite (srcAvatarId avatarId : UInt32) :
    aside.Holds (removeInvite room srcAvatarId avatarId) s fun _ _ => True :=
  aside_removeFromList _ _ _ _ fun _ h => absurd h (by simp)

theorem aside_removeModerator (srcAvatarId avatarId : UInt32) :
    aside.Holds (removeModerator room srcAvatarId avatarId) s fun _ _ => True :=
  aside_removeFromList _ _ _ _ fun _ h _ _ _ => Option.some.inj h ▸ aside_deleteRole _ _ _

theorem aside_destroyRoom (room : RoomPtr) : aside.Holds (destroyRoom room) s fun _ _ => True := by
  refine (aside_still (still_readRoom room)).bind fun r t _ _ _ => ?_
  refine (holds_runIf trivial fun _ => aside_execute (elsewhere_deleteRoom r.dbId)).bind fun _ u _ _ _ => ?_
  apply holds_get_bind
  cases erasePass r.roomId room [] 0 false u.rooms with
  | some rooms => exact holds_modify trivial ⟨rfl, rfl, rfl, rfl, rfl, rfl, rfl, rfl, rfl⟩ trivial
  | none => exact aside_throw

theorem aside_loadRoomRow (row : RoomRow) : aside.Holds (loadRoomRow row) s fun _ _ => True := by
  refine holds_get_bind (holds_modify_bind trivial ⟨rfl, rfl, rfl, rfl, rfl, rfl, rfl, rfl, rfl⟩ ?_)
  refine (aside_columnInt row.id).bind fun _ _ _ _ _ => ?_
  refine (aside_columnInt row.creatorId).bind fun _ _ _ _ _ => ?_
  refine (aside_columnInt row.roomAttributes).bind fun _ _ _ _ _ => ?_
  refine (aside_columnInt row.roomMaxSize).bind fun _ _ _ _ _ => ?_
  refine (aside_columnInt row.roomMessageId).bind fun _ _ _ _ _ => ?_
  refine (aside_columnInt row.createdAt).bind fun _ _ _ _ _ => ?_
  refine (aside_columnInt row.nodeLevel).bind fun _ t _ _ _ => ?_
  apply holds_get_bind
  apply holds_ite
  · exact fun _ => holds_pure trivial trivial
  · exact fun _ => holds_modify trivial ⟨rfl, rfl, rfl, rfl, rfl, rfl, rfl, rfl, rfl⟩ trivial

theorem aside_loadRoomsFromStorage (baseAddress : U16String) :
    aside.Holds (loadRoomsFromStorage baseAddress) s fun _ _ => True := by
  refine holds_modify_bind trivial ⟨rfl, rfl, rfl, rfl, rfl, rfl, rfl, rfl, rfl⟩ ?_
  refine (aside_execute (elsewhere_select fun _ => ⟨_, rfl⟩)).bind fun rows t _ _ _ => ?_
  exact holds_forM rows trivial fun row _ _ _ _ => aside_loadRoomRow row

theorem aside_persistNewRoom (room : RoomPtr) : aside.Holds (persistNewRoom room) s fun _ _ => True := by
  apply holds_tryCatch (D := aside) (Q := fun _ _ => True)
  · refine (aside_still (still_readRoom room)).bind fun r t _ _ _ => ?_
    refine (aside_execute (elsewhere_insertRoom _)).bind fun id u _ _ _ => ?_
    exact (aside_writeRoom room _).bind fun _ _ _ _ _ => holds_pure trivial trivial
  · exact fun _ h => h
  · exact fun _ _ _ _ _ => ⟨trivial, trivial⟩
  · intro e t _ _ _
    cases e <;> first | exact holds_pure trivial trivial | exact aside_throw

theorem aside_createRoom (creator : Option AvatarPtr) (roomName roomTopic roomPassword : U16String)
    (roomAttributes maxRoomSize : UInt32) (roomAddress : U16String) :
    aside.Holds (createRoom creator roomName roomTopic roomPassword roomAttributes maxRoomSize roomAddress) s
      fun _ _ => True := by
  apply holds_get_bind
  apply holds_ite
  · exact fun _ => aside_throw
  intro _
  refine holds_get_bind (holds_modify_bind trivial ⟨rfl, rfl, rfl, rfl, rfl, rfl, rfl, rfl, rfl⟩ ?_)
  refine (aside_still (still_deref creator)).bind fun creator t _ _ _ => ?_
  refine holds_get_bind (holds_modify_bind trivial ⟨rfl, rfl, rfl, rfl, rfl, rfl, rfl, rfl, rfl⟩ ?_)
  refine (holds_runIf trivial fun _ => ?_).bind fun _ _ _ _ _ => holds_pure trivial trivial
  exact (aside_persistNewRoom _).bind fun _ _ _ _ _ => holds_pure trivial trivial

theorem still_getJoinedRooms (avatar : Option AvatarPtr) : Still (getJoinedRooms avatar) := by
  refine still_get.bind fun u => still_ite (still_pure _) ?_
  exact (still_deref avatar).bind fun _ => still_get.bind fun _ => still_pure _

theorem aside_leaveJoinedRooms (avatar : Option AvatarPtr) :
    aside.Holds (Handler.leaveJoinedRooms avatar) s fun _ _ => True := by
  refine (aside_still (still_getJoinedRooms avatar)).bind fun rooms t _ _ _ => ?_
  refine holds_forM rooms trivial fun room _ _ _ _ => ?_
  refine (aside_still (still_readRoom room)).bind fun r _ _ _ _ => ?_
  refine (aside_still (still_deref avatar)).bind fun a _ _ _ _ => ?_
  refine (aside_writeRoom room _).bind fun _ _ _ _ _ => ?_
  refine (aside_still (still_readRoom room)).bind fun r' _ _ _ _ => ?_
  exact aside_posting (posting_sendLeaveRoomUpdate _ _ _)

theorem aside_registerClientAddress (address : U16String) (client : ClientId) :
    aside.Holds (registerClientAddress address client) s fun _ _ => True :=
  holds_modify trivial ⟨rfl, rfl, rfl, rfl, rfl, rfl, rfl, rfl, rfl⟩ trivial

theorem aside_welcome (client : ClientId) (avatar : AvatarPtr) (address : U16String) :
    aside.Holds (Handler.welcome client avatar address) s fun _ _ => True := by
  apply holds_ite
  · exact fun _ => (aside_registerClientAddress _ _).bind fun _ _ _ _ _ => aside_loadRoomsFromStorage address
  · exact fun _ => aside_posting (posting_sendFriendLoginUpdates client avatar)

end Rooms

section Mail
variable {s : Server}

theorem aside_storeMessage (message : PersistentMessage) :
    aside.Holds (storeMessage message) s fun _ _ => True :=
  (aside_execute (elsewhere_insertMessage _)).bind fun _ _ _ _ _ => holds_pure trivial trivial

theorem still_columnInt (n : Nat) : Still (columnInt n) := still_ite (still_pure _) (still_throw _)

theorem still_readHeader (row : MessageRow) : Still (readHeader row) :=
  (still_columnInt _).bind fun _ => (still_columnInt _).bind fun _ => (still_columnInt _).bind fun _ =>
    (still_columnInt _).bind fun _ => still_pure _

theorem aside_getMessageHeaders (avatarId : UInt32) :
    aside.Holds (getMessageHeaders avatarId) s fun _ _ => True := by
  refine (aside_execute (elsewhere_select fun _ => ⟨_, rfl⟩)).bind fun rows t _ _ _ => ?_
  exact (aside_still (still_mapM still_readHeader rows)).mono fun _ _ _ _ _ => trivial

theorem still_readMessage (avatarId messageId : UInt32) (row : MessageRow) :
    Still (readMessage avatarId messageId row) := by
  refine (still_columnInt _).bind fun _ => (still_columnInt _).bind fun _ => ?_
  cases oobUnits row.oob with
  | none => exact still_throw _
  | some oob => exact still_pure _

theorem aside_getPersistentMessage (avatarId messageId : UInt32) :
    aside.Holds (getPersistentMessage avatarId messageId) s fun _ _ => True := by
  refine (aside_execute (elsewhere_select fun _ => ⟨_, rfl⟩)).bind fun rows t _ _ _ => ?_
  cases rows with
  | nil => exact aside_throw
  | cons row rest =>
    refine (aside_still (still_readMessage avatarId messageId row)).bind fun message _ _ _ _ => ?_
    refine (holds_runIf trivial fun _ => ?_).bind fun _ _ _ _ _ => holds_pure trivial trivial
    exact aside_execute (elsewhere_updateStatus _ _ _)

end Mail
end StationChat
