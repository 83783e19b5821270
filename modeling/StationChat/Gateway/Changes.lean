import StationChat.Gateway.Aside
import StationChat.Gateway.Lookup
import StationChat.Lib.Changes
import StationChat.Rooms.Frame

/-! Every request as a sequence of elementary changes of the server. What each of these keeps, every
request keeps. -/
namespace StationChat
open Lib Lib.Action Relation

/-- The statements that add or remove a row of `room`. -/
def Statement.housing {α : Type} : Statement α → Bool
  | .insertRoom _ | .deleteRoom _ => true
  | _ => false

/-- A ROOMMESSAGE. -/
def Outgoing.speaking : Outgoing → Bool
  | .notify (.roomMessage ..) => true
  | _ => false

/-- One elementary change. Only with `housing` are rooms loaded, added or removed; only with
`speaking` is a message counted and sent to a room; only with `presence` does an avatar come online or
go offline. -/
inductive Change (housing speaking presence : Prop) (s : Server) : Server → Prop
  | failed {α : Type} (statement : Statement α)
      (h : s.fails s.executed = true ∨ s.db.run statement = none) :
      Change housing speaking presence s { s.attempt statement with failures := s.failures + 1 }
  | answered {α : Type} (statement : Statement α) (a : α) (db : Database)
      (hf : s.fails s.executed = false) (hrun : s.db.run statement = some (a, db))
      (h : statement.housing = true → housing) :
      Change housing speaking presence s { s.attempt statement with db }
  | object : Change housing speaking presence s { s with objects := s.objects + 1 }
  | cached (avatar : ChatAvatar) (h : avatar.isOnline = false) :
      Change housing speaking presence s (s.cached avatar)
  | avatar (p : AvatarPtr) (f : ChatAvatar → ChatAvatar) (hself : ∀ a, (f a).self = a.self)
      (h : (∀ a, (f a).isOnline = a.isOnline) ∨ presence) :
      Change housing speaking presence s (s.updateAvatar p f)
  | online (onlineAvatars : List AvatarPtr) (h : presence) :
      Change housing speaking presence s { s with onlineAvatars }
  | lists (room : RoomPtr) (f : ChatRoom → ChatRoom)
      (hf : ∀ r, s.rooms[room]? = some r →
        (f r).identity = r.identity ∧ (f r).roomMessageId = r.roomMessageId) :
      Change housing speaking presence s (s.updateRoom room f)
  | counter (room : RoomPtr) (h : speaking) :
      Change housing speaking presence s
        (s.updateRoom room fun r => { r with roomMessageId := r.roomMessageId + 1 })
  | rooms (rooms : List ChatRoom) (nextRoomId : UInt32) (h : housing) :
      Change housing speaking presence s { s with rooms, nextRoomId }
  | registered (address : U16String) (client : ClientId) :
      Change housing speaking presence s
        { s with clientAddressMap := Function.update s.clientAddressMap address (some client) }
  | sent (client : ClientId) (message : Outgoing) (h : message.speaking = true → speaking) :
      Change housing speaking presence s { s with sent := s.sent ++ [(client, message)] }
  | response (response : Response) : Change housing speaking presence s { s with response }
  | recentActions (recentActions : Policy.RecentActions) :
      Change housing speaking presence s { s with recentActions }

variable {housing speaking presence : Prop} {s t : Server}

theorem Change.mono {housing' speaking' presence' : Prop} (h : Change housing speaking presence s t)
    (hhousing : housing → housing') (hspeaking : speaking → speaking') (hpresence : presence → presence') :
    Change housing' speaking' presence' s t := by
  cases h with
  | failed statement h => exact .failed statement h
  | answered statement a db hf hrun h => exact .answered statement a db hf hrun fun hs => hhousing (h hs)
  | object => exact .object
  | cached avatar h => exact .cached avatar h
  | avatar p f hself h => exact .avatar p f hself (h.imp_right hpresence)
  | online onlineAvatars h => exact .online onlineAvatars (hpresence h)
  | lists room f hf => exact .lists room f hf
  | counter room h => exact .counter room (hspeaking h)
  | rooms rooms nextRoomId h => exact .rooms rooms nextRoomId (hhousing h)
  | registered address client => exact .registered address client
  | sent client message h => exact .sent client message fun hm => hspeaking (h hm)
  | response response => exact .response response
  | recentActions recentActions => exact .recentActions recentActions

section Steps

/-- A statement changes the tables and what is counted of statements. -/
theorem makes_execute_of {α : Type} {R : Server → Server → Prop} (statement : Statement α)
    (h : ∀ (s : Server) db failures, R s { s.attempt statement with db, failures }) :
    (execute statement).Makes R := by
  intro s
  rcases execute_cases statement s with ⟨-, hrun⟩ | ⟨_, db, -, hrun⟩ <;> rw [hrun]
  · exact .single (h s (s.attempt statement).db _)
  · exact .single (h s db (s.attempt statement).failures)

theorem makes_execute {α : Type} (statement : Statement α) (h : statement.housing = true → housing) :
    (execute statement).Makes (Change housing speaking presence) := by
  intro s
  rcases execute_cases statement s with ⟨hfailed, hrun⟩ | ⟨a, db, ⟨hf, hdb⟩, hrun⟩ <;> rw [hrun]
  · exact .single (.failed statement hfailed)
  · exact .single (.answered statement a db hf hdb h)

theorem makes_writeAvatar (p : AvatarPtr) {f : ChatAvatar → ChatAvatar}
    (hself : ∀ a, (f a).self = a.self) (h : (∀ a, (f a).isOnline = a.isOnline) ∨ presence) :
    (writeAvatar p f).Makes (Change housing speaking presence) :=
  (still_readAvatar p).makes.bind fun _ => makes_modify fun _ => .avatar p f hself h

theorem makes_writeRoom (room : RoomPtr) {f : ChatRoom → ChatRoom}
    (hf : ∀ r, (f r).identity = r.identity ∧ (f r).roomMessageId = r.roomMessageId) :
    (writeRoom room f).Makes (Change housing speaking presence) :=
  (still_readRoom room).makes.bind fun _ => makes_modify fun _ => .lists room f fun r _ => hf r

theorem makes_changeRoom (room : RoomPtr) {f : ChatRoom → Except ChatResultCode ChatRoom}
    (hf : ∀ r r', f r = .ok r' → r'.identity = r.identity ∧ r'.roomMessageId = r.roomMessageId) :
    (changeRoom room f).Makes (Change housing speaking presence) := by
  intro s
  cases hr : s.rooms[room]? with
  | none =>
    rw [changeRoom, bind_error (readRoom_none hr)]
  | some r =>
    rw [changeRoom, bind_ok (readRoom_of_getElem? hr)]
    cases hok : f r with
    | error code => exact .refl
    | ok r' =>
      dsimp only
      rw [writeRoom_of_getElem? hr]
      refine .single (.lists room _ fun r'' hr'' => ?_)
      obtain rfl := Option.some.inj (hr.symm.trans hr'')
      exact hf r r' hok

theorem makes_setResponse (f : Response → Response) :
    (setResponse f).Makes (Change housing speaking presence) :=
  makes_modify fun s => .response (f s.response)

theorem makes_evaluatePolicyEvent (event : Policy.Event) :
    (evaluatePolicyEvent event).Makes (Change housing speaking presence) :=
  makes_modify fun _ => .recentActions _

end Steps

section Sending

theorem makes_send (client : ClientId) {message : Outgoing}
    (h : message.speaking = true → speaking) : (send client message).Makes (Change housing speaking presence) :=
  makes_modify fun _ => .sent client message h

/-- The notification is only built for a client that gets it. -/
theorem makes_sendTo_of {R : Server → Server → Prop} {Q : Notification → Prop} (address : U16String)
    {message : Serve Notification} (hstill : Still message) (hQ : message.Returns Q)
    (hsend : ∀ client m, Q m → (send client (.notify m)).Makes R) : (sendTo address message).Makes R := by
  intro s
  rw [sendTo, get_bind_run]
  cases s.clientAddressMap address with
  | none => exact .refl
  | some client =>
    dsimp only
    split
    · refine changes_bind (hstill.makes s) fun m t hrun => ?_
      exact hsend client m (hQ s m t hrun) t
    · exact .refl

theorem makes_sendTo (address : U16String) {message : Serve Notification} (hstill : Still message)
    (h : message.Returns fun m => (Outgoing.notify m).speaking = true → speaking) :
    (sendTo address message).Makes (Change housing speaking presence) :=
  makes_sendTo_of address hstill h fun client _ hm => makes_send client hm

private theorem returns_message {avatar : AvatarPtr} {f : ChatAvatar → Notification}
    (hf : ∀ a, (Outgoing.notify (f a)).speaking = false) :
    (do pure (f (← readAvatar avatar)) : Serve Notification).Returns
      fun m => (Outgoing.notify m).speaking = true → speaking :=
  returns_bind fun a => returns_pure fun h => absurd (hf a) (by simp [h])

private theorem makes_sendAbout (address : U16String) (avatar : AvatarPtr) {f : ChatAvatar → Notification}
    (hf : ∀ a, (Outgoing.notify (f a)).speaking = false) :
    (sendTo address (do pure (f (← readAvatar avatar)))).Makes (Change housing speaking presence) :=
  makes_sendTo address (still_message avatar f) (returns_message hf)

private theorem returns_friendLogin (avatar : AvatarPtr) (destAvatarId : UInt32) :
    (friendLogin avatar destAvatarId).Returns
      fun m => (Outgoing.notify m).speaking = true → speaking :=
  returns_message fun _ => rfl

theorem makes_sendFriendLoginUpdate (srcAvatar destAvatar : AvatarPtr) :
    (sendFriendLoginUpdate srcAvatar destAvatar).Makes (Change housing speaking presence) :=
  (still_friendLogin _ _).makes.bind_returns (returns_friendLogin _ _) fun m hm =>
    makes_sendTo _ (still_pure m) (returns_pure hm)

theorem makes_sendFriendLoginUpdates (client : ClientId) (avatar : AvatarPtr) :
    (sendFriendLoginUpdates client avatar).Makes (Change housing speaking presence) := by
  refine makes_get.bind fun u => (makes_forM (fun onlineAvatar => ?_) _).bind fun _ => ?_
  · exact (still_isFriend _ _).makes.bind fun _ => makes_runIf (makes_sendFriendLoginUpdate _ _)
  · refine (still_readAvatar _).makes.bind fun a => makes_forM (fun contact => ?_) _
    refine (still_deref _).makes.bind fun frnd => (still_readAvatar _).makes.bind fun f => makes_runIf ?_
    exact (still_friendLogin _ _).makes.bind_returns (returns_friendLogin _ _) fun m hm =>
      makes_send client hm

theorem makes_sendFriendLogoutUpdates (avatar : Option AvatarPtr) :
    (sendFriendLogoutUpdates avatar).Makes (Change housing speaking presence) := by
  refine makes_get.bind fun u => makes_forM (fun onlineAvatar => ?_) _
  refine (still_isFriend _ _).makes.bind fun _ => makes_runIf ?_
  exact (still_deref _).makes.bind fun a => makes_sendAbout _ a fun _ => rfl

theorem makes_sendDestroyRoomUpdate (srcAvatar : AvatarPtr) (roomId : UInt32)
    (targets : List U16String) :
    (sendDestroyRoomUpdate srcAvatar roomId targets).Makes (Change housing speaking presence) :=
  makes_forM (fun _ => makes_sendAbout _ srcAvatar fun _ => rfl) targets

theorem makes_sendInstantMessageUpdate (srcAvatar destAvatar : AvatarPtr) (message oob : U16String) :
    (sendInstantMessageUpdate srcAvatar destAvatar message oob).Makes (Change housing speaking presence) :=
  makes_sendAbout _ srcAvatar fun _ => rfl

theorem makes_sendEnterRoomUpdate (srcAvatar : AvatarPtr) (room : RoomPtr) :
    (sendEnterRoomUpdate srcAvatar room).Makes (Change housing speaking presence) :=
  (still_readRoom room).makes.bind fun _ =>
    makes_forM (fun _ => makes_sendAbout _ srcAvatar fun _ => rfl) _

theorem makes_sendLeaveRoomUpdate (addresses : List U16String) (srcAvatarId roomId : UInt32) :
    (sendLeaveRoomUpdate addresses srcAvatarId roomId).Makes (Change housing speaking presence) :=
  makes_forM (fun _ => makes_sendTo _ (still_pure _) (returns_pure fun h =>
    absurd h (by simp [Outgoing.speaking]))) addresses

theorem makes_sendPersistentMessageUpdate (destAvatar : Option AvatarPtr) (header : PersistentHeader) :
    (sendPersistentMessageUpdate destAvatar header).Makes (Change housing speaking presence) := by
  cases destAvatar with
  | none => exact makes_pure _
  | some dest =>
    exact makes_sendTo _ (still_pure _) (returns_pure fun h => absurd h (by simp [Outgoing.speaking]))

theorem makes_sendKickAvatarUpdate (addresses : List U16String) (srcAvatar destAvatar : AvatarPtr)
    (room : RoomPtr) :
    (sendKickAvatarUpdate addresses srcAvatar destAvatar room).Makes (Change housing speaking presence) := by
  refine makes_forM (fun address => (still_readRoom room).makes.bind fun r => ?_) addresses
  refine makes_sendTo address ?_ (returns_bind fun a => returns_message fun _ => rfl)
  exact (still_readAvatar srcAvatar).bind fun _ => still_message destAvatar _

/-- The messages to a room. -/
theorem makes_sendRoomMessageUpdate (hspeaking : speaking) (srcAvatar : AvatarPtr) (room : RoomPtr)
    (messageId : UInt32) (message oob : U16String) :
    (sendRoomMessageUpdate srcAvatar room messageId message oob).Makes (Change housing speaking presence) := by
  refine (still_readRoom room).makes.bind fun _ => makes_forM (fun address => ?_) _
  refine (still_readRoom room).makes.bind fun r => (still_getAvatarIds r srcAvatar).makes.bind fun l => ?_
  exact makes_sendTo address (still_message srcAvatar _) (returns_bind fun _ => returns_pure fun _ => hspeaking)

end Sending

/-- The kinds of change that looking avatars up, creating them and keeping their contacts amounts to. -/
structure AvatarChanges (R : Server → Server → Prop) : Prop where
  execute {α : Type} (statement : Statement α) :
    statement.housing = false → (execute statement).Makes R
  object (s : Server) : R s { s with objects := s.objects + 1 }
  cached (s : Server) (avatar : ChatAvatar) : avatar.isOnline = false → R s (s.cached avatar)
  write (p : AvatarPtr) (f : ChatAvatar → ChatAvatar) : (∀ a, (f a).self = a.self) →
    (∀ a, (f a).isOnline = a.isOnline) → (writeAvatar p f).Makes R

namespace AvatarChanges
variable {R : Server → Server → Prop}

private theorem returns_readAvatarRow (rows : List AvatarRow) :
    (readAvatarRow rows).Returns fun loaded => ∀ avatar ∈ loaded, avatar.isOnline = false := by
  cases rows with
  | nil => exact returns_pure (by simp)
  | cons row rest =>
    refine returns_bind fun obj => returns_bind fun _ => returns_bind fun _ => returns_bind fun _ => ?_
    apply returns_pure
    rintro _ ⟨⟩
    rfl

private theorem makes_newObject (h : AvatarChanges R) : newObject.Makes R :=
  makes_get.bind fun _ => (makes_modify h.object).bind fun _ => makes_pure _

private theorem makes_readAvatarRow (h : AvatarChanges R) (rows : List AvatarRow) :
    (readAvatarRow rows).Makes R := by
  cases rows with
  | nil => exact makes_pure _
  | cons row rest =>
    refine h.makes_newObject.bind fun obj => ?_
    refine (still_columnInt _).makes.bind fun _ => (still_columnInt _).makes.bind fun _ => ?_
    exact (still_columnInt _).makes.bind fun _ => makes_pure _

private theorem makes_loadContacts (h : AvatarChanges R) {getAvatar : UInt32 → Serve (Option AvatarPtr)} {ρ : Type}
    {key : ρ → Nat} {push : ρ → Option AvatarPtr → ChatAvatar → ChatAvatar} (avatar : AvatarPtr) (rows : List ρ)
    (hself : ∀ row contact a, (push row contact a).self = a.self)
    (honline : ∀ row contact a, (push row contact a).isOnline = a.isOnline)
    (hget : ∀ id, (getAvatar id).Makes R) : (loadContacts getAvatar key push avatar rows).Makes R :=
  makes_forM (fun _ => (still_columnInt _).makes.bind fun _ => (hget _).bind fun _ =>
    h.write avatar _ (hself _ _) (honline _ _)) rows

private theorem makes_adopt (h : AvatarChanges R) {getAvatar : UInt32 → Serve (Option AvatarPtr)}
    {loaded : Option ChatAvatar} (hloaded : ∀ avatar ∈ loaded, avatar.isOnline = false)
    (hget : ∀ id, (getAvatar id).Makes R) : (adopt getAvatar loaded).Makes R := by
  cases loaded with
  | none => exact makes_pure _
  | some avatar =>
    refine (makes_modify fun s => h.cached s avatar (hloaded avatar rfl)).bind fun _ => ?_
    refine Makes.bind ?_ fun _ => Makes.bind ?_ fun _ => makes_pure _
    · exact (h.execute _ rfl).bind fun rows =>
        h.makes_loadContacts _ rows (fun _ _ _ => rfl) (fun _ _ _ => rfl) hget
    · exact (h.execute _ rfl).bind fun rows =>
        h.makes_loadContacts _ rows (fun _ _ _ => rfl) (fun _ _ _ => rfl) hget

private theorem makes_getAvatarWithin (h : AvatarChanges R) (fuel : Nat) (avatarId : UInt32) :
    (getAvatarWithin fuel avatarId).Makes R := by
  induction fuel generalizing avatarId with
  | zero => exact makes_throw _
  | succ fuel ih =>
    refine Makes.bind (makes_get.bind fun _ => makes_pure _) fun cached => ?_
    cases cached with
    | some p => exact makes_pure _
    | none =>
      refine Makes.bind_returns ?_ (returns_bind fun _ => returns_readAvatarRow _) fun loaded hloaded =>
        h.makes_adopt hloaded ih
      exact (h.execute _ rfl).bind fun rows => h.makes_readAvatarRow rows

theorem makes_getAvatarById (h : AvatarChanges R) (avatarId : UInt32) : (getAvatarById avatarId).Makes R :=
  makes_get.bind fun _ => h.makes_getAvatarWithin _ avatarId

theorem makes_getAvatar (h : AvatarChanges R) (name address : U16String) : (getAvatar name address).Makes R := by
  refine Makes.bind (makes_get.bind fun _ => makes_pure _) fun cached => ?_
  cases cached with
  | some p => exact makes_pure _
  | none =>
    refine Makes.bind_returns ?_ (returns_bind fun _ => returns_readAvatarRow _) fun loaded hloaded =>
      h.makes_adopt hloaded h.makes_getAvatarById
    exact (h.execute _ rfl).bind fun rows => h.makes_readAvatarRow rows

theorem makes_requireSrcAvatar (h : AvatarChanges R) (srcAvatarId : UInt32) :
    (requireSrcAvatar srcAvatarId).Makes R := by
  refine (h.makes_getAvatarById srcAvatarId).bind fun avatar => ?_
  cases avatar with
  | some avatar => exact makes_pure _
  | none => exact makes_throw _

theorem makes_requireDestAvatar (h : AvatarChanges R) (destName destAddress : U16String) :
    (requireDestAvatar destName destAddress).Makes R := by
  refine (h.makes_getAvatar destName destAddress).bind fun avatar => ?_
  cases avatar with
  | some avatar => exact makes_pure _
  | none => exact makes_throw _

theorem makes_createAvatar (h : AvatarChanges R) (name address : U16String) (userId loginAttributes : UInt32)
    (loginLocation : U16String) :
    (createAvatar name address userId loginAttributes loginLocation).Makes R := by
  refine h.makes_newObject.bind fun obj => (h.execute _ rfl).bind fun id => ?_
  exact (makes_modify fun s => h.cached s _ rfl).bind fun _ => makes_pure _

theorem makes_persistAvatar (h : AvatarChanges R) (avatar : AvatarPtr) : (persistAvatar avatar).Makes R :=
  (still_readAvatar avatar).makes.bind fun _ => h.execute _ rfl

theorem makes_removeFriend (h : AvatarChanges R) (self : AvatarPtr) (avatar : Option AvatarPtr) :
    (removeFriend self avatar).Makes R := by
  refine (still_readAvatar self).makes.bind fun a => ?_
  refine (still_removeIf (fun c => still_sameAvatar _ _) _).makes.bind fun kept => ?_
  refine makes_ite ?_ (makes_pure _)
  refine (h.write self _ (fun _ => by rfl) fun _ => by rfl).bind fun _ => (still_deref avatar).makes.bind fun b => ?_
  exact h.execute _ rfl

theorem makes_removeIgnore (h : AvatarChanges R) (self : AvatarPtr) (avatar : Option AvatarPtr) :
    (removeIgnore self avatar).Makes R := by
  refine (still_readAvatar self).makes.bind fun a => ?_
  refine (still_removeIf (fun c => still_sameAvatar _ _) _).makes.bind fun kept => ?_
  refine makes_ite ?_ (makes_pure _)
  refine (h.write self _ (fun _ => by rfl) fun _ => by rfl).bind fun _ => (still_deref avatar).makes.bind fun b => ?_
  exact h.execute _ rfl

theorem makes_addFriend (h : AvatarChanges R) (self : AvatarPtr) (avatar : Option AvatarPtr) (comment : U16String) :
    (addFriend self avatar comment).Makes R := by
  refine (still_isFriend self avatar).makes.bind fun b => makes_ite (makes_pure _) ?_
  refine (still_isIgnored self avatar).makes.bind fun ignored => ?_
  refine (makes_runIf (h.makes_removeIgnore self avatar)).bind fun _ => ?_
  refine (h.write self _ (fun _ => by rfl) fun _ => by rfl).bind fun _ => (still_deref avatar).makes.bind fun b => ?_
  exact h.execute _ rfl

theorem makes_addIgnore (h : AvatarChanges R) (self : AvatarPtr) (avatar : Option AvatarPtr) :
    (addIgnore self avatar).Makes R := by
  refine (still_isIgnored self avatar).makes.bind fun b => makes_ite (makes_pure _) ?_
  refine (still_isFriend self avatar).makes.bind fun friendly => ?_
  refine (makes_runIf (h.makes_removeFriend self avatar)).bind fun _ => ?_
  refine (h.write self _ (fun _ => by rfl) fun _ => by rfl).bind fun _ => (still_deref avatar).makes.bind fun b => ?_
  exact h.execute _ rfl

end AvatarChanges

section Avatars

theorem avatarChanges_change : AvatarChanges (Change housing speaking presence) where
  execute statement h := makes_execute statement fun hhousing => absurd hhousing (by simp [h])
  object _ := .object
  cached _ avatar h := .cached avatar h
  write p _ hself honline := makes_writeAvatar p hself (.inl honline)

theorem makes_getAvatarById (avatarId : UInt32) :
    (getAvatarById avatarId).Makes (Change housing speaking presence) :=
  avatarChanges_change.makes_getAvatarById avatarId

theorem makes_getAvatar (name address : U16String) :
    (getAvatar name address).Makes (Change housing speaking presence) :=
  avatarChanges_change.makes_getAvatar name address

theorem makes_requireSrcAvatar (srcAvatarId : UInt32) :
    (requireSrcAvatar srcAvatarId).Makes (Change housing speaking presence) :=
  avatarChanges_change.makes_requireSrcAvatar srcAvatarId

theorem makes_requireDestAvatar (destName destAddress : U16String) :
    (requireDestAvatar destName destAddress).Makes (Change housing speaking presence) :=
  avatarChanges_change.makes_requireDestAvatar destName destAddress

theorem makes_loginAvatar (hpresence : presence) (avatar : AvatarPtr) :
    (loginAvatar avatar).Makes (Change housing speaking presence) := by
  refine (makes_writeAvatar avatar (fun _ => by rfl) (.inr hpresence)).bind fun _ => ?_
  refine Makes.bind (makes_get.bind fun _ => makes_pure _) fun online => ?_
  exact makes_ite (makes_pure _) (makes_modify fun _ => .online _ hpresence)

theorem makes_logoutAvatar (hpresence : presence) (avatar : Option AvatarPtr) :
    (logoutAvatar avatar).Makes (Change housing speaking presence) := by
  refine (still_deref avatar).makes.bind fun p => (still_readAvatar p).makes.bind fun a => ?_
  refine makes_ite ?_ (makes_pure _)
  exact (makes_writeAvatar p (fun _ => by rfl) (.inr hpresence)).bind fun _ => makes_modify fun _ => .online _ hpresence

end Avatars

section Rooms
variable {room : RoomPtr}

private theorem makes_setList (room : RoomPtr) (l : RoomList) (as : List AvatarPtr) :
    (writeRoom room (·.setList l as)).Makes (Change housing speaking presence) :=
  makes_writeRoom room fun r => ⟨r.identity_setList l as, by cases l <;> rfl⟩

theorem makes_storeRole (l : RoomList) (as : List AvatarPtr) {call : Option (UInt32 → Serve Unit)}
    (h : ∀ write ∈ call, ∀ roomId, (write roomId).Makes (Change housing speaking presence)) :
    (storeRole room l as call).Makes (Change housing speaking presence) := by
  refine (makes_setList room l as).bind fun _ => (still_readRoom room).makes.bind fun r => ?_
  cases call with
  | none => exact makes_pure _
  | some write =>
    refine makes_runIf ((still_readRoom room).makes.bind fun r' => ?_)
    cases r'.roomService with
    | owner => exact h write rfl r.roomId
    | unset => exact makes_throw _

theorem makes_addToList (l : RoomList) (privileged : ChatRoom → Bool) (duplicate : ChatResultCode)
    {persist : Option (UInt32 → UInt32 → Serve Unit)} (avatar : AvatarPtr)
    (h : ∀ write ∈ persist, ∀ avatarId roomId, (write avatarId roomId).Makes (Change housing speaking presence)) :
    (addToList l privileged duplicate persist room avatar).Makes (Change housing speaking presence) := by
  refine (still_readRoom room).makes.bind fun r => makes_ite (makes_throw _) (makes_ite (makes_throw _) ?_)
  apply makes_storeRole
  intro write hwrite
  obtain ⟨write', hmem, rfl⟩ := Option.map_eq_some_iff.mp hwrite
  exact h write' hmem avatar.avatarId

theorem makes_removeFromList (l : RoomList) (privileged : ChatRoom → Bool) (absent : ChatResultCode)
    {delete : Option (UInt32 → UInt32 → Serve Unit)} (avatarId : UInt32)
    (h : ∀ write ∈ delete, ∀ avatarId roomId, (write avatarId roomId).Makes (Change housing speaking presence)) :
    (removeFromList l privileged absent delete room avatarId).Makes (Change housing speaking presence) := by
  refine (still_readRoom room).makes.bind fun r => makes_ite (makes_throw _) (makes_ite (makes_throw _) ?_)
  apply makes_storeRole
  intro write hwrite
  obtain ⟨write', hmem, rfl⟩ := Option.map_eq_some_iff.mp hwrite
  exact h write' hmem avatarId

theorem makes_persistRole (table : RoleTable) (avatarId roomId : UInt32) :
    (persistRole table avatarId roomId).Makes (Change housing speaking presence) :=
  makes_execute _ fun h => absurd h (by simp [Statement.housing])

theorem makes_deleteRole (table : RoleTable) (avatarId roomId : UInt32) :
    (deleteRole table avatarId roomId).Makes (Change housing speaking presence) :=
  makes_execute _ fun h => absurd h (by simp [Statement.housing])

/-- Rooms are loaded by a statement and changes of the list of rooms. -/
theorem makes_loadRoomsFromStorage_of {R : Server → Server → Prop} (baseAddress : U16String)
    (hexecute : (execute (.selectRooms (fromWideString baseAddress))).Makes R)
    (hrooms : ∀ (s : Server) rooms nextRoomId, R s { s with rooms, nextRoomId }) :
    (loadRoomsFromStorage baseAddress).Makes R := by
  refine (makes_modify fun s => hrooms s [] s.nextRoomId).bind fun _ => hexecute.bind fun rows => ?_
  refine makes_forM (fun row => ?_) rows
  refine makes_get.bind fun _ => (makes_modify fun s => hrooms s s.rooms _).bind fun _ => ?_
  refine (still_columnInt _).makes.bind fun _ => (still_columnInt _).makes.bind fun _ => ?_
  refine (still_columnInt _).makes.bind fun _ => (still_columnInt _).makes.bind fun _ => ?_
  refine (still_columnInt _).makes.bind fun _ => (still_columnInt _).makes.bind fun _ => ?_
  refine (still_columnInt _).makes.bind fun _ => makes_get.bind fun _ => ?_
  exact makes_ite (makes_pure _) (makes_modify fun s => hrooms s _ s.nextRoomId)

theorem makes_loadRoomsFromStorage (hhousing : housing) (baseAddress : U16String) :
    (loadRoomsFromStorage baseAddress).Makes (Change housing speaking presence) :=
  makes_loadRoomsFromStorage_of baseAddress (makes_execute _ fun _ => hhousing) fun _ rooms nextRoomId =>
    .rooms rooms nextRoomId hhousing

theorem makes_persistNewRoom (hhousing : housing) (room : RoomPtr) :
    (persistNewRoom room).Makes (Change housing speaking presence) := by
  refine makes_tryCatch ?_ fun e => ?_
  · refine (still_readRoom room).makes.bind fun r => (makes_execute _ fun _ => hhousing).bind fun id => ?_
    refine Makes.bind ?_ fun _ => makes_pure _
    exact (still_readRoom room).makes.bind fun _ => makes_modify fun s => .rooms _ s.nextRoomId hhousing
  · cases e <;> first | exact makes_pure _ | exact makes_throw _

theorem makes_createRoom (hhousing : housing) (creator : Option AvatarPtr)
    (roomName roomTopic roomPassword : U16String) (roomAttributes maxRoomSize : UInt32)
    (roomAddress : U16String) :
    (createRoom creator roomName roomTopic roomPassword roomAttributes maxRoomSize roomAddress).Makes
      (Change housing speaking presence) := by
  refine makes_get.bind fun _ => makes_ite (makes_throw _) (makes_get.bind fun _ => ?_)
  refine (makes_modify fun s => .rooms s.rooms _ hhousing).bind fun _ => ?_
  refine (still_deref creator).makes.bind fun creator => makes_get.bind fun _ => ?_
  refine (makes_modify fun s => .rooms _ s.nextRoomId hhousing).bind fun _ => ?_
  refine Makes.bind (makes_runIf ?_) fun _ => makes_pure _
  exact (makes_persistNewRoom hhousing _).bind fun _ => makes_pure _

theorem makes_destroyRoom (hhousing : housing) (room : RoomPtr) :
    (destroyRoom room).Makes (Change housing speaking presence) := by
  refine (still_readRoom room).makes.bind fun r => ?_
  refine (makes_runIf (makes_execute _ fun _ => hhousing)).bind fun _ => makes_get.bind fun u => ?_
  cases erasePass r.roomId room [] 0 false u.rooms with
  | some rooms => exact makes_modify fun s => .rooms rooms s.nextRoomId hhousing
  | none => exact makes_throw _

theorem makes_requireRoom (roomAddress : U16String) (missing : ChatResultCode) :
    (requireRoom roomAddress missing).Makes (Change housing speaking presence) := by
  refine Makes.bind (makes_get.bind fun _ => makes_pure _) fun room => ?_
  cases room with
  | some room => exact makes_pure _
  | none => exact makes_throw _

theorem makes_leaveJoinedRooms (avatar : Option AvatarPtr) :
    (Handler.leaveJoinedRooms avatar).Makes (Change housing speaking presence) := by
  refine (still_getJoinedRooms avatar).makes.bind fun rooms => makes_forM (fun room => ?_) rooms
  refine (still_readRoom room).makes.bind fun r => (still_deref avatar).makes.bind fun a => ?_
  refine (makes_writeRoom room fun _ => ⟨by rfl, by rfl⟩).bind fun _ => (still_readRoom room).makes.bind fun _ => ?_
  exact makes_sendLeaveRoomUpdate _ _ _

end Rooms

section Mail

theorem makes_storeMessage (message : PersistentMessage) :
    (storeMessage message).Makes (Change housing speaking presence) :=
  (makes_execute _ fun h => absurd h (by simp [Statement.housing])).bind fun _ => makes_pure _

theorem makes_getPersistentMessage (avatarId messageId : UInt32) :
    (getPersistentMessage avatarId messageId).Makes (Change housing speaking presence) := by
  refine (makes_execute _ fun h => absurd h (by simp [Statement.housing])).bind fun rows => ?_
  cases rows with
  | nil => exact makes_throw _
  | cons row rest =>
    refine (still_readMessage _ _ _).makes.bind fun message => ?_
    refine Makes.bind (makes_runIf ?_) fun _ => makes_pure _
    exact makes_execute _ fun h => absurd h (by simp [Statement.housing])

theorem makes_mailSender (sender : UInt32 ⊕ U16String) (destAvatar : AvatarPtr) :
    (Handler.mailSender sender destAvatar).Makes (Change housing speaking presence) := by
  cases sender with
  | inr srcName => exact makes_pure _
  | inl srcAvatarId =>
    refine (makes_requireSrcAvatar srcAvatarId).bind fun srcAvatar => ?_
    exact (still_isIgnored _ _).makes.bind fun _ => makes_ite (makes_throw _) (makes_pure _)

end Mail
end StationChat
