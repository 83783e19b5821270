import StationChat.Avatars.Accurate
import StationChat.Gateway.Runs

/-! Every request keeps the contact lists in memory and in the tables together. -/
namespace StationChat
open Lib Lib.Action Lib.Contract

/-- The avatar a contact request is about, looked up as its handler does. -/
def Server.named (s : Server) (srcAvatarId : UInt32) (name address : U16String) : Option AvatarPtr :=
  match (do let _ ← requireSrcAvatar srcAvatarId; getAvatar name address) s with
  | (.ok found, _) => found
  | (.error _, _) => none

/-- The request is one of `i` about `j`. -/
def Server.Concerns (s : Server) (srcAvatarId : UInt32) (name address : U16String) (i j : Nat) : Prop :=
  srcAvatarId.toNat = i ∧ (s.named srcAvatarId name address).map (·.avatarId.toNat) = some j

namespace Request

/-- Which rows of `friend` a request may add. -/
def Befriended (s : Server) (request : Request) (i j : Nat) : Prop :=
  match request with
  | .addFriend r => s.Concerns r.srcAvatarId r.destName r.destAddress i j ∧ ¬ s.db.Befriends i j
  | _ => False

/-- Which rows of `ignore` a request may delete: whoever becomes a friend is ignored no longer. -/
def Withdrawn (s : Server) (request : Request) (row : IgnoreRow) : Prop :=
  match request with
  | .removeIgnore r => s.Concerns r.srcAvatarId r.destName r.destAddress row.avatarId row.ignoreAvatarId
  | .addFriend r => s.Concerns r.srcAvatarId r.destName r.destAddress row.avatarId row.ignoreAvatarId ∧
      ¬ s.db.Befriends row.avatarId row.ignoreAvatarId
  | _ => False

end Request

variable {F : Nat → Nat → Prop} {W : IgnoreRow → Prop} {s t u : Server} {α β : Type}

section Lookups
variable {srcAvatarId : UInt32} {name address : U16String} {Q : α → Server → Prop}

/-- The lookup with which most handlers begin. -/
theorem tends_src {rest : AvatarPtr → Serve α} (hs : Tended s)
    (hrest : ∀ p t, LookedUp s t → Live t.avatarCache p → p.avatarId = srcAvatarId → Tends F W (rest p) t Q) :
    Tends F W (requireSrcAvatar srcAvatarId >>= rest) s Q := by
  rw [requireSrcAvatar_eq]
  exact (tends_required _ hs).bind fun p t _ ht => hrest p t ht.1 ht.2.1 ht.2.2

theorem Tends.run {x : Serve α} (h : Tends F W x s Q) : Tends F W x s fun a t => Q a t ∧ x s = (.ok a, t) := by
  unfold Tends Ends at h ⊢
  rcases hrun : x s with ⟨e | a, t⟩ <;> rw [hrun] at h
  · exact h
  · exact ⟨h.1, h.2, rfl⟩

/-- The two lookups of a request about another avatar, which need not exist. -/
theorem tends_named {rest : AvatarPtr → Option AvatarPtr → Serve α} (hs : Tended s)
    (hrest : ∀ p found t, LookedUp s t → Live t.avatarCache p → (∀ q, found = some q → Live t.avatarCache q) →
      p.avatarId = srcAvatarId → s.named srcAvatarId name address = found → Tends F W (rest p found) t Q) :
    Tends F W (do
      let srcAvatar ← requireSrcAvatar srcAvatarId
      let destAvatar ← getAvatar name address
      rest srcAvatar destAvatar) s Q := by
  rw [requireSrcAvatar_eq]
  refine (tends_required _ hs).run.bind fun p t _ ⟨⟨ht, hp, hid⟩, hfirst⟩ => ?_
  refine (tends_run (.byName name address) (ht.tended hs)).run.bind fun found u _ ⟨⟨hu, hfound⟩, hsecond⟩ => ?_
  apply hrest p found u (ht.trans hu) (hu.grown.live hp) (fun q hq => (hfound q hq).1) hid
  have hrun : getAvatar name address t = (.ok found, u) := hsecond
  rw [Server.named, requireSrcAvatar_eq, bind_ok hfirst, hrun]

theorem tends_dest {rest : AvatarPtr → AvatarPtr → Serve α} (hs : Tended s)
    (hrest : ∀ p q t, LookedUp s t → Live t.avatarCache p → Live t.avatarCache q → p.avatarId = srcAvatarId →
      s.named srcAvatarId name address = some q → Tends F W (rest p q) t Q) :
    Tends F W (do
      let srcAvatar ← requireSrcAvatar srcAvatarId
      let destAvatar ← requireDestAvatar name address
      rest srcAvatar destAvatar) s Q := by
  simp only [requireDestAvatar, bind_assoc]
  apply tends_named hs
  intro p found t ht hp hfound hid hnamed
  cases found with
  | some q => exact hrest p q t ht hp (hfound q rfl) hid hnamed
  | none => exact fun _ => Follows.refl t

end Lookups

theorem still_requireRoom (roomAddress : U16String) (missing : ChatResultCode) :
    Still (requireRoom roomAddress missing) := by
  intro s
  rw [requireRoom_run]

section Rooms

/-- After the lookups of avatars a request about a room changes rooms only. -/
theorem unmoved_room {roomAddress : U16String} {missing : ChatResultCode} {f : RoomPtr → ChatRoom → Response → Response}
    {rest : RoomPtr → ChatRoom → Serve Unit} (hrest : ∀ room r t, aside.Holds (rest room r) t fun _ _ => True) :
    unmoved.Holds (do
      let room ← requireRoom roomAddress missing
      let r ← readRoom room
      setResponse (f room r)
      rest room r) s fun _ _ => True := by
  refine (unmoved_still (still_requireRoom _ _)).bind fun room _ _ _ _ => ?_
  refine (unmoved_still (still_readRoom room)).bind fun r _ _ _ _ => ?_
  exact (unmoved_setResponse _).bind fun _ t _ _ _ => unmoved_aside (hrest room r t)

theorem tends_onRoomAvatar {request : ReqRoomRole} {policy : Option Policy.ActionType}
    {operation : RoomPtr → AvatarPtr → AvatarPtr → Serve Unit} (hs : Tended s)
    (hop : ∀ room p q t, aside.Holds (operation room p q) t fun _ _ => True) :
    Tends F W (Handler.onRoomAvatar request policy operation) s fun _ _ => True := by
  apply tends_dest hs
  intro p q t _ _ _ _ _
  apply tends_unmoved (unmoved_room _)
  intro room r u
  cases policy with
  | some action => exact (aside_evaluatePolicyEvent _).bind fun _ v _ _ _ => hop room p q v
  | none => exact hop room p q u

theorem tends_kickAvatar (request : ReqKickAvatar) (hs : Tended s) :
    Tends F W (Handler.kickAvatar request) s fun _ _ => True := by
  apply tends_onRoomAvatar hs
  intro room p q t
  refine (aside_still (still_readRoom room)).bind fun _ _ _ _ _ => ?_
  exact (aside_changeRoom room _).bind fun _ _ _ _ _ => aside_posting (posting_sendKickAvatarUpdate _ p q room)

theorem tends_createRoom (request : ReqCreateRoom) (hs : Tended s) :
    Tends F W (Handler.createRoom request) s fun _ _ => True := by
  refine (tends_run (.byId request.creatorId) hs).bind fun creator t _ _ => tends_unmoved ?_
  exact (unmoved_aside (aside_createRoom _ _ _ _ _ _ _)).bind fun _ _ _ _ _ => unmoved_setResponse _

theorem tends_destroyRoom (request : ReqDestroyRoom) (hs : Tended s) :
    Tends F W (Handler.destroyRoom request) s fun _ _ => True := by
  apply tends_src hs
  intro p t _ _ _
  apply tends_unmoved (unmoved_room _)
  intro room r u
  exact (aside_destroyRoom room).bind fun _ _ _ _ _ => aside_posting (posting_sendDestroyRoomUpdate p _ _)

theorem tends_enterRoom (request : ReqEnterRoom) (hs : Tended s) :
    Tends F W (Handler.enterRoom request) s fun _ _ => True := by
  apply tends_src hs
  intro p t _ _ _
  apply tends_unmoved (unmoved_room _)
  intro room r u
  refine (aside_evaluatePolicyEvent _).bind fun _ _ _ _ _ => ?_
  exact (aside_changeRoom room _).bind fun _ _ _ _ _ => aside_posting (posting_sendEnterRoomUpdate p room)

theorem tends_leaveRoom (request : ReqLeaveRoom) (hs : Tended s) :
    Tends F W (Handler.leaveRoom request) s fun _ _ => True := by
  apply tends_src hs
  intro p t _ _ _
  apply tends_unmoved (unmoved_room _)
  intro room r u
  exact (aside_writeRoom room _).bind fun _ _ _ _ _ => aside_posting (posting_sendLeaveRoomUpdate _ _ _)

theorem tends_getRoom (request : ReqGetRoom) : Tends F W (Handler.getRoom request) s fun _ _ => True := by
  apply tends_unmoved
  exact (unmoved_still (still_requireRoom _ _)).bind fun _ _ _ _ _ => unmoved_setResponse _

theorem tends_getRoomSummaries (request : ReqGetRoomSummaries) :
    Tends F W (Handler.getRoomSummaries request) s fun _ _ => True := by
  apply tends_unmoved
  exact holds_get_bind ((unmoved_setResponse _).mono fun _ _ _ _ h => h)

end Rooms

section Messages

theorem tends_sendInstantMessage (request : ReqSendInstantMessage) (hs : Tended s) :
    Tends F W (Handler.sendInstantMessage request) s fun _ _ => True := by
  apply tends_dest hs
  intro p q t _ _ _ _ _
  apply tends_unmoved
  refine (unmoved_still (still_isIgnored q (some p))).bind fun ignored u _ _ _ => holds_ite (fun _ => ?_) fun _ => ?_
  · exact holds_throw trivial trivial
  · refine (unmoved_aside (aside_evaluatePolicyEvent _)).bind fun _ _ _ _ _ => ?_
    exact unmoved_aside (aside_posting (posting_sendInstantMessageUpdate p q _ _))

theorem tends_sendRoomMessage (request : ReqSendRoomMessage) (hs : Tended s) :
    Tends F W (Handler.sendRoomMessage request) s fun _ _ => True := by
  apply tends_src hs
  intro p t _ _ _
  apply tends_unmoved (unmoved_room _)
  intro room r u
  refine (aside_evaluatePolicyEvent _).bind fun _ _ _ _ _ => ?_
  exact (aside_writeRoom room _).bind fun _ _ _ _ _ => aside_posting (posting_sendRoomMessageUpdate p room _ _ _)

/-- The sender is looked up after the receiver. -/
theorem tends_mailSender (sender : UInt32 ⊕ U16String) (destAvatar : AvatarPtr) (hs : Tended s) :
    Tends F W (Handler.mailSender sender destAvatar) s fun _ _ => True := by
  cases sender with
  | inr srcName => exact ⟨Follows.refl s, trivial⟩
  | inl srcAvatarId =>
    apply tends_src hs
    intro p t _ _ _
    apply tends_unmoved
    refine (unmoved_still (still_isIgnored destAvatar (some p))).bind fun ignored u _ _ _ => ?_
    exact holds_ite (fun _ => holds_throw trivial trivial) fun _ => holds_pure trivial trivial

theorem tends_sendPersistentMessage (request : ReqSendPersistentMessage) (hs : Tended s) :
    Tends F W (Handler.sendPersistentMessage request) s fun _ _ => True := by
  rw [Handler.sendPersistentMessage, requireDestAvatar_eq]
  refine (tends_required _ hs).bind fun q t _ ht => ?_
  refine (tends_mailSender request.sender q (ht.1.tended hs)).bind fun sender u _ _ => tends_unmoved ?_
  apply holds_get_bind
  refine (unmoved_aside (aside_storeMessage _)).bind fun messageId _ _ _ _ => ?_
  refine (unmoved_setResponse _).bind fun _ _ _ _ _ => ?_
  exact unmoved_aside (aside_posting (posting_sendPersistentMessageUpdate _ _))

theorem tends_getPersistentHeaders (request : ReqGetPersistentHeaders) :
    Tends F W (Handler.getPersistentHeaders request) s fun _ _ => True :=
  tends_unmoved ((unmoved_aside (aside_getMessageHeaders _)).bind fun _ _ _ _ _ => unmoved_setResponse _)

theorem tends_getPersistentMessage (request : ReqGetPersistentMessage) :
    Tends F W (Handler.getPersistentMessage request) s fun _ _ => True :=
  tends_unmoved ((unmoved_aside (aside_getPersistentMessage _ _)).bind fun _ _ _ _ _ => unmoved_setResponse _)

theorem tends_updatePersistentMessage (request : ReqUpdatePersistentMessage) :
    Tends F W (Handler.updatePersistentMessage request) s fun _ _ => True :=
  tends_unmoved (unmoved_aside (aside_execute (elsewhere_updateStatus _ _ _)))

theorem tends_updatePersistentMessages (request : ReqUpdatePersistentMessages) :
    Tends F W (Handler.updatePersistentMessages request) s fun _ _ => True :=
  tends_unmoved (unmoved_aside (aside_execute (elsewhere_bulkUpdateStatus _ _ _)))

end Messages

section Avatars

theorem tends_loginTarget (name address : U16String) (userId attributes : UInt32) (loginLocation : U16String)
    (hs : Tended s) :
    Tends F W (Handler.loginTarget name address userId attributes loginLocation) s fun _ _ => True := by
  refine (tends_run (.byName name address) hs).bind fun found t _ _ => ?_
  cases found with
  | some p => exact ⟨Follows.refl t, trivial⟩
  | none => exact tends_createAvatar name address userId attributes loginLocation

theorem tends_login (client : ClientId) (name address : U16String) (userId attributes : UInt32)
    (loginLocation : U16String) (hs : Tended s) :
    Tends F W (Handler.login client name address userId attributes loginLocation) s fun _ _ => True := by
  refine (tends_loginTarget name address userId attributes loginLocation hs).bind fun p t _ _ => ?_
  apply tends_unmoved
  refine (unmoved_aside (aside_evaluatePolicyEvent _)).bind fun _ _ _ _ _ => ?_
  refine (unmoved_loginAvatar p).bind fun _ _ _ _ _ => ?_
  exact (unmoved_aside (aside_welcome client p address)).bind fun _ _ _ _ _ => holds_pure trivial trivial

theorem tends_loginAvatar (client : ClientId) (request : ReqLoginAvatar) (hs : Tended s) :
    Tends F W (Handler.loginAvatar client request) s fun _ _ => True :=
  (tends_login client _ _ _ _ _ hs).bind fun _ _ _ _ => tends_unmoved (unmoved_setResponse _)

theorem tends_failoverReLoginAvatar (client : ClientId) (request : ReqFailoverReLoginAvatar) (hs : Tended s) :
    Tends F W (Handler.failoverReLoginAvatar client request) s fun _ _ => True := by
  refine (tends_login client _ _ _ _ _ hs).bind fun p t _ _ => tends_unmoved ?_
  refine (unmoved_still (still_getJoinedRooms _)).bind fun rooms _ _ _ _ => unmoved_aside ?_
  exact holds_forM rooms trivial fun room _ _ _ _ => aside_posting (posting_sendEnterRoomUpdate p room)

theorem tends_logoutAvatar (request : ReqLogoutAvatar) (hs : Tended s) :
    Tends F W (Handler.logoutAvatar request) s fun _ _ => True := by
  refine (tends_run (.byId request.avatarId) hs).bind fun found t _ _ => tends_unmoved ?_
  refine (unmoved_aside (aside_leaveJoinedRooms found)).bind fun _ _ _ _ _ => ?_
  refine (unmoved_aside (aside_posting (posting_sendFriendLogoutUpdates found))).bind fun _ _ _ _ _ => ?_
  exact unmoved_logoutAvatar found

theorem tends_contactStatus (request : ReqContactStatus) (hs : Tended s) :
    Tends F W (Handler.contactStatus request) s fun _ _ => True := by
  apply tends_src hs
  exact fun p t _ _ _ => tends_unmoved (unmoved_setResponse _)

theorem tends_getAnyAvatar (request : ReqGetAnyAvatar) (hs : Tended s) :
    Tends F W (Handler.getAnyAvatar request) s fun _ _ => True := by
  refine (tends_run (.byName request.name request.address) hs).bind fun found t _ _ => tends_unmoved ?_
  cases found with
  | none => exact holds_throw trivial trivial
  | some p => exact (unmoved_still (still_readAvatar p)).bind fun _ _ _ _ _ => unmoved_setResponse _

theorem tends_setApiVersion (request : ReqSetApiVersion) :
    Tends F W (Handler.setApiVersion request) s fun _ _ => True :=
  tends_unmoved (holds_get_bind (unmoved_setResponse _))

theorem tends_setAvatarAttributes (request : ReqSetAvatarAttributes) (hs : Tended s) :
    Tends F W (Handler.setAvatarAttributes request) s fun _ _ => True := by
  apply tends_src hs
  intro p t _ _ _
  apply tends_unmoved
  refine (unmoved_setResponse _).bind fun _ _ _ _ _ => ?_
  refine (unmoved_still (still_readAvatar p)).bind fun a _ _ _ _ => holds_ite (fun _ => ?_) fun _ => ?_
  · refine Holds.bind (unmoved_writeAvatar p fun _ => rfl) fun _ _ _ _ _ => ?_
    exact holds_runIf trivial fun _ => unmoved_persistAvatar p
  · exact holds_pure trivial trivial

end Avatars

section Contacts

theorem tends_addFriendHandler (request : ReqAddFriend) (hs : Tended s)
    (hallowed : ∀ q, s.named request.srcAvatarId request.destName request.destAddress = some q →
      ¬ s.db.Befriends request.srcAvatarId.toNat q.avatarId.toNat →
      F request.srcAvatarId.toNat q.avatarId.toNat ∧ W ⟨request.srcAvatarId.toNat, q.avatarId.toNat⟩) :
    Tends F W (Handler.addFriend request) s fun _ _ => True := by
  apply tends_dest hs
  intro p q t ht hp hq hid hnamed
  obtain ⟨a, hmem, ha, hobject⟩ := avatar?_of_live ht.ready.allocated hp
  have hnewcomer : a.hasFriend q.avatarId = false → ¬ s.db.Befriends p.avatarId.toNat q.avatarId.toNat := by
    rw [← ht.grown.db, ← ha, ← ((ht.tended hs).synced a hmem).friends]
    simp
  have hrows := hid ▸ hallowed q hnamed
  refine (tends_addFriend hobject ha hq (fun hnew => hrows (hnewcomer hnew)) []).bind fun _ u _ _ => tends_unmoved ?_
  refine (unmoved_still (still_readAvatar q)).bind fun b _ _ _ _ => holds_runIf trivial fun _ => ?_
  exact unmoved_aside (aside_posting (posting_sendFriendLoginUpdate p q))

/-- ADDIGNORE ends with the row in the table. -/
theorem tends_addIgnoreHandler (request : ReqAddIgnore) (hs : Tended s) :
    Tends F W (Handler.addIgnore request) s fun _ t =>
      ∃ q, s.named request.srcAvatarId request.destName request.destAddress = some q ∧
        t.db.Ignores request.srcAvatarId.toNat q.avatarId.toNat := by
  apply tends_dest hs
  intro p q t ht hp hq hid hnamed
  obtain ⟨a, hmem, ha, hobject⟩ := avatar?_of_live ht.ready.allocated hp
  refine (tends_addIgnore hobject ha hq ((ht.tended hs).synced a hmem)).mono fun _ u hrow => ?_
  exact ⟨q, hnamed, hid ▸ hrow⟩

theorem tends_removeFriendHandler (request : ReqRemoveFriend) (hs : Tended s) :
    Tends F W (Handler.removeFriend request) s fun _ _ => True := by
  apply tends_dest hs
  intro p q t ht hp _ _ _
  obtain ⟨a, _, ha, hobject⟩ := avatar?_of_live ht.ready.allocated hp
  exact tends_removeFriend hobject ha

/-- Without an avatar there is nothing to remove, or a null pointer is followed. -/
theorem tends_removeIgnore_none {p : AvatarPtr} {a : ChatAvatar} (h : s.avatar? p = some a) :
    Tends F W (removeIgnore p none) s fun _ _ => True := by
  apply Tends.bind (Q := fun b t => b = a ∧ t = s)
  · exact Tends.of_eq (y := pure a) ⟨Follows.refl s, rfl, rfl⟩ (readAvatar_run h)
  rintro b _ _ ⟨rfl, rfl⟩
  cases hlist : b.ignoreList with
  | nil => exact ⟨Follows.refl _, trivial⟩
  | cons contact rest =>
    apply Tends.of_eq (y := throw .nullPointer)
    · exact fun _ => Follows.refl _
    · cases hcontact : contact.ignored with
      | none => simp [removeIf, sameAvatar, deref, hcontact, bind_run]
      | some q => simp [removeIf, sameAvatar, deref, hcontact, bind_run]

theorem tends_removeIgnoreHandler (request : ReqRemoveIgnore) (hs : Tended s)
    (hW : ∀ q, s.named request.srcAvatarId request.destName request.destAddress = some q →
      W ⟨request.srcAvatarId.toNat, q.avatarId.toNat⟩) :
    Tends F W (Handler.removeIgnore request) s fun _ _ => True := by
  apply tends_named hs
  intro p found t ht hp _ hid hnamed
  obtain ⟨a, _, ha, hobject⟩ := avatar?_of_live ht.ready.allocated hp
  cases found with
  | some q => exact tends_removeIgnore hobject ha (hid ▸ hW q hnamed)
  | none => exact tends_removeIgnore_none hobject

end Contacts

/-- Every handler, request type by request type. -/
theorem tends_handler (client : ClientId) (request : Request) (hs : Tended s) :
    Tends (Request.Befriended s request) (Request.Withdrawn s request) (request.handler client) s fun _ _ => True := by
  cases request with
  | loginAvatar r => exact tends_loginAvatar client r hs
  | logoutAvatar r => exact tends_logoutAvatar r hs
  | createRoom r => exact tends_createRoom r hs
  | destroyRoom r => exact tends_destroyRoom r hs
  | sendInstantMessage r => exact tends_sendInstantMessage r hs
  | sendRoomMessage r => exact tends_sendRoomMessage r hs
  | addFriend r =>
    apply tends_addFriendHandler r hs
    intro q hq hnew
    have hconcerns : s.Concerns r.srcAvatarId r.destName r.destAddress r.srcAvatarId.toNat q.avatarId.toNat :=
      ⟨rfl, by rw [hq, Option.map_some]⟩
    exact ⟨⟨hconcerns, hnew⟩, hconcerns, hnew⟩
  | removeFriend r => exact tends_removeFriendHandler r hs
  | friendStatus r => exact tends_contactStatus r hs
  | addIgnore r => exact (tends_addIgnoreHandler r hs).mono fun _ _ _ => trivial
  | removeIgnore r =>
    apply tends_removeIgnoreHandler r hs
    intro q hq
    exact ⟨rfl, by rw [hq, Option.map_some]⟩
  | enterRoom r => exact tends_enterRoom r hs
  | leaveRoom r => exact tends_leaveRoom r hs
  | addModerator r =>
    change Tends _ _ (Handler.addModerator r) s _
    apply tends_onRoomAvatar hs
    exact fun _ _ _ _ => aside_addModerator _ _
  | removeModerator r =>
    change Tends _ _ (Handler.removeModerator r) s _
    apply tends_onRoomAvatar hs
    exact fun _ _ _ _ => aside_removeModerator _ _
  | addBan r =>
    change Tends _ _ (Handler.addBan r) s _
    apply tends_onRoomAvatar hs
    exact fun _ _ _ _ => aside_addBanned _ _
  | removeBan r =>
    change Tends _ _ (Handler.removeBan r) s _
    apply tends_onRoomAvatar hs
    exact fun _ _ _ _ => aside_removeBanned _ _
  | addInvite r =>
    change Tends _ _ (Handler.addInvite r) s _
    apply tends_onRoomAvatar hs
    exact fun _ _ _ _ => aside_addInvite _ _
  | removeInvite r =>
    change Tends _ _ (Handler.removeInvite r) s _
    apply tends_onRoomAvatar hs
    exact fun _ _ _ _ => aside_removeInvite _ _
  | kickAvatar r => exact tends_kickAvatar r hs
  | getRoom r => exact tends_getRoom r
  | getRoomSummaries r => exact tends_getRoomSummaries r
  | sendPersistentMessage r => exact tends_sendPersistentMessage r hs
  | getPersistentHeaders r => exact tends_getPersistentHeaders r
  | getPersistentMessage r => exact tends_getPersistentMessage r
  | updatePersistentMessage r => exact tends_updatePersistentMessage r
  | updatePersistentMessages r => exact tends_updatePersistentMessages r
  | ignoreStatus r => exact tends_contactStatus r hs
  | failoverReLoginAvatar r => exact tends_failoverReLoginAvatar client r hs
  | setApiVersion r => exact tends_setApiVersion r
  | setAvatarAttributes r => exact tends_setAvatarAttributes r hs
  | getAnyAvatar r => exact tends_getAnyAvatar r hs

section Steps
variable {client : ClientId} {request : Request} {time : UInt32} {steadyClock : Nat} {input : Input}

/-- Where the handler of a request starts. -/
def Server.arrival (s : Server) (request : Request) (time : UInt32) (steadyClock : Nat) : Server :=
  (s.atTime time steadyClock).receiving request

theorem unmoved_arrival (s : Server) (request : Request) (time : UInt32) (steadyClock : Nat) :
    Unmoved s (s.arrival request time steadyClock) := ⟨rfl, id, rfl, rfl, rfl, rfl, rfl⟩

/-- A request that is answered: its handler returned, or threw what is caught. -/
theorem step_request_cases (h : s.step (.request client request time steadyClock) = some t) :
    ∃ u, ((request.handler client (s.arrival request time steadyClock) = (.ok (), u)) ∨
        ∃ e v code, request.handler client (s.arrival request time steadyClock) = (.error e, v) ∧
          e.resultCode = some code ∧ u = v.withResult code) ∧
      ∃ body, t = { u with sent := u.sent ++
        [(client, .response u.response.type u.response.track u.response.result body)] } := by
  obtain ⟨_, _, hrun⟩ := Server.step_request h
  obtain ⟨u, body, hcaught, _, rfl⟩ := handle_eq_ok hrun
  exact ⟨u, caught_eq_ok hcaught, body, rfl⟩

/-- One request. -/
theorem follows_request (hs : Tended s) (h : s.step (.request client request time steadyClock) = some t) :
    Follows (Request.Befriended (s.arrival request time steadyClock) request)
      (Request.Withdrawn (s.arrival request time steadyClock) request) s t := by
  have harrival := unmoved_arrival s request time steadyClock
  have hends := tends_handler client request (harrival.tended hs)
  obtain ⟨u, hhandler, body, rfl⟩ := step_request_cases h
  have hanswered : Unmoved u { u with sent := u.sent ++
    [(client, .response u.response.type u.response.track u.response.result body)] } :=
      ⟨rfl, id, rfl, rfl, rfl, rfl, rfl⟩
  refine harrival.follows.trans (Follows.trans ?_ hanswered.follows)
  rcases hhandler with hrun | ⟨e, v, code, hrun, hcode, rfl⟩
  · exact (hends.ok_of_run hrun).1
  · have hcaught : Unmoved v (v.withResult code) := ⟨rfl, id, rfl, rfl, rfl, rfl, rfl⟩
    exact (hends.err_of_run hrun (by rw [hcode]; rfl)).trans hcaught.follows

/-- The request of an input withdraws a row. -/
def Input.Withdrawn (s : Server) : Input → IgnoreRow → Prop
  | .request _ request time steadyClock => request.Withdrawn (s.arrival request time steadyClock)
  | _ => fun _ => False

theorem tended_restart (hs : Tended s) : Tended s.restart where
  works := hs.works
  ready := ⟨⟨fun _ h => absurd h List.not_mem_nil, fun _ h => absurd h List.not_mem_nil⟩, hs.ready.referential,
    fun _ h => absurd h List.not_mem_nil⟩
  next := hs.next
  owned := hs.owned
  synced _ h := absurd h List.not_mem_nil

/-- One input. -/
theorem tended_step (hs : Tended s) (h : s.step input = some t) (hsound : Sound s t) : Tended t := by
  cases input with
  | request client request time steadyClock => exact (follows_request hs h).tended hsound hs
  | connect =>
    obtain rfl := Option.some.inj h
    have hconnect : Unmoved s s.connect := ⟨rfl, fun ha => ⟨fun a hmem => Nat.lt_succ_of_lt (ha.below a hmem),
      ha.distinct⟩, rfl, rfl, rfl, rfl, rfl⟩
    exact hconnect.tended hs
  | disconnect client =>
    obtain ⟨_, rfl⟩ := Server.step_disconnect h
    have hdisconnect : Unmoved s (s.disconnect client) := ⟨rfl, id, rfl, rfl, rfl, rfl, rfl⟩
    exact hdisconnect.tended hs
  | tick =>
    obtain rfl := Option.some.inj h
    have htick : Unmoved s s.tick := ⟨rfl, id, rfl, rfl, rfl, rfl, rfl⟩
    exact htick.tended hs
  | restart =>
    obtain rfl := Option.some.inj h
    exact tended_restart hs

/-- Only requests change the ignore table. -/
theorem ignored_step (hs : Tended s) (h : s.step input = some t) {row : IgnoreRow} (hrow : row ∈ s.db.ignore) :
    row ∈ t.db.ignore ∨ input.Withdrawn s row := by
  cases input with
  | request client request time steadyClock => exact (follows_request hs h).ignored row hrow
  | disconnect client =>
    obtain ⟨_, rfl⟩ := Server.step_disconnect h
    exact .inl hrow
  | connect | tick | restart =>
    obtain rfl := Option.some.inj h
    exact .inl hrow

instance (s t : Server) : Decidable (Sound s t) :=
  decidable_of_iff (t.Unduplicated ∧ ∀ row ∈ t.db.avatar, s.db.HasAvatar row.id ∨ row.id < 2 ^ 32)
    ⟨fun h => ⟨h.1, h.2⟩, fun h => ⟨h.1, h.2⟩⟩

/-- The input leads to a state in which every avatar id is one object's. -/
def Server.Soundly (s : Server) (input : Input) : Prop := ∀ t ∈ s.step input, Sound s t

instance (s : Server) (input : Input) : Decidable (s.Soundly input) :=
  inferInstanceAs (Decidable (∀ t ∈ s.step input, Sound s t))

/-- What the keys of the tables ensure. -/
structure Database.Consistent (db : Database) : Prop where
  referential : db.Referential
  owned : db.Owned
  next : ∀ row ∈ db.avatar, row.id < db.nextAvatarId

theorem tended_start {db : Database} (hdb : db.Consistent) (version : UInt32) (policyConfig : Policy.Config) :
    Tended (Server.start db (fun _ => false) version policyConfig) where
  works _ := rfl
  ready := ⟨⟨fun _ h => absurd h List.not_mem_nil, fun _ h => absurd h List.not_mem_nil⟩, hdb.referential,
    fun _ h => absurd h List.not_mem_nil⟩
  next := hdb.next
  owned := hdb.owned
  synced _ h := absurd h List.not_mem_nil

/-- A whole run. -/
theorem tended_reaches (hs : Tended s) (h : Server.Reaches Server.Soundly s t) : Tended t :=
  Runs.invariant h hs fun _ _ _ hi ha hstep => tended_step hi hstep (ha _ hstep)

end Steps

end StationChat
