import StationChat.Gateway.RoomHandlers

/-! The contract of the handlers about avatars, their contacts and their mail. -/
namespace StationChat
open Lib Lib.Action Lib.Contract

variable {P : Exn → Prop} {keep : Prop} {s : Server}

section Contacts

theorem holds_addFriendHandler (request : ReqAddFriend) (hs : Fit P s) :
    (gateway P keep).Holds (Handler.addFriend request) s fun _ _ => True := by
  refine (holds_requireSrcAvatar _ hs).bind fun src t ht _ ⟨hst, hsrc⟩ => ?_
  refine (holds_requireDestAvatar _ _ ht).bind fun dest u hu _ ⟨htu, hdest⟩ => ?_
  refine (holds_addFriend hu (htu.live hsrc.live) hdest.live).bind fun _ v hv huv _ => ?_
  refine (holds_readAvatar hv (huv.live _ hdest.live)).bind fun a v hv _ ⟨heq, _⟩ => ?_
  subst heq
  exact holds_runIf hv fun _ => holds_sendFriendLoginUpdate hv (huv.live _ hdest.live)

theorem holds_addIgnoreHandler (request : ReqAddIgnore) (hs : Fit P s) :
    (gateway P keep).Holds (Handler.addIgnore request) s fun _ _ => True := by
  refine (holds_requireSrcAvatar _ hs).bind fun src t ht _ ⟨hst, hsrc⟩ => ?_
  refine (holds_requireDestAvatar _ _ ht).bind fun dest u hu _ ⟨htu, hdest⟩ => ?_
  exact holds_addIgnore hu (htu.live hsrc.live) hdest.live

theorem holds_removeFriendHandler (request : ReqRemoveFriend) (hs : Fit P s) :
    (gateway P keep).Holds (Handler.removeFriend request) s fun _ _ => True := by
  refine (holds_requireSrcAvatar _ hs).bind fun src t ht _ ⟨hst, hsrc⟩ => ?_
  refine (holds_requireDestAvatar _ _ ht).bind fun dest u hu _ ⟨htu, hdest⟩ => ?_
  exact holds_removeFriend hu (htu.live hsrc.live) hdest.live.pointer

/-- The avatar to be removed may be missing; then the source must ignore nobody. -/
theorem holds_removeIgnoreHandler (request : ReqRemoveIgnore) (hs : Fit P s)
    (hsafe : ¬ P .nullPointer → (Request.removeIgnore request).NullSafe s) :
    (gateway P keep).Holds (Handler.removeIgnore request) s fun _ _ => True := by
  refine (holds_requireSrcAvatar _ hs).bind fun src t ht _ ⟨hst, hsrc⟩ => ?_
  refine (holds_getAvatar _ _ ht).bind fun dest u hu _ ⟨htu, hdest⟩ => ?_
  refine holds_removeIgnore hu (htu.live hsrc.live) ?_
  cases dest with
  | some dest => exact .inl hdest.live
  | none =>
    by_cases hnull : P .nullPointer
    · exact .inl hnull
    · refine .inr ?_
      rw [hdest.1]
      rcases hsafe hnull with hnamed | hid | hnobody
      · exact absurd (hst.hasAvatarNamed.mpr hnamed) hdest.not_hasAvatarNamed
      · exact absurd hsrc.hasAvatarId hid
      · exact hsrc.ignoreList_nil ht.allocated hnobody

theorem holds_contactStatus (request : ReqContactStatus) (hs : Fit P s) :
    (gateway P keep).Holds (Handler.contactStatus request) s fun _ t =>
      Good t.avatarCache t.response.avatar := by
  refine (holds_requireSrcAvatar _ hs).bind fun src t ht _ ⟨hst, hsrc⟩ => ?_
  refine (holds_setResponse ht rfl rfl).mono ?_
  rintro _ u _ _ rfl
  exact ⟨src, rfl, hsrc.live⟩

end Contacts
section Presence

theorem holds_loginTarget {name address loginLocation : U16String} {userId attributes : UInt32}
    (hs : Fit P s)
    (hrange : ¬ P .outOfRange → s.HasAvatarNamed name address ∨ s.AvatarFits userId attributes) :
    (gateway P keep).Holds (Handler.loginTarget name address userId attributes loginLocation) s
      fun p t => Live t.avatarCache p := by
  refine (holds_getAvatar name address hs).bind fun avatar t ht _ ⟨hgrown, hfound⟩ => ?_
  cases avatar with
  | some p => exact holds_pure ht hfound.live
  | none =>
    refine holds_createAvatar ht fun hr => ?_
    rw [hgrown.db]
    exact (hrange hr).resolve_left hfound.not_hasAvatarNamed

theorem holds_welcome {client : ClientId} {p : AvatarPtr} (address : U16String) (hs : Fit P s)
    (hclient : client ∈ s.clients) (hlive : Live s.avatarCache p) :
    (gateway P False).Holds (Handler.welcome client p address) s fun _ _ => True := by
  refine holds_ite (fun _ => ?_) fun _ => holds_sendFriendLoginUpdates client hs hlive
  have hfit : Fit P { s with
      clientAddressMap := Function.update s.clientAddressMap p.address (some client) } :=
    ⟨hs.1, hs.2.1, fun hd => (hs.routed hd).register p.address hclient, hs.2.2.2⟩
  refine holds_modify_bind hfit (Kept.of_eq (fun _ h => h) rfl rfl rfl False.elim) ?_
  exact holds_loadRoomsFromStorage address hfit

/-- What both login requests do. -/
theorem holds_login {client : ClientId} {name address loginLocation : U16String}
    {userId attributes : UInt32} (hs : Fit P s) (hclient : client ∈ s.clients)
    (hrange : ¬ P .outOfRange → s.HasAvatarNamed name address ∨ s.AvatarFits userId attributes) :
    (gateway P False).Holds (Handler.login client name address userId attributes loginLocation) s
      fun p t => Live t.avatarCache p := by
  refine (holds_loginTarget hs hrange).bind fun p t ht hst hlive => ?_
  refine (holds_evaluatePolicyEvent _ ht).bind fun _ u hu htu _ => ?_
  have hsu := hst.trans htu
  refine (holds_loginAvatar hu (htu.live p hlive)).bind fun _ v hv huv _ => ?_
  have hlive := huv.live p (htu.live p hlive)
  have hclient : client ∈ v.clients := (hsu.trans huv).clients ▸ hclient
  refine (holds_welcome address hv hclient hlive).bind fun _ w hw hvw _ => ?_
  exact holds_pure hw (hvw.live p hlive)

theorem holds_loginAvatarHandler {client : ClientId} (request : ReqLoginAvatar) (hs : Fit P s)
    (hclient : client ∈ s.clients)
    (hrange : ¬ P .outOfRange → (Request.loginAvatar request).InRange s) :
    (gateway P False).Holds (Handler.loginAvatar client request) s fun _ t =>
      Good t.avatarCache t.response.avatar := by
  refine (holds_login hs hclient hrange).bind fun p t ht _ hlive => ?_
  refine (holds_setResponse ht rfl rfl).mono ?_
  rintro _ u _ _ rfl
  exact ⟨p, rfl, hlive⟩

theorem holds_failoverReLoginAvatar {client : ClientId} (request : ReqFailoverReLoginAvatar)
    (hs : Fit P s) (hclient : client ∈ s.clients)
    (hrange : ¬ P .outOfRange → (Request.failoverReLoginAvatar request).InRange s) :
    (gateway P False).Holds (Handler.failoverReLoginAvatar client request) s fun _ _ => True := by
  refine (holds_login hs hclient hrange).bind fun p t ht _ hlive => ?_
  refine (holds_getJoinedRooms ht hlive.pointer).bind fun rooms t ht _ ⟨heq, hrooms⟩ => ?_
  subst heq
  refine holds_loosen (holds_forM rooms ht fun room hmem u hu htu => ?_)
  have hlt := Nat.lt_of_lt_of_le (hrooms room hmem) (htu.rooms trivial)
  exact holds_sendEnterRoomUpdate hu hlt (htu.live p hlive)

/-- Leaving every joined room, for an avatar that may be null. -/
theorem holds_leaveJoinedRooms {avatar : Option AvatarPtr} (hs : Fit P s)
    (ha : Pointer P s.avatarCache avatar) :
    (gateway P True).Holds (Handler.leaveJoinedRooms avatar) s fun _ _ => True := by
  refine (holds_getJoinedRooms hs ha).bind fun rooms t ht _ ⟨heq, hrooms⟩ => ?_
  subst heq
  refine holds_forM rooms ht fun room hmem u hu htu => ?_
  have hlt := Nat.lt_of_lt_of_le (hrooms room hmem) (htu.rooms trivial)
  refine (holds_readRoom hu hlt).bind fun r u hu _ ⟨heq, _⟩ => ?_
  subst heq
  refine (holds_derefPointer hu (ha.mono htu.live)).bind fun p u hu _ ⟨heq, _, _⟩ => ?_
  subst heq
  refine (holds_leaveRoom p hu hlt).bind fun _ v hv _ hlen => ?_
  refine (holds_readRoom hv (hlen ▸ hlt)).bind fun r v hv _ ⟨heq, _⟩ => ?_
  subst heq
  exact holds_sendLeaveRoomUpdate _ _ _ hv

/-- Nothing asks whether the avatar was found. -/
theorem holds_logoutAvatarHandler (request : ReqLogoutAvatar) (hs : Fit P s)
    (hsafe : ¬ P .nullPointer → (Request.logoutAvatar request).NullSafe s) :
    (gateway P True).Holds (Handler.logoutAvatar request) s fun _ _ => True := by
  refine (holds_getAvatarById _ hs).bind fun avatar t ht _ ⟨hst, hfound⟩ => ?_
  have ha : Pointer P t.avatarCache avatar := by
    cases avatar with
    | some p => exact hfound.live
    | none =>
      by_contra hnull
      exact hfound.not_hasAvatarId (hsafe hnull)
  refine (holds_leaveJoinedRooms ht ha).bind fun _ u hu htu _ => ?_
  have ha := ha.mono htu.live
  refine (holds_sendFriendLogoutUpdates hu ha).bind fun _ v hv huv _ => ?_
  exact holds_logoutAvatar hv (ha.mono huv.live)

theorem holds_getAnyAvatar (request : ReqGetAnyAvatar) (hs : Fit P s) :
    (gateway P keep).Holds (Handler.getAnyAvatar request) s fun _ t =>
      Good t.avatarCache t.response.avatar := by
  refine (holds_getAvatar _ _ hs).bind fun avatar t ht _ hpost => ?_
  obtain ⟨_, hfound⟩ := hpost
  cases avatar with
  | none => exact holds_throw ht (by simp [gateway, Allowed])
  | some p =>
    refine (holds_readAvatar ht hfound.live).bind fun a t ht _ hread => ?_
    obtain ⟨rfl, _, _⟩ := hread
    refine (holds_setResponse ht rfl rfl).mono ?_
    rintro _ u _ _ rfl
    exact ⟨p, rfl, hfound.live⟩

/-- The attributes that are written are those of the request, which differ from the avatar's. -/
theorem holds_setAvatarAttributes (request : ReqSetAvatarAttributes) (hs : Fit P s)
    (hrange : ¬ P .outOfRange → (Request.setAvatarAttributes request).InRange s) :
    (gateway P keep).Holds (Handler.setAvatarAttributes request) s fun _ t =>
      Good t.avatarCache t.response.avatar := by
  refine (holds_requireSrcAvatar _ hs).bind fun p t ht _ ⟨hst, hfound⟩ => ?_
  have hlive := hfound.live
  refine (holds_setResponse ht rfl rfl).bind fun _ u hu _ heq => ?_
  subst heq
  refine (holds_readAvatar hu hlive).bind fun a u hu _ ⟨heq, hmem, hself⟩ => ?_
  subst heq
  refine holds_ite (fun hdiff => ?_) fun _ => holds_pure hu ⟨p, rfl, hlive⟩
  have hfit := hu.setPlain (p := p) (f := fun a => { a with attributes := request.avatarAttributes })
    (fun _ => rfl) (fun _ => rfl) (fun _ => rfl) fun _ => rfl
  refine (holds_writeAvatar hu hlive hfit fun _ => rfl).bind fun _ v hv huv heq => ?_
  subst heq
  have hlive := huv.live p hlive
  refine holds_ite (fun hpersistent => ?_) fun _ => holds_pure hv ⟨p, rfl, hlive⟩
  refine (holds_persistAvatar hv hlive fun hr b hb hbp => ?_).mono ?_
  · obtain ⟨c, hc, rfl⟩ := List.mem_map.mp hb
    have hcp : c.self = p := by
      split at hbp <;> exact hbp
    rw [if_pos (by simp [hcp])]
    rcases hrange hr with hzero | hsmall | hnone | ⟨d, hd, hattr⟩
    · simp [hzero] at hpersistent
    · exact hsmall
    · exact absurd hfound.hasAvatarId hnone
    · refine absurd ?_ hdiff
      rcases hfound.2 with ⟨e, he, hep, rfl⟩ | ⟨hnew, _⟩
      · obtain rfl := Option.some.inj (hd.symm.trans he)
        rw [hu.allocated.distinct a hmem d (List.mem_of_find?_eq_some hd) (by rw [hself, hep])]
        exact hattr
      · exact absurd (by simpa using List.find?_some hd) (hnew d (List.mem_of_find?_eq_some hd))
  · intro _ w _ hvw hresponse
    rw [hresponse]
    exact ⟨p, rfl, hvw.live p hlive⟩

end Presence

section Messages

theorem holds_sendInstantMessage (request : ReqSendInstantMessage) (hs : Fit P s) :
    (gateway P keep).Holds (Handler.sendInstantMessage request) s fun _ _ => True := by
  refine (holds_requireSrcAvatar _ hs).bind fun src t ht _ ⟨hst, hsrc⟩ => ?_
  refine (holds_requireDestAvatar _ _ ht).bind fun dest u hu htu ⟨_, hdest⟩ => ?_
  have hsrc := htu.live src hsrc.live
  refine (holds_isIgnored hu hdest.live hsrc.pointer).bind fun b v hv huv _ => ?_
  refine holds_ite (fun _ => holds_throw hv (by simp [gateway, Allowed])) fun _ => ?_
  refine (holds_evaluatePolicyEvent _ hv).bind fun _ w hw hvw _ => ?_
  exact holds_sendInstantMessageUpdate _ _ hw (hvw.live src (huv.live src hsrc))

theorem holds_mailSender (sender : UInt32 ⊕ U16String) {dest : AvatarPtr} (hs : Fit P s)
    (hdest : Live s.avatarCache dest) :
    (gateway P keep).Holds (Handler.mailSender sender dest) s fun _ t => Grown s t := by
  cases sender with
  | inr name => exact holds_pure hs (Grown.refl s)
  | inl srcAvatarId =>
    refine (holds_requireSrcAvatar _ hs).bind fun src t ht hst ⟨hgrown, hsrc⟩ => ?_
    refine (holds_isIgnored ht (hst.live dest hdest) hsrc.live.pointer).bind fun b t ht _ heq => ?_
    subst heq
    exact holds_ite (fun _ => holds_throw ht (by simp [gateway, Allowed])) fun _ =>
      holds_pure ht hgrown

theorem holds_storeMessage {message : PersistentMessage} (hs : Fit P s)
    (hsmall : ¬ P .outOfRange →
      MessageRow.Small { messageColumns message with id := s.db.nextMessageId }) :
    (gateway P keep).Holds (storeMessage message) s fun _ _ => True := by
  refine (holds_execute hs fun id db h => ?_).bind fun _ _ ht _ _ => holds_pure ht trivial
  exact hs.good.insertMessage hsmall h

theorem holds_sendPersistentMessage (request : ReqSendPersistentMessage) (hs : Fit P s)
    (hrange : ¬ P .outOfRange → (Request.sendPersistentMessage request).InRange s) :
    (gateway P keep).Holds (Handler.sendPersistentMessage request) s fun _ _ => True := by
  refine (holds_requireDestAvatar _ _ hs).bind fun dest t ht _ ⟨hst, hdest⟩ => ?_
  refine (holds_mailSender request.sender ht hdest.live).bind fun sender u hu _ htu => ?_
  have hsu := hst.trans htu
  refine holds_get_bind ((holds_storeMessage hu fun hr => ?_).bind fun messageId v hv _ _ => ?_)
  · obtain ⟨a, ha, rfl⟩ := htu.live hdest.live
    have htime : u.time = s.time := by rw [hsu.rest]
    rcases hrange hr with hnone | ⟨hclock, hnext⟩
    · exact absurd hdest.hasAvatarNamed hnone
    · refine ⟨hsu.db ▸ hnext, ((hu.inRange hr).cached a ha).1, htime ▸ hclock, ?_⟩
      exact show PersistentState.new.code.toNat < 2 ^ 31 by decide
  · refine (holds_setResponse hv rfl rfl).bind fun _ w hw _ _ => ?_
    exact holds_sendPersistentMessageUpdate _ _ hw

/-- The integers of the rows of a mailbox are readable. -/
theorem holds_readHeader {row : MessageRow} (hs : Fit P s) (hsmall : ¬ P .outOfRange → row.Small) :
    (gateway P keep).Holds (readHeader row) s fun _ _ => True := by
  refine (holds_gatewayColumnInt hs fun h => (hsmall h).1).bind fun _ _ ht _ _ => ?_
  refine (holds_gatewayColumnInt ht fun h => (hsmall h).2.1).bind fun _ _ hu _ _ => ?_
  refine (holds_gatewayColumnInt hu fun h => (hsmall h).2.2.1).bind fun _ _ hv _ _ => ?_
  refine (holds_gatewayColumnInt hv fun h => (hsmall h).2.2.2).bind fun _ _ hw _ _ => ?_
  exact holds_pure hw trivial

theorem holds_getPersistentHeaders (request : ReqGetPersistentHeaders) (hs : Fit P s) :
    (gateway P keep).Holds (Handler.getPersistentHeaders request) s fun _ _ => True := by
  refine Holds.bind (Q := fun _ _ => True) ?_ fun headers t ht _ _ =>
    (holds_setResponse ht rfl rfl).mono fun _ _ _ _ _ => trivial
  refine (holds_select (a := s.db.persistentMessage.filter fun row =>
    row.avatarId = request.avatarId.toNat ∧ row.status ∈ [1, 2, 3]) hs rfl).bind ?_
  rintro rows t ht _ ⟨rfl, rfl⟩
  refine holds_mapM _ ht fun row hrow u hu _ => holds_readHeader hu fun hr => ?_
  exact (hs.inRange hr).tables.message row (List.mem_filter.mp hrow).1

/-- A status is written to some of the mails. -/
theorem holds_updateMessages {statement : Statement Unit} {which : MessageRow → Bool} {status : UInt32} (hs : Fit P s)
    (hrun : s.db.run statement = some ((), s.db.updateMessages which status.toNat))
    (hrange : ¬ P .outOfRange → status.toNat < 2 ^ 31 ∨ ∀ row ∈ s.db.persistentMessage, ¬ which row = true) :
    (gateway P keep).Holds (execute statement) s fun _ _ => True := by
  refine (holds_execute hs fun _ db h => ?_).mono fun _ _ _ _ _ => trivial
  obtain ⟨_, rfl⟩ := Prod.ext_iff.mp (Option.some.inj (hrun.symm.trans h))
  refine hs.good.updateMessages fun hr ⟨row, hrow, hwhich⟩ => ?_
  exact (hrange hr).resolve_right fun hnone => hnone row hrow hwhich

theorem holds_updateMessageStatus (avatarId messageId status : UInt32) (hs : Fit P s)
    (hrange : ¬ P .outOfRange → status.toNat < 2 ^ 31 ∨ ∀ row ∈ s.db.persistentMessage,
      ¬ (row.id = messageId.toNat ∧ row.avatarId = avatarId.toNat)) :
    (gateway P keep).Holds (updateMessageStatus avatarId messageId status) s fun _ _ => True :=
  holds_updateMessages hs rfl fun hr => (hrange hr).imp_right fun hnone row hrow =>
    decide_eq_true_iff.not.mpr (hnone row hrow)

theorem holds_bulkUpdateMessageStatus (avatarId : UInt32) (category : U16String) (newStatus : UInt32)
    (hs : Fit P s)
    (hrange : ¬ P .outOfRange → newStatus.toNat < 2 ^ 31 ∨ ∀ row ∈ s.db.persistentMessage,
      ¬ (row.avatarId = avatarId.toNat ∧ row.category = fromWideString category)) :
    (gateway P keep).Holds (bulkUpdateMessageStatus avatarId category newStatus) s
      fun _ _ => True :=
  holds_updateMessages hs rfl fun hr => (hrange hr).imp_right fun hnone row hrow =>
    decide_eq_true_iff.not.mpr (hnone row hrow)

theorem holds_readMessage (avatarId messageId : UInt32) {row : MessageRow} (hs : Fit P s)
    (hsmall : ¬ P .outOfRange → row.Small) :
    (gateway P keep).Holds (readMessage avatarId messageId row) s fun _ _ => True := by
  refine (holds_gatewayColumnInt hs fun h => (hsmall h).2.2.1).bind fun _ _ ht _ _ => ?_
  refine (holds_gatewayColumnInt ht fun h => (hsmall h).2.2.2).bind fun _ _ hu _ _ => ?_
  cases oobUnits row.oob with
  | none => exact holds_throw hu trivial
  | some oob => exact holds_pure hu trivial

theorem holds_getPersistentMessage (request : ReqGetPersistentMessage) (hs : Fit P s) :
    (gateway P keep).Holds (Handler.getPersistentMessage request) s fun _ t =>
      t.response.message.isSome := by
  refine Holds.bind (Q := fun _ _ => True) ?_ fun message t ht _ _ => ?_
  · refine (holds_select (a := s.db.persistentMessage.filter fun row =>
      row.id = request.messageId.toNat ∧ row.avatarId = request.srcAvatarId.toNat) hs rfl).bind ?_
    rintro rows t ht _ ⟨hrows, rfl⟩
    cases rows with
    | nil => exact holds_throw ht (by simp [gateway, Allowed])
    | cons row rest =>
      have hmem : row ∈ s.db.persistentMessage :=
        (List.mem_filter.mp (hrows ▸ List.mem_cons_self)).1
      refine (holds_readMessage _ _ ht fun hr => (hs.inRange hr).tables.message row hmem).bind ?_
      intro message u hu _ _
      refine (holds_runIf hu fun _ => holds_updateMessageStatus _ _ _ hu fun _ => .inl ?_).bind
        fun _ _ hv _ _ => holds_pure hv trivial
      exact show PersistentState.read.code.toNat < 2 ^ 31 by decide
  · refine (holds_setResponse ht rfl rfl).mono ?_
    rintro _ u _ _ rfl
    rfl

end Messages
end StationChat
