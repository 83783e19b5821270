import StationChat.Gateway.Contacts

/-! The contract of the notifications. -/
namespace StationChat
open Lib Lib.Action Lib.Contract

variable {P : Exn → Prop} {keep : Prop} {s : Server} {p q : AvatarPtr} {room : RoomPtr}

section Notifications

theorem holds_friendLogin (destAvatarId : UInt32) (hs : Fit P s) (hp : Live s.avatarCache p) :
    (gateway P keep).Holds (friendLogin p destAvatarId) s fun _ _ => True :=
  (holds_readAvatar hs hp).bind fun _ _ ht _ _ => holds_pure ht trivial

/-- A message that needs one avatar object. -/
theorem holds_sendTo_avatar {address : U16String} {f : ChatAvatar → Notification} (hs : Fit P s)
    (hp : Live s.avatarCache p) :
    (gateway P keep).Holds (sendTo address (do pure (f (← readAvatar p)))) s fun _ _ => True :=
  holds_sendTo hs ((holds_readAvatar hs hp).bind fun _ _ ht _ _ => holds_pure ht trivial)

theorem holds_sendFriendLoginUpdate (hs : Fit P s) (hq : Live s.avatarCache q) :
    (gateway P keep).Holds (sendFriendLoginUpdate p q) s fun _ _ => True :=
  (holds_friendLogin _ hs hq).bind fun _ _ ht _ _ => holds_sendTo ht (holds_pure ht trivial)

theorem holds_sendFriendLoginUpdates (client : ClientId) (hs : Fit P s)
    (hp : Live s.avatarCache p) :
    (gateway P keep).Holds (sendFriendLoginUpdates client p) s fun _ _ => True := by
  refine holds_get_bind ((holds_forM _ hs fun onlineAvatar hmem t ht hst => ?_).bind ?_)
  · refine (holds_isFriend ht (hst.live _ (hs.1.online _ hmem)) (hst.live p hp).pointer).bind ?_
    intro b u hu htu _
    exact holds_runIf hu fun _ => holds_sendFriendLoginUpdate hu ((hst.trans htu).live p hp)
  intro _ t ht hst _
  refine (holds_readAvatar ht (hst.live p hp)).bind fun a u hu _ ⟨heq, hmem, _⟩ => ?_
  subst heq
  refine holds_forM _ hu fun contact hc v hv huv => ?_
  obtain ⟨f, hf, hl⟩ := ht.1.friends a hmem contact hc
  rw [hf]
  refine (holds_deref hv).bind fun f' w hw _ ⟨hf', heq⟩ => ?_
  subst hf' heq
  refine (holds_readAvatar hw (huv.live _ hl)).bind fun b w hw hvw _ => holds_runIf hw fun _ => ?_
  refine (holds_friendLogin _ hw (hvw.live _ (huv.live _ hl))).bind fun m x hx _ _ => ?_
  exact holds_notify client m hx

theorem holds_sendFriendLogoutUpdates {avatar : Option AvatarPtr} (hs : Fit P s)
    (ha : Pointer P s.avatarCache avatar) :
    (gateway P keep).Holds (sendFriendLogoutUpdates avatar) s fun _ _ => True := by
  refine holds_get_bind (holds_forM _ hs fun onlineAvatar hmem t ht hst => ?_)
  refine (holds_isFriend ht (hst.live _ (hs.1.online _ hmem)) (ha.mono hst.live)).bind ?_
  intro b u hu htu _
  refine holds_runIf hu fun _ => (holds_derefPointer hu (ha.mono (hst.trans htu).live)).bind ?_
  intro a v hv _ ⟨heq, _, hlive⟩
  subst heq
  exact holds_sendTo_avatar hv hlive

theorem holds_sendDestroyRoomUpdate (roomId : UInt32) (targets : List U16String) (hs : Fit P s)
    (hp : Live s.avatarCache p) :
    (gateway P keep).Holds (sendDestroyRoomUpdate p roomId targets) s fun _ _ => True :=
  holds_forM _ hs fun _ _ _ ht hst => holds_sendTo_avatar ht (hst.live p hp)

theorem holds_sendInstantMessageUpdate (message oob : U16String) (hs : Fit P s)
    (hp : Live s.avatarCache p) :
    (gateway P keep).Holds (sendInstantMessageUpdate p q message oob) s fun _ _ => True :=
  holds_sendTo_avatar hs hp

theorem holds_getAvatarIds {r : ChatRoom} (hs : Fit P s)
    (hr : ∀ p ∈ r.pointers, Live s.avatarCache p) (hp : Live s.avatarCache p) :
    (gateway P keep).Holds (getAvatarIds r p) s fun _ _ => True := by
  refine (holds_removeIf r.avatars hs fun a ha t ht hst =>
    (holds_isIgnored ht ?_ (hst.live p hp).pointer).mono fun _ _ _ _ _ => trivial).bind ?_
  · exact hst.live a (hr a (List.mem_append_left _ ha))
  · exact fun _ _ ht _ _ => holds_pure ht trivial

theorem holds_sendRoomMessageUpdate (messageId : UInt32) (message oob : U16String) (hs : Fit P s)
    (hlt : room < s.rooms.length) (hp : Live s.avatarCache p) :
    (gateway P True).Holds (sendRoomMessageUpdate p room messageId message oob) s
      fun _ _ => True := by
  refine (holds_readRoom hs hlt).bind fun r t ht hst _ => holds_forM _ ht fun address _ u hu htu => ?_
  have hsu := hst.trans htu
  refine (holds_readRoom hu (Nat.lt_of_lt_of_le hlt (hsu.rooms trivial))).bind ?_
  intro r v hv _ ⟨heq, hr⟩
  subst heq
  have hpointers := hv.1.rooms r (List.mem_of_getElem? hr)
  refine (holds_getAvatarIds hv hpointers (hsu.live p hp)).bind fun destList w hw hvw _ => ?_
  exact holds_sendTo_avatar hw (hvw.live p (hsu.live p hp))

theorem holds_sendEnterRoomUpdate (hs : Fit P s) (hlt : room < s.rooms.length)
    (hp : Live s.avatarCache p) :
    (gateway P keep).Holds (sendEnterRoomUpdate p room) s fun _ _ => True :=
  (holds_readRoom hs hlt).bind fun _ _ ht hst _ =>
    holds_forM _ ht fun _ _ _ hu htu => holds_sendTo_avatar hu ((hst.trans htu).live p hp)

theorem holds_sendLeaveRoomUpdate (addresses : List U16String) (srcAvatarId roomId : UInt32)
    (hs : Fit P s) :
    (gateway P keep).Holds (sendLeaveRoomUpdate addresses srcAvatarId roomId) s fun _ _ => True :=
  holds_forM _ hs fun _ _ _ ht _ => holds_sendTo ht (holds_pure ht trivial)

theorem holds_sendPersistentMessageUpdate (destAvatar : Option AvatarPtr)
    (header : PersistentHeader) (hs : Fit P s) :
    (gateway P keep).Holds (sendPersistentMessageUpdate destAvatar header) s fun _ _ => True := by
  cases destAvatar with
  | none => exact holds_pure hs trivial
  | some dest => exact holds_sendTo hs (holds_pure hs trivial)

theorem holds_sendKickAvatarUpdate (addresses : List U16String) (hs : Fit P s)
    (hlt : room < s.rooms.length) (hp : Live s.avatarCache p) (hq : Live s.avatarCache q) :
    (gateway P True).Holds (sendKickAvatarUpdate addresses p q room) s fun _ _ => True := by
  refine holds_forM _ hs fun address _ t ht hst => ?_
  refine (holds_readRoom ht (Nat.lt_of_lt_of_le hlt (hst.rooms trivial))).bind fun r u hu htu _ => ?_
  refine holds_sendTo hu ((holds_readAvatar hu (htu.live p (hst.live p hp))).bind ?_)
  intro a v hv huv _
  refine (holds_readAvatar hv (huv.live q (htu.live q (hst.live q hq)))).bind fun b w hw _ _ => ?_
  exact holds_pure hw trivial

end Notifications

end StationChat
