import Mathlib.Data.Set.Insert
import StationChat.Rooms.Outcomes

/-! What avatars without privileges can do to a room together. -/
namespace StationChat
open Lib Lib.Action

variable {s t : Server} {room : RoomPtr} {r r' : ChatRoom} {S : Set UInt32}

theorem ChatRoom.enterRoom_allowed {avatar : AvatarPtr} {password : U16String}
    (h : r.enterRoom avatar password = .ok r') :
    (r.roomPassword ≠ [] → r.roomPassword = password) ∧ r.isBanned avatar.avatarId = false ∧
      (r.isPrivate = true → r.isCreator avatar.avatarId = true ∨ r.isInvited avatar.avatarId = true) := by
  unfold ChatRoom.enterRoom at h
  split at h
  · exact absurd h (by simp)
  rename_i hpassword
  split at h
  · exact absurd h (by simp)
  rename_i hbanned
  split at h
  · exact absurd h (by simp)
  split at h
  · exact absurd h (by simp)
  rename_i hprivate
  refine ⟨fun hne => Classical.byContradiction fun hother => ?_, by simpa using hbanned, fun hp => ?_⟩
  · exact hpassword ⟨List.length_pos_iff.mpr hne, hother⟩
  · simpa [hp, Classical.or_iff_not_imp_left] using hprivate

/-- The calls on the room that avatars of `S` can issue. -/
def ByMember (S : Set UInt32) (room : RoomPtr) : RoomCall → Prop
  | .role _ on srcAvatarId _ => on = room ∧ srcAvatarId ∈ S
  | .operate (.enterRoom avatar _) on => on = room ∧ avatar.avatarId ∈ S
  | .operate (.leaveRoom avatar) on => on = room ∧ avatar.avatarId ∈ S
  | .operate (.kickAvatar srcAvatarId _) on => on = room ∧ srcAvatarId ∈ S
  | .operate (.addInvite srcAvatarId _) on => on = room ∧ srcAvatarId ∈ S
  | .operate (.removeInvite srcAvatarId _) on => on = room ∧ srcAvatarId ∈ S
  | _ => False

/-- Neither the creator nor a moderator of the room is in `S`. -/
structure Unprivileged (S : Set UInt32) (r : ChatRoom) : Prop where
  creator : r.creatorId ∉ S
  moderators : ∀ m ∈ r.moderators, m.avatarId ∉ S

section Steps

theorem Unprivileged.not_creator (h : Unprivileged S r) {avatarId : UInt32} (hid : avatarId ∈ S) :
    r.isCreator avatarId = false := by
  refine beq_eq_false_iff_ne.mpr ?_
  rintro rfl
  exact h.creator hid

theorem Unprivileged.not_moderator (h : Unprivileged S r) {avatarId : UInt32} (hid : avatarId ∈ S) :
    r.isModerator avatarId = false := by
  refine List.any_eq_false.mpr fun m hm heq => ?_
  exact h.moderators m hm (beq_iff_eq.mp heq ▸ hid)

theorem Unprivileged.not_passes (h : Unprivileged S r) {srcAvatarId : UInt32} (hid : srcAvatarId ∈ S)
    (operation : RoleOperation) (avatarId : UInt32) :
    operation.passes r srcAvatarId avatarId = false := by
  have hcreator := h.not_creator hid
  have hmoderator := h.not_moderator hid
  cases operation <;> simp [RoleOperation.passes, hcreator, hmoderator]

/-- What a call of theirs can do: nothing, let one of them in, or let one of them out. -/
theorem member_cases {c : RoomCall} (hr : s.rooms[room]? = some r) (h : Unprivileged S r)
    (hc : ByMember S room c) (hcall : s.call c = some t) :
    t = s ∨
      (∃ avatar password r', c = .operate (.enterRoom avatar password) room ∧ avatar.avatarId ∈ S ∧
        r.enterRoom avatar password = .ok r' ∧ t = s.updateRoom room fun _ => r') ∨
      ∃ avatar : AvatarPtr, avatar.avatarId ∈ S ∧ t = s.updateRoom room (·.leaveRoom avatar) := by
  cases c with
  | role operation on srcAvatarId avatar =>
    obtain ⟨rfl, hid⟩ := hc
    obtain ⟨r₀, hr₀, ⟨rfl, _⟩ | ⟨hpass, _⟩⟩ := role_cases hcall
    · exact .inl rfl
    · obtain rfl := Option.some.inj (hr.symm.trans hr₀)
      exact absurd hpass (by simp [h.not_passes hid])
  | operate operation on =>
    cases operation with
    | enterRoom avatar password =>
      obtain ⟨rfl, hid⟩ := hc
      have hrun := changeRoom_run hr (·.enterRoom avatar password)
      cases henter : r.enterRoom avatar password with
      | error code =>
        rw [henter] at hrun
        exact .inl (call_eq_of_run hcall hrun)
      | ok r' =>
        rw [henter] at hrun
        exact .inr (.inl ⟨avatar, password, r', rfl, hid, henter, call_eq_of_run hcall hrun⟩)
    | leaveRoom avatar =>
      obtain ⟨rfl, hid⟩ := hc
      exact .inr (.inr ⟨avatar, hid, call_eq_of_run hcall (writeRoom_of_getElem? hr _)⟩)
    | kickAvatar srcAvatarId destAvatar =>
      obtain ⟨rfl, hid⟩ := hc
      have hrun := changeRoom_run hr (·.kickAvatar srcAvatarId destAvatar)
      rw [ChatRoom.kickAvatar, h.not_moderator hid] at hrun
      exact .inl (call_eq_of_run hcall hrun)
    | addInvite srcAvatarId invited =>
      obtain ⟨rfl, hid⟩ := hc
      have hrun : StationChat.addInvite on srcAvatarId invited s =
          (.error (.chatResult .roomNoPrivileges []), s) := by
        rw [addInvite, addToList, bind_ok (readRoom_of_getElem? hr), h.not_moderator hid]
        rfl
      exact .inl (call_eq_of_run hcall hrun)
    | removeInvite srcAvatarId avatarId =>
      obtain ⟨rfl, hid⟩ := hc
      have hrun : StationChat.removeInvite on srcAvatarId avatarId s =
          (.error (.chatResult .roomNoPrivileges []), s) := by
        rw [removeInvite, removeFromList, bind_ok (readRoom_of_getElem? hr), h.not_moderator hid]
        rfl
      exact .inl (call_eq_of_run hcall hrun)
    | getNextMessageId => exact hc.elim
  | load => exact hc.elim
  | create => exact hc.elim
  | destroy => exact hc.elim
  | loadRole => exact hc.elim

end Steps

section Runs
variable {calls : List RoomCall}

/-- Only the members changed, only by avatars of `S`, and whoever of them came in was allowed to. -/
structure Contained (S : Set UInt32) (room : RoomPtr) (calls : List RoomCall) (r r' : ChatRoom) :
    Prop where
  lists : r' = { r with avatars := r'.avatars }
  others : ∀ a ∈ r.avatars, a.avatarId ∉ S → a ∈ r'.avatars
  joined : ∀ avatarId ∈ S, r.isInRoom avatarId = false → r'.isInRoom avatarId = true →
    r.isBanned avatarId = false ∧ (r.isPrivate = true → r.isInvited avatarId = true) ∧
      (r.roomPassword ≠ [] → ∃ avatar : AvatarPtr, avatar.avatarId = avatarId ∧
        .operate (.enterRoom avatar r.roomPassword) room ∈ calls)

theorem contained_refl : Contained S room calls r r :=
  ⟨rfl, fun _ ha _ => ha, fun _ _ hout hin => absurd hin (by simp [hout])⟩

theorem contained_leave {avatar : AvatarPtr} (hid : avatar.avatarId ∈ S) :
    Contained S room calls r (r.leaveRoom avatar) := by
  refine ⟨rfl, fun a ha hother => ?_, fun avatarId _ hout hin => ?_⟩
  · refine List.mem_filter.mpr ⟨ha, ?_⟩
    simp only [bne_iff_ne]
    exact fun heq => hother (heq ▸ hid)
  · obtain ⟨a, ha, heq⟩ := List.any_eq_true.mp hin
    have hthere : r.isInRoom avatarId = true := List.any_eq_true.mpr ⟨a, (List.mem_filter.mp ha).1, heq⟩
    exact absurd hthere (by simp [hout])

theorem contained_enter {avatar : AvatarPtr} {password : U16String} (h : Unprivileged S r)
    (hid : avatar.avatarId ∈ S) (henter : r.enterRoom avatar password = .ok r')
    (hcall : .operate (.enterRoom avatar password) room ∈ calls) : Contained S room calls r r' := by
  obtain ⟨hpassword, hbanned, hprivate⟩ := ChatRoom.enterRoom_allowed henter
  rw [ChatRoom.enterRoom_ok henter]
  refine ⟨rfl, fun a ha _ => List.mem_append_left _ ha, fun avatarId _ hout hin => ?_⟩
  have heq : avatar.avatarId = avatarId := by
    simp only [ChatRoom.isInRoom, List.any_append, List.any_cons, List.any_nil, Bool.or_false,
      Bool.or_eq_true, beq_iff_eq] at hin hout
    rcases hin with hin | hin
    · exact absurd hin (by simp [hout])
    · exact hin
  subst heq
  refine ⟨hbanned, fun hp => ?_, fun hne => ⟨avatar, rfl, ?_⟩⟩
  · rcases hprivate hp with hcreator | hinvited
    · exact absurd hcreator (by simp [h.not_creator hid])
    · exact hinvited
  · rwa [hpassword hne]

/-- One call, then others. -/
theorem Contained.trans {c : RoomCall} {r'' : ChatRoom} (h : Contained S room [c] r r')
    (h' : Contained S room calls r' r'') : Contained S room (c :: calls) r r'' := by
  have hlists := h.lists
  have hlists' := h'.lists
  have hbanned : r'.banned = r.banned := by rw [hlists]
  have hinvited : r'.invited = r.invited := by rw [hlists]
  have hattributes : r'.roomAttributes = r.roomAttributes := by rw [hlists]
  have hpassword : r'.roomPassword = r.roomPassword := by rw [hlists]
  refine ⟨?_, fun a ha hother => h'.others a (h.others a ha hother) hother, ?_⟩
  · rw [hlists', hlists]
  intro avatarId hid hout hin
  cases hmiddle : r'.isInRoom avatarId with
  | true =>
    obtain ⟨hban, hprivate, hentered⟩ := h.joined avatarId hid hout hmiddle
    refine ⟨hban, hprivate, fun hne => ?_⟩
    obtain ⟨avatar, heq, hmem⟩ := hentered hne
    exact ⟨avatar, heq, List.mem_cons.mpr (.inl (List.mem_singleton.mp hmem))⟩
  | false =>
    obtain ⟨hban, hprivate, hentered⟩ := h'.joined avatarId hid hmiddle hin
    simp only [ChatRoom.isBanned, ChatRoom.isPrivate, ChatRoom.isInvited, ChatRoom.hasAttribute,
      ChatRoom.inList, ChatRoom.list, hbanned, hinvited, hattributes, hpassword] at hban hprivate hentered
    refine ⟨hban, hprivate, fun hne => ?_⟩
    obtain ⟨avatar, heq, hmem⟩ := hentered hne
    exact ⟨avatar, heq, List.mem_cons_of_mem c hmem⟩

theorem member_step {c : RoomCall} (hr : s.rooms[room]? = some r) (h : Unprivileged S r)
    (hc : ByMember S room c) (hcall : s.call c = some t) :
    t.db = s.db ∧ ∃ r', t.rooms[room]? = some r' ∧ Contained S room [c] r r' := by
  rcases member_cases hr h hc hcall with rfl | ⟨avatar, password, r', rfl, hid, henter, rfl⟩ |
    ⟨avatar, hid, rfl⟩
  · exact ⟨rfl, r, hr, contained_refl⟩
  · exact ⟨rfl, r', getElem?_updateRoom hr,
      contained_enter h hid henter (List.mem_singleton_self _)⟩
  · exact ⟨rfl, _, getElem?_updateRoom hr, contained_leave hid⟩

/-- No number of calls by unprivileged avatars, in any order, does more. -/
theorem members_contained (hr : s.rooms[room]? = some r) (hcreator : r.creatorId ∉ S)
    (hmoderators : ∀ m ∈ r.moderators, m.avatarId ∉ S) (hcalls : ∀ c ∈ calls, ByMember S room c)
    (hrun : runInputs Server.call s calls = some t) :
    t.db = s.db ∧ ∃ r', t.rooms[room]? = some r' ∧ Contained S room calls r r' := by
  induction calls generalizing s r with
  | nil =>
    obtain rfl := Option.some.inj hrun
    exact ⟨rfl, r, hr, contained_refl⟩
  | cons c calls ih =>
    obtain ⟨u, hu, hrest⟩ := Option.bind_eq_some_iff.mp hrun
    obtain ⟨hc, hcalls⟩ := List.forall_mem_cons.mp hcalls
    obtain ⟨hdb, r', hr', hfirst⟩ := member_step hr ⟨hcreator, hmoderators⟩ hc hu
    have hlists := hfirst.lists
    have hcreator' : r'.creatorId ∉ S := by rw [hlists]; exact hcreator
    have hmoderators' : ∀ m ∈ r'.moderators, m.avatarId ∉ S := by rw [hlists]; exact hmoderators
    obtain ⟨hdb', r'', hr'', hthen⟩ := ih hr' hcreator' hmoderators' hcalls hrest
    exact ⟨hdb'.trans hdb, r'', hr'', hfirst.trans hthen⟩

/-- An avatar enters a room of another one and tries to make itself moderator. -/
theorem member_cannot_rise : ∃ t : Server, ∃ r' ∈ t.rooms[0]?,
    r'.isInRoom 2 = true ∧ r'.isModerator 2 = false := by
  have hrun : ∃ s ∈ Server.twoAvatars.call (createPersistent [0x72] [0x62]), ∃ r ∈ s.rooms[0]?,
      (r.creatorId = 1 ∧ r.moderators = [firstAvatar] ∧ r.isModerator 2 = false) ∧
      ∃ t ∈ runInputs Server.call s [.operate (.enterRoom secondAvatar []) 0,
        .role .addModerator 0 2 secondAvatar], ∃ r' ∈ t.rooms[0]?, r'.isInRoom 2 = true := by
    decide +kernel
  obtain ⟨s, _, r, hr, ⟨hcreator, hmoderators, hnot⟩, t, ht, r', hr', hin⟩ := hrun
  obtain ⟨_, r'', hr'', hcontained⟩ := members_contained (S := {2}) hr
    (by rw [hcreator]; exact (by decide : (1 : UInt32) ≠ 2))
    (by rw [hmoderators]; intro m hm; rw [List.mem_singleton.mp hm]; exact (by decide : (1 : UInt32) ≠ 2))
    (by simp [ByMember, secondAvatar]) ht
  obtain rfl := Option.some.inj (hr'.symm.trans hr'')
  refine ⟨t, r', hr', hin, ?_⟩
  rw [hcontained.lists]
  exact hnot

end Runs
end StationChat
