import StationChat.Rooms.Calls

/-! The lists of a room while its operations are called over a database that answers: each stays a set,
and each call changes one entry of one list. The maximum size takes part in none of this. -/
namespace StationChat
open Lib Lib.Action

/-- The lists the operations of a room change. -/
inductive Roll where
  | avatars
  | role (l : RoomList)
  deriving DecidableEq, Repr

namespace ChatRoom
variable {r : ChatRoom}

def roll (r : ChatRoom) : Roll → List AvatarPtr
  | .avatars => r.avatars
  | .role l => r.list l

def setRoll (r : ChatRoom) : Roll → List AvatarPtr → ChatRoom
  | .avatars, as => { r with avatars := as }
  | .role l, as => r.setList l as

/-- No list names an avatar id twice. -/
def Sets (r : ChatRoom) : Prop := ∀ roll, ((r.roll roll).map (·.avatarId)).Nodup

/-- `IsInRoom` and its siblings for the role lists. -/
def onRoll (r : ChatRoom) (roll : Roll) (avatarId : UInt32) : Bool :=
  (r.roll roll).any (·.avatarId == avatarId)

theorem onRoll_eq_false {roll : Roll} {avatarId : UInt32} :
    r.onRoll roll avatarId = false ↔ ∀ q ∈ r.roll roll, q.avatarId ≠ avatarId := by
  simp [onRoll]

@[simp] theorem roll_setRoll_self (roll : Roll) (as : List AvatarPtr) :
    (r.setRoll roll as).roll roll = as := by
  cases roll with
  | avatars => rfl
  | role l => exact list_setList_self l as

@[simp] theorem setRoll_self (roll : Roll) : r.setRoll roll (r.roll roll) = r := by
  cases roll with
  | avatars => rfl
  | role l => exact setList_self l

theorem roll_setRoll_of_ne {roll other : Roll} (h : other ≠ roll) (as : List AvatarPtr) :
    (r.setRoll roll as).roll other = r.roll other := by
  cases roll with
  | avatars =>
    cases other with
    | avatars => exact absurd rfl h
    | role l => cases l <;> rfl
  | role l =>
    cases other with
    | avatars => cases l <;> rfl
    | role m => exact list_setList_of_ne (fun heq => h (congrArg Roll.role heq)) as

theorem setRoll_frame (r : ChatRoom) (roll : Roll) (as : List AvatarPtr) :
    (r.setRoll roll as).roomService = r.roomService ∧
      (r.setRoll roll as).maxRoomSize = r.maxRoomSize := by
  cases roll with
  | avatars => exact ⟨rfl, rfl⟩
  | role l => cases l <;> exact ⟨rfl, rfl⟩

theorem Sets.setRoll (h : r.Sets) {roll : Roll} {as : List AvatarPtr}
    (hnodup : (as.map (·.avatarId)).Nodup) : (r.setRoll roll as).Sets := by
  intro other
  by_cases heq : other = roll
  · subst heq
    rwa [roll_setRoll_self]
  · rw [roll_setRoll_of_ne heq]
    exact h other

/-- In a set at most one entry goes when an avatar is taken out. -/
theorem Sets.remove (h : r.Sets) (roll : Roll) {avatarId : UInt32} (hin : r.onRoll roll avatarId = true) :
    ∃ front q back, r.roll roll = front ++ q :: back ∧ q.avatarId = avatarId ∧
      (r.roll roll).filter (·.avatarId != avatarId) = front ++ back := by
  obtain ⟨q, hq, hid⟩ := List.any_eq_true.mp hin
  obtain rfl := beq_iff_eq.mp hid
  obtain ⟨front, back, hsplit⟩ := List.append_of_mem hq
  have hnodup := h roll
  rw [hsplit, List.map_append, List.map_cons] at hnodup
  obtain ⟨_, hback, hapart⟩ := List.nodup_append.mp hnodup
  have hfront : ∀ p ∈ front, p.avatarId ≠ q.avatarId := fun p hp =>
    hapart _ (List.mem_map_of_mem hp) _ List.mem_cons_self
  have hbehind : ∀ p ∈ back, p.avatarId ≠ q.avatarId := fun p hp heq =>
    (List.nodup_cons.mp hback).1 (heq ▸ List.mem_map_of_mem hp)
  refine ⟨front, q, back, hsplit, rfl, ?_⟩
  rw [hsplit, List.filter_append, List.filter_cons_of_neg (by simp),
    List.filter_eq_self.mpr fun p hp => by simpa using hfront p hp,
    List.filter_eq_self.mpr fun p hp => by simpa using hbehind p hp]

theorem filter_of_not_onRoll (roll : Roll) {avatarId : UInt32} (h : r.onRoll roll avatarId = false) :
    (r.roll roll).filter (·.avatarId != avatarId) = r.roll roll :=
  List.filter_eq_self.mpr fun p hp => by simpa using onRoll_eq_false.mp h p hp

end ChatRoom

/-- The entry an operation is about. -/
inductive Edit where
  | add (roll : Roll) (avatar : AvatarPtr)
  | remove (roll : Roll) (avatarId : UInt32)

/-- The avatar is new behind the others, or its one entry is gone. Nothing else of the room changes. -/
def Edit.Applied (r r' : ChatRoom) : Edit → Prop
  | .add roll avatar => r.onRoll roll avatar.avatarId = false ∧
      r' = r.setRoll roll (r.roll roll ++ [avatar])
  | .remove roll avatarId => ∃ front q back, r.roll roll = front ++ q :: back ∧
      q.avatarId = avatarId ∧ r' = r.setRoll roll (front ++ back)

def RoleOperation.edit (avatar : AvatarPtr) (operation : RoleOperation) : Edit :=
  match operation with
  | addAdministrator | addModerator | addBanned => .add (.role operation.table.list) avatar
  | removeAdministrator | removeModerator | removeBanned =>
    .remove (.role operation.table.list) avatar.avatarId

/-- The operations that change the lists of a room, each with what it is about. -/
inductive RoomCall.Edits (room : RoomPtr) : RoomCall → Edit → Prop
  | enterRoom (avatar : AvatarPtr) (password : U16String) :
    Edits room (.operate (.enterRoom avatar password) room) (.add .avatars avatar)
  | leaveRoom (avatar : AvatarPtr) :
    Edits room (.operate (.leaveRoom avatar) room) (.remove .avatars avatar.avatarId)
  | kickAvatar (srcAvatarId : UInt32) (destAvatar : AvatarPtr) :
    Edits room (.operate (.kickAvatar srcAvatarId destAvatar) room)
      (.remove .avatars destAvatar.avatarId)
  | addInvite (srcAvatarId : UInt32) (invited : AvatarPtr) :
    Edits room (.operate (.addInvite srcAvatarId invited) room) (.add (.role .invited) invited)
  | removeInvite (srcAvatarId avatarId : UInt32) :
    Edits room (.operate (.removeInvite srcAvatarId avatarId) room) (.remove (.role .invited) avatarId)
  | role (operation : RoleOperation) (srcAvatarId : UInt32) (avatar : AvatarPtr) :
    Edits room (.role operation room srcAvatarId avatar) (operation.edit avatar)

/-- The calls that succeed and change nothing. -/
inductive RoomCall.Idle (r : ChatRoom) : RoomCall → Prop
  | leaveRoom {room : RoomPtr} {avatar : AvatarPtr} (h : r.isInRoom avatar.avatarId = false) :
    Idle r (.operate (.leaveRoom avatar) room)
  | addAdministrator {room : RoomPtr} {srcAvatarId : UInt32} {avatar : AvatarPtr}
      (h : r.isAdministrator avatar.avatarId = true) :
    Idle r (.role .addAdministrator room srcAvatarId avatar)
  | removeAdministrator {room : RoomPtr} {srcAvatarId : UInt32} {avatar : AvatarPtr}
      (h : r.isAdministrator avatar.avatarId = false) :
    Idle r (.role .removeAdministrator room srcAvatarId avatar)

/-- How a call that is about one entry ends, and the room after it. -/
inductive EditEnds (c : RoomCall) (e : Edit) (r : ChatRoom) : Except Exn Unit → ChatRoom → Prop
  | refused (code : ChatResultCode) (h : code ≠ .roomMaxAvatarsReached) :
    EditEnds c e r (.error (.chatResult code [])) r
  | applied {r' : ChatRoom} (h : e.Applied r r') : EditEnds c e r (.ok ()) r'
  | idle (h : c.Idle r) : EditEnds c e r (.ok ()) r

section Calls
variable {s t : Server} {room : RoomPtr} {r : ChatRoom} {c : RoomCall} {e : Edit}

theorem set_room_self (hr : s.rooms[room]? = some r) : s.rooms.set room r = s.rooms := by
  obtain ⟨hlt, rfl⟩ := List.getElem?_eq_some_iff.mp hr
  exact List.set_getElem_self hlt

/-- Over a database that answers, a change of a list with a table is written. -/
private theorem storeRole_answers (hr : s.rooms[room]? = some r) (howner : r.roomService = .owner)
    (hworks : ∀ n, s.fails n = false) (as : List AvatarPtr) (operation : RoleOperation)
    (avatarId : UInt32) :
    ∃ t, storeRole room operation.table.list as
        (some fun roomId => execute (operation.statement avatarId roomId)) s = (.ok (), t) ∧
      t.rooms = s.rooms.set room (r.setList operation.table.list as) ∧ t.fails = s.fails := by
  have hset := updateRoom_eq_set hr (·.setList operation.table.list as)
  rw [storeRole_run hr, howner]
  split
  · exact ⟨_, execute_ok (hworks _) (operation.statement_run _ _ _), hset, rfl⟩
  · exact ⟨_, rfl, hset, rfl⟩

/-- What is found when the checks of a role operation pass, and what the operation then makes of the
list. -/
private theorem role_edit (hsets : r.Sets) {operation : RoleOperation} {srcAvatarId : UInt32}
    {avatar : AvatarPtr} (hpass : operation.passes r srcAvatarId avatar.avatarId = true) :
    EditEnds (.role operation room srcAvatarId avatar) (operation.edit avatar) r (.ok ())
      (r.setList operation.table.list (operation.changed r avatar)) := by
  have hremoved : ∀ l, r.inList l avatar.avatarId = true →
      (Edit.remove (.role l) avatar.avatarId).Applied r
        (r.setList l ((r.list l).filter (·.avatarId != avatar.avatarId))) := by
    intro l hin
    obtain ⟨front, q, back, hsplit, hid, hfilter⟩ := hsets.remove (.role l) hin
    exact ⟨front, q, back, hsplit, hid, congrArg (r.setList l) hfilter⟩
  cases operation with
  | addAdministrator | addModerator | addBanned =>
    have hnew := (Bool.and_eq_true_iff.mp hpass).2
    exact .applied ⟨(Bool.not_eq_true' _).mp hnew, rfl⟩
  | removeAdministrator =>
    cases hin : r.isAdministrator avatar.avatarId with
    | true => exact .applied (hremoved .administrators hin)
    | false =>
      have hkept : r.setList RoleOperation.removeAdministrator.table.list
          (RoleOperation.changed r avatar .removeAdministrator) = r :=
        (congrArg (r.setList .administrators)
          (ChatRoom.filter_of_not_onRoll (.role .administrators) hin)).trans
          (ChatRoom.setList_self .administrators)
      rw [hkept]
      exact .idle (.removeAdministrator hin)
  | removeModerator => exact .applied (hremoved .moderators (Bool.and_eq_true_iff.mp hpass).2)
  | removeBanned => exact .applied (hremoved .banned (Bool.and_eq_true_iff.mp hpass).2)

/-- An operation whose checks fail is refused, unless it has nothing to do. -/
private theorem role_refused {operation : RoleOperation} {srcAvatarId : UInt32} {avatar : AvatarPtr}
    (hpass : operation.passes r srcAvatarId avatar.avatarId = false) :
    EditEnds (.role operation room srcAvatarId avatar) (operation.edit avatar) r
      (operation.refusal r srcAvatarId) r := by
  cases operation with
  | addAdministrator =>
    cases hc : r.isCreator srcAvatarId with
    | false => simpa [RoleOperation.refusal, hc] using .refused _ (by decide)
    | true =>
      have hthere : r.isAdministrator avatar.avatarId = true := by
        simpa [RoleOperation.passes, hc] using hpass
      simpa [RoleOperation.refusal, hc] using .idle (.addAdministrator hthere)
  | removeAdministrator =>
    cases hc : r.isCreator srcAvatarId with
    | false => simpa [RoleOperation.refusal, hc] using .refused _ (by decide)
    | true =>
      have hempty : r.administrators = [] := by
        simpa [RoleOperation.passes, hc] using hpass
      have hout : r.isAdministrator avatar.avatarId = false := by
        simp [ChatRoom.isAdministrator, ChatRoom.inList, ChatRoom.list, hempty]
      simpa [RoleOperation.refusal, hc] using .idle (.removeAdministrator hout)
  | addModerator | removeModerator =>
    cases hc : r.isCreator srcAvatarId <;>
      simpa [RoleOperation.refusal, hc] using .refused _ (by decide)
  | addBanned | removeBanned =>
    cases hc : r.isModerator srcAvatarId <;>
      simpa [RoleOperation.refusal, hc] using .refused _ (by decide)

/-- What each call does to a room whose lists are sets. -/
theorem edits_run (hr : s.rooms[room]? = some r) (howner : r.roomService = .owner)
    (hworks : ∀ n, s.fails n = false) (hsets : r.Sets) (h : c.Edits room e) :
    ∃ result t r', c.run s = (result, t) ∧ t.rooms = s.rooms.set room r' ∧ t.fails = s.fails ∧
      EditEnds c e r result r' := by
  have hwrites : ∀ f : ChatRoom → ChatRoom, ∃ t, writeRoom room f s = (.ok (), t) ∧
      t.rooms = s.rooms.set room (f r) ∧ t.fails = s.fails := fun f =>
    ⟨_, writeRoom_of_getElem? hr f, updateRoom_eq_set hr f, rfl⟩
  have hkept := (set_room_self hr).symm
  cases h with
  | enterRoom avatar password =>
    have hrun := changeRoom_run hr (·.enterRoom avatar password)
    cases henter : r.enterRoom avatar password with
    | error code =>
      rw [henter] at hrun
      have hcode : code ≠ .roomMaxAvatarsReached :=
        ne_of_mem_of_not_mem (ChatRoom.enterRoom_refused henter) (by decide)
      exact ⟨_, s, r, hrun, hkept, rfl, .refused code hcode⟩
    | ok r' =>
      rw [henter] at hrun
      refine ⟨_, _, r', hrun, updateRoom_eq_set hr _, rfl, .applied ⟨?_, ?_⟩⟩
      · exact ChatRoom.enterRoom_isInRoom henter
      · exact ChatRoom.enterRoom_ok henter
  | leaveRoom avatar =>
    obtain ⟨t, hrun, hrooms, hfails⟩ := hwrites (·.leaveRoom avatar)
    refine ⟨_, t, _, hrun, hrooms, hfails, ?_⟩
    cases hin : r.isInRoom avatar.avatarId with
    | true =>
      obtain ⟨front, q, back, hsplit, hid, hfilter⟩ := hsets.remove .avatars hin
      exact .applied ⟨front, q, back, hsplit, hid, congrArg (r.setRoll .avatars) hfilter⟩
    | false =>
      have hsame : r.leaveRoom avatar = r :=
        (congrArg (r.setRoll .avatars) (ChatRoom.filter_of_not_onRoll .avatars hin)).trans
          (ChatRoom.setRoll_self .avatars)
      rw [hsame]
      exact .idle (.leaveRoom hin)
  | kickAvatar srcAvatarId destAvatar =>
    have hrun := changeRoom_run hr (·.kickAvatar srcAvatarId destAvatar)
    cases hkick : r.kickAvatar srcAvatarId destAvatar with
    | error code =>
      rw [hkick] at hrun
      have hcode : code ≠ .roomMaxAvatarsReached :=
        ne_of_mem_of_not_mem (ChatRoom.kickAvatar_refused hkick) (by decide)
      exact ⟨_, s, r, hrun, hkept, rfl, .refused code hcode⟩
    | ok r' =>
      rw [hkick] at hrun
      obtain ⟨front, q, back, hsplit, hid, hfilter⟩ :=
        hsets.remove .avatars (ChatRoom.kickAvatar_isInRoom hkick)
      obtain rfl := ChatRoom.kickAvatar_ok hkick
      exact ⟨_, _, _, hrun, updateRoom_eq_set hr _, rfl,
        .applied ⟨front, q, back, hsplit, hid, congrArg (r.setRoll .avatars) hfilter⟩⟩
  | addInvite srcAvatarId invited =>
    have hrun := addToList_run hr .invited (·.isModerator srcAvatarId) .roomDuplicateInvite none invited
    split at hrun
    · rename_i hpass
      have hnew := (Bool.and_eq_true_iff.mp hpass).2
      exact ⟨_, _, _, hrun.trans (storeRole_none_run hr _ _), updateRoom_eq_set hr _, rfl,
        .applied ⟨(Bool.not_eq_true' _).mp hnew, rfl⟩⟩
    · exact ⟨_, s, r, hrun, hkept, rfl, .refused _ (by split <;> decide)⟩
  | removeInvite srcAvatarId avatarId =>
    have hrun := removeFromList_run hr .invited (·.isModerator srcAvatarId) .roomDestAvatarNotInvited none
      avatarId
    split at hrun
    · rename_i hpass
      obtain ⟨front, q, back, hsplit, hid, hfilter⟩ :=
        hsets.remove (.role .invited) (Bool.and_eq_true_iff.mp hpass).2
      exact ⟨_, _, _, hrun.trans (storeRole_none_run hr _ _), updateRoom_eq_set hr _, rfl,
        .applied ⟨front, q, back, hsplit, hid, congrArg (r.setList .invited) hfilter⟩⟩
    · exact ⟨_, s, r, hrun, hkept, rfl, .refused _ (by split <;> decide)⟩
  | role operation srcAvatarId avatar =>
    have hrun := operation.run_eq hr srcAvatarId avatar
    cases hpass : operation.passes r srcAvatarId avatar.avatarId with
    | false =>
      rw [if_neg (by simp [hpass])] at hrun
      exact ⟨_, s, r, hrun, hkept, rfl, role_refused hpass⟩
    | true =>
      rw [if_pos hpass] at hrun
      obtain ⟨t, hstore, hrooms, hfails⟩ :=
        storeRole_answers hr howner hworks (operation.changed r avatar) operation avatar.avatarId
      exact ⟨_, t, _, hrun.trans hstore, hrooms, hfails, role_edit hsets hpass⟩

end Calls

section Runs
variable {s t : Server} {room : RoomPtr} {r r' : ChatRoom} {c : RoomCall} {e : Edit}
  {result : Except Exn Unit}

theorem Edit.Applied.sets (h : e.Applied r r') (hsets : r.Sets) : r'.Sets := by
  cases e with
  | add roll avatar =>
    obtain ⟨hnew, rfl⟩ := h
    apply hsets.setRoll
    rw [List.map_append, List.nodup_append]
    refine ⟨hsets roll, by simp, ?_⟩
    intro id hid id' hid'
    obtain ⟨q, hq, rfl⟩ := List.mem_map.mp hid
    obtain rfl : id' = avatar.avatarId := by simpa using hid'
    exact ChatRoom.onRoll_eq_false.mp hnew q hq
  | remove roll avatarId =>
    obtain ⟨front, q, back, hsplit, _, rfl⟩ := h
    apply hsets.setRoll
    have hnodup := hsets roll
    rw [hsplit] at hnodup
    exact hnodup.sublist (((List.sublist_cons_self q back).append_left front).map _)

theorem Edit.Applied.frame (h : e.Applied r r') :
    r'.roomService = r.roomService ∧ r'.maxRoomSize = r.maxRoomSize := by
  cases e with
  | add roll avatar =>
    obtain ⟨_, rfl⟩ := h
    exact r.setRoll_frame roll _
  | remove roll avatarId =>
    obtain ⟨front, q, back, _, _, rfl⟩ := h
    exact r.setRoll_frame roll _

/-- What holds of a room in every state of a run of its operations. -/
structure KeepsSets (m : UInt32) (r : ChatRoom) : Prop where
  sets : r.Sets
  owner : r.roomService = .owner
  maximum : r.maxRoomSize = m

theorem EditEnds.keepsSets {m : UInt32} (h : EditEnds c e r result r') (hr : KeepsSets m r) :
    KeepsSets m r' := by
  cases h with
  | refused | idle => exact hr
  | applied happlied =>
    obtain ⟨howner, hmax⟩ := happlied.frame
    exact ⟨happlied.sets hr.sets, howner.trans hr.owner, hmax.trans hr.maximum⟩

/-- Built by the ten-argument constructor. A persistent room has received the id of its row. -/
def ChatRoom.Made (r : ChatRoom) : Prop :=
  ∃ roomId creator roomName roomTopic roomPassword roomAttributes maxRoomSize roomAddress dbId,
    r = { ChatRoom.make roomId creator roomName roomTopic roomPassword roomAttributes maxRoomSize
      roomAddress with dbId := dbId }

theorem ChatRoom.Made.keepsSets (h : r.Made) : KeepsSets r.maxRoomSize r := by
  obtain ⟨roomId, creator, roomName, roomTopic, roomPassword, roomAttributes, maxRoomSize, roomAddress,
    dbId, rfl⟩ := h
  refine ⟨fun roll => ?_, rfl, rfl⟩
  cases roll with
  | avatars => exact List.nodup_nil
  | role l => cases l <;> simp [ChatRoom.roll, ChatRoom.list, ChatRoom.make]

/-- The room is there, with its lists as sets, over a database that answers. -/
def Server.Keeping (s : Server) (room : RoomPtr) (m : UInt32) : Prop :=
  (∃ r, s.rooms[room]? = some r ∧ KeepsSets m r) ∧ ∀ n, s.fails n = false

theorem keeping_run {m : UInt32} (hs : s.Keeping room m)
    (h : Server.Calls (fun _ c => ∃ e, c.Edits room e) s t) : t.Keeping room m := by
  refine Runs.invariant (I := fun u => u.Keeping room m) h hs fun u c v hu ⟨e, hc⟩ hcall => ?_
  obtain ⟨⟨r, hr, hkeeps⟩, hworks⟩ := hu
  obtain ⟨result, w, r', hrun, hrooms, hfails, hends⟩ :=
    edits_run hr hkeeps.owner hworks hkeeps.sets hc
  obtain ⟨_, hcallRun⟩ := Server.call_eq_some hcall
  obtain rfl := (Prod.mk.inj (hcallRun.symm.trans hrun)).2
  have hlt := (List.getElem?_eq_some_iff.mp hr).1
  refine ⟨⟨r', ?_, hends.keepsSets hkeeps⟩, fun n => ?_⟩
  · rw [hrooms, List.getElem?_set_self hlt]
  · rw [hfails]
    exact hworks n

/-- In every state the lists are sets, and the next call is refused without an effect or changes the
one entry it is about. -/
theorem room_lists_are_sets (hr : s.rooms[room]? = some r) (hmade : r.Made)
    (hworks : ∀ n, s.fails n = false)
    (hrun : Server.Calls (fun _ c => ∃ e, c.Edits room e) s t) :
    ∃ r, t.rooms[room]? = some r ∧ r.Sets ∧ ∀ c e, c.Edits room e →
      ∃ result u r', c.run t = (result, u) ∧ u.rooms = t.rooms.set room r' ∧
        EditEnds c e r result r' := by
  obtain ⟨⟨r, hr, hkeeps⟩, hfails⟩ := keeping_run ⟨⟨r, hr, hmade.keepsSets⟩, hworks⟩ hrun
  refine ⟨r, hr, hkeeps.sets, fun c e hc => ?_⟩
  obtain ⟨result, u, r', hcall, hrooms, _, hends⟩ := edits_run hr hkeeps.owner hfails hkeeps.sets hc
  exact ⟨result, u, r', hcall, hrooms, hends⟩

/-- A room that its creator has just opened. -/
def ChatRoom.opened (maxRoomSize : UInt32) : ChatRoom :=
  .make 0 firstAvatar [0x72] [] [] RoomAttribute.persistent.mask maxRoomSize [0x62]

def Server.oneRoom (maxRoomSize : UInt32) : Server :=
  { Server.twoAvatars with rooms := [.opened maxRoomSize] }

theorem ChatRoom.made_opened (maxRoomSize : UInt32) : (ChatRoom.opened maxRoomSize).Made :=
  ⟨0, firstAvatar, [0x72], [], [], RoomAttribute.persistent.mask, maxRoomSize, [0x62], -1, rfl⟩

/-- The creator bans another avatar, which is refused when it enters. -/
theorem room_lists_are_sets_ban : ∃ t : Server, ∃ r ∈ t.rooms[0]?, r.Sets ∧
    r.banned = [secondAvatar] ∧ r.avatars = [firstAvatar] := by
  have hrun : ∃ t ∈ runInputs Server.call (Server.oneRoom 2)
      [.role .addBanned 0 1 secondAvatar, .operate (.enterRoom firstAvatar []) 0,
        .operate (.enterRoom secondAvatar []) 0],
      ∃ r ∈ t.rooms[0]?, r.banned = [secondAvatar] ∧ r.avatars = [firstAvatar] := by
    decide +kernel
  obtain ⟨t, ht, r, hr, hlists⟩ := hrun
  have hcalls : Server.Calls (fun _ c => ∃ e, c.Edits 0 e) (Server.oneRoom 2) t := by
    apply Runs.of_members ht
    simp only [List.forall_mem_cons]
    exact fun _ => ⟨⟨_, .role _ _ _⟩, ⟨_, .enterRoom _ _⟩, ⟨_, .enterRoom _ _⟩, by simp⟩
  obtain ⟨r', hr', hsets, _⟩ := room_lists_are_sets rfl (ChatRoom.made_opened 2) (fun _ => rfl) hcalls
  obtain rfl := Option.some.inj (hr.symm.trans hr')
  exact ⟨t, r, hr, hsets, hlists⟩

end Runs

section Size
variable {s t : Server} {room : RoomPtr} {r r' : ChatRoom} {c : RoomCall} {e : Edit}

/-- The checks of `EnterRoom` are the same whatever the maximum is. -/
theorem enterRoom_maxRoomSize (r : ChatRoom) (n : UInt32) (avatar : AvatarPtr) (password : U16String) :
    ({ r with maxRoomSize := n } : ChatRoom).enterRoom avatar password =
      (r.enterRoom avatar password).map fun r' => { r' with maxRoomSize := n } := by
  unfold ChatRoom.enterRoom
  simp only [apply_ite (Except.map _)]
  rfl

/-- The call is an `EnterRoom` that succeeds. -/
def RoomCall.Admits (room : RoomPtr) (c : RoomCall) (s : Server) : Prop :=
  (∃ avatar password, c = .operate (.enterRoom avatar password) room) ∧ (c.run s).1 = .ok ()

/-- The room has fewer avatars than its maximum. -/
def Server.HasSpace (s : Server) (room : RoomPtr) : Prop :=
  ∀ r ∈ s.rooms[room]?, r.getCurrentRoomSize < r.getMaxRoomSize

theorem RoomCall.Edits.enters (h : c.Edits room e) {avatar : AvatarPtr}
    (he : e = .add .avatars avatar) :
    ∃ password, c = .operate (.enterRoom avatar password) room := by
  cases h with
  | enterRoom _ password =>
    obtain ⟨_, rfl⟩ := Edit.add.inj he
    exact ⟨password, rfl⟩
  | role operation => cases operation <;> exact absurd he (by simp [RoleOperation.edit])
  | leaveRoom | kickAvatar | addInvite | removeInvite => exact absurd he (by simp)

/-- Only an `EnterRoom` that succeeds makes the room larger, by one avatar. -/
theorem EditEnds.size {result : Except Exn Unit} (h : EditEnds c e r result r')
    (hc : c.Edits room e) (hrun : (c.run s).1 = result) :
    r'.avatars.length ≤ r.avatars.length ∨
      c.Admits room s ∧ r'.avatars.length = r.avatars.length + 1 := by
  cases h with
  | refused | idle => exact .inl (Nat.le_refl _)
  | applied happlied =>
    cases e with
    | add roll avatar =>
      obtain ⟨_, rfl⟩ := happlied
      cases roll with
      | role l =>
        have hsame := r.roll_setRoll_of_ne (by simp : Roll.avatars ≠ .role l) (r.list l ++ [avatar])
        exact .inl (Nat.le_of_eq (congrArg List.length hsame))
      | avatars =>
        obtain ⟨password, hcall⟩ := hc.enters rfl
        exact .inr ⟨⟨⟨avatar, password, hcall⟩, hrun⟩, List.length_append⟩
    | remove roll avatarId =>
      obtain ⟨front, q, back, hsplit, _, rfl⟩ := happlied
      cases roll with
      | role l =>
        have hsame := r.roll_setRoll_of_ne (by simp : Roll.avatars ≠ .role l) (front ++ back)
        exact .inl (Nat.le_of_eq (congrArg List.length hsame))
      | avatars =>
        have hlength : r.avatars.length = (front ++ q :: back).length := congrArg List.length hsplit
        have hless : (r.setRoll .avatars (front ++ back)).avatars.length = (front ++ back).length := rfl
        simp only [List.length_append, List.length_cons] at hlength hless
        omega

/-- In a run that lets avatars in while there is space, the room stays within its maximum. -/
private theorem size_of_run {m : UInt32} (hs : s.Keeping room m)
    (hempty : ∀ r ∈ s.rooms[room]?, r.avatars.length ≤ m.toNat)
    (hrun : Server.Calls (fun u c => (∃ e, c.Edits room e) ∧ (c.Admits room u → u.HasSpace room)) s t) :
    t.Keeping room m ∧ ∀ r ∈ t.rooms[room]?, r.avatars.length ≤ m.toNat := by
  refine Runs.invariant (I := fun u => u.Keeping room m ∧ ∀ r ∈ u.rooms[room]?, r.avatars.length ≤ m.toNat)
    hrun ⟨hs, hempty⟩ fun u c v ⟨hu, hsize⟩ ⟨⟨e, hc⟩, hspace⟩ hcall => ?_
  refine ⟨keeping_run hu (.single ⟨c, ⟨e, hc⟩, hcall⟩), ?_⟩
  obtain ⟨⟨r, hr, hkeeps⟩, hworks⟩ := hu
  obtain ⟨result, w, r', hcallRun, hrooms, _, hends⟩ :=
    edits_run hr hkeeps.owner hworks hkeeps.sets hc
  obtain ⟨_, hcalled⟩ := Server.call_eq_some hcall
  obtain rfl := (Prod.mk.inj (hcalled.symm.trans hcallRun)).2
  rw [hrooms, List.getElem?_set_self (List.getElem?_eq_some_iff.mp hr).1]
  rintro _ ⟨⟩
  have hbefore := hsize r hr
  rcases hends.size hc (congrArg Prod.fst hcallRun) with hless | ⟨hadmits, hmore⟩
  · exact Nat.le_trans hless hbefore
  · have hlt : (UInt32.ofNat r.avatars.length).toNat < r.maxRoomSize.toNat := hspace hadmits r hr
    rw [UInt32.toNat_ofNat', hkeeps.maximum] at hlt
    have hbound := m.toNat_lt
    omega

/-- The maximum is a value the room reports. It decides nothing, and holds where avatars come in only
while there is space. -/
theorem room_size_within_maximum (hr : s.rooms[room]? = some r) (hmade : r.Made)
    (hworks : ∀ n, s.fails n = false)
    (hrun : Server.Calls (fun _ c => ∃ e, c.Edits room e) s t) :
    ∃ r', t.rooms[room]? = some r' ∧ r'.getMaxRoomSize = r.getMaxRoomSize ∧
      (∀ n avatar password, ({ r' with maxRoomSize := n } : ChatRoom).enterRoom avatar password =
        (r'.enterRoom avatar password).map fun after => { after with maxRoomSize := n }) ∧
      (∀ (c : RoomCall) e u code message, c.Edits room e → c.run t = (.error (.chatResult code message), u) →
        code ≠ .roomMaxAvatarsReached) ∧
      (Server.Calls (fun u c => (∃ e, c.Edits room e) ∧ (c.Admits room u → u.HasSpace room)) s t →
        r'.getCurrentRoomSize ≤ r'.getMaxRoomSize) := by
  have hs : s.Keeping room r.maxRoomSize := ⟨⟨r, hr, hmade.keepsSets⟩, hworks⟩
  have hempty : ∀ r' ∈ s.rooms[room]?, r'.avatars.length ≤ r.maxRoomSize.toNat := by
    intro r' hr'
    obtain rfl := Option.some.inj (hr.symm.trans hr')
    obtain ⟨_, _, _, _, _, _, _, _, _, rfl⟩ := hmade
    exact Nat.zero_le _
  obtain ⟨⟨r', hr', hkeeps⟩, hfails⟩ := keeping_run hs hrun
  refine ⟨r', hr', hkeeps.maximum, enterRoom_maxRoomSize r', ?_, fun hspace => ?_⟩
  · intro c e u code message hc hfailed
    obtain ⟨result, v, r'', hcall, _, _, hends⟩ := edits_run hr' hkeeps.owner hfails hkeeps.sets hc
    obtain rfl := (Prod.mk.inj (hcall.symm.trans hfailed)).1
    cases hends with
    | refused _ hcode => exact hcode
  · have hsize := (size_of_run hs hempty hspace).2 r' hr'
    rw [UInt32.le_iff_toNat_le, ChatRoom.getCurrentRoomSize, UInt32.toNat_ofNat',
      ChatRoom.getMaxRoomSize, hkeeps.maximum]
    exact Nat.le_trans (Nat.mod_le _ _) hsize

/-- One avatar enters a room for two. -/
theorem room_size_within_maximum_one : ∃ t : Server, ∃ r ∈ t.rooms[0]?,
    r.getCurrentRoomSize = 1 ∧ r.getMaxRoomSize = 2 ∧ r.getCurrentRoomSize ≤ r.getMaxRoomSize := by
  have hrun : ∃ t ∈ (Server.oneRoom 2).call (.operate (.enterRoom secondAvatar []) 0),
      ∃ r ∈ t.rooms[0]?, r.getCurrentRoomSize = 1 := by decide +kernel
  obtain ⟨t, ht, r, hr, hsize⟩ := hrun
  have hcalls : Server.Calls (fun _ c => ∃ e, c.Edits 0 e) (Server.oneRoom 2) t :=
    .single ⟨_, ⟨_, .enterRoom _ _⟩, ht⟩
  have hspace : (Server.oneRoom 2).HasSpace 0 := by
    intro r hr
    rw [← Option.some.inj hr]
    decide
  obtain ⟨r', hr', hmax, _, _, hwithin⟩ :=
    room_size_within_maximum rfl (ChatRoom.made_opened 2) (fun _ => rfl) hcalls
  obtain rfl := Option.some.inj (hr.symm.trans hr')
  exact ⟨t, r, hr, hsize, hmax, hwithin (.single ⟨_, ⟨⟨_, .enterRoom _ _⟩, fun _ => hspace⟩, ht⟩)⟩

/-- Two avatars enter a room made for one. -/
theorem room_exceeds_maximum : ∃ t, Server.Calls (fun _ c => ∃ e, c.Edits 0 e) (Server.oneRoom 1) t ∧
    ∃ r ∈ t.rooms[0]?, ¬ r.getCurrentRoomSize ≤ r.getMaxRoomSize := by
  have hrun : ∃ t ∈ runInputs Server.call (Server.oneRoom 1) [.operate (.enterRoom firstAvatar []) 0,
      .operate (.enterRoom secondAvatar []) 0],
      ∃ r ∈ t.rooms[0]?, ¬ r.getCurrentRoomSize ≤ r.getMaxRoomSize := by decide +kernel
  obtain ⟨t, ht, r, hr, hexceeds⟩ := hrun
  refine ⟨t, Runs.of_members ht ?_, r, hr, hexceeds⟩
  simp only [List.forall_mem_cons]
  exact fun _ => ⟨⟨_, .enterRoom _ _⟩, ⟨_, .enterRoom _ _⟩, by simp⟩

end Size
end StationChat
