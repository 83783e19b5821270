import StationChat.Rooms.Calls

/-! What the calls on one room leave alone: which rooms there are, and their rows. -/
namespace StationChat
open Lib Lib.Action Lib.Contract

/-- A room without its lists and its message counter. -/
def ChatRoom.identity (r : ChatRoom) : ChatRoom :=
  { r with
    roomMessageId := 0
    avatars := []
    administrators := []
    moderators := []
    tempModerators := []
    banned := []
    invited := []
    voice := [] }

/-- Neither a row changed nor a role statement was executed; rooms changed in their lists only. -/
structure Quiet (s t : Server) : Prop where
  rooms : t.rooms.map ChatRoom.identity = s.rooms.map ChatRoom.identity
  db : t.db = s.db
  roleKeys : t.roleKeys = s.roleKeys
  nextRoomId : t.nextRoomId = s.nextRoomId
  fails : t.fails = s.fails
  failures : s.failures ≤ t.failures

namespace Quiet
variable {s t u : Server}

theorem refl (s : Server) : Quiet s s := ⟨rfl, rfl, rfl, rfl, rfl, Nat.le_refl _⟩

theorem trans (h : Quiet s t) (h' : Quiet t u) : Quiet s u :=
  ⟨h'.rooms.trans h.rooms, h'.db.trans h.db, h'.roleKeys.trans h.roleKeys,
    h'.nextRoomId.trans h.nextRoomId, h'.fails.trans h.fails, Nat.le_trans h.failures h'.failures⟩

end Quiet

/-- Computations that are quiet however they end. -/
def quiet : Contract Server Exn where
  inv _ := True
  step := Quiet
  allowed _ := True
  refl := Quiet.refl
  trans := Quiet.trans

theorem quiet_of_run {α : Type} {x : Serve α} {s : Server} {Q : α → Server → Prop}
    (h : quiet.Holds x s Q) {result : Except Exn α} {t : Server} (hx : x s = (result, t)) :
    Quiet s t := by
  unfold Holds Ends at h
  rw [hx] at h
  cases result with
  | ok a => exact h.2.1
  | error e => exact h.2.1

section Steps
variable {s : Server} {room : RoomPtr}

theorem quiet_throw {α : Type} {e : Exn} {Q : α → Server → Prop} :
    quiet.Holds (throw e : Serve α) s Q := holds_throw trivial trivial

theorem quiet_select {α : Type} {statement : Statement α} {a : α}
    (hrun : s.db.run statement = some (a, s.db)) (hkey : statement.roleKey = none) :
    quiet.Holds (execute statement) s fun _ _ => True := by
  have hkeys : (s.attempt statement).roleKeys = s.roleKeys := by simp [Server.attempt, hkey]
  by_cases hf : s.fails s.executed = true
  · unfold Holds Ends
    rw [execute_failed (.inl hf)]
    exact ⟨trivial, ⟨rfl, rfl, hkeys, rfl, rfl, Nat.le_succ _⟩, trivial⟩
  · refine Ends.of_run (execute_ok (by simpa using hf) hrun) ?_
    exact ⟨trivial, ⟨rfl, rfl, hkeys, rfl, rfl, Nat.le_refl _⟩, trivial⟩

theorem quiet_columnInt (n : Nat) : quiet.Holds (columnInt n) s fun _ _ => True :=
  holds_ite (fun _ => holds_pure trivial trivial) fun _ => quiet_throw

/-- A change of fields that are of no concern here. -/
theorem quiet_modify {f : Server → Server} (h : Quiet s (f s)) :
    quiet.Holds (modify f) s fun _ _ => True := holds_modify trivial h trivial

theorem quiet_readAvatar (p : AvatarPtr) : quiet.Holds (readAvatar p) s fun _ _ => True := by
  refine holds_get_bind ?_
  cases s.avatar? p with
  | some a => exact holds_pure trivial trivial
  | none => exact quiet_throw

theorem quiet_writeAvatar (p : AvatarPtr) (f : ChatAvatar → ChatAvatar) :
    quiet.Holds (writeAvatar p f) s fun _ _ => True :=
  (quiet_readAvatar p).bind fun _ _ _ _ _ =>
    quiet_modify ⟨rfl, rfl, rfl, rfl, rfl, Nat.le_refl _⟩

theorem quiet_deref {α : Type} (a : Option α) : quiet.Holds (deref a) s fun _ _ => True := by
  cases a with
  | some a => exact holds_pure trivial trivial
  | none => exact quiet_throw

theorem quiet_readRoom (room : RoomPtr) :
    quiet.Holds (readRoom room) s fun r t => t = s ∧ s.rooms[room]? = some r := by
  cases hr : s.rooms[room]? with
  | some r => exact Ends.of_run (readRoom_of_getElem? hr) ⟨trivial, Quiet.refl s, rfl, rfl⟩
  | none =>
    unfold Holds Ends
    rw [readRoom_none hr]
    exact ⟨trivial, Quiet.refl s, trivial⟩

theorem identity_modify {rooms : List ChatRoom} {f : ChatRoom → ChatRoom}
    (hf : ∀ r, rooms[room]? = some r → (f r).identity = r.identity) :
    (rooms.modify room f).map ChatRoom.identity = rooms.map ChatRoom.identity := by
  apply List.ext_getElem?
  intro i
  rw [List.getElem?_map, List.getElem?_map, List.getElem?_modify]
  by_cases hi : room = i
  · subst hi
    cases hr : rooms[room]? with
    | none => rfl
    | some r => simp [hf r hr]
  · cases hr : rooms[i]? with
    | none => rfl
    | some r => simp [hi]

theorem quiet_writeRoom {f : ChatRoom → ChatRoom}
    (hf : ∀ r, s.rooms[room]? = some r → (f r).identity = r.identity) :
    quiet.Holds (writeRoom room f) s fun _ _ => True := by
  refine (quiet_readRoom room).bind fun r t _ _ ⟨heq, _⟩ => ?_
  subst heq
  exact quiet_modify ⟨identity_modify hf, rfl, rfl, rfl, rfl, Nat.le_refl _⟩

theorem ChatRoom.identity_setList (r : ChatRoom) (l : RoomList) (as : List AvatarPtr) :
    (r.setList l as).identity = r.identity := by
  cases l <;> rfl

end Steps

section Lookups
variable {s : Server}

theorem quiet_readAvatarRow (rows : List AvatarRow) :
    quiet.Holds (readAvatarRow rows) s fun _ _ => True := by
  cases rows with
  | nil => exact holds_pure trivial trivial
  | cons row rest =>
    refine Holds.bind (Q := fun _ _ => True) (holds_get_bind ?_) fun obj t _ _ _ => ?_
    · exact (quiet_modify ⟨rfl, rfl, rfl, rfl, rfl, Nat.le_refl _⟩).bind fun _ _ _ _ _ =>
        holds_pure trivial trivial
    refine (quiet_columnInt _).bind fun _ _ _ _ _ => ?_
    refine (quiet_columnInt _).bind fun _ _ _ _ _ => ?_
    exact (quiet_columnInt _).bind fun _ _ _ _ _ => holds_pure trivial trivial

theorem quiet_loadContacts {getAvatar : UInt32 → Serve (Option AvatarPtr)} {ρ : Type} {key : ρ → Nat}
    {push : ρ → Option AvatarPtr → ChatAvatar → ChatAvatar} {avatar : AvatarPtr} (rows : List ρ)
    (hget : ∀ id t, quiet.Holds (getAvatar id) t fun _ _ => True) :
    quiet.Holds (loadContacts getAvatar key push avatar rows) s fun _ _ => True :=
  holds_forM rows trivial fun _ _ _ _ _ => (quiet_columnInt _).bind fun _ _ _ _ _ =>
    (hget _ _).bind fun _ _ _ _ _ => quiet_writeAvatar _ _

theorem quiet_adopt {getAvatar : UInt32 → Serve (Option AvatarPtr)} (loaded : Option ChatAvatar)
    (hget : ∀ id t, quiet.Holds (getAvatar id) t fun _ _ => True) :
    quiet.Holds (adopt getAvatar loaded) s fun _ _ => True := by
  cases loaded with
  | none => exact holds_pure trivial trivial
  | some avatar =>
    refine (quiet_modify ⟨rfl, rfl, rfl, rfl, rfl, Nat.le_refl _⟩).bind fun _ t _ _ _ => ?_
    refine Holds.bind (Q := fun _ _ => True) ?_ fun _ u _ _ _ => ?_
    · exact (quiet_select rfl rfl).bind fun rows _ _ _ _ => quiet_loadContacts rows hget
    refine Holds.bind (Q := fun _ _ => True) ?_ fun _ v _ _ _ => holds_pure trivial trivial
    exact (quiet_select rfl rfl).bind fun rows _ _ _ _ => quiet_loadContacts rows hget

/-- By induction on the depth that is left. -/
theorem quiet_getAvatarWithin (fuel : Nat) (avatarId : UInt32) :
    quiet.Holds (getAvatarWithin fuel avatarId) s fun _ _ => True := by
  induction fuel generalizing s avatarId with
  | zero => exact quiet_throw
  | succ fuel ih =>
    refine holds_get_bind ?_
    cases (s.avatarCache.find? (·.self.avatarId == avatarId)).map (·.self) with
    | some p => exact holds_pure trivial trivial
    | none =>
      refine Holds.bind (Q := fun _ _ => True) ?_ fun loaded t _ _ _ =>
        quiet_adopt loaded fun id u => ih id
      exact (quiet_select rfl rfl).bind fun rows _ _ _ _ => quiet_readAvatarRow rows

theorem quiet_getAvatarById (avatarId : UInt32) :
    quiet.Holds (getAvatarById avatarId) s fun _ _ => True :=
  holds_get_bind (quiet_getAvatarWithin _ avatarId)

end Lookups

section Operations
variable {s : Server} {room : RoomPtr}

private theorem quiet_changeRoom {f : ChatRoom → Except ChatResultCode ChatRoom}
    (hf : ∀ r r', f r = .ok r' → r'.identity = r.identity) :
    quiet.Holds (changeRoom room f) s fun _ _ => True := by
  refine (quiet_readRoom room).bind fun r t _ _ ⟨heq, hr⟩ => ?_
  subst heq
  cases hok : f r with
  | error code => exact quiet_throw
  | ok r' =>
    refine quiet_writeRoom fun r'' hr'' => ?_
    obtain rfl := Option.some.inj (hr.symm.trans hr'')
    exact hf r r' hok

private theorem quiet_storeInvited (as : List AvatarPtr) :
    quiet.Holds (storeRole room .invited as none) s fun _ _ => True := by
  refine (quiet_writeRoom fun r _ => r.identity_setList _ _).bind fun _ t _ _ _ => ?_
  exact (quiet_readRoom room).bind fun _ _ _ _ _ => holds_pure trivial trivial

/-- The operations of a room that write no table. -/
theorem quiet_operate (operation : RoomOperation) :
    quiet.Holds (operation.run room) s fun _ _ => True := by
  cases operation with
  | enterRoom avatar password =>
    refine quiet_changeRoom fun r r' h => ?_
    rw [ChatRoom.enterRoom_ok h]
    rfl
  | leaveRoom avatar => exact quiet_writeRoom fun _ _ => rfl
  | kickAvatar srcAvatarId destAvatar =>
    refine quiet_changeRoom fun r r' h => ?_
    rw [ChatRoom.kickAvatar_ok h]
    rfl
  | addInvite srcAvatarId invited =>
    refine (quiet_readRoom room).bind fun r t _ _ _ => holds_ite (fun _ => quiet_throw) fun _ => ?_
    exact holds_ite (fun _ => quiet_throw) fun _ => quiet_storeInvited _
  | removeInvite srcAvatarId avatarId =>
    refine (quiet_readRoom room).bind fun r t _ _ _ => holds_ite (fun _ => quiet_throw) fun _ => ?_
    exact holds_ite (fun _ => quiet_throw) fun _ => quiet_storeInvited _
  | getNextMessageId => exact quiet_writeRoom fun _ _ => rfl

/-- Filling in a role list, after its query. -/
theorem quiet_fillRole (table : RoleTable) (rows : List RoleRow) :
    quiet.Holds (forM rows fun row => do
      let avatarId ← columnInt row.avatarId
      let avatar ← deref (← getAvatarById avatarId)
      writeRoom room fun r => r.setList table.list (r.list table.list ++ [avatar])) s
      fun _ _ => True :=
  holds_forM rows trivial fun _ _ _ _ _ => (quiet_columnInt _).bind fun _ _ _ _ _ =>
    (quiet_getAvatarById _).bind fun avatar _ _ _ _ => (quiet_deref avatar).bind fun _ _ _ _ _ =>
      quiet_writeRoom fun r _ => r.identity_setList _ _

end Operations
end StationChat
