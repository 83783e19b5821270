import StationChat.Rooms.Outcomes

/-! When a role operation whose statement fails leaves the room as it was. -/
namespace StationChat
open Lib Lib.Action

variable {s t : Server} {room : RoomPtr} {r : ChatRoom}

/-- The same server once its database answers again. -/
def Server.recovered (s : Server) : Server := { s with fails := fun _ => false }

/-- From both states the computation ends the same way, with the same rooms and tables. -/
def SameOutcome (x : Serve Unit) (s t : Server) : Prop :=
  (x s).1 = (x t).1 ∧ (x s).2.rooms = (x t).2.rooms ∧ (x s).2.db = (x t).2.db

/-- A call that ends with an exception changes neither a room nor a table, so the same call made later
does what it would have done without the failed one. -/
def RoleAtomic (s : Server) (operation : RoleOperation) (room : RoomPtr) (srcAvatarId : UInt32)
    (avatar : AvatarPtr) : Prop :=
  ∀ e t, operation.run room srcAvatarId avatar s = (.error e, t) → e.isException = true →
    t.rooms = s.rooms ∧ t.db = s.db ∧
      SameOutcome (operation.run room srcAvatarId avatar) t.recovered s.recovered

/-- A role operation looks at the rooms and the tables only. -/
theorem sameOutcome_of_untouched (operation : RoleOperation) (srcAvatarId : UInt32)
    (avatar : AvatarPtr) (hrooms : t.rooms = s.rooms) (hdb : t.db = s.db) :
    SameOutcome (operation.run room srcAvatarId avatar) t.recovered s.recovered := by
  have hdb' : t.recovered.db = s.recovered.db := hdb
  cases hr : s.rooms[room]? with
  | none =>
    have hs := role_missing (s := s.recovered) operation srcAvatarId avatar hr
    have ht := role_missing (s := t.recovered) operation srcAvatarId avatar (hrooms ▸ hr)
    rw [SameOutcome, hs, ht]
    exact ⟨rfl, hrooms, hdb⟩
  | some r =>
    have hs := operation.run_eq (s := s.recovered) hr srcAvatarId avatar
    have ht := operation.run_eq (s := t.recovered) (hrooms ▸ hr) srcAvatarId avatar
    have hmodify : ∀ f, (t.recovered.updateRoom room f).rooms = (s.recovered.updateRoom room f).rooms :=
      fun f => congrArg (·.modify room f) hrooms
    by_cases hpass : operation.passes r srcAvatarId avatar.avatarId = true
    case neg =>
      rw [if_neg hpass] at hs ht
      rw [SameOutcome, hs, ht]
      exact ⟨rfl, hrooms, hdb⟩
    rw [if_pos hpass, storeRole_run (s := s.recovered) hr] at hs
    rw [if_pos hpass, storeRole_run (s := t.recovered) (hrooms ▸ hr)] at ht
    by_cases hp : r.isPersistent = true
    case neg =>
      rw [if_neg hp] at hs ht
      rw [SameOutcome, hs, ht]
      exact ⟨rfl, hmodify _, hdb⟩
    rw [if_pos hp] at hs ht
    cases hservice : r.roomService with
    | unset =>
      rw [hservice] at hs ht
      rw [SameOutcome, hs, ht]
      exact ⟨rfl, hmodify _, hdb⟩
    | owner =>
      rw [hservice] at hs ht
      have hexec : ∀ u : Server, u.fails = (fun _ => false) →
          execute (operation.statement avatar.avatarId r.roomId) u =
            (.ok (), { u.attempt (operation.statement avatar.avatarId r.roomId) with
              db := operation.tables u.db avatar.avatarId r.roomId }) :=
        fun u hu => execute_ok (by rw [hu]) (operation.statement_run _ _ _)
      rw [SameOutcome, hs, ht, hexec _ rfl, hexec _ rfl]
      exact ⟨rfl, hmodify _, congrArg (operation.tables · avatar.avatarId r.roomId) hdb⟩

/-- Only removing an administrator passes its checks without changing the list. -/
theorem changed_eq_iff {operation : RoleOperation} {srcAvatarId : UInt32} {avatar : AvatarPtr}
    (hpass : operation.passes r srcAvatarId avatar.avatarId = true) :
    operation.changed r avatar = r.list operation.table.list ↔
      operation = .removeAdministrator ∧ r.isAdministrator avatar.avatarId = false := by
  have hkept : ∀ l, (r.list l).filter (·.avatarId != avatar.avatarId) = r.list l ↔
      r.inList l avatar.avatarId = false := by
    intro l
    simp [ChatRoom.inList, List.filter_eq_self]
  have hgrows : ∀ l, r.list l ++ [avatar] ≠ r.list l := fun l h => by
    simpa using congrArg List.length h
  cases operation with
  | addAdministrator | addModerator | addBanned =>
    exact ⟨fun h => absurd h (hgrows _), fun h => absurd h.1 (by simp)⟩
  | removeAdministrator => exact (hkept .administrators).trans (by simp [ChatRoom.isAdministrator])
  | removeModerator | removeBanned =>
    have hin := (Bool.and_eq_true_iff.mp hpass).2
    refine ⟨fun h => absurd hin ?_, fun h => absurd h.1 (by simp)⟩
    exact ne_true_of_eq_false ((hkept _).mp h)

private theorem updateRoom_setList_eq_iff (hr : s.rooms[room]? = some r) (l : RoomList)
    (as : List AvatarPtr) :
    (s.updateRoom room (·.setList l as)).rooms = s.rooms ↔ as = r.list l := by
  constructor
  · intro h
    have hget := getElem?_updateRoom (f := (·.setList l as)) hr
    rw [h, hr] at hget
    have hlist := congrArg (·.list l) (Option.some.inj hget)
    rw [ChatRoom.list_setList_self] at hlist
    exact hlist.symm
  · rintro rfl
    apply List.ext_getElem?
    intro i
    rw [Server.updateRoom, List.getElem?_modify]
    by_cases hi : room = i
    · subst hi
      simp [hr]
    · simp [hi]

/-- The memory is changed before the statement is sent, so a failing statement leaves the change. -/
theorem role_atomic_iff (hr : s.rooms[room]? = some r) (hp : r.isPersistent = true)
    (operation : RoleOperation) (srcAvatarId : UInt32) (avatar : AvatarPtr) :
    RoleAtomic s operation room srcAvatarId avatar ↔
      s.fails s.executed = false ∨ operation.passes r srcAvatarId avatar.avatarId = false ∨
        r.roomService = .unset ∨
        operation = .removeAdministrator ∧ r.isAdministrator avatar.avatarId = false := by
  have hrun := operation.run_eq hr srcAvatarId avatar
  by_cases hpass : operation.passes r srcAvatarId avatar.avatarId = true
  case neg =>
    rw [if_neg hpass] at hrun
    refine ⟨fun _ => .inr (.inl (by simpa using hpass)), fun _ e t ht _ => ?_⟩
    obtain rfl := (Prod.mk.inj (hrun.symm.trans ht)).2
    exact ⟨rfl, rfl, sameOutcome_of_untouched operation srcAvatarId avatar rfl rfl⟩
  rw [if_pos hpass, storeRole_run hr, if_pos hp] at hrun
  cases hservice : r.roomService with
  | unset =>
    rw [hservice] at hrun
    refine ⟨fun _ => .inr (.inr (.inl rfl)), fun _ e t ht he => ?_⟩
    obtain rfl := Except.error.inj (Prod.mk.inj (hrun.symm.trans ht)).1
    exact absurd he (by simp [Exn.isException])
  | owner =>
    rw [hservice] at hrun
    by_cases hf : s.fails s.executed = true
    · have hexec := hrun.trans (execute_failed (.inl hf))
      have hsame := (updateRoom_setList_eq_iff hr _ (operation.changed r avatar)).trans
        (changed_eq_iff hpass)
      constructor
      · intro hatomic
        exact .inr (.inr (.inr (hsame.mp (hatomic _ _ hexec rfl).1)))
      · rintro (hok | hrefused | hunset | hkept)
        · exact absurd hf (by simp [hok])
        · exact absurd hpass (by simp [hrefused])
        · exact absurd hunset (by simp)
        · intro e t ht _
          obtain rfl := (Prod.mk.inj (hexec.symm.trans ht)).2
          have hrooms := hsame.mpr hkept
          exact ⟨hrooms, rfl, sameOutcome_of_untouched operation srcAvatarId avatar hrooms rfl⟩
    · have hanswers : s.fails s.executed = false := by simpa using hf
      have hexec := hrun.trans (execute_ok hanswers (operation.statement_run _ _ _))
      refine ⟨fun _ => .inl hanswers, fun _ e t ht _ => ?_⟩
      exact absurd (Prod.mk.inj (hexec.symm.trans ht)).1 (by simp)

/-- The creator of a new room bans another avatar, with a database that answers. -/
theorem role_atomic_answered : ∃ s ∈ Server.twoAvatars.call (createPersistent [0x72] [0x62]),
    RoleAtomic s .addBanned 0 1 secondAvatar := by
  have hrun : ∃ s ∈ Server.twoAvatars.call (createPersistent [0x72] [0x62]),
      s.fails s.executed = false ∧ ∃ r ∈ s.rooms[0]?, r.isPersistent = true := by decide +kernel
  obtain ⟨s, hs, hf, r, hr, hp⟩ := hrun
  exact ⟨s, hs, (role_atomic_iff hr hp .addBanned 1 secondAvatar).mpr (.inl hf)⟩

/-- The ban is not written, but the avatar is banned in memory: a second attempt is a duplicate. -/
theorem failed_ban_stays :
    ∃ s ∈ ({ Server.twoAvatars with fails := (· == 1) } : Server).call (createPersistent [0x72] [0x62]),
      (∃ r ∈ s.rooms[0]?, r.isPersistent = true ∧ r.roomService = .owner ∧ r.banned = []) ∧
      ¬ RoleAtomic s .addBanned 0 1 secondAvatar := by
  have hrun : ∃ s ∈ ({ Server.twoAvatars with fails := (· == 1) } : Server).call
      (createPersistent [0x72] [0x62]),
      (∃ r ∈ s.rooms[0]?, r.isPersistent = true ∧ r.roomService = .owner ∧ r.banned = []) ∧
      (RoleOperation.addBanned.run 0 1 secondAvatar s).1 = .error .database ∧
      (RoleOperation.addBanned.run 0 1 secondAvatar s).2.rooms ≠ s.rooms := by decide +kernel
  obtain ⟨s, hs, hroom, herror, hrooms⟩ := hrun
  refine ⟨s, hs, hroom, fun hatomic => hrooms (hatomic .database _ ?_ rfl).1⟩
  exact Prod.ext herror rfl

end StationChat
