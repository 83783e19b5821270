import StationChat.Avatars.ContactLists
import StationChat.Gateway.Effects

/-! Whose the rows are. What the tables hold about an avatar, its own row, its friends and those it ignores, changes
only by requests in its own name. -/
namespace StationChat
open Lib Lib.Action

variable {client : ClientId} {request : Request} {input : Input} {inputs : List Input} {s t u : Server}
  {db after : Database} {may may' : Nat → Prop} {i k : Nat}

/-- What the tables hold about an avatar. -/
def Database.account (db : Database) (k : Nat) : List AvatarRow × List FriendRow × List IgnoreRow :=
  (db.avatar.filter (·.id = k), db.friendRows k, db.ignoreRows k)

/-- The requests that may change what the tables hold about an avatar. -/
def Request.Tends : Request → Nat → Prop
  | .setAvatarAttributes r, k => k = r.avatarId.toNat
  | .addFriend r, k => k = r.srcAvatarId.toNat
  | .removeFriend r, k => k = r.srcAvatarId.toNat
  | .addIgnore r, k => k = r.srcAvatarId.toNat
  | .removeIgnore r, k => k = r.srcAvatarId.toNat
  | _, _ => False

def Input.Tends : Input → Nat → Prop
  | .request _ request _ _, k => request.Tends k
  | _, _ => False

/-- The accounts of the avatars whose ids were given out are as they were, but for those that `may` change. -/
structure Respected (may : Nat → Prop) (db after : Database) : Prop where
  next : db.nextAvatarId ≤ after.nextAvatarId
  account : ∀ k < db.nextAvatarId, ¬ may k → after.account k = db.account k

namespace Respected

theorem refl (db : Database) : Respected may db db := ⟨le_rfl, fun _ _ _ => rfl⟩

theorem trans {later : Database} (h : Respected may db after) (h' : Respected may after later) : Respected may db later :=
  ⟨h.next.trans h'.next, fun k hk hnot => (h'.account k (hk.trans_le h.next) hnot).trans (h.account k hk hnot)⟩

theorem mono (h : Respected may db after) (hmay : ∀ k, may k → may' k) : Respected may' db after :=
  ⟨h.next, fun k hk hnot => h.account k hk fun hk => hnot (hmay k hk)⟩

theorem of_eq (hnext : after.nextAvatarId = db.nextAvatarId) (havatar : after.avatar = db.avatar)
    (hfriend : after.friend = db.friend) (hignore : after.ignore = db.ignore) : Respected may db after := by
  refine ⟨hnext.ge, fun k _ _ => ?_⟩
  rw [Database.account, Database.account, Database.friendRows, Database.friendRows, Database.ignoreRows,
    Database.ignoreRows, havatar, hfriend, hignore]

end Respected

section Statements

/-- A new avatar gets an id that nobody had. -/
theorem respected_insertAvatar {userId attributes id : Nat} {name address : StdString}
    (h : db.insertAvatar userId name address attributes = some (id, after)) : Respected may db after := by
  simp only [Database.insertAvatar] at h
  split at h
  · exact absurd h (by simp)
  · obtain ⟨-, rfl⟩ := Prod.mk.inj (Option.some.inj h)
    refine ⟨Nat.le_succ _, fun k hk _ => ?_⟩
    have hother : db.nextAvatarId ≠ k := hk.ne'
    have hrows : (db.avatar ++ [(⟨db.nextAvatarId, userId, name, address, attributes⟩ : AvatarRow)]).filter (·.id = k) =
        db.avatar.filter (·.id = k) := by simp [List.filter_append, hother]
    exact congrArg (·, db.friendRows k, db.ignoreRows k) hrows

theorem respected_updateAvatar {userId attributes : Nat} {name address : StdString} (hi : may i)
    (h : db.updateAvatar userId name address attributes i = some after) : Respected may db after := by
  simp only [Database.updateAvatar] at h
  split at h
  · exact absurd h (by simp)
  · obtain rfl := Option.some.inj h
    refine ⟨le_rfl, fun k _ hk => ?_⟩
    have hother : i ≠ k := fun heq => hk (heq ▸ hi)
    have hrows : (db.avatar.map fun row : AvatarRow =>
        if row.id = i then ⟨row.id, userId, name, address, attributes⟩ else row).filter (·.id = k) =
          db.avatar.filter (·.id = k) := by
      induction db.avatar with
      | nil => rfl
      | cons row rows ih =>
        rw [List.map_cons, List.filter_cons, List.filter_cons, ih]
        by_cases hrow : row.id = i
        · simp [hrow, hother]
        · simp [hrow]
    exact congrArg (·, db.friendRows k, db.ignoreRows k) hrows

theorem respected_putFriend (hi : may i) (db : Database) (j : Nat) (comment : StdString) :
    Respected may db (db.putFriend i j comment) := by
  refine ⟨le_rfl, fun k _ hk => ?_⟩
  have hother : k ≠ i := fun heq => hk (heq ▸ hi)
  have hrows := friendRows_putFriend db i j k comment
  rw [if_neg hother, List.append_nil] at hrows
  exact congrArg (db.avatar.filter (·.id = k), ·, db.ignoreRows k) hrows

theorem respected_putIgnored (hi : may i) (db : Database) (j : Nat) : Respected may db (db.putIgnored i j) := by
  refine ⟨le_rfl, fun k _ hk => ?_⟩
  have hother : k ≠ i := fun heq => hk (heq ▸ hi)
  have hrows := ignoreRows_putIgnored db i j k
  rw [if_neg hother, List.append_nil] at hrows
  exact congrArg (db.avatar.filter (·.id = k), db.friendRows k, ·) hrows

theorem respected_dropFriend (hi : may i) (db : Database) (j : Nat) : Respected may db (db.dropFriend i j) := by
  refine ⟨le_rfl, fun k _ hk => ?_⟩
  have hother : k ≠ i := fun heq => hk (heq ▸ hi)
  have hrows : (db.dropFriend i j).friendRows k = db.friendRows k := by
    rw [friendRows_dropFriend]
    exact List.filter_eq_self.mpr fun row _ => by simp [hother]
  exact congrArg (db.avatar.filter (·.id = k), ·, db.ignoreRows k) hrows

theorem respected_dropIgnored (hi : may i) (db : Database) (j : Nat) : Respected may db (db.dropIgnored i j) := by
  refine ⟨le_rfl, fun k _ hk => ?_⟩
  have hother : k ≠ i := fun heq => hk (heq ▸ hi)
  have hrows : (db.dropIgnored i j).ignoreRows k = db.ignoreRows k := by
    rw [ignoreRows_dropIgnored]
    exact List.filter_eq_self.mpr fun row _ => by simp [hother]
  exact congrArg (db.avatar.filter (·.id = k), db.friendRows k, ·) hrows

theorem respected_insertRole (db : Database) (table : RoleTable) (avatarId roomId : Nat) :
    Respected may db (db.insertRole table avatarId roomId) := by
  rw [Database.insertRole]
  split
  · exact .refl db
  · exact .of_eq rfl rfl rfl rfl

/-- A statement that changes no table. -/
theorem run_of_reading {α : Type} {statement : Statement α} {a : α} (hreads : statement.writing = false)
    (h : db.run statement = some (a, after)) : after = db := by
  cases statement <;> first
    | exact (Prod.mk.inj (Option.some.inj h)).2.symm
    | exact absurd hreads (by simp [Statement.writing])

/-- The statements of a request. -/
theorem Request.Writes.respected {α : Type} {statement : Statement α} {a : α} (hwrites : request.Writes α statement)
    (h : db.run statement = some (a, after)) : Respected request.Tends db after := by
  cases hwrites with
  | login | failover => exact respected_insertAvatar h
  | attributes r userId name address attributes =>
    obtain ⟨_, hafter, heq⟩ := Option.map_eq_some_iff.mp h
    obtain ⟨-, rfl⟩ := Prod.mk.inj heq
    have hown : (Request.setAvatarAttributes r).Tends r.avatarId.toNat := rfl
    exact respected_updateAvatar hown hafter
  | befriend r id =>
    obtain ⟨_, hafter, heq⟩ := Option.map_eq_some_iff.mp h
    obtain ⟨-, rfl⟩ := Prod.mk.inj heq
    simp only [Database.insertFriend] at hafter
    split at hafter
    · exact absurd hafter (by simp)
    · obtain rfl := Option.some.inj hafter
      have hown : (Request.addFriend r).Tends r.srcAvatarId.toNat := rfl
      exact respected_putFriend hown db id.toNat []
  | ignore r id =>
    obtain ⟨_, hafter, heq⟩ := Option.map_eq_some_iff.mp h
    obtain ⟨-, rfl⟩ := Prod.mk.inj heq
    simp only [Database.insertIgnore] at hafter
    split at hafter
    · exact absurd hafter (by simp)
    · obtain rfl := Option.some.inj hafter
      have hown : (Request.addIgnore r).Tends r.srcAvatarId.toNat := rfl
      exact respected_putIgnored hown db id.toNat
  | relent r id =>
    obtain ⟨-, rfl⟩ := Prod.mk.inj (Option.some.inj h)
    have hown : (Request.addFriend r).Tends r.srcAvatarId.toNat := rfl
    exact respected_dropIgnored hown db id.toNat
  | unignore r id =>
    obtain ⟨-, rfl⟩ := Prod.mk.inj (Option.some.inj h)
    have hown : (Request.removeIgnore r).Tends r.srcAvatarId.toNat := rfl
    exact respected_dropIgnored hown db id.toNat
  | unfriend r id =>
    obtain ⟨-, rfl⟩ := Prod.mk.inj (Option.some.inj h)
    have hown : (Request.removeFriend r).Tends r.srcAvatarId.toNat := rfl
    exact respected_dropFriend hown db id.toNat
  | fallOut r id =>
    obtain ⟨-, rfl⟩ := Prod.mk.inj (Option.some.inj h)
    have hown : (Request.addIgnore r).Tends r.srcAvatarId.toNat := rfl
    exact respected_dropFriend hown db id.toNat
  | create r columns =>
    simp only [Database.run, Database.insertRoom] at h
    split at h
    · exact absurd h (by simp)
    · obtain ⟨-, rfl⟩ := Prod.mk.inj (Option.some.inj h)
      exact .of_eq rfl rfl rfl rfl
  | send r columns =>
    simp only [Database.run, Database.insertMessage] at h
    split at h
    · exact absurd h (by simp)
    · obtain ⟨-, rfl⟩ := Prod.mk.inj (Option.some.inj h)
      exact .of_eq rfl rfl rfl rfl
  | addModerator | addBan =>
    obtain ⟨-, rfl⟩ := Prod.mk.inj (Option.some.inj h)
    exact respected_insertRole db _ _ _
  | _ =>
    obtain ⟨-, rfl⟩ := Prod.mk.inj (Option.some.inj h)
    exact .of_eq rfl rfl rfl rfl

end Statements

section Steps
variable {powers : Powers}

theorem makes_respected_primitive (hloads : powers.loads)
    (hwrites : ∀ α (statement : Statement α) db a after, powers.executes α statement →
      db.run statement = some (a, after) → Respected may db after) (α : Type) (x : Serve α)
    (h : Primitive client powers α x) : x.Makes fun s t => Respected may s.db t.db := by
  have hsame (s t : Server) (hdb : t.db = s.db) : Respected may s.db t.db := by
    rw [hdb]
    exact .refl s.db
  refine h.makes hloads (fun s t hdb _ _ => hsame s t hdb) (fun β statement hexecutes => ?_) fun f hf s => ?_
  · refine makes_statement (fun s t hdb _ _ => hsame s t hdb) fun s t b hok _ _ => ?_
    cases hkind : statement.writing with
    | true => exact hwrites β statement s.db b t.db (hexecutes hkind) hok
    | false => exact hsame s t (run_of_reading hkind hok)
  · exact hsame s (f s) (by rw [hf.memory s]; rfl)

/-- What a request does to the accounts. -/
theorem respected_handle (h : request.handle client s = (.ok (), t)) : Respected request.Tends s.db t.db := by
  obtain ⟨u, body, hcaught, _, rfl⟩ := handle_eq_ok h
  have hmakes := (routine_handler client request).makes (makes_respected_primitive trivial
    fun α statement db a after hwrites hrun => Request.Writes.respected hwrites hrun) (s.receiving request)
  have hrespected : Respected request.Tends (s.receiving request).db (request.handler client (s.receiving request)).2.db :=
    changes_related (P := fun s t : Server => Respected request.Tends s.db t.db) (fun s => .refl s.db)
      (fun h h' => h.trans h') (fun _ _ h => h) hmakes
  rcases caught_eq_ok hcaught with hrun | ⟨e, v, code, hrun, _, rfl⟩ <;> rw [hrun] at hrespected <;> exact hrespected

end Steps

section Runs

/-- One input. -/
theorem respected_step (h : s.step input = some t) : Respected input.Tends s.db t.db := by
  cases input with
  | request client request time clock => exact respected_handle (s := s.atTime time clock) (Server.step_request h).2.2
  | connect | tick | restart =>
    obtain rfl := Option.some.inj h
    exact .refl s.db
  | disconnect c =>
    obtain ⟨_, rfl⟩ := Server.step_disconnect h
    exact .refl s.db

theorem respected_run (h : runInputs Server.step s inputs = some t) :
    Respected (fun k => ∃ i ∈ inputs, i.Tends k) s.db t.db := by
  induction inputs generalizing s with
  | nil =>
    obtain rfl := Option.some.inj h
    exact .refl s.db
  | cons input inputs ih =>
    obtain ⟨u, hu, hrest⟩ := Option.bind_eq_some_iff.mp h
    have hfirst : Respected (fun k => ∃ i ∈ input :: inputs, i.Tends k) s.db u.db :=
      (respected_step hu).mono fun k hk => ⟨input, List.mem_cons_self, hk⟩
    have hlater : Respected (fun k => ∃ i ∈ input :: inputs, i.Tends k) u.db t.db := by
      refine (ih hrest).mono fun k hk => ?_
      obtain ⟨i, hi, htends⟩ := hk
      exact ⟨i, List.mem_cons_of_mem input hi, htends⟩
    exact hfirst.trans hlater

/-- In every run, restarts among its inputs, an avatar that requests nothing about itself finds its row, its friends
and those it ignores as they were, whatever others do. -/
theorem accounts_are_their_owners (h : runInputs Server.step s inputs = some t) (hk : k < s.db.nextAvatarId)
    (hinputs : ∀ i ∈ inputs, ¬ i.Tends k) : t.db.account k = s.db.account k := by
  refine (respected_run h).account k hk fun htended => ?_
  obtain ⟨i, hi, htends⟩ := htended
  exact hinputs i hi htends

/-- A adds B and then ignores B instead; nothing is stored about B. -/
theorem accounts_are_their_owners_two :
    ∃ t, runInputs Server.step Server.strangers [.connect,
      .request 0 (.addFriend ⟨1, 1, [0x42], [0x61], [], false, []⟩) 0 0,
      .request 0 (.addIgnore ⟨2, 1, [0x42], [0x61], []⟩) 0 0, .restart] = some t ∧
      t.db.account 2 = Server.strangers.db.account 2 := by
  have hrun : (runInputs Server.step Server.strangers [.connect,
      .request 0 (.addFriend ⟨1, 1, [0x42], [0x61], [], false, []⟩) 0 0,
      .request 0 (.addIgnore ⟨2, 1, [0x42], [0x61], []⟩) 0 0, .restart]).isSome := by decide +kernel
  refine ⟨_, (Option.some_get hrun).symm, accounts_are_their_owners (Option.some_get hrun).symm (by decide) ?_⟩
  simp [Input.Tends, Request.Tends]

end Runs
end StationChat
