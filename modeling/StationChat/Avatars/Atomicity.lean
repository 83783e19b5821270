import StationChat.Avatars.Contacts
import StationChat.Rooms.Calls

/-! When a contact operation that fails in the database leaves the contacts of its avatar as they were. -/
namespace StationChat
open Lib Lib.Action

/-- The operations on the two contact lists of an avatar. -/
inductive ContactOperation where
  | addFriend (comment : U16String)
  | removeFriend
  | updateFriendComment (comment : U16String)
  | addIgnore
  | removeIgnore
  deriving DecidableEq, Repr

def ContactOperation.run (self : AvatarPtr) (avatar : Option AvatarPtr) : ContactOperation → Serve Unit
  | .addFriend comment => StationChat.addFriend self avatar comment
  | .removeFriend => StationChat.removeFriend self avatar
  | .updateFriendComment comment => StationChat.updateFriendComment self avatar comment
  | .addIgnore => StationChat.addIgnore self avatar
  | .removeIgnore => StationChat.removeIgnore self avatar

/-- The contact lists of the object behind a pointer. -/
def Server.contacts (s : Server) (p : AvatarPtr) : Option (List FriendContact × List IgnoreContact) :=
  (s.avatar? p).map fun a => (a.friendList, a.ignoreList)

/-- A call that ends with a `DatabaseException` leaves the lists of the avatar and its rows alone. -/
def ContactAtomic (s : Server) (operation : ContactOperation) (self : AvatarPtr)
    (avatar : Option AvatarPtr) : Prop :=
  ∀ t, operation.run self avatar s = (.error .database, t) →
    t.contacts self = s.contacts self ∧
      (t.db.friend.filter fun row => row.avatarId = self.avatarId.toNat) =
        (s.db.friend.filter fun row => row.avatarId = self.avatarId.toNat) ∧
      (t.db.ignore.filter fun row => row.avatarId = self.avatarId.toNat) =
        (s.db.ignore.filter fun row => row.avatarId = self.avatarId.toNat)

variable {s u : Server} {self p : AvatarPtr} {a : ChatAvatar} {operation : ContactOperation}

section Cases

theorem contactAtomic_of_ne {result : Except Exn Unit} {t : Server}
    (hrun : operation.run self (some p) s = (result, t)) (hne : result ≠ .error .database) :
    ContactAtomic s operation self (some p) := fun _ ht =>
  absurd (Prod.mk.inj (hrun.symm.trans ht)).1 hne

/-- A call that has changed the lists and then sends a statement stands or falls with it. -/
theorem contactAtomic_iff_of_statement {statement : Statement Unit}
    (hrun : operation.run self (some p) s = execute statement u)
    (hlists : u.contacts self ≠ s.contacts self) :
    ContactAtomic s operation self (some p) ↔
      ¬ (u.fails u.executed = true ∨ u.db.run statement = none) := by
  constructor
  · intro hatomic hfails
    have hexec := execute_failed hfails
    have hcontacts := (hatomic _ (hrun.trans hexec)).1
    exact hlists hcontacts
  · intro hfine
    obtain ⟨hf, hnone⟩ := not_or.mp hfine
    obtain ⟨⟨_, db⟩, hdb⟩ := Option.ne_none_iff_exists'.mp hnone
    exact contactAtomic_of_ne (hrun.trans (execute_ok (by simpa using hf) hdb)) (by simp)

theorem contacts_setFriends_ne (h : s.avatar? self = some a) {friendList : List FriendContact}
    (hne : friendList ≠ a.friendList) : (s.setFriends self friendList).contacts self ≠ s.contacts self := by
  rw [Server.contacts, avatar?_setFriends h, Server.contacts, h]
  exact fun heq => hne (Prod.mk.inj (Option.some.inj heq)).1

theorem contacts_setIgnored_ne (h : s.avatar? self = some a) {ignoreList : List IgnoreContact}
    (hne : ignoreList ≠ a.ignoreList) : (s.setIgnored self ignoreList).contacts self ≠ s.contacts self := by
  rw [Server.contacts, avatar?_setIgnored h, Server.contacts, h]
  exact fun heq => hne (Prod.mk.inj (Option.some.inj heq)).2

theorem withoutFriend_ne {avatarId : UInt32} (h : a.hasFriend avatarId = true) :
    a.withoutFriend avatarId ≠ a.friendList := fun heq =>
  Nat.ne_of_lt (length_filter_lt.mpr h) (congrArg List.length heq)

theorem withoutIgnored_ne {avatarId : UInt32} (h : a.ignores avatarId = true) :
    a.withoutIgnored avatarId ≠ a.ignoreList := fun heq =>
  Nat.ne_of_lt (length_filter_lt.mpr h) (congrArg List.length heq)

end Cases

/-- A statement of the call fails after one of the lists was changed. -/
def Spoils (s : Server) (a : ChatAvatar) (self p : AvatarPtr) : ContactOperation → Prop
  | .addFriend comment => NewFriend a p.avatarId ∧ (s.fails s.executed = true ∨
      (a.ignores p.avatarId = true ∧ s.fails (s.executed + 1) = true) ∨
      s.db.insertFriend self.avatarId.toNat p.avatarId.toNat (fromWideString comment) = none)
  | .removeFriend => NoNull FriendContact.frnd a.friendList ∧ a.hasFriend p.avatarId = true ∧
      s.fails s.executed = true
  | .updateFriendComment comment => s.fails s.executed = true ∧ ∃ front contact,
      FirstNamed FriendContact.frnd p.avatarId a.friendList front contact ∧ contact.comment ≠ comment
  | .addIgnore => NewIgnored a p.avatarId ∧ (s.fails s.executed = true ∨
      (a.hasFriend p.avatarId = true ∧ s.fails (s.executed + 1) = true) ∨
      s.db.insertIgnore self.avatarId.toNat p.avatarId.toNat = none)
  | .removeIgnore => NoNull IgnoreContact.ignored a.ignoreList ∧ a.ignores p.avatarId = true ∧
      s.fails s.executed = true

section Operations

private theorem removeFriend_atomic_iff (h : s.avatar? self = some a) :
    ContactAtomic s .removeFriend self (some p) ↔ ¬ Spoils s a self p .removeFriend := by
  have hrun : ContactOperation.run self (some p) .removeFriend s = _ := removeFriend_run h
  by_cases hnull : NoNull FriendContact.frnd a.friendList
  case neg =>
    rw [if_neg hnull] at hrun
    exact iff_of_true (contactAtomic_of_ne hrun (by simp)) fun hspoils => hnull hspoils.1
  by_cases hfriend : a.hasFriend p.avatarId = true
  case neg =>
    rw [if_pos hnull, if_neg hfriend] at hrun
    exact iff_of_true (contactAtomic_of_ne hrun (by simp)) fun hspoils => hfriend hspoils.2.1
  rw [if_pos hnull, if_pos hfriend] at hrun
  refine (contactAtomic_iff_of_statement hrun (contacts_setFriends_ne h (withoutFriend_ne hfriend))).trans
    (not_congr ?_)
  exact ⟨fun hfails => ⟨hnull, hfriend, hfails.resolve_right (by simp [Database.run])⟩,
    fun hspoils => .inl hspoils.2.2⟩

private theorem removeIgnore_atomic_iff (h : s.avatar? self = some a) :
    ContactAtomic s .removeIgnore self (some p) ↔ ¬ Spoils s a self p .removeIgnore := by
  have hrun : ContactOperation.run self (some p) .removeIgnore s = _ := removeIgnore_run h
  by_cases hnull : NoNull IgnoreContact.ignored a.ignoreList
  case neg =>
    rw [if_neg hnull] at hrun
    exact iff_of_true (contactAtomic_of_ne hrun (by simp)) fun hspoils => hnull hspoils.1
  by_cases hignored : a.ignores p.avatarId = true
  case neg =>
    rw [if_pos hnull, if_neg hignored] at hrun
    exact iff_of_true (contactAtomic_of_ne hrun (by simp)) fun hspoils => hignored hspoils.2.1
  rw [if_pos hnull, if_pos hignored] at hrun
  refine (contactAtomic_iff_of_statement hrun (contacts_setIgnored_ne h (withoutIgnored_ne hignored))).trans
    (not_congr ?_)
  exact ⟨fun hfails => ⟨hnull, hignored, hfails.resolve_right (by simp [Database.run])⟩,
    fun hspoils => .inl hspoils.2.2⟩

/-- Setting the comment that is there already changes nothing. -/
private theorem updateFriendComment_atomic_iff (h : s.avatar? self = some a) (comment : U16String) :
    ContactAtomic s (.updateFriendComment comment) self (some p) ↔
      ¬ Spoils s a self p (.updateFriendComment comment) := by
  have hread : ContactOperation.run self (some p) (.updateFriendComment comment) s = _ :=
    bind_ok (readAvatar_run h) _
  rcases findIf_sameAvatar_cases (s := s) (p := p) FriendContact.frnd a.friendList with
    ⟨front, contact, hfirst⟩ | hnone | hnull
  · have hrun : ContactOperation.run self (some p) (.updateFriendComment comment) s = _ :=
      updateFriendComment_run h hfirst comment
    have hself := avatar?_setComment h front.length comment
    obtain ⟨back, hsplit⟩ := hfirst.1
    have hmodify : a.friendList.modify front.length (fun contact => { contact with comment }) =
        front ++ { contact with comment } :: back := by
      rw [hsplit, List.modify_eq_take_cons_drop (by simp)]
      simp
    by_cases hcomment : contact.comment = comment
    · have hsame : (s.setComment self front.length comment).contacts self = s.contacts self := by
        rw [Server.contacts, hself, Server.contacts, h, Option.map_some, Option.map_some, hmodify,
          hsplit, ← hcomment]
      refine iff_of_true (fun t ht => ?_) ?_
      · have hexec := hrun.symm.trans ht
        refine ⟨?_, by rw [(execute_error hexec).2]; rfl, by rw [(execute_error hexec).2]; rfl⟩
        rw [← hsame, Server.contacts, Server.avatar?, (execute_rest hexec).avatarCache]
        rfl
      · rintro ⟨_, front', contact', hfirst', hne⟩
        exact hne (hfirst'.unique hfirst s ▸ hcomment)
    · refine (contactAtomic_iff_of_statement hrun ?_).trans (not_congr ?_)
      · rw [Server.contacts, hself, Server.contacts, h, Option.map_some, Option.map_some, hmodify, hsplit]
        intro heq
        have hlist := (Prod.mk.inj (Option.some.inj heq)).1
        have hcontact := (List.cons.inj (List.append_cancel_left hlist)).1
        exact hcomment (congrArg FriendContact.comment hcontact).symm
      · exact ⟨fun hfails => ⟨hfails.resolve_right (by simp [Database.run]), front, contact, hfirst,
          hcomment⟩, fun hspoils => .inl hspoils.1⟩
  · refine iff_of_true (contactAtomic_of_ne (hread.trans (bind_ok hnone _)) (by simp)) ?_
    rintro ⟨_, front, contact, hfirst, _⟩
    exact absurd ((findIf_of_firstNamed hfirst).symm.trans hnone) (by simp)
  · refine iff_of_true (contactAtomic_of_ne (hread.trans (bind_error hnull _)) (by simp)) ?_
    rintro ⟨_, front, contact, hfirst, _⟩
    exact absurd ((findIf_of_firstNamed hfirst).symm.trans hnull) (by simp)

private theorem insertFriend_eq_none {db : Database} {avatarId friendAvatarId : Nat} {comment : StdString} :
    db.insertFriend avatarId friendAvatarId comment = none ↔
      (∃ row ∈ db.friend, row.avatarId = avatarId ∧ row.friendAvatarId = friendAvatarId) ∨
        ¬ db.HasAvatar avatarId ∨ ¬ db.HasAvatar friendAvatarId := by
  unfold Database.insertFriend
  split <;> simp_all

private theorem insertIgnore_eq_none {db : Database} {avatarId ignoreAvatarId : Nat} :
    db.insertIgnore avatarId ignoreAvatarId = none ↔
      (∃ row ∈ db.ignore, row.avatarId = avatarId ∧ row.ignoreAvatarId = ignoreAvatarId) ∨
        ¬ db.HasAvatar avatarId ∨ ¬ db.HasAvatar ignoreAvatarId := by
  unfold Database.insertIgnore
  split <;> simp_all

private theorem contacts_pushFriend_ne {u : Server} {a' : ChatAvatar} (h : s.avatar? self = some a)
    (hu : u.avatar? self = some a') (hfriends : a'.friendList = a.friendList) (contact : FriendContact) :
    (u.pushFriend self contact).contacts self ≠ s.contacts self := by
  rw [Server.contacts, avatar?_pushFriend hu, Server.contacts, h]
  intro heq
  have hlist := (Prod.mk.inj (Option.some.inj heq)).1
  rw [hfriends] at hlist
  simpa using congrArg List.length hlist

private theorem contacts_pushIgnored_ne {u : Server} {a' : ChatAvatar} (h : s.avatar? self = some a)
    (hu : u.avatar? self = some a') (hignored : a'.ignoreList = a.ignoreList)
    (contact : IgnoreContact) : (u.pushIgnored self contact).contacts self ≠ s.contacts self := by
  rw [Server.contacts, avatar?_pushIgnored hu, Server.contacts, h]
  intro heq
  have hlist := (Prod.mk.inj (Option.some.inj heq)).2
  rw [hignored] at hlist
  simpa using congrArg List.length hlist

private theorem addFriend_atomic_iff (h : s.avatar? self = some a) (comment : U16String) :
    ContactAtomic s (.addFriend comment) self (some p) ↔ ¬ Spoils s a self p (.addFriend comment) := by
  by_cases hnew : NewFriend a p.avatarId
  case neg =>
    refine iff_of_true ?_ fun hspoils => hnew hspoils.1
    rcases addFriend_idle h hnew comment with ⟨hrun, _⟩ | hrun
    · exact contactAtomic_of_ne hrun (by simp)
    · exact contactAtomic_of_ne hrun (by simp)
  have hrun : ContactOperation.run self (some p) (.addFriend comment) s = _ := addFriend_run h hnew comment
  by_cases hignores : a.ignores p.avatarId = true
  · rw [if_pos hignores] at hrun
    by_cases hf : s.fails s.executed = true
    · have hdelete : execute (.deleteIgnore self.avatarId p.avatarId)
          (s.setIgnored self (a.withoutIgnored p.avatarId)) = _ := execute_failed (.inl hf)
      have hexec := hrun.trans (bind_error hdelete _)
      refine iff_of_false (fun hatomic => ?_) fun hsafe => hsafe ⟨hnew, .inl hf⟩
      exact contacts_setIgnored_ne h (withoutIgnored_ne hignores) (hatomic _ hexec).1
    · have hanswers : s.fails s.executed = false := by simpa using hf
      have hdelete : execute (.deleteIgnore self.avatarId p.avatarId)
          (s.setIgnored self (a.withoutIgnored p.avatarId)) = _ := execute_ok hanswers rfl
      have hexec := hrun.trans (bind_ok hdelete _)
      have hself := avatar?_setIgnored h (a.withoutIgnored p.avatarId)
      refine (contactAtomic_iff_of_statement hexec (contacts_pushFriend_ne h hself rfl _)).trans
        (not_congr ?_)
      have hinsert : ∀ ignore, ({ s.db with ignore } : Database).insertFriend self.avatarId.toNat
          p.avatarId.toNat (fromWideString comment) = none ↔ s.db.insertFriend self.avatarId.toNat
          p.avatarId.toNat (fromWideString comment) = none := fun _ => by
        rw [insertFriend_eq_none, insertFriend_eq_none]
        exact Iff.rfl
      constructor
      · rintro (hfails | hnone)
        · exact ⟨hnew, .inr (.inl ⟨hignores, hfails⟩)⟩
        · exact ⟨hnew, .inr (.inr ((hinsert _).mp (Option.map_eq_none_iff.mp hnone)))⟩
      · rintro ⟨_, hfails | ⟨_, hfails⟩ | hnone⟩
        · exact absurd hfails hf
        · exact .inl hfails
        · exact .inr (Option.map_eq_none_iff.mpr ((hinsert _).mpr hnone))
  · rw [if_neg hignores] at hrun
    refine (contactAtomic_iff_of_statement hrun (contacts_pushFriend_ne h h rfl _)).trans
      (not_congr ?_)
    constructor
    · rintro (hfails | hnone)
      · exact ⟨hnew, .inl hfails⟩
      · exact ⟨hnew, .inr (.inr (Option.map_eq_none_iff.mp hnone))⟩
    · rintro ⟨_, hfails | ⟨hin, _⟩ | hnone⟩
      · exact .inl hfails
      · exact absurd hin hignores
      · exact .inr (Option.map_eq_none_iff.mpr hnone)

private theorem addIgnore_atomic_iff (h : s.avatar? self = some a) :
    ContactAtomic s .addIgnore self (some p) ↔ ¬ Spoils s a self p .addIgnore := by
  by_cases hnew : NewIgnored a p.avatarId
  case neg =>
    refine iff_of_true ?_ fun hspoils => hnew hspoils.1
    rcases addIgnore_idle h hnew with ⟨hrun, _⟩ | hrun
    · exact contactAtomic_of_ne hrun (by simp)
    · exact contactAtomic_of_ne hrun (by simp)
  have hrun : ContactOperation.run self (some p) .addIgnore s = _ := addIgnore_run h hnew
  by_cases hfriend : a.hasFriend p.avatarId = true
  · rw [if_pos hfriend] at hrun
    by_cases hf : s.fails s.executed = true
    · have hdelete : execute (.deleteFriend self.avatarId p.avatarId)
          (s.setFriends self (a.withoutFriend p.avatarId)) = _ := execute_failed (.inl hf)
      have hexec := hrun.trans (bind_error hdelete _)
      refine iff_of_false (fun hatomic => ?_) fun hsafe => hsafe ⟨hnew, .inl hf⟩
      exact contacts_setFriends_ne h (withoutFriend_ne hfriend) (hatomic _ hexec).1
    · have hanswers : s.fails s.executed = false := by simpa using hf
      have hdelete : execute (.deleteFriend self.avatarId p.avatarId)
          (s.setFriends self (a.withoutFriend p.avatarId)) = _ := execute_ok hanswers rfl
      have hexec := hrun.trans (bind_ok hdelete _)
      have hself := avatar?_setFriends h (a.withoutFriend p.avatarId)
      refine (contactAtomic_iff_of_statement hexec (contacts_pushIgnored_ne h hself rfl _)).trans
        (not_congr ?_)
      have hinsert : ∀ friend, ({ s.db with friend } : Database).insertIgnore self.avatarId.toNat
          p.avatarId.toNat = none ↔ s.db.insertIgnore self.avatarId.toNat p.avatarId.toNat = none := by
        intro friend
        rw [insertIgnore_eq_none, insertIgnore_eq_none]
        exact Iff.rfl
      constructor
      · rintro (hfails | hnone)
        · exact ⟨hnew, .inr (.inl ⟨hfriend, hfails⟩)⟩
        · exact ⟨hnew, .inr (.inr ((hinsert _).mp (Option.map_eq_none_iff.mp hnone)))⟩
      · rintro ⟨_, hfails | ⟨_, hfails⟩ | hnone⟩
        · exact absurd hfails hf
        · exact .inl hfails
        · exact .inr (Option.map_eq_none_iff.mpr ((hinsert _).mpr hnone))
  · rw [if_neg hfriend] at hrun
    refine (contactAtomic_iff_of_statement hrun (contacts_pushIgnored_ne h h rfl _)).trans
      (not_congr ?_)
    constructor
    · rintro (hfails | hnone)
      · exact ⟨hnew, .inl hfails⟩
      · exact ⟨hnew, .inr (.inr (Option.map_eq_none_iff.mp hnone))⟩
    · rintro ⟨_, hfails | ⟨hin, _⟩ | hnone⟩
      · exact .inl hfails
      · exact absurd hin hfriend
      · exact .inr (Option.map_eq_none_iff.mpr hnone)

/-- A contact operation is atomic unless one of its statements fails, as the lists change first. -/
theorem contact_atomic_iff (h : s.avatar? self = some a) (operation : ContactOperation) :
    ContactAtomic s operation self (some p) ↔ ¬ Spoils s a self p operation := by
  cases operation with
  | addFriend comment => exact addFriend_atomic_iff h comment
  | removeFriend => exact removeFriend_atomic_iff h
  | updateFriendComment comment => exact updateFriendComment_atomic_iff h comment
  | addIgnore => exact addIgnore_atomic_iff h
  | removeIgnore => exact removeIgnore_atomic_iff h

/-- The server after both stored avatars were looked up. -/
def Server.twoCached (fails : Nat → Bool) : Server :=
  ((do let _ ← getAvatarById 1
       getAvatarById 2) { Server.twoAvatars with fails }).2

/-- One of two avatars adds the other, with a database that answers. -/
theorem contact_atomic_answered :
    ContactAtomic (Server.twoCached fun _ => false) (.addFriend []) firstAvatar (some secondAvatar) := by
  have hcached : ∃ a ∈ (Server.twoCached fun _ => false).avatar? firstAvatar, a.self = firstAvatar := by
    decide +kernel
  have hinsert : ((Server.twoCached fun _ => false).db.insertFriend 1 2 []).isSome = true := by
    decide +kernel
  obtain ⟨a, ha, _⟩ := hcached
  refine (contact_atomic_iff ha (.addFriend [])).mpr ?_
  rintro ⟨_, hfails | ⟨_, hfails⟩ | hnone⟩
  · exact absurd hfails (by decide +kernel)
  · exact absurd hfails (by decide +kernel)
  · have hrefused : ((Server.twoCached fun _ => false).db.insertFriend 1 2 []).isSome = false :=
      congrArg Option.isSome hnone
    exact absurd (hinsert.symm.trans hrefused) (by simp)

/-- The ignore is not stored, but stays in memory. -/
theorem failed_ignore_stays :
    ¬ ContactAtomic (Server.twoCached (· == 6)) .addIgnore firstAvatar (some secondAvatar) := by
  have hrun : (ContactOperation.addIgnore.run firstAvatar (some secondAvatar)
      (Server.twoCached (· == 6))).1 = .error .database := by decide +kernel
  have hlists : (ContactOperation.addIgnore.run firstAvatar (some secondAvatar)
      (Server.twoCached (· == 6))).2.contacts firstAvatar ≠
        (Server.twoCached (· == 6)).contacts firstAvatar := by decide +kernel
  exact fun hatomic => hlists (hatomic _ (Prod.ext hrun rfl)).1

end Operations
end StationChat
