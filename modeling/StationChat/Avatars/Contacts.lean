import StationChat.Model.ChatAvatarService

/-! What the contact operations of one avatar do, as equations. -/
namespace StationChat
open Lib Lib.Action

variable {s : Server} {p self : AvatarPtr} {a : ChatAvatar}

section Objects

theorem readAvatar_run (h : s.avatar? p = some a) : readAvatar p s = (.ok a, s) := by
  rw [readAvatar, get_bind_run, h]
  rfl

theorem readAvatar_dangling (h : s.avatar? p = none) : readAvatar p s = (.error .dangling, s) := by
  rw [readAvatar, get_bind_run, h]
  rfl

theorem writeAvatar_run (h : s.avatar? p = some a) (f : ChatAvatar → ChatAvatar) :
    writeAvatar p f s = (.ok (), s.updateAvatar p f) := by
  rw [writeAvatar, bind_ok (readAvatar_run h)]
  rfl

/-- The object behind a pointer after every object with a given address was changed. -/
theorem avatar?_updateAvatar {f : ChatAvatar → ChatAvatar} (hf : ∀ a, (f a).self = a.self) :
    (s.updateAvatar self f).avatar? p =
      (s.avatar? p).map fun a => if a.self.obj == self.obj then f a else a := by
  simp only [Server.avatar?, Server.updateAvatar]
  induction s.avatarCache with
  | nil => rfl
  | cons a cache ih =>
    have hself : (if a.self.obj == self.obj then f a else a).self = a.self := by
      split
      · exact hf a
      · rfl
    rw [List.map_cons, List.find?_cons, List.find?_cons, hself]
    cases a.self.obj == p.obj with
    | true => rfl
    | false => exact ih

theorem avatar?_updateAvatar_self {f : ChatAvatar → ChatAvatar} (hf : ∀ a, (f a).self = a.self)
    (h : s.avatar? p = some a) : (s.updateAvatar p f).avatar? p = some (f a) := by
  have hobj : (a.self.obj == p.obj) = true := by simpa using List.find?_some h
  rw [avatar?_updateAvatar hf, h, Option.map_some, if_pos hobj]

end Objects

/-- A statement changes no object of the process. -/
structure SameObjects (s t : Server) : Prop where
  avatarCache : t.avatarCache = s.avatarCache
  onlineAvatars : t.onlineAvatars = s.onlineAvatars
  rooms : t.rooms = s.rooms
  sent : t.sent = s.sent
  objects : t.objects = s.objects

theorem execute_error {α : Type} {statement : Statement α} {e : Exn} {t : Server}
    (h : execute statement s = (.error e, t)) : e = .database ∧ t.db = s.db := by
  unfold execute at h
  split at h
  · obtain ⟨he, rfl⟩ := Prod.mk.inj h
    exact ⟨(Except.error.inj he).symm, rfl⟩
  · exact absurd (Prod.mk.inj h).1 (by simp)

theorem execute_rest {α : Type} {statement : Statement α} {result : Except Exn α} {t : Server}
    (h : execute statement s = (result, t)) : SameObjects s t := by
  unfold execute at h
  split at h
  · obtain ⟨_, rfl⟩ := Prod.mk.inj h
    exact ⟨rfl, rfl, rfl, rfl, rfl⟩
  · obtain ⟨_, rfl⟩ := Prod.mk.inj h
    exact ⟨rfl, rfl, rfl, rfl, rfl⟩

section Scans
variable {κ : Type} {key : κ → Option AvatarPtr} {avatarId : UInt32} {contacts : List κ}

/-- The contact names the avatar. -/
def Names (key : κ → Option AvatarPtr) (avatarId : UInt32) (contact : κ) : Bool :=
  (key contact).any (·.avatarId == avatarId)

/-- No contact of the list is a null pointer. -/
def NoNull (key : κ → Option AvatarPtr) (contacts : List κ) : Prop :=
  ∀ contact ∈ contacts, (key contact).isSome = true

instance : Decidable (NoNull key contacts) :=
  inferInstanceAs (Decidable (∀ contact ∈ contacts, (key contact).isSome = true))

theorem noNull_nil : NoNull key [] := fun _ h => absurd h List.not_mem_nil

theorem noNull_cons {contact : κ} :
    NoNull key (contact :: contacts) ↔ (key contact).isSome = true ∧ NoNull key contacts :=
  List.forall_mem_cons

theorem sameAvatar_run {c : Option AvatarPtr} : sameAvatar c (some p) s =
    if c.isSome then (.ok (c.any (·.avatarId == p.avatarId)), s) else (.error .nullPointer, s) := by
  cases c <;> rfl

/-- A search that finds nothing has followed every pointer. -/
theorem anyM_sameAvatar (hnull : NoNull key contacts) :
    contacts.anyM (fun contact => sameAvatar (key contact) (some p)) s =
      (.ok (contacts.any (Names key p.avatarId)), s) := by
  induction contacts with
  | nil => rfl
  | cons contact rest ih =>
    obtain ⟨hsome, hrest⟩ := noNull_cons.mp hnull
    have hrun : sameAvatar (key contact) (some p) s = (.ok (Names key p.avatarId contact), s) := by
      rw [sameAvatar_run, if_pos hsome]
      rfl
    rw [List.anyM, bind_ok hrun, List.any_cons]
    cases Names key p.avatarId contact with
    | true => rfl
    | false => exact ih hrest

/-- A search ends at a null pointer, or with the answer; a search that finds nothing has followed every
pointer. -/
theorem anyM_sameAvatar_cases :
    contacts.anyM (fun contact => sameAvatar (key contact) (some p)) s = (.error .nullPointer, s) ∨
      contacts.anyM (fun contact => sameAvatar (key contact) (some p)) s =
        (.ok (contacts.any (Names key p.avatarId)), s) ∧
        (contacts.any (Names key p.avatarId) = false → NoNull key contacts) := by
  induction contacts with
  | nil => exact .inr ⟨rfl, fun _ => noNull_nil⟩
  | cons contact rest ih =>
    rw [List.anyM, bind_run, sameAvatar_run]
    cases hkey : key contact with
    | none => exact .inl rfl
    | some q =>
      simp only [Option.isSome_some, if_true, Option.any_some, List.any_cons, Names, hkey]
      cases q.avatarId == p.avatarId with
      | true => exact .inr ⟨rfl, fun h => absurd h (by simp)⟩
      | false =>
        rcases ih with hnull | ⟨hrun, hnull⟩
        · exact .inl hnull
        · exact .inr ⟨hrun, fun h => noNull_cons.mpr ⟨by simp [hkey], hnull h⟩⟩

theorem removeIf_sameAvatar :
    removeIf (fun contact => sameAvatar (key contact) (some p)) contacts s =
      if NoNull key contacts then (.ok (contacts.filter fun c => !Names key p.avatarId c), s)
      else (.error .nullPointer, s) := by
  induction contacts with
  | nil =>
    rw [if_pos noNull_nil]
    rfl
  | cons contact rest ih =>
    rw [removeIf, bind_run, sameAvatar_run]
    cases hkey : key contact with
    | none =>
      have hnot : ¬ NoNull key (contact :: rest) := fun h => by simp [noNull_cons, hkey] at h
      rw [if_neg hnot]
      rfl
    | some q =>
      have hcons : NoNull key (contact :: rest) ↔ NoNull key rest := by simp [noNull_cons, hkey]
      simp only [Option.isSome_some, if_true, Option.any_some]
      by_cases hnull : NoNull key rest
      · rw [if_pos hnull] at ih
        rw [bind_ok ih, if_pos (hcons.mpr hnull), List.filter_cons, Names, hkey, Option.any_some]
        cases q.avatarId == p.avatarId <;> rfl
      · rw [if_neg hnull] at ih
        rw [bind_error ih, if_neg fun h => hnull (hcons.mp h)]

/-- A pass over the list drops contacts exactly if some contact names the avatar. -/
theorem length_filter_lt :
    (contacts.filter fun c => !Names key avatarId c).length < contacts.length ↔
      contacts.any (Names key avatarId) = true := by
  rw [List.length_filter_lt_length_iff_exists, List.any_eq_true]
  simp

/-- The first contact of the list that names the avatar stands behind `front`. -/
def FirstNamed (key : κ → Option AvatarPtr) (avatarId : UInt32) (contacts front : List κ) (contact : κ) :
    Prop :=
  (∃ back, contacts = front ++ contact :: back) ∧ NoNull key front ∧
    front.any (Names key avatarId) = false ∧ Names key avatarId contact = true

theorem findIf_of_firstNamed {front : List κ} {contact : κ}
    (h : FirstNamed key p.avatarId contacts front contact) :
    findIf (fun contact => sameAvatar (key contact) (some p)) contacts s =
      (.ok (some front.length), s) := by
  obtain ⟨⟨back, rfl⟩, hnull, hfront, hnames⟩ := h
  induction front with
  | nil =>
    have hsome : (key contact).isSome = true := by
      cases hkey : key contact with
      | none => simp [Names, hkey] at hnames
      | some q => rfl
    have hrun : sameAvatar (key contact) (some p) s = (.ok true, s) := by
      rw [sameAvatar_run, if_pos hsome]
      exact congrArg (fun found => (Except.ok found, s)) hnames
    rw [List.nil_append, findIf, bind_ok hrun]
    rfl
  | cons first front ih =>
    obtain ⟨hsome, hnull⟩ := noNull_cons.mp hnull
    rw [List.any_cons, Bool.or_eq_false_iff] at hfront
    have hrun : sameAvatar (key first) (some p) s = (.ok false, s) := by
      rw [sameAvatar_run, if_pos hsome]
      exact congrArg (fun found => (Except.ok found, s)) hfront.1
    rw [List.cons_append, findIf, bind_ok hrun]
    exact bind_ok (ih hnull hfront.2) _

theorem findIf_sameAvatar_cases (key : κ → Option AvatarPtr) (contacts : List κ) :
    (∃ front contact, FirstNamed key p.avatarId contacts front contact) ∨
      findIf (fun contact => sameAvatar (key contact) (some p)) contacts s = (.ok none, s) ∨
      findIf (fun contact => sameAvatar (key contact) (some p)) contacts s =
        (.error .nullPointer, s) := by
  induction contacts with
  | nil => exact .inr (.inl rfl)
  | cons first rest ih =>
    rw [findIf, bind_run, sameAvatar_run]
    cases hkey : key first with
    | none => exact .inr (.inr rfl)
    | some q =>
      simp only [Option.isSome_some, if_true, Option.any_some]
      cases hq : q.avatarId == p.avatarId with
      | true =>
        exact .inl ⟨[], first, ⟨rest, rfl⟩, noNull_nil, rfl, by rw [Names, hkey, Option.any_some, hq]⟩
      | false =>
        simp only [Bool.false_eq_true, if_false]
        rcases ih with ⟨front, contact, ⟨back, rfl⟩, hnull, hfront, hnames⟩ | hrest | hrest
        · refine .inl ⟨first :: front, contact, ⟨back, rfl⟩, noNull_cons.mpr ⟨by simp [hkey], hnull⟩, ?_,
            hnames⟩
          rw [List.any_cons, hfront, Names, hkey, Option.any_some, hq]
          rfl
        · exact .inr (.inl (by rw [bind_ok hrest]; rfl))
        · exact .inr (.inr (bind_error hrest _))

/-- There is only one first contact. -/
theorem FirstNamed.unique {front front' : List κ} {contact contact' : κ}
    (h : FirstNamed key p.avatarId contacts front contact)
    (h' : FirstNamed key p.avatarId contacts front' contact') (s : Server) : contact = contact' := by
  have hfound := (findIf_of_firstNamed (s := s) h).symm.trans (findIf_of_firstNamed h')
  have hlength : front.length = front'.length :=
    Option.some.inj (Except.ok.inj (Prod.mk.inj hfound).1)
  obtain ⟨⟨back, hback⟩, _⟩ := h
  obtain ⟨⟨back', hback'⟩, _⟩ := h'
  have happend := List.append_inj (hback.symm.trans hback') hlength
  exact (List.cons.inj happend.2).1

end Scans

namespace ChatAvatar

/-- `IsFriend` of a list without null pointers. -/
def hasFriend (a : ChatAvatar) (avatarId : UInt32) : Bool :=
  a.friendList.any (Names FriendContact.frnd avatarId)

def ignores (a : ChatAvatar) (avatarId : UInt32) : Bool :=
  a.ignoreList.any (Names IgnoreContact.ignored avatarId)

def withoutFriend (a : ChatAvatar) (avatarId : UInt32) : List FriendContact :=
  a.friendList.filter fun contact => !Names FriendContact.frnd avatarId contact

def withoutIgnored (a : ChatAvatar) (avatarId : UInt32) : List IgnoreContact :=
  a.ignoreList.filter fun contact => !Names IgnoreContact.ignored avatarId contact

end ChatAvatar

/-- The object's friend list is replaced. -/
def Server.setFriends (s : Server) (p : AvatarPtr) (friendList : List FriendContact) : Server :=
  s.updateAvatar p fun a => { a with friendList }

def Server.setIgnored (s : Server) (p : AvatarPtr) (ignoreList : List IgnoreContact) : Server :=
  s.updateAvatar p fun a => { a with ignoreList }

def Server.pushFriend (s : Server) (p : AvatarPtr) (contact : FriendContact) : Server :=
  s.updateAvatar p fun a => { a with friendList := a.friendList ++ [contact] }

def Server.pushIgnored (s : Server) (p : AvatarPtr) (contact : IgnoreContact) : Server :=
  s.updateAvatar p fun a => { a with ignoreList := a.ignoreList ++ [contact] }

def Server.setComment (s : Server) (p : AvatarPtr) (found : Nat) (comment : U16String) : Server :=
  s.updateAvatar p fun a =>
    { a with friendList := a.friendList.modify found fun contact => { contact with comment } }

section Operations

theorem avatar?_setFriends (h : s.avatar? self = some a) (friendList : List FriendContact) :
    (s.setFriends self friendList).avatar? self = some { a with friendList } :=
  avatar?_updateAvatar_self (fun _ => rfl) h

theorem avatar?_setIgnored (h : s.avatar? self = some a) (ignoreList : List IgnoreContact) :
    (s.setIgnored self ignoreList).avatar? self = some { a with ignoreList } :=
  avatar?_updateAvatar_self (fun _ => rfl) h

theorem avatar?_pushFriend (h : s.avatar? self = some a) (contact : FriendContact) :
    (s.pushFriend self contact).avatar? self =
      some { a with friendList := a.friendList ++ [contact] } :=
  avatar?_updateAvatar_self (fun _ => rfl) h

theorem avatar?_pushIgnored (h : s.avatar? self = some a) (contact : IgnoreContact) :
    (s.pushIgnored self contact).avatar? self =
      some { a with ignoreList := a.ignoreList ++ [contact] } :=
  avatar?_updateAvatar_self (fun _ => rfl) h

theorem avatar?_setComment (h : s.avatar? self = some a) (found : Nat) (comment : U16String) :
    (s.setComment self found comment).avatar? self = some { a with
      friendList := a.friendList.modify found fun contact => { contact with comment } } :=
  avatar?_updateAvatar_self (fun _ => rfl) h

/-- The first contact that names the avatar gets the comment. -/
theorem updateFriendComment_run (h : s.avatar? self = some a) {front : List FriendContact}
    {contact : FriendContact} (hfirst : FirstNamed FriendContact.frnd p.avatarId a.friendList front contact)
    (comment : U16String) : updateFriendComment self (some p) comment s =
      execute (.updateFriend self.avatarId p.avatarId (fromWideString comment))
        (s.setComment self front.length comment) := by
  rw [updateFriendComment, bind_ok (readAvatar_run h), bind_ok (findIf_of_firstNamed hfirst)]
  exact bind_ok (writeAvatar_run h _) _

theorem isFriend_eq (h : s.avatar? self = some a) : isFriend self (some p) s =
    a.friendList.anyM (fun contact => sameAvatar contact.frnd (some p)) s := by
  rw [isFriend, bind_ok (readAvatar_run h)]

theorem isIgnored_eq (h : s.avatar? self = some a) : isIgnored self (some p) s =
    a.ignoreList.anyM (fun contact => sameAvatar contact.ignored (some p)) s := by
  rw [isIgnored, bind_ok (readAvatar_run h)]

theorem isFriend_run (h : s.avatar? self = some a) (hnull : NoNull FriendContact.frnd a.friendList) :
    isFriend self (some p) s = (.ok (a.hasFriend p.avatarId), s) :=
  (isFriend_eq h).trans (anyM_sameAvatar hnull)

theorem isIgnored_run (h : s.avatar? self = some a)
    (hnull : NoNull IgnoreContact.ignored a.ignoreList) :
    isIgnored self (some p) s = (.ok (a.ignores p.avatarId), s) :=
  (isIgnored_eq h).trans (anyM_sameAvatar hnull)

/-- The list in memory changes before the statement is sent. -/
theorem removeFriend_run (h : s.avatar? self = some a) : removeFriend self (some p) s =
    if NoNull FriendContact.frnd a.friendList then
      if a.hasFriend p.avatarId then
        execute (.deleteFriend self.avatarId p.avatarId)
          (s.setFriends self (a.withoutFriend p.avatarId))
      else (.ok (), s)
    else (.error .nullPointer, s) := by
  rw [removeFriend, bind_ok (readAvatar_run h), bind_run, removeIf_sameAvatar]
  by_cases hnull : NoNull FriendContact.frnd a.friendList
  case neg => rw [if_neg hnull, if_neg hnull]
  rw [if_pos hnull, if_pos hnull]
  by_cases hfriend : a.hasFriend p.avatarId = true
  · rw [if_pos hfriend]
    simp only [length_filter_lt.mpr hfriend, if_true]
    rw [bind_ok (writeAvatar_run h _)]
    rfl
  · have hkept := mt length_filter_lt.mp hfriend
    simp only [hkept, hfriend, if_false]
    rfl

theorem removeIgnore_run (h : s.avatar? self = some a) : removeIgnore self (some p) s =
    if NoNull IgnoreContact.ignored a.ignoreList then
      if a.ignores p.avatarId then
        execute (.deleteIgnore self.avatarId p.avatarId)
          (s.setIgnored self (a.withoutIgnored p.avatarId))
      else (.ok (), s)
    else (.error .nullPointer, s) := by
  rw [removeIgnore, bind_ok (readAvatar_run h), bind_run, removeIf_sameAvatar]
  by_cases hnull : NoNull IgnoreContact.ignored a.ignoreList
  case neg => rw [if_neg hnull, if_neg hnull]
  rw [if_pos hnull, if_pos hnull]
  by_cases hignored : a.ignores p.avatarId = true
  · rw [if_pos hignored]
    simp only [length_filter_lt.mpr hignored, if_true]
    rw [bind_ok (writeAvatar_run h _)]
    rfl
  · have hkept := mt length_filter_lt.mp hignored
    simp only [hkept, hignored, if_false]
    rfl

theorem isFriend_cases (h : s.avatar? self = some a) :
    isFriend self (some p) s = (.error .nullPointer, s) ∨
      isFriend self (some p) s = (.ok (a.hasFriend p.avatarId), s) ∧
        (a.hasFriend p.avatarId = false → NoNull FriendContact.frnd a.friendList) := by
  rw [isFriend_eq h]
  exact anyM_sameAvatar_cases

theorem isIgnored_cases (h : s.avatar? self = some a) :
    isIgnored self (some p) s = (.error .nullPointer, s) ∨
      isIgnored self (some p) s = (.ok (a.ignores p.avatarId), s) ∧
        (a.ignores p.avatarId = false → NoNull IgnoreContact.ignored a.ignoreList) := by
  rw [isIgnored_eq h]
  exact anyM_sameAvatar_cases

/-- The avatar is in neither list, or in the other one only, and no contact is a null pointer. -/
structure NewFriend (a : ChatAvatar) (avatarId : UInt32) : Prop where
  friends : NoNull FriendContact.frnd a.friendList
  ignored : NoNull IgnoreContact.ignored a.ignoreList
  fresh : a.hasFriend avatarId = false

structure NewIgnored (a : ChatAvatar) (avatarId : UInt32) : Prop where
  friends : NoNull FriendContact.frnd a.friendList
  ignored : NoNull IgnoreContact.ignored a.ignoreList
  fresh : a.ignores avatarId = false

/-- The end of `AddFriend`: the contact is pushed, then its row is inserted. -/
def befriend (self p : AvatarPtr) (comment : U16String) : Serve Unit := fun s =>
  persistFriend self.avatarId p.avatarId comment (s.pushFriend self ⟨some p, comment⟩)

def shun (self p : AvatarPtr) : Serve Unit := fun s =>
  persistIgnore self.avatarId p.avatarId (s.pushIgnored self ⟨some p⟩)

/-- Before any change the operation has ended, by a null pointer if it fails. -/
theorem addFriend_idle (h : s.avatar? self = some a) (hnot : ¬ NewFriend a p.avatarId)
    (comment : U16String) :
    addFriend self (some p) comment s = (.ok (), s) ∧ a.hasFriend p.avatarId = true ∨
      addFriend self (some p) comment s = (.error .nullPointer, s) := by
  rw [addFriend]
  rcases isFriend_cases (p := p) h with hnull | ⟨hfriend, hfriends⟩
  · exact .inr (bind_error hnull _)
  rw [bind_ok hfriend]
  cases hfresh : a.hasFriend p.avatarId with
  | true => exact .inl ⟨rfl, rfl⟩
  | false =>
    refine .inr ?_
    simp only [Bool.false_eq_true, if_false]
    rcases isIgnored_cases (p := p) h with hnull | ⟨hignores, hignored⟩
    · exact bind_error hnull _
    have hsome : ¬ NoNull IgnoreContact.ignored a.ignoreList := fun hi =>
      hnot ⟨hfriends hfresh, hi, hfresh⟩
    have hmatch : a.ignores p.avatarId = true := by simpa using mt hignored hsome
    rw [bind_ok hignores, hmatch, runIf, if_pos rfl]
    exact bind_error (by rw [removeIgnore_run h, if_neg hsome]) _

theorem addFriend_run (h : s.avatar? self = some a) (hnew : NewFriend a p.avatarId)
    (comment : U16String) : addFriend self (some p) comment s =
      if a.ignores p.avatarId then
        (execute (.deleteIgnore self.avatarId p.avatarId) >>= fun _ => befriend self p comment)
          (s.setIgnored self (a.withoutIgnored p.avatarId))
      else befriend self p comment s := by
  have hbefriend : ∀ u a', u.avatar? self = some a' →
      (do writeAvatar self fun a => { a with friendList := a.friendList ++ [⟨some p, comment⟩] }
          persistFriend self.avatarId (← deref (some p)).avatarId comment : Serve Unit) u =
        befriend self p comment u := fun u a' hu => bind_ok (writeAvatar_run hu _) _
  rw [addFriend, bind_ok (isFriend_run h hnew.friends), hnew.fresh]
  simp only [Bool.false_eq_true, if_false]
  rw [bind_ok (isIgnored_run h hnew.ignored)]
  cases hignores : a.ignores p.avatarId with
  | false => exact hbefriend s a h
  | true =>
    simp only [runIf, if_true]
    rw [bind_run, bind_run, removeIgnore_run h, if_pos hnew.ignored, if_pos hignores]
    cases hexec : execute (.deleteIgnore self.avatarId p.avatarId)
        (s.setIgnored self (a.withoutIgnored p.avatarId)) with
    | mk result u =>
      cases result with
      | error e => rfl
      | ok _ =>
        have hself : u.avatar? self = some { a with ignoreList := a.withoutIgnored p.avatarId } := by
          rw [Server.avatar?, (execute_rest hexec).avatarCache]
          exact avatar?_setIgnored h _
        exact hbefriend u _ hself

theorem addIgnore_idle (h : s.avatar? self = some a) (hnot : ¬ NewIgnored a p.avatarId) :
    addIgnore self (some p) s = (.ok (), s) ∧ a.ignores p.avatarId = true ∨
      addIgnore self (some p) s = (.error .nullPointer, s) := by
  rw [addIgnore]
  rcases isIgnored_cases (p := p) h with hnull | ⟨hignores, hignored⟩
  · exact .inr (bind_error hnull _)
  rw [bind_ok hignores]
  cases hfresh : a.ignores p.avatarId with
  | true => exact .inl ⟨rfl, rfl⟩
  | false =>
    refine .inr ?_
    simp only [Bool.false_eq_true, if_false]
    rcases isFriend_cases (p := p) h with hnull | ⟨hfriend, hfriends⟩
    · exact bind_error hnull _
    have hsome : ¬ NoNull FriendContact.frnd a.friendList := fun hf =>
      hnot ⟨hf, hignored hfresh, hfresh⟩
    have hmatch : a.hasFriend p.avatarId = true := by simpa using mt hfriends hsome
    rw [bind_ok hfriend, hmatch, runIf, if_pos rfl]
    exact bind_error (by rw [removeFriend_run h, if_neg hsome]) _

theorem addIgnore_run (h : s.avatar? self = some a) (hnew : NewIgnored a p.avatarId) :
    addIgnore self (some p) s =
      if a.hasFriend p.avatarId then
        (execute (.deleteFriend self.avatarId p.avatarId) >>= fun _ => shun self p)
          (s.setFriends self (a.withoutFriend p.avatarId))
      else shun self p s := by
  have hshun : ∀ u a', u.avatar? self = some a' →
      (do writeAvatar self fun a => { a with ignoreList := a.ignoreList ++ [⟨some p⟩] }
          persistIgnore self.avatarId (← deref (some p)).avatarId : Serve Unit) u =
        shun self p u := fun u a' hu => bind_ok (writeAvatar_run hu _) _
  rw [addIgnore, bind_ok (isIgnored_run h hnew.ignored), hnew.fresh]
  simp only [Bool.false_eq_true, if_false]
  rw [bind_ok (isFriend_run h hnew.friends)]
  cases hfriend : a.hasFriend p.avatarId with
  | false => exact hshun s a h
  | true =>
    simp only [runIf, if_true]
    rw [bind_run, bind_run, removeFriend_run h, if_pos hnew.friends, if_pos hfriend]
    cases hexec : execute (.deleteFriend self.avatarId p.avatarId)
        (s.setFriends self (a.withoutFriend p.avatarId)) with
    | mk result u =>
      cases result with
      | error e => rfl
      | ok _ =>
        have hself : u.avatar? self = some { a with friendList := a.withoutFriend p.avatarId } := by
          rw [Server.avatar?, (execute_rest hexec).avatarCache]
          exact avatar?_setFriends h _
        exact hshun u _ hself

end Operations
end StationChat
