import StationChat.Avatars.Settled

/-! What the contact operations do to the tables, and that the cache follows. -/
namespace StationChat
open Lib Lib.Action Lib.Contract

namespace Database

def dropFriend (db : Database) (i j : Nat) : Database :=
  { db with friend := db.friend.filter fun row => ¬ (row.avatarId = i ∧ row.friendAvatarId = j) }

def dropIgnored (db : Database) (i j : Nat) : Database :=
  { db with ignore := db.ignore.filter fun row => ¬ (row.avatarId = i ∧ row.ignoreAvatarId = j) }

def putFriend (db : Database) (i j : Nat) (comment : StdString) : Database :=
  { db with friend := db.friend ++ [⟨i, j, comment⟩] }

def putIgnored (db : Database) (i j : Nat) : Database := { db with ignore := db.ignore ++ [⟨i, j⟩] }

def setComment (db : Database) (i j : Nat) (comment : StdString) : Database :=
  { db with friend := db.friend.map fun row =>
      if row.avatarId = i ∧ row.friendAvatarId = j then { row with comment } else row }

instance (db : Database) (i j : Nat) : Decidable (db.Ignores i j) :=
  inferInstanceAs (Decidable (∃ row ∈ db.ignore, row.avatarId = i ∧ row.ignoreAvatarId = j))

/-- What an operation of the avatar `i` about the avatar `j` means, by the tables alone. -/
def contact (db : Database) (i j : Nat) : ContactOperation → Database
  | .addFriend comment =>
    if db.Befriends i j then db else (db.dropIgnored i j).putFriend i j (fromWideString comment)
  | .removeFriend => db.dropFriend i j
  | .updateFriendComment comment => db.setComment i j (fromWideString comment)
  | .addIgnore => if db.Ignores i j then db else (db.dropFriend i j).putIgnored i j
  | .removeIgnore => db.dropIgnored i j

end Database

variable {s t u : Server} {p q self : AvatarPtr} {a : ChatAvatar} {db db' : Database} {i j k : Nat}
  {comment : StdString}

section Rows

theorem friendRows_dropFriend (db : Database) (i j k : Nat) : (db.dropFriend i j).friendRows k =
    (db.friendRows k).filter fun row => ¬ (k = i ∧ row.friendAvatarId = j) := by
  simp only [Database.friendRows, Database.dropFriend, List.filter_filter]
  apply List.filter_congr
  intro row _
  by_cases hk : row.avatarId = k <;> simp [hk]

theorem ignoreRows_dropIgnored (db : Database) (i j k : Nat) : (db.dropIgnored i j).ignoreRows k =
    (db.ignoreRows k).filter fun row => ¬ (k = i ∧ row.ignoreAvatarId = j) := by
  simp only [Database.ignoreRows, Database.dropIgnored, List.filter_filter]
  apply List.filter_congr
  intro row _
  by_cases hk : row.avatarId = k <;> simp [hk]

theorem friendRows_putFriend (db : Database) (i j k : Nat) (comment : StdString) :
    (db.putFriend i j comment).friendRows k = db.friendRows k ++ if k = i then [⟨i, j, comment⟩] else [] := by
  rw [Database.friendRows, Database.putFriend, List.filter_append]
  congr 1
  by_cases hk : k = i
  · simp [hk]
  · simp [hk, Ne.symm hk]

theorem ignoreRows_putIgnored (db : Database) (i j k : Nat) :
    (db.putIgnored i j).ignoreRows k = db.ignoreRows k ++ if k = i then [⟨i, j⟩] else [] := by
  rw [Database.ignoreRows, Database.putIgnored, List.filter_append]
  congr 1
  by_cases hk : k = i
  · simp [hk]
  · simp [hk, Ne.symm hk]

theorem friendRows_setComment (db : Database) (i j k : Nat) (comment : StdString) :
    (db.setComment i j comment).friendRows k = (db.friendRows k).map fun row =>
      if k = i ∧ row.friendAvatarId = j then { row with comment } else row := by
  simp only [Database.friendRows, Database.setComment]
  induction db.friend with
  | nil => rfl
  | cons row rows ih =>
    rw [List.map_cons, List.filter_cons, List.filter_cons]
    have howner : (if row.avatarId = i ∧ row.friendAvatarId = j then { row with comment } else row).avatarId =
        row.avatarId := by split <;> rfl
    simp only [howner]
    by_cases hk : row.avatarId = k
    · simp [hk, ih]
    · simp [hk, ih]

end Rows

section Sound

theorem sound_dropFriend (h : db.Sound) (i j : Nat) : (db.dropFriend i j).Sound where
  referential := ⟨fun row hrow => h.referential.friend row (List.mem_filter.mp hrow).1, h.referential.ignored⟩
  owned := ⟨fun row hrow => h.owned.friend row (List.mem_filter.mp hrow).1, h.owned.ignored⟩
  ids := h.ids
  contactKeys := ⟨(List.filter_sublist.map _).nodup h.contactKeys.friend, h.contactKeys.ignored⟩
  next := h.next

theorem sound_dropIgnored (h : db.Sound) (i j : Nat) : (db.dropIgnored i j).Sound where
  referential := ⟨h.referential.friend, fun row hrow => h.referential.ignored row (List.mem_filter.mp hrow).1⟩
  owned := ⟨h.owned.friend, fun row hrow => h.owned.ignored row (List.mem_filter.mp hrow).1⟩
  ids := h.ids
  contactKeys := ⟨h.contactKeys.friend, h.contactKeys.ignored.filter _⟩
  next := h.next

theorem sound_putFriend (h : db.Sound) (hnew : ¬ db.Befriends i j) (hi : db.HasAvatar i) (hj : db.HasAvatar j) :
    (db.putFriend i j comment).Sound where
  referential := by
    refine ⟨fun row hrow => ?_, h.referential.ignored⟩
    rcases List.mem_append.mp hrow with hrow | hrow
    · exact h.referential.friend row hrow
    · rw [List.mem_singleton.mp hrow]
      exact hj
  owned := by
    refine ⟨fun row hrow => ?_, h.owned.ignored⟩
    rcases List.mem_append.mp hrow with hrow | hrow
    · exact h.owned.friend row hrow
    · rw [List.mem_singleton.mp hrow]
      exact hi
  ids := h.ids
  contactKeys := by
    refine ⟨?_, h.contactKeys.ignored⟩
    rw [Database.putFriend, List.map_append, List.nodup_append]
    refine ⟨h.contactKeys.friend, by simp, fun key hkey key' hkey' => ?_⟩
    obtain ⟨row, hrow, rfl⟩ := List.mem_map.mp hkey
    obtain rfl : key' = (i, j) := by simpa using hkey'
    exact fun heq => hnew ⟨row, hrow, (Prod.mk.inj heq).1, (Prod.mk.inj heq).2⟩
  next := h.next

theorem sound_putIgnored (h : db.Sound) (hnew : ¬ db.Ignores i j) (hi : db.HasAvatar i) (hj : db.HasAvatar j) :
    (db.putIgnored i j).Sound where
  referential := by
    refine ⟨h.referential.friend, fun row hrow => ?_⟩
    rcases List.mem_append.mp hrow with hrow | hrow
    · exact h.referential.ignored row hrow
    · rw [List.mem_singleton.mp hrow]
      exact hj
  owned := by
    refine ⟨h.owned.friend, fun row hrow => ?_⟩
    rcases List.mem_append.mp hrow with hrow | hrow
    · exact h.owned.ignored row hrow
    · rw [List.mem_singleton.mp hrow]
      exact hi
  ids := h.ids
  contactKeys := by
    refine ⟨h.contactKeys.friend, ?_⟩
    rw [Database.putIgnored, List.nodup_append]
    refine ⟨h.contactKeys.ignored, by simp, fun row hrow row' hrow' => ?_⟩
    rw [List.mem_singleton.mp hrow']
    rintro rfl
    exact hnew ⟨_, hrow, rfl, rfl⟩
  next := h.next

theorem sound_setComment (h : db.Sound) (i j : Nat) (comment : StdString) : (db.setComment i j comment).Sound := by
  have hback : ∀ row ∈ (db.setComment i j comment).friend, ∃ row' ∈ db.friend,
      row.avatarId = row'.avatarId ∧ row.friendAvatarId = row'.friendAvatarId := by
    intro row hrow
    obtain ⟨row', hrow', rfl⟩ := List.mem_map.mp hrow
    refine ⟨row', hrow', ?_⟩
    split <;> exact ⟨rfl, rfl⟩
  refine ⟨⟨fun row hrow => ?_, h.referential.ignored⟩, ⟨fun row hrow => ?_, h.owned.ignored⟩,
    h.ids, ⟨?_, h.contactKeys.ignored⟩, h.next⟩
  · obtain ⟨row', hrow', -, hid⟩ := hback row hrow
    rw [hid]
    exact h.referential.friend row' hrow'
  · obtain ⟨row', hrow', hid, -⟩ := hback row hrow
    rw [hid]
    exact h.owned.friend row' hrow'
  · have hkeys : (db.setComment i j comment).friend.map (fun row => (row.avatarId, row.friendAvatarId)) =
        db.friend.map fun row => (row.avatarId, row.friendAvatarId) := by
      rw [Database.setComment, List.map_map]
      apply List.map_congr_left
      intro row _
      rw [Function.comp_apply]
      split <;> rfl
    rw [hkeys]
    exact h.contactKeys.friend

/-- Contact rows of one avatar were changed, and no others. -/
structure Revises (i : Nat) (db db' : Database) : Prop where
  sound : db'.Sound
  avatar : db'.avatar = db.avatar
  friendRows : ∀ k, k ≠ i → db'.friendRows k = db.friendRows k
  ignoreRows : ∀ k, k ≠ i → db'.ignoreRows k = db.ignoreRows k

theorem revises_dropFriend (h : db.Sound) (i j : Nat) : Revises i db (db.dropFriend i j) where
  sound := sound_dropFriend h i j
  avatar := rfl
  friendRows k hk := by simp [friendRows_dropFriend, hk]
  ignoreRows _ _ := rfl

theorem revises_dropIgnored (h : db.Sound) (i j : Nat) : Revises i db (db.dropIgnored i j) where
  sound := sound_dropIgnored h i j
  avatar := rfl
  friendRows _ _ := rfl
  ignoreRows k hk := by simp [ignoreRows_dropIgnored, hk]

theorem revises_putFriend (h : db.Sound) (hnew : ¬ db.Befriends i j) (hi : db.HasAvatar i) (hj : db.HasAvatar j) :
    Revises i db (db.putFriend i j comment) where
  sound := sound_putFriend h hnew hi hj
  avatar := rfl
  friendRows k hk := by rw [friendRows_putFriend, if_neg hk, List.append_nil]
  ignoreRows _ _ := rfl

theorem revises_putIgnored (h : db.Sound) (hnew : ¬ db.Ignores i j) (hi : db.HasAvatar i) (hj : db.HasAvatar j) :
    Revises i db (db.putIgnored i j) where
  sound := sound_putIgnored h hnew hi hj
  avatar := rfl
  friendRows _ _ := rfl
  ignoreRows k hk := by rw [ignoreRows_putIgnored, if_neg hk, List.append_nil]

theorem revises_setComment (h : db.Sound) (i j : Nat) (comment : StdString) :
    Revises i db (db.setComment i j comment) where
  sound := sound_setComment h i j comment
  avatar := rfl
  friendRows k hk := by simp [friendRows_setComment, hk]
  ignoreRows _ _ := rfl

end Sound

section Lists

/-- The entries that remain without an avatar. -/
theorem friendEntries_withoutFriend (a : ChatAvatar) (id : UInt32) :
    (a.withoutFriend id).map (fun c => (c.frnd.map (·.avatarId.toNat), c.comment)) =
      a.friendEntries.filter fun entry => entry.1 ≠ some id.toNat := by
  rw [ChatAvatar.friendEntries, List.filter_map, ChatAvatar.withoutFriend]
  congr 1
  apply List.filter_congr
  intro c _
  cases h : c.frnd with
  | none => simp [Names, h]
  | some p =>
    rw [Bool.eq_iff_iff]
    simp [Names, h, UInt32.toNat_inj]

theorem ignoreEntries_withoutIgnored (a : ChatAvatar) (id : UInt32) :
    (a.withoutIgnored id).map (fun c => c.ignored.map (·.avatarId.toNat)) =
      a.ignoreEntries.filter (· ≠ some id.toNat) := by
  rw [ChatAvatar.ignoreEntries, List.filter_map, ChatAvatar.withoutIgnored]
  congr 1
  apply List.filter_congr
  intro c _
  cases h : c.ignored with
  | none => simp [Names, h]
  | some p =>
    rw [Bool.eq_iff_iff]
    simp [Names, h, UInt32.toNat_inj]

theorem whole_dropFriend (h : Whole db a) (id : UInt32) : Whole (db.dropFriend a.self.avatarId.toNat id.toNat)
    { a with friendList := a.withoutFriend id } where
  friendList := by
    change (a.withoutFriend id).map _ = _
    rw [friendEntries_withoutFriend, h.friendList, friendRows_dropFriend, List.filter_map]
    congr 1
    apply List.filter_congr
    intro row _
    simp [FriendRow.entry]
  ignoreList := h.ignoreList

theorem whole_dropIgnored (h : Whole db a) (id : UInt32) : Whole (db.dropIgnored a.self.avatarId.toNat id.toNat)
    { a with ignoreList := a.withoutIgnored id } where
  friendList := h.friendList
  ignoreList := by
    change (a.withoutIgnored id).map _ = _
    rw [ignoreEntries_withoutIgnored, h.ignoreList, ignoreRows_dropIgnored, List.filter_map]
    congr 1
    apply List.filter_congr
    intro row _
    simp [IgnoreRow.entry]

theorem whole_putFriend (h : Whole db a) {text : U16String} (htext : Narrowable text) :
    Whole (db.putFriend a.self.avatarId.toNat p.avatarId.toNat (fromWideString text))
      { a with friendList := a.friendList ++ [⟨some p, text⟩] } where
  friendList := by
    rw [ChatAvatar.friendEntries, friendRows_putFriend, if_pos rfl, List.map_append, List.map_append, ← h.friendList]
    congr 1
    simp only [List.map_cons, List.map_nil, FriendRow.entry, Option.map_some]
    rw [show toWideString (fromWideString text) = text from htext]
  ignoreList := h.ignoreList

theorem whole_putIgnored (h : Whole db a) : Whole (db.putIgnored a.self.avatarId.toNat p.avatarId.toNat)
    { a with ignoreList := a.ignoreList ++ [⟨some p⟩] } where
  friendList := h.friendList
  ignoreList := by
    rw [ChatAvatar.ignoreEntries, ignoreRows_putIgnored, if_pos rfl, List.map_append, List.map_append, ← h.ignoreList]
    rfl

/-- By the primary key of `friend` no avatar is listed twice. -/
theorem nodup_friendIds (h : Whole db a) (hkeys : db.ContactKeys) : (a.friendEntries.map Prod.fst).Nodup := by
  have hpairs : ((db.friendRows a.self.avatarId.toNat).map fun row => (row.avatarId, row.friendAvatarId)).Nodup :=
    (List.filter_sublist.map _).nodup hkeys.friend
  have howner : (db.friendRows a.self.avatarId.toNat).map (fun row => (row.avatarId, row.friendAvatarId)) =
      ((db.friendRows a.self.avatarId.toNat).map (FriendRow.entry · |>.1)).map
        fun id => (a.self.avatarId.toNat, id.getD 0) := by
    rw [List.map_map]
    apply List.map_congr_left
    intro row hrow
    have hid : row.avatarId = a.self.avatarId.toNat := by simpa [Database.friendRows] using (List.mem_filter.mp hrow).2
    rw [hid]
    rfl
  rw [howner] at hpairs
  rw [h.friendList, List.map_map]
  exact List.Nodup.of_map _ hpairs

theorem nodup_ignoredIds (h : Whole db a) (hkeys : db.ContactKeys) : a.ignoreEntries.Nodup := by
  rw [h.ignoreList]
  apply List.Nodup.map_on _ (hkeys.ignored.filter _)
  rintro ⟨i, j⟩ hrow ⟨i', j'⟩ hrow' heq
  obtain rfl : j = j' := Option.some.inj heq
  have hi : i = a.self.avatarId.toNat := by simpa using (List.mem_filter.mp hrow).2
  have hi' : i' = a.self.avatarId.toNat := by simpa using (List.mem_filter.mp hrow').2
  rw [hi, hi']

theorem modify_middle {α : Type} (f : α → α) (front back : List α) (x : α) :
    (front ++ x :: back).modify front.length f = front ++ f x :: back := by
  induction front with
  | nil => rfl
  | cons y front ih => rw [List.cons_append, List.length_cons, List.modify_succ_cons, ih, List.cons_append]

/-- The only contact that names the avatar gets the comment. -/
theorem whole_setComment (h : Whole db a) (hkeys : db.ContactKeys) {front : List FriendContact}
    {contact : FriendContact} (hfirst : FirstNamed FriendContact.frnd p.avatarId a.friendList front contact)
    {text : U16String} (htext : Narrowable text) :
    Whole (db.setComment a.self.avatarId.toNat p.avatarId.toNat (fromWideString text)) { a with
      friendList := a.friendList.modify front.length fun contact => { contact with comment := text } } where
  friendList := by
    let update := fun entry : Option Nat × U16String =>
      if entry.1 = some p.avatarId.toNat then (entry.1, text) else entry
    have hrows : ((db.setComment a.self.avatarId.toNat p.avatarId.toNat (fromWideString text)).friendRows
        a.self.avatarId.toNat).map FriendRow.entry = a.friendEntries.map update := by
      rw [friendRows_setComment, h.friendList, List.map_map, List.map_map]
      apply List.map_congr_left
      intro row _
      by_cases hrow : row.friendAvatarId = p.avatarId.toNat
      · simp [update, FriendRow.entry, hrow, show toWideString (fromWideString text) = text from htext]
      · simp [update, FriendRow.entry, hrow]
    obtain ⟨⟨back, hlist⟩, -, hfront, hnames⟩ := hfirst
    have hnodup := nodup_friendIds h hkeys
    have hsame : ∀ c : FriendContact, Names FriendContact.frnd p.avatarId c = true ↔
        c.frnd.map (·.avatarId.toNat) = some p.avatarId.toNat := by
      intro c
      cases hc : c.frnd <;> simp [Names, hc, UInt32.toNat_inj]
    have hkept : ∀ c ∈ front ++ back, update (c.frnd.map (·.avatarId.toNat), c.comment) =
        (c.frnd.map (·.avatarId.toNat), c.comment) := by
      intro c hc
      apply if_neg
      intro heq
      rcases List.mem_append.mp hc with hc | hc
      · exact absurd ((hsame c).mpr heq) (by simpa using List.any_eq_false.mp hfront c hc)
      · rw [ChatAvatar.friendEntries, hlist, List.map_map, List.map_append, List.map_cons,
          List.nodup_append] at hnodup
        have hhead := (List.nodup_cons.mp hnodup.2.1).1
        exact hhead (List.mem_map.mpr ⟨c, hc, heq.trans ((hsame contact).mp hnames).symm⟩)
    have hfixed : ∀ part : List FriendContact, (∀ c ∈ part, c ∈ front ++ back) →
        part.map (fun c => update (c.frnd.map (·.avatarId.toNat), c.comment)) =
          part.map fun c => (c.frnd.map (·.avatarId.toNat), c.comment) := fun part hpart =>
      List.map_congr_left fun c hc => hkept c (hpart c hc)
    have hnamed : update (contact.frnd.map (·.avatarId.toNat), contact.comment) =
        (contact.frnd.map (·.avatarId.toNat), text) := if_pos ((hsame contact).mp hnames)
    change ChatAvatar.friendEntries _ = _
    rw [hrows, ChatAvatar.friendEntries, ChatAvatar.friendEntries]
    simp only [hlist, modify_middle, List.map_append, List.map_cons, List.map_map, Function.comp_def]
    rw [hfixed front fun c hc => List.mem_append_left _ hc, hfixed back fun c hc => List.mem_append_right _ hc,
      hnamed]
  ignoreList := h.ignoreList

end Lists
end StationChat
