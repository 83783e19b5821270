import StationChat.Avatars.ContactTables

/-! A contact operation does to the tables what it means by them, and the cache follows. -/
namespace StationChat
open Lib Lib.Action Lib.Contract

variable {s t u : Server} {p q self : AvatarPtr} {a : ChatAvatar} {db db' : Database} {i j k : Nat}
  {f : ChatAvatar → ChatAvatar}

/-- The tables became `db` and the cache with them; who is cached and online did not change. -/
structure Rewritten (s : Server) (db : Database) (t : Server) : Prop where
  settled : Settled t
  db : t.db = db
  presence : t.avatarCache.map (fun a => (a.self, a.isOnline)) = s.avatarCache.map fun a => (a.self, a.isOnline)
  fails : t.fails = s.fails

namespace Rewritten

theorem refl (hs : Settled s) : Rewritten s s.db s := ⟨hs, rfl, rfl, rfl⟩

theorem trans (h : Rewritten s db t) (h' : Rewritten t db' u) : Rewritten s db' u :=
  ⟨h'.settled, h'.db, h'.presence.trans h.presence, h'.fails.trans h.fails⟩

theorem selves (h : Rewritten s db t) : t.avatarCache.map (·.self) = s.avatarCache.map (·.self) := by
  have hselves := congrArg (List.map Prod.fst) h.presence
  rwa [List.map_map, List.map_map] at hselves

theorem live (h : Rewritten s db t) (hp : Live s.avatarCache p) : Live t.avatarCache p := by
  obtain ⟨a, ha, rfl⟩ := hp
  have hmem : a.self ∈ t.avatarCache.map (·.self) := h.selves ▸ List.mem_map_of_mem ha
  exact List.mem_map.mp hmem

end Rewritten

namespace Settled

/-- The object of an avatar and its rows change alike. -/
theorem revised (hs : Settled s) (h : s.avatar? self = some a) (hself : ∀ b, (f b).self = b.self)
    (hfriends : ∀ b ∈ s.avatarCache, ∀ c ∈ (f b).friendList, c ∈ b.friendList ∨ Good s.avatarCache c.frnd)
    (hignored : ∀ b ∈ s.avatarCache, ∀ c ∈ (f b).ignoreList, c ∈ b.ignoreList ∨ Good s.avatarCache c.ignored)
    (hdb : Revises a.self.avatarId.toNat s.db db) (hwhole : Whole db (f a))
    (hcache : t.avatarCache = (s.updateAvatar self f).avatarCache) (hobjects : t.objects = s.objects)
    (htables : t.db = db) : Settled t := by
  have hjoined : Joined (s.updateAvatar self f) := hs.joined.updateAvatar hself hfriends hignored
  have hmem := List.mem_of_find?_eq_some h
  have hobj : a.self.obj = self.obj := by simpa using List.find?_some h
  refine ⟨⟨⟨?_, ?_, fun b hb => ?_⟩, ?_, ?_, ?_⟩, htables ▸ hdb.sound, fun b hb => ?_⟩
  · rw [hcache, hobjects]
    exact hjoined.ready.allocated
  · exact htables ▸ hdb.sound.referential
  · rw [htables, Database.HasAvatar, hdb.avatar]
    exact hjoined.ready.stored b (hcache ▸ hb)
  · rw [Server.Unduplicated, hcache]
    exact hjoined.unduplicated
  · rw [hcache]
    exact hjoined.friends
  · rw [hcache]
    exact hjoined.ignored
  · rw [hcache] at hb
    rw [htables]
    obtain ⟨c, hc, ⟨hsame, rfl⟩ | ⟨hother, rfl⟩⟩ := back_updateAvatar hb
    · obtain rfl := hs.joined.ready.allocated.distinct c hc a hmem (hsame.trans hobj.symm)
      exact hwhole
    · have hne : b.self.avatarId.toNat ≠ a.self.avatarId.toNat := by
        intro heq
        have heq' := eq_of_same_id hs.joined.unduplicated hc hmem (UInt32.toNat_inj.mp heq)
        exact hother (heq' ▸ hobj)
      have hkept := hs.whole b hc
      exact ⟨hkept.friendList.trans (by rw [hdb.friendRows _ hne]),
        hkept.ignoreList.trans (by rw [hdb.ignoreRows _ hne])⟩

theorem stored (hs : Settled s) (hp : Live s.avatarCache p) : s.db.HasAvatar p.avatarId.toNat := by
  obtain ⟨a, ha, rfl⟩ := hp
  exact hs.joined.ready.stored a ha

theorem noNull_friends (hs : Settled s) (ha : a ∈ s.avatarCache) : NoNull FriendContact.frnd a.friendList := by
  intro c hc
  obtain ⟨p, hp, _⟩ := hs.joined.friends a ha c hc
  simp [hp]

theorem noNull_ignored (hs : Settled s) (ha : a ∈ s.avatarCache) :
    NoNull IgnoreContact.ignored a.ignoreList := by
  intro c hc
  obtain ⟨p, hp, _⟩ := hs.joined.ignored a ha c hc
  simp [hp]

end Settled

section Phases

theorem exists_of_mem_modify {contacts : List FriendContact} {n : Nat} {comment : U16String} {c : FriendContact}
    (hc : c ∈ contacts.modify n fun contact => { contact with comment }) : ∃ d ∈ contacts, c.frnd = d.frnd := by
  induction contacts generalizing n with
  | nil => simp at hc
  | cons d contacts ih =>
    cases n with
    | zero =>
      rw [List.modify_zero_cons] at hc
      rcases List.mem_cons.mp hc with rfl | hc
      · exact ⟨d, List.mem_cons_self, rfl⟩
      · exact ⟨c, List.mem_cons_of_mem d hc, rfl⟩
    | succ n =>
      rw [List.modify_succ_cons] at hc
      rcases List.mem_cons.mp hc with rfl | hc
      · exact ⟨c, List.mem_cons_self, rfl⟩
      · obtain ⟨e, he, hsame⟩ := ih hc
        exact ⟨e, List.mem_cons_of_mem d he, hsame⟩

/-- A list changes in memory, then the statement changes its rows. -/
theorem phase_run (statement : Statement Unit) (hs : Settled s) (h : s.avatar? self = some a) (hself : ∀ b, (f b).self = b.self)
    (honline : ∀ b, (f b).isOnline = b.isOnline)
    (hfriends : ∀ b ∈ s.avatarCache, ∀ c ∈ (f b).friendList, c ∈ b.friendList ∨ Good s.avatarCache c.frnd)
    (hignored : ∀ b ∈ s.avatarCache, ∀ c ∈ (f b).ignoreList, c ∈ b.ignoreList ∨ Good s.avatarCache c.ignored)
    (hdb : Revises a.self.avatarId.toNat s.db db) (hwhole : Whole db (f a))
    (hanswers : s.fails s.executed = false) (hrun : s.db.run statement = some ((), db)) :
    ∃ t, execute statement (s.updateAvatar self f) = (.ok (), t) ∧ Rewritten s db t ∧
      t.executed = s.executed + 1 ∧ t.avatar? self = some (f a) := by
  have hexec : execute statement (s.updateAvatar self f) = _ := execute_ok hanswers hrun
  have hobject := avatar?_updateAvatar_self hself h
  refine ⟨_, hexec, ⟨?_, rfl, presence_updateAvatar hself honline, rfl⟩, rfl, hobject⟩
  exact hs.revised h hself hfriends hignored hdb hwhole rfl rfl rfl

variable {text : U16String}

theorem dropFriend_run (hs : Settled s) (h : s.avatar? self = some a) (ha : a.self = self) (p : AvatarPtr)
    (hanswers : s.fails s.executed = false) :
    ∃ t, execute (.deleteFriend self.avatarId p.avatarId) (s.setFriends self (a.withoutFriend p.avatarId)) =
        (.ok (), t) ∧ Rewritten s (s.db.dropFriend self.avatarId.toNat p.avatarId.toNat) t ∧
      t.executed = s.executed + 1 ∧ t.avatar? self = some { a with friendList := a.withoutFriend p.avatarId } := by
  subst ha
  have hmem := List.mem_of_find?_eq_some h
  apply phase_run _ hs h (f := fun b => { b with friendList := a.withoutFriend p.avatarId }) (fun _ => rfl) fun _ => rfl
  · exact fun b _ c hc => .inr (hs.joined.friends a hmem c (List.mem_filter.mp hc).1)
  · exact fun b _ c hc => .inl hc
  · exact revises_dropFriend hs.sound _ _
  · exact whole_dropFriend (hs.whole a hmem) p.avatarId
  · exact hanswers
  · rfl

theorem dropIgnored_run (hs : Settled s) (h : s.avatar? self = some a) (ha : a.self = self) (p : AvatarPtr)
    (hanswers : s.fails s.executed = false) :
    ∃ t, execute (.deleteIgnore self.avatarId p.avatarId) (s.setIgnored self (a.withoutIgnored p.avatarId)) =
        (.ok (), t) ∧ Rewritten s (s.db.dropIgnored self.avatarId.toNat p.avatarId.toNat) t ∧
      t.executed = s.executed + 1 ∧ t.avatar? self = some { a with ignoreList := a.withoutIgnored p.avatarId } := by
  subst ha
  have hmem := List.mem_of_find?_eq_some h
  apply phase_run _ hs h (f := fun b => { b with ignoreList := a.withoutIgnored p.avatarId }) (fun _ => rfl) fun _ => rfl
  · exact fun b _ c hc => .inl hc
  · exact fun b _ c hc => .inr (hs.joined.ignored a hmem c (List.mem_filter.mp hc).1)
  · exact revises_dropIgnored hs.sound _ _
  · exact whole_dropIgnored (hs.whole a hmem) p.avatarId
  · exact hanswers
  · rfl

/-- A live avatar that is no friend yet can be stored as one. -/
theorem befriend_run (hs : Settled s) (h : s.avatar? self = some a) (ha : a.self = self) (hp : Live s.avatarCache p)
    (hnew : a.hasFriend p.avatarId = false) (htext : Narrowable text) (hanswers : s.fails s.executed = false) :
    ∃ t, befriend self p text s = (.ok (), t) ∧
      Rewritten s (s.db.putFriend self.avatarId.toNat p.avatarId.toNat (fromWideString text)) t := by
  subst ha
  have hmem := List.mem_of_find?_eq_some h
  have hstranger : ¬ s.db.Befriends a.self.avatarId.toNat p.avatarId.toNat := by
    rw [← (hs.whole a hmem).synced.friends, hnew]
    exact Bool.false_ne_true
  have hself : Live s.avatarCache a.self := ⟨a, hmem, rfl⟩
  have hinsert : s.db.insertFriend a.self.avatarId.toNat p.avatarId.toNat (fromWideString text) =
      some (s.db.putFriend a.self.avatarId.toNat p.avatarId.toNat (fromWideString text)) := by
    apply if_neg
    rintro (hrow | hnot | hnot)
    · exact hstranger hrow
    · exact hnot (hs.stored hself)
    · exact hnot (hs.stored hp)
  have hphase := phase_run (.insertFriend a.self.avatarId p.avatarId (fromWideString text)) hs h
    (f := fun b => { b with friendList := b.friendList ++ [⟨some p, text⟩] }) (fun _ => rfl) (fun _ => rfl)
    (fun b _ c hc => ?_) (fun b _ c hc => .inl hc)
    (revises_putFriend hs.sound hstranger (hs.stored hself) (hs.stored hp))
    (whole_putFriend (hs.whole a hmem) htext) hanswers (by rw [Database.run, hinsert]; rfl)
  · obtain ⟨t, hrun, hrewritten, -, -⟩ := hphase
    exact ⟨t, hrun, hrewritten⟩
  · rcases List.mem_append.mp hc with hc | hc
    · exact .inl hc
    · exact .inr (List.mem_singleton.mp hc ▸ ⟨p, rfl, hp⟩)

theorem shun_run (hs : Settled s) (h : s.avatar? self = some a) (ha : a.self = self) (hp : Live s.avatarCache p)
    (hnew : a.ignores p.avatarId = false) (hanswers : s.fails s.executed = false) :
    ∃ t, shun self p s = (.ok (), t) ∧
      Rewritten s (s.db.putIgnored self.avatarId.toNat p.avatarId.toNat) t := by
  subst ha
  have hmem := List.mem_of_find?_eq_some h
  have hstranger : ¬ s.db.Ignores a.self.avatarId.toNat p.avatarId.toNat := by
    rw [← (hs.whole a hmem).synced.ignored, hnew]
    exact Bool.false_ne_true
  have hself : Live s.avatarCache a.self := ⟨a, hmem, rfl⟩
  have hinsert : s.db.insertIgnore a.self.avatarId.toNat p.avatarId.toNat =
      some (s.db.putIgnored a.self.avatarId.toNat p.avatarId.toNat) := by
    apply if_neg
    rintro (hrow | hnot | hnot)
    · exact hstranger hrow
    · exact hnot (hs.stored hself)
    · exact hnot (hs.stored hp)
  have hphase := phase_run (.insertIgnore a.self.avatarId p.avatarId) hs h
    (f := fun b => { b with ignoreList := b.ignoreList ++ [⟨some p⟩] }) (fun _ => rfl) (fun _ => rfl)
    (fun b _ c hc => .inl hc) (fun b _ c hc => ?_)
    (revises_putIgnored hs.sound hstranger (hs.stored hself) (hs.stored hp))
    (whole_putIgnored (hs.whole a hmem)) hanswers (by rw [Database.run, hinsert]; rfl)
  · obtain ⟨t, hrun, hrewritten, -, -⟩ := hphase
    exact ⟨t, hrun, hrewritten⟩
  · rcases List.mem_append.mp hc with hc | hc
    · exact .inl hc
    · exact .inr (List.mem_singleton.mp hc ▸ ⟨p, rfl, hp⟩)

theorem setComment_run (hs : Settled s) (h : s.avatar? self = some a) (ha : a.self = self)
    {front : List FriendContact} {contact : FriendContact}
    (hfirst : FirstNamed FriendContact.frnd p.avatarId a.friendList front contact) (htext : Narrowable text)
    (hanswers : s.fails s.executed = false) :
    ∃ t, execute (.updateFriend self.avatarId p.avatarId (fromWideString text))
        (s.setComment self front.length text) = (.ok (), t) ∧
      Rewritten s (s.db.setComment self.avatarId.toNat p.avatarId.toNat (fromWideString text)) t := by
  subst ha
  have hmem := List.mem_of_find?_eq_some h
  have hfriends : ∀ b ∈ s.avatarCache, ∀ c ∈ b.friendList.modify front.length fun contact =>
      { contact with comment := text }, c ∈ b.friendList ∨ Good s.avatarCache c.frnd := by
    intro b hb c hc
    obtain ⟨d, hd, hsame⟩ : ∃ d ∈ b.friendList, c.frnd = d.frnd := exists_of_mem_modify hc
    exact .inr (hsame ▸ hs.joined.friends b hb d hd)
  have hphase := phase_run (.updateFriend a.self.avatarId p.avatarId (fromWideString text)) hs h
    (f := fun b => { b with friendList := b.friendList.modify front.length fun contact =>
      { contact with comment := text } }) (fun _ => rfl) (fun _ => rfl) hfriends (fun b _ c hc => .inl hc)
    (revises_setComment hs.sound _ _ _) (whole_setComment (hs.whole a hmem) hs.sound.contactKeys hfirst htext)
    hanswers rfl
  obtain ⟨t, hrun, hrewritten, -, -⟩ := hphase
  exact ⟨t, hrun, hrewritten⟩

end Phases

section Removing

theorem dropFriend_of_not (h : ¬ db.Befriends i j) : db.dropFriend i j = db := by
  have hkept : db.friend.filter (fun row => ¬ (row.avatarId = i ∧ row.friendAvatarId = j)) = db.friend := by
    apply List.filter_eq_self.mpr
    intro row hrow
    exact decide_eq_true fun hnamed => h ⟨row, hrow, hnamed⟩
  rw [Database.dropFriend, hkept]

theorem dropIgnored_of_not (h : ¬ db.Ignores i j) : db.dropIgnored i j = db := by
  have hkept : db.ignore.filter (fun row => ¬ (row.avatarId = i ∧ row.ignoreAvatarId = j)) = db.ignore := by
    apply List.filter_eq_self.mpr
    intro row hrow
    exact decide_eq_true fun hnamed => h ⟨row, hrow, hnamed⟩
  rw [Database.dropIgnored, hkept]

theorem setComment_of_not (h : ¬ db.Befriends i j) (comment : StdString) : db.setComment i j comment = db := by
  have hkept : (db.friend.map fun row =>
      if row.avatarId = i ∧ row.friendAvatarId = j then { row with comment } else row) = db.friend := by
    refine (List.map_congr_left fun row hrow => ?_).trans (List.map_id _)
    exact if_neg fun hrow' => h ⟨row, hrow, hrow'⟩
  rw [Database.setComment, hkept]

end Removing

section Searches
variable {κ : Type} {key : κ → Option AvatarPtr} {contacts : List κ}

theorem exists_firstNamed (hnull : NoNull key contacts) (hany : contacts.any (Names key p.avatarId) = true) :
    ∃ front contact, FirstNamed key p.avatarId contacts front contact := by
  induction contacts with
  | nil => exact absurd hany (by simp)
  | cons first rest ih =>
    cases hfirst : Names key p.avatarId first with
    | true => exact ⟨[], first, ⟨rest, rfl⟩, noNull_nil, rfl, hfirst⟩
    | false =>
      rw [List.any_cons, hfirst, Bool.false_or] at hany
      obtain ⟨hsome, hnull⟩ := noNull_cons.mp hnull
      obtain ⟨front, contact, ⟨back, rfl⟩, hfront, hnone, hnames⟩ := ih hnull hany
      refine ⟨first :: front, contact, ⟨back, rfl⟩, noNull_cons.mpr ⟨hsome, hfront⟩, ?_, hnames⟩
      rw [List.any_cons, hfirst, hnone]
      rfl

theorem findIf_of_not (hnull : NoNull key contacts) (hany : contacts.any (Names key p.avatarId) = false) :
    findIf (fun contact => sameAvatar (key contact) (some p)) contacts s = (.ok none, s) := by
  induction contacts with
  | nil => rfl
  | cons first rest ih =>
    rw [List.any_cons, Bool.or_eq_false_iff] at hany
    obtain ⟨hsome, hnull⟩ := noNull_cons.mp hnull
    have hrun : sameAvatar (key first) (some p) s = (.ok false, s) := by
      rw [sameAvatar_run, if_pos hsome]
      exact congrArg (fun found => (Except.ok found, s)) hany.1
    rw [findIf, bind_ok hrun]
    exact bind_ok (ih hnull hany.2) _

end Searches

/-- The comment of the operation is stored without loss. -/
def ContactOperation.Storable : ContactOperation → Prop
  | .addFriend comment | .updateFriendComment comment => Narrowable comment
  | .removeFriend | .addIgnore | .removeIgnore => True

instance : DecidablePred ContactOperation.Storable
  | .addFriend comment | .updateFriendComment comment => inferInstanceAs (Decidable (Narrowable comment))
  | .removeFriend | .addIgnore | .removeIgnore => inferInstanceAs (Decidable True)

/-- An operation on live avatars, whose statements are answered, returns and does what it means. -/
theorem contact_run (hs : Settled s) (hself : Live s.avatarCache self) (hp : Live s.avatarCache p)
    (hanswers : ∀ k, s.executed ≤ k → k < s.executed + 2 → s.fails k = false) {operation : ContactOperation}
    (hstorable : operation.Storable) : ∃ t, operation.run self (some p) s = (.ok (), t) ∧
      Rewritten s (s.db.contact self.avatarId.toNat p.avatarId.toNat operation) t := by
  obtain ⟨a, hmem, rfl, h⟩ := avatar?_of_live hs.joined.ready.allocated hself
  have hfriends := hs.noNull_friends hmem
  have hignored := hs.noNull_ignored hmem
  have hsynced := (hs.whole a hmem).synced
  have hfirst : s.fails s.executed = false := hanswers _ (Nat.le_refl _) (by omega)
  have hidle : ∀ {x : Serve Unit}, x s = (.ok (), s) → ∃ t, x s = (.ok (), t) ∧ Rewritten s s.db t :=
    fun hx => ⟨s, hx, Rewritten.refl hs⟩
  cases operation with
  | removeFriend =>
    have hrun := removeFriend_run (p := p) h
    rw [if_pos hfriends] at hrun
    cases hfriend : a.hasFriend p.avatarId with
    | true =>
      obtain ⟨t, hexec, ht, -, -⟩ := dropFriend_run hs h rfl p hfirst
      exact ⟨t, by rw [ContactOperation.run, hrun, if_pos hfriend, hexec], ht⟩
    | false =>
      have hnot := mt (hsynced.friends p.avatarId).mpr (by simp [hfriend])
      rw [Database.contact, dropFriend_of_not hnot]
      exact hidle (by rw [ContactOperation.run, hrun, if_neg (by simp [hfriend])])
  | removeIgnore =>
    have hrun := removeIgnore_run (p := p) h
    rw [if_pos hignored] at hrun
    cases hignores : a.ignores p.avatarId with
    | true =>
      obtain ⟨t, hexec, ht, -, -⟩ := dropIgnored_run hs h rfl p hfirst
      exact ⟨t, by rw [ContactOperation.run, hrun, if_pos hignores, hexec], ht⟩
    | false =>
      have hnot := mt (hsynced.ignored p.avatarId).mpr (by simp [hignores])
      rw [Database.contact, dropIgnored_of_not hnot]
      exact hidle (by rw [ContactOperation.run, hrun, if_neg (by simp [hignores])])
  | updateFriendComment comment =>
    cases hfriend : a.hasFriend p.avatarId with
    | true =>
      obtain ⟨front, contact, hnamed⟩ := exists_firstNamed hfriends hfriend
      obtain ⟨t, hexec, ht⟩ := setComment_run hs h rfl hnamed hstorable hfirst
      exact ⟨t, (updateFriendComment_run h hnamed comment).trans hexec, ht⟩
    | false =>
      have hnot := mt (hsynced.friends p.avatarId).mpr (by simp [hfriend])
      rw [Database.contact, setComment_of_not hnot]
      apply hidle
      rw [ContactOperation.run, updateFriendComment, bind_ok (readAvatar_run h),
        bind_ok (findIf_of_not hfriends hfriend)]
      rfl
  | addFriend comment =>
    cases hfriend : a.hasFriend p.avatarId with
    | true =>
      rw [Database.contact, if_pos ((hsynced.friends _).mp hfriend)]
      apply hidle
      rw [ContactOperation.run, addFriend, bind_ok (isFriend_run h hfriends), hfriend]
      rfl
    | false =>
      have hnot := mt (hsynced.friends p.avatarId).mpr (by simp [hfriend])
      have hrun := addFriend_run h ⟨hfriends, hignored, hfriend⟩ comment
      rw [Database.contact, if_neg hnot]
      cases hignores : a.ignores p.avatarId with
      | true =>
        rw [if_pos hignores] at hrun
        obtain ⟨u, hexec, hu, hexecuted, hobject⟩ := dropIgnored_run hs h rfl p hfirst
        have hsecond : u.fails u.executed = false := by
          rw [hu.fails]
          exact hanswers _ (by omega) (by omega)
        obtain ⟨t, hbefriend, ht⟩ := befriend_run hu.settled hobject rfl (hu.live hp) hfriend hstorable hsecond
        rw [hu.db] at ht
        exact ⟨t, hrun.trans ((bind_ok hexec _).trans hbefriend), hu.trans ht⟩
      | false =>
        have hkept := mt (hsynced.ignored p.avatarId).mpr (by simp [hignores])
        rw [if_neg (by simp [hignores])] at hrun
        obtain ⟨t, hbefriend, ht⟩ := befriend_run hs h rfl hp hfriend hstorable hfirst
        rw [dropIgnored_of_not hkept]
        exact ⟨t, hrun.trans hbefriend, ht⟩
  | addIgnore =>
    cases hignores : a.ignores p.avatarId with
    | true =>
      rw [Database.contact, if_pos ((hsynced.ignored _).mp hignores)]
      apply hidle
      rw [ContactOperation.run, addIgnore, bind_ok (isIgnored_run h hignored), hignores]
      rfl
    | false =>
      have hnot := mt (hsynced.ignored p.avatarId).mpr (by simp [hignores])
      have hrun := addIgnore_run h ⟨hfriends, hignored, hignores⟩
      rw [Database.contact, if_neg hnot]
      cases hfriend : a.hasFriend p.avatarId with
      | true =>
        rw [if_pos hfriend] at hrun
        obtain ⟨u, hexec, hu, hexecuted, hobject⟩ := dropFriend_run hs h rfl p hfirst
        have hsecond : u.fails u.executed = false := by
          rw [hu.fails]
          exact hanswers _ (by omega) (by omega)
        obtain ⟨t, hshun, ht⟩ := shun_run hu.settled hobject rfl (hu.live hp) hignores hsecond
        rw [hu.db] at ht
        exact ⟨t, hrun.trans ((bind_ok hexec _).trans hshun), hu.trans ht⟩
      | false =>
        have hkept := mt (hsynced.friends p.avatarId).mpr (by simp [hfriend])
        rw [if_neg (by simp [hfriend])] at hrun
        obtain ⟨t, hshun, ht⟩ := shun_run hs h rfl hp hignores hfirst
        rw [dropFriend_of_not hkept]
        exact ⟨t, hrun.trans hshun, ht⟩

end StationChat
