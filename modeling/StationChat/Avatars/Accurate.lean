import StationChat.Avatars.Faithful
import StationChat.Avatars.Lookups
import StationChat.Gateway.Aside

/-! The contact lists in memory name whom the tables name, as long as no two cached objects have the
same avatar id. -/
namespace StationChat
open Lib Lib.Action Lib.Contract

namespace Database

/-- By the table `friend`, the avatar `i` has the friend `j`. -/
def Befriends (db : Database) (i j : Nat) : Prop := ∃ row ∈ db.friend, row.avatarId = i ∧ row.friendAvatarId = j

def Ignores (db : Database) (i j : Nat) : Prop := ∃ row ∈ db.ignore, row.avatarId = i ∧ row.ignoreAvatarId = j

instance (db : Database) (i j : Nat) : Decidable (db.Befriends i j) :=
  inferInstanceAs (Decidable (∃ row ∈ db.friend, row.avatarId = i ∧ row.friendAvatarId = j))

theorem ignores_iff {db : Database} {i j : Nat} : db.Ignores i j ↔ ⟨i, j⟩ ∈ db.ignore := by
  constructor
  · rintro ⟨row, hrow, rfl, rfl⟩
    exact hrow
  · exact fun hrow => ⟨_, hrow, rfl, rfl⟩

/-- The foreign keys from a contact row to the avatar whose contact it is. -/
structure Owned (db : Database) : Prop where
  friend : ∀ row ∈ db.friend, db.HasAvatar row.avatarId
  ignored : ∀ row ∈ db.ignore, db.HasAvatar row.avatarId

end Database

/-- The lists of an object name whom the tables name. -/
structure Synced (db : Database) (a : ChatAvatar) : Prop where
  friends : ∀ id, a.hasFriend id = true ↔ db.Befriends a.self.avatarId.toNat id.toNat
  ignored : ∀ id, a.ignores id = true ↔ db.Ignores a.self.avatarId.toNat id.toNat

section Lists
variable {κ : Type} {key : κ → Option AvatarPtr} {db : Database} {a : ChatAvatar}

theorem any_names (contacts : List κ) (id : UInt32) : contacts.any (Names key id) = true ↔
    some id.toNat ∈ contacts.map fun c => (key c).map (·.avatarId.toNat) := by
  have hnames : ∀ c, Names key id c = true ↔ (key c).map (·.avatarId.toNat) = some id.toNat := by
    intro c
    cases hkey : key c with
    | none => simp [Names, hkey]
    | some p => simp [Names, hkey, UInt32.toNat_inj]
  simp only [List.any_eq_true, List.mem_map, hnames]

theorem any_names_append (contacts : List κ) (contact : κ) (id : UInt32) :
    (contacts ++ [contact]).any (Names key id) = true ↔
      contacts.any (Names key id) = true ∨ Names key id contact = true := by
  rw [List.any_append, Bool.or_eq_true, List.any_cons, List.any_nil, Bool.or_false]

/-- Taking out whoever names one avatar changes nothing about another. -/
theorem any_names_filter (contacts : List κ) (dropped id : UInt32) :
    (contacts.filter fun c => !Names key dropped c).any (Names key id) = true ↔
      contacts.any (Names key id) = true ∧ id ≠ dropped := by
  have hboth : ∀ c, Names key id c = true → (Names key dropped c = true ↔ id = dropped) := by
    intro c hid
    cases hkey : key c with
    | none => simp [Names, hkey] at hid
    | some p =>
      have hp : p.avatarId = id := by simpa [Names, hkey] using hid
      simp [Names, hkey, hp]
  simp only [List.any_filter, List.any_eq_true, Bool.and_eq_true, Bool.not_eq_true', Bool.eq_false_iff, ne_eq]
  constructor
  · rintro ⟨c, hc, hnot, hid⟩
    exact ⟨⟨c, hc, hid⟩, fun heq => hnot ((hboth c hid).mpr heq)⟩
  · rintro ⟨⟨c, hc, hid⟩, hne⟩
    exact ⟨c, hc, fun hdropped => hne ((hboth c hid).mp hdropped), hid⟩

theorem Whole.synced (h : Whole db a) : Synced db a := by
  constructor
  · intro id
    have hids := congrArg (List.map Prod.fst) h.friendList
    rw [ChatAvatar.friendEntries, List.map_map, List.map_map] at hids
    rw [ChatAvatar.hasFriend, any_names]
    change some id.toNat ∈ a.friendList.map (Prod.fst ∘ fun c => (c.frnd.map (·.avatarId.toNat), c.comment)) ↔ _
    rw [hids]
    simp [FriendRow.entry, Database.friendRows, Database.Befriends, and_assoc]
  · intro id
    have hids := h.ignoreList
    rw [ChatAvatar.ignores, any_names]
    change some id.toNat ∈ a.ignoreEntries ↔ _
    rw [hids]
    simp [IgnoreRow.entry, Database.ignoreRows, Database.Ignores, and_assoc]

end Lists

/-- The state in which a request is expected to arrive. -/
structure Tended (s : Server) : Prop where
  works : s.Works
  ready : Ready s
  next : ∀ row ∈ s.db.avatar, row.id < s.db.nextAvatarId
  owned : s.db.Owned
  synced : ∀ a ∈ s.avatarCache, Synced s.db a

/-- No two objects have the same avatar id, and the ids of the avatars created since `s` fit
`uint32_t`. -/
structure Sound (s t : Server) : Prop where
  unduplicated : t.Unduplicated
  fits : ∀ row ∈ t.db.avatar, s.db.HasAvatar row.id ∨ row.id < 2 ^ 32

/-- `t` comes after `s`: avatars stay, only friends that `F` allows are new, and only the ignore rows in
`W` may go. -/
structure Follows (F : Nat → Nat → Prop) (W : IgnoreRow → Prop) (s t : Server) : Prop where
  selves : s.avatarCache.map (·.self) <+: t.avatarCache.map (·.self)
  ids : ∀ id, s.db.HasAvatar id → t.db.HasAvatar id
  friends : ∀ i j, t.db.Befriends i j → s.db.Befriends i j ∨ F i j
  ignored : ∀ row ∈ s.db.ignore, row ∈ t.db.ignore ∨ W row
  tended : Sound s t → Tended s → Tended t

variable {F : Nat → Nat → Prop} {W : IgnoreRow → Prop} {s t u : Server} {α β : Type}

theorem unduplicated_of_selves (h : s.avatarCache.map (·.self) <+: t.avatarCache.map (·.self))
    (ht : t.Unduplicated) : s.Unduplicated := by
  have hids := (h.map (·.avatarId)).sublist
  rw [List.map_map, List.map_map] at hids
  exact List.Nodup.sublist hids ht

namespace Follows

theorem refl (s : Server) : Follows F W s s :=
  ⟨List.prefix_rfl, fun _ h => h, fun _ _ h => .inl h, fun _ h => .inl h, fun _ h => h⟩

theorem trans (h : Follows F W s t) (h' : Follows F W t u) : Follows F W s u := by
  refine ⟨h.selves.trans h'.selves, fun id hid => h'.ids id (h.ids id hid), fun i j hij => ?_, fun row hrow => ?_, ?_⟩
  · rcases h'.friends i j hij with hij | hij
    · exact h.friends i j hij
    · exact .inr hij
  · rcases h.ignored row hrow with hrow | hrow
    · exact h'.ignored row hrow
    · exact .inr hrow
  · intro hsound hs
    have hfirst : Sound s t := by
      refine ⟨unduplicated_of_selves h'.selves hsound.unduplicated, fun row hrow => ?_⟩
      obtain ⟨row', hrow', hid⟩ := h'.ids row.id ⟨row, hrow, rfl⟩
      exact hid ▸ hsound.fits row' hrow'
    refine h'.tended ⟨hsound.unduplicated, fun row hrow => ?_⟩ (h.tended hfirst hs)
    exact (hsound.fits row hrow).imp (h.ids row.id) id

end Follows

/-- The computation returns, or throws what is caught, in a state that comes after; the process may
also end. -/
def Tends (F : Nat → Nat → Prop) (W : IgnoreRow → Prop) (x : Serve α) (s : Server) (Q : α → Server → Prop) : Prop :=
  x.Ends s (fun a t => Follows F W s t ∧ Q a t) (Recovers (Follows F W s))

section Tending

theorem Tends.bind {x : Serve α} {f : α → Serve β} {Q : α → Server → Prop} {R : β → Server → Prop}
    (hx : Tends F W x s Q) (hf : ∀ a t, Follows F W s t → Q a t → Tends F W (f a) t R) : Tends F W (x >>= f) s R := by
  rw [Tends, ends_bind]
  apply Ends.mono hx
  · rintro a t ⟨hst, hQ⟩
    apply Ends.mono (hf a t hst hQ)
    · exact fun b u hu => ⟨hst.trans hu.1, hu.2⟩
    · exact fun e u hu hcode => hst.trans (hu hcode)
  · exact fun _ _ he => he

theorem Tends.mono {x : Serve α} {Q R : α → Server → Prop} (h : Tends F W x s Q) (hQ : ∀ a t, Q a t → R a t) :
    Tends F W x s R :=
  Ends.mono h (fun a t ht => ⟨ht.1, hQ a t ht.2⟩) fun _ _ he => he

theorem Tends.of_eq {x y : Serve α} {Q : α → Server → Prop} (h : Tends F W y s Q) (heq : x s = y s) : Tends F W x s Q := by
  unfold Tends Ends
  rw [heq]
  exact h

end Tending

/-- An object without what its contacts do not depend on. -/
def ChatAvatar.contacts (a : ChatAvatar) : AvatarPtr × List FriendContact × List IgnoreContact :=
  (a.self, a.friendList, a.ignoreList)

/-- Neither the contacts in memory nor their rows changed, nor which avatars there are. -/
structure Unmoved (s t : Server) : Prop where
  contacts : t.avatarCache.map ChatAvatar.contacts = s.avatarCache.map ChatAvatar.contacts
  allocated : Allocated s.avatarCache s.objects → Allocated t.avatarCache t.objects
  fails : t.fails = s.fails
  avatar : t.db.avatar.map (·.id) = s.db.avatar.map (·.id)
  nextAvatarId : t.db.nextAvatarId = s.db.nextAvatarId
  friend : t.db.friend = s.db.friend
  ignore : t.db.ignore = s.db.ignore

namespace Unmoved

theorem refl (s : Server) : Unmoved s s := ⟨rfl, id, rfl, rfl, rfl, rfl, rfl⟩

theorem trans (h : Unmoved s t) (h' : Unmoved t u) : Unmoved s u where
  contacts := h'.contacts.trans h.contacts
  allocated hs := h'.allocated (h.allocated hs)
  fails := h'.fails.trans h.fails
  avatar := h'.avatar.trans h.avatar
  nextAvatarId := h'.nextAvatarId.trans h.nextAvatarId
  friend := h'.friend.trans h.friend
  ignore := h'.ignore.trans h.ignore

theorem of_aside (h : Aside s t) : Unmoved s t where
  contacts := by rw [h.avatarCache]
  allocated hs := by rwa [h.avatarCache, h.objects]
  fails := h.fails
  avatar := by rw [h.avatar]
  nextAvatarId := h.nextAvatarId
  friend := h.friend
  ignore := h.ignore

/-- An object changes apart from its contacts. -/
theorem updateAvatar (s : Server) (p : AvatarPtr) {f : ChatAvatar → ChatAvatar}
    (hf : ∀ a, (f a).contacts = a.contacts) : Unmoved s (s.updateAvatar p f) := by
  refine ⟨?_, fun hs => hs.updateAvatar fun a => congrArg Prod.fst (hf a), rfl, rfl, rfl, rfl, rfl⟩
  rw [Server.updateAvatar, List.map_map]
  apply List.map_congr_left
  intro a _
  rw [Function.comp_apply]
  split
  · exact hf a
  · rfl

theorem hasAvatar (h : Unmoved s t) (id : Nat) : t.db.HasAvatar id ↔ s.db.HasAvatar id := by
  have hids : ∀ db : Database, db.HasAvatar id ↔ id ∈ db.avatar.map (·.id) := by simp [Database.HasAvatar]
  rw [hids, hids, h.avatar]

/-- What an object says it says before and after. -/
theorem before (h : Unmoved s t) {b : ChatAvatar} (hb : b ∈ t.avatarCache) :
    ∃ a ∈ s.avatarCache, b.contacts = a.contacts := by
  have hmem : b.contacts ∈ s.avatarCache.map ChatAvatar.contacts := h.contacts ▸ List.mem_map_of_mem hb
  obtain ⟨a, ha, heq⟩ := List.mem_map.mp hmem
  exact ⟨a, ha, heq.symm⟩

theorem selves (h : Unmoved s t) : t.avatarCache.map (·.self) = s.avatarCache.map (·.self) := by
  have hselves := congrArg (List.map Prod.fst) h.contacts
  rwa [List.map_map, List.map_map] at hselves

theorem synced (h : Unmoved s t) (hs : ∀ a ∈ s.avatarCache, Synced s.db a) :
    ∀ b ∈ t.avatarCache, Synced t.db b := by
  intro b hb
  obtain ⟨a, ha, heq⟩ := h.before hb
  obtain ⟨hself, hfriends, hignored⟩ : b.self = a.self ∧ b.friendList = a.friendList ∧ b.ignoreList = a.ignoreList := by
    simpa [ChatAvatar.contacts] using heq
  constructor
  · intro id
    rw [ChatAvatar.hasFriend, hfriends, hself, Database.Befriends, h.friend]
    exact (hs a ha).friends id
  · intro id
    rw [ChatAvatar.ignores, hignored, hself, Database.Ignores, h.ignore]
    exact (hs a ha).ignored id

theorem next (h : Unmoved s t) (hs : ∀ row ∈ s.db.avatar, row.id < s.db.nextAvatarId) :
    ∀ row ∈ t.db.avatar, row.id < t.db.nextAvatarId := by
  intro row hrow
  obtain ⟨row', hrow', hid⟩ := (h.hasAvatar row.id).mp ⟨row, hrow, rfl⟩
  rw [h.nextAvatarId, ← hid]
  exact hs row' hrow'

theorem tended (h : Unmoved s t) (hs : Tended s) : Tended t := by
  refine ⟨fun k => h.fails ▸ hs.works k, ⟨h.allocated hs.ready.allocated, ?_, ?_⟩, h.next hs.next, ?_,
    h.synced hs.synced⟩
  · refine ⟨fun row hrow => (h.hasAvatar _).mpr ?_, fun row hrow => (h.hasAvatar _).mpr ?_⟩
    · exact hs.ready.referential.friend row (h.friend ▸ hrow)
    · exact hs.ready.referential.ignored row (h.ignore ▸ hrow)
  · intro b hb
    obtain ⟨a, ha, heq⟩ := h.before hb
    have hself : b.self = a.self := congrArg Prod.fst heq
    rw [hself]
    exact (h.hasAvatar _).mpr (hs.ready.stored a ha)
  · refine ⟨fun row hrow => (h.hasAvatar _).mpr ?_, fun row hrow => (h.hasAvatar _).mpr ?_⟩
    · exact hs.owned.friend row (h.friend ▸ hrow)
    · exact hs.owned.ignored row (h.ignore ▸ hrow)

theorem follows (h : Unmoved s t) : Follows F W s t := by
  refine ⟨by rw [h.selves], fun id hid => (h.hasAvatar id).mpr hid, fun i j hij => .inl ?_,
    fun row hrow => .inl (h.ignore ▸ hrow), fun _ => h.tended⟩
  rwa [Database.Befriends, h.friend] at hij

end Unmoved

def unmoved : Contract Server Exn where
  inv _ := True
  step := Unmoved
  allowed _ := True
  refl := Unmoved.refl
  trans := Unmoved.trans

section Steps

theorem unmoved_aside {x : Serve α} {Q : α → Server → Prop} (h : aside.Holds x s Q) : unmoved.Holds x s Q :=
  h.weaken (fun _ _ _ => trivial) (fun _ _ hst => Unmoved.of_aside hst) fun _ _ => trivial

theorem unmoved_still {x : Serve α} (h : Still x) : unmoved.Holds x s fun a t => t = s ∧ x s = (.ok a, s) :=
  holds_still h trivial fun _ _ _ => trivial

theorem unmoved_setResponse (f : Response → Response) :
    unmoved.Holds (setResponse f) s fun _ _ => True :=
  holds_modify trivial ⟨rfl, id, rfl, rfl, rfl, rfl, rfl⟩ trivial

theorem unmoved_writeAvatar (p : AvatarPtr) {f : ChatAvatar → ChatAvatar}
    (hf : ∀ a, (f a).contacts = a.contacts) : unmoved.Holds (writeAvatar p f) s fun _ _ => True :=
  (unmoved_still (still_readAvatar p)).bind fun _ _ _ _ _ =>
    holds_modify trivial (Unmoved.updateAvatar _ p hf) trivial

theorem unmoved_loginAvatar (avatar : AvatarPtr) : unmoved.Holds (loginAvatar avatar) s fun _ _ => True := by
  refine Holds.bind (unmoved_writeAvatar avatar fun _ => rfl) fun _ t _ _ _ => ?_
  refine holds_get_bind (holds_ite (fun _ => holds_pure trivial trivial) fun _ => ?_)
  exact holds_modify trivial ⟨rfl, id, rfl, rfl, rfl, rfl, rfl⟩ trivial

theorem unmoved_logoutAvatar (avatar : Option AvatarPtr) :
    unmoved.Holds (logoutAvatar avatar) s fun _ _ => True := by
  refine (unmoved_still (still_deref avatar)).bind fun p _ _ _ _ => ?_
  refine (unmoved_still (still_readAvatar p)).bind fun a _ _ _ _ => ?_
  refine holds_ite (fun _ => ?_) fun _ => holds_pure trivial trivial
  refine Holds.bind (unmoved_writeAvatar p fun _ => rfl) fun _ t _ _ _ => ?_
  exact holds_modify trivial ⟨rfl, id, rfl, rfl, rfl, rfl, rfl⟩ trivial

/-- `UPDATE avatar` keeps the ids. -/
theorem updateAvatar_eq_some {db db' : Database} {userId attributes avatarId : Nat} {name address : StdString}
    (h : db.updateAvatar userId name address attributes avatarId = some db') :
    ∃ f : AvatarRow → AvatarRow, (∀ row, (f row).id = row.id) ∧ db' = { db with avatar := db.avatar.map f } := by
  unfold Database.updateAvatar at h
  split at h
  · exact absurd h (by simp)
  · refine ⟨_, fun row => ?_, (Option.some.inj h).symm⟩
    split <;> rfl

theorem unmoved_persistAvatar (avatar : AvatarPtr) : unmoved.Holds (persistAvatar avatar) s fun _ _ => True := by
  refine (unmoved_still (still_readAvatar avatar)).bind fun a t _ _ _ => ?_
  unfold Holds Ends
  rcases execute_cases (.updateAvatar a.userId (fromWideString avatar.name) (fromWideString avatar.address)
    a.attributes avatar.avatarId) t with ⟨_, hrun⟩ | ⟨_, db, ⟨_, hstatement⟩, hrun⟩ <;> rw [hrun]
  · exact ⟨trivial, ⟨rfl, id, rfl, rfl, rfl, rfl, rfl⟩, trivial⟩
  · obtain ⟨db', hupdate, heq⟩ := Option.map_eq_some_iff.mp hstatement
    obtain rfl : db' = db := congrArg Prod.snd heq
    obtain ⟨f, hf, rfl⟩ := updateAvatar_eq_some hupdate
    refine ⟨trivial, ⟨rfl, id, rfl, ?_, rfl, rfl, rfl⟩, trivial⟩
    rw [List.map_map]
    exact List.map_congr_left fun row _ => hf row

end Steps

section Lookups

theorem LookedUp.tended (h : LookedUp s t) (hs : Tended s) : Tended t := by
  obtain ⟨more, hcache, hmore⟩ := h.cache
  refine ⟨h.works hs.works, h.ready, h.grown.db ▸ hs.next, h.grown.db ▸ hs.owned, fun a ha => ?_⟩
  rw [h.grown.db]
  rcases List.mem_append.mp (hcache ▸ ha) with ha | ha
  · exact hs.synced a ha
  · exact (hmore a ha).1.synced

theorem LookedUp.follows (h : LookedUp s t) : Follows F W s t := by
  obtain ⟨more, hcache, _⟩ := h.cache
  refine ⟨?_, fun id hid => h.grown.db ▸ hid, fun i j hij => .inl (h.grown.db ▸ hij),
    fun row hrow => .inl (h.grown.db ▸ hrow), fun _ => h.tended⟩
  rw [hcache, List.map_append]
  exact List.prefix_append _ _

theorem tends_unmoved {x : Serve α} {Q : α → Server → Prop} (h : unmoved.Holds x s Q) : Tends F W x s Q :=
  Ends.mono h (fun _ _ ht => ⟨ht.2.1.follows, ht.2.2⟩) fun _ _ ht _ => ht.2.1.follows

theorem tends_run (request : AvatarRequest) (hs : Tended s) : Tends F W request.run s fun found t =>
    LookedUp s t ∧ ∀ p, found = some p → Live t.avatarCache p ∧ request.Yields p := by
  apply Ends.mono (run_ends request hs.ready hs.works)
  · exact fun _ t ht => ⟨ht.1.follows, ht⟩
  · intro e t he hsome
    rw [he] at hsome
    exact absurd hsome (by simp)

theorem tends_required (request : AvatarRequest) (hs : Tended s) : Tends F W request.required s fun p t =>
    LookedUp s t ∧ Live t.avatarCache p ∧ request.Yields p := by
  refine (tends_run request hs).bind fun found t _ ht => ?_
  cases found with
  | some p => exact ⟨Follows.refl t, ht.1, ht.2 p rfl⟩
  | none => exact fun _ => Follows.refl t

/-- Nobody has a contact before having an id. -/
theorem Tended.not_contact (hs : Tended s) {i : Nat} (hi : s.db.nextAvatarId ≤ i) (j : Nat) :
    ¬ s.db.Befriends i j ∧ ¬ s.db.Ignores i j := by
  have hbelow : ¬ s.db.HasAvatar i := by
    rintro ⟨row, hrow, rfl⟩
    exact absurd (hs.next row hrow) (by omega)
  constructor
  · rintro ⟨row, hrow, rfl, _⟩
    exact hbelow (hs.owned.friend row hrow)
  · rintro ⟨row, hrow, rfl, _⟩
    exact hbelow (hs.owned.ignored row hrow)

theorem tends_createAvatar (name address : U16String) (userId loginAttributes : UInt32)
    (loginLocation : U16String) :
    Tends F W (createAvatar name address userId loginAttributes loginLocation) s fun _ _ => True := by
  unfold Tends Ends
  rcases createAvatar_cases name address userId loginAttributes loginLocation s with
    hrun | ⟨id, db', hworks, hinsert, hrun⟩ <;> rw [hrun]
  · exact fun _ => Unmoved.follows ⟨rfl, fun hs => ⟨fun a ha => Nat.lt_succ_of_lt (hs.below a ha), hs.distinct⟩,
      rfl, rfl, rfl, rfl, rfl⟩
  · obtain ⟨_, rfl, rfl⟩ := insertAvatar_eq_some hinsert
    have hids : ∀ id, s.db.HasAvatar id → Database.HasAvatar { s.db with
        avatar := s.db.avatar ++ [⟨s.db.nextAvatarId, userId.toNat, fromWideString name, fromWideString address,
          loginAttributes.toNat⟩]
        nextAvatarId := s.db.nextAvatarId + 1 } id :=
      fun id ⟨row, hrow, hid⟩ => ⟨row, List.mem_append_left _ hrow, hid⟩
    refine ⟨⟨?_, hids, fun i j hij => .inl hij, fun row hrow => .inl hrow, fun hsound hs => ?_⟩, trivial⟩
    · exact List.map_append ▸ List.prefix_append _ _
    · have hfits : s.db.nextAvatarId < 2 ^ 32 := by
        rcases hsound.fits _ (List.mem_append_right _ (List.mem_singleton.mpr rfl)) with ⟨row, hrow, hid⟩ | hlt
        · exact absurd (hs.next row hrow) (by simp [hid])
        · exact hlt
      have hid : (UInt32.ofNat s.db.nextAvatarId).toNat = s.db.nextAvatarId := by
        rw [UInt32.toNat_ofNat']
        omega
      have hold : Allocated s.avatarCache (s.objects + 1) :=
        ⟨fun a ha => Nat.lt_succ_of_lt (hs.ready.allocated.below a ha), hs.ready.allocated.distinct⟩
      refine ⟨hs.works, ⟨?_, hs.ready.referential.insertAvatar hinsert, ?_⟩, ?_, ?_, ?_⟩
      · exact hold.cached hs.ready.allocated.below (Nat.lt_succ_self _)
      · intro a ha
        rcases List.mem_append.mp ha with ha | ha
        · exact hids _ (hs.ready.stored a ha)
        · rw [List.mem_singleton.mp ha]
          exact ⟨_, List.mem_append_right _ (List.mem_singleton.mpr rfl), hid.symm⟩
      · intro row hrow
        rcases List.mem_append.mp hrow with hrow | hrow
        · exact Nat.lt_succ_of_lt (hs.next row hrow)
        · rw [List.mem_singleton.mp hrow]
          exact Nat.lt_succ_self _
      · exact ⟨fun row hrow => hids _ (hs.owned.friend row hrow), fun row hrow => hids _ (hs.owned.ignored row hrow)⟩
      · intro a ha
        rcases List.mem_append.mp ha with ha | ha
        · exact ⟨(hs.synced a ha).friends, (hs.synced a ha).ignored⟩
        · obtain rfl := List.mem_singleton.mp ha
          have hnone := hs.not_contact (i := (UInt32.ofNat s.db.nextAvatarId).toNat) (by omega)
          exact ⟨fun id => iff_of_false (by simp [ChatAvatar.hasFriend]) (hnone id.toNat).1,
            fun id => iff_of_false (by simp [ChatAvatar.ignores]) (hnone id.toNat).2⟩

end Lookups

/-- Contact rows of the avatar `i` were changed, and no others. -/
structure Rewrites (F : Nat → Nat → Prop) (W : IgnoreRow → Prop) (i : Nat) (db db' : Database) : Prop where
  avatar : db'.avatar = db.avatar
  nextAvatarId : db'.nextAvatarId = db.nextAvatarId
  referential : db.Referential → db'.Referential
  owned : db.Owned → db'.Owned
  befriended : ∀ k j, db'.Befriends k j → db.Befriends k j ∨ F k j
  ignored : ∀ row ∈ db.ignore, row ∈ db'.ignore ∨ W row
  friends : ∀ k j, k ≠ i → (db'.Befriends k j ↔ db.Befriends k j)
  ignores : ∀ k j, k ≠ i → (db'.Ignores k j ↔ db.Ignores k j)

section Contacts
variable {self p : AvatarPtr} {a : ChatAvatar} {f : ChatAvatar → ChatAvatar} {statement : Statement Unit}

theorem Tended.rewritten (hs : Tended s) (hunduplicated : s.Unduplicated) (h : s.avatar? self = some a)
    (ha : a.self = self) (hf : ∀ a, (f a).self = a.self) {db : Database}
    (hrewrites : Rewrites F W self.avatarId.toNat s.db db) (hsynced : Synced s.db a → Synced db (f a))
    (hcache : t.avatarCache = (s.updateAvatar self f).avatarCache) (hobjects : t.objects = s.objects)
    (hfails : t.fails = s.fails) (hdb : t.db = db) : Tended t := by
  have hids : ∀ id, s.db.HasAvatar id → t.db.HasAvatar id := by
    intro id hid
    rw [hdb, Database.HasAvatar, hrewrites.avatar]
    exact hid
  have hready := hs.ready.updateAvatar (p := self) hf
  refine ⟨fun k => hfails ▸ hs.works k, ⟨?_, ?_, ?_⟩, ?_, ?_, ?_⟩
  · rw [hcache, hobjects]
    exact hready.allocated
  · exact hdb ▸ hrewrites.referential hs.ready.referential
  · exact fun b hb => hids _ (hready.stored b (hcache ▸ hb))
  · rw [hdb, hrewrites.avatar, hrewrites.nextAvatarId]
    exact hs.next
  · exact hdb ▸ hrewrites.owned hs.owned
  · intro b hb
    rw [hcache] at hb
    obtain ⟨c, hc, rfl⟩ := List.mem_map.mp hb
    have hmem := List.mem_of_find?_eq_some h
    rw [hdb]
    by_cases hobj : c.self.obj = self.obj
    · obtain rfl := hs.ready.allocated.distinct c hc a hmem (by rw [hobj, ha])
      rw [if_pos (by simpa using hobj)]
      exact hsynced (hs.synced c hc)
    · have hne : c.self.avatarId.toNat ≠ self.avatarId.toNat := by
        intro heq
        have hsame : c.self.avatarId = a.self.avatarId := by rw [ha, UInt32.toNat_inj.mp heq]
        obtain rfl := eq_of_same_id hunduplicated hc hmem hsame
        exact hobj (by rw [ha])
      rw [if_neg (by simpa using hobj)]
      exact ⟨fun id => ((hs.synced c hc).friends id).trans (hrewrites.friends _ _ hne).symm,
        fun id => ((hs.synced c hc).ignored id).trans (hrewrites.ignores _ _ hne).symm⟩

/-- A list changes in memory, then its row changes. -/
theorem tends_rewrite (h : s.avatar? self = some a) (ha : a.self = self) (hf : ∀ a, (f a).self = a.self)
    (hruns : Tended s → (s.db.run statement).isSome)
    (hrewrites : ∀ db, s.db.run statement = some ((), db) → Rewrites F W self.avatarId.toNat s.db db ∧
      (Synced s.db a → Synced db (f a))) :
    Tends F W (fun u => execute statement (u.updateAvatar self f)) s fun _ t =>
      t.avatarCache = (s.updateAvatar self f).avatarCache ∧ s.db.run statement = some ((), t.db) := by
  have hselves : (s.updateAvatar self f).avatarCache.map (·.self) = s.avatarCache.map (·.self) := by
    rw [Server.updateAvatar, List.map_map]
    apply List.map_congr_left
    intro b _
    rw [Function.comp_apply]
    split
    · exact hf b
    · rfl
  change Ends (execute statement) (s.updateAvatar self f) _ _
  unfold Ends
  rcases execute_cases statement (s.updateAvatar self f) with ⟨hnot, hrun⟩ | ⟨_, db, ⟨_, hstatement⟩, hrun⟩ <;>
    rw [hrun]
  · refine fun _ => ⟨hselves ▸ List.prefix_rfl, fun _ hid => hid, fun _ _ hij => .inl hij,
      fun _ hrow => .inl hrow, fun _ hs => ?_⟩
    have hworks : s.fails s.executed = false := hs.works _
    have hfails : s.fails s.executed = true ∨ s.db.run statement = none := hnot
    rcases hfails with hfails | hfails
    · exact absurd hworks (by simp [hfails])
    · exact absurd (hruns hs) (by simp [hfails])
  · obtain ⟨hdb, hsynced⟩ := hrewrites db hstatement
    refine ⟨⟨hselves ▸ List.prefix_rfl, fun id hid => ?_, hdb.befriended, hdb.ignored, fun hsound hs => ?_⟩, rfl,
      hstatement⟩
    · rw [Database.HasAvatar, hdb.avatar]
      exact hid
    · exact hs.rewritten (unduplicated_of_selves (hselves ▸ List.prefix_rfl) hsound.unduplicated) h ha hf hdb
        hsynced rfl rfl rfl rfl

section Statements
variable {db db' : Database} {i j : Nat} {comment : StdString}

theorem insertFriend_eq_some (h : db.insertFriend i j comment = some db') :
    db.HasAvatar i ∧ db.HasAvatar j ∧ db' = { db with friend := db.friend ++ [⟨i, j, comment⟩] } := by
  unfold Database.insertFriend at h
  split at h
  · exact absurd h (by simp)
  · rename_i hnot
    simp only [not_or, not_not] at hnot
    exact ⟨hnot.2.1, hnot.2.2, (Option.some.inj h).symm⟩

theorem insertIgnore_eq_some (h : db.insertIgnore i j = some db') :
    db.HasAvatar i ∧ db.HasAvatar j ∧ db' = { db with ignore := db.ignore ++ [⟨i, j⟩] } := by
  unfold Database.insertIgnore at h
  split at h
  · exact absurd h (by simp)
  · rename_i hnot
    simp only [not_or, not_not] at hnot
    exact ⟨hnot.2.1, hnot.2.2, (Option.some.inj h).symm⟩

theorem isSome_insertFriend (hnew : ¬ db.Befriends i j) (hi : db.HasAvatar i) (hj : db.HasAvatar j) :
    (db.insertFriend i j comment).isSome := by
  rw [Database.insertFriend, if_neg]
  · rfl
  · rintro (hrow | hnot | hnot)
    · exact hnew hrow
    · exact hnot hi
    · exact hnot hj

theorem isSome_insertIgnore (hnew : ¬ db.Ignores i j) (hi : db.HasAvatar i) (hj : db.HasAvatar j) :
    (db.insertIgnore i j).isSome := by
  rw [Database.insertIgnore, if_neg]
  · rfl
  · rintro (hrow | hnot | hnot)
    · exact hnew hrow
    · exact hnot hi
    · exact hnot hj

theorem befriends_append (row : FriendRow) : Database.Befriends { db with friend := db.friend ++ [row] } i j ↔
    db.Befriends i j ∨ row.avatarId = i ∧ row.friendAvatarId = j := by
  simp [Database.Befriends, or_and_right, exists_or]

theorem ignores_append (row : IgnoreRow) : Database.Ignores { db with ignore := db.ignore ++ [row] } i j ↔
    db.Ignores i j ∨ row.avatarId = i ∧ row.ignoreAvatarId = j := by
  simp [Database.Ignores, or_and_right, exists_or]

theorem befriends_filter (k l : Nat) : Database.Befriends { db with friend := db.friend.filter fun row =>
    ¬ (row.avatarId = k ∧ row.friendAvatarId = l) } i j ↔ db.Befriends i j ∧ ¬ (i = k ∧ j = l) := by
  simp only [Database.Befriends, List.mem_filter, decide_eq_true_eq]
  constructor
  · rintro ⟨row, ⟨hrow, hnot⟩, rfl, rfl⟩
    exact ⟨⟨row, hrow, rfl, rfl⟩, hnot⟩
  · rintro ⟨⟨row, hrow, rfl, rfl⟩, hnot⟩
    exact ⟨row, ⟨hrow, hnot⟩, rfl, rfl⟩

theorem ignores_filter (k l : Nat) : Database.Ignores { db with ignore := db.ignore.filter fun row =>
    ¬ (row.avatarId = k ∧ row.ignoreAvatarId = l) } i j ↔ db.Ignores i j ∧ ¬ (i = k ∧ j = l) := by
  simp only [Database.Ignores, List.mem_filter, decide_eq_true_eq]
  constructor
  · rintro ⟨row, ⟨hrow, hnot⟩, rfl, rfl⟩
    exact ⟨⟨row, hrow, rfl, rfl⟩, hnot⟩
  · rintro ⟨⟨row, hrow, rfl, rfl⟩, hnot⟩
    exact ⟨row, ⟨hrow, hnot⟩, rfl, rfl⟩

end Statements

/-- The rows of the other tables are kept, and rows only go. -/
private theorem rewrites_filter {db : Database} {i : Nat} (friend : List FriendRow) (ignore : List IgnoreRow)
    (hfriend : ∀ row ∈ friend, row ∈ db.friend) (hignore : ∀ row ∈ ignore, row ∈ db.ignore)
    (hgone : ∀ row ∈ db.ignore, row ∈ ignore ∨ W row)
    (hfriends : ∀ k j, k ≠ i → (Database.Befriends { db with friend, ignore } k j ↔ db.Befriends k j))
    (hignores : ∀ k j, k ≠ i → (Database.Ignores { db with friend, ignore } k j ↔ db.Ignores k j)) :
    Rewrites F W i db { db with friend, ignore } where
  avatar := rfl
  nextAvatarId := rfl
  referential h := ⟨fun row hrow => h.friend row (hfriend row hrow), fun row hrow => h.ignored row (hignore row hrow)⟩
  owned h := ⟨fun row hrow => h.friend row (hfriend row hrow), fun row hrow => h.ignored row (hignore row hrow)⟩
  befriended := fun _ _ ⟨row, hrow, hij⟩ => .inl ⟨row, hfriend row hrow, hij⟩
  ignored := hgone
  friends := hfriends
  ignores := hignores

theorem tends_dropIgnored (p : AvatarPtr) (h : s.avatar? self = some a) (ha : a.self = self)
    (hW : W ⟨self.avatarId.toNat, p.avatarId.toNat⟩) :
    Tends F W (fun u => execute (.deleteIgnore self.avatarId p.avatarId)
      (u.setIgnored self (a.withoutIgnored p.avatarId))) s fun _ t =>
        t.avatarCache = (s.setIgnored self (a.withoutIgnored p.avatarId)).avatarCache := by
  refine (tends_rewrite h ha ?_ ?_ ?_).mono fun _ _ ht => ht.1
  · exact fun _ => rfl
  · exact fun _ => rfl
  · intro db hrun
    obtain rfl := congrArg Prod.snd (Option.some.inj hrun)
    refine ⟨?_, fun hsynced => ⟨hsynced.friends, fun id => ?_⟩⟩
    · apply rewrites_filter s.db.friend
      · exact fun _ hrow => hrow
      · exact fun _ hrow => (List.mem_filter.mp hrow).1
      · intro row hrow
        by_cases hsame : row.avatarId = self.avatarId.toNat ∧ row.ignoreAvatarId = p.avatarId.toNat
        · obtain ⟨i, j⟩ := row
          obtain ⟨rfl, rfl⟩ := hsame
          exact .inr hW
        · exact .inl (List.mem_filter.mpr ⟨hrow, decide_eq_true hsame⟩)
      · exact fun _ _ _ => Iff.rfl
      · exact fun k j hk => (ignores_filter _ _).trans (and_iff_left fun hsame => hk hsame.1)
    · rw [ignores_filter, ← hsynced.ignored id, ha]
      refine (any_names_filter a.ignoreList p.avatarId id).trans (and_congr Iff.rfl (not_congr ?_))
      exact ⟨fun heq => ⟨rfl, congrArg _ heq⟩, fun heq => UInt32.toNat_inj.mp heq.2⟩

theorem tends_dropFriend (p : AvatarPtr) (h : s.avatar? self = some a) (ha : a.self = self) :
    Tends F W (fun u => execute (.deleteFriend self.avatarId p.avatarId)
      (u.setFriends self (a.withoutFriend p.avatarId))) s fun _ t =>
        t.avatarCache = (s.setFriends self (a.withoutFriend p.avatarId)).avatarCache := by
  refine (tends_rewrite h ha ?_ ?_ ?_).mono fun _ _ ht => ht.1
  · exact fun _ => rfl
  · exact fun _ => rfl
  · intro db hrun
    obtain rfl := congrArg Prod.snd (Option.some.inj hrun)
    refine ⟨?_, fun hsynced => ⟨fun id => ?_, hsynced.ignored⟩⟩
    · apply rewrites_filter _ s.db.ignore
      · exact fun _ hrow => (List.mem_filter.mp hrow).1
      · exact fun _ hrow => hrow
      · exact fun _ hrow => .inl hrow
      · exact fun k j hk => (befriends_filter _ _).trans (and_iff_left fun hsame => hk hsame.1)
      · exact fun _ _ _ => Iff.rfl
    · rw [befriends_filter, ← hsynced.friends id, ha]
      refine (any_names_filter a.friendList p.avatarId id).trans (and_congr Iff.rfl (not_congr ?_))
      exact ⟨fun heq => ⟨rfl, congrArg _ heq⟩, fun heq => UInt32.toNat_inj.mp heq.2⟩

private theorem names_self {κ : Type} {key : κ → Option AvatarPtr} {contact : κ} (hkey : key contact = some p)
    (id : UInt32) : Names key id contact = true ↔ p.avatarId.toNat = id.toNat := by
  simp [Names, hkey, UInt32.toNat_inj]

theorem tends_befriend (h : s.avatar? self = some a) (ha : a.self = self) (hp : Live s.avatarCache p)
    (hnew : a.hasFriend p.avatarId = false) (hF : F self.avatarId.toNat p.avatarId.toNat) (comment : U16String) :
    Tends F W (befriend self p comment) s fun _ _ => True := by
  have hmem := List.mem_of_find?_eq_some h
  refine (tends_rewrite h ha ?_ ?_ ?_).mono fun _ _ _ => trivial
  · exact fun _ => rfl
  · intro hs
    obtain ⟨b, hb, rfl⟩ := hp
    have hfresh : ¬ s.db.Befriends self.avatarId.toNat b.self.avatarId.toNat := by
      rw [← ha, ← (hs.synced a hmem).friends, hnew]
      simp
    have hself := ha ▸ hs.ready.stored a hmem
    have hsome : (s.db.insertFriend _ _ (fromWideString comment)).isSome :=
      isSome_insertFriend hfresh hself (hs.ready.stored b hb)
    simpa [Database.run] using hsome
  · intro db hrun
    obtain ⟨db', hinsert, heq⟩ := Option.map_eq_some_iff.mp hrun
    obtain rfl : db' = db := congrArg Prod.snd heq
    obtain ⟨hi, hj, rfl⟩ := insertFriend_eq_some hinsert
    refine ⟨⟨rfl, rfl, fun hr => ⟨?_, hr.ignored⟩, fun ho => ⟨?_, ho.ignored⟩, fun k j hkj => ?_,
      fun _ hrow => .inl hrow, fun k j hk => ?_, fun _ _ _ => Iff.rfl⟩, fun hsynced => ⟨fun id => ?_, hsynced.ignored⟩⟩
    · intro row hrow
      rcases List.mem_append.mp hrow with hrow | hrow
      · exact hr.friend row hrow
      · obtain rfl := List.mem_singleton.mp hrow
        exact hj
    · intro row hrow
      rcases List.mem_append.mp hrow with hrow | hrow
      · exact ho.friend row hrow
      · obtain rfl := List.mem_singleton.mp hrow
        exact hi
    · refine ((befriends_append _).mp hkj).imp_right ?_
      rintro ⟨rfl, rfl⟩
      exact hF
    · exact (befriends_append _).trans (or_iff_left fun hsame => hk hsame.1.symm)
    · rw [befriends_append, ← hsynced.friends id]
      refine (any_names_append a.friendList _ id).trans (or_congr Iff.rfl ((names_self rfl id).trans ?_))
      exact (and_iff_right (congrArg (·.avatarId.toNat) ha.symm)).symm

theorem tends_shun (h : s.avatar? self = some a) (ha : a.self = self) (hp : Live s.avatarCache p)
    (hnew : a.ignores p.avatarId = false) : Tends F W (shun self p) s fun _ t =>
      t.db.Ignores self.avatarId.toNat p.avatarId.toNat := by
  have hmem := List.mem_of_find?_eq_some h
  refine (tends_rewrite h ha ?_ ?_ ?_).mono fun _ t ht => ?_
  case refine_4 =>
    obtain ⟨db, hinsert, heq⟩ := Option.map_eq_some_iff.mp ht.2
    obtain rfl : db = t.db := congrArg Prod.snd heq
    rw [(insertIgnore_eq_some hinsert).2.2]
    exact (ignores_append _).mpr (.inr ⟨rfl, rfl⟩)
  · exact fun _ => rfl
  · intro hs
    obtain ⟨b, hb, rfl⟩ := hp
    have hfresh : ¬ s.db.Ignores self.avatarId.toNat b.self.avatarId.toNat := by
      rw [← ha, ← (hs.synced a hmem).ignored, hnew]
      simp
    have hself := ha ▸ hs.ready.stored a hmem
    have hsome := isSome_insertIgnore hfresh hself (hs.ready.stored b hb)
    simpa [Database.run] using hsome
  · intro db hrun
    obtain ⟨db', hinsert, heq⟩ := Option.map_eq_some_iff.mp hrun
    obtain rfl : db' = db := congrArg Prod.snd heq
    obtain ⟨hi, hj, rfl⟩ := insertIgnore_eq_some hinsert
    refine ⟨⟨rfl, rfl, fun hr => ⟨hr.friend, ?_⟩, fun ho => ⟨ho.friend, ?_⟩,
      fun _ _ hkj => .inl hkj, fun _ hrow => .inl (List.mem_append_left _ hrow), fun _ _ _ => Iff.rfl, fun k j hk => ?_⟩,
      fun hsynced => ⟨hsynced.friends, fun id => ?_⟩⟩
    · intro row hrow
      rcases List.mem_append.mp hrow with hrow | hrow
      · exact hr.ignored row hrow
      · obtain rfl := List.mem_singleton.mp hrow
        exact hj
    · intro row hrow
      rcases List.mem_append.mp hrow with hrow | hrow
      · exact ho.ignored row hrow
      · obtain rfl := List.mem_singleton.mp hrow
        exact hi
    · exact (ignores_append _).trans (or_iff_left fun hsame => hk hsame.1.symm)
    · rw [ignores_append, ← hsynced.ignored id]
      refine (any_names_append a.ignoreList _ id).trans (or_congr Iff.rfl ((names_self rfl id).trans ?_))
      exact (and_iff_right (congrArg (·.avatarId.toNat) ha.symm)).symm

/-- The state between the two parts of an operation. -/
private theorem avatar?_of_cache (hcache : t.avatarCache = u.avatarCache) (p : AvatarPtr) :
    t.avatar? p = u.avatar? p := by
  rw [Server.avatar?, Server.avatar?, hcache]

theorem tends_removeIgnore (h : s.avatar? self = some a) (ha : a.self = self)
    (hW : W ⟨self.avatarId.toNat, p.avatarId.toNat⟩) :
    Tends F W (removeIgnore self (some p)) s fun _ _ => True := by
  by_cases hnull : NoNull IgnoreContact.ignored a.ignoreList
  · by_cases hignores : a.ignores p.avatarId = true
    · refine (tends_dropIgnored p h ha hW).of_eq ?_ |>.mono fun _ _ _ => trivial
      rw [removeIgnore_run h, if_pos hnull, if_pos hignores]
    · apply Tends.of_eq (y := pure ())
      · exact ⟨Follows.refl s, trivial⟩
      · rw [removeIgnore_run h, if_pos hnull, if_neg hignores]
        rfl
  · apply Tends.of_eq (y := throw .nullPointer)
    · exact fun _ => Follows.refl s
    · rw [removeIgnore_run h, if_neg hnull]
      rfl

theorem tends_removeFriend (h : s.avatar? self = some a) (ha : a.self = self) :
    Tends F W (removeFriend self (some p)) s fun _ _ => True := by
  by_cases hnull : NoNull FriendContact.frnd a.friendList
  · by_cases hfriend : a.hasFriend p.avatarId = true
    · refine (tends_dropFriend p h ha).of_eq ?_ |>.mono fun _ _ _ => trivial
      rw [removeFriend_run h, if_pos hnull, if_pos hfriend]
    · apply Tends.of_eq (y := pure ())
      · exact ⟨Follows.refl s, trivial⟩
      · rw [removeFriend_run h, if_pos hnull, if_neg hfriend]
        rfl
  · apply Tends.of_eq (y := throw .nullPointer)
    · exact fun _ => Follows.refl s
    · rw [removeFriend_run h, if_neg hnull]
      rfl

private theorem live_setIgnored (self : AvatarPtr) (hp : Live s.avatarCache p) (ignoreList : List IgnoreContact) :
    Live (s.setIgnored self ignoreList).avatarCache p :=
  live_updateAvatar (f := fun a => { a with ignoreList }) (fun _ => rfl) p hp

private theorem live_setFriends (self : AvatarPtr) (hp : Live s.avatarCache p) (friendList : List FriendContact) :
    Live (s.setFriends self friendList).avatarCache p :=
  live_updateAvatar (f := fun a => { a with friendList }) (fun _ => rfl) p hp

theorem tends_addFriend (h : s.avatar? self = some a) (ha : a.self = self) (hp : Live s.avatarCache p)
    (hallowed : a.hasFriend p.avatarId = false →
      F self.avatarId.toNat p.avatarId.toNat ∧ W ⟨self.avatarId.toNat, p.avatarId.toNat⟩) (comment : U16String) :
    Tends F W (addFriend self (some p) comment) s fun _ _ => True := by
  by_cases hnew : NewFriend a p.avatarId
  · obtain ⟨hF, hW⟩ := hallowed hnew.fresh
    by_cases hignores : a.ignores p.avatarId = true
    · have hdropped := avatar?_setIgnored h (a.withoutIgnored p.avatarId)
      have hrest : ∀ t : Server, t.avatarCache = (s.setIgnored self (a.withoutIgnored p.avatarId)).avatarCache →
          Tends F W (befriend self p comment) t fun _ _ => True := by
        intro t ht
        have hlive := live_setIgnored self hp (a.withoutIgnored p.avatarId)
        have hobject := (avatar?_of_cache ht self).trans hdropped
        exact tends_befriend hobject ha (ht ▸ hlive) hnew.fresh hF comment
      refine ((tends_dropIgnored p h ha hW).bind fun _ t _ ht => hrest t ht).of_eq ?_
      rw [addFriend_run h hnew, if_pos hignores]
      rfl
    · refine (tends_befriend h ha hp hnew.fresh hF comment).of_eq ?_
      rw [addFriend_run h hnew, if_neg hignores]
  · rcases addFriend_idle h hnew comment with ⟨hrun, _⟩ | hrun
    · exact Tends.of_eq (y := pure ()) ⟨Follows.refl s, trivial⟩ hrun
    · exact Tends.of_eq (y := throw .nullPointer) (fun _ => Follows.refl s) hrun

theorem tends_addIgnore (h : s.avatar? self = some a) (ha : a.self = self) (hp : Live s.avatarCache p)
    (hsynced : Synced s.db a) : Tends F W (addIgnore self (some p)) s fun _ t =>
      t.db.Ignores self.avatarId.toNat p.avatarId.toNat := by
  by_cases hnew : NewIgnored a p.avatarId
  · by_cases hfriend : a.hasFriend p.avatarId = true
    · have hdropped := avatar?_setFriends h (a.withoutFriend p.avatarId)
      have hrest : ∀ t : Server, t.avatarCache = (s.setFriends self (a.withoutFriend p.avatarId)).avatarCache →
          Tends F W (shun self p) t fun _ u => u.db.Ignores self.avatarId.toNat p.avatarId.toNat := by
        intro t ht
        have hlive := live_setFriends self hp (a.withoutFriend p.avatarId)
        exact tends_shun ((avatar?_of_cache ht self).trans hdropped) ha (ht ▸ hlive) hnew.fresh
      refine ((tends_dropFriend p h ha).bind fun _ t _ ht => hrest t ht).of_eq ?_
      rw [addIgnore_run h hnew, if_pos hfriend]
      rfl
    · refine (tends_shun h ha hp hnew.fresh).of_eq ?_
      rw [addIgnore_run h hnew, if_neg hfriend]
  · rcases addIgnore_idle h hnew with ⟨hrun, hignores⟩ | hrun
    · have hrow := (hsynced.ignored _).mp hignores
      exact Tends.of_eq (y := pure ()) ⟨Follows.refl s, ha ▸ hrow⟩ hrun
    · exact Tends.of_eq (y := throw .nullPointer) (fun _ => Follows.refl s) hrun

end Contacts

end StationChat
