import StationChat.Lib.Search
import StationChat.Gateway.Contract

/-! Loading an avatar loads every avatar its contact rows lead to, with three statements for each. -/
namespace StationChat
open Lib Lib.Action Lib.Contract

section Named
variable {ρ : Type} {key : ρ → Nat}

/-- The avatars the rows name. -/
def named (key : ρ → Nat) (rows : List ρ) : Set Nat := {id | ∃ row ∈ rows, key row = id}

theorem finite_named (rows : List ρ) : (named key rows).Finite := by
  refine ((rows.map key).finite_toSet).subset ?_
  rintro _ ⟨row, hrow, rfl⟩
  exact List.mem_map.mpr ⟨row, hrow, rfl⟩

theorem named_nil : named key [] = ∅ := by
  ext id
  simp [named]

theorem named_cons (row : ρ) (rows : List ρ) : named key (row :: rows) = {key row} ∪ named key rows := by
  ext id
  simp [named, eq_comm]

end Named

namespace Database

def friendRows (db : Database) (avatarId : Nat) : List FriendRow := db.friend.filter (·.avatarId = avatarId)

def ignoreRows (db : Database) (avatarId : Nat) : List IgnoreRow := db.ignore.filter (·.avatarId = avatarId)

def friendIds (db : Database) (avatarId : Nat) : Set Nat :=
  named FriendRow.friendAvatarId (db.friendRows avatarId)

def ignoredIds (db : Database) (avatarId : Nat) : Set Nat :=
  named IgnoreRow.ignoreAvatarId (db.ignoreRows avatarId)

theorem finite_friendIds (db : Database) (avatarId : Nat) : (db.friendIds avatarId).Finite :=
  finite_named _

theorem finite_ignoredIds (db : Database) (avatarId : Nat) : (db.ignoredIds avatarId).Finite :=
  finite_named _

/-- The contact graph: some row of the first avatar names the second. -/
def Contact (db : Database) (i j : Nat) : Prop := j ∈ db.friendIds i ∪ db.ignoredIds i

/-- `ColumnInt` can read every integer that loading the avatar reads. -/
def Readable (db : Database) (id : Nat) : Prop :=
  (∀ row ∈ db.avatar.find? (·.id = id), row.Small) ∧ ∀ j, db.Contact id j → j < 2 ^ 31

end Database

def Server.cachedIds (s : Server) : Set Nat := {id | ∃ a ∈ s.avatarCache, a.self.avatarId.toNat = id}

/-- The avatars that are loaded when `starts` are looked up. -/
def Server.toLoad (s : Server) (starts : Set Nat) : Set Nat := reached s.db.Contact s.cachedIds starts

/-- The avatars that are loaded besides when an avatar is. -/
def Server.toLoadFrom (s : Server) (avatarId : Nat) : Set Nat :=
  reached s.db.Contact (insert avatarId s.cachedIds) {id | s.db.Contact avatarId id}

/-- The avatars that `starts` lead to besides, when `first` were looked up before. -/
def Server.toLoadAfter (s : Server) (first starts : Set Nat) : Set Nat :=
  reached s.db.Contact (s.cachedIds ∪ s.toLoad first) starts

/-- What a friend list says: whom it names, and with which comments. -/
def ChatAvatar.friendEntries (a : ChatAvatar) : List (Option Nat × U16String) :=
  a.friendList.map fun c => (c.frnd.map (·.avatarId.toNat), c.comment)

def ChatAvatar.ignoreEntries (a : ChatAvatar) : List (Option Nat) :=
  a.ignoreList.map fun c => c.ignored.map (·.avatarId.toNat)

def FriendRow.entry (row : FriendRow) : Option Nat × U16String :=
  (some row.friendAvatarId, toWideString row.comment)

def IgnoreRow.entry (row : IgnoreRow) : Option Nat := some row.ignoreAvatarId

/-- The lists of an avatar are its rows in the two tables. -/
structure Whole (db : Database) (a : ChatAvatar) : Prop where
  friendList : a.friendEntries = (db.friendRows a.self.avatarId.toNat).map FriendRow.entry
  ignoreList : a.ignoreEntries = (db.ignoreRows a.self.avatarId.toNat).map IgnoreRow.entry

instance (db : Database) (a : ChatAvatar) : Decidable (Whole db a) :=
  decidable_of_iff (a.friendEntries = (db.friendRows a.self.avatarId.toNat).map FriendRow.entry ∧
      a.ignoreEntries = (db.ignoreRows a.self.avatarId.toNat).map IgnoreRow.entry)
    ⟨fun h => ⟨h.1, h.2⟩, fun h => ⟨h.1, h.2⟩⟩

/-- Contact rows can be followed. -/
structure Loadable (s : Server) : Prop where
  allocated : Allocated s.avatarCache s.objects
  referential : s.db.Referential

section Costs

/-- The next `n` statements are answered, and the integers they yield are in range. -/
structure Clean (s : Server) (n : Nat) (inRange : Prop) : Prop where
  answered : ∀ k, s.executed ≤ k → k < s.executed + n → s.fails k = false
  inRange : inRange

variable {s t : Server} {n m : Nat} {P P' : Prop} {α β : Type}

theorem clean_append (hexecuted : t.executed = s.executed + n) (hfails : t.fails = s.fails) :
    Clean s (n + m) (P ∧ P') ↔ Clean s n P ∧ Clean t m P' := by
  constructor
  · intro h
    refine ⟨⟨fun k hk hlt => h.answered k hk (by omega), h.inRange.1⟩, fun k hk hlt => ?_, h.inRange.2⟩
    rw [hfails]
    exact h.answered k (by omega) (by omega)
  · rintro ⟨h, h'⟩
    refine ⟨fun k hk hlt => ?_, h.inRange, h'.inRange⟩
    by_cases hin : k < s.executed + n
    · exact h.answered k hk hin
    · rw [← hfails]
      exact h'.answered k (by omega) (by omega)

/-- The computation sends `n` statements and returns, unless one of them fails or an integer is out
of range. -/
def Costs (x : Serve α) (s : Server) (n : Nat) (inRange : Prop) (Q : α → Server → Prop)
    (E : Server → Prop) : Prop :=
  x.Ends s (fun a t => (Clean s n inRange ∧ t.executed = s.executed + n ∧ t.fails = s.fails) ∧ Q a t)
    fun _ t => ¬ Clean s n inRange ∧ E t

theorem Costs.mono {x : Serve α} {Q R : α → Server → Prop} {E F : Server → Prop}
    (h : Costs x s n P Q E) (hn : n = m) (hP : P ↔ P') (hQ : ∀ a t, Q a t → R a t)
    (hE : ∀ t, E t → F t) : Costs x s m P' R F := by
  subst hn
  rw [propext hP] at h
  exact Ends.mono h (fun a t ht => ⟨ht.1, hQ a t ht.2⟩) fun _ t ht => ⟨ht.1, hE t ht.2⟩

theorem Costs.inRange {x : Serve α} {Q : α → Server → Prop} {E : Server → Prop} (h : Costs x s n P Q E) :
    Costs x s n P (fun a t => P ∧ Q a t) E :=
  Ends.mono h (fun _ _ ht => ⟨ht.1, ht.1.1.inRange, ht.2⟩) fun _ _ ht => ht

theorem Costs.either {x : Serve α} {E : Server → Prop} (h : Costs x s n P (fun _ t => E t) E)
    {result : Except Exn α} (hrun : x s = (result, t)) : E t := by
  unfold Costs at h
  cases result with
  | ok a => exact (h.ok_of_run hrun).2
  | error e => exact (h.err_of_run hrun).2

/-- The sequence ends early where its first or its second part does. -/
theorem Costs.seq {x : Serve α} {f : α → Serve β} {Q : α → Server → Prop} {R : β → Server → Prop}
    {E F : Server → Prop} (hx : Costs x s n P Q E)
    (hf : ∀ a t, t.executed = s.executed + n → t.fails = s.fails → Q a t → Costs (f a) t m P' R F) :
    Costs (x >>= f) s (n + m) (P ∧ P') R fun t => (¬ Clean s n P ∧ E t) ∨ Clean s n P ∧ F t := by
  refine (ends_bind x f _).mpr (Ends.mono hx ?_ ?_)
  · rintro a t ⟨⟨hclean, hexecuted, hfails⟩, hQ⟩
    have happend : Clean s (n + m) (P ∧ P') ↔ Clean s n P ∧ Clean t m P' :=
      clean_append hexecuted hfails
    refine Ends.mono (hf a t hexecuted hfails hQ) ?_ ?_
    · rintro b u ⟨⟨hclean', hexecuted', hfails'⟩, hR⟩
      exact ⟨⟨happend.mpr ⟨hclean, hclean'⟩, by omega, hfails'.trans hfails⟩, hR⟩
    · rintro _ u ⟨hclean', hF⟩
      exact ⟨fun h => hclean' (happend.mp h).2, .inr ⟨hclean, hF⟩⟩
  · rintro _ t ⟨hclean, hE⟩
    exact ⟨fun h => hclean ⟨fun k hk hlt => h.answered k hk (by omega), h.inRange.1⟩, .inl ⟨hclean, hE⟩⟩

theorem Costs.bind {x : Serve α} {f : α → Serve β} {Q : α → Server → Prop} {R : β → Server → Prop}
    {E : Server → Prop} (hx : Costs x s n P Q E)
    (hf : ∀ a t, t.executed = s.executed + n → t.fails = s.fails → Q a t → Costs (f a) t m P' R E) :
    Costs (x >>= f) s (n + m) (P ∧ P') R E :=
  (hx.seq hf).mono rfl Iff.rfl (fun _ _ h => h) fun _ h => h.elim And.right And.right

theorem costs_pure {a : α} {Q : α → Server → Prop} {E : Server → Prop} (h : Q a s) :
    Costs (pure a) s 0 True Q E :=
  ⟨⟨⟨fun k hk hlt => by omega, trivial⟩, rfl, rfl⟩, h⟩

theorem Costs.of_eq {x y : Serve α} {Q : α → Server → Prop} {E : Server → Prop} (h : Costs y t n P Q E)
    (hrun : x s = y t) (hexecuted : s.executed = t.executed) (hfails : s.fails = t.fails) :
    Costs x s n P Q E := by
  have hclean : Clean s n P ↔ Clean t n P := by
    constructor
    · exact fun h => ⟨fun k hk hlt => hfails ▸ h.answered k (hexecuted ▸ hk) (hexecuted ▸ hlt), h.inRange⟩
    · exact fun h => ⟨fun k hk hlt => hfails ▸ h.answered k (hexecuted ▸ hk) (hexecuted ▸ hlt), h.inRange⟩
  unfold Costs Ends at h ⊢
  rwa [hrun, propext hclean, hexecuted, hfails]

/-- A statement that only reads. -/
theorem costs_execute {statement : Statement α} {a : α} {E : Server → Prop}
    (hrun : s.db.run statement = some (a, s.db)) (hkey : statement.roleKey = none)
    (hE : ∀ failures, E { s with executed := s.executed + 1, failures }) :
    Costs (execute statement) s 1 True
      (fun b t => b = a ∧ t = { s with executed := s.executed + 1 }) E := by
  have hattempt := attempt_of_roleKey_none (s := s) hkey
  by_cases hf : s.fails s.executed = true
  · have hexec : execute statement s = _ := execute_failed (.inl hf)
    unfold Costs Ends
    rw [hexec, hattempt]
    refine ⟨fun hclean => ?_, hE _⟩
    exact absurd (hf.symm.trans (hclean.answered s.executed (Nat.le_refl _) (by omega))) (by simp)
  · have hanswers : s.fails s.executed = false := by simpa using hf
    refine Ends.of_run (execute_ok hanswers hrun) ?_
    rw [hattempt]
    refine ⟨⟨⟨fun k hk hlt => ?_, trivial⟩, rfl, rfl⟩, rfl, rfl⟩
    obtain rfl : k = s.executed := by omega
    exact hanswers

theorem costs_columnInt {k : Nat} {E : Server → Prop} (hE : E s) :
    Costs (columnInt k) s 0 (k < 2 ^ 31) (fun a t => a.toNat = k ∧ t = s) E := by
  by_cases hk : k < 2 ^ 31
  · refine Ends.of_run (columnInt_of_lt hk) ?_
    refine ⟨⟨⟨fun k hk hlt => by omega, hk⟩, rfl, rfl⟩, ?_, rfl⟩
    rw [UInt32.toNat_ofNat']
    omega
  · unfold Costs Ends
    rw [columnInt_of_not_lt hk]
    exact ⟨fun h => hk h.inRange, hE⟩

end Costs

theorem loadable_loads : Loads True Loadable where
  allocated h := h.allocated
  referential h := h.referential
  small _ h := absurd trivial h
  bookkeeping _ _ _ h hle :=
    ⟨⟨fun a ha => Nat.lt_of_lt_of_le (h.allocated.below a ha) hle, h.allocated.distinct⟩, h.referential⟩
  cache h _ _ _ hobj hlt := ⟨h.allocated.cached hobj hlt, h.referential⟩
  friend _ h _ _ := ⟨h.allocated.updateAvatar fun _ => rfl, h.referential⟩
  ignored _ h _ _ := ⟨h.allocated.updateAvatar fun _ => rfl, h.referential⟩

theorem Database.finite_reached (db : Database) (seen : Set Nat) {starts : Set Nat}
    (h : starts.Finite) : (reached db.Contact seen starts).Finite := by
  have hfriends := (db.friend.map (·.friendAvatarId)).finite_toSet
  have hignored := (db.ignore.map (·.ignoreAvatarId)).finite_toSet
  refine (h.union (hfriends.union hignored)).subset (reached_subset.trans (Set.union_subset_union_right _ ?_))
  rintro j ⟨i, ⟨row, hrow, rfl⟩ | ⟨row, hrow, rfl⟩⟩
  · exact .inl (List.mem_map.mpr ⟨row, (List.mem_filter.mp hrow).1, rfl⟩)
  · exact .inr (List.mem_map.mpr ⟨row, (List.mem_filter.mp hrow).1, rfl⟩)

section ToLoad
variable {s t : Server} {first starts : Set Nat}

theorem toLoad_union (s : Server) (first starts : Set Nat) :
    s.toLoad (first ∪ starts) = s.toLoad first ∪ s.toLoadAfter first starts := reached_union first starts

theorem ncard_toLoad_union (s : Server) (hfirst : first.Finite) (hstarts : starts.Finite) :
    (s.toLoad (first ∪ starts)).ncard = (s.toLoad first).ncard + (s.toLoadAfter first starts).ncard :=
  ncard_reached_union (s.db.finite_reached _ (hfirst.union hstarts))

theorem toLoad_vertex {avatarId : Nat} (h : avatarId ∉ s.cachedIds) :
    s.toLoad {avatarId} = insert avatarId (s.toLoadFrom avatarId) := reached_vertex h

theorem ncard_toLoad_vertex {avatarId : Nat} (h : avatarId ∉ s.cachedIds) :
    (s.toLoad {avatarId}).ncard = (s.toLoadFrom avatarId).ncard + 1 := by
  refine ncard_reached_vertex h (s.db.finite_reached _ ?_)
  exact (s.db.finite_friendIds avatarId).union (s.db.finite_ignoredIds avatarId)

theorem cachedIds_cached (s : Server) (avatar : ChatAvatar) :
    (s.cached avatar).cachedIds = insert avatar.self.avatarId.toNat s.cachedIds := by
  ext id
  simp [Server.cachedIds, Server.cached, or_and_right, exists_or, eq_comm, or_comm]

theorem toLoad_cached (s : Server) (avatar : ChatAvatar) :
    (s.cached avatar).toLoad {id | s.db.Contact avatar.self.avatarId.toNat id} =
      s.toLoadFrom avatar.self.avatarId.toNat := by
  rw [Server.toLoad, cachedIds_cached]
  rfl

theorem toLoad_of_cachedIds (hdb : t.db = s.db) (hcached : t.cachedIds = s.cachedIds ∪ s.toLoad first) :
    t.toLoad starts = s.toLoadAfter first starts := by
  rw [Server.toLoad, hdb, hcached]
  rfl

end ToLoad

/-- `t` is `s` with the avatars `ids` loaded, each with all its contacts. -/
structure Extended (s : Server) (ids : Set Nat) (t : Server) : Prop where
  db : t.db = s.db
  cachedIds : t.cachedIds = s.cachedIds ∪ ids
  cache : ∃ more, t.avatarCache = s.avatarCache ++ more ∧
    ∀ a ∈ more, Whole s.db a ∧ s.objects ≤ a.self.obj

/-- `t` is `s` with one more avatar, whose lists are being filled in, and with `ids` loaded since. -/
structure Underway (s : Server) (ptr : AvatarPtr) (K : ChatAvatar → Prop) (ids : Set Nat) (t : Server) :
    Prop where
  loadable : Loadable t
  db : t.db = s.db
  cachedIds : t.cachedIds = insert ptr.avatarId.toNat s.cachedIds ∪ ids
  cache : ∃ a more, t.avatarCache = s.avatarCache ++ a :: more ∧ a.self = ptr ∧ K a ∧
    ∀ b ∈ more, Whole s.db b ∧ ptr.obj < b.self.obj

namespace Underway
variable {s t u : Server} {ptr : AvatarPtr} {K : ChatAvatar → Prop} {ids ids' : Set Nat}

theorem live (h : Underway s ptr K ids t) : Live t.avatarCache ptr := by
  obtain ⟨a, more, hcache, hself, _⟩ := h.cache
  exact ⟨a, by simp [hcache], hself⟩

theorem extend (h : Underway s ptr K ids t) (hu : Loadable u) (h' : Extended t ids' u) :
    Underway s ptr K (ids ∪ ids') u := by
  obtain ⟨a, more, hcache, hself, hK, hmore⟩ := h.cache
  obtain ⟨more', hcache', hmore'⟩ := h'.cache
  refine ⟨hu, h'.db.trans h.db, ?_, a, more ++ more', ?_, hself, hK, fun b hb => ?_⟩
  · rw [h'.cachedIds, h.cachedIds, Set.union_assoc]
  · rw [hcache', hcache, List.append_assoc, List.cons_append]
  · rcases List.mem_append.mp hb with hb | hb
    · exact hmore b hb
    · obtain ⟨hwhole, hobj⟩ := hmore' b hb
      have hptr : ptr.obj < t.objects := by
        rw [← hself]
        exact h.loadable.allocated.below a (by simp [hcache])
      exact ⟨h.db ▸ hwhole, Nat.lt_of_lt_of_le hptr hobj⟩

theorem mono {K' : ChatAvatar → Prop} (h : Underway s ptr K ids t)
    (hK : ∀ a, a.self = ptr → K a → K' a) : Underway s ptr K' ids t := by
  obtain ⟨a, more, hcache, hself, ha, hmore⟩ := h.cache
  exact ⟨h.loadable, h.db, h.cachedIds, a, more, hcache, hself, hK a hself ha, hmore⟩

/-- Writing the new avatar changes no other. -/
theorem write (h : Underway s ptr K ids t) (hfresh : ∀ a ∈ s.avatarCache, a.self.obj ≠ ptr.obj)
    {f : ChatAvatar → ChatAvatar} {K' : ChatAvatar → Prop} (hself : ∀ a, (f a).self = a.self)
    (hK : ∀ a, K a → K' (f a)) : Underway s ptr K' ids (t.updateAvatar ptr f) := by
  obtain ⟨a, more, hcache, hp, ha, hmore⟩ := h.cache
  have hrest : ∀ l : List ChatAvatar, (∀ b ∈ l, b.self.obj ≠ ptr.obj) →
      l.map (fun b => if b.self.obj == ptr.obj then f b else b) = l := by
    intro l hl
    refine (List.map_congr_left fun b hb => ?_).trans (List.map_id _)
    rw [if_neg (by simpa using hl b hb)]
    rfl
  have hold := hrest s.avatarCache hfresh
  have hnew := hrest more fun b hb => Nat.ne_of_gt (hmore b hb).2
  have hselves : (t.updateAvatar ptr f).cachedIds = t.cachedIds := by
    ext id
    simp only [Server.cachedIds, Server.updateAvatar, List.mem_map, Set.mem_ofPred_eq]
    constructor
    · rintro ⟨_, ⟨b, hb, rfl⟩, hid⟩
      refine ⟨b, hb, ?_⟩
      split at hid
      · rwa [hself] at hid
      · exact hid
    · rintro ⟨b, hb, hid⟩
      refine ⟨_, ⟨b, hb, rfl⟩, ?_⟩
      split
      · rwa [hself]
      · exact hid
  refine ⟨⟨h.loadable.allocated.updateAvatar hself, h.loadable.referential⟩, h.db,
    hselves.trans h.cachedIds, f a, more, ?_, (hself a).trans hp, hK a ha, hmore⟩
  simp only [Server.updateAvatar, hcache, List.map_append, List.map_cons, hold, hnew, hp,
    beq_self_eq_true, if_true]

/-- The avatar is loaded when its lists are. -/
theorem extended (h : Underway s ptr (Whole s.db) ids t) (hptr : s.objects ≤ ptr.obj) :
    Extended s (insert ptr.avatarId.toNat ids) t := by
  obtain ⟨a, more, hcache, hself, hwhole, hmore⟩ := h.cache
  refine ⟨h.db, ?_, a :: more, hcache, fun b hb => ?_⟩
  · rw [h.cachedIds, Set.insert_union, Set.union_insert]
  · rcases List.mem_cons.mp hb with rfl | hb
    · exact ⟨hwhole, hself ▸ hptr⟩
    · exact ⟨(hmore b hb).1, Nat.le_trans hptr (Nat.le_of_lt (hmore b hb).2)⟩

end Underway

/-- The lookup loads everything the contact rows lead to from the avatar. -/
def Fetches (getAvatar : UInt32 → Serve (Option AvatarPtr)) (avatarId : UInt32) (s : Server) : Prop :=
  Costs (getAvatar avatarId) s (3 * (s.toLoad {avatarId.toNat}).ncard)
    (∀ id ∈ s.toLoad {avatarId.toNat}, s.db.Readable id)
    (fun contact t => Loadable t ∧ Grown s t ∧ Extended s (s.toLoad {avatarId.toNat}) t ∧
      ∃ q, contact = some q ∧ q.avatarId = avatarId)
    (Grown s)

section Loops
variable {s t : Server} {ptr : AvatarPtr} {getAvatar : UInt32 → Serve (Option AvatarPtr)} {bound : Nat}
variable {ρ : Type} {key : ρ → Nat} {push : ρ → Option AvatarPtr → ChatAvatar → ChatAvatar}
variable {K : List ρ → ChatAvatar → Prop} {front rows : List ρ} {row : ρ} {ids : Set Nat}

/-- `K front` says what the avatar looks like when the contacts of the rows `front` were appended. -/
structure Pushes (key : ρ → Nat) (push : ρ → Option AvatarPtr → ChatAvatar → ChatAvatar)
    (K : List ρ → ChatAvatar → Prop) : Prop where
  self : ∀ row contact a, (push row contact a).self = a.self
  next : ∀ front row q a, K front a → q.avatarId.toNat = key row →
    K (front ++ [row]) (push row (some q) a)

/-- The lookups stopped when the contacts of some rows were missing, or before the rows were read. -/
def Halted (s : Server) (ptr : AvatarPtr) (K : List ρ → ChatAvatar → Prop) (rows : List ρ) (t : Server) :
    Prop :=
  (∃ ids, Underway s ptr (K []) ids t) ∨ ∃ front row rest, rows = front ++ row :: rest ∧
    ∃ a ∈ t.avatarCache, a.self = ptr ∧ K front a

theorem Underway.exists (h : Underway s ptr (K front) ids t) :
    ∃ a ∈ t.avatarCache, a.self = ptr ∧ K front a := by
  obtain ⟨a, more, hcache, hp, ha, _⟩ := h.cache
  exact ⟨a, by simp [hcache], hp, ha⟩

/-- The avatar looks up the contact of one row and appends it. -/
theorem costs_contact (hpush : Pushes key push K) (hfresh : ∀ a ∈ s.avatarCache, a.self.obj ≠ ptr.obj)
    (hget : ∀ id u, Loadable u → u.unloaded ≤ bound → u.db.HasAvatar id.toNat → Fetches getAvatar id u)
    (hrow : s.db.HasAvatar (key row)) (ht : Underway s ptr (K front) ids t) (hbound : t.unloaded ≤ bound) :
    Costs (columnInt (key row) >>= fun tmpId => getAvatar tmpId >>= fun contact =>
        writeAvatar ptr (push row contact)) t
      (3 * (t.toLoad {key row}).ncard)
      (key row < 2 ^ 31 ∧ ∀ id ∈ t.toLoad {key row}, t.db.Readable id)
      (fun _ u => Underway s ptr (K (front ++ [row])) (ids ∪ t.toLoad {key row}) u ∧
        u.cachedIds = t.cachedIds ∪ t.toLoad {key row} ∧ u.unloaded ≤ bound)
      (fun u => ∃ a ∈ u.avatarCache, a.self = ptr ∧ K front a) := by
  have hstart := ht.exists
  refine ((costs_columnInt hstart).bind fun id u _ _ hu => ?_).mono (Nat.zero_add _) Iff.rfl
    (fun _ _ h => h) fun _ h => h
  obtain ⟨hid, rfl⟩ := hu
  have hfetch := hget id u ht.loadable hbound (by rw [ht.db, hid]; exact hrow)
  rw [Fetches, hid] at hfetch
  have hkept : ∀ v, Grown u v → ∃ a ∈ v.avatarCache, a.self = ptr ∧ K front a := by
    intro v hgrown
    obtain ⟨a, ha, hp⟩ := hstart
    exact ⟨a, hgrown.cache.subset ha, hp⟩
  refine ((hfetch.mono rfl Iff.rfl (fun _ _ h => h) hkept).bind fun contact v _ _ hv => ?_).mono
    (Nat.add_zero _) (and_iff_left trivial) (fun _ _ h => h) fun _ h => h
  obtain ⟨hv, hgrown, hext, q, rfl, hq⟩ := hv
  have hunder := ht.extend hv hext
  have hwritten := hunder.write hfresh (hpush.self row (some q)) fun a ha =>
    hpush.next front row q a ha (hq ▸ hid)
  refine Ends.of_run (writeAvatar_of_live hv.allocated hunder.live _)
    ⟨⟨⟨fun k hk hlt => by omega, trivial⟩, rfl, rfl⟩, hwritten, ?_, ?_⟩
  · rw [hwritten.cachedIds, ht.cachedIds, Set.union_assoc]
  · refine Nat.le_trans (unloaded_le (hwritten.db.trans ht.db.symm) fun a ha => ?_) hbound
    exact live_updateAvatar (hpush.self row (some q)) a.self ⟨a, hgrown.cache.subset ha, rfl⟩

/-- The loop over contact rows ends behind the last, unless it stops at one of them. -/
theorem costs_loadContacts (hpush : Pushes key push K)
    (hfresh : ∀ a ∈ s.avatarCache, a.self.obj ≠ ptr.obj)
    (hget : ∀ id u, Loadable u → u.unloaded ≤ bound → u.db.HasAvatar id.toNat → Fetches getAvatar id u)
    (hrows : ∀ row ∈ rows, s.db.HasAvatar (key row)) (ht : Underway s ptr (K front) ids t)
    (hbound : t.unloaded ≤ bound) :
    Costs (loadContacts getAvatar key push ptr rows) t (3 * (t.toLoad (named key rows)).ncard)
      ((∀ row ∈ rows, key row < 2 ^ 31) ∧ ∀ id ∈ t.toLoad (named key rows), t.db.Readable id)
      (fun _ u => Underway s ptr (K (front ++ rows)) (ids ∪ t.toLoad (named key rows)) u ∧
        u.unloaded ≤ bound)
      (fun u => ∃ done row rest, rows = done ++ row :: rest ∧
        ∃ a ∈ u.avatarCache, a.self = ptr ∧ K (front ++ done) a) := by
  induction rows generalizing t front ids with
  | nil =>
    have hnone : t.toLoad (named key []) = ∅ := by rw [Server.toLoad, named_nil, reached_empty]
    rw [hnone, Set.ncard_empty, Set.union_empty, List.append_nil]
    exact (costs_pure (E := fun _ => False) ⟨ht, hbound⟩).mono rfl (by simp) (fun _ _ h => h) fun _ h => h.elim
  | cons row rest ih =>
    have hround := costs_contact hpush hfresh hget (hrows row List.mem_cons_self) ht hbound
    have hkept : ∀ u : Server, (∃ a ∈ u.avatarCache, a.self = ptr ∧ K front a) →
        ∃ done row' rest', row :: rest = done ++ row' :: rest' ∧
          ∃ a ∈ u.avatarCache, a.self = ptr ∧ K (front ++ done) a := by
      intro u hu
      rw [← List.append_nil front] at hu
      exact ⟨[], row, rest, rfl, hu⟩
    have hloop : ∀ u : Server, Underway s ptr (K (front ++ [row])) (ids ∪ t.toLoad {key row}) u →
        u.cachedIds = t.cachedIds ∪ t.toLoad {key row} → u.unloaded ≤ bound →
        Costs (loadContacts getAvatar key push ptr rest) u
          (3 * (t.toLoadAfter {key row} (named key rest)).ncard)
          ((∀ row ∈ rest, key row < 2 ^ 31) ∧
            ∀ id ∈ t.toLoadAfter {key row} (named key rest), t.db.Readable id)
          (fun _ v => Underway s ptr (K (front ++ row :: rest)) (ids ∪ t.toLoad (named key (row :: rest))) v ∧
            v.unloaded ≤ bound)
          (fun v => ∃ done row' rest', row :: rest = done ++ row' :: rest' ∧
            ∃ a ∈ v.avatarCache, a.self = ptr ∧ K (front ++ done) a) := by
      intro u hu hcached hbound'
      have htail := ih (fun row hrow => hrows row (List.mem_cons_of_mem _ hrow)) hu hbound'
      have hdb : u.db = t.db := hu.db.trans ht.db.symm
      rw [toLoad_of_cachedIds hdb hcached, hdb, List.append_assoc, Set.union_assoc] at htail
      refine htail.mono rfl Iff.rfl ?_ ?_
      · rw [named_cons, toLoad_union]
        exact fun _ _ h => h
      · rintro v ⟨done, row', rest', hsplit, a, ha, hp, hKa⟩
        exact ⟨row :: done, row', rest', by rw [hsplit]; rfl, a, ha, hp, by simpa using hKa⟩
    refine ((hround.mono rfl Iff.rfl (fun _ _ h => h) hkept).bind fun _ u _ _ hu =>
      hloop u hu.1 hu.2.1 hu.2.2).mono ?_ ?_ (fun _ _ h => h) fun _ h => h
    · rw [named_cons, ncard_toLoad_union t (Set.finite_singleton _) (finite_named rest), Nat.mul_add]
    · rw [named_cons, toLoad_union, List.forall_mem_cons]
      constructor
      · rintro ⟨⟨hkey, hfirst⟩, hkeys, hrest⟩
        exact ⟨⟨hkey, hkeys⟩, fun id hid => hid.elim (hfirst id) (hrest id)⟩
      · rintro ⟨⟨hkey, hkeys⟩, hall⟩
        exact ⟨⟨hkey, fun id hid => hall id (.inl hid)⟩, hkeys, fun id hid => hall id (.inr hid)⟩

/-- Reading the rows of one contact list and following them. -/
theorem costs_contactList {statement : Statement (List ρ)} (hpush : Pushes key push K)
    (hfresh : ∀ a ∈ s.avatarCache, a.self.obj ≠ ptr.obj)
    (hget : ∀ id u, Loadable u → u.unloaded ≤ bound → u.db.HasAvatar id.toNat → Fetches getAvatar id u)
    (hrun : t.db.run statement = some (rows, t.db)) (hkey : statement.roleKey = none)
    (hrows : ∀ row ∈ rows, s.db.HasAvatar (key row)) (ht : Underway s ptr (K []) ids t)
    (hbound : t.unloaded ≤ bound) :
    Costs (execute statement >>= fun rows => loadContacts getAvatar key push ptr rows) t
      (1 + 3 * (t.toLoad (named key rows)).ncard)
      ((∀ row ∈ rows, key row < 2 ^ 31) ∧ ∀ id ∈ t.toLoad (named key rows), t.db.Readable id)
      (fun _ u => Underway s ptr (K rows) (ids ∪ t.toLoad (named key rows)) u ∧ u.unloaded ≤ bound)
      (Halted s ptr K rows) := by
  have hcounters : ∀ executed failures,
      Underway s ptr (K []) ids { t with executed, failures } := fun _ _ =>
    ⟨⟨ht.loadable.allocated, ht.loadable.referential⟩, ht.db, ht.cachedIds, ht.cache⟩
  refine ((costs_execute hrun hkey fun failures => .inl ⟨ids, hcounters _ failures⟩).bind
    fun rows' u _ _ hu => ?_).mono rfl (and_iff_right trivial) (fun _ _ h => h) fun _ h => h
  obtain ⟨rfl, rfl⟩ := hu
  have hloop := costs_loadContacts hpush hfresh hget hrows (hcounters (t.executed + 1) t.failures) hbound
  exact hloop.mono rfl Iff.rfl (fun _ _ h => h) fun _ h => .inr h

end Loops

section Lists
variable {s t : Server} {avatar : ChatAvatar} {getAvatar : UInt32 → Serve (Option AvatarPtr)}
variable {bound : Nat}

/-- Some friends are in the list, and nobody is ignored yet. -/
def Befriending (front : List FriendRow) (a : ChatAvatar) : Prop :=
  a.friendEntries = front.map FriendRow.entry ∧ a.ignoreEntries = []

/-- The friend list is complete, and some ignored avatars are in the other list. -/
def Shunning (friends : List FriendRow) (front : List IgnoreRow) (a : ChatAvatar) : Prop :=
  a.friendEntries = friends.map FriendRow.entry ∧ a.ignoreEntries = front.map IgnoreRow.entry

theorem pushes_friends : Pushes FriendRow.friendAvatarId pushFriend Befriending where
  self _ _ _ := rfl
  next front row q a h hq := by
    refine ⟨?_, h.2⟩
    have hfront := h.1
    simp only [ChatAvatar.friendEntries] at hfront
    simp only [ChatAvatar.friendEntries, pushFriend, List.map_append, hfront]
    simp [FriendRow.entry, hq]

theorem pushes_ignored (friends : List FriendRow) :
    Pushes IgnoreRow.ignoreAvatarId pushIgnored (Shunning friends) where
  self _ _ _ := rfl
  next front row q a h hq := by
    refine ⟨h.1, ?_⟩
    have hfront := h.2
    simp only [ChatAvatar.ignoreEntries] at hfront
    simp only [ChatAvatar.ignoreEntries, pushIgnored, List.map_append, hfront]
    simp [IgnoreRow.entry, hq]

/-- The friends of an avatar that has just been cached are loaded. -/
def FriendsClean (s : Server) (avatarId : Nat) : Prop :=
  Clean s (1 + 3 * (s.toLoad (s.db.friendIds avatarId)).ncard)
    ((∀ row ∈ s.db.friendRows avatarId, row.friendAvatarId < 2 ^ 31) ∧
      ∀ id ∈ s.toLoad (s.db.friendIds avatarId), s.db.Readable id)

/-- How filling in the lists can end early, where `cached` is the server that has cached the avatar. -/
def Unfilled (s cached : Server) (ptr : AvatarPtr) (avatarId : Nat) (t : Server) : Prop :=
  (¬ FriendsClean cached avatarId ∧ Halted s ptr Befriending (s.db.friendRows avatarId) t) ∨
    FriendsClean cached avatarId ∧
      Halted s ptr (Shunning (s.db.friendRows avatarId)) (s.db.ignoreRows avatarId) t

theorem forall_contact {db : Database} {avatarId : Nat} {P : Nat → Prop} :
    (∀ id, db.Contact avatarId id → P id) ↔ (∀ row ∈ db.friendRows avatarId, P row.friendAvatarId) ∧
      ∀ row ∈ db.ignoreRows avatarId, P row.ignoreAvatarId := by
  constructor
  · intro h
    exact ⟨fun row hrow => h _ (.inl ⟨row, hrow, rfl⟩), fun row hrow => h _ (.inr ⟨row, hrow, rfl⟩)⟩
  · rintro ⟨hfriends, hignored⟩ _ (⟨row, hrow, rfl⟩ | ⟨row, hrow, rfl⟩)
    · exact hfriends row hrow
    · exact hignored row hrow

variable (hfresh : ∀ a ∈ s.avatarCache, a.self.obj ≠ avatar.self.obj)
  (hget : ∀ id u, Loadable u → u.unloaded ≤ (s.cached avatar).unloaded → u.db.HasAvatar id.toNat →
    Fetches getAvatar id u) (hl : Loadable (s.cached avatar))
include hfresh hget hl

/-- The second list is read when the first is complete. -/
private theorem costs_shun (ht : Underway s avatar.self
      (Befriending (s.db.friendRows avatar.self.avatarId.toNat))
      ((s.cached avatar).toLoad (s.db.friendIds avatar.self.avatarId.toNat)) t)
    (hcached : t.cachedIds = (s.cached avatar).cachedIds ∪
      (s.cached avatar).toLoad (s.db.friendIds avatar.self.avatarId.toNat))
    (hbound : t.unloaded ≤ (s.cached avatar).unloaded) :
    Costs (loadIgnoreList getAvatar avatar.self >>= fun _ => pure (some avatar.self)) t
      (1 + 3 * ((s.cached avatar).toLoadAfter (s.db.friendIds avatar.self.avatarId.toNat)
        (s.db.ignoredIds avatar.self.avatarId.toNat)).ncard)
      ((∀ row ∈ s.db.ignoreRows avatar.self.avatarId.toNat, row.ignoreAvatarId < 2 ^ 31) ∧
        ∀ id ∈ (s.cached avatar).toLoadAfter (s.db.friendIds avatar.self.avatarId.toNat)
          (s.db.ignoredIds avatar.self.avatarId.toNat), s.db.Readable id)
      (fun contact u => contact = some avatar.self ∧ Underway s avatar.self (Whole s.db)
        (s.toLoadFrom avatar.self.avatarId.toNat) u)
      (Halted s avatar.self (Shunning (s.db.friendRows avatar.self.avatarId.toNat))
        (s.db.ignoreRows avatar.self.avatarId.toNat)) := by
  have hdb : t.db = (s.cached avatar).db := ht.db
  have hrun : t.db.run (.selectIgnored avatar.self.avatarId) =
      some (s.db.ignoreRows avatar.self.avatarId.toNat, t.db) := by
    rw [ht.db]
    rfl
  have hlist := costs_contactList (pushes_ignored (s.db.friendRows avatar.self.avatarId.toNat)) hfresh hget
    hrun rfl (fun row hrow => hl.referential.ignored row (List.mem_filter.mp hrow).1)
    (ht.mono fun _ _ h => h) hbound
  have hunion := toLoad_union (s.cached avatar) (s.db.friendIds avatar.self.avatarId.toNat)
    (s.db.ignoredIds avatar.self.avatarId.toNat)
  have hall := hunion.symm.trans (toLoad_cached s avatar)
  rw [toLoad_of_cachedIds hdb hcached, ht.db] at hlist
  rw [← hall]
  refine (hlist.bind fun _ u _ _ hu => costs_pure ⟨rfl, hu.1.mono fun a hself h => ?_⟩).mono
    (Nat.add_zero _) (and_iff_left trivial) (fun _ _ h => h) fun _ h => h
  constructor
  · rw [hself]
    exact h.1
  · rw [hself]
    exact h.2

/-- Both lists of an avatar that has just been cached are filled in, and all they lead to is loaded. -/
theorem costs_fill (hfriends : avatar.friendList = []) (hignored : avatar.ignoreList = []) :
    Costs (loadFriendList getAvatar avatar.self >>= fun _ => loadIgnoreList getAvatar avatar.self >>= fun _ =>
        pure (some avatar.self)) (s.cached avatar)
      (2 + 3 * (s.toLoadFrom avatar.self.avatarId.toNat).ncard)
      ((∀ id, s.db.Contact avatar.self.avatarId.toNat id → id < 2 ^ 31) ∧
        ∀ id ∈ s.toLoadFrom avatar.self.avatarId.toNat, s.db.Readable id)
      (fun contact t => contact = some avatar.self ∧ Underway s avatar.self (Whole s.db)
        (s.toLoadFrom avatar.self.avatarId.toNat) t)
      (Unfilled s (s.cached avatar) avatar.self avatar.self.avatarId.toNat) := by
  have hstart : Underway s avatar.self (Befriending []) ∅ (s.cached avatar) := by
    refine ⟨hl, rfl, ?_, avatar, [], rfl, rfl, ?_, fun _ h => absurd h List.not_mem_nil⟩
    · rw [cachedIds_cached, Set.union_empty]
    · simp [Befriending, ChatAvatar.friendEntries, ChatAvatar.ignoreEntries, hfriends, hignored]
  have hfriend : Costs (loadFriendList getAvatar avatar.self) (s.cached avatar) _ _ _ _ :=
    costs_contactList pushes_friends hfresh hget rfl rfl
      (fun row hrow => hl.referential.friend row (List.mem_filter.mp hrow).1) hstart (Nat.le_refl _)
  rw [Set.empty_union] at hfriend
  have hcached : ∀ u, Underway s avatar.self (Befriending (s.db.friendRows avatar.self.avatarId.toNat))
      ((s.cached avatar).toLoad (s.db.friendIds avatar.self.avatarId.toNat)) u →
      u.cachedIds = (s.cached avatar).cachedIds ∪
        (s.cached avatar).toLoad (s.db.friendIds avatar.self.avatarId.toNat) := by
    intro u hu
    rw [hu.cachedIds, hstart.cachedIds, Set.union_empty]
  refine (hfriend.seq fun _ u _ _ hu => costs_shun hfresh hget hl hu.1 (hcached u hu.1) hu.2).mono ?_ ?_
    (fun _ _ h => h) fun _ h => h
  · have hcount := ncard_toLoad_union (s.cached avatar) (s.db.finite_friendIds avatar.self.avatarId.toNat)
      (s.db.finite_ignoredIds avatar.self.avatarId.toNat)
    rw [← toLoad_cached]
    change _ = 2 + 3 * ((s.cached avatar).toLoad (_ ∪ _)).ncard
    rw [hcount]
    change 1 + 3 * ((s.cached avatar).toLoad (s.db.friendIds avatar.self.avatarId.toNat)).ncard + _ = _
    omega
  · have hunion := toLoad_union (s.cached avatar) (s.db.friendIds avatar.self.avatarId.toNat)
      (s.db.ignoredIds avatar.self.avatarId.toNat)
    rw [← toLoad_cached]
    change _ ↔ _ ∧ ∀ id ∈ (s.cached avatar).toLoad (_ ∪ _), s.db.Readable id
    rw [hunion, forall_contact]
    constructor
    · rintro ⟨⟨hkeys, hfirst⟩, hkeys', hrest⟩
      exact ⟨⟨hkeys, hkeys'⟩, fun id hid => hid.elim (hfirst id) (hrest id)⟩
    · rintro ⟨⟨hkeys, hkeys'⟩, hall⟩
      exact ⟨⟨hkeys, fun id hid => hall id (.inl hid)⟩, hkeys', fun id hid => hall id (.inr hid)⟩

end Lists

/-- The server has read a row of the avatar table and built an object from it. -/
def Server.rowRead (s : Server) : Server := { s with executed := s.executed + 1, objects := s.objects + 1 }

section Lookups
variable {s t : Server}

/-- Reading the first row builds a new object. -/
theorem costs_readAvatarRow (rows : List AvatarRow) {E : Server → Prop}
    (hE : E { s with objects := s.objects + 1 }) :
    Costs (readAvatarRow rows) s 0 (∀ row ∈ rows.head?, row.Small) (fun loaded t =>
      (rows = [] ∧ loaded = none ∧ t = s) ∨ ∃ row rest, rows = row :: rest ∧ row.Small ∧
        loaded = some (storedAvatar s.objects row) ∧ t = { s with objects := s.objects + 1 }) E := by
  cases rows with
  | nil => exact (costs_pure (.inl ⟨rfl, rfl, rfl⟩)).mono rfl (by simp) (fun _ _ h => h) fun _ h => h
  | cons row rest =>
    have hread : Costs (columnInt row.id >>= fun id => columnInt row.userId >>= fun userId =>
        columnInt row.attributes >>= fun attributes => pure (some ({
          self := ⟨s.objects, id, toWideString row.name, toWideString row.address⟩
          userId := userId
          attributes := attributes } : ChatAvatar))) { s with objects := s.objects + 1 } 0 row.Small
        (fun loaded t => loaded = some (storedAvatar s.objects row) ∧
          t = { s with objects := s.objects + 1 }) E := by
      refine ((costs_columnInt hE).bind fun id u _ _ hid => ?_).mono (Nat.zero_add _) Iff.rfl
        (fun _ _ h => h) fun _ h => h
      obtain ⟨hid, rfl⟩ := hid
      refine ((costs_columnInt hE).bind fun userId u _ _ huser => ?_).mono (Nat.zero_add _) Iff.rfl
        (fun _ _ h => h) fun _ h => h
      obtain ⟨huser, rfl⟩ := huser
      refine ((costs_columnInt hE).bind fun attributes u _ _ hattr => ?_).mono (Nat.zero_add _)
        (and_iff_left trivial) (fun _ _ h => h) fun _ h => h
      obtain ⟨hattr, rfl⟩ := hattr
      refine costs_pure ⟨?_, rfl⟩
      simp only [storedAvatar, ← hid, ← huser, ← hattr, UInt32.ofNat_toNat]
    have hrun : Costs (readAvatarRow (row :: rest)) s 0 row.Small _ E := hread.of_eq rfl rfl rfl
    refine hrun.inRange.mono rfl (by simp) ?_ fun _ h => h
    rintro loaded t ⟨hsmall, hloaded, ht⟩
    exact .inr ⟨row, rest, rfl, hsmall, hloaded, ht⟩

/-- Both overloads of `LoadStoredAvatar`, for the statement that reads `rows`. -/
theorem costs_loadStored {statement : Statement (List AvatarRow)} {rows : List AvatarRow}
    (hrun : s.db.run statement = some (rows, s.db)) (hkey : statement.roleKey = none) :
    Costs (execute statement >>= readAvatarRow) s 1 (∀ row ∈ rows.head?, row.Small) (fun loaded t =>
      (rows = [] ∧ loaded = none ∧ t = { s with executed := s.executed + 1 }) ∨
        ∃ row rest, rows = row :: rest ∧ row.Small ∧ loaded = some (storedAvatar s.objects row) ∧
          t = s.rowRead)
      (fun t => t.avatarCache = s.avatarCache ∧ t.db = s.db) := by
  refine ((costs_execute hrun hkey fun _ => ⟨rfl, rfl⟩).bind fun rows' t _ _ ht => ?_).mono
    (Nat.add_zero _) (and_iff_right trivial) (fun _ _ h => h) fun _ h => h
  obtain ⟨rfl, rfl⟩ := ht
  exact costs_readAvatarRow _ ⟨rfl, rfl⟩

/-- Caching an avatar that was built from a row. -/
theorem loadable_stored (hs : Loadable s) (row : AvatarRow) :
    Loadable (s.rowRead.cached (storedAvatar s.objects row)) :=
  ⟨(loadable_loads.bookkeeping s.executed s.failures (s.objects + 1) hs (Nat.le_succ _)).allocated.cached
    hs.allocated.below (Nat.lt_succ_self _), hs.referential⟩

theorem storedAvatar_avatarId (obj : Nat) {row : AvatarRow} (h : row.Small) :
    (storedAvatar obj row).self.avatarId.toNat = row.id := by
  simp only [storedAvatar, UInt32.toNat_ofNat']
  have := h.1
  omega

/-- The lists of an avatar that was built from a row are filled in. -/
theorem costs_adopt {getAvatar : UInt32 → Serve (Option AvatarPtr)} (hs : Loadable s) {row : AvatarRow}
    (hsmall : row.Small)
    (hget : ∀ id u, Loadable u → u.unloaded ≤ (s.rowRead.cached (storedAvatar s.objects row)).unloaded →
      u.db.HasAvatar id.toNat → Fetches getAvatar id u) :
    Costs (adopt getAvatar (some (storedAvatar s.objects row))) s.rowRead
      (2 + 3 * (s.toLoadFrom row.id).ncard)
      ((∀ id, s.db.Contact row.id id → id < 2 ^ 31) ∧ ∀ id ∈ s.toLoadFrom row.id, s.db.Readable id)
      (fun contact t => contact = some (storedAvatar s.objects row).self ∧
        Underway s (storedAvatar s.objects row).self (Whole s.db) (s.toLoadFrom row.id) t)
      (Unfilled s (s.rowRead.cached (storedAvatar s.objects row)) (storedAvatar s.objects row).self
        row.id) := by
  have hid := storedAvatar_avatarId s.objects hsmall
  have hfill := costs_fill (s := s.rowRead) (fun a ha => Nat.ne_of_lt (hs.allocated.below a ha)) hget
    (loadable_stored hs row) rfl rfl
  rw [hid] at hfill
  have hunder : ∀ {K ids t}, Underway s.rowRead (storedAvatar s.objects row).self K ids t →
      Underway s (storedAvatar s.objects row).self K ids t :=
    fun h => ⟨h.loadable, h.db, h.cachedIds, h.cache⟩
  have hhalted : ∀ {ρ : Type} {K : List ρ → ChatAvatar → Prop} {rows t},
      Halted s.rowRead (storedAvatar s.objects row).self K rows t →
        Halted s (storedAvatar s.objects row).self K rows t :=
    fun h => h.imp_left fun ⟨ids, hids⟩ => ⟨ids, hunder hids⟩
  have hadopt : Costs (adopt getAvatar (some (storedAvatar s.objects row))) s.rowRead _ _ _ _ :=
    hfill.of_eq rfl rfl rfl
  refine hadopt.mono rfl Iff.rfl (fun contact t ht => ⟨ht.1, hunder ht.2⟩) fun t ht => ?_
  exact ht.imp (And.imp_right hhalted) (And.imp_right hhalted)

/-- A lookup that finds a row loads the avatar and everything its contact rows lead to. -/
theorem costs_loadAvatar {getAvatar : UInt32 → Serve (Option AvatarPtr)} (hs : Loadable s)
    {statement : Statement (List AvatarRow)} {row : AvatarRow} {rest : List AvatarRow}
    (hrun : s.db.run statement = some (row :: rest, s.db)) (hkey : statement.roleKey = none)
    (hget : row.Small → ∀ id u, Loadable u →
      u.unloaded ≤ (s.rowRead.cached (storedAvatar s.objects row)).unloaded → u.db.HasAvatar id.toNat →
      Fetches getAvatar id u) :
    Costs ((execute statement >>= readAvatarRow) >>= adopt getAvatar) s
      (1 + (2 + 3 * (s.toLoadFrom row.id).ncard))
      (row.Small ∧ (∀ id, s.db.Contact row.id id → id < 2 ^ 31) ∧
        ∀ id ∈ s.toLoadFrom row.id, s.db.Readable id)
      (fun contact t => row.Small ∧ contact = some (storedAvatar s.objects row).self ∧
        Underway s (storedAvatar s.objects row).self (Whole s.db) (s.toLoadFrom row.id) t)
      (fun t => (¬ Clean s 1 row.Small ∧ t.avatarCache = s.avatarCache ∧ t.db = s.db) ∨
        Clean s 1 row.Small ∧ Unfilled s (s.rowRead.cached (storedAvatar s.objects row))
          (storedAvatar s.objects row).self row.id t) := by
  have hload := costs_loadStored hrun hkey
  rw [List.head?_cons] at hload
  refine ((hload.mono rfl (by simp) (fun _ _ h => h) fun _ h => h).seq fun loaded t _ _ ht => ?_)
  rcases ht with ⟨hnil, _⟩ | ⟨row', rest', hcons, hsmall, rfl, rfl⟩
  · exact absurd hnil (by simp)
  · obtain ⟨rfl, rfl⟩ := List.cons.inj hcons
    exact (costs_adopt hs hsmall (hget hsmall)).mono rfl Iff.rfl (fun _ _ h => ⟨hsmall, h⟩) fun _ h => h

/-- The rest of what a lookup guarantees. -/
private theorem fetches_of_costs {fuel : Nat} {avatarId : UInt32} (hs : Loadable s)
    (hstored : s.db.HasAvatar avatarId.toNat) (hfuel : s.unloaded < fuel)
    (h : Costs (getAvatarWithin fuel avatarId) s (3 * (s.toLoad {avatarId.toNat}).ncard)
      (∀ id ∈ s.toLoad {avatarId.toNat}, s.db.Readable id)
      (fun _ t => Extended s (s.toLoad {avatarId.toNat}) t) (fun _ => True)) :
    Fetches (fun id => getAvatarWithin fuel id) avatarId s := by
  refine (Ends.and h (loadable_loads.getAvatarWithin fuel avatarId hs hfuel)).mono ?_ ?_
  · rintro contact t ⟨⟨hclean, hext⟩, ht, hgrown, hfound⟩
    refine ⟨hclean, ht, hgrown, hext, ?_⟩
    cases contact with
    | none =>
      obtain ⟨row, hrow, hid⟩ := hstored
      exact absurd hid (hfound.2.2 row hrow)
    | some q => exact ⟨q, rfl, hfound.1⟩
  · rintro _ t ⟨⟨hclean, _⟩, _, hgrown, _⟩
    exact ⟨hclean, hgrown⟩

/-- The recursion loads what the contact rows lead to, each avatar once. -/
private theorem costs_getAvatarWithin (fuel : Nat) (avatarId : UInt32) (hs : Loadable s)
    (hstored : s.db.HasAvatar avatarId.toNat) (hfuel : s.unloaded < fuel) :
    Costs (getAvatarWithin fuel avatarId) s (3 * (s.toLoad {avatarId.toNat}).ncard)
      (∀ id ∈ s.toLoad {avatarId.toNat}, s.db.Readable id)
      (fun _ t => Extended s (s.toLoad {avatarId.toNat}) t) (fun _ => True) := by
  induction fuel generalizing s avatarId with
  | zero => omega
  | succ fuel ih =>
    have hcached : getCachedAvatarById avatarId s =
        (.ok ((s.avatarCache.find? (·.self.avatarId == avatarId)).map (·.self)), s) := rfl
    rw [getAvatarWithin]
    cases hfind : s.avatarCache.find? (·.self.avatarId == avatarId) with
    | some a =>
      rw [hfind] at hcached
      have hseen : avatarId.toNat ∈ s.cachedIds := by
        have hid : a.self.avatarId = avatarId := by simpa using List.find?_some hfind
        exact ⟨a, List.mem_of_find?_eq_some hfind, congrArg UInt32.toNat hid⟩
      have hnone : s.toLoad {avatarId.toNat} = ∅ := reached_seen hseen
      have hreturn : Costs (pure (some a.self) : Serve (Option AvatarPtr)) s 0 True
          (fun _ t => Extended s ∅ t) (fun _ => True) :=
        costs_pure ⟨rfl, (Set.union_empty _).symm, [], by simp, by simp⟩
      rw [hnone]
      refine (hreturn.of_eq ?_ rfl rfl).mono ?_ ?_ (fun _ _ h => h) fun _ h => h
      · exact bind_ok hcached _
      · rw [Set.ncard_empty]
      · simp
    | none =>
      rw [hfind] at hcached
      have hnew : ∀ a ∈ s.avatarCache, a.self.avatarId ≠ avatarId := by
        simpa using List.find?_eq_none.mp hfind
      have hunseen : avatarId.toNat ∉ s.cachedIds := by
        rintro ⟨a, ha, hid⟩
        exact hnew a ha (UInt32.toNat_inj.mp hid)
      obtain ⟨row, rest, hrows⟩ : ∃ row rest, s.db.avatar.filter (·.id = avatarId.toNat) = row :: rest := by
        obtain ⟨row, hrow, hid⟩ := hstored
        have hmem : row ∈ s.db.avatar.filter (·.id = avatarId.toNat) := by simp [hrow, hid]
        exact List.exists_cons_of_ne_nil (List.ne_nil_of_mem hmem)
      have hrow := List.mem_filter.mp (hrows ▸ List.mem_cons_self : row ∈ s.db.avatar.filter _)
      have hid : row.id = avatarId.toNat := by simpa using hrow.2
      have hfirst : s.db.avatar.find? (·.id = avatarId.toNat) = some row := by
        rw [← List.head?_filter, hrows, List.head?_cons]
      have hless : row.Small → (s.rowRead.cached (storedAvatar s.objects row)).unloaded < s.unloaded :=
        fun hsmall => unloaded_cached_lt (s := s.rowRead) hrow.1 (storedAvatar_avatarId s.objects hsmall) fun a ha heq =>
          hnew a ha (UInt32.toNat_inj.mp (heq.trans hid))
      have hbody : Costs (loadStoredAvatarById avatarId >>= adopt fun id => getAvatarWithin fuel id) s _ _ _ _ :=
        costs_loadAvatar hs (by rw [← hrows]; rfl) rfl fun hsmall id u hu hle hst => by
          have hlt := hless hsmall
          exact fetches_of_costs hu hst (by omega) (ih id hu hst (by omega))
      refine (hbody.of_eq (bind_ok hcached _) rfl rfl).mono ?_ ?_ ?_ fun _ _ => trivial
      · rw [hid, ncard_toLoad_vertex hunseen]
        omega
      · rw [hid, toLoad_vertex hunseen, Set.forall_mem_insert, Database.Readable, hfirst]
        simp [and_assoc]
      · rintro contact t ⟨hsmall, rfl, hunder⟩
        have hext := hunder.extended (Nat.le_refl _)
        rw [storedAvatar_avatarId s.objects hsmall, hid, ← toLoad_vertex hunseen] at hext
        exact hext

theorem fetches_getAvatarById (avatarId : UInt32) (hs : Loadable s) (hstored : s.db.HasAvatar avatarId.toNat) :
    Fetches getAvatarById avatarId s := by
  have hfuel : s.unloaded < s.loadDepth := Nat.lt_succ_of_le List.countP_le_length
  exact fetches_of_costs hs hstored hfuel (costs_getAvatarWithin _ avatarId hs hstored hfuel)

theorem fetches_getAvatarWithin {fuel : Nat} (avatarId : UInt32) (hs : Loadable s)
    (hstored : s.db.HasAvatar avatarId.toNat) (hfuel : s.unloaded < fuel) :
    Fetches (fun id => getAvatarWithin fuel id) avatarId s :=
  fetches_of_costs hs hstored hfuel (costs_getAvatarWithin fuel avatarId hs hstored hfuel)

end Lookups
end StationChat
