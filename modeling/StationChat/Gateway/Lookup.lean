import StationChat.Lib.Contract
import StationChat.Model.ChatAvatarService

/-! Looking avatars up. An assertion that survives caching one stored avatar and filling in its
contacts survives every lookup; lookups only let the cache grow, and they come to an end. -/
namespace StationChat
open Lib Lib.Action Lib.Contract

/-- A pointer to an object the cache owns. -/
def Live (cache : List ChatAvatar) (p : AvatarPtr) : Prop := ∃ a ∈ cache, a.self = p

/-- Every cached object has a number of its own, and the next number is unused. -/
structure Allocated (cache : List ChatAvatar) (objects : Nat) : Prop where
  below : ∀ a ∈ cache, a.self.obj < objects
  distinct : ∀ a ∈ cache, ∀ b ∈ cache, a.self.obj = b.self.obj → a = b

/-- The foreign keys that contact rows rely on. -/
structure Database.Referential (db : Database) : Prop where
  friend : ∀ row ∈ db.friend, db.HasAvatar row.friendAvatarId
  ignored : ∀ row ∈ db.ignore, db.HasAvatar row.ignoreAvatarId

/-- The object `LoadStoredAvatar` builds from a row. -/
def storedAvatar (obj : Nat) (row : AvatarRow) : ChatAvatar where
  self := ⟨obj, UInt32.ofNat row.id, toWideString row.name, toWideString row.address⟩
  userId := UInt32.ofNat row.userId
  attributes := UInt32.ofNat row.attributes

/-- A pointer such as loading some readable row yields. -/
def Stored (db : Database) (p : AvatarPtr) : Prop :=
  ∃ row ∈ db.avatar, row.Small ∧ ∃ obj, p = (storedAvatar obj row).self

def Server.cached (s : Server) (avatar : ChatAvatar) : Server :=
  { s with avatarCache := s.avatarCache ++ [avatar] }

namespace Allocated
variable {cache : List ChatAvatar} {objects : Nat} {s : Server}

theorem cached (h : Allocated cache objects) {avatar : ChatAvatar}
    (hobj : ∀ a ∈ cache, a.self.obj < avatar.self.obj) (hlt : avatar.self.obj < objects) :
    Allocated (cache ++ [avatar]) objects := by
  have hmem : ∀ a ∈ cache ++ [avatar], a ∈ cache ∨ a = avatar := fun a ha => by simpa using ha
  constructor
  · intro a ha
    rcases hmem a ha with ha | rfl
    · exact h.below a ha
    · exact hlt
  · intro a ha b hb heq
    rcases hmem a ha with ha' | rfl <;> rcases hmem b hb with hb' | rfl
    · exact h.distinct a ha' b hb' heq
    · exact absurd heq (Nat.ne_of_lt (hobj a ha'))
    · exact absurd heq.symm (Nat.ne_of_lt (hobj b hb'))
    · rfl

theorem updateAvatar (h : Allocated s.avatarCache s.objects) {p : AvatarPtr}
    {f : ChatAvatar → ChatAvatar} (hself : ∀ a, (f a).self = a.self) :
    Allocated (s.updateAvatar p f).avatarCache s.objects := by
  have hobj : ∀ a : ChatAvatar, (if a.self.obj == p.obj then f a else a).self = a.self := by
    intro a
    split
    · exact hself a
    · rfl
  constructor
  · intro b hb
    obtain ⟨a, ha, rfl⟩ := List.mem_map.mp hb
    rw [hobj]
    exact h.below a ha
  · intro b hb c hc heq
    obtain ⟨a, ha, rfl⟩ := List.mem_map.mp hb
    obtain ⟨d, hd, rfl⟩ := List.mem_map.mp hc
    rw [hobj, hobj] at heq
    rw [h.distinct a ha d hd heq]

end Allocated

section Reading
variable {cache : List ChatAvatar} {p : AvatarPtr} {s : Server}

theorem Live.mono {cache' : List ChatAvatar} (h : Live cache p) (hsub : cache <+: cache') :
    Live cache' p := by
  obtain ⟨a, ha, hp⟩ := h
  exact ⟨a, hsub.subset ha, hp⟩

theorem avatar?_self (ha : Allocated s.avatarCache s.objects) {b : ChatAvatar} (hb : b ∈ s.avatarCache) :
    s.avatar? b.self = some b := by
  have hsome : (s.avatar? b.self).isSome := by
    rw [Server.avatar?, List.find?_isSome]
    exact ⟨b, hb, by simp⟩
  obtain ⟨a, hfind⟩ := Option.isSome_iff_exists.mp hsome
  have hobj : a.self.obj = b.self.obj := by simpa using List.find?_some hfind
  rw [hfind, ha.distinct a (List.mem_of_find?_eq_some hfind) b hb hobj]

theorem avatar?_of_live (ha : Allocated s.avatarCache s.objects) (h : Live s.avatarCache p) :
    ∃ a ∈ s.avatarCache, a.self = p ∧ s.avatar? p = some a := by
  obtain ⟨b, hb, rfl⟩ := h
  exact ⟨b, hb, rfl, avatar?_self ha hb⟩

theorem readAvatar_of_live (ha : Allocated s.avatarCache s.objects) (h : Live s.avatarCache p) :
    ∃ a ∈ s.avatarCache, a.self = p ∧ readAvatar p s = (.ok a, s) := by
  obtain ⟨a, hmem, hself, hfind⟩ := avatar?_of_live ha h
  refine ⟨a, hmem, hself, ?_⟩
  simp only [readAvatar, get_bind_run, hfind, pure_run]

theorem writeAvatar_of_live (ha : Allocated s.avatarCache s.objects) (h : Live s.avatarCache p)
    (f : ChatAvatar → ChatAvatar) : writeAvatar p f s = (.ok (), s.updateAvatar p f) := by
  obtain ⟨a, _, _, hread⟩ := readAvatar_of_live ha h
  rw [writeAvatar, bind_ok hread]
  rfl

end Reading

/-- `t` is `s` after lookups: the statements and objects are counted on, the cache is longer. -/
structure Grown (s t : Server) : Prop where
  rest : t = { s with
    executed := t.executed
    failures := t.failures
    objects := t.objects
    avatarCache := t.avatarCache }
  cache : s.avatarCache <+: t.avatarCache
  objects : s.objects ≤ t.objects
  loaded : ∀ p, Live t.avatarCache p → Live s.avatarCache p ∨ Stored s.db p

namespace Grown
variable {s t u : Server}

/-- Only the counters moved. -/
theorem of_counters {executed failures objects : Nat} (hle : s.objects ≤ objects) :
    Grown s { s with executed, failures, objects } :=
  ⟨rfl, List.prefix_rfl, hle, fun _ hp => .inl hp⟩

theorem refl (s : Server) : Grown s s := of_counters (Nat.le_refl _)

theorem db (h : Grown s t) : t.db = s.db := by rw [h.rest]

theorem trans (h : Grown s t) (h' : Grown t u) : Grown s u := by
  refine ⟨?_, h.cache.trans h'.cache, Nat.le_trans h.objects h'.objects, fun p hp => ?_⟩
  · rw [h'.rest, h.rest]
  · rcases h'.loaded p hp with hp | hp
    · exact h.loaded p hp
    · exact .inr (h.db ▸ hp)

theorem live {p : AvatarPtr} (h : Grown s t) (hp : Live s.avatarCache p) : Live t.avatarCache p :=
  hp.mono h.cache

end Grown

/-- The stored avatars that are not in the cache yet. -/
def Server.unloaded (s : Server) : Nat :=
  s.db.avatar.countP fun row => s.avatarCache.all fun a => a.self.avatarId.toNat != row.id

theorem unloaded_le {s t : Server} (hdb : t.db = s.db)
    (hcache : ∀ a ∈ s.avatarCache, ∃ b ∈ t.avatarCache, b.self = a.self) :
    t.unloaded ≤ s.unloaded := by
  rw [Server.unloaded, Server.unloaded, hdb]
  refine List.countP_mono_left fun row _ hrow => ?_
  rw [List.all_eq_true] at hrow ⊢
  intro a ha
  obtain ⟨b, hb, hself⟩ := hcache a ha
  rw [← hself]
  exact hrow b hb

theorem Grown.unloaded_le {s t : Server} (h : Grown s t) : t.unloaded ≤ s.unloaded :=
  StationChat.unloaded_le h.db fun a ha => ⟨a, h.cache.subset ha, rfl⟩

private theorem countP_lt {α : Type} {p q : α → Bool} {l : List α} {x : α} (hx : x ∈ l)
    (hle : ∀ y ∈ l, p y = true → q y = true) (hq : q x = true) (hp : p x = false) :
    l.countP p < l.countP q := by
  induction l with
  | nil => exact absurd hx (by simp)
  | cons y l ih =>
    have hmono := List.countP_mono_left fun z hz => hle z (List.mem_cons_of_mem y hz)
    rw [List.countP_cons, List.countP_cons]
    rcases List.mem_cons.mp hx with rfl | hx
    · rw [hp, hq]
      simp only [Bool.false_eq_true, if_false, if_true]
      omega
    · have hlt := ih hx fun z hz => hle z (List.mem_cons_of_mem y hz)
      have hy := hle y List.mem_cons_self
      by_cases hpy : p y = true
      · rw [if_pos hpy, if_pos (hy hpy)]
        omega
      · rw [if_neg hpy]
        omega

/-- Caching a stored avatar that was not cached leaves one less to load. -/
theorem unloaded_cached_lt {s : Server} {row : AvatarRow} {avatar : ChatAvatar}
    (hrow : row ∈ s.db.avatar) (hid : avatar.self.avatarId.toNat = row.id)
    (hnew : ∀ a ∈ s.avatarCache, a.self.avatarId.toNat ≠ row.id) :
    (s.cached avatar).unloaded < s.unloaded := by
  refine countP_lt hrow ?_ ?_ ?_
  · intro r _ hr
    rw [List.all_eq_true] at hr ⊢
    exact fun a ha => hr a (List.mem_append_left _ ha)
  · rw [List.all_eq_true]
    exact fun a ha => by simpa using hnew a ha
  · rw [List.all_eq_false]
    exact ⟨avatar, List.mem_append_right _ (List.mem_singleton.mpr rfl), by simp [hid]⟩

/-- An assertion on the server that loading an avatar keeps. `range` allows stored integers that
`ColumnInt` cannot read. -/
structure Loads (range : Prop) (I : Server → Prop) : Prop where
  allocated : ∀ {s}, I s → Allocated s.avatarCache s.objects
  referential : ∀ {s}, I s → s.db.Referential
  small : ∀ {s}, I s → ¬ range → ∀ row ∈ s.db.avatar, row.Small
  bookkeeping : ∀ {s} executed failures objects, I s → s.objects ≤ objects →
    I { s with executed, failures, objects }
  cache : ∀ {s row obj}, I s → row ∈ s.db.avatar → row.Small →
    (∀ a ∈ s.avatarCache, a.self.avatarId.toNat ≠ row.id) →
    (∀ a ∈ s.avatarCache, a.self.obj < obj) → obj < s.objects → I (s.cached (storedAvatar obj row))
  friend : ∀ {s p q} row, I s → Live s.avatarCache p → Live s.avatarCache q →
    I (s.updateAvatar p (pushFriend row (some q)))
  ignored : ∀ {s p q} row, I s → Live s.avatarCache p → Live s.avatarCache q →
    I (s.updateAvatar p (pushIgnored row (some q)))

/-- Lookups keep such an assertion, only let the server grow, and end early only with the
database's exception or the one of `ColumnInt`. -/
def lookups (range : Prop) (I : Server → Prop) : Contract Server Exn where
  inv := I
  step := Grown
  allowed e := e = .database ∨ e = .outOfRange ∧ range
  refl := Grown.refl
  trans := Grown.trans

end StationChat
