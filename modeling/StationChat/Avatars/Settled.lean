import StationChat.Avatars.Accurate
import StationChat.Avatars.Atomicity

/-! The cache as a copy of the tables: every object is the only one of its avatar, its two lists are the
rows of the avatar in order, and every contact points to a cached object. -/
namespace StationChat
open Lib Lib.Action Lib.Contract

/-- The primary keys of the contact tables. -/
structure Database.ContactKeys (db : Database) : Prop where
  friend : (db.friend.map fun row => (row.avatarId, row.friendAvatarId)).Nodup
  ignored : db.ignore.Nodup

/-- What the tables promise. -/
structure Database.Sound (db : Database) : Prop where
  referential : db.Referential
  owned : db.Owned
  ids : (db.avatar.map (·.id)).Nodup
  contactKeys : db.ContactKeys
  next : ∀ row ∈ db.avatar, row.id < db.nextAvatarId

/-- The objects of the cache and the pointers between them. -/
structure Joined (s : Server) : Prop where
  ready : Ready s
  unduplicated : s.Unduplicated
  friends : ∀ a ∈ s.avatarCache, ∀ c ∈ a.friendList, Good s.avatarCache c.frnd
  ignored : ∀ a ∈ s.avatarCache, ∀ c ∈ a.ignoreList, Good s.avatarCache c.ignored

structure Settled (s : Server) : Prop where
  joined : Joined s
  sound : s.db.Sound
  whole : ∀ a ∈ s.avatarCache, Whole s.db a

variable {s t u : Server} {p q self : AvatarPtr} {a : ChatAvatar} {db db' : Database} {i j k : Nat}

/-- A cached avatar that a request matches by its row is found in the cache. -/
def Server.Recognised (s : Server) (request : AvatarRequest) : Prop :=
  ∀ row ∈ s.db.avatar, request.matchesRow row = true →
    (∃ a ∈ s.avatarCache, a.self.avatarId.toNat = row.id) → ∃ a ∈ s.avatarCache, request.matchesObject a = true

instance (s : Server) (request : AvatarRequest) : Decidable (s.Recognised request) :=
  inferInstanceAs (Decidable (∀ row ∈ s.db.avatar, request.matchesRow row = true →
    (∃ a ∈ s.avatarCache, a.self.avatarId.toNat = row.id) → ∃ a ∈ s.avatarCache, request.matchesObject a = true))

theorem recognised_byId (s : Server) (avatarId : UInt32) : s.Recognised (.byId avatarId) := by
  rintro row _ hrow ⟨a, ha, hid⟩
  have hrow : row.id = avatarId.toNat := by simpa [AvatarRequest.matchesRow] using hrow
  exact ⟨a, ha, by simpa [AvatarRequest.matchesObject] using UInt32.toNat_inj.mp (hid.trans hrow)⟩

section Joining

theorem back_updateAvatar {f : ChatAvatar → ChatAvatar} {b : ChatAvatar}
    (hb : b ∈ (s.updateAvatar p f).avatarCache) :
    ∃ a ∈ s.avatarCache, a.self.obj = p.obj ∧ b = f a ∨ a.self.obj ≠ p.obj ∧ b = a := by
  obtain ⟨a, ha, rfl⟩ := List.mem_map.mp hb
  refine ⟨a, ha, ?_⟩
  by_cases hobj : a.self.obj = p.obj
  · exact .inl ⟨hobj, if_pos (by simpa using hobj)⟩
  · exact .inr ⟨hobj, if_neg (by simpa using hobj)⟩

theorem presence_updateAvatar {f : ChatAvatar → ChatAvatar} (hself : ∀ a, (f a).self = a.self)
    (honline : ∀ a, (f a).isOnline = a.isOnline) :
    (s.updateAvatar p f).avatarCache.map (fun a => (a.self, a.isOnline)) =
      s.avatarCache.map fun a => (a.self, a.isOnline) := by
  rw [Server.updateAvatar, List.map_map]
  apply List.map_congr_left
  intro a _
  rw [Function.comp_apply]
  split
  · rw [hself, honline]
  · rfl

theorem unduplicated_of_selves_eq (h : t.avatarCache.map (·.self) = s.avatarCache.map (·.self))
    (hs : s.Unduplicated) : t.Unduplicated :=
  unduplicated_of_selves (h ▸ List.prefix_rfl) hs

namespace Joined

theorem updateAvatar (h : Joined s) {f : ChatAvatar → ChatAvatar} (hself : ∀ a, (f a).self = a.self)
    (hfriends : ∀ a ∈ s.avatarCache, ∀ c ∈ (f a).friendList, c ∈ a.friendList ∨ Good s.avatarCache c.frnd)
    (hignored : ∀ a ∈ s.avatarCache, ∀ c ∈ (f a).ignoreList, c ∈ a.ignoreList ∨ Good s.avatarCache c.ignored) :
    Joined (s.updateAvatar p f) := by
  have hlive := live_updateAvatar (s := s) (p := p) hself
  refine ⟨h.ready.updateAvatar hself, unduplicated_of_selves_eq (selves_updateAvatar hself) h.unduplicated, ?_, ?_⟩
  · intro b hb c hc
    obtain ⟨a, ha, ⟨_, rfl⟩ | ⟨_, rfl⟩⟩ := back_updateAvatar hb
    · exact ((hfriends a ha c hc).elim (h.friends a ha c) id).mono hlive
    · exact (h.friends b ha c hc).mono hlive
  · intro b hb c hc
    obtain ⟨a, ha, ⟨_, rfl⟩ | ⟨_, rfl⟩⟩ := back_updateAvatar hb
    · exact ((hignored a ha c hc).elim (h.ignored a ha c) id).mono hlive
    · exact (h.ignored b ha c hc).mono hlive

/-- One more object without contacts, of an avatar that had none. -/
theorem cached (h : Joined s) {avatar : ChatAvatar} (hready : Ready (s.cached avatar))
    (hnew : ∀ a ∈ s.avatarCache, a.self.avatarId ≠ avatar.self.avatarId)
    (hfriends : avatar.friendList = []) (hignored : avatar.ignoreList = []) : Joined (s.cached avatar) := by
  have hlive : ∀ p, Live s.avatarCache p → Live (s.cached avatar).avatarCache p := fun p hp =>
    hp.mono (List.prefix_append _ _)
  refine ⟨hready, h.unduplicated.entered rfl hnew, fun a ha c hc => ?_, fun a ha c hc => ?_⟩
  · rcases List.mem_append.mp ha with ha | ha
    · exact (h.friends a ha c hc).mono hlive
    · rw [List.mem_singleton.mp ha, hfriends] at hc
      exact absurd hc List.not_mem_nil
  · rcases List.mem_append.mp ha with ha | ha
    · exact (h.ignored a ha c hc).mono hlive
    · rw [List.mem_singleton.mp ha, hignored] at hc
      exact absurd hc List.not_mem_nil

theorem cachedStored (h : Joined s) {row : AvatarRow} {obj : Nat} (hrow : row ∈ s.db.avatar)
    (hsmall : row.Small) (hnew : ∀ a ∈ s.avatarCache, a.self.avatarId.toNat ≠ row.id)
    (hobj : ∀ a ∈ s.avatarCache, a.self.obj < obj) (hlt : obj < s.objects) :
    Joined (s.cached (storedAvatar obj row)) := by
  apply h.cached (h.ready.cached hrow hsmall hobj hlt) _ rfl rfl
  intro a ha heq
  exact hnew a ha (by rw [heq, storedAvatar_avatarId obj hsmall])

end Joined

theorem joined_loads : Loads True Joined where
  allocated h := h.ready.allocated
  referential h := h.ready.referential
  small _ hnot := absurd trivial hnot
  bookkeeping _ _ _ h hle := ⟨⟨⟨fun a ha => Nat.lt_of_lt_of_le (h.ready.allocated.below a ha) hle,
    h.ready.allocated.distinct⟩, h.ready.referential, h.ready.stored⟩, h.unduplicated, h.friends, h.ignored⟩
  cache h hrow hsmall hnew hobj hlt := h.cachedStored hrow hsmall hnew hobj hlt
  friend row h _ hq := by
    refine h.updateAvatar (f := pushFriend row (some _)) (fun _ => rfl) (fun a _ c hc => ?_) fun _ _ _ hc => .inl hc
    rcases List.mem_append.mp hc with hc | hc
    · exact .inl hc
    · exact .inr (List.mem_singleton.mp hc ▸ ⟨_, rfl, hq⟩)
  ignored row h _ hq := by
    refine h.updateAvatar (f := pushIgnored row (some _)) (fun _ => rfl) (fun _ _ _ hc => .inl hc) fun a _ c hc => ?_
    rcases List.mem_append.mp hc with hc | hc
    · exact .inl hc
    · exact .inr (List.mem_singleton.mp hc ▸ ⟨_, rfl, hq⟩)

/-- A lookup keeps the pointers in order as long as it loads no avatar that is cached. -/
theorem joined_run {request : AvatarRequest} (hs : Joined s) (hknown : s.Recognised request) :
    (lookups True Joined).Holds request.run s fun found t =>
      (∀ p, found = some p → Live t.avatarCache p ∧ request.Yields p) ∧
        (found = none → ∀ row ∈ s.db.avatar, request.matchesRow row = false) := by
  cases request with
  | byId avatarId =>
    refine (joined_loads.getAvatarById avatarId hs).mono ?_
    rintro (_ | p) t _ _ hfound
    · refine ⟨fun _ hp => absurd hp (by simp), fun _ row hrow => ?_⟩
      simpa [AvatarRequest.matchesRow] using hfound.2.2 row hrow
    · refine ⟨?_, fun hp => absurd hp (by simp)⟩
      intro q hq
      exact Option.some.inj hq ▸ ⟨hfound.live, hfound.1⟩
  | byName name address =>
    refine (joined_loads.getAvatar name address hs ?_).mono ?_
    · intro t row obj ht hgrown hsame hrow hname haddress hsmall hnew hobj hlt
      apply ht.cachedStored (hgrown.db ▸ hrow) hsmall _ (hsame ▸ hobj) hlt
      intro a ha hid
      have hmatch : (AvatarRequest.byName name address).matchesRow row = true := by
        simp [AvatarRequest.matchesRow, hname, haddress]
      obtain ⟨b, hb, hnamed⟩ := hknown row hrow hmatch ⟨a, hsame ▸ ha, hid⟩
      exact hnew b hb (by simpa [AvatarRequest.matchesObject] using hnamed)
    · rintro (_ | p) t _ _ hfound
      · refine ⟨fun _ hp => absurd hp (by simp), fun _ row hrow => ?_⟩
        simpa [AvatarRequest.matchesRow] using hfound.2.2 row hrow
      · refine ⟨?_, fun hp => absurd hp (by simp)⟩
        intro q hq
        exact Option.some.inj hq ▸ ⟨hfound.live, trivial⟩

end Joining

section Lookups
variable {request : AvatarRequest}

/-- A lookup of a recognised avatar leaves the cache a copy of the tables, unless it stops half way. -/
theorem settled_run (hs : Settled s) (hknown : s.Recognised request) {result : Except Exn (Option AvatarPtr)}
    (hwhole : ∀ e, result = .error e → ¬ HalfLoads s request) (hrun : request.run s = (result, t)) :
    Settled t ∧ Grown s t ∧ ∀ p, result = .ok (some p) → Live t.avatarCache p ∧ request.Yields p := by
  have hends := joined_run hs.joined hknown
  have hloadable := hs.joined.ready.loadable
  have hgrown := grown_of_run hloadable hrun
  have hsound : t.db.Sound := hgrown.db ▸ hs.sound
  cases result with
  | ok found =>
    obtain ⟨hjoined, -, hfound⟩ := hends.ok_of_run hrun
    refine ⟨⟨hjoined, hsound, ?_⟩, hgrown, fun p hp => hfound.1 p (Except.ok.inj hp)⟩
    cases hmissing : request.missing s with
    | none =>
      obtain ⟨hcache, hdb⟩ := run_of_missing_none hmissing hrun
      rw [hcache, hdb]
      exact hs.whole
    | some row =>
      obtain ⟨more, hcache, hmore⟩ := ((costs_request hloadable hmissing).ok_of_run hrun).2.cache
      rw [hcache, hgrown.db]
      intro a ha
      rcases List.mem_append.mp ha with ha | ha
      · exact hs.whole a ha
      · exact (hmore a ha).1
  | error e =>
    obtain ⟨hjoined, -, -⟩ := hends.err_of_run hrun
    exact ⟨⟨hjoined, hsound, (no_half_loaded_iff hloadable hs.whole).mpr (hwhole e rfl) e t hrun⟩, hgrown,
      fun p hp => absurd hp (by simp)⟩

end Lookups

/-- What changes no contact leaves the cache a copy. -/
theorem Settled.unmoved (hs : Settled s) (h : Unmoved s t) : Settled t := by
  have hlive : ∀ p, Live s.avatarCache p → Live t.avatarCache p := by
    rintro _ ⟨a, ha, rfl⟩
    have hmem : a.self ∈ t.avatarCache.map (·.self) := h.selves ▸ List.mem_map_of_mem ha
    exact List.mem_map.mp hmem
  have hback : ∀ b ∈ t.avatarCache, ∃ a ∈ s.avatarCache, b.self = a.self ∧ b.friendList = a.friendList ∧
      b.ignoreList = a.ignoreList := by
    intro b hb
    obtain ⟨a, ha, heq⟩ := h.before hb
    exact ⟨a, ha, by simpa [ChatAvatar.contacts] using heq⟩
  have hreferential : t.db.Referential :=
    ⟨fun row hrow => (h.hasAvatar _).mpr (hs.sound.referential.friend row (h.friend ▸ hrow)),
      fun row hrow => (h.hasAvatar _).mpr (hs.sound.referential.ignored row (h.ignore ▸ hrow))⟩
  refine ⟨⟨⟨h.allocated hs.joined.ready.allocated, hreferential, fun b hb => ?_⟩,
    unduplicated_of_selves_eq h.selves hs.joined.unduplicated, fun b hb c hc => ?_, fun b hb c hc => ?_⟩,
    ⟨hreferential, ⟨fun row hrow => ?_, fun row hrow => ?_⟩, ?_, ⟨?_, ?_⟩, h.next hs.sound.next⟩, fun b hb => ?_⟩
  · obtain ⟨a, ha, hself, -, -⟩ := hback b hb
    rw [hself]
    exact (h.hasAvatar _).mpr (hs.joined.ready.stored a ha)
  · obtain ⟨a, ha, -, hfriends, -⟩ := hback b hb
    exact (hs.joined.friends a ha c (hfriends ▸ hc)).mono hlive
  · obtain ⟨a, ha, -, -, hignored⟩ := hback b hb
    exact (hs.joined.ignored a ha c (hignored ▸ hc)).mono hlive
  · exact (h.hasAvatar _).mpr (hs.sound.owned.friend row (h.friend ▸ hrow))
  · exact (h.hasAvatar _).mpr (hs.sound.owned.ignored row (h.ignore ▸ hrow))
  · exact h.avatar ▸ hs.sound.ids
  · exact h.friend ▸ hs.sound.contactKeys.friend
  · exact h.ignore ▸ hs.sound.contactKeys.ignored
  · obtain ⟨a, ha, hself, hfriends, hignored⟩ := hback b hb
    have hwhole := hs.whole a ha
    refine ⟨?_, ?_⟩
    · rw [ChatAvatar.friendEntries, hfriends, hself, Database.friendRows, h.friend]
      exact hwhole.friendList
    · rw [ChatAvatar.ignoreEntries, hignored, hself, Database.ignoreRows, h.ignore]
      exact hwhole.ignoreList

end StationChat
