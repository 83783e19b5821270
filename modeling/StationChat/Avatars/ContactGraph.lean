import StationChat.Avatars.Service

/-! When a lookup loads the whole contact graph of an avatar. -/
namespace StationChat
open Lib Lib.Action Lib.Contract

variable {s t : Server} {p : AvatarPtr} {a : ChatAvatar} {db : Database} {id : UInt32} {i j : Nat}

/-- Exactly one cached object has the id; its lists are its rows, and its contacts are cached objects. -/
def CachedOnce (t : Server) (j : Nat) : Prop :=
  ∃ a, t.avatarCache.filter (·.self.avatarId.toNat = j) = [a] ∧ Whole t.db a ∧
    (∀ c ∈ a.friendList, Good t.avatarCache c.frnd) ∧ ∀ c ∈ a.ignoreList, Good t.avatarCache c.ignored

/-- The lookup returns the avatar; everyone its rows lead to is then cached, and who was cached before is
as before. -/
def LoadsGraph (s : Server) (id : UInt32) : Prop :=
  ∃ p t, getAvatarById id s = (.ok (some p), t) ∧ p.avatarId = id ∧ s.avatarCache <+: t.avatarCache ∧ t.db = s.db ∧
    ∀ j, Relation.ReflTransGen s.db.Contact id.toNat j → CachedOnce t j

section Closure

theorem Settled.contact_cached (ht : Settled t) (hi : i ∈ t.cachedIds) (hij : t.db.Contact i j) :
    j ∈ t.cachedIds := by
  obtain ⟨a, ha, rfl⟩ := hi
  have hwhole := ht.whole a ha
  rcases hij with ⟨row, hrow, rfl⟩ | ⟨row, hrow, rfl⟩
  · have hentry : row.entry ∈ a.friendEntries := hwhole.friendList ▸ List.mem_map_of_mem hrow
    obtain ⟨c, hc, hnamed⟩ := List.mem_map.mp hentry
    obtain ⟨q, hq, b, hb, rfl⟩ := ht.joined.friends a ha c hc
    have hsame : some b.self.avatarId.toNat = some row.friendAvatarId := by
      simpa [hq, FriendRow.entry] using congrArg Prod.fst hnamed
    exact ⟨b, hb, Option.some.inj hsame⟩
  · have hentry : row.entry ∈ a.ignoreEntries := hwhole.ignoreList ▸ List.mem_map_of_mem hrow
    obtain ⟨c, hc, hnamed⟩ := List.mem_map.mp hentry
    obtain ⟨q, hq, b, hb, rfl⟩ := ht.joined.ignored a ha c hc
    have hsame : some b.self.avatarId.toNat = some row.ignoreAvatarId := by
      simpa [hq, IgnoreRow.entry] using hnamed
    exact ⟨b, hb, Option.some.inj hsame⟩

/-- From a cached avatar the rows lead to cached avatars only. -/
theorem Settled.reachable_cached (ht : Settled t) (hi : i ∈ t.cachedIds)
    (hij : Relation.ReflTransGen t.db.Contact i j) : j ∈ t.cachedIds := by
  induction hij with
  | refl => exact hi
  | tail _ hlast ih => exact ht.contact_cached ih hlast

theorem filter_eq_singleton {α β : Type} [DecidableEq β] {f : α → β} {l : List α} (h : (l.map f).Nodup) {a : α}
    (ha : a ∈ l) : l.filter (fun b => f b = f a) = [a] := by
  induction l with
  | nil => exact absurd ha List.not_mem_nil
  | cons b l ih =>
    rw [List.map_cons, List.nodup_cons] at h
    rcases List.mem_cons.mp ha with rfl | ha
    · have hrest : l.filter (fun b => f b = f a) = [] := by
        apply List.filter_eq_nil_iff.mpr
        intro c hc heq
        exact h.1 (List.mem_map.mpr ⟨c, hc, by simpa using heq⟩)
      rw [List.filter_cons_of_pos (by simp), hrest]
    · have hne : f b ≠ f a := fun heq => h.1 (heq ▸ List.mem_map_of_mem ha)
      rw [List.filter_cons_of_neg (by simpa using hne), ih h.2 ha]

theorem Settled.cachedOnce (ht : Settled t) (hj : j ∈ t.cachedIds) : CachedOnce t j := by
  obtain ⟨a, ha, rfl⟩ := hj
  have hids : (t.avatarCache.map fun a => a.self.avatarId.toNat).Nodup := by
    have hnodup := ht.joined.unduplicated.map (f := UInt32.toNat) fun _ _ => UInt32.toNat_inj.mp
    rwa [List.map_map] at hnodup
  exact ⟨a, filter_eq_singleton hids ha, ht.whole a ha, ht.joined.friends a ha, ht.joined.ignored a ha⟩

end Closure

/-- The other integers of the avatars that the lookup loads can be read. -/
def Server.ReadsRows (s : Server) (id : UInt32) : Prop :=
  ∀ row ∈ s.db.avatar, row.id ∈ s.toLoad {id.toNat} → row.userId < 2 ^ 31 ∧ row.attributes < 2 ^ 31

theorem readsRows_iff (hsound : s.db.Sound) (hids : ∀ row ∈ s.db.avatar, row.id < 2 ^ 31) :
    (∀ j ∈ s.toLoad {id.toNat}, s.db.Readable j) ↔ s.ReadsRows id := by
  have hsmall : ∀ j, s.db.HasAvatar j → j < 2 ^ 31 := by
    rintro _ ⟨row, hrow, rfl⟩
    exact hids row hrow
  have hcontacts : ∀ i j, s.db.Contact i j → j < 2 ^ 31 := by
    rintro i _ (⟨row, hrow, rfl⟩ | ⟨row, hrow, rfl⟩)
    · exact hsmall _ (hsound.referential.friend row (List.mem_filter.mp hrow).1)
    · exact hsmall _ (hsound.referential.ignored row (List.mem_filter.mp hrow).1)
  constructor
  · intro h row hrow hload
    have hfind : s.db.avatar.find? (·.id = row.id) = some row := by
      rw [← List.head?_filter, filter_eq_singleton hsound.ids hrow, List.head?_cons]
    obtain ⟨-, huser, hattributes⟩ := (h _ hload).1 row (by rw [hfind]; rfl)
    exact ⟨huser, hattributes⟩
  · intro h j hj
    refine ⟨fun row hrow => ?_, fun k => hcontacts j k⟩
    have hmem := List.mem_of_find?_eq_some hrow
    have hid : row.id = j := by simpa using List.find?_some hrow
    exact ⟨hids row hmem, h row hmem (hid ▸ hj)⟩

/-- The statements that the lookup sends are answered. -/
def Server.AnswersLoad (s : Server) (id : UInt32) : Prop :=
  ∀ k, s.executed ≤ k → k < s.executed + 3 * (s.toLoad {id.toNat}).ncard → s.fails k = false

/-- After any sane calls a lookup comes to an end, and it loads the contact graph of the avatar exactly if
its statements are answered and the rows it loads hold readable integers. -/
theorem graph_loaded_iff (hdb : db.Sound) {fails : Nat → Bool} {version : UInt32} {policyConfig : Policy.Config}
    (hcalls : (Server.start db fails version policyConfig).ServiceCalls (fun s c => c.Sane s) s)
    (hids : ∀ row ∈ s.db.avatar, row.id < 2 ^ 31) (hstored : s.db.HasAvatar id.toNat) :
    (∀ t, getAvatarById id s ≠ (.error .outOfFuel, t)) ∧
      (LoadsGraph s id ↔ s.AnswersLoad id ∧ s.ReadsRows id) := by
  have hs : Settled s := hcalls.invariant (Settled.start hdb fails version policyConfig)
    fun _ _ _ hu hadmitted hstep => settled_call hu hadmitted.1 hadmitted.2 hstep
  have hfetches := fetches_getAvatarById id hs.joined.ready.loadable hstored
  have hknown := recognised_byId s id
  refine ⟨fun t hrun => ?_, ?_⟩
  · obtain ⟨-, -, hallowed⟩ := (joined_run hs.joined hknown).err_of_run hrun
    exact absurd hallowed (by simp [lookups])
  rw [← readsRows_iff hs.sound hids]
  constructor
  · rintro ⟨p, t, hrun, -⟩
    have hclean := (hfetches.ok_of_run hrun).1.1
    exact ⟨hclean.answered, hclean.inRange⟩
  · rintro ⟨hanswers, hreads⟩
    rcases hrun : getAvatarById id s with ⟨e | found, t⟩
    · have hunclean := (hfetches.err_of_run hrun).1
      exact absurd ⟨hanswers, hreads⟩ hunclean
    · obtain ⟨-, -, -, hextended, p, rfl, hp⟩ := hfetches.ok_of_run hrun
      have hrequest : (AvatarRequest.byId id).run s = (.ok (some p), t) := hrun
      obtain ⟨ht, -, hfound⟩ := settled_run hs hknown (fun e he => absurd he (by simp)) hrequest
      obtain ⟨a, ha, rfl⟩ := (hfound p rfl).1
      obtain ⟨more, hcache, -⟩ := hextended.cache
      refine ⟨a.self, t, hrun, hp, hcache ▸ List.prefix_append _ _, hextended.db, fun j hj => ?_⟩
      apply ht.cachedOnce
      rw [← hextended.db] at hj
      exact ht.reachable_cached ⟨a, ha, congrArg UInt32.toNat hp⟩ hj

section Concrete

/-- Two avatars that have each other as friends; the first ignores itself. The second has `attributes`. -/
def Database.cycle (attributes : Nat) : Database := { Database.empty with
  avatar := [⟨1, 1, [0x41], [0x61], 0⟩, ⟨2, 1, [0x42], [0x61], attributes⟩]
  friend := [⟨1, 2, [0x68]⟩, ⟨2, 1, []⟩]
  ignore := [⟨1, 1⟩]
  nextAvatarId := 3 }

theorem Database.cycle_sound (attributes : Nat) : (Database.cycle attributes).Sound := by
  refine ⟨⟨?_, ?_⟩, ⟨?_, ?_⟩, ?_, ⟨?_, ?_⟩, ?_⟩ <;> simp [Database.cycle, Database.empty, Database.HasAvatar]

theorem graph_loaded_cycle : LoadsGraph (Server.start (.cycle 7) (fun _ => false) 2 {}) 1 := by
  apply ((graph_loaded_iff (Database.cycle_sound 7) .refl (by decide) (by decide)).2).mpr
  refine ⟨fun _ _ _ => rfl, fun row hrow _ => ?_⟩
  have hrows : ∀ row ∈ (Database.cycle 7).avatar, row.userId < 2 ^ 31 ∧ row.attributes < 2 ^ 31 := by decide
  exact hrows row hrow

/-- Attributes from 2^31 on cannot be read back. After two lookups of one avatar, by a name and by another
that is stored alike, the avatar is cached twice. -/
theorem graph_not_loaded :
    ¬ LoadsGraph (Server.start (.cycle (2 ^ 31)) (fun _ => false) 2 {}) 1 ∧
    ∃ s, (Server.start (.cycle 7) (fun _ => false) 2 {}).ServiceCalls (fun _ _ => True) s ∧ ¬ LoadsGraph s 1 := by
  constructor
  · rintro ⟨p, t, hrun, -⟩
    have hfails : (getAvatarById 1 (Server.start (.cycle (2 ^ 31)) (fun _ => false) 2 {})).1 =
        .error .outOfRange := by decide +kernel
    rw [hrun] at hfails
    exact absurd hfails (by simp)
  · have htwice : ∃ s, Runs Server.serviceCall (fun s c => c.Held s ∧ True)
        (Server.start (.cycle 7) (fun _ => false) 2 {}) s ∧
        ((getAvatarById 1 s).2.avatarCache.filter (·.self.avatarId.toNat = 1)).length = 2 :=
      Runs.exists_of_admitted [.get (.byName [0x41] [0x61]), .get (.byName [0x141] [0x61])] (by decide +kernel)
    obtain ⟨s, hcalls, htwo⟩ := htwice
    refine ⟨s, hcalls, ?_⟩
    rintro ⟨p, t, hrun, -, -, -, hloads⟩
    obtain ⟨a, hone, -⟩ := hloads 1 .refl
    rw [hrun, hone] at htwo
    exact absurd htwo (by simp)

end Concrete
end StationChat
