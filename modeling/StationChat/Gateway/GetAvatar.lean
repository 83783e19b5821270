import StationChat.Gateway.Lookup

/-! `GetAvatar` keeps every assertion that single loads keep, for any contact graph. -/
namespace StationChat
open Lib Lib.Action Lib.Contract

variable {range : Prop} {I : Server → Prop} {s : Server}

section Primitives

/-- A statement that only reads. -/
theorem Loads.execute (hI : Loads range I) {α : Type} {statement : Statement α} {a : α} (hs : I s)
    (hrun : s.db.run statement = some (a, s.db)) (hkey : statement.roleKey = none) :
    (lookups range I).Holds (execute statement) s fun b t =>
      b = a ∧ t.avatarCache = s.avatarCache := by
  have hgrown : ∀ failures, Grown s { s with executed := s.executed + 1, failures } := fun _ =>
    Grown.of_counters (Nat.le_refl _)
  have hattempt := attempt_of_roleKey_none (s := s) hkey
  unfold Holds Ends StationChat.execute
  by_cases hf : s.fails s.executed = true
  · simp only [hf, if_true, hattempt]
    exact ⟨hI.bookkeeping _ _ _ hs (Nat.le_refl _), hgrown _, .inl rfl⟩
  · simp only [hf, hrun, hattempt]
    exact ⟨hI.bookkeeping _ s.failures _ hs (Nat.le_refl _), hgrown _, rfl, rfl⟩

theorem holds_columnInt (hs : I s) {n : Nat} (hn : ¬ range → n < 2 ^ 31) :
    (lookups range I).Holds (columnInt n) s fun a t => a.toNat = n ∧ n < 2 ^ 31 ∧ t = s := by
  unfold columnInt
  refine holds_ite (fun h => ?_) fun h => ?_
  · refine holds_pure hs ⟨?_, h, rfl⟩
    rw [UInt32.toNat_ofNat']
    omega
  · refine holds_throw hs (.inr ⟨rfl, ?_⟩)
    by_contra hr
    exact h (hn hr)

theorem Loads.newObject (hI : Loads range I) (hs : I s) :
    (lookups range I).Holds newObject s fun obj t =>
      obj = s.objects ∧ t = { s with objects := s.objects + 1 } := by
  refine holds_get_bind (holds_modify_bind ?_ ?_ ?_)
  · exact hI.bookkeeping s.executed s.failures _ hs (Nat.le_succ _)
  · exact Grown.of_counters (Nat.le_succ _)
  · exact holds_pure (hI.bookkeeping s.executed s.failures _ hs (Nat.le_succ _)) ⟨rfl, rfl⟩

/-- The object comes from the first row and has a number no cached object has. -/
def FirstRow (s : Server) (rows : List AvatarRow) : Option ChatAvatar → Server → Prop
  | none, t => rows = [] ∧ t = s
  | some avatar, t => ∃ row ∈ rows, row.Small ∧ t.avatarCache = s.avatarCache ∧
      ∃ obj, (∀ a ∈ s.avatarCache, a.self.obj < obj) ∧ obj < t.objects ∧
        avatar = storedAvatar obj row

theorem Loads.readAvatarRow (hI : Loads range I) (hs : I s) {rows : List AvatarRow}
    (hrows : ∀ row ∈ rows, row ∈ s.db.avatar) :
    (lookups range I).Holds (readAvatarRow rows) s (FirstRow s rows) := by
  cases rows with
  | nil => exact holds_pure hs ⟨rfl, rfl⟩
  | cons row rest =>
    have hsmall : ¬ range → row.Small := fun hr => hI.small hs hr row (hrows row List.mem_cons_self)
    refine (hI.newObject hs).bind fun obj t ht _ hobj => ?_
    obtain ⟨rfl, rfl⟩ := hobj
    refine (holds_columnInt ht fun hr => (hsmall hr).1).bind fun id t ht _ hid => ?_
    obtain ⟨hid, hid', rfl⟩ := hid
    refine (holds_columnInt ht fun hr => (hsmall hr).2.1).bind fun userId t ht _ huser => ?_
    obtain ⟨huser, huser', rfl⟩ := huser
    refine (holds_columnInt ht fun hr => (hsmall hr).2.2).bind fun attributes t ht _ hattr => ?_
    obtain ⟨hattr, hattr', rfl⟩ := hattr
    refine holds_pure ht ⟨row, List.mem_cons_self, ⟨hid', huser', hattr'⟩, rfl, s.objects,
      (hI.allocated hs).below, Nat.lt_succ_self _, ?_⟩
    simp only [storedAvatar, ← hid, ← huser, ← hattr, UInt32.ofNat_toNat]

end Primitives

/-- `t` is `s` with one more avatar behind its cache, and perhaps others behind that one. -/
structure Filling (s : Server) (ptr : AvatarPtr) (K : ChatAvatar → Prop) (t : Server) : Prop where
  rest : t = { s with
    executed := t.executed
    failures := t.failures
    objects := t.objects
    avatarCache := t.avatarCache }
  cache : ∃ a more, t.avatarCache = s.avatarCache ++ a :: more ∧ a.self = ptr ∧ K a
  objects : s.objects ≤ t.objects
  loaded : ∀ p, Live t.avatarCache p → Live s.avatarCache p ∨ Stored s.db p

namespace Filling
variable {ptr : AvatarPtr} {K : ChatAvatar → Prop} {t u : Server}

theorem grown (h : Filling s ptr K t) : Grown s t := by
  obtain ⟨a, more, hcache, _⟩ := h.cache
  exact ⟨h.rest, ⟨a :: more, hcache.symm⟩, h.objects, h.loaded⟩

theorem live (h : Filling s ptr K t) : Live t.avatarCache ptr := by
  obtain ⟨a, more, hcache, hself, _⟩ := h.cache
  exact ⟨a, by simp [hcache], hself⟩

theorem unloaded_le (h : Filling s ptr K t) {avatar : ChatAvatar} (hself : avatar.self = ptr) :
    t.unloaded ≤ (s.cached avatar).unloaded := by
  refine StationChat.unloaded_le h.grown.db fun a ha => ?_
  rcases List.mem_append.mp ha with ha | ha
  · exact ⟨a, h.grown.cache.subset ha, rfl⟩
  · obtain ⟨b, hb, hp⟩ := h.live
    rw [List.mem_singleton.mp ha, hself]
    exact ⟨b, hb, hp⟩

theorem after (h : Filling s ptr K t) (h' : Grown t u) : Filling s ptr K u := by
  obtain ⟨a, more, hcache, hself, hK⟩ := h.cache
  obtain ⟨more', hcache'⟩ := h'.cache
  have hgrown := h.grown.trans h'
  refine ⟨hgrown.rest, ⟨a, more ++ more', ?_, hself, hK⟩, hgrown.objects, hgrown.loaded⟩
  rw [← hcache', hcache, List.append_assoc, List.cons_append]

/-- Writing the new avatar leaves all the others alone. -/
theorem write (h : Filling s ptr K t) (hfresh : ∀ a ∈ s.avatarCache, a.self.obj ≠ ptr.obj)
    {f : ChatAvatar → ChatAvatar} {K' : ChatAvatar → Prop} (hself : ∀ a, (f a).self = a.self)
    (hK : ∀ a, K a → K' (f a)) : Filling s ptr K' (t.updateAvatar ptr f) := by
  obtain ⟨a, more, hcache, hp, ha⟩ := h.cache
  refine ⟨?_, ⟨f a, more.map fun b => if b.self.obj == ptr.obj then f b else b, ?_, ?_, hK a ha⟩,
    h.objects, fun p hlive => ?_⟩
  · rw [h.rest]
    rfl
  · have hold : s.avatarCache.map (fun b => if b.self.obj == ptr.obj then f b else b) =
        s.avatarCache := by
      refine (List.map_congr_left fun b hb => ?_).trans (List.map_id _)
      rw [if_neg (by simpa using hfresh b hb)]
      rfl
    simp only [Server.updateAvatar, hcache, List.map_append, List.map_cons, hold, hp,
      beq_self_eq_true, if_true]
  · rw [hself, hp]
  · obtain ⟨b, hb, rfl⟩ := hlive
    obtain ⟨c, hc, rfl⟩ := List.mem_map.mp hb
    refine h.loaded _ ⟨c, hc, ?_⟩
    split
    · exact (hself c).symm
    · rfl

end Filling

/-- The avatar's ignore list is empty if the table has no row for it. -/
def Unignoring (db : Database) (ptr : AvatarPtr) (a : ChatAvatar) : Prop :=
  (∀ row ∈ db.ignore, row.avatarId ≠ ptr.avatarId.toNat) → a.ignoreList = []

/-- `ptr` points to an avatar just loaded from `row`. -/
def Fetched (s : Server) (row : AvatarRow) (ptr : AvatarPtr) (t : Server) : Prop :=
  row.Small ∧ (∃ obj, ptr = (storedAvatar obj row).self) ∧ Filling s ptr (Unignoring s.db ptr) t

/-- What a lookup by id yields: an avatar that was cached, one that was loaded, or nothing because
neither the cache nor the table has one. -/
def Found (s : Server) (avatarId : UInt32) : Option AvatarPtr → Server → Prop
  | some p, t => p.avatarId = avatarId ∧
      ((∃ a, s.avatarCache.find? (·.self.avatarId == avatarId) = some a ∧ a.self = p ∧ t = s) ∨
        (∀ a ∈ s.avatarCache, a.self.avatarId ≠ avatarId) ∧
          ∃ row ∈ s.db.avatar, row.id = avatarId.toNat ∧ Fetched s row p t)
  | none, t => t.avatarCache = s.avatarCache ∧ (∀ a ∈ s.avatarCache, a.self.avatarId ≠ avatarId) ∧
      ∀ row ∈ s.db.avatar, row.id ≠ avatarId.toNat

theorem Found.live {avatarId : UInt32} {p : AvatarPtr} {t : Server}
    (h : Found s avatarId (some p) t) : Live t.avatarCache p := by
  rcases h.2 with ⟨a, ha, hp, rfl⟩ | ⟨_, row, _, _, _, _, hfill⟩
  · exact ⟨a, List.mem_of_find?_eq_some ha, hp⟩
  · exact hfill.live

/-- The same for a lookup by name and address. A loaded avatar has the widened text of its row. -/
def FoundNamed (s : Server) (name address : U16String) : Option AvatarPtr → Server → Prop
  | some p, t => (Live s.avatarCache p ∧ p.name = name ∧ p.address = address ∧ t = s) ∨
      (∀ a ∈ s.avatarCache, ¬ (a.self.name = name ∧ a.self.address = address)) ∧
        ∃ row ∈ s.db.avatar, row.name = fromWideString name ∧
          row.address = fromWideString address ∧ Fetched s row p t
  | none, t => t.avatarCache = s.avatarCache ∧
      (∀ a ∈ s.avatarCache, ¬ (a.self.name = name ∧ a.self.address = address)) ∧
      ∀ row ∈ s.db.avatar, ¬ (row.name = fromWideString name ∧ row.address = fromWideString address)

theorem FoundNamed.live {name address : U16String} {p : AvatarPtr} {t : Server}
    (h : FoundNamed s name address (some p) t) : Live t.avatarCache p := by
  rcases h with ⟨hp, _, _, rfl⟩ | ⟨_, row, _, _, _, _, _, hfill⟩
  · exact hp
  · exact hfill.live

section Loading
variable {getAvatar : UInt32 → Serve (Option AvatarPtr)} {ptr : AvatarPtr} {K : ChatAvatar → Prop}

/-- The loop that fills in one contact list. The invariant is `Filling`: everything cached before
stays, and the new avatar keeps `K`. -/
theorem Loads.loadContacts (hI : Loads range I) {ρ : Type} {key : ρ → Nat}
    {push : ρ → Option AvatarPtr → ChatAvatar → ChatAvatar} {rows : List ρ} {n : Nat} {t : Server}
    (hget : ∀ id u, I u → u.unloaded ≤ n → (lookups range I).Holds (getAvatar id) u (Found u id))
    (hpush : ∀ u p q row, I u → Live u.avatarCache p → Live u.avatarCache q →
      I (u.updateAvatar p (push row (some q))))
    (hself : ∀ row c a, (push row c a).self = a.self)
    (hK : ∀ row ∈ rows, ∀ q a, K a → K (push row (some q) a))
    (hfresh : ∀ a ∈ s.avatarCache, a.self.obj ≠ ptr.obj)
    (hrows : ∀ row ∈ rows, s.db.HasAvatar (key row))
    (hn : ∀ u, Filling s ptr K u → u.unloaded ≤ n) (ht : I t) (hfill : Filling s ptr K t) :
    (loadContacts getAvatar key push ptr rows).Ends t (fun _ u => I u ∧ Filling s ptr K u)
      (fun e u => I u ∧ Grown s u ∧ (lookups range I).allowed e) := by
  refine (ends_forM _ (fun rest u => (∀ row ∈ rest, row ∈ rows) ∧ I u ∧ Filling s ptr K u) ?_ rows
    ⟨fun _ h => h, ht, hfill⟩).mono (fun _ u h => h.2) (fun _ _ h => h)
  intro row rest u ⟨hsub, hu, hfill⟩
  have hrow : row ∈ rows := hsub row List.mem_cons_self
  obtain ⟨stored, hstored, hid⟩ := hrows row hrow
  have hstored' : stored ∈ u.db.avatar := by rwa [hfill.grown.db]
  have hint : ¬ range → key row < 2 ^ 31 := fun hr => hid ▸ (hI.small hu hr stored hstored').1
  rw [ends_bind]
  refine Ends.mono (holds_columnInt hu hint) ?_ fun e v hv => ⟨hv.1, hfill.grown.trans hv.2.1, hv.2.2⟩
  rintro id v ⟨_, _, hkey, _, rfl⟩
  rw [ends_bind]
  refine Ends.mono (hget id v hu (hn v hfill)) ?_ fun e w hw =>
    ⟨hw.1, hfill.grown.trans hw.2.1, hw.2.2⟩
  rintro contact w ⟨hw, hgrown, hfound⟩
  have hfill' := hfill.after hgrown
  cases contact with
  | none => exact absurd (hid.trans hkey.symm) (hfound.2.2 stored hstored')
  | some q =>
    refine Ends.of_run (writeAvatar_of_live (hI.allocated hw) hfill'.live _) ⟨?_, ?_, ?_⟩
    · exact fun r hr => hsub r (List.mem_cons_of_mem row hr)
    · exact hpush w ptr q row hw hfill'.live hfound.live
    · exact hfill'.write hfresh (hself row (some q)) fun a ha => hK row hrow q a ha

/-- What `adopt` yields for a loaded avatar: the pointer, with the avatar behind the old cache. -/
def Adopted (s : Server) (ptr : AvatarPtr) (K : ChatAvatar → Prop) (p : Option AvatarPtr)
    (t : Server) : Prop :=
  p = some ptr ∧ Filling s ptr K t

theorem Loads.adopt (hI : Loads range I) {avatar : ChatAvatar}
    (hget : ∀ id u, I u → u.unloaded ≤ (s.cached avatar).unloaded →
      (lookups range I).Holds (getAvatar id) u (Found u id))
    (hfresh : ∀ a ∈ s.avatarCache, a.self.obj ≠ avatar.self.obj) (hs : I (s.cached avatar))
    (hstored : Stored s.db avatar.self) (hK : K avatar)
    (hfriend : ∀ row ∈ s.db.friend, row.avatarId = avatar.self.avatarId.toNat →
      ∀ q a, K a → K (pushFriend row (some q) a))
    (hignored : ∀ row ∈ s.db.ignore, row.avatarId = avatar.self.avatarId.toNat →
      ∀ q a, K a → K (pushIgnored row (some q) a)) :
    (lookups range I).Holds (adopt getAvatar (some avatar)) s (Adopted s avatar.self K) := by
  have hfill : Filling s avatar.self K (s.cached avatar) :=
    ⟨rfl, ⟨avatar, [], rfl, rfl, hK⟩, Nat.le_refl _, fun p ⟨a, ha, hp⟩ => by
      rcases List.mem_append.mp ha with ha | ha
      · exact .inl ⟨a, ha, hp⟩
      · rw [← hp, List.mem_singleton.mp ha]
        exact .inr hstored⟩
  have hn : ∀ u, Filling s avatar.self K u → u.unloaded ≤ (s.cached avatar).unloaded :=
    fun u hu => hu.unloaded_le rfl
  have hfk : ∀ u, Filling s avatar.self K u → I u → u.db = s.db ∧ s.db.Referential := fun u hu hi =>
    ⟨hu.grown.db, hu.grown.db ▸ hI.referential hi⟩
  unfold Holds StationChat.adopt
  rw [ends_bind]
  change Ends (loadFriendList getAvatar avatar.self >>= _) (s.cached avatar) _ _
  rw [loadFriendList, bind_assoc, ends_bind]
  refine Ends.mono (hI.execute (a := s.db.friend.filter (·.avatarId = avatar.self.avatarId.toNat))
    hs rfl rfl) ?_ fun e v hv => ⟨hv.1, hfill.grown.trans hv.2.1, hv.2.2⟩
  rintro rows t ⟨ht, hgrown, rfl, -⟩
  have hfill := hfill.after hgrown
  have hdb := hfk t hfill ht
  rw [ends_bind]
  refine Ends.mono (hI.loadContacts hget (fun u p q row => hI.friend row) (fun _ _ _ => rfl) ?_ hfresh
    (fun row hrow => hdb.2.friend row (List.mem_filter.mp hrow).1) hn ht hfill) ?_ fun _ _ h => h
  · intro row hrow
    obtain ⟨hmem, hid⟩ := List.mem_filter.mp hrow
    exact hfriend row hmem (by simpa using hid)
  rintro _ u ⟨hu, hfill⟩
  have hdb := hfk u hfill hu
  rw [loadIgnoreList, bind_assoc, ends_bind]
  refine Ends.mono (hI.execute (a := u.db.ignore.filter (·.avatarId = avatar.self.avatarId.toNat))
    hu rfl rfl) ?_ fun e v hv => ⟨hv.1, hfill.grown.trans hv.2.1, hv.2.2⟩
  rintro rows t ⟨ht, hgrown, rfl, -⟩
  have hfill := hfill.after hgrown
  rw [hdb.1, ends_bind]
  refine Ends.mono (hI.loadContacts hget (fun u p q row => hI.ignored row) (fun _ _ _ => rfl) ?_ hfresh
    (fun row hrow => hdb.2.ignored row (List.mem_filter.mp hrow).1) hn ht hfill) ?_ fun _ _ h => h
  · intro row hrow
    obtain ⟨hmem, hid⟩ := List.mem_filter.mp hrow
    exact hignored row hmem (by simpa using hid)
  rintro _ v ⟨hv, hfill⟩
  exact ⟨hv, hfill.grown, rfl, hfill⟩

/-- The lists of an avatar just built from a row are filled in from the rows of the tables. -/
theorem Loads.adoptStored (hI : Loads range I) {t : Server} {row : AvatarRow} {obj : Nat}
    (hget : ∀ id u, I u → u.unloaded ≤ (t.cached (storedAvatar obj row)).unloaded →
      (lookups range I).Holds (getAvatar id) u (Found u id))
    (hst : Grown s t) (hsame : t.avatarCache = s.avatarCache)
    (hobj : ∀ a ∈ s.avatarCache, a.self.obj < obj) (hsmall : row.Small)
    (hrow : row ∈ s.db.avatar) (hs : I (t.cached (storedAvatar obj row))) :
    (lookups range I).Holds (StationChat.adopt getAvatar (some (storedAvatar obj row))) t fun p u =>
      ∃ ptr, p = some ptr ∧ Fetched s row ptr u := by
  have hfresh : ∀ a ∈ t.avatarCache, a.self.obj ≠ (storedAvatar obj row).self.obj := fun a ha =>
    Nat.ne_of_lt (hobj a (hsame ▸ ha))
  refine (hI.adopt (K := Unignoring t.db (storedAvatar obj row).self) hget hfresh hs
    ⟨row, hst.db ▸ hrow, hsmall, obj, rfl⟩ (fun _ => rfl) (fun _ _ _ _ _ h => h) ?_).mono ?_
  · intro r hr hid _ _ _ hnone
    exact absurd hid (hnone r hr)
  · rintro _ u _ _ ⟨rfl, hfill⟩
    rw [hst.db] at hfill
    obtain ⟨a, more, hcache, ha⟩ := hfill.cache
    have hgrown := hst.trans hfill.grown
    exact ⟨_, rfl, hsmall, ⟨obj, rfl⟩, hgrown.rest, ⟨a, more, hsame ▸ hcache, ha⟩, hgrown.objects,
      hgrown.loaded⟩

end Loading

private theorem getCachedAvatarById_run (avatarId : UInt32) :
    getCachedAvatarById avatarId s =
      (.ok ((s.avatarCache.find? (·.self.avatarId == avatarId)).map (·.self)), s) := rfl

/-- The recursion through the contact lists ends: `fuel` need only exceed the number of stored
avatars that are not cached, and each nested call has one less of them. -/
theorem Loads.getAvatarWithin (hI : Loads range I) (fuel : Nat) (avatarId : UInt32) (hs : I s)
    (hfuel : s.unloaded < fuel) :
    (lookups range I).Holds (getAvatarWithin fuel avatarId) s (Found s avatarId) := by
  induction fuel generalizing s avatarId with
  | zero => omega
  | succ fuel ih =>
    have hcached := getCachedAvatarById_run (s := s) avatarId
    rw [StationChat.getAvatarWithin]
    cases hfind : s.avatarCache.find? (·.self.avatarId == avatarId) with
    | some a =>
      rw [hfind] at hcached
      unfold Holds Ends
      rw [bind_ok hcached]
      have hid : a.self.avatarId = avatarId := by simpa using List.find?_some hfind
      exact ⟨hs, Grown.refl s, hid, .inl ⟨a, hfind, rfl, rfl⟩⟩
    | none =>
      rw [hfind] at hcached
      have hnew : ∀ a ∈ s.avatarCache, a.self.avatarId ≠ avatarId := by
        simpa using List.find?_eq_none.mp hfind
      unfold Holds Ends
      rw [bind_ok hcached]
      change (lookups range I).Holds (loadStoredAvatarById avatarId >>= _) s _
      rw [loadStoredAvatarById, bind_assoc]
      refine (hI.execute (a := s.db.avatar.filter (·.id = avatarId.toNat)) hs rfl rfl).bind ?_
      rintro rows t ht hst ⟨rfl, hsame⟩
      refine (hI.readAvatarRow ht fun row hrow => ?_).bind fun loaded u hu htu hfirst => ?_
      · rw [hst.db]
        exact (List.mem_filter.mp hrow).1
      have hsu := hst.trans htu
      cases loaded with
      | none =>
        obtain ⟨hrows, rfl⟩ := hfirst
        refine holds_pure hu ⟨hsame, hnew, fun row hrow hid => ?_⟩
        exact absurd (List.filter_eq_nil_iff.mp hrows row hrow) (by simpa using hid)
      | some avatar =>
        obtain ⟨row, hrow, hsmall, hsame', obj, hobj, hlt, rfl⟩ := hfirst
        obtain ⟨hmem, hid⟩ := List.mem_filter.mp hrow
        have hid : row.id = avatarId.toNat := by simpa using hid
        rw [hsame] at hobj hsame'
        have hnewId : ∀ a ∈ u.avatarCache, a.self.avatarId.toNat ≠ row.id := by
          intro a ha heq
          exact hnew a (hsame' ▸ ha) (UInt32.toNat_inj.mp (heq.trans hid))
        have hptr : (storedAvatar obj row).self.avatarId.toNat = row.id := by
          simp only [storedAvatar, UInt32.toNat_ofNat']
          have := hsmall.1
          omega
        have hmemu : row ∈ u.db.avatar := by rwa [hsu.db]
        have hcachedI := hI.cache hu hmemu hsmall hnewId (fun a ha => hobj a (hsame' ▸ ha)) hlt
        have hless := unloaded_cached_lt hmemu hptr hnewId
        have hle := hsu.unloaded_le
        refine (hI.adoptStored (s := s) (fun id v hv hn => ih id hv (by omega)) hsu hsame' hobj hsmall
          hmem hcachedI).mono ?_
        rintro _ v _ _ ⟨ptr, rfl, hfetched⟩
        obtain ⟨obj', rfl⟩ := hfetched.2.1
        exact ⟨UInt32.toNat_inj.mp (hptr.trans hid), .inr ⟨hnew, row, hmem, hid, hfetched⟩⟩

theorem Loads.getAvatarById (hI : Loads range I) (avatarId : UInt32) (hs : I s) :
    (lookups range I).Holds (getAvatarById avatarId) s (Found s avatarId) := by
  refine holds_get_bind (hI.getAvatarWithin _ avatarId hs ?_)
  exact Nat.lt_succ_of_le List.countP_le_length

private theorem getCachedAvatar_run (name address : U16String) :
    getCachedAvatar name address s = (.ok ((s.avatarCache.find? fun a =>
      a.self.name == name && a.self.address == address).map (·.self)), s) := rfl

/-- The lookup by name differs in one point: the loaded avatar is known to be new only by its name
and address, so that caching it keeps the assertion has to be assumed. -/
theorem Loads.getAvatar (hI : Loads range I) (name address : U16String) (hs : I s)
    (hcache : ∀ t row obj, I t → Grown s t → t.avatarCache = s.avatarCache → row ∈ s.db.avatar →
      row.name = fromWideString name → row.address = fromWideString address → row.Small →
      (∀ a ∈ s.avatarCache, ¬ (a.self.name = name ∧ a.self.address = address)) →
      (∀ a ∈ s.avatarCache, a.self.obj < obj) → obj < t.objects →
      I (t.cached (storedAvatar obj row))) :
    (lookups range I).Holds (getAvatar name address) s (FoundNamed s name address) := by
  have hcached := getCachedAvatar_run (s := s) name address
  unfold Holds Ends
  rw [StationChat.getAvatar]
  cases hfind : s.avatarCache.find? fun a => a.self.name == name && a.self.address == address with
  | some a =>
    rw [hfind] at hcached
    rw [bind_ok hcached]
    have hname : a.self.name = name ∧ a.self.address = address := by
      simpa using List.find?_some hfind
    exact ⟨hs, Grown.refl s, .inl ⟨⟨a, List.mem_of_find?_eq_some hfind, rfl⟩, hname.1, hname.2, rfl⟩⟩
  | none =>
    rw [hfind] at hcached
    have hnew : ∀ a ∈ s.avatarCache, ¬ (a.self.name = name ∧ a.self.address = address) := by
      simpa using List.find?_eq_none.mp hfind
    rw [bind_ok hcached]
    change (lookups range I).Holds (loadStoredAvatar name address >>= _) s _
    rw [loadStoredAvatar, bind_assoc]
    refine (hI.execute (a := s.db.avatar.filter fun row =>
      row.name = fromWideString name ∧ row.address = fromWideString address) hs rfl rfl).bind ?_
    rintro rows t ht hst ⟨rfl, hsame⟩
    refine (hI.readAvatarRow ht fun row hrow => ?_).bind fun loaded u hu htu hfirst => ?_
    · rw [hst.db]
      exact (List.mem_filter.mp hrow).1
    have hsu := hst.trans htu
    cases loaded with
    | none =>
      obtain ⟨hrows, rfl⟩ := hfirst
      refine holds_pure hu ⟨hsame, hnew, fun row hrow hname => ?_⟩
      exact absurd (List.filter_eq_nil_iff.mp hrows row hrow) (by simpa using hname)
    | some avatar =>
      obtain ⟨row, hrow, hsmall, hsame', obj, hobj, hlt, rfl⟩ := hfirst
      obtain ⟨hmem, hname⟩ := List.mem_filter.mp hrow
      have hname : row.name = fromWideString name ∧ row.address = fromWideString address := by
        simpa using hname
      rw [hsame] at hobj hsame'
      have hcachedI := hcache u row obj hu hsu hsame' hmem hname.1 hname.2 hsmall hnew hobj hlt
      refine (hI.adoptStored (s := s) (fun id v hv _ => hI.getAvatarById id hv) hsu hsame' hobj hsmall
        hmem hcachedI).mono ?_
      rintro _ v _ _ ⟨ptr, rfl, hfetched⟩
      exact .inr ⟨hnew, row, hmem, hname.1, hname.2, hfetched⟩

end StationChat
