import StationChat.Avatars.Graph
import StationChat.Gateway.AvatarRequest
import StationChat.Rooms.Calls

/-! When an avatar lookup that fails leaves an avatar without all its contacts in the cache. -/
namespace StationChat
open Lib Lib.Action Lib.Contract

/-- A lookup that ends with an exception leaves only avatars with all their contacts in the cache. -/
def NoHalfLoaded (s : Server) (request : AvatarRequest) : Prop :=
  ∀ e t, request.run s = (.error e, t) → ∀ a ∈ t.avatarCache, Whole t.db a

/-- The contacts of the row, and all they lead to, are loaded: the statements behind the first are
answered, but for the last if it has nothing to read, and every integer is in range. -/
def FillsIn (s : Server) (row : AvatarRow) : Prop :=
  (∀ k, s.executed < k →
    k < s.executed + 3 * (s.toLoadFrom row.id).ncard + (if s.db.ignoreRows row.id = [] then 2 else 3) →
    s.fails k = false) ∧
  (∀ id, s.db.Contact row.id id → id < 2 ^ 31) ∧ ∀ id ∈ s.toLoadFrom row.id, s.db.Readable id

/-- The lookup caches an avatar with contacts and then fails before it has them all. -/
def HalfLoads (s : Server) (request : AvatarRequest) : Prop :=
  ∃ row, request.missing s = some row ∧ row.Small ∧ s.fails s.executed = false ∧
    (∃ id, s.db.Contact row.id id) ∧ ¬ FillsIn s row

variable {s t : Server} {request : AvatarRequest} {row : AvatarRow}

section Halting
variable {ptr : AvatarPtr} {ρ : Type} {K : List ρ → ChatAvatar → Prop} {rows : List ρ}

theorem Halted.missing (h : Halted s ptr K rows t) (hrows : rows ≠ []) :
    ∃ front, front.length < rows.length ∧ ∃ a ∈ t.avatarCache, a.self = ptr ∧ K front a := by
  rcases h with ⟨ids, hids⟩ | ⟨front, row, rest, rfl, ha⟩
  · exact ⟨[], List.length_pos_iff.mpr hrows, hids.exists⟩
  · exact ⟨front, by simp, ha⟩

theorem Halted.nothing (h : Halted s ptr K [] t) : ∃ ids, Underway s ptr (K []) ids t := by
  rcases h with hids | ⟨front, row, rest, hnil, _⟩
  · exact hids
  · exact absurd hnil (by simp)

/-- The avatars that were loaded to the end are whole. -/
theorem whole_of_underway {ids : Set Nat} (h : Underway s ptr (Whole s.db) ids t)
    (hs : ∀ a ∈ s.avatarCache, Whole s.db a) : ∀ a ∈ t.avatarCache, Whole t.db a := by
  obtain ⟨a, more, hcache, _, ha, hmore⟩ := h.cache
  rw [h.db, hcache]
  intro b hb
  rcases List.mem_append.mp hb with hb | hb
  · exact hs b hb
  · rcases List.mem_cons.mp hb with rfl | hb
    · exact ha
    · exact (hmore b hb).1

end Halting

section Runs

/-- A lookup that finds nothing to load leaves the cache alone. -/
theorem run_of_missing_none (h : request.missing s = none) {result : Except Exn (Option AvatarPtr)}
    (hrun : request.run s = (result, t)) : t.avatarCache = s.avatarCache ∧ t.db = s.db := by
  cases hfind : s.avatarCache.find? request.matchesObject with
  | some a =>
    obtain ⟨_, rfl⟩ := Prod.mk.inj ((run_of_cached hfind).symm.trans hrun)
    exact ⟨rfl, rfl⟩
  | none =>
    have hrows : s.db.avatar.filter request.matchesRow = [] := by
      rw [AvatarRequest.missing, if_neg] at h
      · exact List.filter_eq_nil_iff.mpr (List.find?_eq_none.mp h)
      · simpa using List.find?_eq_none.mp hfind
    have hload := costs_loadStored (run_statement s.db) (roleKey_statement request)
    have hlookup : Costs ((execute request.statement >>= readAvatarRow) >>= adopt (request.nested s)) s
        (1 + 0) ((∀ row ∈ (s.db.avatar.filter request.matchesRow).head?, row.Small) ∧ True)
          (fun _ t => t.avatarCache = s.avatarCache ∧ t.db = s.db)
        (fun t => t.avatarCache = s.avatarCache ∧ t.db = s.db) := by
      refine hload.bind fun loaded u _ _ hu => ?_
      rcases hu with ⟨_, rfl, rfl⟩ | ⟨row, rest, hcons, _⟩
      · exact costs_pure ⟨rfl, rfl⟩
      · exact absurd (hrows.symm.trans hcons) (by simp)
    exact hlookup.either ((run_of_not_cached hfind).symm.trans hrun)

/-- A lookup that finds a row. -/
theorem costs_request (hs : Loadable s) (h : request.missing s = some row) :
    Costs request.run s (1 + (2 + 3 * (s.toLoadFrom row.id).ncard))
      (row.Small ∧ (∀ id, s.db.Contact row.id id → id < 2 ^ 31) ∧
        ∀ id ∈ s.toLoadFrom row.id, s.db.Readable id)
      (fun _ t => Extended s (insert row.id (s.toLoadFrom row.id)) t)
      (fun t => (¬ Clean s 1 row.Small ∧ t.avatarCache = s.avatarCache ∧ t.db = s.db) ∨
        Clean s 1 row.Small ∧ Unfilled s (s.rowRead.cached (storedAvatar s.objects row))
          (storedAvatar s.objects row).self row.id t) := by
  obtain ⟨hfind, hrow⟩ := missing_eq_some.mp h
  obtain ⟨rest, hrest⟩ : ∃ rest, s.db.avatar.filter request.matchesRow = row :: rest := by
    rw [← List.head?_filter] at hrow
    exact List.head?_eq_some_iff.mp hrow
  have hrun : s.db.run request.statement = some (row :: rest, s.db) := hrest ▸ run_statement s.db
  have hget : row.Small → ∀ id u, Loadable u →
      u.unloaded ≤ (s.rowRead.cached (storedAvatar s.objects row)).unloaded → u.db.HasAvatar id.toNat →
      Fetches (request.nested s) id u := by
    intro hsmall id u hu hle hst
    cases request with
    | byName name address => exact fetches_getAvatarById id hu hst
    | byId avatarId =>
      have hid : row.id = avatarId.toNat := by
        simpa [AvatarRequest.matchesRow] using List.find?_some hrow
      have hnew : ∀ a ∈ s.avatarCache, a.self.avatarId.toNat ≠ row.id := by
        intro a ha heq
        have hmatch : a.self.avatarId = avatarId := UInt32.toNat_inj.mp (heq.trans hid)
        exact List.find?_eq_none.mp hfind a ha (by simp [AvatarRequest.matchesObject, hmatch])
      have hless := unloaded_cached_lt (s := s.rowRead) (List.mem_of_find?_eq_some hrow)
        (storedAvatar_avatarId s.objects hsmall) hnew
      have hlength : s.unloaded ≤ s.db.avatar.length := List.countP_le_length
      have hsame : s.rowRead.unloaded = s.unloaded := rfl
      exact fetches_getAvatarWithin id hu hst (by omega)
  have hload := costs_loadAvatar hs hrun (roleKey_statement request) hget
  refine (hload.of_eq (run_of_not_cached hfind) rfl rfl).mono rfl Iff.rfl ?_ fun _ h => h
  rintro _ t ⟨hsmall, _, hunder⟩
  have hext := hunder.extended (Nat.le_refl _)
  rwa [storedAvatar_avatarId s.objects hsmall] at hext

end Runs

section Conditions
variable {avatar : ChatAvatar}

private theorem toLoadFrom_eq (hid : avatar.self.avatarId.toNat = row.id) : s.toLoadFrom row.id =
    (s.rowRead.cached avatar).toLoad (s.db.friendIds row.id) ∪
      (s.rowRead.cached avatar).toLoadAfter (s.db.friendIds row.id) (s.db.ignoredIds row.id) := by
  rw [← toLoad_union, ← hid]
  exact (toLoad_cached s.rowRead avatar).symm

/-- The friends are loaded first, so that all is well with them if it is with both lists. -/
theorem friendsClean_of_fillsIn (hid : avatar.self.avatarId.toNat = row.id) (h : FillsIn s row) :
    FriendsClean (s.rowRead.cached avatar) row.id := by
  obtain ⟨hanswers, hcontacts, hreadable⟩ := h
  have hsub : (s.rowRead.cached avatar).toLoad (s.db.friendIds row.id) ⊆ s.toLoadFrom row.id := by
    rw [toLoadFrom_eq hid]
    exact Set.subset_union_left
  have hcount := Set.ncard_le_ncard hsub (s.db.finite_reached _
    ((s.db.finite_friendIds row.id).union (s.db.finite_ignoredIds row.id)))
  refine ⟨fun k hk hlt => hanswers k hk ?_, (forall_contact.mp hcontacts).1, fun id hid => hreadable id (hsub hid)⟩
  have hlt' : k < s.executed + 1 + (1 + 3 * ((s.rowRead.cached avatar).toLoad (s.db.friendIds row.id)).ncard) :=
    hlt
  split <;> omega

/-- An avatar that ignores nobody has only friends to load. -/
theorem fillsIn_of_friendsClean (hid : avatar.self.avatarId.toNat = row.id)
    (hnone : s.db.ignoreRows row.id = []) (h : FriendsClean (s.rowRead.cached avatar) row.id) :
    FillsIn s row := by
  have hall : s.toLoadFrom row.id = (s.rowRead.cached avatar).toLoad (s.db.friendIds row.id) := by
    rw [toLoadFrom_eq hid, Database.ignoredIds, hnone, named_nil, Server.toLoadAfter, reached_empty,
      Set.union_empty]
  rw [FillsIn, hall, if_pos hnone]
  refine ⟨fun k hk hlt => h.answered k hk ?_, forall_contact.mpr ⟨h.inRange.1, by simp [hnone]⟩, h.inRange.2⟩
  change k < s.executed + 1 + (1 + 3 * ((s.rowRead.cached avatar).toLoad (s.db.friendIds row.id)).ncard)
  omega

/-- The lookup does not fail if its first statement is answered and both lists are filled in. -/
theorem clean_of_fillsIn (hsmall : row.Small) (hanswers : s.fails s.executed = false)
    (hsome : s.db.ignoreRows row.id ≠ []) (h : FillsIn s row) :
    Clean s (1 + (2 + 3 * (s.toLoadFrom row.id).ncard)) (row.Small ∧
      (∀ id, s.db.Contact row.id id → id < 2 ^ 31) ∧ ∀ id ∈ s.toLoadFrom row.id, s.db.Readable id) := by
  refine ⟨fun k hk hlt => ?_, hsmall, h.2⟩
  rcases Nat.lt_or_eq_of_le hk with hk | rfl
  · refine h.1 k hk ?_
    rw [if_neg hsome]
    omega
  · exact hanswers

theorem fillsIn_of_clean (h : Clean s (1 + (2 + 3 * (s.toLoadFrom row.id).ncard)) (row.Small ∧
    (∀ id, s.db.Contact row.id id → id < 2 ^ 31) ∧ ∀ id ∈ s.toLoadFrom row.id, s.db.Readable id)) :
    FillsIn s row := by
  refine ⟨fun k hk hlt => h.answered k (Nat.le_of_lt hk) ?_, h.inRange.2⟩
  split at hlt <;> omega

/-- Lists that were not filled in differ from the tables. -/
theorem not_whole_of_unfilled (hid : avatar.self.avatarId.toNat = row.id)
    (hcontact : ∃ id, s.db.Contact row.id id) (hnot : ¬ FillsIn s row)
    (h : Unfilled s (s.rowRead.cached avatar) avatar.self row.id t) :
    ∃ a ∈ t.avatarCache, ¬ Whole s.db a := by
  have hrow : ∀ {a : ChatAvatar}, a.self = avatar.self → a.self.avatarId.toNat = row.id := fun hself =>
    hself ▸ hid
  rcases h with ⟨_, hhalted⟩ | ⟨hclean, hhalted⟩
  · by_cases hfriends : s.db.friendRows row.id = []
    · rw [hfriends] at hhalted
      obtain ⟨_, hids⟩ := hhalted.nothing
      obtain ⟨a, ha, hself, hK⟩ := hids.exists
      obtain ⟨id, ⟨r, hr, _⟩ | ⟨r, hr, _⟩⟩ := hcontact
      · exact absurd (hfriends ▸ hr) List.not_mem_nil
      · refine ⟨a, ha, fun hwhole => ?_⟩
        have hnil := hK.2.symm.trans hwhole.ignoreList
        rw [hrow hself] at hnil
        exact absurd (List.map_eq_nil_iff.mp hnil.symm) (List.ne_nil_of_mem hr)
    · obtain ⟨front, hlt, a, ha, hself, hK⟩ := hhalted.missing hfriends
      refine ⟨a, ha, fun hwhole => ?_⟩
      have hlength := congrArg List.length (hK.1.symm.trans hwhole.friendList)
      rw [hrow hself, List.length_map, List.length_map] at hlength
      omega
  · by_cases hignored : s.db.ignoreRows row.id = []
    · exact absurd (fillsIn_of_friendsClean hid hignored hclean) hnot
    · obtain ⟨front, hlt, a, ha, hself, hK⟩ := hhalted.missing hignored
      refine ⟨a, ha, fun hwhole => ?_⟩
      have hlength := congrArg List.length (hK.2.symm.trans hwhole.ignoreList)
      rw [hrow hself, List.length_map, List.length_map] at hlength
      omega

/-- What was filled in before a failure that left nothing out is whole. -/
theorem whole_of_unfilled (hid : avatar.self.avatarId.toNat = row.id)
    (hs : ∀ a ∈ s.avatarCache, Whole s.db a)
    (hquiet : (∃ id, s.db.Contact row.id id) → FillsIn s row ∧ s.db.ignoreRows row.id = [])
    (h : Unfilled s (s.rowRead.cached avatar) avatar.self row.id t) :
    ∀ a ∈ t.avatarCache, Whole t.db a := by
  have hfull : ∀ {ids}, Underway s avatar.self (Shunning (s.db.friendRows row.id) []) ids t →
      s.db.ignoreRows row.id = [] → ∀ a ∈ t.avatarCache, Whole t.db a := by
    intro ids hids hignored
    refine whole_of_underway (hids.mono fun a hself hK => ⟨?_, ?_⟩) hs
    · rw [hself, hid]
      exact hK.1
    · rw [hself, hid, hignored]
      exact hK.2
  by_cases hcontact : ∃ id, s.db.Contact row.id id
  · obtain ⟨hfills, hignored⟩ := hquiet hcontact
    rcases h with ⟨hclean, _⟩ | ⟨_, hhalted⟩
    · exact absurd (friendsClean_of_fillsIn hid hfills) hclean
    · rw [hignored] at hhalted
      obtain ⟨_, hids⟩ := hhalted.nothing
      exact hfull hids hignored
  · have hfriends : s.db.friendRows row.id = [] := List.eq_nil_iff_forall_not_mem.mpr fun r hr =>
      hcontact ⟨r.friendAvatarId, .inl ⟨r, hr, rfl⟩⟩
    have hignored : s.db.ignoreRows row.id = [] := List.eq_nil_iff_forall_not_mem.mpr fun r hr =>
      hcontact ⟨r.ignoreAvatarId, .inr ⟨r, hr, rfl⟩⟩
    rw [Unfilled, hfriends, hignored] at h
    rw [hfriends] at hfull
    rcases h with ⟨_, hhalted⟩ | ⟨_, hhalted⟩
    · obtain ⟨_, hids⟩ := hhalted.nothing
      exact hfull (hids.mono fun _ _ hK => hK) hignored
    · obtain ⟨_, hids⟩ := hhalted.nothing
      exact hfull hids hignored

end Conditions

/-- Lookups only let the server grow. -/
theorem grown_of_run (hs : Loadable s) {result : Except Exn (Option AvatarPtr)}
    (hrun : request.run s = (result, t)) : Grown s t := by
  have hends : request.run.Ends s (fun _ t => Grown s t) fun _ t => Grown s t := by
    cases request with
    | byName name address =>
      have hget : (lookups True Loadable).Holds (getAvatar name address) s (FoundNamed s name address) := by
        refine loadable_loads.getAvatar name address hs ?_
        intro u row obj hu _ hsame _ _ _ _ _ hobj hlt
        exact ⟨hu.allocated.cached (fun a ha => hobj a (hsame ▸ ha)) hlt, hu.referential⟩
      exact Ends.mono hget (fun _ _ h => h.2.1) fun _ _ h => h.2.1
    | byId avatarId =>
      exact Ends.mono (loadable_loads.getAvatarById avatarId hs) (fun _ _ h => h.2.1) fun _ _ h => h.2.1
  cases result with
  | ok contact => exact hends.ok_of_run hrun
  | error e => exact hends.err_of_run hrun

/-- A failed lookup leaves a half-loaded avatar exactly if it cached an avatar with contacts and then a
statement failed that had rows to read, or an integer was out of range. -/
theorem no_half_loaded_iff (hs : Loadable s) (hwhole : ∀ a ∈ s.avatarCache, Whole s.db a) :
    NoHalfLoaded s request ↔ ¬ HalfLoads s request := by
  constructor
  · rintro hno ⟨row, hmissing, hsmall, hanswers, hcontact, hnot⟩
    have hcosts := costs_request hs hmissing
    have hid := storedAvatar_avatarId s.objects hsmall
    rcases hrun : request.run s with ⟨e | contact, t⟩
    · obtain ⟨_, ⟨hfirst, _⟩ | ⟨_, hunfilled⟩⟩ := hcosts.err_of_run hrun
      · refine absurd ⟨fun k hk hlt => ?_, hsmall⟩ hfirst
        obtain rfl : k = s.executed := by omega
        exact hanswers
      · obtain ⟨a, ha, hpartial⟩ := not_whole_of_unfilled hid hcontact hnot hunfilled
        have hdb := (grown_of_run hs hrun).db
        exact hpartial (hdb ▸ hno e t hrun a ha)
    · obtain ⟨⟨hclean, _⟩, _⟩ := hcosts.ok_of_run hrun
      exact hnot (fillsIn_of_clean hclean)
  · intro hnot e t hrun
    cases hmissing : request.missing s with
    | none =>
      obtain ⟨hcache, hdb⟩ := run_of_missing_none hmissing hrun
      rw [hcache, hdb]
      exact hwhole
    | some row =>
      obtain ⟨hclean, ⟨_, hcache, hdb⟩ | ⟨hfirst, hunfilled⟩⟩ := (costs_request hs hmissing).err_of_run hrun
      · rw [hcache, hdb]
        exact hwhole
      · have hsmall : row.Small := hfirst.inRange
        have hanswers := hfirst.answered s.executed (Nat.le_refl _) (by omega)
        refine whole_of_unfilled (storedAvatar_avatarId s.objects hsmall) hwhole (fun hcontact => ?_) hunfilled
        have hfills : FillsIn s row := by
          by_contra hfills
          exact hnot ⟨row, hmissing, hsmall, hanswers, hcontact, hfills⟩
        refine ⟨hfills, ?_⟩
        by_contra hignored
        exact hclean (clean_of_fillsIn hsmall hanswers hignored hfills)

/-- With a working database and integers in range, nothing is left out. -/
theorem fillsIn_of_inRange (hanswers : ∀ k, s.fails k = false) (havatar : ∀ row ∈ s.db.avatar, row.Small)
    (hfriend : ∀ row ∈ s.db.friend, row.friendAvatarId < 2 ^ 31)
    (hignored : ∀ row ∈ s.db.ignore, row.ignoreAvatarId < 2 ^ 31) : FillsIn s row := by
  have hcontacts : ∀ i j, s.db.Contact i j → j < 2 ^ 31 := fun i => forall_contact.mpr
    ⟨fun r hr => hfriend r (List.mem_filter.mp hr).1, fun r hr => hignored r (List.mem_filter.mp hr).1⟩
  refine ⟨fun k _ _ => hanswers k, hcontacts row.id, fun id _ => ⟨fun r hr => ?_, hcontacts id⟩⟩
  exact havatar r (List.mem_of_find?_eq_some hr)

/-- A server that has just started; its first stored avatar ignores the second. -/
def Server.oneShunned (fails : Nat → Bool) : Server :=
  Server.start { Database.twoAvatars with ignore := [⟨1, 2⟩] } fails 2 {}

/-- All statements are answered. -/
theorem shunned_loaded : NoHalfLoaded (Server.oneShunned fun _ => false) (.byId 1) := by
  have hempty : ∀ a ∈ (Server.oneShunned fun _ => false).avatarCache, False := fun _ h => by cases h
  refine (no_half_loaded_iff ⟨⟨fun a ha => (hempty a ha).elim, fun a ha => (hempty a ha).elim⟩,
    by decide, by decide⟩ fun a ha => (hempty a ha).elim).mpr ?_
  rintro ⟨row, _, _, _, _, hnot⟩
  exact hnot (fillsIn_of_inRange (fun _ => rfl) (by decide) (by decide) (by decide))

/-- The ignore list is not read, and the avatar stays in the cache without it. -/
theorem shunned_half_loaded : ¬ NoHalfLoaded (Server.oneShunned (· == 2)) (.byId 1) := by
  have hrun : (AvatarRequest.run (.byId 1) (Server.oneShunned (· == 2))).1 = .error .database := by
    decide +kernel
  have hpartial : ∃ a ∈ (AvatarRequest.run (.byId 1) (Server.oneShunned (· == 2))).2.avatarCache,
      ¬ Whole (AvatarRequest.run (.byId 1) (Server.oneShunned (· == 2))).2.db a := by decide +kernel
  obtain ⟨a, ha, hpartial⟩ := hpartial
  exact fun hno => hpartial (hno _ (AvatarRequest.run (.byId 1) (Server.oneShunned (· == 2))).2
    (Prod.ext hrun rfl) a ha)

end StationChat
