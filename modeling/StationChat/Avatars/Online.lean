import StationChat.Avatars.Service
import StationChat.Gateway.Everyday

/-! The online list and the flags of the cached avatars, which say the same at every moment. -/
namespace StationChat
open Lib Lib.Action Lib.Contract Relation

/-- The online list names the cached avatars whose flag is set, each of them once. -/
structure Flagged (s : Server) : Prop where
  flagged : ∀ a ∈ s.avatarCache, a.isOnline = true ↔ a.self ∈ s.onlineAvatars
  once : s.onlineAvatars.Nodup
  cached : ∀ p ∈ s.onlineAvatars, Live s.avatarCache p

namespace Server

/-- An avatar comes online, perhaps not for the first time. -/
def loggedIn (s : Server) (p : AvatarPtr) : Server :=
  { s.updateAvatar p fun a => { a with isOnline := true } with
    onlineAvatars := if s.onlineAvatars.any (·.avatarId == p.avatarId) then s.onlineAvatars
      else s.onlineAvatars ++ [p] }

/-- An avatar goes offline. -/
def loggedOut (s : Server) (p : AvatarPtr) : Server :=
  { s.updateAvatar p fun a => { a with isOnline := false } with
    onlineAvatars := s.onlineAvatars.filter (·.avatarId != p.avatarId) }

end Server

variable {s t u : Server} {p q : AvatarPtr} {a : ChatAvatar} {id : UInt32}

section Running

theorem loginAvatar_run (h : s.avatar? p = some a) : loginAvatar p s = (.ok (), s.loggedIn p) := by
  rw [loginAvatar, bind_ok (writeAvatar_run h _), isOnline]
  simp only [bind_assoc, get_bind_run, pure_bind]
  unfold Server.loggedIn
  change (if s.onlineAvatars.any (·.avatarId == p.avatarId) then _ else _ : Serve Unit) _ = _
  split <;> rfl

theorem logoutAvatar_run (h : s.avatar? p = some a) :
    logoutAvatar (some p) s = (.ok (), if a.isOnline then s.loggedOut p else s) := by
  change (readAvatar p >>= _) s = _
  rw [bind_ok (readAvatar_run h)]
  cases honline : a.isOnline with
  | true =>
    simp only [if_true]
    rw [bind_ok (writeAvatar_run h _)]
    rfl
  | false => rfl

end Running

section Agreement

/-- Only one cached object has the id of an avatar. -/
theorem eq_of_avatarId (hunique : s.Unduplicated) (hp : Live s.avatarCache p) (hq : Live s.avatarCache q)
    (h : p.avatarId = q.avatarId) : p = q := by
  obtain ⟨a, ha, rfl⟩ := hp
  obtain ⟨b, hb, rfl⟩ := hq
  exact congrArg (·.self) (eq_of_same_id hunique ha hb h)

/-- The written objects of the cache are the one the pointer points to. -/
theorem updated_obj_iff (hallocated : Allocated s.avatarCache s.objects) (hp : Live s.avatarCache p)
    (ha : a ∈ s.avatarCache) : (a.self.obj == p.obj) = true ↔ a.self = p := by
  obtain ⟨b, hb, rfl⟩ := hp
  constructor
  · intro hobj
    exact congrArg (·.self) (hallocated.distinct a ha b hb (by simpa using hobj))
  · intro hself
    simp [hself]

namespace Flagged

theorem loggedIn (hs : Flagged s) (hallocated : Allocated s.avatarCache s.objects) (hunique : s.Unduplicated)
    (hp : Live s.avatarCache p) : Flagged (s.loggedIn p) := by
  have hknown : s.onlineAvatars.any (·.avatarId == p.avatarId) = true ↔ p ∈ s.onlineAvatars := by
    constructor
    · intro hany
      obtain ⟨q, hq, hid⟩ := List.any_eq_true.mp hany
      obtain rfl := eq_of_avatarId hunique (hs.cached q hq) hp (by simpa using hid)
      exact hq
    · exact fun hmem => List.any_eq_true.mpr ⟨p, hmem, by simp⟩
  have hmem : ∀ q, q ∈ (s.loggedIn p).onlineAvatars ↔ q ∈ s.onlineAvatars ∨ q = p := by
    intro q
    unfold Server.loggedIn
    dsimp only
    split <;> rename_i hany
    · constructor
      · exact .inl
      · rintro (hq | rfl)
        · exact hq
        · exact hknown.mp hany
    · rw [List.mem_append, List.mem_singleton]
  refine ⟨fun b hb => ?_, ?_, fun q hq => ?_⟩
  · obtain ⟨a, ha, rfl⟩ := List.mem_map.mp hb
    rw [hmem]
    by_cases hobj : (a.self.obj == p.obj) = true
    · rw [if_pos hobj]
      simp [(updated_obj_iff hallocated hp ha).mp hobj]
    · rw [if_neg hobj, hs.flagged a ha]
      have hne := mt (updated_obj_iff hallocated hp ha).mpr hobj
      exact ⟨.inl, fun h => h.resolve_right hne⟩
  · unfold Server.loggedIn
    dsimp only
    split <;> rename_i hany
    · exact hs.once
    · rw [List.nodup_append]
      refine ⟨hs.once, by simp, fun q hq q' hq' => ?_⟩
      rw [List.mem_singleton.mp hq']
      rintro rfl
      exact hany (hknown.mpr hq)
  · have hlive : Live s.avatarCache q := by
      rcases (hmem q).mp hq with hq | rfl
      · exact hs.cached q hq
      · exact hp
    have hself : ∀ a : ChatAvatar, ({ a with isOnline := true } : ChatAvatar).self = a.self := fun _ => rfl
    exact live_updateAvatar hself q hlive

theorem loggedOut (hs : Flagged s) (hallocated : Allocated s.avatarCache s.objects) (hunique : s.Unduplicated)
    (hp : Live s.avatarCache p) : Flagged (s.loggedOut p) := by
  have hmem : ∀ q, q ∈ (s.loggedOut p).onlineAvatars ↔ q ∈ s.onlineAvatars ∧ q ≠ p := by
    intro q
    rw [Server.loggedOut, List.mem_filter]
    refine and_congr_right fun hq => ?_
    have hid : q.avatarId = p.avatarId ↔ q = p :=
      ⟨eq_of_avatarId hunique (hs.cached q hq) hp, congrArg AvatarPtr.avatarId⟩
    simpa using not_congr hid
  refine ⟨fun b hb => ?_, hs.once.filter _, fun q hq => ?_⟩
  · obtain ⟨a, ha, rfl⟩ := List.mem_map.mp hb
    rw [hmem]
    by_cases hobj : (a.self.obj == p.obj) = true
    · rw [if_pos hobj]
      simp [(updated_obj_iff hallocated hp ha).mp hobj]
    · rw [if_neg hobj, hs.flagged a ha]
      have hne := mt (updated_obj_iff hallocated hp ha).mpr hobj
      exact ⟨fun h => ⟨h, hne⟩, And.left⟩
  · have hself : ∀ a : ChatAvatar, ({ a with isOnline := false } : ChatAvatar).self = a.self := fun _ => rfl
    exact live_updateAvatar hself q (hs.cached q ((hmem q).mp hq).1)

/-- Whoever is offline may leave the cache. -/
theorem removed (hs : Flagged s) (hoffline : ∀ q ∈ s.onlineAvatars, q.avatarId ≠ id)
    (hcache : t.avatarCache = s.avatarCache.filter (·.self.avatarId != id))
    (honline : t.onlineAvatars = s.onlineAvatars) : Flagged t := by
  refine ⟨fun a ha => ?_, honline ▸ hs.once, fun q hq => ?_⟩
  · rw [hcache] at ha
    rw [honline]
    exact hs.flagged a (List.mem_filter.mp ha).1
  · rw [honline] at hq
    obtain ⟨a, ha, rfl⟩ := hs.cached q hq
    exact ⟨a, hcache ▸ List.mem_filter.mpr ⟨ha, by simpa using hoffline _ hq⟩, rfl⟩

/-- An offline avatar with a new id enters the cache. -/
theorem entered (hs : Flagged s) {b : ChatAvatar} (hcache : t.avatarCache = s.avatarCache ++ [b])
    (honline : t.onlineAvatars = s.onlineAvatars) (hoffline : b.isOnline = false)
    (hnew : ∀ a ∈ s.avatarCache, a.self.avatarId ≠ b.self.avatarId) : Flagged t := by
  refine ⟨fun a ha => ?_, honline ▸ hs.once, fun q hq => ?_⟩
  · rw [honline]
    rcases List.mem_append.mp (hcache ▸ ha) with ha | ha
    · exact hs.flagged a ha
    · rw [List.mem_singleton.mp ha, hoffline]
      refine ⟨fun h => absurd h (by simp), fun hmem => ?_⟩
      obtain ⟨c, hc, hself⟩ := hs.cached _ hmem
      exact absurd (congrArg (·.avatarId) hself) (hnew c hc)
  · rw [honline] at hq
    exact (hs.cached q hq).mono (hcache ▸ List.prefix_append _ _)

/-- Whatever is written about avatars but their flags. -/
theorem rewritten (hs : Flagged s)
    (hcache : t.avatarCache.map (fun a => (a.self, a.isOnline)) = s.avatarCache.map fun a => (a.self, a.isOnline))
    (honline : t.onlineAvatars = s.onlineAvatars) : Flagged t := by
  have hback : ∀ b ∈ t.avatarCache, ∃ a ∈ s.avatarCache, (a.self, a.isOnline) = (b.self, b.isOnline) := by
    intro b hb
    exact List.mem_map.mp (hcache ▸ List.mem_map_of_mem hb)
  have hforth : ∀ a ∈ s.avatarCache, ∃ b ∈ t.avatarCache, (b.self, b.isOnline) = (a.self, a.isOnline) := by
    intro a ha
    exact List.mem_map.mp (hcache ▸ List.mem_map_of_mem ha)
  refine ⟨fun b hb => ?_, honline ▸ hs.once, fun q hq => ?_⟩
  · obtain ⟨a, ha, hsame⟩ := hback b hb
    obtain ⟨hself, hflag⟩ := Prod.mk.inj hsame
    rw [honline, ← hself, ← hflag]
    exact hs.flagged a ha
  · obtain ⟨a, ha, rfl⟩ := hs.cached q (honline ▸ hq)
    obtain ⟨b, hb, hsame⟩ := hforth a ha
    exact ⟨b, hb, (Prod.mk.inj hsame).1⟩

end Flagged

end Agreement

section Calls

/-- The calls about presence, on avatars obtained by creation or by id. The table gives a created avatar an
id that no cached one has. -/
def ServiceCall.Presence (s : Server) : ServiceCall → Prop
  | get (.byId _) | destroy _ => True
  | create .. => ∀ a ∈ s.avatarCache, a.self.avatarId ≠ UInt32.ofNat s.db.nextAvatarId
  | login avatar | logout avatar => Live s.avatarCache avatar
  | get (.byName ..) | persist _ | contact .. => False

instance (s : Server) : DecidablePred (ServiceCall.Presence s)
  | .get (.byId _) | .destroy _ => inferInstanceAs (Decidable True)
  | .create .. => inferInstanceAs (Decidable (∀ a ∈ s.avatarCache, _))
  | .login avatar | .logout avatar => inferInstanceAs (Decidable (Live s.avatarCache avatar))
  | .get (.byName ..) | .persist _ | .contact .. => inferInstanceAs (Decidable False)

/-- The call is made on this avatar. -/
def ServiceCall.names (avatarId : UInt32) : ServiceCall → Bool
  | login avatar | logout avatar | destroy avatar | persist avatar => avatarId == avatar.avatarId
  | contact _ self _ => avatarId == self.avatarId
  | get _ | create .. => false

/-- The invariant: besides, the cache has one object for each id. -/
structure Present (s : Server) : Prop extends Flagged s where
  allocated : Allocated s.avatarCache s.objects
  referential : s.db.Referential
  unduplicated : s.Unduplicated

namespace Present

theorem rewritten (hs : Present s)
    (hcache : t.avatarCache.map (fun a => (a.self, a.isOnline)) = s.avatarCache.map fun a => (a.self, a.isOnline))
    (honline : t.onlineAvatars = s.onlineAvatars) (hallocated : Allocated t.avatarCache t.objects)
    (hreferential : t.db.Referential) : Present t := by
  have hselves := congrArg (List.map Prod.fst) hcache
  rw [List.map_map, List.map_map] at hselves
  exact ⟨hs.toFlagged.rewritten hcache honline, hallocated, hreferential,
    unduplicated_of_selves_eq hselves hs.unduplicated⟩

theorem entered (hs : Present s) {b : ChatAvatar} (hcache : t.avatarCache = s.avatarCache ++ [b])
    (honline : t.onlineAvatars = s.onlineAvatars) (hoffline : b.isOnline = false)
    (hnew : ∀ a ∈ s.avatarCache, a.self.avatarId ≠ b.self.avatarId)
    (hallocated : Allocated t.avatarCache t.objects) (hreferential : t.db.Referential) : Present t :=
  ⟨hs.toFlagged.entered hcache honline hoffline hnew, hallocated, hreferential,
    hs.unduplicated.entered hcache hnew⟩

/-- Only the counters moved. -/
theorem counted (hs : Present s) {executed failures objects : Nat} (hle : s.objects ≤ objects) :
    Present { s with executed, failures, objects } :=
  hs.rewritten rfl rfl ⟨fun a ha => Nat.lt_of_lt_of_le (hs.allocated.below a ha) hle, hs.allocated.distinct⟩
    hs.referential

end Present

theorem present_loads : Loads True Present where
  allocated h := h.allocated
  referential h := h.referential
  small _ hnot := absurd trivial hnot
  bookkeeping _ _ _ h hle := h.counted hle
  cache {s row obj} h hrow hsmall hnew hobj hlt := by
    apply h.entered (t := s.cached (storedAvatar obj row)) rfl rfl rfl _ (h.allocated.cached hobj hlt) h.referential
    intro a ha heq
    exact hnew a ha (by rw [heq, storedAvatar_avatarId obj hsmall])
  friend _ h _ _ := h.rewritten (presence_updateAvatar (fun _ => rfl) fun _ => rfl) rfl
    (h.allocated.updateAvatar fun _ => rfl) h.referential
  ignored _ h _ _ := h.rewritten (presence_updateAvatar (fun _ => rfl) fun _ => rfl) rfl
    (h.allocated.updateAvatar fun _ => rfl) h.referential

namespace Present

theorem loggedIn (hs : Present s) (hp : Live s.avatarCache p) : Present (s.loggedIn p) := by
  have hself : ∀ a : ChatAvatar, ({ a with isOnline := true } : ChatAvatar).self = a.self := fun _ => rfl
  exact ⟨hs.toFlagged.loggedIn hs.allocated hs.unduplicated hp, hs.allocated.updateAvatar hself, hs.referential,
    unduplicated_of_selves_eq (selves_updateAvatar hself) hs.unduplicated⟩

theorem loggedOut (hs : Present s) (hp : Live s.avatarCache p) : Present (s.loggedOut p) := by
  have hself : ∀ a : ChatAvatar, ({ a with isOnline := false } : ChatAvatar).self = a.self := fun _ => rfl
  exact ⟨hs.toFlagged.loggedOut hs.allocated hs.unduplicated hp, hs.allocated.updateAvatar hself, hs.referential,
    unduplicated_of_selves_eq (selves_updateAvatar hself) hs.unduplicated⟩

/-- Whether logged out or offline before, nobody online has the id afterwards. -/
theorem logout (hs : Present s) (hp : Live s.avatarCache p) : ∃ t, logoutAvatar (some p) s = (.ok (), t) ∧
    Present t ∧ (∀ q ∈ t.onlineAvatars, q.avatarId ≠ p.avatarId) ∧
    t.onlineAvatars = s.onlineAvatars.filter (·.avatarId != p.avatarId) ∧
    t.avatarCache.map (·.self) = s.avatarCache.map (·.self) ∧ t.db = s.db := by
  obtain ⟨a, ha, hself, hobject⟩ := avatar?_of_live hs.allocated hp
  have hrun := logoutAvatar_run hobject
  cases honline : a.isOnline with
  | true =>
    rw [honline, if_pos rfl] at hrun
    refine ⟨_, hrun, hs.loggedOut hp, fun q hq => ?_, rfl, selves_updateAvatar fun _ => rfl, rfl⟩
    simpa using (List.mem_filter.mp hq).2
  | false =>
    rw [honline, if_neg (by simp)] at hrun
    have hoffline : ∀ q ∈ s.onlineAvatars, q.avatarId ≠ p.avatarId := by
      intro q hq hid
      obtain rfl := eq_of_avatarId hs.unduplicated (hs.cached q hq) hp hid
      rw [← hself, ← hs.flagged a ha, honline] at hq
      exact absurd hq (by simp)
    refine ⟨s, hrun, hs, hoffline, ?_, rfl, rfl⟩
    exact (List.filter_eq_self.mpr fun q hq => by simpa using hoffline q hq).symm

/-- The row, the flag and the cached object of an avatar go together, unless the first statement fails. -/
theorem destroy (hs : Present s) (hp : Live s.avatarCache p) {result : Except Exn Unit}
    (hrun : destroyAvatar p s = (result, t)) : Present t ∧
      (t.onlineAvatars = s.onlineAvatars ∧ t.avatarCache = s.avatarCache ∨
        t.onlineAvatars = s.onlineAvatars.filter (·.avatarId != p.avatarId) ∧
          t.avatarCache.map (·.self) = (s.avatarCache.map (·.self)).filter (·.avatarId != p.avatarId)) := by
  rw [destroyAvatar] at hrun
  rcases execute_cases (.deleteAvatar p.avatarId) s with ⟨-, hexec⟩ | ⟨_, db, ⟨-, hdelete⟩, hexec⟩
  · rw [bind_error hexec] at hrun
    obtain ⟨-, rfl⟩ := Prod.mk.inj hrun
    exact ⟨hs.rewritten rfl rfl hs.allocated hs.referential, .inl ⟨rfl, rfl⟩⟩
  · obtain ⟨db', hgone, heq⟩ := Option.map_eq_some_iff.mp hdelete
    obtain ⟨-, rfl⟩ := Prod.mk.inj heq
    have hdeleted : Present { s.attempt (.deleteAvatar p.avatarId) with db := db' } :=
      hs.rewritten rfl rfl hs.allocated (hs.referential.deleteAvatar hgone)
    obtain ⟨u, hlogout, hu, hoffline, honline, hselves, -⟩ := hdeleted.logout hp
    rw [bind_ok hexec, bind_ok hlogout] at hrun
    obtain ⟨-, rfl⟩ := Prod.mk.inj hrun
    refine ⟨⟨hu.toFlagged.removed hoffline rfl rfl, ⟨fun b hb => ?_, fun b hb c hc => ?_⟩, hu.referential, ?_⟩,
      .inr ⟨honline, ?_⟩⟩
    · exact hu.allocated.below b (List.mem_filter.mp hb).1
    · exact hu.allocated.distinct b (List.mem_filter.mp hb).1 c (List.mem_filter.mp hc).1
    · exact (List.filter_sublist.map _).nodup hu.unduplicated
    · have hfilter : (u.avatarCache.map (·.self)).filter (·.avatarId != p.avatarId) =
          (s.avatarCache.map (·.self)).filter (·.avatarId != p.avatarId) := congrArg _ hselves
      rw [← hfilter, List.filter_map]
      rfl

end Present

variable {c : ServiceCall}

/-- Everybody else who is online stays in place, and so does everybody else in the cache. -/
structure ServiceCall.Keeps (c : ServiceCall) (s t : Server) : Prop where
  online : t.onlineAvatars.filter (fun q => !c.names q.avatarId) = s.onlineAvatars.filter fun q => !c.names q.avatarId
  cache : (s.avatarCache.map (·.self)).filter (fun q => !c.names q.avatarId) <+:
    (t.avatarCache.map (·.self)).filter fun q => !c.names q.avatarId

theorem ServiceCall.Keeps.of_grown (honline : t.onlineAvatars = s.onlineAvatars)
    (hcache : s.avatarCache.map (·.self) <+: t.avatarCache.map (·.self)) : c.Keeps s t :=
  ⟨by rw [honline], hcache.filter _⟩

/-- One call. -/
theorem present_call (hs : Present s) (hheld : c.Held s) (hpresence : c.Presence s) {result : Except Exn Unit}
    (hrun : c.run s = (result, t)) : Present t ∧ c.Keeps s t := by
  cases c with
  | get request =>
    cases request with
    | byId avatarId =>
      have hends : (lookups True Present).Holds (AvatarRequest.byId avatarId).run s _ :=
        present_loads.getAvatarById avatarId hs
      have hrest : ∀ {u}, Grown s u → (ServiceCall.get (.byId avatarId)).Keeps s u := fun hgrown =>
        .of_grown (by rw [hgrown.rest]) (hgrown.cache.map _)
      rw [ServiceCall.run, bind_run] at hrun
      rcases hget : (AvatarRequest.byId avatarId).run s with ⟨e | found, u⟩ <;> rw [hget] at hrun <;>
        obtain ⟨-, rfl⟩ := Prod.mk.inj hrun
      · obtain ⟨hu, hgrown, -⟩ := hends.err_of_run hget
        exact ⟨hu, hrest hgrown⟩
      · obtain ⟨hu, hgrown, -⟩ := hends.ok_of_run hget
        exact ⟨hu, hrest hgrown⟩
    | byName name address => exact absurd hpresence id
  | create name address userId loginAttributes loginLocation =>
    rw [ServiceCall.run, bind_run] at hrun
    rcases createAvatar_cases name address userId loginAttributes loginLocation s with
      hcreate | ⟨id, db, -, hinsert, hcreate⟩
    · rw [hcreate] at hrun
      obtain ⟨-, rfl⟩ := Prod.mk.inj hrun
      exact ⟨hs.counted (Nat.le_succ _), .of_grown rfl List.prefix_rfl⟩
    · rw [hcreate] at hrun
      obtain ⟨-, rfl⟩ := Prod.mk.inj hrun
      have hreferential := hs.referential.insertAvatar hinsert
      obtain ⟨-, rfl, -⟩ := insertAvatar_eq_some hinsert
      have hcounted : Allocated s.avatarCache (s.objects + 1) :=
        ⟨fun a ha => Nat.lt_succ_of_lt (hs.allocated.below a ha), hs.allocated.distinct⟩
      refine ⟨hs.entered rfl rfl rfl hpresence ?_ hreferential, .of_grown rfl ((List.prefix_append _ _).map _)⟩
      exact hcounted.cached hs.allocated.below (Nat.lt_succ_self _)
  | login avatar =>
    obtain ⟨a, -, -, hobject⟩ := avatar?_of_live hs.allocated hpresence
    obtain ⟨-, rfl⟩ := Prod.mk.inj ((loginAvatar_run hobject).symm.trans hrun)
    have hselves : (s.loggedIn avatar).avatarCache.map (·.self) = s.avatarCache.map (·.self) :=
      selves_updateAvatar fun _ => rfl
    refine ⟨hs.loggedIn hpresence, ?_, hselves ▸ List.prefix_rfl⟩
    unfold Server.loggedIn
    dsimp only
    split
    · rfl
    · simp [List.filter_append, ServiceCall.names]
  | logout avatar =>
    obtain ⟨u, hlogout, hu, -, honline, hselves, -⟩ := hs.logout hpresence
    obtain ⟨-, rfl⟩ := Prod.mk.inj (hlogout.symm.trans hrun)
    refine ⟨hu, ?_, hselves ▸ List.prefix_rfl⟩
    rw [honline, List.filter_filter]
    apply List.filter_congr
    intro q _
    by_cases hid : q.avatarId = avatar.avatarId <;> simp [ServiceCall.names, hid]
  | destroy avatar =>
    obtain ⟨ht, hsame | ⟨honline, hselves⟩⟩ := hs.destroy hheld hrun
    · exact ⟨ht, .of_grown hsame.1 (hsame.2 ▸ List.prefix_rfl)⟩
    · have hfilter : ∀ l : List AvatarPtr, (l.filter (·.avatarId != avatar.avatarId)).filter
          (fun q => !(ServiceCall.destroy avatar).names q.avatarId) =
            l.filter fun q => !(ServiceCall.destroy avatar).names q.avatarId := by
        intro l
        rw [List.filter_filter]
        apply List.filter_congr
        intro q _
        by_cases hid : q.avatarId = avatar.avatarId <;> simp [ServiceCall.names, hid]
      refine ⟨ht, ?_, ?_⟩
      · rw [honline, hfilter]
      · rw [hselves, hfilter]
  | persist avatar => exact absurd hpresence id
  | contact operation self avatar => exact absurd hpresence id

theorem present_start {db : Database} (hdb : db.Referential) (fails : Nat → Bool) (version : UInt32)
    (config : Policy.Config) : Present (Server.start db fails version config) := by
  refine ⟨⟨?_, List.nodup_nil, ?_⟩, ⟨?_, ?_⟩, hdb, List.nodup_nil⟩
  all_goals simp [Server.start]

/-- In every run of such calls, failing statements included, the flag of a cached avatar is set exactly if the
online list names it, which names nobody twice and only what a lookup by id yields; a call moves nobody else. -/
theorem online_list_agrees {db : Database} {fails : Nat → Bool} {version : UInt32} {config : Policy.Config}
    (hdb : db.Referential)
    (h : (Server.start db fails version config).ServiceCalls (fun s c => c.Presence s) s) :
    (∀ a ∈ s.avatarCache, (a.isOnline = true ↔ a.self ∈ s.onlineAvatars) ∧
      (s.onlineAvatars.map (·.avatarId)).count a.self.avatarId ≤ 1) ∧
    (∀ p ∈ s.onlineAvatars, ∃ a, s.avatarCache.find? (·.self.avatarId == p.avatarId) = some a ∧ a.self = p) ∧
    ∀ c t, c.Held s → c.Presence s → s.serviceCall c = some t → c.Keeps s t := by
  have hs : Present s := by
    apply Runs.invariant h (present_start hdb fails version config)
    intro u c v hu hadmitted hstep
    obtain ⟨result, hrun⟩ := serviceCall_run hstep
    exact (present_call hu hadmitted.1 hadmitted.2 hrun).1
  have hids : (s.onlineAvatars.map (·.avatarId)).Nodup := by
    apply List.Nodup.map_on _ hs.once
    intro p hp q hq hid
    exact eq_of_avatarId hs.unduplicated (hs.cached p hp) (hs.cached q hq) hid
  refine ⟨fun a ha => ⟨hs.flagged a ha, List.nodup_iff_count_le_one.mp hids _⟩, fun p hp => ?_, ?_⟩
  · obtain ⟨a, ha, rfl⟩ := hs.cached p hp
    have hsome : (s.avatarCache.find? (·.self.avatarId == a.self.avatarId)).isSome :=
      List.find?_isSome.mpr ⟨a, ha, by simp⟩
    obtain ⟨b, hb⟩ := Option.isSome_iff_exists.mp hsome
    have hid : b.self.avatarId = a.self.avatarId := by simpa using List.find?_some hb
    exact ⟨b, hb, eq_of_avatarId hs.unduplicated ⟨b, List.mem_of_find?_eq_some hb, rfl⟩ ⟨a, ha, rfl⟩ hid⟩
  · intro c t hheld hpresence hstep
    obtain ⟨result, hrun⟩ := serviceCall_run hstep
    exact (present_call hs hheld hpresence hrun).2

/-- A creation fails, an avatar comes online twice, and another goes offline. -/
theorem online_list_agrees_twice : ∃ s, (Server.start .empty (· == 1) 2 {}).ServiceCalls (fun s c => c.Presence s) s ∧
    s.failures = 1 ∧ s.avatarCache.length = 2 ∧ (∃ p, s.onlineAvatars = [p]) ∧
    ∀ a ∈ s.avatarCache, a.isOnline = true ↔ a.self ∈ s.onlineAvatars := by
  let a : AvatarPtr := ⟨0, 1, [0x41], [0x61]⟩
  let b : AvatarPtr := ⟨2, 2, [0x42], [0x61]⟩
  obtain ⟨s, hcalls, hfailures, hlength, honline⟩ : ∃ s,
      (Server.start .empty (· == 1) 2 {}).ServiceCalls (fun s c => c.Presence s) s ∧
      s.failures = 1 ∧ s.avatarCache.length = 2 ∧ s.onlineAvatars = [a] :=
    Runs.exists_of_admitted [.create a.name a.address 7 0 [], .create b.name b.address 7 0 [],
      .create b.name b.address 7 0 [], .login b, .login a, .get (.byId 1), .login a, .logout b, .logout b]
      (by decide +kernel)
  have hagrees := online_list_agrees Database.referential_empty hcalls
  exact ⟨s, hcalls, hfailures, hlength, ⟨a, honline⟩, fun a ha => (hagrees.1 a ha).1⟩

end Calls
end StationChat
