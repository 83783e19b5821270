import StationChat.Avatars.Contacts
import StationChat.Avatars.HalfLoaded
import StationChat.Gateway.Handling

/-! What a lookup leaves behind while the database works: more avatars in the cache, each with all its
contacts. -/
namespace StationChat
open Lib Lib.Action Lib.Contract

/-- After an exception that is caught the assertion holds. The others end the process. -/
def Recovers (I : Server → Prop) (e : Exn) (t : Server) : Prop := e.resultCode.isSome → I t

theorem recovers_of_none {I : Server → Prop} {e : Exn} (he : e.resultCode = none) (t : Server) : Recovers I e t := by
  intro hcode
  rw [he] at hcode
  exact absurd hcode (by simp)

/-- No statement fails by the schedule. -/
def Server.Works (s : Server) : Prop := ∀ k, s.fails k = false

/-- With a working database these computations throw nothing that is caught. -/
def untroubled : Contract Server Exn where
  inv := Server.Works
  step _ _ := True
  allowed e := e.resultCode = none
  refl _ := trivial
  trans _ _ := trivial

section Untroubled
variable {s : Server}

theorem untroubled_execute {α : Type} {statement : Statement α} (hs : s.Works)
    (hrun : (s.db.run statement).isSome) : untroubled.Holds (execute statement) s fun _ _ => True := by
  obtain ⟨⟨a, db⟩, hrun⟩ := Option.isSome_iff_exists.mp hrun
  exact Ends.of_run (execute_ok (hs s.executed) hrun) ⟨hs, trivial, trivial⟩

theorem untroubled_columnInt (hs : s.Works) (n : Nat) : untroubled.Holds (columnInt n) s fun _ _ => True :=
  holds_ite (fun _ => holds_pure hs trivial) fun _ => holds_throw hs rfl

theorem untroubled_writeAvatar (hs : s.Works) (p : AvatarPtr) (f : ChatAvatar → ChatAvatar) :
    untroubled.Holds (writeAvatar p f) s fun _ _ => True := by
  cases h : s.avatar? p with
  | some a => exact Ends.of_run (writeAvatar_run h f) ⟨hs, trivial, trivial⟩
  | none =>
    unfold Holds Ends
    rw [writeAvatar, bind_error (readAvatar_dangling h)]
    exact ⟨hs, trivial, rfl⟩

theorem untroubled_readAvatarRow (hs : s.Works) (rows : List AvatarRow) :
    untroubled.Holds (readAvatarRow rows) s fun _ _ => True := by
  cases rows with
  | nil => exact holds_pure hs trivial
  | cons row rest =>
    have hnew : untroubled.Holds newObject s fun _ _ => True :=
      holds_get_bind (holds_modify_bind hs trivial (holds_pure hs trivial))
    refine hnew.bind fun obj t ht _ _ => ?_
    refine (untroubled_columnInt ht _).bind fun id t ht _ _ => ?_
    refine (untroubled_columnInt ht _).bind fun userId t ht _ _ => ?_
    exact (untroubled_columnInt ht _).bind fun attributes t ht _ _ => holds_pure ht trivial

variable {getAvatar : UInt32 → Serve (Option AvatarPtr)}
  (hget : ∀ id t, t.Works → untroubled.Holds (getAvatar id) t fun _ _ => True)
include hget

theorem untroubled_loadContacts {ρ : Type} (key : ρ → Nat)
    (push : ρ → Option AvatarPtr → ChatAvatar → ChatAvatar) (p : AvatarPtr) (rows : List ρ) (hs : s.Works) :
    untroubled.Holds (loadContacts getAvatar key push p rows) s fun _ _ => True := by
  refine holds_forM rows hs fun row _ t ht _ => ?_
  refine (untroubled_columnInt ht _).bind fun id u hu _ _ => ?_
  exact (hget id u hu).bind fun contact v hv _ _ => untroubled_writeAvatar hv p _

theorem untroubled_adopt (hs : s.Works) (loaded : Option ChatAvatar) :
    untroubled.Holds (adopt getAvatar loaded) s fun _ _ => True := by
  cases loaded with
  | none => exact holds_pure hs trivial
  | some avatar =>
    have hcached : (s.cached avatar).Works := hs
    refine holds_modify_bind hs trivial ?_
    have hfriends : ∀ t : Server, t.Works →
        untroubled.Holds (loadFriendList getAvatar avatar.self) t fun _ _ => True := fun t ht =>
      (untroubled_execute ht rfl).bind fun rows u hu _ _ => untroubled_loadContacts hget _ _ _ rows hu
    have hignored : ∀ t : Server, t.Works →
        untroubled.Holds (loadIgnoreList getAvatar avatar.self) t fun _ _ => True := fun t ht =>
      (untroubled_execute ht rfl).bind fun rows u hu _ _ => untroubled_loadContacts hget _ _ _ rows hu
    refine Holds.bind (hfriends (s.cached avatar) hcached) fun _ t ht _ _ => ?_
    refine (hignored t ht).bind fun _ u hu _ _ => ?_
    exact holds_pure hu trivial

end Untroubled

section Lookups
variable {s t : Server}

theorem untroubled_getAvatarWithin (fuel : Nat) (avatarId : UInt32) (hs : s.Works) :
    untroubled.Holds (getAvatarWithin fuel avatarId) s fun _ _ => True := by
  induction fuel generalizing s avatarId with
  | zero => exact holds_throw hs rfl
  | succ fuel ih =>
    refine holds_get_bind ?_
    cases (s.avatarCache.find? (·.self.avatarId == avatarId)).map (·.self) with
    | some p => exact holds_pure hs trivial
    | none =>
      refine Holds.bind ((untroubled_execute hs rfl).bind fun rows t ht _ _ => untroubled_readAvatarRow ht rows) ?_
      exact fun loaded u hu _ _ => untroubled_adopt (fun id v hv => ih id hv) hu loaded

theorem untroubled_run (request : AvatarRequest) (hs : s.Works) :
    untroubled.Holds request.run s fun _ _ => True := by
  cases request with
  | byId avatarId => exact holds_get_bind (untroubled_getAvatarWithin _ avatarId hs)
  | byName name address =>
    refine holds_get_bind ?_
    cases (s.avatarCache.find? fun a => a.self.name == name && a.self.address == address).map (·.self) with
    | some p => exact holds_pure hs trivial
    | none =>
      refine Holds.bind ((untroubled_execute hs rfl).bind fun rows t ht _ _ => untroubled_readAvatarRow ht rows) ?_
      exact fun loaded u hu _ _ => untroubled_adopt (fun id v hv => holds_get_bind (untroubled_getAvatarWithin _ id hv)) hu loaded

/-- What a lookup needs: pointers that can be followed, and rows behind the cached avatars. -/
structure Ready (s : Server) : Prop where
  allocated : Allocated s.avatarCache s.objects
  referential : s.db.Referential
  stored : ∀ a ∈ s.avatarCache, s.db.HasAvatar a.self.avatarId.toNat

theorem Ready.loadable (h : Ready s) : Loadable s := ⟨h.allocated, h.referential⟩

theorem Ready.updateAvatar (h : Ready s) {p : AvatarPtr} {f : ChatAvatar → ChatAvatar}
    (hself : ∀ a, (f a).self = a.self) : Ready (s.updateAvatar p f) := by
  refine ⟨h.allocated.updateAvatar hself, h.referential, fun b hb => ?_⟩
  obtain ⟨a, ha, rfl⟩ := List.mem_map.mp hb
  split
  · rw [hself]
    exact h.stored a ha
  · exact h.stored a ha

theorem Ready.cached (h : Ready s) {row : AvatarRow} {obj : Nat} (hrow : row ∈ s.db.avatar) (hsmall : row.Small)
    (hobj : ∀ a ∈ s.avatarCache, a.self.obj < obj) (hlt : obj < s.objects) :
    Ready (s.cached (storedAvatar obj row)) := by
  refine ⟨h.allocated.cached hobj hlt, h.referential, fun a ha => ?_⟩
  rcases List.mem_append.mp ha with ha | ha
  · exact h.stored a ha
  · rw [List.mem_singleton.mp ha]
    exact ⟨row, hrow, (storedAvatar_avatarId obj hsmall).symm⟩

/-- Nobody but the avatars of `cache` is online. -/
structure Offline (cache : List ChatAvatar) (s : Server) : Prop where
  ready : Ready s
  online : ∀ a ∈ s.avatarCache, a.isOnline = true → Live cache a.self

theorem Offline.cached {cache : List ChatAvatar} (h : Offline cache s) {row : AvatarRow} {obj : Nat}
    (hrow : row ∈ s.db.avatar) (hsmall : row.Small) (hobj : ∀ a ∈ s.avatarCache, a.self.obj < obj)
    (hlt : obj < s.objects) : Offline cache (s.cached (storedAvatar obj row)) := by
  refine ⟨h.ready.cached hrow hsmall hobj hlt, fun a ha honline => ?_⟩
  rcases List.mem_append.mp ha with ha | ha
  · exact h.online a ha honline
  · rw [List.mem_singleton.mp ha] at honline
    exact absurd honline (by simp [storedAvatar])

theorem Offline.updateAvatar {cache : List ChatAvatar} (h : Offline cache s) {p : AvatarPtr}
    {f : ChatAvatar → ChatAvatar} (hself : ∀ a, (f a).self = a.self) (honline : ∀ a, (f a).isOnline = a.isOnline) :
    Offline cache (s.updateAvatar p f) := by
  refine ⟨h.ready.updateAvatar hself, fun b hb hb' => ?_⟩
  obtain ⟨a, ha, rfl⟩ := List.mem_map.mp hb
  by_cases hobj : (a.self.obj == p.obj) = true
  · rw [if_pos hobj] at hb' ⊢
    rw [hself]
    exact h.online a ha (honline a ▸ hb')
  · rw [if_neg hobj] at hb' ⊢
    exact h.online a ha hb'

theorem offline_loads (cache : List ChatAvatar) : Loads True (Offline cache) where
  allocated h := h.ready.allocated
  referential h := h.ready.referential
  small _ hnot := absurd trivial hnot
  bookkeeping _ _ _ h hle := ⟨⟨⟨fun a ha => Nat.lt_of_lt_of_le (h.ready.allocated.below a ha) hle,
    h.ready.allocated.distinct⟩, h.ready.referential, h.ready.stored⟩, h.online⟩
  cache h hrow hsmall _ hobj hlt := h.cached hrow hsmall hobj hlt
  friend _ h _ _ := h.updateAvatar (fun _ => rfl) fun _ => rfl
  ignored _ h _ _ := h.updateAvatar (fun _ => rfl) fun _ => rfl

/-- The pointer a lookup yields has the id that was asked for. -/
def AvatarRequest.Yields (p : AvatarPtr) : AvatarRequest → Prop
  | byId avatarId => p.avatarId = avatarId
  | byName _ _ => True

theorem offline_run (request : AvatarRequest) {cache : List ChatAvatar} (hs : Offline cache s) :
    (lookups True (Offline cache)).Holds request.run s fun found t =>
      ∀ p, found = some p → Live t.avatarCache p ∧ request.Yields p := by
  cases request with
  | byId avatarId =>
    refine ((offline_loads cache).getAvatarById avatarId hs).mono ?_
    rintro _ t _ _ hfound p rfl
    exact ⟨hfound.live, hfound.1⟩
  | byName name address =>
    refine ((offline_loads cache).getAvatar name address hs ?_).mono ?_
    · intro t row obj ht hgrown hsame hrow _ _ hsmall _ hobj hlt
      apply ht.cached _ hsmall (fun a ha => hobj a (hsame ▸ ha)) hlt
      rwa [hgrown.db]
    · rintro _ t _ _ hfound p rfl
      exact ⟨hfound.live, trivial⟩

/-- `t` is `s` after lookups that succeeded. -/
structure LookedUp (s t : Server) : Prop where
  grown : Grown s t
  ready : Ready t
  cache : ∃ more, t.avatarCache = s.avatarCache ++ more ∧ ∀ a ∈ more, Whole s.db a ∧ a.isOnline = false

theorem LookedUp.refl (hs : Ready s) : LookedUp s s := ⟨Grown.refl s, hs, [], by simp, by simp⟩

theorem LookedUp.trans {u : Server} (h : LookedUp s t) (h' : LookedUp t u) : LookedUp s u := by
  obtain ⟨more, hcache, hmore⟩ := h.cache
  obtain ⟨more', hcache', hmore'⟩ := h'.cache
  refine ⟨h.grown.trans h'.grown, h'.ready, more ++ more', ?_, fun a ha => ?_⟩
  · rw [hcache', hcache, List.append_assoc]
  · rcases List.mem_append.mp ha with ha | ha
    · exact hmore a ha
    · exact h.grown.db ▸ hmore' a ha

theorem LookedUp.works (h : LookedUp s t) (hs : s.Works) : t.Works := by
  have hfails : t.fails = s.fails := by rw [h.grown.rest]
  intro k
  rw [hfails]
  exact hs k

/-- With a working database a lookup succeeds, or it ends the process. -/
theorem run_ends (request : AvatarRequest) (hs : Ready s) (hworks : s.Works) :
    request.run.Ends s
      (fun found t => LookedUp s t ∧ ∀ p, found = some p → Live t.avatarCache p ∧ request.Yields p)
      (fun e _ => e.resultCode = none) := by
  have hoffline : Offline s.avatarCache s := ⟨hs, fun a ha _ => ⟨a, ha, rfl⟩⟩
  have hends := Ends.and (offline_run request hoffline) (untroubled_run request hworks)
  unfold Ends at hends ⊢
  rcases hrun : request.run s with ⟨e | found, t⟩ <;> rw [hrun] at hends
  · exact hends.2.2.2
  · obtain ⟨⟨ht, hgrown, hfound⟩, _⟩ := hends
    refine ⟨⟨hgrown, ht.ready, ?_⟩, hfound⟩
    cases hmissing : request.missing s with
    | none => exact ⟨[], by rw [(run_of_missing_none hmissing hrun).1, List.append_nil], by simp⟩
    | some row =>
      obtain ⟨more, hcache, hmore⟩ := ((costs_request hs.loadable hmissing).ok_of_run hrun).2.cache
      refine ⟨more, hcache, fun a ha => ⟨(hmore a ha).1, ?_⟩⟩
      by_contra honline
      obtain ⟨b, hb, hself⟩ := ht.online a (by simp [hcache, ha]) (by simpa using honline)
      have hbelow := hs.allocated.below b hb
      have hnew := (hmore a ha).2
      rw [hself] at hbelow
      omega

end Lookups
end StationChat
