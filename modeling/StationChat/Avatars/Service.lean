import StationChat.Avatars.ContactCalls
import StationChat.Avatars.Destroyed

/-! The calls of the avatar service. Whatever their order, the cache stays a copy of the tables. -/
namespace StationChat
open Lib Lib.Action Lib.Contract

instance (cache : List ChatAvatar) (p : AvatarPtr) : Decidable (Live cache p) :=
  inferInstanceAs (Decidable (∃ a ∈ cache, a.self = p))

inductive ServiceCall where
  | get (request : AvatarRequest)
  | create (name address : U16String) (userId loginAttributes : UInt32) (loginLocation : U16String)
  | login (avatar : AvatarPtr)
  | logout (avatar : AvatarPtr)
  | persist (avatar : AvatarPtr)
  | destroy (avatar : AvatarPtr)
  | contact (operation : ContactOperation) (self avatar : AvatarPtr)

namespace ServiceCall

def run : ServiceCall → Serve Unit
  | get request => do
    let _ ← request.run
    pure ()
  | create name address userId loginAttributes loginLocation => do
    let _ ← createAvatar name address userId loginAttributes loginLocation
    pure ()
  | login avatar => loginAvatar avatar
  | logout avatar => logoutAvatar (some avatar)
  | persist avatar => persistAvatar avatar
  | destroy avatar => destroyAvatar avatar
  | contact operation self avatar => operation.run self (some avatar)

/-- The pointers of the call come from the cache. -/
def Held (s : Server) : ServiceCall → Prop
  | destroy avatar => Live s.avatarCache avatar
  | contact _ self avatar => Live s.avatarCache self ∧ Live s.avatarCache avatar
  | get _ | create .. | login _ | logout _ | persist _ => True

instance (s : Server) : DecidablePred (Held s)
  | destroy avatar => inferInstanceAs (Decidable (Live s.avatarCache avatar))
  | contact _ self avatar => inferInstanceAs (Decidable (Live s.avatarCache self ∧ Live s.avatarCache avatar))
  | get _ | create .. | login _ | logout _ | persist _ => inferInstanceAs (Decidable True)

/-- What keeps the call from parting the cache and the tables. -/
def Sane (s : Server) : ServiceCall → Prop
  | get request => s.Recognised request ∧ ¬ HalfLoads s request
  | create name address _ _ _ => s.db.nextAvatarId < 2 ^ 32 ∨ s.fails s.executed = true ∨
      ∃ row ∈ s.db.avatar, row.name = fromWideString name ∧ row.address = fromWideString address
  | login _ | logout _ | persist _ => True
  | destroy avatar => ∀ b ∈ s.avatarCache, b.self.avatarId ≠ avatar.avatarId →
      b.hasFriend avatar.avatarId = false ∧ b.ignores avatar.avatarId = false
  | contact operation _ _ => operation.Storable ∧
      ∀ k, s.executed ≤ k → k < s.executed + 2 → s.fails k = false

end ServiceCall

namespace Server

/-- One call. A call that ends with an exception may be followed by another. -/
def serviceCall (s : Server) (c : ServiceCall) : Option Server :=
  match c.run s with
  | (.ok _, t) => some t
  | (.error e, t) => if e.isException then some t else none

/-- Runs of calls on avatars of the cache, each admitted where it is made. -/
def ServiceCalls (admitted : Server → ServiceCall → Prop) : Server → Server → Prop :=
  Runs serviceCall fun s c => c.Held s ∧ admitted s c

end Server

variable {s t u : Server} {c : ServiceCall} {p : AvatarPtr} {db db' : Database}

theorem serviceCall_run (h : s.serviceCall c = some t) : ∃ result, c.run s = (result, t) := by
  unfold Server.serviceCall at h
  split at h <;> rename_i hrun
  · exact ⟨_, Option.some.inj h ▸ hrun⟩
  · split at h
    · exact ⟨_, Option.some.inj h ▸ hrun⟩
    · exact absurd h (by simp)

section Tables

theorem deleteAvatar_eq_some {id : Nat} (h : db.deleteAvatar id = some db') : db' = { db with
    avatar := db.avatar.filter (·.id ≠ id)
    role := fun table => (db.role table).filter (·.avatarId ≠ id)
    persistentMessage := db.persistentMessage.filter (·.avatarId ≠ id)
    friend := db.friend.filter fun row => row.avatarId ≠ id ∧ row.friendAvatarId ≠ id
    ignore := db.ignore.filter fun row => row.avatarId ≠ id ∧ row.ignoreAvatarId ≠ id } := by
  unfold Database.deleteAvatar at h
  split at h
  · exact absurd h (by simp)
  · exact (Option.some.inj h).symm

theorem Database.Referential.deleteAvatar (h : db.Referential) {id : Nat} (hdelete : db.deleteAvatar id = some db') :
    db'.Referential := by
  rw [deleteAvatar_eq_some hdelete]
  have hstored : ∀ k, db.HasAvatar k → k ≠ id → ∃ row ∈ db.avatar.filter (·.id ≠ id), row.id = k := by
    rintro _ ⟨row, hrow, rfl⟩ hne
    exact ⟨row, List.mem_filter.mpr ⟨hrow, by simpa using hne⟩, rfl⟩
  refine ⟨fun row hrow => ?_, fun row hrow => ?_⟩
  · have hkept : row ∈ db.friend ∧ row.avatarId ≠ id ∧ row.friendAvatarId ≠ id := by simpa using hrow
    exact hstored _ (h.friend row hkept.1) hkept.2.2
  · have hkept : row ∈ db.ignore ∧ row.avatarId ≠ id ∧ row.ignoreAvatarId ≠ id := by simpa using hrow
    exact hstored _ (h.ignored row hkept.1) hkept.2.2

namespace Database.Sound

theorem ne_next (h : db.Sound) {id : Nat} (hid : db.HasAvatar id) : id ≠ db.nextAvatarId := by
  obtain ⟨row, hrow, rfl⟩ := hid
  exact Nat.ne_of_lt (h.next row hrow)

theorem insertAvatar (h : db.Sound) {userId attributes id : Nat} {name address : StdString}
    (hinsert : db.insertAvatar userId name address attributes = some (id, db')) : db'.Sound := by
  have hreferential := h.referential.insertAvatar hinsert
  obtain ⟨-, -, rfl⟩ := insertAvatar_eq_some hinsert
  have hold : ∀ k, db.HasAvatar k → ∃ row ∈ db.avatar ++ [⟨db.nextAvatarId, userId, name, address, attributes⟩],
      row.id = k := fun k ⟨row, hrow, hk⟩ => ⟨row, List.mem_append_left _ hrow, hk⟩
  refine ⟨hreferential, ⟨fun row hrow => ?_, fun row hrow => ?_⟩, ?_, ⟨h.contactKeys.friend, h.contactKeys.ignored⟩,
    fun row hrow => ?_⟩
  · exact hold _ (h.owned.friend row hrow)
  · exact hold _ (h.owned.ignored row hrow)
  · rw [List.map_append, List.nodup_append]
    refine ⟨h.ids, by simp, fun k hk k' hk' => ?_⟩
    obtain ⟨row, hrow, rfl⟩ := List.mem_map.mp hk
    obtain rfl : k' = db.nextAvatarId := by simpa using hk'
    exact h.ne_next ⟨row, hrow, rfl⟩
  · rcases List.mem_append.mp hrow with hrow | hrow
    · exact Nat.lt_succ_of_lt (h.next row hrow)
    · rw [List.mem_singleton.mp hrow]
      exact Nat.lt_succ_self _

theorem deleteAvatar (h : db.Sound) {id : Nat} (hdelete : db.deleteAvatar id = some db') : db'.Sound := by
  have hreferential := h.referential.deleteAvatar hdelete
  rw [deleteAvatar_eq_some hdelete] at hreferential ⊢
  have hstored : ∀ k, db.HasAvatar k → k ≠ id → ∃ row ∈ db.avatar.filter (·.id ≠ id), row.id = k := by
    rintro _ ⟨row, hrow, rfl⟩ hne
    exact ⟨row, List.mem_filter.mpr ⟨hrow, by simpa using hne⟩, rfl⟩
  have hfriends : ∀ row ∈ db.friend.filter fun row => row.avatarId ≠ id ∧ row.friendAvatarId ≠ id,
      row ∈ db.friend ∧ row.avatarId ≠ id ∧ row.friendAvatarId ≠ id := by simp
  have hignored : ∀ row ∈ db.ignore.filter fun row => row.avatarId ≠ id ∧ row.ignoreAvatarId ≠ id,
      row ∈ db.ignore ∧ row.avatarId ≠ id ∧ row.ignoreAvatarId ≠ id := by simp
  refine ⟨hreferential, ⟨fun row hrow => ?_, fun row hrow => ?_⟩, ?_, ⟨?_, ?_⟩,
    fun row hrow => h.next row (List.mem_filter.mp hrow).1⟩
  · exact hstored _ (h.owned.friend row (hfriends row hrow).1) (hfriends row hrow).2.1
  · exact hstored _ (h.owned.ignored row (hignored row hrow).1) (hignored row hrow).2.1
  · exact (List.filter_sublist.map _).nodup h.ids
  · exact (List.filter_sublist.map _).nodup h.contactKeys.friend
  · exact h.contactKeys.ignored.filter _

/-- The rows of an avatar that does not list the deleted one stay. -/
theorem rows_deleteAvatar {i j : Nat} (hdelete : db.deleteAvatar j = some db') (hne : i ≠ j)
    (hfriend : ¬ db.Befriends i j) (hignored : ¬ db.Ignores i j) :
    db'.friendRows i = db.friendRows i ∧ db'.ignoreRows i = db.ignoreRows i := by
  rw [deleteAvatar_eq_some hdelete]
  constructor
  · change (db.friend.filter _).filter _ = db.friend.filter _
    rw [List.filter_filter]
    apply List.filter_congr
    intro row hrow
    by_cases hi : row.avatarId = i
    · have hj : row.friendAvatarId ≠ j := fun hj => hfriend ⟨row, hrow, hi, hj⟩
      simp [hi, hne, hj]
    · simp [hi]
  · change (db.ignore.filter _).filter _ = db.ignore.filter _
    rw [List.filter_filter]
    apply List.filter_congr
    intro row hrow
    by_cases hi : row.avatarId = i
    · have hj : row.ignoreAvatarId ≠ j := fun hj => hignored ⟨row, hrow, hi, hj⟩
      simp [hi, hne, hj]
    · simp [hi]

end Database.Sound

end Tables

namespace Settled

theorem start (hdb : db.Sound) (fails : Nat → Bool) (version : UInt32) (policyConfig : Policy.Config) :
    Settled (Server.start db fails version policyConfig) := by
  refine ⟨⟨⟨⟨?_, ?_⟩, hdb.referential, ?_⟩, List.nodup_nil, ?_, ?_⟩, hdb, ?_⟩
  all_goals simp [Server.start]

theorem restart (hs : Settled s) : Settled s.restart := by
  refine ⟨⟨⟨⟨?_, ?_⟩, hs.sound.referential, ?_⟩, List.nodup_nil, ?_, ?_⟩, hs.sound, ?_⟩
  all_goals simp [Server.restart, Server.start]

/-- An avatar without contacts enters the cache and the table. -/
theorem created (hs : Settled s) {userId loginAttributes : UInt32} {name address loginLocation : U16String}
    {id : Nat} (hinsert : s.db.insertAvatar userId.toNat (fromWideString name) (fromWideString address)
      loginAttributes.toNat = some (id, db')) (hlt : s.db.nextAvatarId < 2 ^ 32) {executed : Nat} :
    Settled (Server.cached { s with objects := s.objects + 1, executed, db := db' }
      { self := ⟨s.objects, UInt32.ofNat id, name, address⟩
        userId
        attributes := loginAttributes
        loginLocation }) := by
  have hsound := hs.sound.insertAvatar hinsert
  obtain ⟨-, rfl, hdb⟩ := insertAvatar_eq_some hinsert
  have havatar : db'.avatar = s.db.avatar ++ [⟨s.db.nextAvatarId, userId.toNat, fromWideString name,
    fromWideString address, loginAttributes.toNat⟩] := by rw [hdb]
  have hfriends : ∀ i, db'.friendRows i = s.db.friendRows i := fun _ => by rw [hdb]; rfl
  have hignored : ∀ i, db'.ignoreRows i = s.db.ignoreRows i := fun _ => by rw [hdb]; rfl
  have hid : (UInt32.ofNat s.db.nextAvatarId).toNat = s.db.nextAvatarId := by
    rw [UInt32.toNat_ofNat']
    omega
  have hold : ∀ k, s.db.HasAvatar k → db'.HasAvatar k := by
    rintro _ ⟨row, hrow, rfl⟩
    exact ⟨row, havatar ▸ List.mem_append_left _ hrow, rfl⟩
  have hallocated : Allocated s.avatarCache (s.objects + 1) :=
    ⟨fun a ha => Nat.lt_succ_of_lt (hs.joined.ready.allocated.below a ha), hs.joined.ready.allocated.distinct⟩
  have hjoined : Joined { s with objects := s.objects + 1, executed, db := db' } :=
    ⟨⟨hallocated, hsound.referential, fun a ha => hold _ (hs.joined.ready.stored a ha)⟩,
      hs.joined.unduplicated, hs.joined.friends, hs.joined.ignored⟩
  refine ⟨hjoined.cached ⟨?_, hsound.referential, fun a ha => ?_⟩ (fun a ha heq => ?_) rfl rfl, hsound,
    fun a ha => ?_⟩
  · exact hallocated.cached hs.joined.ready.allocated.below (Nat.lt_succ_self _)
  · rcases List.mem_append.mp ha with ha | ha
    · exact hold _ (hs.joined.ready.stored a ha)
    · rw [List.mem_singleton.mp ha]
      exact ⟨_, havatar ▸ List.mem_append_right _ (List.mem_singleton.mpr rfl), hid.symm⟩
  · apply hs.sound.ne_next (hs.joined.ready.stored a ha)
    rw [heq]
    exact hid
  · rcases List.mem_append.mp ha with ha | ha
    · have hwhole := hs.whole a ha
      exact ⟨hwhole.friendList.trans (by rw [← hfriends]; rfl), hwhole.ignoreList.trans (by rw [← hignored]; rfl)⟩
    · rw [List.mem_singleton.mp ha]
      have hnone : db'.friendRows s.db.nextAvatarId = [] ∧ db'.ignoreRows s.db.nextAvatarId = [] := by
        rw [hfriends, hignored]
        refine ⟨List.filter_eq_nil_iff.mpr fun row hrow => ?_, List.filter_eq_nil_iff.mpr fun row hrow => ?_⟩
        · simpa using hs.sound.ne_next (hs.sound.owned.friend row hrow)
        · simpa using hs.sound.ne_next (hs.sound.owned.ignored row hrow)
      rw [← hid] at hnone
      exact ⟨(congrArg (List.map FriendRow.entry) hnone.1).symm, (congrArg (List.map IgnoreRow.entry) hnone.2).symm⟩

/-- An avatar whom no other cached avatar lists leaves the cache and the tables. -/
theorem removed (hs : Settled s) {id : UInt32} (hunlisted : ∀ b ∈ s.avatarCache, b.self.avatarId ≠ id →
      b.hasFriend id = false ∧ b.ignores id = false) (hdelete : s.db.deleteAvatar id.toNat = some t.db)
    (hcache : t.avatarCache = s.avatarCache.filter (·.self.avatarId != id)) (hobjects : t.objects = s.objects) :
    Settled t := by
  have hsound := hs.sound.deleteAvatar hdelete
  have hkept : ∀ b ∈ t.avatarCache, b ∈ s.avatarCache ∧ b.self.avatarId ≠ id := by
    intro b hb
    obtain ⟨hb, hne⟩ := List.mem_filter.mp (hcache ▸ hb)
    exact ⟨hb, by simpa using hne⟩
  have hids : ∀ b ∈ t.avatarCache, b.self.avatarId.toNat ≠ id.toNat := fun b hb heq =>
    (hkept b hb).2 (UInt32.toNat_inj.mp heq)
  have hlive : ∀ q, Live s.avatarCache q → q.avatarId ≠ id → Live t.avatarCache q := by
    rintro _ ⟨a, ha, rfl⟩ hne
    exact ⟨a, hcache ▸ List.mem_filter.mpr ⟨ha, by simpa using hne⟩, rfl⟩
  refine ⟨⟨⟨⟨?_, ?_⟩, hsound.referential, fun b hb => ?_⟩, ?_, fun b hb c hc => ?_, fun b hb c hc => ?_⟩, hsound,
    fun b hb => ?_⟩
  · rw [hobjects]
    exact fun b hb => hs.joined.ready.allocated.below b (hkept b hb).1
  · exact fun b hb c hc => hs.joined.ready.allocated.distinct b (hkept b hb).1 c (hkept c hc).1
  · obtain ⟨row, hrow, hid⟩ := hs.joined.ready.stored b (hkept b hb).1
    refine ⟨row, ?_, hid⟩
    rw [deleteAvatar_eq_some hdelete]
    exact List.mem_filter.mpr ⟨hrow, by simpa [hid] using hids b hb⟩
  · rw [Server.Unduplicated, hcache]
    exact (List.filter_sublist.map _).nodup hs.joined.unduplicated
  · obtain ⟨hb, hne⟩ := hkept b hb
    obtain ⟨q, hq, hqlive⟩ := hs.joined.friends b hb c hc
    refine ⟨q, hq, hlive q hqlive fun heq => ?_⟩
    exact List.any_eq_false.mp (hunlisted b hb hne).1 c hc (by simp [Names, hq, heq])
  · obtain ⟨hb, hne⟩ := hkept b hb
    obtain ⟨q, hq, hqlive⟩ := hs.joined.ignored b hb c hc
    refine ⟨q, hq, hlive q hqlive fun heq => ?_⟩
    exact List.any_eq_false.mp (hunlisted b hb hne).2 c hc (by simp [Names, hq, heq])
  · obtain ⟨hmem, hne⟩ := hkept b hb
    obtain ⟨hfriend, hignores⟩ := hunlisted b hmem hne
    have hwhole := hs.whole b hmem
    have hrows := Database.Sound.rows_deleteAvatar hdelete (hids b hb)
      (mt (hwhole.synced.friends id).mpr (by simp [hfriend])) (mt (hwhole.synced.ignored id).mpr (by simp [hignores]))
    exact ⟨hwhole.friendList.trans (by rw [hrows.1]), hwhole.ignoreList.trans (by rw [hrows.2])⟩

end Settled

section Calls

theorem unmoved_of_run {x : Serve Unit} {Q : Unit → Server → Prop} (h : unmoved.Holds x s Q)
    {result : Except Exn Unit} (hrun : x s = (result, t)) : Unmoved s t := by
  unfold Holds at h
  cases result with
  | ok _ => exact (h.ok_of_run hrun).2.1
  | error e => exact (h.err_of_run hrun).2.1

theorem settled_destroy (hs : Settled s) (hp : Live s.avatarCache p) (hsane : (ServiceCall.destroy p).Sane s)
    {result : Except Exn Unit} (hrun : destroyAvatar p s = (result, t)) : Settled t := by
  obtain ⟨a, ha, rfl⟩ := hp
  rw [StationChat.destroyAvatar] at hrun
  rcases execute_cases (.deleteAvatar a.self.avatarId) s with ⟨-, hexec⟩ | ⟨_, db, ⟨-, hdelete⟩, hexec⟩
  · rw [bind_error hexec] at hrun
    obtain ⟨-, rfl⟩ := Prod.mk.inj hrun
    exact hs.unmoved ⟨rfl, id, rfl, rfl, rfl, rfl, rfl⟩
  · rw [bind_ok hexec] at hrun
    obtain ⟨u, hu, -, hcache, -, hdb, hobjects⟩ :=
      logout_remove_run (s := { s.attempt (.deleteAvatar a.self.avatarId) with db }) hs.joined.ready.allocated ha
    obtain ⟨-, rfl⟩ := Prod.mk.inj (hu.symm.trans hrun)
    obtain ⟨db', hgone, heq⟩ := Option.map_eq_some_iff.mp hdelete
    obtain ⟨-, rfl⟩ := Prod.mk.inj heq
    exact hs.removed hsane (by rw [hdb]; exact hgone) hcache hobjects

/-- Every call keeps the cache a copy of the tables. -/
theorem settled_call (hs : Settled s) (hheld : c.Held s) (hsane : c.Sane s) (hstep : s.serviceCall c = some t) :
    Settled t := by
  obtain ⟨result, hrun⟩ := serviceCall_run hstep
  cases c with
  | get request =>
    obtain ⟨hknown, hwhole⟩ := hsane
    rcases hrequest : request.run s with ⟨found, u⟩
    have hsettled := (settled_run hs hknown (fun _ _ => hwhole) hrequest).1
    rw [ServiceCall.run, bind_run, hrequest] at hrun
    cases found <;> exact (Prod.mk.inj hrun).2 ▸ hsettled
  | create name address userId loginAttributes loginLocation =>
    rw [ServiceCall.run, bind_run] at hrun
    rcases createAvatar_cases name address userId loginAttributes loginLocation s with
      hcreate | ⟨id, db, hworks, hinsert, hcreate⟩
    · rw [hcreate] at hrun
      obtain ⟨-, rfl⟩ := Prod.mk.inj hrun
      exact hs.unmoved ⟨rfl, fun h => ⟨fun a ha => Nat.lt_succ_of_lt (h.below a ha), h.distinct⟩, rfl, rfl, rfl, rfl,
        rfl⟩
    · rw [hcreate] at hrun
      obtain ⟨-, rfl⟩ := Prod.mk.inj hrun
      apply hs.created hinsert
      rcases hsane with hlt | hfails | ⟨row, hrow, hsame⟩
      · exact hlt
      · exact absurd hfails (by simp [hworks])
      · exact absurd hsame ((insertAvatar_eq_some hinsert).1 row hrow)
  | login avatar => exact hs.unmoved (unmoved_of_run (unmoved_loginAvatar avatar) hrun)
  | logout avatar => exact hs.unmoved (unmoved_of_run (unmoved_logoutAvatar (some avatar)) hrun)
  | persist avatar => exact hs.unmoved (unmoved_of_run (unmoved_persistAvatar avatar) hrun)
  | destroy avatar => exact settled_destroy hs hheld hsane hrun
  | contact operation self avatar =>
    obtain ⟨u, hcontact, hu⟩ := contact_run hs hheld.1 hheld.2 hsane.2 hsane.1
    obtain ⟨-, rfl⟩ := Prod.mk.inj (hcontact.symm.trans hrun)
    exact hu.settled

end Calls
end StationChat
