import StationChat.Avatars.Service

/-! From empty contact tables the two lists of every avatar stay free of duplicates, disjoint and stored. -/
namespace StationChat
open Lib Lib.Action Lib.Contract

variable {s t : Server} {c : ServiceCall} {p self : AvatarPtr} {a : ChatAvatar} {db : Database} {i j k l : Nat}
  {operation : ContactOperation}

/-- Nobody is a friend and ignored at once. -/
def Database.Apart (db : Database) : Prop := ∀ i j, db.Befriends i j → ¬ db.Ignores i j

structure ProperLists (db : Database) (a : ChatAvatar) : Prop where
  friends : (a.friendEntries.map Prod.fst).Nodup
  ignored : a.ignoreEntries.Nodup
  disjoint : List.Disjoint (a.friendEntries.map Prod.fst) a.ignoreEntries
  whole : Whole db a

theorem properLists (h : Whole db a) (hkeys : db.ContactKeys) (hapart : db.Apart) : ProperLists db a := by
  refine ⟨nodup_friendIds h hkeys, nodup_ignoredIds h hkeys, fun id hfriend hignored => ?_, h⟩
  rw [h.friendList, List.map_map] at hfriend
  rw [h.ignoreList] at hignored
  obtain ⟨row, hrow, rfl⟩ := List.mem_map.mp hfriend
  obtain ⟨row', hrow', heq⟩ := List.mem_map.mp hignored
  obtain ⟨hrow, howner⟩ := List.mem_filter.mp hrow
  obtain ⟨hrow', howner'⟩ := List.mem_filter.mp hrow'
  have hsame : row'.ignoreAvatarId = row.friendAvatarId := Option.some.inj heq
  exact hapart _ _ ⟨row, hrow, by simpa using howner, rfl⟩ ⟨row', hrow', by simpa using howner', hsame⟩

section Tables

theorem befriends_setComment (comment : StdString) : (db.setComment i j comment).Befriends k l ↔ db.Befriends k l := by
  have hkeys : ∀ row : FriendRow, (if row.avatarId = i ∧ row.friendAvatarId = j then { row with comment } else
      row).avatarId = row.avatarId ∧ (if row.avatarId = i ∧ row.friendAvatarId = j then { row with comment } else
      row).friendAvatarId = row.friendAvatarId := by
    intro row
    split <;> exact ⟨rfl, rfl⟩
  simp [Database.Befriends, Database.setComment, List.mem_map, hkeys]

/-- An operation changes the rows of one avatar only. -/
theorem rows_contact (db : Database) (hk : k ≠ i) (j : Nat) (operation : ContactOperation) :
    (db.contact i j operation).friendRows k = db.friendRows k ∧
      (db.contact i j operation).ignoreRows k = db.ignoreRows k := by
  have hfriend : (db.dropFriend i j).friendRows k = db.friendRows k := by simp [friendRows_dropFriend, hk]
  have hignore : (db.dropIgnored i j).ignoreRows k = db.ignoreRows k := by simp [ignoreRows_dropIgnored, hk]
  cases operation with
  | addFriend comment =>
    rw [Database.contact]
    split
    · exact ⟨rfl, rfl⟩
    · rw [friendRows_putFriend, if_neg hk, List.append_nil]
      exact ⟨rfl, hignore⟩
  | removeFriend => exact ⟨hfriend, rfl⟩
  | updateFriendComment comment => exact ⟨by simp [Database.contact, friendRows_setComment, hk], rfl⟩
  | addIgnore =>
    rw [Database.contact]
    split
    · exact ⟨rfl, rfl⟩
    · rw [ignoreRows_putIgnored, if_neg hk, List.append_nil]
      exact ⟨hfriend, rfl⟩
  | removeIgnore => exact ⟨rfl, hignore⟩

theorem apart_contact (h : db.Apart) (i j : Nat) (operation : ContactOperation) :
    (db.contact i j operation).Apart := by
  intro k l hfriend hignored
  cases operation with
  | addFriend comment =>
    rw [Database.contact] at hfriend hignored
    split at hfriend
    · rename_i hold
      rw [if_pos hold] at hignored
      exact h k l hfriend hignored
    · rename_i hnew
      rw [if_neg hnew] at hignored
      obtain ⟨hignored, hne⟩ := (ignores_filter i j).mp hignored
      rcases (befriends_append _).mp hfriend with hfriend | ⟨rfl, rfl⟩
      · exact h k l hfriend hignored
      · exact hne ⟨rfl, rfl⟩
  | removeFriend => exact h k l ((befriends_filter i j).mp hfriend).1 hignored
  | updateFriendComment comment => exact h k l ((befriends_setComment _).mp hfriend) hignored
  | addIgnore =>
    rw [Database.contact] at hfriend hignored
    split at hfriend
    · rename_i hold
      rw [if_pos hold] at hignored
      exact h k l hfriend hignored
    · rename_i hnew
      rw [if_neg hnew] at hignored
      obtain ⟨hfriend, hne⟩ := (befriends_filter i j).mp hfriend
      rcases (ignores_append _).mp hignored with hignored | ⟨rfl, rfl⟩
      · exact h k l hfriend hignored
      · exact hne ⟨rfl, rfl⟩
  | removeIgnore => exact h k l hfriend ((ignores_filter i j).mp hignored).1

end Tables

/-- The invariant: besides, whoever has contact rows is cached. -/
structure Orderly (s : Server) : Prop where
  settled : Settled s
  works : s.Works
  apart : s.db.Apart
  owners : ∀ i j, s.db.Contact i j → i ∈ s.cachedIds

/-- What keeps a call from parting the lists and the tables when no statement fails. -/
def ServiceCall.Plain (s : Server) : ServiceCall → Prop
  | .get request => s.Recognised request
  | .create name address _ _ _ => s.db.nextAvatarId < 2 ^ 32 ∨
      ∃ row ∈ s.db.avatar, row.name = fromWideString name ∧ row.address = fromWideString address
  | .login _ | .logout _ | .persist _ => True
  | .destroy _ => False
  | .contact operation _ _ => operation.Storable

instance (s : Server) : DecidablePred (ServiceCall.Plain s)
  | .get request => inferInstanceAs (Decidable (s.Recognised request))
  | .create name address _ _ _ => inferInstanceAs (Decidable (s.db.nextAvatarId < 2 ^ 32 ∨
      ∃ row ∈ s.db.avatar, row.name = fromWideString name ∧ row.address = fromWideString address))
  | .login _ | .logout _ | .persist _ => inferInstanceAs (Decidable True)
  | .destroy _ => inferInstanceAs (Decidable False)
  | .contact operation _ _ => inferInstanceAs (Decidable operation.Storable)

namespace Orderly

/-- Nobody with contacts is left to load. -/
theorem not_halfLoads (h : Orderly s) {request : AvatarRequest} (hknown : s.Recognised request) :
    ¬ HalfLoads s request := by
  rintro ⟨row, hmissing, -, -, ⟨id, hcontact⟩, -⟩
  rw [AvatarRequest.missing] at hmissing
  split at hmissing
  · exact absurd hmissing (by simp)
  · rename_i hnone
    obtain ⟨a, ha, hid⟩ := h.owners _ _ hcontact
    have hrow : request.matchesRow row = true := List.find?_some hmissing
    obtain ⟨b, hb, hmatch⟩ := hknown row (List.mem_of_find?_eq_some hmissing) hrow ⟨a, ha, hid⟩
    exact hnone (List.any_eq_true.mpr ⟨b, hb, hmatch⟩)

theorem sane (h : Orderly s) (hplain : c.Plain s) : c.Sane s := by
  cases c with
  | get request => exact ⟨hplain, h.not_halfLoads hplain⟩
  | create => exact hplain.elim .inl fun hrow => .inr (.inr hrow)
  | login => trivial
  | logout => trivial
  | persist => trivial
  | destroy => exact absurd hplain id
  | contact operation => exact ⟨hplain, fun k _ _ => h.works k⟩

/-- The tables of contacts stay, and who is cached stays cached. -/
theorem of_kept (h : Orderly s) (ht : Settled t) (hfails : t.fails = s.fails) (hfriend : t.db.friend = s.db.friend)
    (hignore : t.db.ignore = s.db.ignore) (hcached : s.cachedIds ⊆ t.cachedIds) : Orderly t := by
  refine ⟨ht, fun k => hfails ▸ h.works k, fun i j => ?_, fun i j hij => hcached (h.owners i j ?_)⟩
  · rw [Database.Befriends, hfriend, Database.Ignores, hignore]
    exact h.apart i j
  · rwa [Database.Contact, Database.friendIds, Database.friendRows, hfriend, Database.ignoredIds,
      Database.ignoreRows, hignore] at hij

theorem of_unmoved (h : Orderly s) (hst : Unmoved s t) : Orderly t := by
  apply h.of_kept (h.settled.unmoved hst) hst.fails hst.friend hst.ignore
  rintro _ ⟨a, ha, rfl⟩
  have hmem : a.self ∈ t.avatarCache.map (·.self) := hst.selves ▸ List.mem_map_of_mem ha
  obtain ⟨b, hb, hself⟩ := List.mem_map.mp hmem
  exact ⟨b, hb, by rw [hself]⟩

theorem contacted (h : Orderly s) (hself : Live s.avatarCache self)
    (ht : Rewritten s (s.db.contact self.avatarId.toNat j operation) t) : Orderly t := by
  have hcached : t.cachedIds = s.cachedIds := by
    have hids : ∀ u : Server, u.cachedIds = {id | ∃ p ∈ u.avatarCache.map (·.self), p.avatarId.toNat = id} := by
      intro u
      ext id
      simp [Server.cachedIds]
    rw [hids, hids, ht.selves]
  refine ⟨ht.settled, fun k => ht.fails ▸ h.works k, ?_, fun i k hik => ?_⟩
  · rw [ht.db]
    exact apart_contact h.apart _ _ _
  · rw [hcached]
    by_cases hi : i = self.avatarId.toNat
    · obtain ⟨a, ha, rfl⟩ := hself
      exact ⟨a, ha, hi.symm⟩
    · obtain ⟨hfriends, hignored⟩ := rows_contact s.db hi j operation
      apply h.owners i k
      rw [ht.db] at hik
      rwa [Database.Contact, Database.friendIds, hfriends, Database.ignoredIds, hignored] at hik

theorem called (h : Orderly s) (hheld : c.Held s) (hplain : c.Plain s) (hstep : s.serviceCall c = some t) :
    Orderly t := by
  have ht := settled_call h.settled hheld (h.sane hplain) hstep
  obtain ⟨result, hrun⟩ := serviceCall_run hstep
  cases c with
  | get request =>
    rcases hrequest : request.run s with ⟨found, u⟩
    have hgrown := (settled_run h.settled hplain (fun _ _ => h.not_halfLoads hplain) hrequest).2.1
    rw [ServiceCall.run, bind_run, hrequest] at hrun
    obtain rfl : u = t := by cases found <;> exact (Prod.mk.inj hrun).2
    apply h.of_kept ht (by rw [hgrown.rest]) (by rw [hgrown.db]) (by rw [hgrown.db])
    rintro _ ⟨a, ha, rfl⟩
    exact ⟨a, hgrown.cache.subset ha, rfl⟩
  | create name address userId loginAttributes loginLocation =>
    rw [ServiceCall.run, bind_run] at hrun
    rcases createAvatar_cases name address userId loginAttributes loginLocation s with
      hcreate | ⟨id, db, -, hinsert, hcreate⟩
    · rw [hcreate] at hrun
      obtain ⟨-, rfl⟩ := Prod.mk.inj hrun
      exact h.of_kept ht rfl rfl rfl subset_rfl
    · rw [hcreate] at hrun
      obtain ⟨-, rfl⟩ := Prod.mk.inj hrun
      obtain ⟨-, -, rfl⟩ := insertAvatar_eq_some hinsert
      apply h.of_kept ht rfl rfl rfl
      rintro _ ⟨a, ha, rfl⟩
      exact ⟨a, List.mem_append_left _ ha, rfl⟩
  | login avatar => exact h.of_unmoved (unmoved_of_run (unmoved_loginAvatar avatar) hrun)
  | logout avatar => exact h.of_unmoved (unmoved_of_run (unmoved_logoutAvatar (some avatar)) hrun)
  | persist avatar => exact h.of_unmoved (unmoved_of_run (unmoved_persistAvatar avatar) hrun)
  | destroy => exact absurd hplain id
  | contact operation self avatar =>
    obtain ⟨u, hcontact, hu⟩ := contact_run h.settled hheld.1 hheld.2 (fun k _ _ => h.works k) hplain
    obtain ⟨-, rfl⟩ := Prod.mk.inj (hcontact.symm.trans hrun)
    exact h.contacted hheld.1 hu

end Orderly

/-- From empty contact tables, plain calls keep the lists of every avatar free of duplicates, disjoint and
equal to its rows, and no contact operation breaks a key. -/
theorem contact_lists_proper (hdb : db.Sound) (hfriend : db.friend = []) (hignore : db.ignore = [])
    {version : UInt32} {policyConfig : Policy.Config}
    (hcalls : (Server.start db (fun _ => false) version policyConfig).ServiceCalls (fun s c => c.Plain s) s) :
    (∀ a ∈ s.avatarCache, ProperLists s.db a) ∧
      ∀ (operation : ContactOperation) (self p : AvatarPtr), operation.Storable → Live s.avatarCache self →
        Live s.avatarCache p → ∃ t, operation.run self (some p) s = (.ok (), t) := by
  have hstart : Orderly (Server.start db (fun _ => false) version policyConfig) := by
    refine ⟨Settled.start hdb _ _ _, fun _ => rfl, fun i j hij => ?_, fun i j hij => ?_⟩
    · obtain ⟨row, hrow, -⟩ := hij
      exact absurd (hfriend ▸ hrow) List.not_mem_nil
    · rcases hij with ⟨row, hrow, -⟩ | ⟨row, hrow, -⟩
      · exact absurd (hfriend ▸ (List.mem_filter.mp hrow).1) List.not_mem_nil
      · exact absurd (hignore ▸ (List.mem_filter.mp hrow).1) List.not_mem_nil
  have hs : Orderly s := hcalls.invariant hstart fun _ _ _ hu hadmitted hstep =>
    hu.called hadmitted.1 hadmitted.2 hstep
  refine ⟨fun a ha => properLists (hs.settled.whole a ha) hs.settled.sound.contactKeys hs.apart, ?_⟩
  intro operation self p hstorable hself hp
  obtain ⟨t, hrun, -⟩ := contact_run hs.settled hself hp (fun k _ _ => hs.works k) hstorable
  exact ⟨t, hrun⟩

section Concrete

/-- A and B, both at address a, without contacts. -/
def Database.strangers : Database := { Database.empty with
  avatar := [⟨1, 1, [0x41], [0x61], 0⟩, ⟨2, 1, [0x42], [0x61], 0⟩]
  nextAvatarId := 3 }

theorem Database.strangers_sound : Database.strangers.Sound := by
  refine ⟨⟨?_, ?_⟩, ⟨?_, ?_⟩, ?_, ⟨?_, ?_⟩, ?_⟩ <;> simp [Database.strangers, Database.empty]

def Server.strangers : Server := Server.start .strangers (fun _ => false) 2 {}

/-- A adds B, changes the comment, ignores B and adds B again. -/
theorem contact_lists_proper_strangers : ∃ s, Server.strangers.ServiceCalls (fun s c => c.Plain s) s ∧
    s.db.friend = [⟨1, 2, [0x69]⟩] ∧ s.db.ignore = [] ∧ ∀ a ∈ s.avatarCache, ProperLists s.db a := by
  let a : AvatarPtr := ⟨0, 1, [0x41], [0x61]⟩
  let b : AvatarPtr := ⟨1, 2, [0x42], [0x61]⟩
  obtain ⟨s, hcalls, hfriend, hignore⟩ : ∃ s, Server.strangers.ServiceCalls (fun s c => c.Plain s) s ∧
      s.db.friend = [⟨1, 2, [0x69]⟩] ∧ s.db.ignore = [] :=
    Runs.exists_of_admitted [.get (.byName [0x41] [0x61]), .get (.byId 2), .contact (.addFriend [0x68]) a b,
      .contact (.updateFriendComment [0x6A]) a b, .contact .addIgnore a b, .contact (.addFriend [0x69]) a b]
      (by decide +kernel)
  exact ⟨s, hcalls, hfriend, hignore, (contact_lists_proper Database.strangers_sound rfl rfl hcalls).1⟩

/-- An avatar that is cached twice has two lists for its rows: an addition by one object is missing in the
other, and the same addition by the other breaks the key. -/
theorem contact_key_broken : ∃ s, Server.strangers.ServiceCalls (fun _ _ => True) s ∧
    (∃ a ∈ s.avatarCache, ¬ Whole s.db a) ∧ Live s.avatarCache ⟨1, 1, [0x41], [0x61]⟩ ∧
    Live s.avatarCache ⟨2, 2, [0x42], [0x61]⟩ ∧
    (addFriend ⟨1, 1, [0x41], [0x61]⟩ (some ⟨2, 2, [0x42], [0x61]⟩) [] s).1 = .error .database :=
  Runs.exists_of_admitted [.get (.byName [0x41] [0x61]), .get (.byName [0x141] [0x61]), .get (.byId 2),
    .contact (.addFriend []) ⟨0, 1, [0x41], [0x61]⟩ ⟨2, 2, [0x42], [0x61]⟩] (by decide +kernel)

end Concrete
end StationChat
