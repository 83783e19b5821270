import StationChat.Avatars.Contacts
import StationChat.Gateway.AvatarRequest
import StationChat.Gateway.Tables
import StationChat.Rooms.Calls
import Mathlib.Data.List.Nodup

/-! When a lookup by name yields the avatar of that name, and the cache one object for each avatar. -/
namespace StationChat
open Lib Lib.Action Lib.Contract

/-- The keys of the avatar table; the AUTO_INCREMENT value lies above every id. -/
structure Database.AvatarKeys (db : Database) : Prop where
  ids : ∀ row ∈ db.avatar, ∀ row' ∈ db.avatar, row.id = row'.id → row = row'
  names : ∀ row ∈ db.avatar, ∀ row' ∈ db.avatar, row.name = row'.name → row.address = row'.address →
    row = row'
  next : ∀ row ∈ db.avatar, row.id < db.nextAvatarId

inductive AvatarCall where
  | getByName (name address : U16String)
  | getById (avatarId : UInt32)
  | create (name address : U16String) (userId loginAttributes : UInt32) (loginLocation : U16String)
  | login (avatar : AvatarPtr)
  | logout (avatar : Option AvatarPtr)
  deriving DecidableEq, Repr

namespace AvatarCall

def run : AvatarCall → Serve (Option AvatarPtr)
  | getByName name address => getAvatar name address
  | getById avatarId => getAvatarById avatarId
  | create name address userId loginAttributes loginLocation =>
    some <$> createAvatar name address userId loginAttributes loginLocation
  | login avatar => do
    loginAvatar avatar
    pure none
  | logout avatar => do
    logoutAvatar avatar
    pure none

/-- The name and address are stored without loss, if the call gets so far that this matters: a lookup
to a row, a creation to an insert that succeeds and whose id fits an avatar id. -/
def Storable (s : Server) : AvatarCall → Prop
  | getByName name address =>
    Narrowable name ∧ Narrowable address ∨ (AvatarRequest.byName name address).missing s = none
  | create name address _ _ _ =>
    Narrowable name ∧ Narrowable address ∧ s.db.nextAvatarId < 2 ^ 32 ∨ s.fails s.executed = true ∨
      ∃ row ∈ s.db.avatar, row.name = fromWideString name ∧ row.address = fromWideString address
  | _ => True

instance (s : Server) : DecidablePred (Storable s)
  | getByName name address =>
    inferInstanceAs (Decidable (Narrowable name ∧ Narrowable address ∨
      (AvatarRequest.byName name address).missing s = none))
  | create name address _ _ _ =>
    inferInstanceAs (Decidable (Narrowable name ∧ Narrowable address ∧ s.db.nextAvatarId < 2 ^ 32 ∨
      s.fails s.executed = true ∨
        ∃ row ∈ s.db.avatar, row.name = fromWideString name ∧ row.address = fromWideString address))
  | getById _ | login _ | logout _ => inferInstanceAs (Decidable True)

end AvatarCall

namespace Server

/-- One call. A call that ends with an exception may be followed by another. -/
def avatarCall (s : Server) (c : AvatarCall) : Option Server :=
  match c.run s with
  | (.ok _, t) => some t
  | (.error e, t) => if e.isException then some t else none

/-- Runs of calls that are each admitted where they are made. -/
def AvatarCalls (admitted : Server → AvatarCall → Prop) : Server → Server → Prop := Runs avatarCall admitted

/-- The cache has one object for each avatar id it knows. -/
def Unduplicated (s : Server) : Prop := (s.avatarCache.map (·.self.avatarId)).Nodup

instance (s : Server) : Decidable s.Unduplicated := inferInstanceAs (Decidable (List.Nodup _))

end Server

/-- Two objects with one id are one. -/
theorem eq_of_same_id {s : Server} (hunique : s.Unduplicated) {a b : ChatAvatar} (ha : a ∈ s.avatarCache)
    (hb : b ∈ s.avatarCache) (h : a.self.avatarId = b.self.avatarId) : a = b :=
  List.inj_on_of_nodup_map hunique ha hb h

/-- The object is the one of a row: it has its id, and its name and address widened. -/
def OfRow (db : Database) (p : AvatarPtr) : Prop :=
  ∃ row ∈ db.avatar, row.id = p.avatarId.toNat ∧ p.name = toWideString row.name ∧
    p.address = toWideString row.address

/-- The invariant: every cached object is the only one of its row. -/
structure Matched (s : Server) : Prop where
  allocated : Allocated s.avatarCache s.objects
  referential : s.db.Referential
  keys : s.db.AvatarKeys
  rows : ∀ a ∈ s.avatarCache, OfRow s.db a.self
  unduplicated : s.Unduplicated

variable {s t u : Server}

section Rows

theorem ofRow_storedAvatar {row : AvatarRow} (obj : Nat) (hrow : row ∈ s.db.avatar) (hsmall : row.Small) :
    OfRow s.db (storedAvatar obj row).self := by
  refine ⟨row, hrow, ?_, rfl, rfl⟩
  simp only [storedAvatar, UInt32.toNat_ofNat']
  have := hsmall.1
  omega

/-- Avatars of rows are told apart by their name and address, and by their id. -/
theorem OfRow.eq_iff {db : Database} {p q : AvatarPtr} (hkeys : db.AvatarKeys) (hp : OfRow db p)
    (hq : OfRow db q) : p.avatarId = q.avatarId ↔ p.name = q.name ∧ p.address = q.address := by
  obtain ⟨row, hrow, hid, hname, haddress⟩ := hp
  obtain ⟨row', hrow', hid', hname', haddress'⟩ := hq
  constructor
  · intro heq
    obtain rfl := hkeys.ids row hrow row' hrow' (by rw [hid, hid', heq])
    exact ⟨hname.trans hname'.symm, haddress.trans haddress'.symm⟩
  · rintro ⟨hn, ha⟩
    obtain rfl := hkeys.names row hrow row' hrow' (toWideString_injective (by rw [← hname, ← hname', hn]))
      (toWideString_injective (by rw [← haddress, ← haddress', ha]))
    exact UInt32.toNat_inj.mp (hid.symm.trans hid')

theorem OfRow.mono {db db' : Database} {p : AvatarPtr} (h : OfRow db p) (hsub : db.avatar <+: db'.avatar) :
    OfRow db' p := by
  obtain ⟨row, hrow, hrest⟩ := h
  exact ⟨row, hsub.subset hrow, hrest⟩

end Rows

/-- One more object, with an id of its own. -/
theorem Server.Unduplicated.entered (h : s.Unduplicated) {avatar : ChatAvatar}
    (hcache : t.avatarCache = s.avatarCache ++ [avatar])
    (hnew : ∀ a ∈ s.avatarCache, a.self.avatarId ≠ avatar.self.avatarId) : t.Unduplicated := by
  rw [Server.Unduplicated, hcache, List.map_append, List.map_singleton, List.nodup_append]
  refine ⟨h, by simp, fun id hid id' hid' => ?_⟩
  obtain ⟨a, ha, rfl⟩ := List.mem_map.mp hid
  rw [List.mem_singleton.mp hid']
  exact hnew a ha

namespace Matched

/-- One more object, of a row that had none. -/
theorem cached (h : Matched s) {avatar : ChatAvatar} (hrow : OfRow s.db avatar.self)
    (hnew : ∀ a ∈ s.avatarCache, a.self.avatarId ≠ avatar.self.avatarId)
    (hobj : ∀ a ∈ s.avatarCache, a.self.obj < avatar.self.obj) (hlt : avatar.self.obj < s.objects) :
    Matched (s.cached avatar) := by
  refine ⟨h.allocated.cached hobj hlt, h.referential, h.keys, fun a ha => ?_, h.unduplicated.entered rfl hnew⟩
  rcases List.mem_append.mp ha with ha | ha
  · exact h.rows a ha
  · rw [List.mem_singleton.mp ha]
    exact hrow

theorem updateAvatar (h : Matched s) {p : AvatarPtr} {f : ChatAvatar → ChatAvatar}
    (hself : ∀ a, (f a).self = a.self) : Matched (s.updateAvatar p f) := by
  have hselves : ∀ a : ChatAvatar, (if a.self.obj == p.obj then f a else a).self = a.self := by
    intro a
    split
    · exact hself a
    · rfl
  refine ⟨h.allocated.updateAvatar hself, h.referential, h.keys, fun b hb => ?_, ?_⟩
  · obtain ⟨a, ha, rfl⟩ := List.mem_map.mp hb
    rw [hselves]
    exact h.rows a ha
  · have hsame : (s.updateAvatar p f).avatarCache.map (·.self.avatarId) =
        s.avatarCache.map (·.self.avatarId) := by
      rw [Server.updateAvatar, List.map_map]
      exact List.map_congr_left fun a _ => congrArg (·.avatarId) (hselves a)
    rw [Server.Unduplicated, hsame]
    exact h.unduplicated

theorem bookkeeping (h : Matched s) {executed failures objects : Nat} (hle : s.objects ≤ objects) :
    Matched { s with executed, failures, objects } :=
  ⟨⟨fun a ha => Nat.lt_of_lt_of_le (h.allocated.below a ha) hle, h.allocated.distinct⟩, h.referential,
    h.keys, h.rows, h.unduplicated⟩

end Matched

theorem matched_loads : Loads True Matched where
  allocated h := h.allocated
  referential h := h.referential
  small _ hnot := absurd trivial hnot
  bookkeeping _ _ _ h hle := h.bookkeeping hle
  cache := by
    intro s row obj h hrow hsmall hnew hobj hlt
    have hof := ofRow_storedAvatar (s := s) obj hrow hsmall
    obtain ⟨_, _, hid, _⟩ := hof
    apply h.cached (ofRow_storedAvatar obj hrow hsmall) _ hobj hlt
    intro a ha heq
    apply hnew a ha
    simp only [heq, storedAvatar, UInt32.toNat_ofNat']
    have := hsmall.1
    omega
  friend _ h _ _ := h.updateAvatar fun _ => rfl
  ignored _ h _ _ := h.updateAvatar fun _ => rfl

section Lookups

/-- A lookup that gets to a row has a name and address that are stored without loss. -/
theorem narrowable_of_row {name address : U16String} {row : AvatarRow}
    (hstorable : (AvatarCall.getByName name address).Storable s) (hrow : row ∈ s.db.avatar)
    (hrowName : row.name = fromWideString name) (hrowAddress : row.address = fromWideString address)
    (hnew : ∀ a ∈ s.avatarCache, ¬ (a.self.name = name ∧ a.self.address = address)) :
    Narrowable name ∧ Narrowable address := by
  rcases hstorable with hnarrow | hnone
  · exact hnarrow
  · have hloads : ((AvatarRequest.byName name address).missing s).isSome := by
      rw [AvatarRequest.missing, if_neg (by simpa [AvatarRequest.matchesObject] using hnew),
        List.find?_isSome]
      exact ⟨row, hrow, by simp [AvatarRequest.matchesRow, hrowName, hrowAddress]⟩
    rw [hnone] at hloads
    exact absurd hloads (by simp)

/-- The row of such a name has no object yet if no object has the name. -/
theorem not_cached_of_name {name address : U16String} {row : AvatarRow} (hs : Matched s)
    (hname : Narrowable name) (haddress : Narrowable address) (hrow : row ∈ s.db.avatar)
    (hrowName : row.name = fromWideString name) (hrowAddress : row.address = fromWideString address)
    (hnew : ∀ a ∈ s.avatarCache, ¬ (a.self.name = name ∧ a.self.address = address)) :
    ∀ a ∈ s.avatarCache, a.self.avatarId.toNat ≠ row.id := by
  intro a ha heq
  obtain ⟨row', hrow', hid, han, haa⟩ := hs.rows a ha
  obtain rfl := hs.keys.ids row' hrow' row hrow (hid.trans heq)
  apply hnew a ha
  rw [han, haa, hrowName, hrowAddress]
  exact ⟨hname, haddress⟩

/-- A lookup by name keeps the invariant, and what it yields has the name and address. -/
theorem matched_getAvatar {name address : U16String} (hs : Matched s)
    (hstorable : (AvatarCall.getByName name address).Storable s) :
    (lookups True Matched).Holds (getAvatar name address) s fun found t =>
      ∀ p, found = some p → (p.name = name ∧ p.address = address) ∧ Live t.avatarCache p := by
  refine (matched_loads.getAvatar name address hs ?_).mono ?_
  · intro t row obj ht hgrown hsame hrow hrowName hrowAddress hsmall hnew hobj hlt
    obtain ⟨hname, haddress⟩ := narrowable_of_row hstorable hrow hrowName hrowAddress hnew
    have hmem : row ∈ t.db.avatar := by rwa [hgrown.db]
    apply matched_loads.cache ht hmem hsmall _ (hsame ▸ hobj) hlt
    rw [hsame]
    exact not_cached_of_name hs hname haddress hrow hrowName hrowAddress hnew
  · rintro _ t _ _ hfound p rfl
    refine ⟨?_, hfound.live⟩
    rcases hfound with ⟨_, hname, haddress, _⟩ | ⟨hnew, row, hrow, hrowName, hrowAddress, _, ⟨obj, rfl⟩, _⟩
    · exact ⟨hname, haddress⟩
    · obtain ⟨hname, haddress⟩ := narrowable_of_row hstorable hrow hrowName hrowAddress hnew
      rw [storedAvatar, hrowName, hrowAddress]
      exact ⟨hname, haddress⟩

/-- What a lookup finds is the object of a row. -/
theorem ofRow_of_live {p : AvatarPtr} (hs : Matched s) (hp : Live s.avatarCache p) : OfRow s.db p := by
  obtain ⟨a, ha, rfl⟩ := hp
  exact hs.rows a ha

end Lookups
section Creating
variable {db db' : Database} {name address : U16String}

/-- The row an insert adds takes the next id. -/
theorem insertAvatar_eq_some {userId attributes id : Nat} {name address : StdString}
    (h : db.insertAvatar userId name address attributes = some (id, db')) :
    (∀ row ∈ db.avatar, ¬ (row.name = name ∧ row.address = address)) ∧ id = db.nextAvatarId ∧
      db' = { db with
        avatar := db.avatar ++ [⟨db.nextAvatarId, userId, name, address, attributes⟩]
        nextAvatarId := db.nextAvatarId + 1 } := by
  unfold Database.insertAvatar at h
  split at h
  · exact absurd h (by simp)
  · rename_i hnone
    obtain ⟨rfl, rfl⟩ := Prod.ext_iff.mp (Option.some.inj h)
    exact ⟨fun row hrow hsame => hnone ⟨row, hrow, hsame⟩, rfl, rfl⟩

theorem Database.AvatarKeys.insertAvatar (h : db.AvatarKeys) {userId attributes id : Nat}
    {name address : StdString} (hrun : db.insertAvatar userId name address attributes = some (id, db')) :
    db'.AvatarKeys := by
  obtain ⟨hnew, -, rfl⟩ := insertAvatar_eq_some hrun
  refine ⟨?_, ?_, ?_⟩
  · intro row hrow row' hrow' heq
    rcases List.mem_append.mp hrow with hrow | hrow <;> rcases List.mem_append.mp hrow' with hrow' | hrow'
    · exact h.ids row hrow row' hrow' heq
    · have := h.next row hrow
      simp only [List.mem_singleton.mp hrow'] at heq
      omega
    · have := h.next row' hrow'
      simp only [List.mem_singleton.mp hrow] at heq
      omega
    · rw [List.mem_singleton.mp hrow, List.mem_singleton.mp hrow']
  · intro row hrow row' hrow' hname haddress
    rcases List.mem_append.mp hrow with hrow | hrow <;> rcases List.mem_append.mp hrow' with hrow' | hrow'
    · exact h.names row hrow row' hrow' hname haddress
    · rw [List.mem_singleton.mp hrow'] at hname haddress
      exact absurd ⟨hname, haddress⟩ (hnew row hrow)
    · rw [List.mem_singleton.mp hrow] at hname haddress
      exact absurd ⟨hname.symm, haddress.symm⟩ (hnew row' hrow')
    · rw [List.mem_singleton.mp hrow, List.mem_singleton.mp hrow']
  · intro row hrow
    rcases List.mem_append.mp hrow with hrow | hrow
    · exact Nat.lt_succ_of_lt (h.next row hrow)
    · rw [List.mem_singleton.mp hrow]
      exact Nat.lt_succ_self _

theorem Database.Referential.insertAvatar (h : db.Referential) {userId attributes id : Nat}
    {name address : StdString} (hrun : db.insertAvatar userId name address attributes = some (id, db')) :
    db'.Referential := by
  have hgood : db.Good True := ⟨h, fun hr => absurd trivial hr⟩
  exact (hgood.insertAvatar (fun hr => absurd trivial hr) hrun).1.1

/-- A creation either fails at its insert, which changes no row, or its avatar is the newest object and
its row the newest row. -/
theorem createAvatar_cases (name address : U16String) (userId loginAttributes : UInt32)
    (loginLocation : U16String) (s : Server) :
    createAvatar name address userId loginAttributes loginLocation s = (.error .database, { s with
        objects := s.objects + 1
        executed := s.executed + 1
        failures := s.failures + 1 }) ∨
      ∃ id db', s.fails s.executed = false ∧ s.db.insertAvatar userId.toNat (fromWideString name)
          (fromWideString address) loginAttributes.toNat = some (id, db') ∧
        createAvatar name address userId loginAttributes loginLocation s =
          (.ok ⟨s.objects, UInt32.ofNat id, name, address⟩,
            Server.cached { s with objects := s.objects + 1, executed := s.executed + 1, db := db' }
              { self := ⟨s.objects, UInt32.ofNat id, name, address⟩
                userId
                attributes := loginAttributes
                loginLocation }) := by
  let u : Server := { s with objects := s.objects + 1 }
  let statement := Statement.insertAvatar userId (fromWideString name) (fromWideString address) loginAttributes
  have hnew : newObject s = (.ok s.objects, u) := rfl
  have hkey : u.attempt statement = { u with executed := u.executed + 1 } := attempt_of_roleKey_none rfl
  rw [createAvatar, bind_ok hnew]
  by_cases hno : u.fails u.executed = true ∨ u.db.run statement = none
  · left
    have hstatement := execute_failed hno
    rw [hkey] at hstatement
    exact bind_error hstatement _
  · right
    rw [not_or, Bool.not_eq_true] at hno
    obtain ⟨⟨id, db'⟩, hrun⟩ := Option.ne_none_iff_exists'.mp hno.2
    have hstatement := execute_ok hno.1 hrun
    rw [hkey] at hstatement
    exact ⟨id, db', hno.1, hrun, bind_ok hstatement _⟩

/-- A creation keeps the invariant if the row takes its name, its address and its id without loss. -/
theorem matched_createAvatar {userId loginAttributes : UInt32} {loginLocation : U16String} (hs : Matched s)
    (hstorable : (AvatarCall.create name address userId loginAttributes loginLocation).Storable s) :
    Matched (createAvatar name address userId loginAttributes loginLocation s).2 ∧
      s.db.avatar <+: (createAvatar name address userId loginAttributes loginLocation s).2.db.avatar := by
  rcases createAvatar_cases name address userId loginAttributes loginLocation s with
    hrun | ⟨id, db', hworks, hinsert, hrun⟩
  · rw [hrun]
    exact ⟨hs.bookkeeping (Nat.le_succ _), List.prefix_rfl⟩
  · have hkeys := hs.keys.insertAvatar hinsert
    have hreferential := hs.referential.insertAvatar hinsert
    obtain ⟨hnew, rfl, hdb⟩ := insertAvatar_eq_some hinsert
    have havatar : db'.avatar = s.db.avatar ++ [⟨s.db.nextAvatarId, userId.toNat, fromWideString name,
      fromWideString address, loginAttributes.toNat⟩] := by rw [hdb]
    have hprefix : s.db.avatar <+: db'.avatar := havatar ▸ List.prefix_append _ _
    have hfits : Narrowable name ∧ Narrowable address ∧ s.db.nextAvatarId < 2 ^ 32 := by
      rcases hstorable with hfits | hfails | ⟨row, hrow, hsame⟩
      · exact hfits
      · exact absurd hfails (by simp [hworks])
      · exact absurd hsame (hnew row hrow)
    have hid : (UInt32.ofNat s.db.nextAvatarId).toNat = s.db.nextAvatarId := by
      rw [UInt32.toNat_ofNat']
      omega
    have hinserted : Matched { s with objects := s.objects + 1, executed := s.executed + 1, db := db' } :=
      ⟨⟨fun a ha => Nat.lt_succ_of_lt (hs.allocated.below a ha), hs.allocated.distinct⟩, hreferential, hkeys,
        fun a ha => (hs.rows a ha).mono hprefix, hs.unduplicated⟩
    rw [hrun]
    refine ⟨hinserted.cached ?_ ?_ hs.allocated.below (Nat.lt_succ_self _), hprefix⟩
    · have hrow := havatar ▸ List.mem_append_right s.db.avatar (List.mem_singleton.mpr rfl)
      exact ⟨_, hrow, hid.symm, hfits.1.symm, hfits.2.1.symm⟩
    · intro a ha heq
      obtain ⟨row, hrow, hrowId, _⟩ := hs.rows a ha
      have := hs.keys.next row hrow
      rw [heq] at hrowId
      simp only [hid] at hrowId
      omega

end Creating

section Steps
variable {c : AvatarCall}

theorem matched_loginAvatar (hs : Matched s) (p : AvatarPtr) :
    Matched (loginAvatar p s).2 ∧ s.db.avatar <+: (loginAvatar p s).2.db.avatar := by
  cases h : s.avatar? p with
  | none =>
    rw [loginAvatar, writeAvatar, bind_error (bind_error (readAvatar_dangling h) _)]
    exact ⟨hs, List.prefix_rfl⟩
  | some a =>
    have hwritten : Matched (s.updateAvatar p fun a => { a with isOnline := true }) :=
      hs.updateAvatar fun _ => rfl
    rw [loginAvatar, bind_ok (writeAvatar_run h _), isOnline]
    simp only [bind_assoc, get_bind_run, pure_bind]
    split
    · exact ⟨hwritten, List.prefix_rfl⟩
    · exact ⟨⟨hwritten.allocated, hwritten.referential, hwritten.keys, hwritten.rows,
        hwritten.unduplicated⟩, List.prefix_rfl⟩

theorem matched_logoutAvatar (hs : Matched s) (avatar : Option AvatarPtr) :
    Matched (logoutAvatar avatar s).2 ∧ s.db.avatar <+: (logoutAvatar avatar s).2.db.avatar := by
  cases avatar with
  | none => exact ⟨hs, List.prefix_rfl⟩
  | some p =>
    cases h : s.avatar? p with
    | none =>
      change Matched ((readAvatar p >>= _) s).2 ∧ s.db.avatar <+: ((readAvatar p >>= _) s).2.db.avatar
      rw [bind_error (readAvatar_dangling h)]
      exact ⟨hs, List.prefix_rfl⟩
    | some a =>
      have hwritten : Matched (s.updateAvatar p fun a => { a with isOnline := false }) :=
        hs.updateAvatar fun _ => rfl
      change Matched ((readAvatar p >>= _) s).2 ∧ s.db.avatar <+: ((readAvatar p >>= _) s).2.db.avatar
      rw [bind_ok (readAvatar_run h)]
      split
      · rw [bind_ok (writeAvatar_run h _)]
        exact ⟨⟨hwritten.allocated, hwritten.referential, hwritten.keys, hwritten.rows,
          hwritten.unduplicated⟩, List.prefix_rfl⟩
      · exact ⟨hs, List.prefix_rfl⟩

theorem matched_getAvatarById (hs : Matched s) (avatarId : UInt32) :
    (lookups True Matched).Holds (getAvatarById avatarId) s fun _ _ => True :=
  (matched_loads.getAvatarById avatarId hs).mono fun _ _ _ _ _ => trivial

/-- One call keeps the invariant, and the rows that were there. -/
theorem matched_call (hs : Matched s) (hstorable : c.Storable s) :
    Matched (c.run s).2 ∧ s.db.avatar <+: (c.run s).2.db.avatar := by
  have hlookup : ∀ {x : Serve (Option AvatarPtr)} {Q}, (lookups True Matched).Holds x s Q →
      Matched (x s).2 ∧ s.db.avatar <+: (x s).2.db.avatar := by
    intro x Q h
    unfold Holds Ends at h
    rcases hx : x s with ⟨_ | _, t⟩ <;> rw [hx] at h <;> exact ⟨h.1, h.2.1.db ▸ List.prefix_rfl⟩
  cases c with
  | getByName name address => exact hlookup (matched_getAvatar hs hstorable)
  | getById avatarId => exact hlookup (matched_getAvatarById hs avatarId)
  | create name address userId loginAttributes loginLocation =>
    have hcreated := matched_createAvatar hs hstorable
    rw [AvatarCall.run, map_eq_pure_bind, bind_run]
    rcases hx : createAvatar name address userId loginAttributes loginLocation s with ⟨_ | _, t⟩ <;>
      rw [hx] at hcreated <;> exact hcreated
  | login p =>
    have hlogin := matched_loginAvatar hs p
    rw [AvatarCall.run, bind_run]
    rcases hx : loginAvatar p s with ⟨_ | _, t⟩ <;> rw [hx] at hlogin <;> exact hlogin
  | logout p =>
    have hlogout := matched_logoutAvatar hs p
    rw [AvatarCall.run, bind_run]
    rcases hx : logoutAvatar p s with ⟨_ | _, t⟩ <;> rw [hx] at hlogout <;> exact hlogout

theorem matched_avatarCall (hs : Matched s) (hstorable : c.Storable s) (hstep : s.avatarCall c = some t) :
    Matched t ∧ s.db.avatar <+: t.db.avatar := by
  have hcall := matched_call hs hstorable
  unfold Server.avatarCall at hstep
  split at hstep <;> rename_i hrun <;> rw [hrun] at hcall
  · exact Option.some.inj hstep ▸ hcall
  · split at hstep
    · exact Option.some.inj hstep ▸ hcall
    · exact absurd hstep (by simp)

end Steps

/-- Calls whose names are stored without loss. -/
abbrev Server.StorableCalls : Server → Server → Prop := Server.AvatarCalls fun s c => c.Storable s

theorem matched_calls (hs : Matched s) (hrun : s.StorableCalls t) :
    Matched t ∧ s.db.avatar <+: t.db.avatar := by
  induction hrun with
  | refl => exact ⟨hs, List.prefix_rfl⟩
  | tail _ hstep ih =>
    obtain ⟨c, hstorable, hstep⟩ := hstep
    have hnext := matched_avatarCall ih.1 hstorable hstep
    exact ⟨hnext.1, ih.2.trans hnext.2⟩

theorem matched_start {db : Database} (hkeys : db.AvatarKeys) (hreferential : db.Referential)
    (fails : Nat → Bool) (version : UInt32) (policyConfig : Policy.Config) :
    Matched (Server.start db fails version policyConfig) where
  allocated := ⟨fun _ ha => absurd ha List.not_mem_nil, fun _ ha => absurd ha List.not_mem_nil⟩
  referential := hreferential
  keys := hkeys
  rows _ ha := absurd ha List.not_mem_nil
  unduplicated := List.nodup_nil

theorem matched_found {name address : U16String} {p : AvatarPtr} (hs : Matched s)
    (hstorable : (AvatarCall.getByName name address).Storable s)
    (hfound : getAvatar name address s = (.ok (some p), t)) :
    Matched t ∧ t.db = s.db ∧ (p.name = name ∧ p.address = address) ∧ OfRow t.db p := by
  obtain ⟨ht, hgrown, hp⟩ := (matched_getAvatar hs hstorable).ok_of_run hfound
  obtain ⟨hnames, hlive⟩ := hp p rfl
  exact ⟨ht, hgrown.db, hnames, ofRow_of_live ht hlive⟩

/-- As long as every name that gets to a row is stored without loss, a lookup by name yields the avatar
of that name, no two names yield one avatar, and no two objects have one id. -/
theorem lookups_faithful {db : Database} {fails : Nat → Bool} {version : UInt32} {policyConfig : Policy.Config}
    (hkeys : db.AvatarKeys) (hreferential : db.Referential)
    (hrun : (Server.start db fails version policyConfig).StorableCalls s) :
    s.Unduplicated ∧ ∀ name address p t, (AvatarCall.getByName name address).Storable s →
      getAvatar name address s = (.ok (some p), t) → p.name = name ∧ p.address = address ∧
        ∀ u, t.StorableCalls u → ∀ name' address' p' v, (AvatarCall.getByName name' address').Storable u →
          getAvatar name' address' u = (.ok (some p'), v) →
            (p'.avatarId = p.avatarId ↔ name' = name ∧ address' = address) := by
  have hs := (matched_calls (matched_start hkeys hreferential fails version policyConfig) hrun).1
  refine ⟨hs.unduplicated, fun name address p t hstorable hfound => ?_⟩
  obtain ⟨ht, -, ⟨rfl, rfl⟩, hrow⟩ := matched_found hs hstorable hfound
  refine ⟨rfl, rfl, fun u hlater name' address' p' v hstorable' hfound' => ?_⟩
  obtain ⟨hu, hsub⟩ := matched_calls ht hlater
  obtain ⟨-, hdb, ⟨rfl, rfl⟩, hrow'⟩ := matched_found hu hstorable' hfound'
  exact OfRow.eq_iff hu.keys (hdb ▸ hrow') (hrow.mono hsub)

section Concrete

/-- One stored avatar, named A at address a. -/
def Database.avatarA : Database := { Database.empty with avatar := [⟨1, 1, [0x41], [0x61], 0⟩], nextAvatarId := 2 }

def Server.avatarA : Server := Server.start .avatarA (fun _ => false) 2 {}

theorem Database.avatarA_keys : Database.avatarA.AvatarKeys := by
  refine ⟨?_, ?_, ?_⟩ <;> decide

theorem Database.avatarA_referential : Database.avatarA.Referential := by
  refine ⟨?_, ?_⟩ <;> decide

theorem lookups_faithful_avatarA : ∃ s, Server.avatarA.StorableCalls s ∧ s.avatarCache.length = 2 ∧
    s.Unduplicated ∧ (getAvatar [0x42] [0x61] s).1 = .ok (some ⟨1, 2, [0x42], [0x61]⟩) ∧
      ∀ u, (getAvatar [0x42] [0x61] s).2.StorableCalls u → ∀ p v,
        getAvatar [0x41] [0x61] u = (.ok (some p), v) → p.avatarId ≠ 2 := by
  obtain ⟨s, hrun, hlength, hfound⟩ : ∃ s, Server.avatarA.StorableCalls s ∧ s.avatarCache.length = 2 ∧
      (getAvatar [0x42] [0x61] s).1 = .ok (some ⟨1, 2, [0x42], [0x61]⟩) :=
    Runs.exists_of_admitted [.getByName [0x41] [0x61], .create [0x42] [0x61] 7 0 []] (by decide +kernel)
  obtain ⟨hone, hlookup⟩ := lookups_faithful Database.avatarA_keys Database.avatarA_referential hrun
  obtain ⟨-, -, hlater⟩ := hlookup [0x42] [0x61] _ _ (.inl (by decide)) (Prod.ext hfound rfl)
  refine ⟨s, hrun, hlength, hone, hfound, fun u hu p v hp heq => ?_⟩
  have hsame := (hlater u hu [0x41] [0x61] p v (.inl (by decide)) hp).mp heq
  exact absurd hsame.1 (by decide)

/-- A second lookup whose name differs in its high bytes yields the same avatar in a second object, and
one such name yields the avatar named SYSTEM. -/
theorem other_name_yields_the_avatar :
    (∃ s, Server.AvatarCalls (fun _ _ => True) Server.avatarA s ∧
      (getAvatar [0x41] [0x61] s).1 = .ok (some ⟨0, 1, [0x41], [0x61]⟩) ∧
      (getAvatar [0x141] [0x61] s).1 = .ok (some ⟨1, 1, [0x41], [0x61]⟩) ∧
      ¬ (getAvatar [0x141] [0x61] s).2.Unduplicated) ∧
    (getAvatar [0x153, 0x59, 0x53, 0x54, 0x45, 0x4D] [0x61] (Server.start { Database.empty with
      avatar := [⟨1, 1, literal "SYSTEM", [0x61], 0⟩] } (fun _ => false) 2 {})).1 =
        .ok (some ⟨0, 1, systemName, [0x61]⟩) := by
  refine ⟨?_, by decide +kernel⟩
  exact Runs.exists_of_inputs [.getByName [0x41] [0x61]] (by decide +kernel) fun _ _ => trivial

end Concrete
end StationChat
