import StationChat.Gateway.GetAvatar
import StationChat.Protocol.Handlers

/-! The two avatar lookups as one kind of request, and the lookups with which handlers begin. -/
namespace StationChat
open Lib Lib.Action Lib.Contract

/-- The two overloads of `GetAvatar`. -/
inductive AvatarRequest where
  | byName (name address : U16String)
  | byId (avatarId : UInt32)
  deriving DecidableEq, Repr

namespace AvatarRequest

def run : AvatarRequest → Serve (Option AvatarPtr)
  | byName name address => getAvatar name address
  | byId avatarId => getAvatarById avatarId

/-- The test on the objects of the cache. -/
def matchesObject : AvatarRequest → ChatAvatar → Bool
  | byName name address, a => a.self.name == name && a.self.address == address
  | byId avatarId, a => a.self.avatarId == avatarId

/-- The test on the rows of the table. -/
def matchesRow : AvatarRequest → AvatarRow → Bool
  | byName name address, row => row.name = fromWideString name ∧ row.address = fromWideString address
  | byId avatarId, row => row.id = avatarId.toNat

/-- The row the lookup loads; there is none if the avatar is cached or not stored. -/
def missing (request : AvatarRequest) (s : Server) : Option AvatarRow :=
  if s.avatarCache.any request.matchesObject then none else s.db.avatar.find? request.matchesRow

end AvatarRequest

section Runs
variable {s : Server} {request : AvatarRequest} {row : AvatarRow}

/-- The query that a lookup sends first. -/
def AvatarRequest.statement : AvatarRequest → Statement (List AvatarRow)
  | byName name address => .selectAvatarByName (fromWideString name) (fromWideString address)
  | byId avatarId => .selectAvatarById avatarId

/-- How contacts are looked up by the list loaders of the lookup. -/
def AvatarRequest.nested (s : Server) : AvatarRequest → UInt32 → Serve (Option AvatarPtr)
  | byName _ _ => getAvatarById
  | byId _ => fun id => getAvatarWithin s.db.avatar.length id

theorem run_eq (request : AvatarRequest) (s : Server) : request.run s =
    (match s.avatarCache.find? request.matchesObject with
      | some a => pure (some a.self)
      | none => (execute request.statement >>= readAvatarRow) >>= adopt (request.nested s)) s := by
  cases request with
  | byName name address =>
    have hcached : getCachedAvatar name address s =
        (.ok ((s.avatarCache.find? (AvatarRequest.byName name address).matchesObject).map (·.self)), s) := rfl
    rw [AvatarRequest.run, getAvatar, bind_ok hcached]
    cases s.avatarCache.find? (AvatarRequest.byName name address).matchesObject <;> rfl
  | byId avatarId =>
    have hcached : getCachedAvatarById avatarId s =
        (.ok ((s.avatarCache.find? (AvatarRequest.byId avatarId).matchesObject).map (·.self)), s) := rfl
    rw [AvatarRequest.run, getAvatarById, get_bind_run, Server.loadDepth, getAvatarWithin, bind_ok hcached]
    cases s.avatarCache.find? (AvatarRequest.byId avatarId).matchesObject <;> rfl

theorem run_of_cached {a : ChatAvatar} (h : s.avatarCache.find? request.matchesObject = some a) :
    request.run s = (.ok (some a.self), s) := by
  rw [run_eq, h]
  rfl

theorem run_of_not_cached (h : s.avatarCache.find? request.matchesObject = none) :
    request.run s = ((execute request.statement >>= readAvatarRow) >>= adopt (request.nested s)) s := by
  rw [run_eq, h]

theorem run_statement (db : Database) :
    db.run request.statement = some (db.avatar.filter request.matchesRow, db) := by
  cases request <;> rfl

theorem roleKey_statement (request : AvatarRequest) : request.statement.roleKey = none := by
  cases request <;> rfl

theorem missing_eq_some : request.missing s = some row ↔
    s.avatarCache.find? request.matchesObject = none ∧ s.db.avatar.find? request.matchesRow = some row := by
  rw [AvatarRequest.missing, List.find?_eq_none]
  split
  · rename_i hany
    obtain ⟨a, ha, hmatch⟩ := List.any_eq_true.mp hany
    exact iff_of_false (by simp) fun h => h.1 a ha hmatch
  · rename_i hany
    rw [Bool.not_eq_true, List.any_eq_false] at hany
    exact (and_iff_right hany).symm

/-- A lookup whose statement fails. -/
theorem run_of_failing (h : s.avatarCache.find? request.matchesObject = none)
    (hfails : s.fails s.executed = true) : request.run s =
      (.error .database, { s with executed := s.executed + 1, failures := s.failures + 1 }) := by
  have hstatement : execute request.statement s =
      (.error .database, { s with executed := s.executed + 1, failures := s.failures + 1 }) := by
    rw [execute_failed (.inl hfails), attempt_of_roleKey_none (roleKey_statement request)]
  rw [run_of_not_cached h, bind_error (bind_error hstatement _)]

/-- The avatar that a lookup yields if it yields one: the first cached object, or one loaded from its row. -/
def Server.Finds (s : Server) (request : AvatarRequest) (p : AvatarPtr) : Prop :=
  match s.avatarCache.find? request.matchesObject with
  | some a => p = a.self
  | none => ∃ row ∈ s.db.avatar, request.matchesRow row = true ∧ ∃ obj, p = (storedAvatar obj row).self

/-- An object that was loaded from a row is found where the row is. -/
theorem matchesRow_of_stored {obj : Nat} {a : ChatAvatar} (hsmall : row.Small) (hself : a.self = (storedAvatar obj row).self)
    (h : request.matchesObject a = true) : request.matchesRow row = true := by
  cases request with
  | byName name address =>
    simp only [AvatarRequest.matchesObject, hself, storedAvatar, Bool.and_eq_true, beq_iff_eq] at h
    obtain ⟨hname, haddress⟩ := h
    simp [AvatarRequest.matchesRow, ← hname, ← haddress]
  | byId avatarId =>
    have hid : row.id < 2 ^ 31 := hsmall.1
    simp only [AvatarRequest.matchesObject, hself, storedAvatar, beq_iff_eq] at h
    rw [AvatarRequest.matchesRow, ← h, UInt32.toNat_ofNat']
    exact decide_eq_true (by omega)

/-- Lookups of other avatars make no difference to it. -/
theorem Server.Finds.of_grown {t : Server} {p : AvatarPtr} (hgrown : Grown s t) (h : t.Finds request p) :
    s.Finds request p := by
  obtain ⟨more, hmore⟩ := hgrown.cache
  unfold Server.Finds at h ⊢
  cases hs : s.avatarCache.find? request.matchesObject with
  | some a =>
    rw [← hmore, List.find?_append, hs] at h
    exact h
  | none =>
    cases ht : t.avatarCache.find? request.matchesObject with
    | none =>
      rw [ht, hgrown.db] at h
      exact h
    | some a =>
      rw [ht] at h
      have hmatches : request.matchesObject a = true := List.find?_some ht
      rcases hgrown.loaded a.self ⟨a, List.mem_of_find?_eq_some ht, rfl⟩ with
        ⟨b, hb, hself⟩ | ⟨row, hrow, hsmall, obj, hself⟩
      · refine absurd ?_ (List.find?_eq_none.mp hs b hb)
        cases request <;> simpa only [AvatarRequest.matchesObject, hself] using hmatches
      · exact ⟨row, hrow, matchesRow_of_stored hsmall hself hmatches, obj, h.trans hself⟩

theorem Found.finds {avatarId : UInt32} {p : AvatarPtr} {t : Server} (h : Found s avatarId (some p) t) :
    s.Finds (.byId avatarId) p := by
  unfold Server.Finds
  rcases h.2 with ⟨a, ha, hp, _⟩ | ⟨hnew, row, hrow, hid, _, ⟨obj, hp⟩, _⟩
  · rw [show s.avatarCache.find? (AvatarRequest.byId avatarId).matchesObject = some a from ha]
    exact hp.symm
  · have hnone : s.avatarCache.find? (AvatarRequest.byId avatarId).matchesObject = none :=
      List.find?_eq_none.mpr fun a ha => by simpa [AvatarRequest.matchesObject] using hnew a ha
    rw [hnone]
    exact ⟨row, hrow, decide_eq_true hid, obj, hp⟩

end Runs

section Required

/-- What a handler throws for an avatar that is not there. -/
def AvatarRequest.absent : AvatarRequest → Exn
  | byName name address => .chatResult .destAvatarDoesntExist (nameAtAddress name address)
  | byId avatarId => .chatResult .srcAvatarDoesntExist (idText avatarId)

/-- `requireSrcAvatar` and `requireDestAvatar`. -/
def AvatarRequest.required (request : AvatarRequest) : Serve AvatarPtr := do
  match ← request.run with
  | some avatar => pure avatar
  | none => throw request.absent

theorem requireSrcAvatar_eq (avatarId : UInt32) :
    requireSrcAvatar avatarId = (AvatarRequest.byId avatarId).required := rfl

theorem requireDestAvatar_eq (name address : U16String) :
    requireDestAvatar name address = (AvatarRequest.byName name address).required := rfl

variable {s : Server} {request : AvatarRequest} {a : ChatAvatar}

theorem required_of_cached (h : s.avatarCache.find? request.matchesObject = some a) :
    request.required s = (.ok a.self, s) := by
  rw [AvatarRequest.required, bind_ok (run_of_cached h)]
  rfl

theorem required_of_failing (h : s.avatarCache.find? request.matchesObject = none)
    (hfails : s.fails s.executed = true) : request.required s =
      (.error .database, { s with executed := s.executed + 1, failures := s.failures + 1 }) := by
  rw [AvatarRequest.required, bind_error (run_of_failing h hfails)]

theorem requireSrcAvatar_cached {avatarId : UInt32}
    (h : s.avatarCache.find? (·.self.avatarId == avatarId) = some a) :
    requireSrcAvatar avatarId s = (.ok a.self, s) := by
  rw [requireSrcAvatar_eq]
  exact required_of_cached h

/-- The room with an address, or the exception for a missing one. -/
theorem requireRoom_run (roomAddress : U16String) (missing : ChatResultCode) :
    requireRoom roomAddress missing s =
      (match s.rooms.findIdx? fun room => roomAddress == room.roomAddress with
        | some room => .ok room
        | none => .error (.chatResult missing (cStr (fromWideString roomAddress))), s) := by
  have hget : getRoom roomAddress s =
      (.ok (s.rooms.findIdx? fun room => roomAddress == room.roomAddress), s) := rfl
  rw [requireRoom, bind_ok hget]
  cases s.rooms.findIdx? fun room => roomAddress == room.roomAddress <;> rfl

end Required
end StationChat
