import StationChat.Gateway.Rooms
import StationChat.Gateway.Encoding
import StationChat.Protocol.Gateway

/-! What a request must satisfy so that a kind of trouble stays away, read off the state in which
it arrives. -/
namespace StationChat
open Lib Lib.Action Lib.Contract

namespace Server

/-- A lookup by id would find an avatar, in the cache or in the table. -/
def HasAvatarId (s : Server) (avatarId : UInt32) : Prop :=
  (∃ a ∈ s.avatarCache, a.self.avatarId = avatarId) ∨ s.db.HasAvatar avatarId.toNat

def HasAvatarNamed (s : Server) (name address : U16String) : Prop :=
  (∃ a ∈ s.avatarCache, a.self.name = name ∧ a.self.address = address) ∨
    ∃ row ∈ s.db.avatar, row.name = fromWideString name ∧ row.address = fromWideString address

/-- The ignore list a lookup by id would yield is empty. -/
def IgnoresNobody (s : Server) (avatarId : UInt32) : Prop :=
  match s.avatarCache.find? (·.self.avatarId == avatarId) with
  | some a => a.ignoreList = []
  | none => ∀ row ∈ s.db.ignore, row.avatarId ≠ avatarId.toNat

/-- A new avatar row with these values would be readable. -/
def AvatarFits (s : Server) (userId attributes : UInt32) : Prop :=
  s.db.nextAvatarId < 2 ^ 31 ∧ userId.toNat < 2 ^ 31 ∧ attributes.toNat < 2 ^ 31

end Server

namespace Request

/-- The avatars that a handler uses without a check are there. -/
def NullSafe (s : Server) : Request → Prop
  | .createRoom r =>
    s.HasAvatarId r.creatorId ∨ s.roomExists (fullAddress r.roomAddress r.roomName) = true
  | .logoutAvatar r => s.HasAvatarId r.avatarId
  | .removeIgnore r =>
    s.HasAvatarNamed r.destName r.destAddress ∨ ¬ s.HasAvatarId r.srcAvatarId ∨
      s.IgnoresNobody r.srcAvatarId
  | _ => True

/-- The integers that the request stores are in the range of `ColumnInt`. -/
def InRange (s : Server) : Request → Prop
  | .loginAvatar r =>
    s.HasAvatarNamed r.name r.address ∨ s.AvatarFits r.userId r.loginAttributes.toUInt32
  | .failoverReLoginAvatar r =>
    s.HasAvatarNamed r.name r.address ∨ s.AvatarFits r.userId r.attributes
  | .createRoom r =>
    s.roomExists (fullAddress r.roomAddress r.roomName) = true ∨
      r.roomAttributes &&& RoomAttribute.persistent.mask = 0 ∨
      s.db.nextRoomId < 2 ^ 31 ∧ r.roomAttributes.toNat < 2 ^ 31 ∧ r.roomMaxSize.toNat < 2 ^ 31
  | .setAvatarAttributes r =>
    r.persistent = 0 ∨ r.avatarAttributes.toNat < 2 ^ 31 ∨ ¬ s.HasAvatarId r.avatarId ∨
      ∃ a, s.avatarCache.find? (·.self.avatarId == r.avatarId) = some a ∧
        a.attributes = r.avatarAttributes
  | .sendPersistentMessage r =>
    ¬ s.HasAvatarNamed r.destName r.destAddress ∨
      s.time.toNat < 2 ^ 31 ∧ s.db.nextMessageId < 2 ^ 31
  | .updatePersistentMessage r =>
    r.status.toNat < 2 ^ 31 ∨ ∀ row ∈ s.db.persistentMessage,
      ¬ (row.id = r.messageId.toNat ∧ row.avatarId = r.srcAvatarId.toNat)
  | .updatePersistentMessages r =>
    r.newStatus.toNat < 2 ^ 31 ∨ ∀ row ∈ s.db.persistentMessage,
      ¬ (row.avatarId = r.srcAvatarId.toNat ∧ row.category = fromWideString r.category)
  | _ => True

/-- Nobody makes a moderator in a room of his that was loaded: no other operation passes its checks
in such a room. -/
def Serviced (s : Server) : Request → Prop
  | .addModerator r => ∀ room ∈ s.rooms, room.roomAddress = r.destRoomAddress →
      room.isPersistent = true → room.isCreator r.srcAvatarId = true →
      s.HasAvatarId r.srcAvatarId → s.HasAvatarNamed r.destAvatarName r.destAvatarAddress →
      room.roomService = .owner
  | _ => True

/-- At most one room stands behind the room to be destroyed. -/
def Settled (s : Server) : Request → Prop
  | .destroyRoom r => ∀ room, s.rooms.findIdx? (r.roomAddress == ·.roomAddress) = some room →
      s.HasAvatarId r.srcAvatarId → s.rooms.length ≤ room + 2
  | _ => True

/-- Each kind of trouble that is not tolerated is ruled out. -/
structure Admissible (P : Exn → Prop) (s : Server) (request : Request) : Prop where
  nullSafe : ¬ P .nullPointer → request.NullSafe s
  inRange : ¬ P .outOfRange → request.InRange s
  serviced : ¬ P .unsetService → request.Serviced s
  settled : ¬ P .freedRoom → request.Settled s

end Request

section Found
variable {s t : Server} {avatarId : UInt32} {name address : U16String} {p : AvatarPtr}

theorem Found.hasAvatarId (h : Found s avatarId (some p) t) : s.HasAvatarId avatarId := by
  rcases h.2 with ⟨a, ha, hp, _⟩ | ⟨_, row, hrow, hid, _⟩
  · have hid : a.self.avatarId = avatarId := hp ▸ h.1
    exact .inl ⟨a, List.mem_of_find?_eq_some ha, hid⟩
  · exact .inr ⟨row, hrow, hid⟩

theorem Found.not_hasAvatarId (h : Found s avatarId none t) : ¬ s.HasAvatarId avatarId := by
  rintro (⟨a, ha, hid⟩ | ⟨row, hrow, hid⟩)
  · exact h.2.1 a ha hid
  · exact h.2.2 row hrow hid

theorem FoundNamed.hasAvatarNamed (h : FoundNamed s name address (some p) t) :
    s.HasAvatarNamed name address := by
  rcases h with ⟨⟨a, ha, hp⟩, hname, haddress, _⟩ | ⟨_, row, hrow, hname, haddress, _⟩
  · exact .inl ⟨a, ha, hp ▸ ⟨hname, haddress⟩⟩
  · exact .inr ⟨row, hrow, hname, haddress⟩

theorem FoundNamed.not_hasAvatarNamed (h : FoundNamed s name address none t) :
    ¬ s.HasAvatarNamed name address := by
  rintro (⟨a, ha, hname⟩ | ⟨row, hrow, hname⟩)
  · exact h.2.1 a ha hname
  · exact h.2.2 row hrow hname

/-- An avatar that lookups brought into the cache was in the table before. -/
theorem Grown.hasAvatarNamed (h : Grown s t) :
    t.HasAvatarNamed name address ↔ s.HasAvatarNamed name address := by
  constructor
  · rintro (⟨a, ha, rfl, rfl⟩ | ⟨row, hrow, hname⟩)
    · rcases h.loaded a.self ⟨a, ha, rfl⟩ with ⟨b, hb, hself⟩ | ⟨row, hrow, _, obj, hself⟩
      · exact .inl ⟨b, hb, by rw [hself], by rw [hself]⟩
      · exact .inr ⟨row, hrow, by simp [hself, storedAvatar], by simp [hself, storedAvatar]⟩
    · exact .inr ⟨row, h.db ▸ hrow, hname⟩
  · rintro (⟨a, ha, hname⟩ | ⟨row, hrow, hname⟩)
    · exact .inl ⟨a, h.cache.subset ha, hname⟩
    · exact .inr ⟨row, h.db ▸ hrow, hname⟩

/-- The avatar a lookup by id found ignores nobody, if the lookup was to find such a one. -/
theorem Found.ignoreList_nil (hs : Allocated t.avatarCache t.objects)
    (h : Found s avatarId (some p) t) (hnobody : s.IgnoresNobody avatarId) :
    ∀ a ∈ t.avatarCache, a.self = p → a.ignoreList = [] := by
  intro b hb hbp
  rcases h.2 with ⟨a, ha, hp, rfl⟩ | ⟨hnew, row, _, _, _, _, hfill⟩
  · have hab : b = a := hs.distinct b hb a (List.mem_of_find?_eq_some ha) (by rw [hbp, hp])
    rw [Server.IgnoresNobody, ha] at hnobody
    rw [hab]
    exact hnobody
  · have hnone : s.avatarCache.find? (·.self.avatarId == avatarId) = none := by
      simpa using hnew
    rw [Server.IgnoresNobody, hnone] at hnobody
    obtain ⟨a, more, hcache, hp, ha⟩ := hfill.cache
    have hmem : a ∈ t.avatarCache := by simp [hcache]
    have hab : b = a := hs.distinct b hb a hmem (by rw [hbp, hp])
    rw [hab]
    exact ha (h.1 ▸ hnobody)

end Found
end StationChat
