import StationChat.Model.Text

/-! Avatars and pointers to them. -/
namespace StationChat

/-- A non-null `ChatAvatar*`: which object it points to, with the three fields that no statement
assigns once the object is in `avatarCache_`. -/
structure AvatarPtr where
  obj : Nat
  avatarId : UInt32
  name : U16String
  address : U16String
  deriving DecidableEq, Repr

/-- `frnd` is whatever `GetAvatar` returned while the list was loaded, so it may be null. -/
structure FriendContact where
  frnd : Option AvatarPtr
  comment : U16String
  deriving DecidableEq, Repr

structure IgnoreContact where
  ignored : Option AvatarPtr
  deriving DecidableEq, Repr

/-- An avatar object; `self` is its own address with the constant fields. -/
structure ChatAvatar where
  self : AvatarPtr
  userId : UInt32 := 0
  attributes : UInt32 := 0
  loginLocation : U16String := []
  server : U16String := []
  gateway : U16String := []
  serverId : UInt32 := 0
  gatewayId : UInt32 := 0
  statusMessage : U16String := []
  isOnline : Bool := false
  friendList : List FriendContact := []
  ignoreList : List IgnoreContact := []
  deriving DecidableEq, Repr

/-- The name whose login registers a game server and loads its rooms: `u"SYSTEM"`. -/
def systemName : U16String := [0x53, 0x59, 0x53, 0x54, 0x45, 0x4D]

end StationChat
