import StationChat.Model.Server

/-! The avatar service with its cache, and the contact lists of one avatar. -/
namespace StationChat
open Lib Lib.Action

def getCachedAvatar (name address : U16String) : Serve (Option AvatarPtr) := do
  pure (((← get).avatarCache.find? fun a =>
    a.self.name == name && a.self.address == address).map (·.self))

def getCachedAvatarById (avatarId : UInt32) : Serve (Option AvatarPtr) := do
  pure (((← get).avatarCache.find? (·.self.avatarId == avatarId)).map (·.self))

/-- `std::make_unique<ChatAvatar>`: a fresh object. -/
def newObject : Serve Nat := do
  let s ← get
  modify fun s => { s with objects := s.objects + 1 }
  pure s.objects

/-- Both overloads of `LoadStoredAvatar` read the first row of their query this way. -/
def readAvatarRow : List AvatarRow → Serve (Option ChatAvatar)
  | [] => pure none
  | row :: _ => do
    let obj ← newObject
    let avatarId ← columnInt row.id
    let userId ← columnInt row.userId
    let attributes ← columnInt row.attributes
    pure (some {
      self := ⟨obj, avatarId, toWideString row.name, toWideString row.address⟩
      userId := userId
      attributes := attributes })

def loadStoredAvatar (name address : U16String) : Serve (Option ChatAvatar) := do
  readAvatarRow (← execute (.selectAvatarByName (fromWideString name) (fromWideString address)))

def loadStoredAvatarById (avatarId : UInt32) : Serve (Option ChatAvatar) := do
  readAvatarRow (← execute (.selectAvatarById avatarId))

/-- `avatarCache_.emplace_back`. -/
def cacheAvatar (avatar : ChatAvatar) : Serve Unit :=
  modify fun s => { s with avatarCache := s.avatarCache ++ [avatar] }

section Lists
variable (getAvatar : UInt32 → Serve (Option AvatarPtr))

/-- The loop of both list loaders: a row names an avatar by `key`, and `push` appends it. -/
def loadContacts {ρ : Type} (key : ρ → Nat)
    (push : ρ → Option AvatarPtr → ChatAvatar → ChatAvatar) (avatar : AvatarPtr) (rows : List ρ) :
    Serve Unit :=
  forM rows fun row => do
    let tmpId ← columnInt (key row)
    let contact ← getAvatar tmpId
    writeAvatar avatar (push row contact)

def pushFriend (row : FriendRow) (frnd : Option AvatarPtr) (a : ChatAvatar) : ChatAvatar :=
  { a with friendList := a.friendList ++ [⟨frnd, toWideString row.comment⟩] }

def pushIgnored (_ : IgnoreRow) (ignored : Option AvatarPtr) (a : ChatAvatar) : ChatAvatar :=
  { a with ignoreList := a.ignoreList ++ [⟨ignored⟩] }

def loadFriendList (avatar : AvatarPtr) : Serve Unit := do
  let rows ← execute (.selectFriends avatar.avatarId)
  loadContacts getAvatar FriendRow.friendAvatarId pushFriend avatar rows

def loadIgnoreList (avatar : AvatarPtr) : Serve Unit := do
  let rows ← execute (.selectIgnored avatar.avatarId)
  loadContacts getAvatar IgnoreRow.ignoreAvatarId pushIgnored avatar rows

/-- What both overloads of `GetAvatar` do with the avatar they loaded: it enters the cache first,
then its two lists are filled in. -/
def adopt : Option ChatAvatar → Serve (Option AvatarPtr)
  | none => pure none
  | some loaded => do
    cacheAvatar loaded
    loadFriendList getAvatar loaded.self
    loadIgnoreList getAvatar loaded.self
    pure (some loaded.self)

end Lists

/-- `GetAvatar(avatarId)` calls itself through the two list loaders; `fuel` bounds the depth. -/
def getAvatarWithin : Nat → UInt32 → Serve (Option AvatarPtr)
  | 0, _ => throw .outOfFuel
  | fuel + 1, avatarId => do
    match ← getCachedAvatarById avatarId with
    | some avatar => pure (some avatar)
    | none =>
      let loaded ← loadStoredAvatarById avatarId
      adopt (fun id => getAvatarWithin fuel id) loaded

/-- Each nested call caches another stored avatar, so this depth is never exceeded. -/
def Server.loadDepth (s : Server) : Nat := s.db.avatar.length + 1

def getAvatarById (avatarId : UInt32) : Serve (Option AvatarPtr) := do
  getAvatarWithin (← get).loadDepth avatarId

def getAvatar (name address : U16String) : Serve (Option AvatarPtr) := do
  match ← getCachedAvatar name address with
  | some avatar => pure (some avatar)
  | none =>
    let loaded ← loadStoredAvatar name address
    adopt getAvatarById loaded

def createAvatar (name address : U16String) (userId loginAttributes : UInt32)
    (loginLocation : U16String) : Serve AvatarPtr := do
  let obj ← newObject
  let id ← execute
    (.insertAvatar userId (fromWideString name) (fromWideString address) loginAttributes)
  let self : AvatarPtr := ⟨obj, UInt32.ofNat id, name, address⟩
  cacheAvatar { self, userId, attributes := loginAttributes, loginLocation }
  pure self

def isOnline (avatar : AvatarPtr) : Serve Bool := do
  pure ((← get).onlineAvatars.any (·.avatarId == avatar.avatarId))

def loginAvatar (avatar : AvatarPtr) : Serve Unit := do
  writeAvatar avatar fun a => { a with isOnline := true }
  unless ← isOnline avatar do
    modify fun s => { s with onlineAvatars := s.onlineAvatars ++ [avatar] }

def logoutAvatar (avatar : Option AvatarPtr) : Serve Unit := do
  let avatar ← deref avatar
  if (← readAvatar avatar).isOnline then
    writeAvatar avatar fun a => { a with isOnline := false }
    modify fun s =>
      { s with onlineAvatars := s.onlineAvatars.filter (·.avatarId != avatar.avatarId) }

/-- `PersistAvatar`, whose only step is `UpdateAvatar`. -/
def persistAvatar (avatar : AvatarPtr) : Serve Unit := do
  let a ← readAvatar avatar
  execute (.updateAvatar a.userId (fromWideString avatar.name) (fromWideString avatar.address)
    a.attributes avatar.avatarId)

def persistFriend (srcAvatarId destAvatarId : UInt32) (comment : U16String) : Serve Unit :=
  execute (.insertFriend srcAvatarId destAvatarId (fromWideString comment))

def persistIgnore (srcAvatarId destAvatarId : UInt32) : Serve Unit :=
  execute (.insertIgnore srcAvatarId destAvatarId)

/-- `ChatAvatarService::DestroyAvatar`. -/
def destroyAvatar (avatar : AvatarPtr) : Serve Unit := do
  execute (.deleteAvatar avatar.avatarId)
  logoutAvatar (some avatar)
  modify fun s => { s with avatarCache := s.avatarCache.filter (·.self.avatarId != avatar.avatarId) }

/-- The comparison all the contact predicates make, through two pointers. -/
def sameAvatar (contact avatar : Option AvatarPtr) : Serve Bool := do
  let c ← deref contact
  let a ← deref avatar
  pure (c.avatarId == a.avatarId)

section Contacts
variable (self : AvatarPtr) (avatar : Option AvatarPtr)

def isFriend : Serve Bool := do
  (← readAvatar self).friendList.anyM fun contact => sameAvatar contact.frnd avatar

def isIgnored : Serve Bool := do
  (← readAvatar self).ignoreList.anyM fun contact => sameAvatar contact.ignored avatar

/-- `ChatAvatar::RemoveFriend`. Memory and table change only if some contact matched. -/
def removeFriend : Serve Unit := do
  let friendList := (← readAvatar self).friendList
  let kept ← removeIf (fun contact => sameAvatar contact.frnd avatar) friendList
  if kept.length < friendList.length then
    writeAvatar self fun a => { a with friendList := kept }
    execute (.deleteFriend self.avatarId (← deref avatar).avatarId)

def removeIgnore : Serve Unit := do
  let ignoreList := (← readAvatar self).ignoreList
  let kept ← removeIf (fun contact => sameAvatar contact.ignored avatar) ignoreList
  if kept.length < ignoreList.length then
    writeAvatar self fun a => { a with ignoreList := kept }
    execute (.deleteIgnore self.avatarId (← deref avatar).avatarId)

/-- `ChatAvatar::UpdateFriendComment`. -/
def updateFriendComment (comment : U16String) : Serve Unit := do
  let friendList := (← readAvatar self).friendList
  match ← findIf (fun contact => sameAvatar contact.frnd avatar) friendList with
  | some found =>
    writeAvatar self fun a =>
      { a with friendList := a.friendList.modify found fun contact => { contact with comment } }
    execute (.updateFriend self.avatarId (← deref avatar).avatarId (fromWideString comment))
  | none => pure ()

def addFriend (comment : U16String) : Serve Unit := do
  if ← isFriend self avatar then pure ()
  else
    runIf (← isIgnored self avatar) (removeIgnore self avatar)
    writeAvatar self fun a => { a with friendList := a.friendList ++ [⟨avatar, comment⟩] }
    persistFriend self.avatarId (← deref avatar).avatarId comment

def addIgnore : Serve Unit := do
  if ← isIgnored self avatar then pure ()
  else
    runIf (← isFriend self avatar) (removeFriend self avatar)
    writeAvatar self fun a => { a with ignoreList := a.ignoreList ++ [⟨avatar⟩] }
    persistIgnore self.avatarId (← deref avatar).avatarId

end Contacts
end StationChat
