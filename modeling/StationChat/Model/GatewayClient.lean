import StationChat.Model.ChatRoomService

/-! What a client object sends: the notifications to the registered clients and the response to
its own game server. Objects behind pointers are read when a message is encoded. -/
namespace StationChat
open Lib Lib.Action

def send (client : ClientId) (message : Outgoing) : Serve Unit :=
  modify fun s => { s with sent := s.sent ++ [(client, message)] }

/-- `GatewayNode::RegisterClientAddress`. -/
def registerClientAddress (address : U16String) (client : ClientId) : Serve Unit :=
  modify fun s =>
    { s with clientAddressMap := Function.update s.clientAddressMap address (some client) }

/-- `GatewayNode::SendTo`. The map may hold a client object that is gone. -/
def sendTo (address : U16String) (message : Serve Notification) : Serve Unit := do
  let s ← get
  match s.clientAddressMap address with
  | none => pure ()
  | some client =>
    if client ∈ s.clients then send client (.notify (← message)) else throw .dangling

/-- `MFriendLogin`. The status message is copied when the message is built. -/
def friendLogin (avatar : AvatarPtr) (destAvatarId : UInt32) : Serve Notification := do
  let a ← readAvatar avatar
  pure (.friendLogin a avatar.address destAvatarId a.statusMessage)

def sendFriendLoginUpdate (srcAvatar destAvatar : AvatarPtr) : Serve Unit := do
  let message ← friendLogin destAvatar srcAvatar.avatarId
  sendTo srcAvatar.address (pure message)

def sendFriendLoginUpdates (client : ClientId) (avatar : AvatarPtr) : Serve Unit := do
  forM (← get).onlineAvatars fun onlineAvatar => do
    runIf (← isFriend onlineAvatar (some avatar)) (sendFriendLoginUpdate onlineAvatar avatar)
  forM (← readAvatar avatar).friendList fun contact => do
    let frnd ← deref contact.frnd
    runIf (← readAvatar frnd).isOnline (do
      let message ← friendLogin frnd avatar.avatarId
      send client (.notify message))

def sendFriendLogoutUpdates (avatar : Option AvatarPtr) : Serve Unit := do
  forM (← get).onlineAvatars fun onlineAvatar => do
    runIf (← isFriend onlineAvatar avatar) (do
      let a ← deref avatar
      sendTo onlineAvatar.address (do
        pure (.friendLogout (← readAvatar a) a.address onlineAvatar.avatarId)))

def sendDestroyRoomUpdate (srcAvatar : AvatarPtr) (roomId : UInt32) (targets : List U16String) :
    Serve Unit :=
  forM targets fun address => sendTo address (do pure (.destroyRoom (← readAvatar srcAvatar) roomId))

def sendInstantMessageUpdate (srcAvatar destAvatar : AvatarPtr) (message oob : U16String) :
    Serve Unit :=
  sendTo destAvatar.address (do
    pure (.instantMessage (← readAvatar srcAvatar) destAvatar.avatarId message oob))

/-- `ChatRoom::GetAvatarIds`: the members that do not ignore `srcAvatar`. -/
def getAvatarIds (room : ChatRoom) (srcAvatar : AvatarPtr) : Serve (List UInt32) := do
  let listeners ← removeIf (fun roomAvatar => isIgnored roomAvatar (some srcAvatar)) room.avatars
  pure (listeners.map (·.avatarId))

def sendRoomMessageUpdate (srcAvatar : AvatarPtr) (room : RoomPtr) (messageId : UInt32)
    (message oob : U16String) : Serve Unit := do
  let connectedAddresses := (← readRoom room).getConnectedAddresses
  forM connectedAddresses fun address => do
    let r ← readRoom room
    let destList ← getAvatarIds r srcAvatar
    sendTo address (do
      pure (.roomMessage (← readAvatar srcAvatar) r.roomId destList message oob messageId))

def sendEnterRoomUpdate (srcAvatar : AvatarPtr) (room : RoomPtr) : Serve Unit := do
  let r ← readRoom room
  forM r.getConnectedAddresses fun address =>
    sendTo address (do pure (.enterRoom (← readAvatar srcAvatar) r.roomId))

def sendLeaveRoomUpdate (addresses : List U16String) (srcAvatarId roomId : UInt32) : Serve Unit :=
  forM addresses fun address => sendTo address (pure (.leaveRoom srcAvatarId roomId))

/-- The null check is `SendPersistentMessageUpdate`'s own. -/
def sendPersistentMessageUpdate (destAvatar : Option AvatarPtr) (header : PersistentHeader) :
    Serve Unit :=
  match destAvatar with
  | some dest => sendTo dest.address (pure (.persistentMessage dest.avatarId header))
  | none => pure ()

def sendKickAvatarUpdate (addresses : List U16String) (srcAvatar destAvatar : AvatarPtr)
    (room : RoomPtr) : Serve Unit :=
  forM addresses fun address => do
    let r ← readRoom room
    sendTo address (do
      pure (.kickAvatar (← readAvatar srcAvatar) (← readAvatar destAvatar) r.roomName r.roomAddress))

/-- `write(ar, ChatRoom)`: the avatars of the seven lists, each read through its pointer. -/
def roomImage (room : ChatRoom) : Serve RoomImage := do
  pure {
    room
    avatars := ← room.avatars.mapM readAvatar
    administrators := ← room.administrators.mapM readAvatar
    moderators := ← room.moderators.mapM readAvatar
    tempModerators := ← room.tempModerators.mapM readAvatar
    banned := ← room.banned.mapM readAvatar
    invited := ← room.invited.mapM readAvatar
    voice := ← room.voice.mapM readAvatar }

def friendEntry (contact : FriendContact) : Serve FriendEntry := do
  let frnd ← deref contact.frnd
  let f ← readAvatar frnd
  pure ⟨frnd.name, frnd.address, contact.comment, f.isOnline⟩

def ignoreEntry (contact : IgnoreContact) : Serve IgnoreEntry := do
  let ignored ← deref contact.ignored
  pure ⟨ignored.name, ignored.address⟩

def roomSummary (room : RoomPtr) : Serve RoomSummary := do
  let r ← readRoom room
  pure ⟨r.roomAddress, r.roomTopic, r.roomAttributes, UInt32.ofNat r.avatars.length, r.maxRoomSize⟩

/-- The part of a response after its result code, as the encoder of its type writes it. -/
def responseBody (r : Response) : Serve ResponseBody :=
  match r.type with
  | .loginAvatar | .setAvatarAttributes =>
    if r.result = .success then do pure (.avatar (← readAvatar (← deref r.avatar))) else pure .empty
  | .getAnyAvatar =>
    if r.result = .success then do
      pure (.anyAvatar r.isOnline (some (← readAvatar (← deref r.avatar))))
    else pure (.anyAvatar r.isOnline none)
  | .createRoom | .getRoom =>
    if r.result = .success then do pure (.room (← roomImage (← readRoom (← deref r.room))))
    else pure .empty
  | .enterRoom => pure (.enterRoom r.roomId false)
  | .destroyRoom | .leaveRoom | .sendRoomMessage | .addModerator | .removeModerator | .addBan
  | .removeBan | .addInvite | .removeInvite | .kickAvatar => pure (.roomId r.roomId)
  | .friendStatus =>
    match r.result, r.avatar with
    | .success, some avatar => do
      pure (.friends (← (← readAvatar avatar).friendList.mapM friendEntry))
    | _, _ => pure (.friends [])
  | .ignoreStatus =>
    match r.result, r.avatar with
    | .success, some avatar => do
      pure (.ignored (← (← readAvatar avatar).ignoreList.mapM ignoreEntry))
    | _, _ => pure (.ignored [])
  | .getRoomSummaries => do pure (.rooms (← r.rooms.mapM roomSummary))
  | .getPersistentHeaders => pure (.headers r.headers)
  | .getPersistentMessage =>
    if r.result = .success then do pure (.message (← deref r.message)) else pure .empty
  | .sendPersistentMessage =>
    if r.result = .success then pure (.messageId r.messageId) else pure .empty
  | .setApiVersion => pure (.version r.version)
  | .logoutAvatar | .sendInstantMessage | .addFriend | .removeFriend | .addIgnore | .removeIgnore
  | .updatePersistentMessage | .updatePersistentMessages | .failoverReLoginAvatar => pure .empty

def setResponse (f : Response → Response) : Serve Unit :=
  modify fun s => { s with response := f s.response }

/-- `HandleIncomingMessage` after decoding: only two kinds of exception are caught. -/
def handleIncomingMessage (client : ClientId) (type : ChatResponseType) (track : UInt32)
    (handler : Serve Unit) : Serve Unit := do
  modify fun s => { s with response := { type, track } }
  tryCatch handler fun
    | .chatResult code _ => setResponse fun r => { r with result := code }
    | .database => setResponse fun r => { r with result := .database }
    | e => throw e
  let response := (← get).response
  let body ← responseBody response
  send client (.response response.type response.track response.result body)

end StationChat
