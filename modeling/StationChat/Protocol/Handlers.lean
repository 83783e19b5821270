import StationChat.Model.ChatRoomRoles
import StationChat.Model.GatewayClient
import StationChat.Model.PersistentMessageService
import StationChat.Protocol.Requests

/-! The handlers of the dispatched requests. Each reads its request, changes the services and
fills in the response. -/
namespace StationChat
open Lib Lib.Action

/-- The name and address of a text for a missing avatar. -/
def nameAtAddress (name address : U16String) : StdString :=
  cStr (fromWideString name ++ literal " : " ++ fromWideString address)

def idText (avatarId : UInt32) : StdString := cStr (toStdString avatarId.toNat)

/-- The lookup by id with which most handlers begin. -/
def requireSrcAvatar (srcAvatarId : UInt32) : Serve AvatarPtr := do
  match ← getAvatarById srcAvatarId with
  | some srcAvatar => pure srcAvatar
  | none => throw (.chatResult .srcAvatarDoesntExist (idText srcAvatarId))

def requireDestAvatar (destName destAddress : U16String) : Serve AvatarPtr := do
  match ← getAvatar destName destAddress with
  | some destAvatar => pure destAvatar
  | none => throw (.chatResult .destAvatarDoesntExist (nameAtAddress destName destAddress))

/-- The lookup of a room, with the result code the handler gives for a missing one. -/
def requireRoom (roomAddress : U16String) (missing : ChatResultCode) : Serve RoomPtr := do
  match ← getRoom roomAddress with
  | some room => pure room
  | none => throw (.chatResult missing (cStr (fromWideString roomAddress)))

/-- `EvaluatePolicyEvent`: the decision is only logged, the rate queues stay changed. -/
def evaluatePolicyEvent (event : Policy.Event) : Serve Unit :=
  modify fun s => { s with
    recentActions := (Policy.evaluate s.policyConfig s.recentActions event s.steadyClock).2 }

/-- The event of `avatar` acting on `target`; in every handler both exist. -/
def policyEvent (action : Policy.ActionType) (avatar : AvatarPtr) (target : U16String)
    (payloadSize : Nat) : Policy.Event where
  action := action
  actorId := avatar.avatarId
  actorAddress := fromWideString avatar.address
  target := fromWideString target
  payloadSize := payloadSize
  actorExists := true
  targetExists := true

namespace Handler

/-- The seven handlers about an avatar's part in a room, up to the operation itself. -/
def onRoomAvatar (request : ReqRoomRole) (policy : Option Policy.ActionType)
    (operation : RoomPtr → AvatarPtr → AvatarPtr → Serve Unit) : Serve Unit := do
  let srcAvatar ← requireSrcAvatar request.srcAvatarId
  let destAvatar ← requireDestAvatar request.destAvatarName request.destAvatarAddress
  let room ← requireRoom request.destRoomAddress .addressNotRoom
  let r ← readRoom room
  setResponse fun response => { response with roomId := some r.roomId }
  match policy with
  | some action => evaluatePolicyEvent (policyEvent action srcAvatar request.destRoomAddress 0)
  | none => pure ()
  operation room srcAvatar destAvatar

def addBan (request : ReqAddBan) : Serve Unit :=
  onRoomAvatar request (some .ban) fun room srcAvatar bannedAvatar =>
    addBanned room srcAvatar.avatarId bannedAvatar

def addInvite (request : ReqAddInvite) : Serve Unit :=
  onRoomAvatar request (some .invite) fun room srcAvatar invitedAvatar =>
    StationChat.addInvite room srcAvatar.avatarId invitedAvatar

def addModerator (request : ReqAddModerator) : Serve Unit :=
  onRoomAvatar request none fun room srcAvatar moderatorAvatar =>
    StationChat.addModerator room srcAvatar.avatarId moderatorAvatar

def removeBan (request : ReqRemoveBan) : Serve Unit :=
  onRoomAvatar request none fun room srcAvatar bannedAvatar =>
    removeBanned room srcAvatar.avatarId bannedAvatar.avatarId

def removeInvite (request : ReqRemoveInvite) : Serve Unit :=
  onRoomAvatar request none fun room srcAvatar invitedAvatar =>
    StationChat.removeInvite room srcAvatar.avatarId invitedAvatar.avatarId

def removeModerator (request : ReqRemoveModerator) : Serve Unit :=
  onRoomAvatar request none fun room srcAvatar moderatorAvatar =>
    StationChat.removeModerator room srcAvatar.avatarId moderatorAvatar.avatarId

def kickAvatar (request : ReqKickAvatar) : Serve Unit :=
  onRoomAvatar request none fun room srcAvatar destAvatar => do
    let addresses := (← readRoom room).getConnectedAddresses
    changeRoom room (·.kickAvatar srcAvatar.avatarId destAvatar)
    sendKickAvatarUpdate addresses srcAvatar destAvatar room

def addFriend (request : ReqAddFriend) : Serve Unit := do
  let srcAvatar ← requireSrcAvatar request.srcAvatarId
  let destAvatar ← requireDestAvatar request.destName request.destAddress
  -- the comment of the request is not passed on
  StationChat.addFriend srcAvatar (some destAvatar) []
  runIf (← readAvatar destAvatar).isOnline (sendFriendLoginUpdate srcAvatar destAvatar)

def addIgnore (request : ReqAddIgnore) : Serve Unit := do
  let srcAvatar ← requireSrcAvatar request.srcAvatarId
  let destAvatar ← requireDestAvatar request.destName request.destAddress
  StationChat.addIgnore srcAvatar (some destAvatar)

def removeFriend (request : ReqRemoveFriend) : Serve Unit := do
  let srcAvatar ← requireSrcAvatar request.srcAvatarId
  let destAvatar ← requireDestAvatar request.destName request.destAddress
  StationChat.removeFriend srcAvatar (some destAvatar)

/-- The second check is made on the source avatar again, so `destAvatar` may be null. -/
def removeIgnore (request : ReqRemoveIgnore) : Serve Unit := do
  let srcAvatar ← requireSrcAvatar request.srcAvatarId
  let destAvatar ← getAvatar request.destName request.destAddress
  StationChat.removeIgnore srcAvatar destAvatar

def createRoom (request : ReqCreateRoom) : Serve Unit := do
  let creator ← getAvatarById request.creatorId
  let room ← StationChat.createRoom creator request.roomName request.roomTopic
    request.roomPassword request.roomAttributes request.roomMaxSize request.roomAddress
  setResponse fun response => { response with room := some room }

def destroyRoom (request : ReqDestroyRoom) : Serve Unit := do
  let srcAvatar ← requireSrcAvatar request.srcAvatarId
  let room ← requireRoom request.roomAddress .addressNotRoom
  let r ← readRoom room
  setResponse fun response => { response with roomId := some r.roomId }
  StationChat.destroyRoom room
  sendDestroyRoomUpdate srcAvatar r.roomId r.getRemoteAddresses

def enterRoom (request : ReqEnterRoom) : Serve Unit := do
  let srcAvatar ← requireSrcAvatar request.srcAvatarId
  let room ← requireRoom request.roomAddress .addressNotRoom
  let r ← readRoom room
  setResponse fun response => { response with room := some room, roomId := some r.roomId }
  evaluatePolicyEvent
    (policyEvent .roomJoin srcAvatar request.roomAddress request.roomPassword.length)
  changeRoom room (·.enterRoom srcAvatar request.roomPassword)
  sendEnterRoomUpdate srcAvatar room

def leaveRoom (request : ReqLeaveRoom) : Serve Unit := do
  let srcAvatar ← requireSrcAvatar request.srcAvatarId
  let room ← requireRoom request.roomAddress .addressNotRoom
  let r ← readRoom room
  setResponse fun response => { response with roomId := some r.roomId }
  writeRoom room (·.leaveRoom srcAvatar)
  sendLeaveRoomUpdate r.getConnectedAddresses srcAvatar.avatarId r.roomId

/-- The lookup of a login, which creates the avatar it does not find. -/
def loginTarget (name address : U16String) (userId attributes : UInt32)
    (loginLocation : U16String) : Serve AvatarPtr := do
  match ← getAvatar name address with
  | some avatar => pure avatar
  | none => createAvatar name address userId attributes loginLocation

/-- A game server is registered and its rooms are loaded; a player's friends are told. -/
def welcome (client : ClientId) (avatar : AvatarPtr) (address : U16String) : Serve Unit :=
  if avatar.name = systemName then do
    registerClientAddress avatar.address client
    loadRoomsFromStorage address
  else sendFriendLoginUpdates client avatar

/-- What LOGINAVATAR and FAILOVER_RELOGINAVATAR have in common. -/
def login (client : ClientId) (name address : U16String) (userId attributes : UInt32)
    (loginLocation : U16String) : Serve AvatarPtr := do
  let avatar ← loginTarget name address userId attributes loginLocation
  evaluatePolicyEvent {
    policyEvent .login avatar loginLocation 0 with actorAddress := fromWideString address }
  StationChat.loginAvatar avatar
  welcome client avatar address
  pure avatar

def loginAvatar (client : ClientId) (request : ReqLoginAvatar) : Serve Unit := do
  let avatar ← login client request.name request.address request.userId
    request.loginAttributes.toUInt32 request.loginLocation
  setResponse fun response => { response with avatar := some avatar }

def failoverReLoginAvatar (client : ClientId) (request : ReqFailoverReLoginAvatar) :
    Serve Unit := do
  let avatar ← login client request.name request.address request.userId request.attributes
    request.loginLocation
  forM (← getJoinedRooms (some avatar)) (sendEnterRoomUpdate avatar)

/-- The loop of LOGOUTAVATAR and DESTROYAVATAR over the rooms the avatar is in. -/
def leaveJoinedRooms (avatar : Option AvatarPtr) : Serve Unit := do
  forM (← getJoinedRooms avatar) fun room => do
    let addresses := (← readRoom room).getConnectedAddresses
    let a ← deref avatar
    writeRoom room (·.leaveRoom a)
    sendLeaveRoomUpdate addresses a.avatarId (← readRoom room).roomId

/-- The result of the lookup is not checked. -/
def logoutAvatar (request : ReqLogoutAvatar) : Serve Unit := do
  let avatar ← getAvatarById request.avatarId
  leaveJoinedRooms avatar
  sendFriendLogoutUpdates avatar
  StationChat.logoutAvatar avatar

/-- Not among the dispatched handlers. -/
def destroyAvatar (avatarId : UInt32) : Serve Unit := do
  let avatar ← requireSrcAvatar avatarId
  leaveJoinedRooms (some avatar)
  StationChat.destroyAvatar avatar

/-- FRIENDSTATUS and IGNORESTATUS. -/
def contactStatus (request : ReqContactStatus) : Serve Unit := do
  let srcAvatar ← requireSrcAvatar request.srcAvatarId
  setResponse fun response => { response with avatar := some srcAvatar }

def friendStatus (request : ReqFriendStatus) : Serve Unit := contactStatus request

def ignoreStatus (request : ReqIgnoreStatus) : Serve Unit := contactStatus request

def getAnyAvatar (request : ReqGetAnyAvatar) : Serve Unit := do
  match ← getAvatar request.name request.address with
  | none =>
    throw (.chatResult .srcAvatarDoesntExist (nameAtAddress request.name request.address))
  | some avatar =>
    let a ← readAvatar avatar
    setResponse fun response => { response with isOnline := some a.isOnline, avatar := some avatar }

def getPersistentHeaders (request : ReqGetPersistentHeaders) : Serve Unit := do
  let headers ← getMessageHeaders request.avatarId
  setResponse fun response => { response with headers }

def getPersistentMessage (request : ReqGetPersistentMessage) : Serve Unit := do
  let message ← StationChat.getPersistentMessage request.srcAvatarId request.messageId
  setResponse fun response => { response with message := some message }

def getRoom (request : ReqGetRoom) : Serve Unit := do
  let room ← requireRoom request.roomAddress .addressDoesntExist
  setResponse fun response => { response with room := some room }

def getRoomSummaries (request : ReqGetRoomSummaries) : Serve Unit := do
  let rooms ← StationChat.getRoomSummaries request.startNodeAddress
  setResponse fun response => { response with rooms }

def sendInstantMessage (request : ReqSendInstantMessage) : Serve Unit := do
  let srcAvatar ← requireSrcAvatar request.srcAvatarId
  let destAvatar ← requireDestAvatar request.destName request.destAddress
  if ← isIgnored destAvatar (some srcAvatar) then throw (.chatResult .ignoring [])
  else
    evaluatePolicyEvent (policyEvent .messageSend srcAvatar request.destAddress
      (request.message.length + request.oob.length))
    sendInstantMessageUpdate srcAvatar destAvatar request.message request.oob

/-- Whom a mail is from: an avatar that must not be ignored, or a name of the request beside the
receiver's own address. -/
def mailSender (sender : UInt32 ⊕ U16String) (destAvatar : AvatarPtr) :
    Serve (U16String × U16String) := do
  match sender with
  | .inl srcAvatarId =>
    let srcAvatar ← requireSrcAvatar srcAvatarId
    if ← isIgnored destAvatar (some srcAvatar) then
      throw (.chatResult .ignoring (cStr (toStdString destAvatar.avatarId.toNat ++
        literal " : " ++ toStdString srcAvatar.avatarId.toNat)))
    else pure (srcAvatar.name, srcAvatar.address)
  | .inr srcName => pure (srcName, destAvatar.address)

def sendPersistentMessage (request : ReqSendPersistentMessage) : Serve Unit := do
  let destAvatar ← requireDestAvatar request.destName request.destAddress
  let (fromName, fromAddress) ← mailSender request.sender destAvatar
  let header : PersistentHeader := {
    fromName, fromAddress
    sentTime := (← get).time
    avatarId := destAvatar.avatarId
    subject := request.subject
    category := request.category }
  let messageId ← storeMessage { header, message := request.msg, oob := request.oob }
  setResponse fun response => { response with messageId := some messageId }
  sendPersistentMessageUpdate (some destAvatar) { header with messageId }

def sendRoomMessage (request : ReqSendRoomMessage) : Serve Unit := do
  let srcAvatar ← requireSrcAvatar request.srcAvatarId
  let room ← requireRoom request.destRoomAddress .addressNotRoom
  let r ← readRoom room
  setResponse fun response => { response with roomId := some r.roomId }
  evaluatePolicyEvent (policyEvent .messageSend srcAvatar request.destRoomAddress
    (request.message.length + request.oob.length))
  -- `GetNextMessageId`
  writeRoom room fun r => { r with roomMessageId := r.roomMessageId + 1 }
  sendRoomMessageUpdate srcAvatar room r.roomMessageId request.message request.oob

def setApiVersion (request : ReqSetApiVersion) : Serve Unit := do
  let version := (← get).version
  setResponse fun response => { response with
    version := some version
    result := if version = request.version then .success else .wrongChatServerForRequest }

def setAvatarAttributes (request : ReqSetAvatarAttributes) : Serve Unit := do
  let avatar ← requireSrcAvatar request.avatarId
  setResponse fun response => { response with avatar := some avatar }
  if (← readAvatar avatar).attributes ≠ request.avatarAttributes then
    writeAvatar avatar fun a => { a with attributes := request.avatarAttributes }
    runIf (request.persistent != 0) (persistAvatar avatar)

def updatePersistentMessage (request : ReqUpdatePersistentMessage) : Serve Unit :=
  updateMessageStatus request.srcAvatarId request.messageId request.status

/-- `currentStatus` is not used. -/
def updatePersistentMessages (request : ReqUpdatePersistentMessages) : Serve Unit :=
  bulkUpdateMessageStatus request.srcAvatarId request.category request.newStatus

end Handler

/-- The handler of a decoded request, run for a client. -/
def Request.handler (client : ClientId) : Request → Serve Unit
  | .loginAvatar r => Handler.loginAvatar client r
  | .logoutAvatar r => Handler.logoutAvatar r
  | .createRoom r => Handler.createRoom r
  | .destroyRoom r => Handler.destroyRoom r
  | .sendInstantMessage r => Handler.sendInstantMessage r
  | .sendRoomMessage r => Handler.sendRoomMessage r
  | .addFriend r => Handler.addFriend r
  | .removeFriend r => Handler.removeFriend r
  | .friendStatus r => Handler.friendStatus r
  | .addIgnore r => Handler.addIgnore r
  | .removeIgnore r => Handler.removeIgnore r
  | .enterRoom r => Handler.enterRoom r
  | .leaveRoom r => Handler.leaveRoom r
  | .addModerator r => Handler.addModerator r
  | .removeModerator r => Handler.removeModerator r
  | .addBan r => Handler.addBan r
  | .removeBan r => Handler.removeBan r
  | .addInvite r => Handler.addInvite r
  | .removeInvite r => Handler.removeInvite r
  | .kickAvatar r => Handler.kickAvatar r
  | .getRoom r => Handler.getRoom r
  | .getRoomSummaries r => Handler.getRoomSummaries r
  | .sendPersistentMessage r => Handler.sendPersistentMessage r
  | .getPersistentHeaders r => Handler.getPersistentHeaders r
  | .getPersistentMessage r => Handler.getPersistentMessage r
  | .updatePersistentMessage r => Handler.updatePersistentMessage r
  | .updatePersistentMessages r => Handler.updatePersistentMessages r
  | .ignoreStatus r => Handler.ignoreStatus r
  | .failoverReLoginAvatar r => Handler.failoverReLoginAvatar client r
  | .setApiVersion r => Handler.setApiVersion r
  | .setAvatarAttributes r => Handler.setAvatarAttributes r
  | .getAnyAvatar r => Handler.getAnyAvatar r

def Request.handle (client : ClientId) (request : Request) : Serve Unit :=
  handleIncomingMessage client request.type request.track (request.handler client)

end StationChat
