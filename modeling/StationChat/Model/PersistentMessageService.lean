import StationChat.Model.Server

/-! The mail service. -/
namespace StationChat
open Lib Lib.Action

/-- The bytes of `oob` as the host stores them, low byte first. -/
def oobBytes (oob : U16String) : List UInt8 := oob.flatMap fun u : UInt16 => [u.toUInt8, (u >>> 8).toUInt8]

/-- Units put together from pairs of bytes; `none` if the length is odd. -/
def oobUnits : List UInt8 → Option U16String
  | [] => some []
  | [_] => none
  | low :: high :: rest => (oobUnits rest).map ((low.toUInt16 ||| (high.toUInt16 <<< 8)) :: ·)

/-- The columns `StoreMessage` binds. -/
def messageColumns (message : PersistentMessage) : MessageColumns where
  avatarId := message.header.avatarId.toNat
  fromName := fromWideString message.header.fromName
  fromAddress := fromWideString message.header.fromAddress
  subject := fromWideString message.header.subject
  sentTime := message.header.sentTime.toNat
  status := message.header.status.toNat
  folder := fromWideString message.header.folder
  category := fromWideString message.header.category
  message := fromWideString message.message
  oob := oobBytes message.oob

/-- Yields `message.header.messageId`. -/
def storeMessage (message : PersistentMessage) : Serve UInt32 := do
  pure (UInt32.ofNat (← execute (.insertMessage (messageColumns message))))

def readHeader (row : MessageRow) : Serve PersistentHeader := do
  let messageId ← columnInt row.id
  let avatarId ← columnInt row.avatarId
  let sentTime ← columnInt row.sentTime
  let status ← columnInt row.status
  pure {
    messageId, avatarId, sentTime, status
    fromName := toWideString row.fromName
    fromAddress := toWideString row.fromAddress
    subject := toWideString row.subject
    folder := toWideString row.folder
    category := toWideString row.category }

def getMessageHeaders (avatarId : UInt32) : Serve (List PersistentHeader) := do
  (← execute (.selectHeaders avatarId)).mapM readHeader

def updateMessageStatus (avatarId messageId status : UInt32) : Serve Unit :=
  execute (.updateStatus status messageId avatarId)

def bulkUpdateMessageStatus (avatarId : UInt32) (category : U16String) (newStatus : UInt32) :
    Serve Unit :=
  execute (.bulkUpdateStatus newStatus avatarId (fromWideString category))

/-- The two ids of the header are the arguments, not the columns. -/
def readMessage (avatarId messageId : UInt32) (row : MessageRow) : Serve PersistentMessage := do
  let sentTime ← columnInt row.sentTime
  let status ← columnInt row.status
  match oobUnits row.oob with
  | none => throw .database
  | some oob =>
    pure {
      header := {
        messageId, avatarId, sentTime, status
        fromName := toWideString row.fromName
        fromAddress := toWideString row.fromAddress
        subject := toWideString row.subject
        folder := toWideString row.folder
        category := toWideString row.category }
      message := toWideString row.message
      oob }

/-- A message whose state is NEW becomes READ once it is fetched. -/
def getPersistentMessage (avatarId messageId : UInt32) : Serve PersistentMessage := do
  match ← execute (.selectMessage messageId avatarId) with
  | [] => throw (.chatResult .pmsgNotFound [])
  | row :: _ =>
    let message ← readMessage avatarId messageId row
    runIf (message.header.status == PersistentState.new.code)
      (updateMessageStatus avatarId messageId PersistentState.read.code)
    pure message

end StationChat
