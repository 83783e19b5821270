import StationChat.Gateway.Delivery
import StationChat.Gateway.Everyday
import StationChat.Lib.Ledger
import StationChat.Mail.Listing

/-! Mail is durable: the mail table holds what was acknowledged, once each and in order, and only the state of a
mail ever changes, at the request of its owner. -/
namespace StationChat
open Lib Lib.Action Relation

variable {client : ClientId} {request : Request} {s t u : Server}

/-- What stays of a mail: everything but its state. -/
def MessageRow.letter (row : MessageRow) : MessageRow := { row with status := 0 }

/-- The requests that may change the state of an avatar's mails. -/
def Request.Marks : Request → Nat → Prop
  | .getPersistentMessage r, avatarId => avatarId = r.srcAvatarId.toNat
  | .updatePersistentMessage r, avatarId => avatarId = r.srcAvatarId.toNat
  | .updatePersistentMessages r, avatarId => avatarId = r.srcAvatarId.toNat
  | _, _ => False

def Input.Marks : Input → Nat → Prop
  | .request _ request _ _, avatarId => request.Marks avatarId
  | _, _ => False

/-- The mail table went on by the letters `added`, with the ids that were next. -/
structure Mailed (may : Nat → Prop) (s t : Server) (added : List MessageRow) : Prop where
  table : Continues MessageRow.letter (fun row => may row.avatarId) s.db.persistentMessage t.db.persistentMessage added
  next : t.db.nextMessageId = s.db.nextMessageId + added.length
  ids : added.map (·.id) = List.range' s.db.nextMessageId added.length

namespace Mailed
variable {may may' : Nat → Prop} {added added' : List MessageRow}

theorem of_eq (hrows : t.db.persistentMessage = s.db.persistentMessage)
    (hnext : t.db.nextMessageId = s.db.nextMessageId) : Mailed may s t [] :=
  ⟨hrows ▸ Continues.refl _, hnext, rfl⟩

theorem refl (s : Server) : Mailed may s s [] := of_eq rfl rfl

theorem trans (h : Mailed may s t added) (h' : Mailed may t u added') : Mailed may s u (added ++ added') := by
  refine ⟨h.table.trans h'.table, ?_, ?_⟩
  · rw [h'.next, h.next, List.length_append, Nat.add_assoc]
  · rw [List.map_append, h.ids, h'.ids, h.next, List.length_append, List.range'_append_1]

theorem mono (h : Mailed may s t added) (hmay : ∀ avatarId, may avatarId → may' avatarId) :
    Mailed may' s t added :=
  ⟨h.table.mono fun row => hmay row.avatarId, h.next, h.ids⟩

end Mailed

section Statements

end Statements

section Posting

/-- A mail that was acknowledged: its id, the time, the request and the state it was made in. -/
structure Posting where
  messageId : UInt32
  time : UInt32
  request : ReqSendPersistentMessage
  before : Server

/-- The letter holds what the request asked to be sent. -/
structure Posting.Describes (posting : Posting) (row : MessageRow) : Prop where
  id : UInt32.ofNat row.id = posting.messageId
  subject : row.subject = fromWideString posting.request.subject
  folder : row.folder = []
  category : row.category = fromWideString posting.request.category
  message : row.message = fromWideString posting.request.msg
  oob : row.oob = oobBytes posting.request.oob
  sentTime : row.sentTime = posting.time.toNat

/-- Whom a mail is to and from: the avatar it is addressed to, and the name and address of the avatar that sends it, or
the name that the request gives beside the receiver's own address. -/
def Server.Parties (s : Server) (r : ReqSendPersistentMessage) (dest : AvatarPtr) (fromName fromAddress : U16String) :
    Prop :=
  s.Finds (.byName r.destName r.destAddress) dest ∧
    match r.sender with
    | .inl srcAvatarId => ∃ src, s.Finds (.byId srcAvatarId) src ∧ fromName = src.name ∧ fromAddress = src.address
    | .inr srcName => fromName = srcName ∧ fromAddress = dest.address

/-- The letter is addressed to the one and from the other. -/
structure MessageRow.Between (row : MessageRow) (dest : AvatarPtr) (fromName fromAddress : U16String) : Prop where
  avatarId : row.avatarId = dest.avatarId.toNat
  fromName : row.fromName = fromWideString fromName
  fromAddress : row.fromAddress = fromWideString fromAddress

/-- The letter of a posting. Its parties are known where the state was sound. -/
structure Posting.Recorded (posting : Posting) (row : MessageRow) : Prop where
  describes : posting.Describes row
  between : Fit (fun _ => True) posting.before → ∃ dest fromName fromAddress,
    posting.before.Parties posting.request dest fromName fromAddress ∧ row.Between dest fromName fromAddress

/-- Nothing happened to mails, to the response or to the clock. -/
private structure Unposted (s t : Server) : Prop where
  mails : Mailed (fun _ => False) s t []
  response : t.response = s.response
  time : t.time = s.time

private theorem Unposted.trans (h : Unposted s t) (h' : Unposted t u) : Unposted s u :=
  ⟨h.mails.trans h'.mails, h'.response.trans h.response, h'.time.trans h.time⟩

end Posting

section Runs
variable {inputs : List Input}

end Runs

section Fetching
variable {inputs : List Input}

/-- The mail is the one that was posted, its texts as storage keeps them. -/
structure Posting.Delivers (posting : Posting) (dest : AvatarPtr) (fromName fromAddress : U16String)
    (mail : PersistentMessage) : Prop where
  messageId : mail.header.messageId = posting.messageId
  avatarId : mail.header.avatarId = dest.avatarId
  fromName : mail.header.fromName = toWideString (fromWideString fromName)
  fromAddress : mail.header.fromAddress = toWideString (fromWideString fromAddress)
  subject : mail.header.subject = toWideString (fromWideString posting.request.subject)
  folder : mail.header.folder = []
  category : mail.header.category = toWideString (fromWideString posting.request.category)
  sentTime : mail.header.sentTime = posting.time
  message : mail.message = toWideString (fromWideString posting.request.msg)
  oob : mail.oob = posting.request.oob

variable {posting : Posting} {row : MessageRow} {dest : AvatarPtr} {fromName fromAddress : U16String}

theorem Mailed.keys {may : Nat → Prop} {added : List MessageRow} (h : Mailed may s t added) (hkeys : s.db.MailKeys) :
    t.db.MailKeys := by
  have hids : t.db.persistentMessage.map (·.id) =
      s.db.persistentMessage.map (·.id) ++ List.range' s.db.nextMessageId added.length := by
    have hrows := congrArg (List.map (·.id)) h.table.rows
    rw [List.map_append, List.map_map, List.map_map, h.ids] at hrows
    exact hrows
  have hbelow : ∀ id ∈ t.db.persistentMessage.map (·.id), id < t.db.nextMessageId := by
    intro id hid
    rw [h.next]
    rw [hids] at hid
    rcases List.mem_append.mp hid with hid | hid
    · obtain ⟨row, hrow, rfl⟩ := List.mem_map.mp hid
      exact Nat.lt_add_right _ (hkeys.2 row hrow)
    · exact (List.mem_range'_1.mp hid).2
  refine ⟨?_, fun row hrow => hbelow _ (List.mem_map_of_mem hrow)⟩
  rw [hids]
  refine List.Nodup.append hkeys.1 (List.nodup_range' ..) ?_
  intro id hold hnew
  obtain ⟨row, hrow, rfl⟩ := List.mem_map.mp hold
  exact absurd (hkeys.2 row hrow) (Nat.not_lt.mpr (List.mem_range'_1.mp hnew).1)

end Fetching
end StationChat
