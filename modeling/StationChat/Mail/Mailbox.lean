import StationChat.Lib.Isolation
import StationChat.Model.PersistentMessageService

/-! What each operation of the mail service does to the mails of its avatar. -/
namespace StationChat
open Lib Lib.Action

/-- The calls of the mail service. -/
inductive MailCall where
  | storeMessage (message : PersistentMessage)
  | getMessageHeaders (avatarId : UInt32)
  | getPersistentMessage (avatarId messageId : UInt32)
  | updateMessageStatus (avatarId messageId status : UInt32)
  | bulkUpdateMessageStatus (avatarId : UInt32) (category : U16String) (newStatus : UInt32)
  deriving DecidableEq, Repr

/-- What a call returns. -/
inductive MailAnswer where
  | stored (messageId : UInt32)
  | headers (headers : List PersistentHeader)
  | message (message : PersistentMessage)
  | done
  deriving DecidableEq, Repr

namespace MailCall

/-- The avatar a call is made for. -/
def avatarId : MailCall → UInt32
  | .storeMessage message => message.header.avatarId
  | .getMessageHeaders avatarId => avatarId
  | .getPersistentMessage avatarId _ => avatarId
  | .updateMessageStatus avatarId _ _ => avatarId
  | .bulkUpdateMessageStatus avatarId _ _ => avatarId

def run : MailCall → Serve MailAnswer
  | .storeMessage message => do pure (.stored (← StationChat.storeMessage message))
  | .getMessageHeaders avatarId => do pure (.headers (← StationChat.getMessageHeaders avatarId))
  | .getPersistentMessage avatarId messageId => do
    pure (.message (← StationChat.getPersistentMessage avatarId messageId))
  | .updateMessageStatus avatarId messageId status => do
    StationChat.updateMessageStatus avatarId messageId status
    pure .done
  | .bulkUpdateMessageStatus avatarId category newStatus => do
    StationChat.bulkUpdateMessageStatus avatarId category newStatus
    pure .done

end MailCall

/-- The mails of one avatar, in the order they were stored. -/
def Database.mailbox (db : Database) (avatarId : Nat) : List MessageRow :=
  db.persistentMessage.filter (·.avatarId = avatarId)

/-- What a call takes from outside the mailbox: which of its statements fail, whether the avatar is
stored, and the id of a new mail. -/
structure MailInput where
  failsFirst : Bool
  failsSecond : Bool
  known : Bool
  messageId : Nat
  deriving DecidableEq, Repr

/-- Only a call that stores a mail is given an id. -/
def MailCall.input (s : Server) (c : MailCall) : MailInput where
  failsFirst := s.fails s.executed
  failsSecond := s.fails (s.executed + 1)
  known := decide (s.db.HasAvatar c.avatarId.toNat)
  messageId := match c with
    | .storeMessage _ => s.db.nextMessageId
    | _ => 0

namespace Mailbox

/-- `ColumnInt` apart from the server. -/
def columnInt (n : Nat) : Except Exn UInt32 :=
  if n < 2 ^ 31 then .ok (UInt32.ofNat n) else .error .outOfRange

def header (row : MessageRow) : Except Exn PersistentHeader := do
  let messageId ← columnInt row.id
  let avatarId ← columnInt row.avatarId
  let sentTime ← columnInt row.sentTime
  let status ← columnInt row.status
  pure {
    messageId, avatarId, sentTime, status
    fromName := toWideString row.fromName
    fromAddress := toWideString row.fromAddress
    subject := toWideString row.subject
    folder := toWideString row.folder
    category := toWideString row.category }

def message (avatarId messageId : UInt32) (row : MessageRow) : Except Exn PersistentMessage := do
  let sentTime ← columnInt row.sentTime
  let status ← columnInt row.status
  match oobUnits row.oob with
  | none => throw .database
  | some oob =>
    pure {
      header := {
        messageId, avatarId, sentTime, status
        fromName := toWideString row.fromName
        fromAddress := toWideString row.fromAddress
        subject := toWideString row.subject
        folder := toWideString row.folder
        category := toWideString row.category }
      message := toWideString row.message
      oob }

def setStatus (which : MessageRow → Bool) (status : UInt32) (rows : List MessageRow) :
    List MessageRow :=
  rows.map fun row => if which row then { row with status := status.toNat } else row

/-- Reading a mail that is NEW marks it. -/
def fetch (input : MailInput) (rows : List MessageRow) (avatarId messageId : UInt32) :
    Except Exn MailAnswer × List MessageRow :=
  if input.failsFirst then (.error .database, rows)
  else
    match rows.find? (·.id = messageId.toNat) with
    | none => (.error (.chatResult .pmsgNotFound []), rows)
    | some row =>
      match message avatarId messageId row with
      | .error e => (.error e, rows)
      | .ok mail =>
        if mail.header.status == PersistentState.new.code then
          if input.failsSecond then (.error .database, rows)
          else
            (.ok (.message mail),
              setStatus (·.id = messageId.toNat) PersistentState.read.code rows)
        else (.ok (.message mail), rows)

/-- One mailbox by itself, under the calls made for its avatar. -/
def call (rows : List MessageRow) (c : MailCall) (input : MailInput) :
    Except Exn MailAnswer × List MessageRow :=
  match c with
  | .storeMessage mail =>
    if input.failsFirst || !input.known then (.error .database, rows)
    else
      (.ok (.stored (UInt32.ofNat input.messageId)),
        rows ++ [{ messageColumns mail with id := input.messageId }])
  | .getMessageHeaders _ =>
    if input.failsFirst then (.error .database, rows)
    else (.headers <$> (rows.filter (·.status ∈ [1, 2, 3])).mapM header, rows)
  | .getPersistentMessage avatarId messageId => fetch input rows avatarId messageId
  | .updateMessageStatus _ messageId status =>
    if input.failsFirst then (.error .database, rows)
    else (.ok .done, setStatus (·.id = messageId.toNat) status rows)
  | .bulkUpdateMessageStatus _ category newStatus =>
    if input.failsFirst then (.error .database, rows)
    else (.ok .done, setStatus (·.category = fromWideString category) newStatus rows)

end Mailbox

section Refinement
variable {s : Server}

theorem yields_columnInt (n : Nat) : (StationChat.columnInt n).Yields (Mailbox.columnInt n) := by
  intro s
  unfold StationChat.columnInt Mailbox.columnInt
  split <;> rfl

theorem yields_readHeader (row : MessageRow) : (readHeader row).Yields (Mailbox.header row) := by
  apply (yields_columnInt _).bind
  intro messageId
  apply (yields_columnInt _).bind
  intro avatarId
  apply (yields_columnInt _).bind
  intro sentTime
  exact (yields_columnInt _).bind fun status => yields_pure _

theorem yields_readMessage (avatarId messageId : UInt32) (row : MessageRow) :
    (readMessage avatarId messageId row).Yields (Mailbox.message avatarId messageId row) := by
  apply (yields_columnInt _).bind
  intro sentTime
  apply (yields_columnInt _).bind
  intro status
  cases oobUnits row.oob with
  | none => exact yields_throw _
  | some oob => exact yields_pure _

end Refinement

/-- The mails of one avatar under a change of state of some of them. -/
theorem mailbox_updateMessages (db : Database) (which : MessageRow → Bool) (status avatarId : Nat) :
    (db.updateMessages which status).mailbox avatarId =
      (db.mailbox avatarId).map fun row => if which row then { row with status } else row := by
  unfold Database.mailbox Database.updateMessages
  rw [List.filter_map]
  congr 1
  apply List.filter_congr
  intro row _
  by_cases h : which row = true <;> simp [h]

/-- The mailbox alone would answer the same and become the same; the mails of the others stay. -/
def Refined (c : MailCall) (s : Server) (answer : Except Exn MailAnswer) (t : Server) : Prop :=
  Mailbox.call (s.db.mailbox c.avatarId.toNat) c (c.input s) =
    (answer, t.db.mailbox c.avatarId.toNat) ∧
  ∀ n ≠ c.avatarId.toNat, t.db.mailbox n = s.db.mailbox n

def Refines (c : MailCall) (s : Server) : Prop :=
  c.run.Ends s (fun a t => Refined c s (.ok a) t) (fun e t => Refined c s (.error e) t)

section Rows
variable {db : Database} {avatarId : UInt32}

theorem insertMessage_eq_some {columns : MessageColumns} {id : Nat} {after : Database}
    (h : db.insertMessage columns = some (id, after)) :
    db.HasAvatar columns.avatarId ∧ id = db.nextMessageId ∧ after = { db with
      persistentMessage := db.persistentMessage ++ [{ columns with id := db.nextMessageId }]
      nextMessageId := db.nextMessageId + 1 } := by
  unfold Database.insertMessage at h
  split at h
  · exact absurd h (by simp)
  · rename_i hk
    obtain ⟨hid, hafter⟩ := Prod.mk.inj (Option.some.inj h)
    exact ⟨not_not.mp hk, hid.symm, hafter.symm⟩

theorem insertMessage_eq_none {columns : MessageColumns} :
    db.insertMessage columns = none ↔ ¬ db.HasAvatar columns.avatarId := by
  unfold Database.insertMessage
  split <;> simp_all

theorem mailbox_insert {row : MessageRow} {n : Nat} (h : row.avatarId = n) (next : Nat) :
    Database.mailbox { db with
      persistentMessage := db.persistentMessage ++ [row], nextMessageId := next } n =
      db.mailbox n ++ [row] := by
  simp [Database.mailbox, List.filter_append, h]

theorem mailbox_insert_of_ne {row : MessageRow} {n : Nat} (h : row.avatarId ≠ n) (next : Nat) :
    Database.mailbox { db with
      persistentMessage := db.persistentMessage ++ [row], nextMessageId := next } n =
      db.mailbox n := by
  simp [Database.mailbox, List.filter_append, h]

theorem mem_mailbox {row : MessageRow} {n : Nat} :
    row ∈ db.mailbox n ↔ row ∈ db.persistentMessage ∧ row.avatarId = n := by
  simp [Database.mailbox]

/-- The statements that change a state select mails of their avatar only. -/
theorem mailbox_setStatus (which : MessageRow → Bool) (status : UInt32) :
    Database.mailbox (db.updateMessages (fun row => decide (row.avatarId = avatarId.toNat) && which row)
      status.toNat) avatarId.toNat = Mailbox.setStatus which status (db.mailbox avatarId.toNat) := by
  rw [mailbox_updateMessages]
  apply List.map_congr_left
  intro row hrow
  rw [decide_eq_true (mem_mailbox.mp hrow).2, Bool.true_and]

theorem mailbox_setStatus_of_ne (which : MessageRow → Bool) (status : Nat) {n : Nat}
    (hn : n ≠ avatarId.toNat) :
    Database.mailbox (db.updateMessages (fun row => decide (row.avatarId = avatarId.toNat) && which row)
      status) n = db.mailbox n := by
  rw [mailbox_updateMessages, List.map_congr_left (g := id), List.map_id]
  intro row hrow
  rw [(mem_mailbox.mp hrow).2, decide_eq_false hn, Bool.false_and]
  rfl

theorem selects_own (avatarId messageId : UInt32) :
    (fun row : MessageRow => decide (row.id = messageId.toNat ∧ row.avatarId = avatarId.toNat)) =
      fun row => decide (row.avatarId = avatarId.toNat) && decide (row.id = messageId.toNat) := by
  funext row
  rw [Bool.decide_and, Bool.and_comm]

end Rows

section Refines
variable {s : Server}

theorem refined_failed {c : MailCall} {t : Server} (hdb : t.db = s.db)
    {e : Exn} (hcall : Mailbox.call (s.db.mailbox c.avatarId.toNat) c (c.input s) =
      (.error e, s.db.mailbox c.avatarId.toNat)) : Refined c s (.error e) t :=
  ⟨by rw [hcall, hdb], fun n _ => by rw [hdb]⟩

theorem refines_storeMessage (s : Server) (message : PersistentMessage) :
    Refines (.storeMessage message) s := by
  unfold Refines MailCall.run storeMessage
  rw [ends_bind, ends_bind]
  apply ends_execute
  · intro id db hf hrun
    obtain ⟨hk, rfl, rfl⟩ := insertMessage_eq_some hrun
    have hinput : ¬ (s.fails s.executed ||
        !decide (s.db.HasAvatar message.header.avatarId.toNat)) = true := by
      change s.db.HasAvatar message.header.avatarId.toNat at hk
      simp [hf, hk]
    constructor
    · have hrows := @mailbox_insert s.db { messageColumns message with id := s.db.nextMessageId }
        message.header.avatarId.toNat rfl (s.db.nextMessageId + 1)
      exact (if_neg hinput).trans (congrArg _ hrows.symm)
    · exact fun n hn => mailbox_insert_of_ne hn.symm _
  · intro hfailed
    apply refined_failed rfl
    apply if_pos
    change (s.fails s.executed || !decide (s.db.HasAvatar message.header.avatarId.toNat)) = true
    rcases hfailed with hf | hnone
    · rw [hf, Bool.true_or]
    · have hk : ¬ s.db.HasAvatar message.header.avatarId.toNat := insertMessage_eq_none.mp hnone
      simp [hk]

theorem refines_getMessageHeaders (s : Server) (avatarId : UInt32) :
    Refines (.getMessageHeaders avatarId) s := by
  unfold Refines MailCall.run getMessageHeaders
  rw [ends_bind, ends_bind]
  apply ends_execute
  · intro rows db hf hrun
    obtain ⟨rfl, rfl⟩ := Prod.mk.inj (Option.some.inj hrun)
    have hrows : (s.db.mailbox avatarId.toNat).filter (·.status ∈ [1, 2, 3]) =
        s.db.persistentMessage.filter fun row =>
          row.avatarId = avatarId.toNat ∧ row.status ∈ [1, 2, 3] := by
      unfold Database.mailbox
      rw [List.filter_filter]
      apply List.filter_congr
      intro row _
      rw [Bool.decide_and, Bool.and_comm]
    have hcall : Mailbox.call (s.db.mailbox avatarId.toNat) (.getMessageHeaders avatarId)
        (MailCall.input s (.getMessageHeaders avatarId)) = _ := if_neg (Bool.eq_false_iff.mp hf)
    rw [hrows] at hcall
    apply (yields_mapM yields_readHeader _).ends
    · intro headers hheaders
      rw [hheaders] at hcall
      exact ⟨hcall, fun n _ => rfl⟩
    · intro e he
      rw [he] at hcall
      exact ⟨hcall, fun n _ => rfl⟩
  · intro hfailed
    have hf : s.fails s.executed = true := hfailed.resolve_right (by simp [Database.run])
    exact refined_failed rfl (if_pos hf)

/-- A change of state of some mails of one avatar. -/
theorem refined_setStatus {c : MailCall} {t : Server} (which : MessageRow → Bool) (status : UInt32)
    {answer : MailAnswer} (hdb : t.db = s.db.updateMessages
      (fun row => decide (row.avatarId = c.avatarId.toNat) && which row) status.toNat)
    (hcall : Mailbox.call (s.db.mailbox c.avatarId.toNat) c (c.input s) =
      (.ok answer, Mailbox.setStatus which status (s.db.mailbox c.avatarId.toNat))) :
    Refined c s (.ok answer) t := by
  constructor
  · rw [hcall, hdb, mailbox_setStatus]
  · intro n hn
    rw [hdb, mailbox_setStatus_of_ne which _ hn]

theorem refines_updateMessageStatus (s : Server) (avatarId messageId status : UInt32) :
    Refines (.updateMessageStatus avatarId messageId status) s := by
  unfold Refines MailCall.run updateMessageStatus
  rw [ends_bind]
  apply ends_execute
  · intro _ db hf hrun
    obtain ⟨-, rfl⟩ := Prod.mk.inj (Option.some.inj hrun)
    apply refined_setStatus (·.id = messageId.toNat) status
    · exact congrArg (s.db.updateMessages · status.toNat) (selects_own avatarId messageId)
    · exact if_neg (Bool.eq_false_iff.mp hf)
  · intro hfailed
    have hf : s.fails s.executed = true := hfailed.resolve_right (by simp [Database.run])
    exact refined_failed rfl (if_pos hf)

theorem refines_bulkUpdateMessageStatus (s : Server) (avatarId : UInt32) (category : U16String)
    (newStatus : UInt32) : Refines (.bulkUpdateMessageStatus avatarId category newStatus) s := by
  unfold Refines MailCall.run bulkUpdateMessageStatus
  rw [ends_bind]
  apply ends_execute
  · intro _ db hf hrun
    obtain ⟨-, rfl⟩ := Prod.mk.inj (Option.some.inj hrun)
    apply refined_setStatus (·.category = fromWideString category) newStatus
    · apply congrArg (s.db.updateMessages · newStatus.toNat)
      funext row
      exact Bool.decide_and _ _
    · exact if_neg (Bool.eq_false_iff.mp hf)
  · intro hfailed
    have hf : s.fails s.executed = true := hfailed.resolve_right (by simp [Database.run])
    exact refined_failed rfl (if_pos hf)

theorem refines_getPersistentMessage (s : Server) (avatarId messageId : UInt32) :
    Refines (.getPersistentMessage avatarId messageId) s := by
  unfold Refines MailCall.run getPersistentMessage
  rw [ends_bind, ends_bind]
  apply ends_execute
  · intro rows db hf hrun
    obtain ⟨rfl, rfl⟩ := Prod.mk.inj (Option.some.inj hrun)
    have hfind : (s.db.mailbox avatarId.toNat).find? (·.id = messageId.toNat) =
        (s.db.persistentMessage.filter fun row =>
          row.id = messageId.toNat ∧ row.avatarId = avatarId.toNat).head? := by
      unfold Database.mailbox
      rw [List.head?_filter, List.find?_filter, selects_own]
      simp
    have hcall : Mailbox.call (s.db.mailbox avatarId.toNat) (.getPersistentMessage avatarId messageId)
        (MailCall.input s (.getPersistentMessage avatarId messageId)) = _ :=
      if_neg (Bool.eq_false_iff.mp hf)
    rw [hfind] at hcall
    cases hrows : s.db.persistentMessage.filter fun row =>
        row.id = messageId.toNat ∧ row.avatarId = avatarId.toNat with
    | nil =>
      rw [hrows] at hcall
      exact ⟨hcall, fun n _ => rfl⟩
    | cons row rest =>
      rw [hrows] at hcall
      simp only [List.head?_cons] at hcall
      rw [ends_bind]
      apply (yields_readMessage avatarId messageId row).ends
      · intro mail hmail
        rw [hmail] at hcall
        simp only at hcall
        rw [runIf, ends_bind, ends_ite]
        split
        · rename_i hnew
          rw [if_pos hnew] at hcall
          apply ends_execute
          · intro _ db hf hrun
            obtain ⟨-, rfl⟩ := Prod.mk.inj (Option.some.inj hrun)
            apply refined_setStatus (·.id = messageId.toNat) PersistentState.read.code
            · exact congrArg (s.db.updateMessages · PersistentState.read.code.toNat)
                (selects_own avatarId messageId)
            · exact hcall.trans (if_neg (Bool.eq_false_iff.mp hf))
          · intro hfailed
            have hf : s.fails (s.executed + 1) = true := hfailed.resolve_right (by simp [Database.run])
            exact refined_failed rfl (hcall.trans (if_pos hf))
        · rename_i hnew
          exact ⟨hcall.trans (if_neg hnew), fun n _ => rfl⟩
      · intro e he
        rw [he] at hcall
        exact ⟨hcall, fun n _ => rfl⟩
  · intro hfailed
    have hf : s.fails s.executed = true := hfailed.resolve_right (by simp [Database.run])
    exact refined_failed rfl (if_pos hf)

/-- Every call of the mail service is a call on the mailbox of its avatar. -/
theorem refines (c : MailCall) (s : Server) : Refines c s := by
  cases c with
  | storeMessage message => exact refines_storeMessage s message
  | getMessageHeaders avatarId => exact refines_getMessageHeaders s avatarId
  | getPersistentMessage avatarId messageId => exact refines_getPersistentMessage s avatarId messageId
  | updateMessageStatus avatarId messageId status =>
    exact refines_updateMessageStatus s avatarId messageId status
  | bulkUpdateMessageStatus avatarId category newStatus =>
    exact refines_bulkUpdateMessageStatus s avatarId category newStatus

end Refines

/-- The mail service, with a mailbox for each avatar id. -/
def mailService : Service Server Nat MailCall (Except Exn MailAnswer) (List MessageRow) MailInput where
  step s c := c.run s
  owner c := c.avatarId.toNat
  part n s := s.db.mailbox n
  input s c := c.input s
  alone rows c input := Mailbox.call rows c input

theorem mailService_isolated : mailService.Isolated where
  answer s c := (congrArg Prod.fst (refines c s).run.1).symm
  part s c := (congrArg Prod.snd (refines c s).run.1).symm
  frame s c n hn := (refines c s).run.2 n hn

end StationChat
