import StationChat.Lib.Contract
import StationChat.Mail.Mailbox
import Mathlib.Data.List.Nodup

/-! Mailboxes are isolated: what an avatar is told depends on its own mails, and nobody changes those of
another avatar. -/
namespace StationChat
open Lib Lib.Action

section Definitions

/-- The primary key of `persistent_message`. -/
def Database.MailKeys (db : Database) : Prop :=
  (db.persistentMessage.map (·.id)).Nodup ∧ ∀ row ∈ db.persistentMessage, row.id < db.nextMessageId

/-- Every row is still there with at most another status, and new rows come behind. -/
def Database.Keeps (db after : Database) : Prop :=
  ∃ (status : MessageRow → Nat) (new : List MessageRow), after.persistentMessage =
    db.persistentMessage.map (fun row => { row with status := status row }) ++ new

/-- At most the one mail is changed, from NEW to READ. -/
def Database.Marks (avatarId messageId : UInt32) (db after : Database) : Prop :=
  after.persistentMessage = db.persistentMessage ∨
    ∃ row ∈ db.persistentMessage, row.id = messageId.toNat ∧ row.avatarId = avatarId.toNat ∧
      row.status = PersistentState.new.code.toNat ∧
      after.persistentMessage = db.persistentMessage.map fun r =>
        if r = row then { r with status := PersistentState.read.code.toNat } else r

/-- The server with another mail table. -/
def Server.withMail (s : Server) (rows : List MessageRow) (nextMessageId : Nat) : Server :=
  { s with db := { s.db with persistentMessage := rows, nextMessageId } }

/-- The same answer, apart from the id given to a new mail. -/
def SameAnswer : Except Exn MailAnswer → Except Exn MailAnswer → Prop
  | .ok (.stored _), .ok (.stored _) => True
  | a, b => a = b

end Definitions

section Keeps
variable {s : Server}

theorem Database.Keeps.of_eq {db after : Database} (h : after.persistentMessage = db.persistentMessage) :
    db.Keeps after :=
  ⟨fun row => row.status, [], by simp [h]⟩

theorem Database.Keeps.refl (db : Database) : db.Keeps db := .of_eq rfl

theorem Database.Keeps.trans {a b c : Database} (h : a.Keeps b) (h' : b.Keeps c) : a.Keeps c := by
  obtain ⟨status, new, hb⟩ := h
  obtain ⟨status', new', hc⟩ := h'
  refine ⟨fun row => status' { row with status := status row },
    new.map (fun row => { row with status := status' row }) ++ new', ?_⟩
  rw [hc, hb, List.map_append, List.map_map, List.append_assoc]
  rfl

theorem Database.Keeps.updateMessages (db : Database) (which : MessageRow → Bool) (status : Nat) :
    db.Keeps (db.updateMessages which status) := by
  refine ⟨fun row => if which row then status else row.status, [], ?_⟩
  rw [List.append_nil]
  apply List.map_congr_left
  intro row _
  by_cases h : which row = true <;> simp [h]

theorem MailKeys.updateMessages {db : Database} (h : db.MailKeys) (which : MessageRow → Bool)
    (status : Nat) : (db.updateMessages which status).MailKeys := by
  have hid : ∀ row : MessageRow, (if which row then { row with status } else row).id = row.id := by
    intro row
    split <;> rfl
  constructor
  · change ((db.persistentMessage.map _).map _).Nodup
    rw [List.map_map]
    exact (List.map_congr_left fun row _ => hid row) ▸ h.1
  · intro row hrow
    obtain ⟨row', hrow', rfl⟩ := List.mem_map.mp hrow
    rw [hid]
    exact h.2 row' hrow'

theorem MailKeys.insertMessage {db after : Database} {columns : MessageColumns} {id : Nat}
    (h : db.MailKeys) (hinsert : db.insertMessage columns = some (id, after)) : after.MailKeys := by
  obtain ⟨-, -, rfl⟩ := insertMessage_eq_some hinsert
  constructor
  · rw [List.map_append]
    apply List.nodup_append.mpr
    refine ⟨h.1, List.nodup_singleton _, ?_⟩
    intro id hid id' hid'
    obtain ⟨row, hrow, rfl⟩ := List.mem_map.mp hid
    rw [List.mem_singleton.mp hid']
    exact Nat.ne_of_lt (h.2 row hrow)
  · intro row hrow
    rcases List.mem_append.mp hrow with hold | hnew
    · exact Nat.lt_succ_of_lt (h.2 row hold)
    · rw [List.mem_singleton.mp hnew]
      exact Nat.lt_succ_self _

/-- Mails are only added and given another status. -/
def keepsMail : Contract Server Exn where
  inv s := s.db.MailKeys
  step s t := s.db.Keeps t.db
  allowed _ := True
  refl _ := .refl _
  trans := .trans

theorem keeps_execute {α : Type} {statement : Statement α} (hs : s.db.MailKeys)
    (h : ∀ a db, s.db.run statement = some (a, db) → db.MailKeys ∧ s.db.Keeps db) :
    keepsMail.Holds (execute statement) s fun _ _ => True :=
  ends_execute (fun a db _ hrun => ⟨(h a db hrun).1, (h a db hrun).2, trivial⟩)
    (fun _ => ⟨hs, .refl _, trivial⟩)

theorem keeps_yields {α : Type} {x : Serve α} {y : Except Exn α} (hs : s.db.MailKeys)
    (h : x.Yields y) : keepsMail.Holds x s fun _ _ => True :=
  h.ends (fun _ _ => ⟨hs, .refl _, trivial⟩) (fun _ _ => ⟨hs, .refl _, trivial⟩)

theorem keeps_storeMessage (hs : s.db.MailKeys) (message : PersistentMessage) :
    keepsMail.Holds (storeMessage message) s fun _ _ => True := by
  have hinsert : keepsMail.Holds (execute (.insertMessage (messageColumns message))) s
      fun _ _ => True := by
    apply keeps_execute hs
    intro id db hrun
    refine ⟨MailKeys.insertMessage hs hrun, ?_⟩
    obtain ⟨-, -, rfl⟩ := insertMessage_eq_some hrun
    exact ⟨fun row => row.status, _, by rw [List.map_id']⟩
  exact hinsert.bind fun _ _ ht _ _ => Contract.holds_pure ht trivial

theorem keeps_getMessageHeaders (hs : s.db.MailKeys) (avatarId : UInt32) :
    keepsMail.Holds (getMessageHeaders avatarId) s fun _ _ => True := by
  have hselect : keepsMail.Holds (execute (.selectHeaders avatarId)) s fun _ _ => True := by
    apply keeps_execute hs
    intro rows db hrun
    obtain ⟨-, rfl⟩ := Prod.mk.inj (Option.some.inj hrun)
    exact ⟨hs, .refl _⟩
  exact hselect.bind fun rows _ ht _ _ => keeps_yields ht (yields_mapM yields_readHeader rows)

theorem keeps_updateMessageStatus (hs : s.db.MailKeys) (avatarId messageId status : UInt32) :
    keepsMail.Holds (updateMessageStatus avatarId messageId status) s fun _ _ => True := by
  apply keeps_execute hs
  intro _ db hrun
  obtain ⟨-, rfl⟩ := Prod.mk.inj (Option.some.inj hrun)
  exact ⟨MailKeys.updateMessages hs _ _, .updateMessages _ _ _⟩

theorem keeps_bulkUpdateMessageStatus (hs : s.db.MailKeys) (avatarId : UInt32) (category : U16String)
    (newStatus : UInt32) :
    keepsMail.Holds (bulkUpdateMessageStatus avatarId category newStatus) s fun _ _ => True := by
  apply keeps_execute hs
  intro _ db hrun
  obtain ⟨-, rfl⟩ := Prod.mk.inj (Option.some.inj hrun)
  exact ⟨MailKeys.updateMessages hs _ _, .updateMessages _ _ _⟩

theorem keeps_getPersistentMessage (hs : s.db.MailKeys) (avatarId messageId : UInt32) :
    keepsMail.Holds (getPersistentMessage avatarId messageId) s fun _ _ => True := by
  have hselect : keepsMail.Holds (execute (.selectMessage messageId avatarId)) s fun _ _ => True := by
    apply keeps_execute hs
    intro rows db hrun
    obtain ⟨-, rfl⟩ := Prod.mk.inj (Option.some.inj hrun)
    exact ⟨hs, .refl _⟩
  apply hselect.bind
  intro rows t ht _ _
  cases rows with
  | nil => exact Contract.holds_throw ht trivial
  | cons row rest =>
    apply (keeps_yields ht (yields_readMessage avatarId messageId row)).bind
    intro message u hu _ _
    apply (Contract.holds_runIf hu fun _ => keeps_updateMessageStatus hu _ _ _).bind
    exact fun _ _ hv _ _ => Contract.holds_pure hv trivial

theorem keeps_run (hs : s.db.MailKeys) (c : MailCall) : keepsMail.Holds c.run s fun _ _ => True := by
  cases c with
  | storeMessage message =>
    exact (keeps_storeMessage hs message).bind fun _ _ ht _ _ => Contract.holds_pure ht trivial
  | getMessageHeaders avatarId =>
    exact (keeps_getMessageHeaders hs avatarId).bind fun _ _ ht _ _ => Contract.holds_pure ht trivial
  | getPersistentMessage avatarId messageId =>
    exact (keeps_getPersistentMessage hs avatarId messageId).bind fun _ _ ht _ _ =>
      Contract.holds_pure ht trivial
  | updateMessageStatus avatarId messageId status =>
    exact (keeps_updateMessageStatus hs avatarId messageId status).bind fun _ _ ht _ _ =>
      Contract.holds_pure ht trivial
  | bulkUpdateMessageStatus avatarId category newStatus =>
    exact (keeps_bulkUpdateMessageStatus hs avatarId category newStatus).bind fun _ _ ht _ _ =>
      Contract.holds_pure ht trivial

/-- What a call leaves of the table, whether it ends with an answer or an exception. -/
theorem run_keeps (hs : s.db.MailKeys) (c : MailCall) :
    (c.run s).2.db.MailKeys ∧ s.db.Keeps (c.run s).2.db := by
  have hends : c.run.Ends s (fun _ t => t.db.MailKeys ∧ s.db.Keeps t.db)
      (fun _ t => t.db.MailKeys ∧ s.db.Keeps t.db) :=
    Ends.mono (keeps_run hs c) (fun _ _ h => ⟨h.1, h.2.1⟩) fun _ _ h => ⟨h.1, h.2.1⟩
  exact hends.run (P := fun _ (t : Server) => t.db.MailKeys ∧ s.db.Keeps t.db)

end Keeps

section Fetch
variable {s : Server} {avatarId messageId : UInt32}

theorem columnInt_eq_ok {n : Nat} {v : UInt32} (h : Mailbox.columnInt n = .ok v) : v.toNat = n := by
  unfold Mailbox.columnInt at h
  split at h
  · rw [← Except.ok.inj h, UInt32.toNat_ofNat']
    omega
  · exact absurd h (by simp)

/-- The status of a mail that could be read is the one of its row. -/
theorem status_of_message {row : MessageRow} {mail : PersistentMessage}
    (h : Mailbox.message avatarId messageId row = .ok mail) :
    mail.header.status.toNat = row.status := by
  unfold Mailbox.message at h
  cases htime : Mailbox.columnInt row.sentTime with
  | error e => simp [htime, bind, Except.bind] at h
  | ok sentTime =>
    cases hstatus : Mailbox.columnInt row.status with
    | error e => simp [htime, hstatus, bind, Except.bind] at h
    | ok status =>
      cases hoob : oobUnits row.oob with
      | none => simp [htime, hstatus, hoob, bind, Except.bind, throw, throwThe, MonadExceptOf.throw] at h
      | some oob =>
        simp only [htime, hstatus, hoob, bind, Except.bind, pure, Except.pure, Except.ok.injEq] at h
        rw [← h]
        exact columnInt_eq_ok hstatus

/-- Fetching a mail marks it if it was NEW, and does nothing else to the table. -/
theorem marks_getPersistentMessage (hkeys : s.db.MailKeys) :
    (getPersistentMessage avatarId messageId).Ends s
      (fun _ t => s.db.Marks avatarId messageId t.db) fun _ t => s.db.Marks avatarId messageId t.db := by
  unfold getPersistentMessage
  rw [ends_bind]
  apply ends_execute
  · intro rows db hf hrun
    obtain ⟨hrows, rfl⟩ := Prod.mk.inj (Option.some.inj hrun)
    cases rows with
    | nil => exact .inl rfl
    | cons row rest =>
      have hrow : row ∈ s.db.persistentMessage ∧
          (row.id = messageId.toNat ∧ row.avatarId = avatarId.toNat) := by
        have hmem := hrows ▸ List.mem_cons_self (a := row) (l := rest)
        simpa using hmem
      rw [ends_bind]
      apply (yields_readMessage avatarId messageId row).ends
      · intro mail hmail
        rw [ends_bind, runIf, ends_ite]
        split
        · rename_i hnew
          apply ends_execute
          · intro _ db hf hrun
            obtain ⟨-, rfl⟩ := Prod.mk.inj (Option.some.inj hrun)
            refine .inr ⟨row, hrow.1, hrow.2.1, hrow.2.2, ?_, ?_⟩
            · rw [← status_of_message hmail, eq_of_beq hnew]
            · apply List.map_congr_left
              intro r hr
              have hsame : r.id = messageId.toNat ∧ r.avatarId = avatarId.toNat ↔ r = row := by
                constructor
                · intro h
                  exact List.inj_on_of_nodup_map hkeys.1 hr hrow.1 (h.1.trans hrow.2.1.symm)
                · rintro rfl
                  exact hrow.2
              simp only [hsame, decide_eq_true_eq]
          · exact fun _ => .inl rfl
        · exact .inl rfl
      · exact fun _ _ => .inl rfl
  · exact fun _ => .inl rfl

end Fetch

section Answers
variable {s : Server}

theorem SameAnswer.refl (a : Except Exn MailAnswer) : SameAnswer a a := by
  cases a with
  | error e => rfl
  | ok a => cases a <;> trivial

/-- Another table with the same mails of the avatar gives a call the same answer. -/
theorem sameAnswer_withMail (c : MailCall) {rows : List MessageRow} (nextMessageId : Nat)
    (h : rows.filter (·.avatarId = c.avatarId.toNat) = s.db.mailbox c.avatarId.toNat) :
    SameAnswer (c.run s).1 (c.run (s.withMail rows nextMessageId)).1 := by
  have hmailbox : (s.withMail rows nextMessageId).db.mailbox c.avatarId.toNat =
      s.db.mailbox c.avatarId.toNat := h
  have hhere := mailService_isolated.answer s c
  have hthere := mailService_isolated.answer (s.withMail rows nextMessageId) c
  change (c.run s).1 = (Mailbox.call (s.db.mailbox c.avatarId.toNat) c (c.input s)).1 at hhere
  change (c.run _).1 = (Mailbox.call (Database.mailbox _ c.avatarId.toNat) c (c.input _)).1 at hthere
  rw [hmailbox] at hthere
  rw [hhere, hthere]
  cases c with
  | storeMessage message =>
    -- the two inputs differ in the fresh id alone
    by_cases hinput : (s.fails s.executed ||
        !decide (s.db.HasAvatar message.header.avatarId.toNat)) = true
    · have hfailed : ∀ t : Server, t = s ∨ t = s.withMail rows nextMessageId →
          (Mailbox.call (s.db.mailbox (MailCall.storeMessage message).avatarId.toNat)
            (.storeMessage message) (MailCall.input t (.storeMessage message))).1 = .error .database := by
        rintro t (rfl | rfl) <;> exact congrArg Prod.fst (if_pos hinput)
      rw [hfailed s (.inl rfl), hfailed _ (.inr rfl)]
      exact .refl _
    · have hstored : ∀ t : Server, t = s ∨ t = s.withMail rows nextMessageId →
          (Mailbox.call (s.db.mailbox (MailCall.storeMessage message).avatarId.toNat)
            (.storeMessage message) (MailCall.input t (.storeMessage message))).1 =
              .ok (.stored (UInt32.ofNat t.db.nextMessageId)) := by
        rintro t (rfl | rfl) <;> exact congrArg Prod.fst (if_neg hinput)
      rw [hstored s (.inl rfl), hstored _ (.inr rfl)]
      trivial
  | getMessageHeaders avatarId => exact .refl _
  | getPersistentMessage avatarId messageId => exact .refl _
  | updateMessageStatus avatarId messageId status => exact .refl _
  | bulkUpdateMessageStatus avatarId category newStatus => exact .refl _

end Answers

/-- What a call learns and changes. -/
structure MailCall.Isolated (c : MailCall) (s : Server) : Prop where
  answer : ∀ rows nextMessageId, rows.filter (·.avatarId = c.avatarId.toNat) =
    s.db.mailbox c.avatarId.toNat → SameAnswer (c.run s).1 (c.run (s.withMail rows nextMessageId)).1
  others : ∀ n ≠ c.avatarId.toNat, (c.run s).2.db.mailbox n = s.db.mailbox n
  keeps : s.db.Keeps (c.run s).2.db
  marks : ∀ avatarId messageId, c = .getPersistentMessage avatarId messageId →
    s.db.Marks avatarId messageId (c.run s).2.db

theorem isolated_of_keys {s : Server} (hkeys : s.db.MailKeys) (c : MailCall) : c.Isolated s where
  answer _ nextMessageId h := sameAnswer_withMail c nextMessageId h
  others n hn := mailService_isolated.frame s c n hn
  keeps := (run_keeps hkeys c).2
  marks := by
    rintro avatarId messageId rfl
    have hends : (MailCall.getPersistentMessage avatarId messageId).run.Ends s
        (fun _ t => s.db.Marks avatarId messageId t.db)
        (fun _ t => s.db.Marks avatarId messageId t.db) := by
      unfold MailCall.run
      rw [ends_bind]
      exact marks_getPersistentMessage hkeys
    exact hends.run (P := fun _ (t : Server) => s.db.Marks avatarId messageId t.db)

/-- In every run of the mail service, whatever avatars its calls are made for: every call is isolated
in the state it is made in, no row has been deleted or changed but in its status, the mails of an
avatar without calls are as they were, and two runs that agree on an avatar's mails, calls and fresh
ids give it the same answers. -/
theorem mailboxes_isolated {s : Server} (hkeys : s.db.MailKeys) (calls : List MailCall) :
    (∀ c : MailCall, c.Isolated (mailService.run s calls)) ∧
      s.db.Keeps (mailService.run s calls).db ∧
      (∀ n, (∀ c ∈ calls, c.avatarId.toNat ≠ n) →
        (mailService.run s calls).db.mailbox n = s.db.mailbox n) ∧
      ∀ n s' calls', s.db.mailbox n = s'.db.mailbox n →
        mailService.calls n s calls = mailService.calls n s' calls' →
        mailService.answers n s calls = mailService.answers n s' calls' ∧
          (mailService.run s calls).db.mailbox n = (mailService.run s' calls').db.mailbox n := by
  have hrun : (mailService.run s calls).db.MailKeys ∧ s.db.Keeps (mailService.run s calls).db := by
    apply Service.run_invariant (P := fun t : Server => t.db.MailKeys ∧ s.db.Keeps t.db)
    · intro t c ht
      have hstep := run_keeps ht.1 c
      exact ⟨hstep.1, ht.2.trans hstep.2⟩
    · exact ⟨hkeys, .refl _⟩
  refine ⟨isolated_of_keys hrun.1, hrun.2, ?_, ?_⟩
  · exact fun n hcalls => mailService_isolated.run_frame s calls hcalls
  · exact fun n s' calls' hpart hcalls => mailService_isolated.noninterference hpart hcalls

/-- A NEW mail of avatar 1. -/
def Server.oneMail : Server :=
  Server.start
    { Database.empty with
      avatar := [⟨1, 0, [0x61], [0x62], 0⟩, ⟨2, 0, [0x63], [0x62], 0⟩]
      persistentMessage := [⟨⟨1, [0x63], [0x62], [], 0, 1, [], [], [0x68], []⟩, 1⟩]
      nextMessageId := 2 }
    (fun _ => false) 2 {}

/-- Avatar 2 guesses the id of the mail. -/
theorem mailboxes_isolated_guess :
    (mailService.run Server.oneMail [.getPersistentMessage 2 1, .updateMessageStatus 2 1 5]).db.mailbox 1 =
      Server.oneMail.db.mailbox 1 :=
  have hkeys : Server.oneMail.db.MailKeys := ⟨by decide, by decide⟩
  (mailboxes_isolated hkeys [.getPersistentMessage 2 1, .updateMessageStatus 2 1 5]).2.2.1 1 (by decide)

end StationChat
