import StationChat.Mail.Isolation
import StationChat.Protocol.Handlers

/-! Which texts of a mail come back from the table as they were sent. -/
namespace StationChat
open Lib Lib.Action

section Produced

/-- The mail a SENDPERSISTENTMESSAGE stores, once its sender and its receiver are known. -/
def producedMail (request : ReqSendPersistentMessage) (fromName fromAddress : U16String)
    (avatarId sentTime : UInt32) : PersistentMessage where
  header := {
    fromName, fromAddress, sentTime, avatarId
    subject := request.subject
    category := request.category }
  message := request.msg
  oob := request.oob

/-- The texts of a header, unit for unit. -/
def SameTexts (h h' : PersistentHeader) : Prop :=
  h.fromName = h'.fromName ∧ h.fromAddress = h'.fromAddress ∧ h.subject = h'.subject ∧
    h.folder = h'.folder ∧ h.category = h'.category

theorem SameTexts.trans {h h' h'' : PersistentHeader} (hs : SameTexts h h') (hs' : SameTexts h' h'') :
    SameTexts h h'' :=
  ⟨hs.1.trans hs'.1, hs.2.1.trans hs'.2.1, hs.2.2.1.trans hs'.2.2.1, hs.2.2.2.1.trans hs'.2.2.2.1,
    hs.2.2.2.2.trans hs'.2.2.2.2⟩

/-- The headers of the receiver hold the mail's, and fetching the mail yields its header and body. -/
def ComesBack (s : Server) (messageId : UInt32) (mail : PersistentMessage) : Prop :=
  (∃ headers, ((MailCall.getMessageHeaders mail.header.avatarId).run s).1 = .ok (.headers headers) ∧
    (∃ h ∈ headers, h.messageId = messageId) ∧
    ∀ h ∈ headers, h.messageId = messageId → SameTexts h mail.header) ∧
  ∃ fetched, ((MailCall.getPersistentMessage mail.header.avatarId messageId).run s).1 =
    .ok (.message fetched) ∧
    SameTexts fetched.header mail.header ∧ fetched.message = mail.message

/-- Every unit of the texts is the sign-extension of its low byte. -/
def PersistentMessage.Storable (mail : PersistentMessage) : Prop :=
  Narrowable mail.header.fromName ∧ Narrowable mail.header.fromAddress ∧
    Narrowable mail.header.subject ∧ Narrowable mail.header.folder ∧
    Narrowable mail.header.category ∧ Narrowable mail.message

end Produced

section Reading

/-- The header of a row whose integers are in range. -/
def headerOf (row : MessageRow) : PersistentHeader where
  messageId := UInt32.ofNat row.id
  avatarId := UInt32.ofNat row.avatarId
  fromName := toWideString row.fromName
  fromAddress := toWideString row.fromAddress
  subject := toWideString row.subject
  sentTime := UInt32.ofNat row.sentTime
  status := UInt32.ofNat row.status
  folder := toWideString row.folder
  category := toWideString row.category

theorem columnInt_small {n : Nat} (h : n < 2 ^ 31) : Mailbox.columnInt n = .ok (UInt32.ofNat n) := if_pos h

theorem columnInt_large {n : Nat} (h : ¬ n < 2 ^ 31) : Mailbox.columnInt n = .error .outOfRange := if_neg h

theorem header_small {row : MessageRow} (h : row.Small) : Mailbox.header row = .ok (headerOf row) := by
  unfold Mailbox.header
  rw [columnInt_small h.1, columnInt_small h.2.1, columnInt_small h.2.2.1, columnInt_small h.2.2.2]
  rfl

theorem small_of_header {row : MessageRow} {header : PersistentHeader}
    (h : Mailbox.header row = .ok header) : row.Small := by
  by_contra hsmall
  have herror : Mailbox.header row = .error .outOfRange := by
    unfold Mailbox.header
    by_cases hid : row.id < 2 ^ 31
    · rw [columnInt_small hid]
      by_cases havatar : row.avatarId < 2 ^ 31
      · rw [columnInt_small havatar]
        by_cases htime : row.sentTime < 2 ^ 31
        · rw [columnInt_small htime, columnInt_large fun hstatus => hsmall ⟨hid, havatar, htime, hstatus⟩]
          rfl
        · rw [columnInt_large htime]
          rfl
      · rw [columnInt_large havatar]
        rfl
    · rw [columnInt_large hid]
      rfl
  exact absurd (h.symm.trans herror) (by simp)

theorem headers_iff (rows : List MessageRow) (headers : List PersistentHeader) :
    rows.mapM Mailbox.header = .ok headers ↔
      (∀ row ∈ rows, row.Small) ∧ headers = rows.map headerOf := by
  induction rows generalizing headers with
  | nil => simp [pure, Except.pure, eq_comm]
  | cons row rows ih =>
    rw [List.mapM_cons]
    constructor
    · intro h
      cases hrow : Mailbox.header row with
      | error e => simp [hrow, bind, Except.bind] at h
      | ok header =>
        cases hrows : rows.mapM Mailbox.header with
        | error e => simp [hrow, hrows, bind, Except.bind] at h
        | ok rest =>
          simp only [hrow, hrows, bind, Except.bind, pure, Except.pure, Except.ok.injEq] at h
          have hsmall := small_of_header hrow
          have hrest := (ih rest).mp hrows
          rw [header_small hsmall, Except.ok.injEq] at hrow
          exact ⟨List.forall_mem_cons.mpr ⟨hsmall, hrest.1⟩, by rw [← h, ← hrow, hrest.2, List.map_cons]⟩
    · rintro ⟨hsmall, rfl⟩
      obtain ⟨hrow, hrows⟩ := List.forall_mem_cons.mp hsmall
      rw [header_small hrow, (ih _).mpr ⟨hrows, rfl⟩]
      rfl

theorem unit_of_bytes (u : UInt16) : u.toUInt8.toUInt16 ||| ((u >>> 8).toUInt8.toUInt16 <<< 8) = u := by
  have hu : u.toNat < 65536 := u.toNat_lt
  have hlow : u.toUInt8.toUInt16.toNat = u.toNat % 256 := by
    rw [UInt8.toNat_toUInt16, UInt16.toNat_toUInt8]
  have hhigh : ((u >>> 8).toUInt8.toUInt16 <<< 8).toNat = (u.toNat / 256) <<< 8 := by
    rw [UInt16.toNat_shiftLeft, UInt8.toNat_toUInt16, UInt16.toNat_toUInt8, UInt16.toNat_shiftRight]
    have hsmall : u.toNat / 256 < 256 := by omega
    simp [Nat.shiftRight_eq_div_pow, Nat.shiftLeft_eq]
    omega
  apply UInt16.toNat_inj.mp
  rw [UInt16.toNat_or, hlow, hhigh, Nat.or_comm,
    ← Nat.shiftLeft_add_eq_or_of_lt (Nat.mod_lt _ (by decide)), Nat.shiftLeft_eq]
  omega

theorem oobUnits_oobBytes (oob : U16String) : oobUnits (oobBytes oob) = some oob := by
  induction oob with
  | nil => rfl
  | cons u oob ih =>
    change (oobUnits (oobBytes oob)).map _ = _
    rw [ih, Option.map_some, unit_of_bytes]

end Reading

section Stored
variable {s t : Server} {messageId : UInt32} {mail : PersistentMessage}

/-- The row of a new mail. -/
def Server.newMail (s : Server) (mail : PersistentMessage) : MessageRow :=
  { messageColumns mail with id := s.db.nextMessageId }

/-- The rows `GetMessageHeaders` selects. -/
def Server.listed (s : Server) (avatarId : UInt32) : List MessageRow :=
  (s.db.mailbox avatarId.toNat).filter (·.status ∈ [1, 2, 3])

theorem headers_answer (hworks : ∀ k, s.fails k = false) (avatarId : UInt32) :
    ((MailCall.getMessageHeaders avatarId).run s).1 =
      .headers <$> (s.listed avatarId).mapM Mailbox.header := by
  have hanswer := mailService_isolated.answer s (.getMessageHeaders avatarId)
  exact hanswer.trans (congrArg Prod.fst (if_neg (Bool.eq_false_iff.mp (hworks s.executed))))

/-- Storing appends the mail to the mailbox of its receiver. -/
theorem stored_mailbox (h : (MailCall.storeMessage mail).run s = (.ok (.stored messageId), t)) :
    messageId = UInt32.ofNat s.db.nextMessageId ∧
      t.db.mailbox mail.header.avatarId.toNat =
        s.db.mailbox mail.header.avatarId.toNat ++ [s.newMail mail] := by
  have hanswer := mailService_isolated.answer s (.storeMessage mail)
  have hpart := mailService_isolated.part s (.storeMessage mail)
  change ((MailCall.storeMessage mail).run s).1 = (if _ then _ else _ : _ × _).1 at hanswer
  change ((MailCall.storeMessage mail).run s).2.db.mailbox _ = (if _ then _ else _ : _ × _).2 at hpart
  rw [h] at hanswer hpart
  split at hanswer
  · exact absurd hanswer (by simp)
  · rename_i hinput
    rw [if_neg hinput] at hpart
    exact ⟨MailAnswer.stored.inj (Except.ok.inj hanswer), hpart⟩

theorem stored_listed (h : (MailCall.storeMessage mail).run s = (.ok (.stored messageId), t))
    (hnew : mail.header.status = PersistentState.new.code) :
    t.listed mail.header.avatarId = s.listed mail.header.avatarId ++ [s.newMail mail] := by
  have hstatus : (s.newMail mail).status ∈ [1, 2, 3] := by
    change mail.header.status.toNat ∈ [1, 2, 3]
    rw [hnew]
    decide
  unfold Server.listed
  rw [(stored_mailbox h).2, List.filter_append, List.filter_singleton, decide_eq_true hstatus]
  rfl

/-- Reading the row of a new mail. -/
theorem message_newMail (avatarId messageId : UInt32)
    (hnew : mail.header.status = PersistentState.new.code)
    (htime : mail.header.sentTime.toNat < 2 ^ 31) :
    ∃ fetched, Mailbox.message avatarId messageId (s.newMail mail) = .ok fetched ∧
      SameTexts fetched.header (headerOf (s.newMail mail)) ∧
      fetched.message = toWideString (fromWideString mail.message) := by
  have hstatus : mail.header.status.toNat < 2 ^ 31 := by
    rw [hnew]
    decide
  have hsent : Mailbox.columnInt (s.newMail mail).sentTime = .ok mail.header.sentTime := by
    rw [← UInt32.ofNat_toNat (x := mail.header.sentTime)]
    exact columnInt_small htime
  have hcode : Mailbox.columnInt (s.newMail mail).status = .ok _ := columnInt_small hstatus
  have hoob : oobUnits (s.newMail mail).oob = some mail.oob := oobUnits_oobBytes mail.oob
  unfold Mailbox.message
  rw [hsent, hcode]
  simp only [hoob]
  exact ⟨_, rfl, ⟨rfl, rfl, rfl, rfl, rfl⟩, rfl⟩

theorem fetch_ok {input : MailInput} {rows : List MessageRow} {row : MessageRow} {avatarId : UInt32}
    {fetched : PersistentMessage} (hfirst : input.failsFirst = false)
    (hsecond : input.failsSecond = false) (hfind : rows.find? (·.id = messageId.toNat) = some row)
    (hmessage : Mailbox.message avatarId messageId row = .ok fetched) :
    (Mailbox.fetch input rows avatarId messageId).1 = .ok (.message fetched) := by
  unfold Mailbox.fetch
  rw [hfirst, hfind, hsecond]
  simp only [hmessage]
  split
  · rename_i h
    exact absurd h (by simp)
  · split <;> rfl

theorem fetch_answer (hkeys : s.db.MailKeys) (hworks : ∀ k, t.fails k = false)
    (h : (MailCall.storeMessage mail).run s = (.ok (.stored messageId), t))
    (hid : s.db.nextMessageId < 2 ^ 32) (hnew : mail.header.status = PersistentState.new.code)
    (htime : mail.header.sentTime.toNat < 2 ^ 31) :
    ∃ fetched, ((MailCall.getPersistentMessage mail.header.avatarId messageId).run t).1 =
        .ok (.message fetched) ∧
      SameTexts fetched.header (headerOf (s.newMail mail)) ∧
      fetched.message = toWideString (fromWideString mail.message) := by
  obtain ⟨hmessageId, hmailbox⟩ := stored_mailbox h
  have hfind : (t.db.mailbox mail.header.avatarId.toNat).find? (·.id = messageId.toNat) =
      some (s.newMail mail) := by
    have hnext : messageId.toNat = s.db.nextMessageId := by
      rw [hmessageId, UInt32.toNat_ofNat']
      omega
    have hold : (s.db.mailbox mail.header.avatarId.toNat).find? (·.id = messageId.toNat) = none := by
      apply List.find?_eq_none.mpr
      intro row hrow
      have hbelow := hkeys.2 row (mem_mailbox.mp hrow).1
      rw [hnext, decide_eq_true_eq]
      omega
    rw [hmailbox, List.find?_append, hold, List.find?_singleton, hnext]
    exact if_pos (decide_eq_true rfl)
  obtain ⟨fetched, hmessage, htexts, hbody⟩ := message_newMail (s := s) mail.header.avatarId messageId hnew htime
  refine ⟨fetched, ?_, htexts, hbody⟩
  have hanswer := mailService_isolated.answer t (.getPersistentMessage mail.header.avatarId messageId)
  exact hanswer.trans (fetch_ok (hworks _) (hworks _) hfind hmessage)

theorem storable_texts (mail : PersistentMessage) :
    mail.Storable ↔ SameTexts (headerOf (s.newMail mail)) mail.header ∧
      toWideString (fromWideString mail.message) = mail.message := by
  constructor
  · rintro ⟨hname, haddress, hsubject, hfolder, hcategory, hmessage⟩
    exact ⟨⟨hname, haddress, hsubject, hfolder, hcategory⟩, hmessage⟩
  · rintro ⟨⟨hname, haddress, hsubject, hfolder, hcategory⟩, hmessage⟩
    exact ⟨hname, haddress, hsubject, hfolder, hcategory, hmessage⟩

/-- The id of a new mail is not the one of another listed mail. -/
theorem eq_newMail (hkeys : s.db.MailKeys)
    (h : (MailCall.storeMessage mail).run s = (.ok (.stored messageId), t))
    (hnew : mail.header.status = PersistentState.new.code) {row : MessageRow}
    (hrow : row ∈ t.listed mail.header.avatarId) (hsmall : row.Small) (hmail : (s.newMail mail).Small)
    (hid : (headerOf row).messageId = messageId) : row = s.newMail mail := by
  rw [stored_listed h hnew] at hrow
  rcases List.mem_append.mp hrow with hold | hmem
  · have hbelow := hkeys.2 row (mem_mailbox.mp (List.mem_of_mem_filter hold)).1
    have hids := congrArg UInt32.toNat (hid.trans (stored_mailbox h).1)
    change (UInt32.ofNat row.id).toNat = (UInt32.ofNat s.db.nextMessageId).toNat at hids
    have hrange : row.id < 2 ^ 31 := hsmall.1
    have hrange' : s.db.nextMessageId < 2 ^ 31 := hmail.1
    rw [UInt32.toNat_ofNat', UInt32.toNat_ofNat'] at hids
    omega
  · exact List.mem_singleton.mp hmem

/-- A new mail comes back as it was sent exactly if its texts are storable and the integers of the
listed mails are in the range of `ColumnInt`. -/
theorem comesBack_iff (hkeys : s.db.MailKeys) (hworks : ∀ k, t.fails k = false)
    (h : (MailCall.storeMessage mail).run s = (.ok (.stored messageId), t))
    (hnew : mail.header.status = PersistentState.new.code) :
    ComesBack t messageId mail ↔
      mail.Storable ∧ (s.newMail mail).Small ∧ ∀ row ∈ s.listed mail.header.avatarId, row.Small := by
  have hlisted := stored_listed h hnew
  have hmem : s.newMail mail ∈ t.listed mail.header.avatarId := by
    rw [hlisted]
    exact List.mem_append_right _ (List.mem_singleton_self _)
  have hid : (headerOf (s.newMail mail)).messageId = messageId := (stored_mailbox h).1.symm
  constructor
  · rintro ⟨⟨headers, hheaders, -, htexts⟩, fetched, hfetched, -, hbody⟩
    have hread : (t.listed mail.header.avatarId).mapM Mailbox.header = .ok headers := by
      rw [headers_answer hworks] at hheaders
      cases hrows : (t.listed mail.header.avatarId).mapM Mailbox.header with
      | error e => simp [hrows] at hheaders
      | ok headers' =>
        rw [hrows] at hheaders
        rw [MailAnswer.headers.inj (Except.ok.inj hheaders)]
    obtain ⟨hsmall, rfl⟩ := (headers_iff _ _).mp hread
    have hrow := hsmall _ hmem
    have hback := fetch_answer hkeys hworks h (Nat.lt_trans hrow.1 (by decide)) hnew hrow.2.2.1
    obtain ⟨fetched', hfetched', -, hbody'⟩ := hback
    have hsame := MailAnswer.message.inj (Except.ok.inj (hfetched'.symm.trans hfetched))
    have hown := htexts _ (List.mem_map_of_mem hmem) hid
    refine ⟨(storable_texts (s := s) mail).mpr ⟨hown, ?_⟩, hrow, ?_⟩
    · rw [← hbody', hsame, hbody]
    · intro row hold
      exact hsmall row (hlisted ▸ List.mem_append_left _ hold)
  · rintro ⟨hstorable, hrow, hold⟩
    obtain ⟨htexts, hbody⟩ := (storable_texts (s := s) mail).mp hstorable
    have hsmall : ∀ row ∈ t.listed mail.header.avatarId, row.Small := by
      rw [hlisted]
      intro row hmem
      rcases List.mem_append.mp hmem with hrow' | hrow'
      · exact hold row hrow'
      · rw [List.mem_singleton.mp hrow']
        exact hrow
    constructor
    · refine ⟨(t.listed mail.header.avatarId).map headerOf, ?_, ?_, ?_⟩
      · rw [headers_answer hworks, (headers_iff _ _).mpr ⟨hsmall, rfl⟩]
        rfl
      · exact ⟨_, List.mem_map_of_mem hmem, hid⟩
      · intro header hheader hsame
        obtain ⟨row, hrow', rfl⟩ := List.mem_map.mp hheader
        rw [eq_newMail hkeys h hnew hrow' (hsmall row hrow') hrow hsame]
        exact htexts
    · obtain ⟨fetched, hfetched, htexts', hbody'⟩ :=
        fetch_answer hkeys hworks h (Nat.lt_trans hrow.1 (by decide)) hnew hrow.2.2.1
      exact ⟨fetched, hfetched, htexts'.trans htexts, hbody'.trans hbody⟩

end Stored

/-- A mail of a SENDPERSISTENTMESSAGE comes back with the texts it was stored with exactly if each of
their units is the sign-extension of its low byte, and the integers `ColumnInt` reads on the way are
in its range. -/
theorem mail_texts_survive_iff {s t : Server} {messageId : UInt32}
    (request : ReqSendPersistentMessage) (fromName fromAddress : U16String)
    (avatarId sentTime : UInt32) (hkeys : s.db.MailKeys) (hworks : ∀ k, t.fails k = false)
    (hstore : (MailCall.storeMessage (producedMail request fromName fromAddress avatarId sentTime)).run s =
      (.ok (.stored messageId), t)) :
    ComesBack t messageId (producedMail request fromName fromAddress avatarId sentTime) ↔
      (∀ text ∈ [fromName, fromAddress, request.subject, request.category, request.msg],
        ∀ u ∈ text, widenUnit (narrowUnit u) = u) ∧
      s.db.nextMessageId < 2 ^ 31 ∧ avatarId.toNat < 2 ^ 31 ∧ sentTime.toNat < 2 ^ 31 ∧
      ∀ row ∈ s.listed avatarId, row.Small := by
  rw [comesBack_iff hkeys hworks hstore rfl]
  simp only [List.forall_mem_cons, ← narrowable_iff_units]
  constructor
  · rintro ⟨⟨hname, haddress, hsubject, -, hcategory, hmsg⟩, ⟨hid, havatar, htime, -⟩, hold⟩
    exact ⟨⟨hname, haddress, hsubject, hcategory, hmsg, by simp⟩, hid, havatar, htime, hold⟩
  · rintro ⟨⟨hname, haddress, hsubject, hcategory, hmsg, -⟩, hid, havatar, htime, hold⟩
    have hstatus : PersistentState.new.code.toNat < 2 ^ 31 := by decide
    exact ⟨⟨hname, haddress, hsubject, rfl, hcategory, hmsg⟩, ⟨hid, havatar, htime, hstatus⟩, hold⟩

/-- Avatar 2 writes to avatar 1 about `subject`. -/
def mailAbout (subject : U16String) : ReqSendPersistentMessage where
  track := 1
  sender := .inl 2
  destName := [0x61]
  destAddress := [0x62]
  subject := subject
  msg := [0x68]
  oob := [0x1F4]
  category := []
  enforceInboxLimit := false
  categoryLimit := 0

/-- A plain subject is kept. -/
theorem mail_texts_survive_plain :
    ∃ t messageId, ComesBack t messageId (producedMail (mailAbout [0x68, 0x69]) [0x63] [0x62] 1 7) := by
  have hkeys : Server.oneMail.db.MailKeys := ⟨by decide, by decide⟩
  have htexts : ∀ text ∈ [[0x63], [0x62], [0x68, 0x69], [], [0x68]], ∀ u ∈ text,
      widenUnit (narrowUnit u) = u := by
    simp only [List.forall_mem_cons, List.not_mem_nil, false_implies, implies_true, and_true]
    decide
  exact ⟨_, 2, (mail_texts_survive_iff (mailAbout [0x68, 0x69]) [0x63] [0x62] 1 7 hkeys
    (fun _ => rfl) rfl).mpr ⟨htexts, by decide +kernel⟩⟩

/-- A subject with a letter beyond ASCII comes back changed. -/
theorem accented_subject_changes : ∃ t messageId,
    (MailCall.storeMessage (producedMail (mailAbout [0xE9]) [0x63] [0x62] 1 7)).run Server.oneMail =
      (.ok (.stored messageId), t) ∧
    ¬ ComesBack t messageId (producedMail (mailAbout [0xE9]) [0x63] [0x62] 1 7) := by
  have hkeys : Server.oneMail.db.MailKeys := ⟨by decide, by decide⟩
  refine ⟨_, 2, rfl, fun hback => ?_⟩
  have hstorable := ((comesBack_iff hkeys (fun _ => rfl) rfl rfl).mp hback).1
  exact absurd hstorable.2.2.1 (by decide)

end StationChat
