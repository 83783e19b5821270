import StationChat.Gateway.Aside
import StationChat.Gateway.Handling
import StationChat.Mail.Texts
import StationChat.Protocol.Gateway

/-! The states of mails: what a bulk update sets, and what the header list and the fetch of a mail agree on. -/
namespace StationChat
open Lib Lib.Action

section Bulk

namespace ReqUpdatePersistentMessages

/-- The request is about the mails of its avatar in its category. -/
def Covers (request : ReqUpdatePersistentMessages) (row : MessageRow) : Prop :=
  row.avatarId = request.srcAvatarId.toNat ∧ row.category = fromWideString request.category

instance (request : ReqUpdatePersistentMessages) (row : MessageRow) : Decidable (request.Covers row) :=
  inferInstanceAs (Decidable (_ ∧ _))

/-- What it asks for: those of them that have the current status get the new one. -/
def asked (request : ReqUpdatePersistentMessages) (row : MessageRow) : MessageRow :=
  if request.Covers row ∧ row.status = request.currentStatus.toNat then
    { row with status := request.newStatus.toNat }
  else row

/-- None of them has a third status. -/
def Separates (request : ReqUpdatePersistentMessages) (rows : List MessageRow) : Prop :=
  ∀ row ∈ rows, request.Covers row →
    row.status = request.currentStatus.toNat ∨ row.status = request.newStatus.toNat

instance (request : ReqUpdatePersistentMessages) (rows : List MessageRow) : Decidable (request.Separates rows) :=
  inferInstanceAs (Decidable (∀ row ∈ rows, _ → _))

end ReqUpdatePersistentMessages

variable {s : Server} {request : ReqUpdatePersistentMessages}

/-- The current status of the request is not looked at. -/
theorem updatePersistentMessages_run (client : ClientId) (hf : s.fails s.executed = false) :
    ∃ t, (Request.updatePersistentMessages request).handle client s = (.ok (), t) ∧
      t.sent = s.sent ++ [(client, .response .updatePersistentMessages request.track .success .empty)] ∧
      t.db = s.db.updateMessages (fun row => request.Covers row) request.newStatus.toNat := by
  have hrun : execute (.bulkUpdateStatus request.newStatus request.srcAvatarId (fromWideString request.category))
      (s.receiving (.updatePersistentMessages request)) = _ := execute_ok hf rfl
  have hcaught : caught ((Request.updatePersistentMessages request).handler client)
    (s.receiving (.updatePersistentMessages request)) = _ := caught_of_ok hrun
  exact ⟨_, handle_of_caught hcaught rfl, rfl, rfl⟩

theorem updateMessages_asked_iff (rows : List MessageRow) :
    (rows.map fun row => if request.Covers row then { row with status := request.newStatus.toNat } else row) =
      rows.map request.asked ↔ request.Separates rows := by
  rw [List.map_inj_left]
  apply forall₂_congr
  intro row _
  unfold ReqUpdatePersistentMessages.asked
  by_cases hcovers : request.Covers row
  · by_cases hcurrent : row.status = request.currentStatus.toNat
    · simp [hcovers, hcurrent]
    · simp only [hcovers, hcurrent, if_true, and_false, if_false, true_imp_iff, false_or]
      constructor
      · exact fun heq => (congrArg (fun row : MessageRow => row.status) heq).symm
      · intro hnew
        rw [← hnew]
  · simp [hcovers]

/-- UPDATEPERSISTENTMESSAGES leaves what was asked for exactly if no mail it is about has a third status. -/
theorem bulk_update_as_asked_iff (s : Server) (client : ClientId) (request : ReqUpdatePersistentMessages)
    (hf : s.fails s.executed = false) :
    ∃ t, (Request.updatePersistentMessages request).handle client s = (.ok (), t) ∧
      t.sent = s.sent ++ [(client, .response .updatePersistentMessages request.track .success .empty)] ∧
      (t.db = { s.db with persistentMessage := s.db.persistentMessage.map request.asked } ↔
        request.Separates s.db.persistentMessage) := by
  obtain ⟨t, hhandle, hsent, hdb⟩ := updatePersistentMessages_run client hf
  refine ⟨t, hhandle, hsent, ?_⟩
  rw [← updateMessages_asked_iff, hdb]
  constructor
  · intro heq
    have hrows := congrArg Database.persistentMessage heq
    simpa [Database.updateMessages] using hrows
  · intro heq
    simp [Database.updateMessages, heq]

/-- A mail of avatar 1 that is NEW and one in another state. -/
def Server.twoMails (status : Nat) : Server :=
  Server.start
    { Database.empty with
      avatar := [⟨1, 0, [0x61], [0x62], 0⟩]
      persistentMessage := [⟨⟨1, [0x63], [0x62], [], 0, 1, [], [0x6D], [0x68], []⟩, 1⟩,
        ⟨⟨1, [0x63], [0x62], [], 0, status, [], [0x6D], [0x69], []⟩, 2⟩]
      nextMessageId := 3 }
    (fun _ => false) 2 {}

/-- NEW mails shall be READ; the other mail is READ already. -/
theorem bulk_update_as_asked_read :
    ∃ t, (Request.updatePersistentMessages ⟨7, 1, 1, 3, [0x6D]⟩).handle 0 (.twoMails 3) = (.ok (), t) ∧
      t.db.persistentMessage.map (·.status) = [3, 3] := by
  obtain ⟨t, hhandle, -, hasked⟩ := bulk_update_as_asked_iff (.twoMails 3) 0 ⟨7, 1, 1, 3, [0x6D]⟩ rfl
  refine ⟨t, hhandle, ?_⟩
  rw [hasked.mpr (by decide)]
  decide

/-- The other mail is trash, and is READ afterwards as well. -/
theorem trash_becomes_read :
    ∃ t, (Request.updatePersistentMessages ⟨7, 1, 1, 3, [0x6D]⟩).handle 0 (.twoMails 4) = (.ok (), t) ∧
      t.db.persistentMessage.map (·.status) = [3, 3] ∧
      t.db ≠ { (Server.twoMails 4).db with persistentMessage :=
        (Server.twoMails 4).db.persistentMessage.map (ReqUpdatePersistentMessages.asked ⟨7, 1, 1, 3, [0x6D]⟩) } := by
  obtain ⟨t, hhandle, hstatus⟩ : ∃ t,
      (Request.updatePersistentMessages ⟨7, 1, 1, 3, [0x6D]⟩).handle 0 (.twoMails 4) = (.ok (), t) ∧
      t.db.persistentMessage.map (·.status) = [3, 3] := ⟨_, rfl, by decide⟩
  refine ⟨t, hhandle, hstatus, fun heq => ?_⟩
  rw [heq] at hstatus
  exact absurd hstatus (by decide)

end Bulk

section Agreement
variable {s t : Server} {avatarId : UInt32} {row : MessageRow}

/-- The blob of the row was made from units. -/
def Packed (row : MessageRow) : Prop := ∃ oob, row.oob = oobBytes oob

/-- What the mail service keeps besides the keys of its table: blobs can be read back, and statements work. -/
structure Delivered (s : Server) : Prop where
  keys : s.db.MailKeys
  packed : ∀ row ∈ s.db.persistentMessage, Packed row
  works : ∀ k, s.fails k = false

theorem packed_setStatus {which : MessageRow → Bool} {status : UInt32} {rows : List MessageRow}
    (h : ∀ row ∈ rows, Packed row) : ∀ row ∈ Mailbox.setStatus which status rows, Packed row := by
  intro row hrow
  obtain ⟨old, hold, rfl⟩ := List.mem_map.mp hrow
  obtain ⟨oob, hoob⟩ := h old hold
  refine ⟨oob, ?_⟩
  rw [← hoob]
  split <;> rfl

theorem packed_fetch {rows : List MessageRow} (h : ∀ row ∈ rows, Packed row) (input : MailInput)
    (avatarId messageId : UInt32) : ∀ row ∈ (Mailbox.fetch input rows avatarId messageId).2, Packed row := by
  unfold Mailbox.fetch
  split
  · exact h
  · cases rows.find? (·.id = messageId.toNat) with
    | none => exact h
    | some row =>
      dsimp only
      cases Mailbox.message avatarId messageId row with
      | error e => exact h
      | ok mail =>
        dsimp only
        split
        · split
          · exact h
          · exact packed_setStatus h
        · exact h

/-- A call on one mailbox. -/
theorem packed_call {rows : List MessageRow} (h : ∀ row ∈ rows, Packed row) (c : MailCall) (input : MailInput) :
    ∀ row ∈ (Mailbox.call rows c input).2, Packed row := by
  cases c with
  | storeMessage mail =>
    simp only [Mailbox.call]
    split
    · exact h
    · intro row hrow
      rcases List.mem_append.mp hrow with hrow | hrow
      · exact h row hrow
      · rw [List.mem_singleton.mp hrow]
        exact ⟨mail.oob, rfl⟩
  | getMessageHeaders avatarId =>
    simp only [Mailbox.call]
    split <;> exact h
  | getPersistentMessage avatarId messageId => exact packed_fetch h input avatarId messageId
  | updateMessageStatus avatarId messageId status =>
    simp only [Mailbox.call]
    split
    · exact h
    · exact packed_setStatus h
  | bulkUpdateMessageStatus avatarId category newStatus =>
    simp only [Mailbox.call]
    split
    · exact h
    · exact packed_setStatus h

theorem aside_mailCall (c : MailCall) : aside.Holds c.run s fun _ _ => True := by
  cases c with
  | storeMessage message =>
    exact (aside_storeMessage message).bind fun _ _ _ _ _ => Contract.holds_pure trivial trivial
  | getMessageHeaders avatarId =>
    exact (aside_getMessageHeaders avatarId).bind fun _ _ _ _ _ => Contract.holds_pure trivial trivial
  | getPersistentMessage avatarId messageId =>
    exact (aside_getPersistentMessage avatarId messageId).bind fun _ _ _ _ _ => Contract.holds_pure trivial trivial
  | updateMessageStatus avatarId messageId status =>
    exact (aside_execute (elsewhere_updateStatus _ _ _)).bind fun _ _ _ _ _ => Contract.holds_pure trivial trivial
  | bulkUpdateMessageStatus avatarId category newStatus =>
    exact (aside_execute (elsewhere_bulkUpdateStatus _ _ _)).bind fun _ _ _ _ _ => Contract.holds_pure trivial trivial

theorem delivered_call (h : Delivered s) (c : MailCall) : Delivered (c.run s).2 := by
  refine ⟨(run_keeps h.keys c).1, fun row hrow => ?_, fun k => ?_⟩
  · have hmailbox : row ∈ (c.run s).2.db.mailbox row.avatarId := mem_mailbox.mpr ⟨hrow, rfl⟩
    have hold : ∀ n, ∀ row ∈ s.db.mailbox n, Packed row := fun n row hrow => h.packed row (mem_mailbox.mp hrow).1
    by_cases howner : row.avatarId = c.avatarId.toNat
    · have hpart : (c.run s).2.db.mailbox c.avatarId.toNat =
        (Mailbox.call (s.db.mailbox c.avatarId.toNat) c (c.input s)).2 := mailService_isolated.part s c
      rw [howner, hpart] at hmailbox
      exact packed_call (hold _) c _ row hmailbox
    · have hframe : (c.run s).2.db.mailbox row.avatarId = s.db.mailbox row.avatarId :=
        mailService_isolated.frame s c _ howner
      rw [hframe] at hmailbox
      exact hold _ row hmailbox
  · have hends : c.run.Ends s (fun _ t => Aside s t) fun _ t => Aside s t :=
      Ends.mono (aside_mailCall c) (fun _ _ h => h.2.1) fun _ _ h => h.2.1
    have haside := hends.run (P := fun _ (t : Server) => Aside s t)
    rw [haside.fails]
    exact h.works k

theorem delivered_run (hempty : s.db.persistentMessage = []) (hworks : ∀ k, s.fails k = false)
    (calls : List MailCall) : Delivered (mailService.run s calls) := by
  apply Service.run_invariant (P := Delivered) fun _ c h => delivered_call h c
  exact ⟨⟨by simp [hempty], by simp [hempty]⟩, by simp [hempty], hworks⟩

/-- The two decoders of a row agree on the header. -/
theorem message_small (hsmall : row.Small) (hpacked : Packed row) (havatar : row.avatarId = avatarId.toNat) :
    ∃ mail, Mailbox.message avatarId (headerOf row).messageId row = .ok mail ∧ mail.header = headerOf row := by
  obtain ⟨oob, hoob⟩ := hpacked
  have hheader : (headerOf row).avatarId = avatarId := by
    change UInt32.ofNat row.avatarId = avatarId
    rw [havatar, UInt32.ofNat_toNat]
  refine ⟨⟨headerOf row, toWideString row.message, oob⟩, ?_, rfl⟩
  unfold Mailbox.message
  rw [columnInt_small hsmall.2.2.1, columnInt_small hsmall.2.2.2, hoob, oobUnits_oobBytes, ← hheader]
  rfl

theorem listed_headers (h : Delivered s) (hsmall : ∀ row ∈ s.listed avatarId, row.Small) :
    ((MailCall.getMessageHeaders avatarId).run s).1 = .ok (.headers ((s.listed avatarId).map headerOf)) := by
  rw [headers_answer h.works, (headers_iff _ _).mpr ⟨hsmall, rfl⟩]
  rfl

theorem mem_listed : row ∈ s.listed avatarId ↔
    row ∈ s.db.persistentMessage ∧ row.avatarId = avatarId.toNat ∧ row.status ∈ [1, 2, 3] := by
  rw [Server.listed, List.mem_filter, mem_mailbox, and_assoc, decide_eq_true_iff]

theorem headerOf_id_iff {row' : MessageRow} (hsmall : row.Small) (hsmall' : row'.Small) :
    (headerOf row').messageId = (headerOf row).messageId ↔ row'.id = row.id := by
  have hid : row.id < 2 ^ 31 := hsmall.1
  have hid' : row'.id < 2 ^ 31 := hsmall'.1
  change UInt32.ofNat row'.id = UInt32.ofNat row.id ↔ _
  rw [← UInt32.toNat_inj, UInt32.toNat_ofNat', UInt32.toNat_ofNat', Nat.mod_eq_of_lt (by omega),
    Nat.mod_eq_of_lt (by omega)]

/-- A header after the mail with the id was fetched. -/
def PersistentHeader.fetched (h : PersistentHeader) (messageId : UInt32) : PersistentHeader :=
  if h.messageId = messageId ∧ h.status = PersistentState.new.code then
    { h with status := PersistentState.read.code }
  else h

/-- A row after the mail with the id was fetched. -/
def MessageRow.fetched (row : MessageRow) (id : Nat) : MessageRow :=
  if row.id = id ∧ row.status = PersistentState.new.code.toNat then
    { row with status := PersistentState.read.code.toNat }
  else row

theorem fetched_facts (row : MessageRow) (id : Nat) :
    (row.fetched id).id = row.id ∧ (row.fetched id).avatarId = row.avatarId ∧
      ((row.fetched id).status ∈ [1, 2, 3] ↔ row.status ∈ [1, 2, 3]) ∧ (row.Small → (row.fetched id).Small) := by
  unfold MessageRow.fetched
  split
  · rename_i hnew
    have hread : PersistentState.read.code.toNat < 2 ^ 31 := by decide
    refine ⟨rfl, rfl, ?_, fun h => ⟨h.1, h.2.1, h.2.2.1, hread⟩⟩
    rw [hnew.2]
    simp [PersistentState.code]
  · exact ⟨rfl, rfl, Iff.rfl, fun h => h⟩

theorem headerOf_fetched {row' : MessageRow} (hsmall : row.Small) (hsmall' : row'.Small) :
    headerOf (row'.fetched row.id) = (headerOf row').fetched (headerOf row).messageId := by
  have hstatus : UInt32.ofNat row'.status = PersistentState.new.code ↔
      row'.status = PersistentState.new.code.toNat := by
    have hlt : row'.status < 2 ^ 31 := hsmall'.2.2.2
    rw [← UInt32.toNat_inj, UInt32.toNat_ofNat', Nat.mod_eq_of_lt (by omega)]
  have hiff : (headerOf row').messageId = (headerOf row).messageId ∧ (headerOf row').status =
      PersistentState.new.code ↔ row'.id = row.id ∧ row'.status = PersistentState.new.code.toNat :=
    and_congr (headerOf_id_iff hsmall hsmall') hstatus
  unfold MessageRow.fetched PersistentHeader.fetched
  by_cases hnew : row'.id = row.id ∧ row'.status = PersistentState.new.code.toNat
  · rw [if_pos hnew, if_pos (hiff.mpr hnew)]
    rfl
  · rw [if_neg hnew, if_neg fun h => hnew (hiff.mp h)]

/-- The mail of a row is found by its id, and comes with the header that is listed. -/
theorem fetch_listed (h : Delivered s) (hrow : row ∈ s.db.mailbox avatarId.toNat) (hsmall : row.Small) :
    ∃ mail u, (MailCall.getPersistentMessage avatarId (headerOf row).messageId).run s = (.ok (.message mail), u) ∧
      mail.header = headerOf row ∧
      u.db.mailbox avatarId.toNat = (s.db.mailbox avatarId.toNat).map (·.fetched row.id) := by
  obtain ⟨hmem, havatar⟩ := mem_mailbox.mp hrow
  have hid : (headerOf row).messageId.toNat = row.id := by
    have hlt : row.id < 2 ^ 31 := hsmall.1
    change (UInt32.ofNat row.id).toNat = row.id
    rw [UInt32.toNat_ofNat', Nat.mod_eq_of_lt (by omega)]
  have hunique : ∀ row' ∈ s.db.mailbox avatarId.toNat, row'.id = row.id → row' = row := fun row' hrow' heq =>
    List.inj_on_of_nodup_map h.keys.1 (mem_mailbox.mp hrow').1 hmem heq
  obtain ⟨mail, hmessage, hheader⟩ := message_small hsmall (h.packed row hmem) havatar
  have hfind : (s.db.mailbox avatarId.toNat).find? (·.id = row.id) = some row := by
    cases hfound : (s.db.mailbox avatarId.toNat).find? (·.id = row.id) with
    | none => exact absurd (List.find?_eq_none.mp hfound row hrow) (by simp)
    | some row' =>
      have hsame : row'.id = row.id := by simpa using List.find?_some hfound
      rw [hunique row' (List.mem_of_find?_eq_some hfound) hsame]
  have hstatus : (mail.header.status == PersistentState.new.code) = decide (row.status = PersistentState.new.code.toNat) := by
    have hlt : row.status < 2 ^ 31 := hsmall.2.2.2
    rw [hheader]
    change (UInt32.ofNat row.status == _) = _
    rw [Bool.eq_iff_iff, beq_iff_eq, decide_eq_true_iff, ← UInt32.toNat_inj, UInt32.toNat_ofNat',
      Nat.mod_eq_of_lt (by omega)]
  let c : MailCall := .getPersistentMessage avatarId (headerOf row).messageId
  have hcall : Mailbox.call (s.db.mailbox avatarId.toNat) c (c.input s) =
      (.ok (.message mail), (s.db.mailbox avatarId.toNat).map (·.fetched row.id)) := by
    have hfirst : (c.input s).failsFirst = false := h.works _
    have hsecond : (c.input s).failsSecond = false := h.works _
    change Mailbox.fetch (c.input s) _ avatarId (headerOf row).messageId = _
    rw [Mailbox.fetch, hfirst, hsecond, hid, hfind]
    simp only [hmessage, hstatus, Bool.false_eq_true, if_false, decide_eq_true_eq]
    by_cases hnew : row.status = PersistentState.new.code.toNat
    · rw [if_pos hnew, Mailbox.setStatus]
      congr 1
      apply List.map_congr_left
      intro row' hrow'
      unfold MessageRow.fetched
      by_cases heq : row'.id = row.id
      · rw [hunique row' hrow' heq]
        simp [hnew]
      · simp [heq]
    · rw [if_neg hnew]
      congr 1
      symm
      rw [List.map_congr_left (g := id), List.map_id]
      intro row' hrow'
      apply if_neg
      rintro ⟨heq, hnew'⟩
      exact hnew (hunique row' hrow' heq ▸ hnew')
  have hanswer : (c.run s).1 = (Mailbox.call (s.db.mailbox avatarId.toNat) c (c.input s)).1 :=
    mailService_isolated.answer s c
  have hpart : (c.run s).2.db.mailbox avatarId.toNat = (Mailbox.call (s.db.mailbox avatarId.toNat) c (c.input s)).2 :=
    mailService_isolated.part s c
  rw [hcall] at hanswer hpart
  exact ⟨mail, (c.run s).2, Prod.ext hanswer rfl, hheader, hpart⟩

/-- In every state that the calls of the mail service reach: the headers of an avatar are those of its mails that
are NEW, UNREAD or READ, each once; each of them can be fetched and has the header that was listed; and listing
again differs in that a NEW mail that was fetched is READ. -/
theorem headers_agree_with_fetch (hempty : s.db.persistentMessage = []) (hworks : ∀ k, s.fails k = false)
    (calls : List MailCall) (ht : mailService.run s calls = t) (avatarId : UInt32)
    (hsmall : ∀ row ∈ t.db.mailbox avatarId.toNat, row.Small) :
    ∃ headers, ((MailCall.getMessageHeaders avatarId).run t).1 = .ok (.headers headers) ∧
      headers = (t.db.persistentMessage.filter fun row =>
        row.avatarId = avatarId.toNat ∧ row.status ∈ [1, 2, 3]).map headerOf ∧
      (headers.map (·.messageId)).Nodup ∧
      ∀ h ∈ headers, ∃ mail u,
        (MailCall.getPersistentMessage avatarId h.messageId).run t = (.ok (.message mail), u) ∧ mail.header = h ∧
        ((MailCall.getMessageHeaders avatarId).run u).1 = .ok (.headers (headers.map (·.fetched h.messageId))) := by
  have hdelivered : Delivered t := ht ▸ delivered_run hempty hworks calls
  have hlisted : ∀ row ∈ t.listed avatarId, row ∈ t.db.mailbox avatarId.toNat := fun row => List.mem_of_mem_filter
  have hheaders := listed_headers hdelivered fun row hrow => hsmall row (hlisted row hrow)
  have hfilter : t.listed avatarId = t.db.persistentMessage.filter fun row =>
      row.avatarId = avatarId.toNat ∧ row.status ∈ [1, 2, 3] := by
    rw [Server.listed, Database.mailbox, List.filter_filter]
    apply List.filter_congr
    intro row _
    rw [Bool.decide_and, Bool.and_comm]
  refine ⟨_, hheaders, by rw [hfilter], ?_, ?_⟩
  · rw [List.map_map]
    apply List.Nodup.map_on
    · intro row hrow row' hrow' heq
      have hids := (headerOf_id_iff (hsmall row' (hlisted row' hrow')) (hsmall row (hlisted row hrow))).mp heq
      exact List.inj_on_of_nodup_map hdelivered.keys.1 (mem_listed.mp hrow).1 (mem_listed.mp hrow').1 hids
    · exact ((hdelivered.keys.1.of_map _).filter _).filter _
  · intro h hh
    obtain ⟨row, hrow, rfl⟩ := List.mem_map.mp hh
    obtain ⟨mail, u, hrun, hheader, hmailbox⟩ := fetch_listed hdelivered (hlisted row hrow) (hsmall row (hlisted row hrow))
    refine ⟨mail, u, hrun, hheader, ?_⟩
    have hu : Delivered u := by
      have hcall := delivered_call hdelivered (.getPersistentMessage avatarId (headerOf row).messageId)
      rwa [hrun] at hcall
    have hagain : u.listed avatarId = (t.listed avatarId).map (·.fetched row.id) := by
      rw [Server.listed, hmailbox, List.filter_map, Server.listed]
      congr 1
      apply List.filter_congr
      intro row' _
      simp only [Function.comp_apply, (fetched_facts row' row.id).2.2.1]
    rw [listed_headers hu, hagain, List.map_map, List.map_map]
    · congr 2
      apply List.map_congr_left
      intro row' hrow'
      exact headerOf_fetched (hsmall row (hlisted row hrow)) (hsmall row' (hlisted row' hrow'))
    · rw [hagain]
      intro row' hrow'
      obtain ⟨old, hold, rfl⟩ := List.mem_map.mp hrow'
      exact (fetched_facts old row.id).2.2.2 (hsmall old (hlisted old hold))

/-- An avatar without mails. -/
def Server.noMails : Server :=
  Server.start { Database.empty with avatar := [⟨1, 0, [0x61], [0x62], 0⟩] } (fun _ => false) 2 {}

/-- A mail is stored, listed as NEW, fetched with that header and listed as READ. -/
theorem headers_agree_with_fetch_one : ∃ mail u, mail.header.status = 1 ∧
    (MailCall.getPersistentMessage 1 1).run (mailService.run .noMails
      [.storeMessage (producedMail (mailAbout [0x68]) [0x63] [0x62] 1 7)]) = (.ok (.message mail), u) ∧
    ((MailCall.getMessageHeaders 1).run u).1 = .ok (.headers [{ mail.header with status := 3 }]) := by
  obtain ⟨headers, -, hlisted, -, hfetch⟩ := headers_agree_with_fetch (s := .noMails) rfl (fun _ => rfl)
    [.storeMessage (producedMail (mailAbout [0x68]) [0x63] [0x62] 1 7)] rfl 1 (by decide +kernel)
  obtain rfl : headers = [⟨1, 1, [0x63], [0x62], [0x68], 7, 1, [], []⟩] := hlisted.trans (by decide +kernel)
  obtain ⟨mail, u, hrun, hheader, hagain⟩ := hfetch _ List.mem_cons_self
  refine ⟨mail, u, by rw [hheader], hrun, ?_⟩
  rw [hagain, hheader]
  rfl

end Agreement
end StationChat
