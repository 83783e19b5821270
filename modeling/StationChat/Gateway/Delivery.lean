import StationChat.Gateway.AvatarRequest
import StationChat.Gateway.Dialogue
import StationChat.Rooms.Audience

/-! Instant messages arrive: each that is accepted goes once, unchanged and in order, to the game server of its
receiver. -/
namespace StationChat
open Lib Lib.Action Lib.Contract

variable {s t u : Server} {client : ClientId} {r : ReqSendInstantMessage}

/-- An INSTANTMESSAGE as a client gets it. -/
structure Delivery where
  client : ClientId
  srcAvatarId : UInt32
  destAvatarId : UInt32
  message : U16String
  oob : U16String

def Notification.delivery (client : ClientId) : Notification → Option Delivery
  | .instantMessage a destAvatarId message oob => some ⟨client, a.self.avatarId, destAvatarId, message, oob⟩
  | _ => none

namespace Server

def deliveries (s : Server) : List Delivery := s.notices.filterMap fun n => n.2.delivery n.1

/-- What a request makes arrive: one message at the client that is registered for the address of its receiver,
or none if there is no such client. -/
def Delivers (s : Server) (r : ReqSendInstantMessage) (block : List Delivery) : Prop :=
  ∃ dest, s.Finds (.byName r.destName r.destAddress) dest ∧
    block = (s.clientAddressMap dest.address).toList.map fun client =>
      ⟨client, r.srcAvatarId, dest.avatarId, r.message, r.oob⟩

end Server

/-- The answer to an instant message that was accepted. -/
def Outgoing.accepts : Outgoing → Bool
  | .response type _ result _ => type = .sendInstantMessage ∧ result = .success
  | .notify _ => false

/-- The instant message that a step of a run accepts. -/
def accepted : Server × Input × Server → Option (Server × ReqSendInstantMessage)
  | (s, .request _ (.sendInstantMessage r) _ _, t) =>
    if t.sent.getLast?.any (·.2.accepts) then some (s, r) else none
  | _ => none

section Sending

/-- The receiver is the first cached avatar of its name and address, or is loaded. -/
theorem requireDestAvatar_found (hs : Fit (fun _ => True) s) (destName destAddress : U16String) :
    (requireDestAvatar destName destAddress).Ends s
      (fun p t => Fit (fun _ => True) t ∧ Grown s t ∧ Live t.avatarCache p ∧ s.Finds (.byName destName destAddress) p)
      (fun e t => Grown s t ∧ e.resultCode ≠ some .success) := by
  rw [requireDestAvatar, ends_bind]
  have hloads := fit_loads.getAvatar destName destAddress hs fun t row obj ht _ hsame _ _ _ _ _ hobj hlt =>
    ht.cached rfl rfl (fun a ha => hobj a (hsame ▸ ha)) hlt fun hrange => absurd trivial hrange
  cases hcached : s.avatarCache.find? (AvatarRequest.byName destName destAddress).matchesObject with
  | some a =>
    have hrun : getAvatar destName destAddress s = (.ok (some a.self), s) := run_of_cached hcached
    unfold Ends
    rw [hrun]
    refine ⟨hs, Grown.refl s, ⟨a, List.mem_of_find?_eq_some hcached, rfl⟩, ?_⟩
    rw [Server.Finds, hcached]
  | none =>
    apply Ends.mono hloads
    · rintro found t ⟨ht, hgrown, hfound⟩
      cases found with
      | none => exact ⟨hgrown, by simp [Exn.resultCode]⟩
      | some p =>
        refine ⟨ht, hgrown, hfound.live, ?_⟩
        rw [Server.Finds, hcached]
        rcases hfound with ⟨⟨a, ha, rfl⟩, hname, haddress, _⟩ | ⟨_, row, hrow, hname, haddress, _, ⟨obj, rfl⟩, _⟩
        · exact absurd (by simp [AvatarRequest.matchesObject, hname, haddress]) (List.find?_eq_none.mp hcached a ha)
        · exact ⟨row, hrow, by simp [AvatarRequest.matchesRow, hname, haddress], obj, rfl⟩
    · rintro e t ⟨_, hgrown, rfl | ⟨rfl, _⟩⟩
      · exact ⟨hgrown, by simp [Exn.resultCode]⟩
      · exact ⟨hgrown, by simp [Exn.resultCode]⟩

theorem requireSrcAvatar_notSuccess (hs : Fit (fun _ => True) s) (srcAvatarId : UInt32) :
    (requireSrcAvatar srcAvatarId).Ends s
      (fun p t => Fit (fun _ => True) t ∧ Grown s t ∧ Live t.avatarCache p ∧ p.avatarId = srcAvatarId ∧
        s.Finds (.byId srcAvatarId) p)
      (fun e t => Grown s t ∧ e.resultCode ≠ some .success) := by
  rw [requireSrcAvatar, ends_bind]
  apply Ends.mono (fit_loads.getAvatarById srcAvatarId hs)
  · rintro found t ⟨ht, hgrown, hfound⟩
    cases found with
    | none => exact ⟨hgrown, by simp [Exn.resultCode]⟩
    | some p => exact ⟨ht, hgrown, hfound.live, hfound.1, hfound.finds⟩
  · rintro e t ⟨_, hgrown, rfl | ⟨rfl, _⟩⟩
    · exact ⟨hgrown, by simp [Exn.resultCode]⟩
    · exact ⟨hgrown, by simp [Exn.resultCode]⟩

/-- Once its two avatars are found, a message is refused or sent. -/
private theorem instantMessage_ends {src dest : AvatarPtr} (hs : Fit (fun _ => True) s)
    (hsrc : Live s.avatarCache src) (hdest : Live s.avatarCache dest) :
    (do if ← isIgnored dest (some src) then throw (.chatResult .ignoring [])
        else
          evaluatePolicyEvent (policyEvent .messageSend src r.destAddress (r.message.length + r.oob.length))
          sendInstantMessageUpdate src dest r.message r.oob : Serve Unit).Ends s
      (fun _ t => t.response = s.response ∧ ∃ a, a.self = src ∧
        t.sent = s.sent ++ s.posts [dest.address] (.instantMessage a dest.avatarId r.message r.oob))
      (fun e t => e.resultCode = none ∨ t.sent = s.sent ∧ e.resultCode ≠ some .success) := by
  obtain ⟨a, _, hself, hobject⟩ := avatar?_of_live hs.allocated hsrc
  obtain ⟨b, hb, _, hreceiver⟩ := avatar?_of_live hs.allocated hdest
  have hnull : NoNull IgnoreContact.ignored b.ignoreList := by
    intro contact hcontact
    obtain ⟨ignored, hignored, _⟩ := hs.pointers.ignored b hb contact hcontact
    rw [hignored]
    rfl
  unfold Ends
  rw [bind_ok (isIgnored_run hreceiver hnull)]
  cases b.ignores src.avatarId with
  | true => exact .inr ⟨rfl, by simp [Exn.resultCode]⟩
  | false =>
    let v := (evaluatePolicyEvent
      (policyEvent .messageSend src r.destAddress (r.message.length + r.oob.length)) s).2
    have hsilent : Silent s v := ⟨rfl, rfl, rfl⟩
    have hv : v.avatar? src = some a := hobject
    change (sendInstantMessageUpdate src dest r.message r.oob).Ends v _ _
    have hsends : Broadcasts v [dest.address] (.instantMessage a dest.avatarId r.message r.oob)
        (sendInstantMessageUpdate src dest r.message r.oob) := by
      refine broadcasts_sendTo fun sent => ?_
      have hobject' : ({ v with sent } : Server).avatar? src = some a := hobject
      rw [bind_ok (readAvatar_run hobject')]
      rfl
    refine (hsends s.sent).mono ?_ ?_
    · rintro _ t rfl
      exact ⟨rfl, a, hself, rfl⟩
    · rintro e t ⟨rfl, _⟩
      exact .inl rfl

/-- A message is sent or refused. -/
private theorem sendInstantMessage_ends (hs : Fit (fun _ => True) s) :
    (Handler.sendInstantMessage r).Ends s
      (fun _ t => t.response = s.response ∧ ∃ (a : ChatAvatar) (dest : AvatarPtr), a.self.avatarId = r.srcAvatarId ∧
        s.Finds (.byName r.destName r.destAddress) dest ∧
        t.sent = s.sent ++ s.posts [dest.address] (.instantMessage a dest.avatarId r.message r.oob))
      (fun e t => e.resultCode = none ∨ t.sent = s.sent ∧ e.resultCode ≠ some .success) := by
  rw [Handler.sendInstantMessage, ends_bind]
  refine (requireSrcAvatar_notSuccess hs r.srcAvatarId).mono ?_ ?_
  · rintro src u ⟨hu, hgrown, hsrc, hid, _⟩
    rw [ends_bind]
    refine (requireDestAvatar_found hu r.destName r.destAddress).mono ?_ ?_
    · rintro dest v ⟨hv, hgrown', hdest, hfinds⟩
      have hsilent := hgrown.silent.trans hgrown'.silent
      refine (instantMessage_ends hv (hgrown'.live hsrc) hdest).mono ?_ ?_
      · rintro _ t ⟨hresponse, a, rfl, hsent⟩
        refine ⟨?_, a, dest, hid, hfinds.of_grown hgrown, ?_⟩
        · rw [hresponse, hgrown'.rest, hgrown.rest]
        · rw [hsent, hsilent.sent, hsilent.posts]
      · rintro e t (hdead | ⟨hsent, hcode⟩)
        · exact .inl hdead
        · exact .inr ⟨hsent.trans hsilent.sent, hcode⟩
    · rintro e v ⟨hgrown', hcode⟩
      exact .inr ⟨by rw [hgrown'.silent.sent, hgrown.silent.sent], hcode⟩
  · rintro e u ⟨hgrown, hcode⟩
    exact .inr ⟨hgrown.silent.sent, hcode⟩

end Sending

section Runs
variable {input : Input} {inputs : List Input}

theorem deliveries_of_notices {block : List (ClientId × Notification)} (h : t.notices = s.notices ++ block) :
    t.deliveries = s.deliveries ++ block.filterMap fun n => n.2.delivery n.1 := by
  rw [Server.deliveries, h, List.filterMap_append]
  rfl

/-- Only one kind of request sends instant messages. -/
theorem deliveries_other (hinput : ∀ client r time clock, input ≠ .request client (.sendInstantMessage r) time clock)
    (h : s.step input = some t) : t.deliveries = s.deliveries := by
  obtain ⟨block, hblock, htells⟩ := notices_step h
  have hnone : block.filterMap (fun n => n.2.delivery n.1) = [] := by
    apply List.filterMap_eq_nil_iff.mpr
    intro n hn
    have htold := htells n hn
    cases input with
    | request client request time clock =>
      cases hkind : n.2 with
      | instantMessage a destAvatarId message oob =>
        rw [hkind] at htold
        cases htold with
        | instant r => exact absurd rfl (hinput client r time clock)
      | _ => rfl
    | _ => exact htold.elim
  rw [deliveries_of_notices hblock, hnone, List.append_nil]

private theorem deliveries_posts (s : Server) (address : U16String) (a : ChatAvatar) (destAvatarId : UInt32)
    (message oob : U16String) :
    ((s.posts [address] (.instantMessage a destAvatarId message oob)).filterMap notified).filterMap
      (fun n => n.2.delivery n.1) =
      (s.clientAddressMap address).toList.map fun client => ⟨client, a.self.avatarId, destAvatarId, message, oob⟩ := by
  cases hclient : s.clientAddressMap address with
  | none => simp [Server.posts, hclient]
  | some c => simp [Server.posts, hclient, Notification.delivery]

/-- A request for an instant message. -/
theorem deliveries_request (hs : Fit (fun _ => True) s) {time : UInt32} {clock : Nat}
    (h : s.step (.request client (.sendInstantMessage r) time clock) = some t) :
    ∃ block, t.deliveries = s.deliveries ++ block ∧
      if t.sent.getLast?.any (·.2.accepts) then s.Delivers r block else block = [] := by
  obtain ⟨_, _, hrun⟩ := Server.step_request h
  obtain ⟨u, body, hcaught, _, rfl⟩ := handle_eq_ok hrun
  let s' := (s.atTime time clock).receiving (.sendInstantMessage r)
  have hs' : Fit (fun _ => True) s' := hs
  have hends := sendInstantMessage_ends (r := r) hs'
  unfold Ends at hends
  rcases caught_eq_ok hcaught with hok | ⟨e, v, code, herr, hcode, rfl⟩
  · change Handler.sendInstantMessage r s' = _ at hok
    rw [hok] at hends
    obtain ⟨hresponse, a, dest, hid, hfinds, hsent⟩ := hends
    have hnew : u.sent ++ [(client, .response u.response.type u.response.track u.response.result body)] =
        s.sent ++ (s.posts [dest.address] (.instantMessage a dest.avatarId r.message r.oob) ++
          [(client, .response u.response.type u.response.track u.response.result body)]) := by
      rw [hsent, List.append_assoc]
      rfl
    have hnotices := notices_of_sent (t := { u with sent := _ }) hnew
    have hanswer : (Outgoing.response u.response.type u.response.track u.response.result body).accepts = true := by
      rw [hresponse]
      rfl
    refine ⟨_, deliveries_of_notices hnotices, ?_⟩
    rw [List.getLast?_concat, Option.any_some, hanswer, if_pos rfl, List.filterMap_append, List.filterMap_append,
      deliveries_posts]
    exact ⟨dest, hfinds, by rw [hid]; exact List.append_nil _⟩
  · change Handler.sendInstantMessage r s' = _ at herr
    rw [herr] at hends
    obtain ⟨hsent, hrefused⟩ := hends.resolve_left fun hnone => by
      rw [hcode] at hnone
      exact absurd hnone (by simp)
    have hnotices := notices_of_sent (s := s) (t := { v.withResult code with sent := v.sent ++
      [(client, .response v.response.type v.response.track code body)] })
      (congrArg (· ++ [(client, .response v.response.type v.response.track code body)]) hsent)
    have hanswer : (Outgoing.response v.response.type v.response.track code body).accepts = false := by
      apply decide_eq_false
      rintro ⟨-, rfl⟩
      exact hrefused hcode
    refine ⟨[], (deliveries_of_notices hnotices).trans (by simp), ?_⟩
    change if Option.any _ (List.getLast? (v.sent ++ [(client, Outgoing.response v.response.type v.response.track code
      body)])) then _ else _
    rw [List.getLast?_concat, Option.any_some, hanswer, if_neg Bool.false_ne_true]

/-- In every run the instant messages that arrive are those that were accepted, in that order: each once and
unchanged, at the client registered for the address of its receiver, if there is one. -/
theorem instant_messages_arrive {db : Database} {fails : Nat → Bool} {version : UInt32} {config : Policy.Config}
    (hdb : db.Referential) (hreach : Server.Reaches Server.AnyInput (Server.start db fails version config) s)
    (h : runInputs Server.step s inputs = some t) :
    ∃ blocks, t.deliveries = s.deliveries ++ blocks.flatten ∧
      List.Forall₂ (fun (x : Server × ReqSendInstantMessage) block => x.1.Delivers x.2 block)
        ((runSteps Server.step s inputs).filterMap accepted) blocks := by
  have hkeep : ∀ (s : Server) i t, Fit (fun _ => True) s → s.step i = some t → Fit (fun _ => True) t :=
    fun s i t hs hstep => fit_step hs (admitted_any s i) hstep
  let P : Server × Input × Server → List Delivery → Prop := fun x block =>
    match accepted x with
    | some y => y.1.Delivers y.2 block
    | none => block = []
  have hblock : ∀ (s : Server) i t, Fit (fun _ => True) s → s.step i = some t →
      ∃ block, t.deliveries = s.deliveries ++ block ∧ P (s, i, t) block := by
    intro s i t hs hstep
    by_cases hinstant : ∃ client r time clock, i = .request client (.sendInstantMessage r) time clock
    · obtain ⟨client, r, time, clock, rfl⟩ := hinstant
      obtain ⟨block, hblock, hcase⟩ := deliveries_request hs hstep
      refine ⟨block, hblock, ?_⟩
      simp only [P, accepted]
      by_cases haccepted : t.sent.getLast?.any (·.2.accepts) = true
      · rw [if_pos haccepted] at hcase ⊢
        exact hcase
      · rw [if_neg haccepted] at hcase ⊢
        exact hcase
    · have hother := deliveries_other (fun client r time clock hi => hinstant ⟨client, r, time, clock, hi⟩) hstep
      refine ⟨[], by rw [hother, List.append_nil], ?_⟩
      cases i with
      | request client request time clock =>
        cases request with
        | sendInstantMessage r => exact absurd ⟨client, r, time, clock, rfl⟩ hinstant
        | _ => rfl
      | _ => rfl
  obtain ⟨blocks, hblocks, hall⟩ := runSteps_blocks Server.deliveries P hkeep hblock (fit_reaches_any hdb hreach) h
  obtain ⟨kept, hflatten, hkept⟩ := forall₂_filterMap (f := accepted)
    (Q := fun (x : Server × ReqSendInstantMessage) block => x.1.Delivers x.2 block) hall
    (fun x block hx hnone => by simpa only [P, hnone] using hx) fun x block c hx hsome => by
      simpa only [P, hsome] using hx
  exact ⟨kept, by rw [hblocks, hflatten], hkept⟩

/-- One message is accepted, and arrives. -/
theorem instant_messages_arrive_one : ∃ t blocks, runInputs Server.step Server.blank chatRun = some t ∧
    t.deliveries.length = 1 ∧ t.deliveries = blocks.flatten ∧
      List.Forall₂ (fun (x : Server × ReqSendInstantMessage) block => x.1.Delivers x.2 block)
        ((runSteps Server.step Server.blank chatRun).filterMap accepted) blocks := by
  have hone : (runInputs Server.step Server.blank chatRun).any (fun t => decide (t.deliveries.length = 1)) = true := by
    decide +kernel
  obtain ⟨t, hrun, hlength⟩ := (Option.any_eq_true _ _).mp hone
  obtain ⟨blocks, hblocks, hall⟩ := instant_messages_arrive Database.referential_empty .refl hrun
  exact ⟨t, blocks, hrun, of_decide_eq_true hlength, hblocks, hall⟩

end Runs
end StationChat
