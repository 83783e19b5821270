import StationChat.Avatars.Upkeep

/-! An avatar that ignores another gets no message from it. -/
namespace StationChat
open Lib Lib.Action Lib.Contract

/-- The message is addressed to the avatar `y`. -/
def Outgoing.delivers (y : UInt32) : Outgoing → Bool
  | .notify (.instantMessage _ destAvatarId _ _) => destAvatarId == y
  | .notify (.roomMessage _ _ destList _ _ _) => destList.contains y
  | .notify (.persistentMessage destAvatarId _) => destAvatarId == y
  | _ => false

/-- Nothing was sent to `y`, and no mail stored. -/
structure Spared (y : UInt32) (s t : Server) : Prop where
  sent : ∃ new, t.sent = s.sent ++ new ∧ ∀ m ∈ new, m.2.delivers y = false
  stored : t.db.persistentMessage.filter (·.avatarId = y.toNat) =
    s.db.persistentMessage.filter (·.avatarId = y.toNat)

/-- A message request whose source avatar is `x`. -/
def Request.MessageFrom (x : UInt32) : Request → Prop
  | .sendInstantMessage r => r.srcAvatarId = x
  | .sendRoomMessage r => r.srcAvatarId = x
  | .sendPersistentMessage r => r.sender = .inl x
  | _ => False

variable {x y : UInt32} {s t u : Server} {p q : AvatarPtr}

namespace Spared

theorem refl (s : Server) : Spared y s s := ⟨⟨[], by simp, by simp⟩, rfl⟩

theorem trans (h : Spared y s t) (h' : Spared y t u) : Spared y s u := by
  obtain ⟨new, hnew, hall⟩ := h.sent
  obtain ⟨new', hnew', hall'⟩ := h'.sent
  refine ⟨⟨new ++ new', by rw [hnew', hnew, List.append_assoc], fun m hm => ?_⟩, h'.stored.trans h.stored⟩
  rcases List.mem_append.mp hm with hm | hm
  · exact hall m hm
  · exact hall' m hm

/-- Nothing was sent or stored at all. -/
theorem of_eq (hsent : t.sent = s.sent) (hstored : t.db.persistentMessage = s.db.persistentMessage) :
    Spared y s t :=
  ⟨⟨[], by rw [hsent, List.append_nil], by simp⟩, by rw [hstored]⟩

theorem of_send {client : ClientId} {message : Outgoing} (hmessage : message.delivers y = false)
    (ht : t = { s with sent := s.sent ++ [(client, message)] }) : Spared y s t := by
  refine ⟨⟨[(client, message)], by rw [ht], fun m hm => ?_⟩, by rw [ht]⟩
  rw [List.mem_singleton.mp hm]
  exact hmessage

end Spared

def sparing (y : UInt32) : Contract Server Exn where
  inv _ := True
  step := Spared y
  allowed _ := True
  refl := Spared.refl
  trans := Spared.trans

/-- Computations that only send, and to others than `y`. -/
def sendingPast (y : UInt32) : Contract Server Exn where
  inv _ := True
  step s t := Posted s t ∧ Spared y s t
  allowed _ := True
  refl s := ⟨Posted.refl s, Spared.refl s⟩
  trans h h' := ⟨h.1.trans h'.1, h.2.trans h'.2⟩

section Sending

theorem sendingPast_still {α : Type} {x : Serve α} (h : Still x) :
    (sendingPast y).Holds x s fun a t => t = s ∧ x s = (.ok a, s) :=
  holds_still h trivial fun _ _ _ => trivial

theorem sendingPast_sendTo (address : U16String) {message : Serve Notification} (hstill : Still message)
    (hmessage : ∀ n, message s = (.ok n, s) → (Outgoing.notify n).delivers y = false) :
    (sendingPast y).Holds (sendTo address message) s fun _ _ => True := by
  apply holds_get_bind
  cases s.clientAddressMap address with
  | none => exact holds_pure trivial trivial
  | some client =>
    apply holds_ite
    · intro _
      refine (sendingPast_still hstill).bind fun n t _ _ ⟨ht, hrun⟩ => ?_
      subst ht
      exact holds_modify trivial ⟨⟨rfl, List.prefix_append _ _⟩, .of_send (hmessage n hrun) rfl⟩ trivial
    · exact fun _ => holds_throw trivial trivial

theorem sparing_sendingPast {α : Type} {x : Serve α} {Q : α → Server → Prop} (h : (sendingPast y).Holds x s Q) :
    (sparing y).Holds x s Q :=
  h.weaken (fun _ _ _ => trivial) (fun _ _ hst => hst.2) fun _ _ => trivial

end Sending

section Checks

/-- Who is not told to ignore the sender is somebody else. -/
theorem not_ignored (hs : Tended s) (hq : Live s.avatarCache q) (hrow : s.db.Ignores y.toNat p.avatarId.toNat)
    (hrun : isIgnored q (some p) s = (.ok false, t)) : q.avatarId ≠ y := by
  rintro rfl
  obtain ⟨b, hb, rfl, hobject⟩ := avatar?_of_live hs.ready.allocated hq
  have hignores := ((hs.synced b hb).ignored p.avatarId).mpr hrow
  rcases isIgnored_cases (p := p) hobject with hnull | ⟨hcheck, _⟩
  · rw [hnull] at hrun
    exact absurd hrun (by simp)
  · rw [hcheck, hignores] at hrun
    exact absurd hrun (by simp)

theorem mem_removeIf {α : Type} {drop : α → Serve Bool} (hdrop : ∀ a, Still (drop a)) (l : List α) :
    (removeIf drop l).Ends s (fun kept _ => ∀ a ∈ kept, a ∈ l ∧ drop a s = (.ok false, s)) fun _ _ => True := by
  induction l with
  | nil => exact fun a ha => absurd ha List.not_mem_nil
  | cons a l ih =>
    have hstill := hdrop a s
    unfold Ends at ih ⊢
    rcases hrun : drop a s with ⟨e | b, u⟩ <;> rw [hrun] at hstill <;> obtain rfl : u = s := hstill
    · rw [removeIf, bind_error hrun]
      trivial
    · rw [removeIf, bind_ok hrun]
      rcases hrest : removeIf drop l u with ⟨e | rest, v⟩ <;> rw [hrest] at ih
      · rw [bind_error hrest]
        trivial
      · rw [bind_ok hrest]
        have hkept : ∀ c ∈ rest, c ∈ a :: l ∧ drop c u = (.ok false, u) := fun c hc =>
          ⟨List.mem_cons_of_mem a (ih c hc).1, (ih c hc).2⟩
        cases b with
        | true => exact hkept
        | false =>
          intro c hc
          rcases List.mem_cons.mp hc with rfl | hc
          · exact ⟨List.mem_cons_self, hrun⟩
          · exact hkept c hc

/-- The listeners in a room. -/
theorem getAvatarIds_spares {room : ChatRoom} {ids : List UInt32} (hs : Tended s)
    (hroom : ∀ q ∈ room.avatars, Live s.avatarCache q) (hrow : s.db.Ignores y.toNat p.avatarId.toNat)
    (hrun : getAvatarIds room p s = (.ok ids, t)) : y ∉ ids := by
  have hends : (getAvatarIds room p).Ends s (fun ids _ => y ∉ ids) fun _ _ => True := by
    rw [getAvatarIds, ends_bind]
    apply (mem_removeIf (fun q => still_isIgnored q (some p)) room.avatars).mono
    · intro kept u hkept hy
      obtain ⟨q, hq, hid⟩ := List.mem_map.mp hy
      obtain ⟨hmem, hcheck⟩ := hkept q hq
      exact not_ignored hs (hroom q hmem) hrow hcheck hid
    · exact fun _ _ h => h
  exact hends.ok_of_run hrun

end Checks

section Handlers

/-- A lookup sends nothing and stores no mail. -/
theorem sparing_required (request : AvatarRequest) (hs : Ready s) (hworks : s.Works) :
    (sparing y).Holds request.required s fun p t =>
      LookedUp s t ∧ Live t.avatarCache p ∧ request.Yields p := by
  have hgrown : ∀ t, Grown s t → Spared y s t := by
    intro t ht
    rw [ht.rest]
    exact Spared.of_eq rfl rfl
  have hlookup : (sparing y).Holds request.run s fun found t =>
      LookedUp s t ∧ ∀ p, found = some p → Live t.avatarCache p ∧ request.Yields p := by
    have hends := run_ends request hs hworks
    unfold Holds
    unfold Ends at hends ⊢
    rcases hrun : request.run s with ⟨e | found, t⟩ <;> rw [hrun] at hends
    · exact ⟨trivial, hgrown t (grown_of_run hs.loadable hrun), trivial⟩
    · exact ⟨trivial, hgrown t hends.1.grown, hends⟩
  refine hlookup.bind fun found t _ _ ht => ?_
  cases found with
  | some p => exact holds_pure trivial ⟨ht.1, ht.2 p rfl⟩
  | none => exact holds_throw trivial trivial

theorem LookedUp.ignores (h : LookedUp s t) {i j : Nat} (hrow : s.db.Ignores i j) : t.db.Ignores i j :=
  h.grown.db ▸ hrow

theorem sparing_still {α : Type} {x : Serve α} (h : Still x) :
    (sparing y).Holds x s fun a t => t = s ∧ x s = (.ok a, s) :=
  holds_still h trivial fun _ _ _ => trivial

theorem sparing_evaluatePolicyEvent (event : Policy.Event) :
    (sparing y).Holds (evaluatePolicyEvent event) s fun _ t =>
      t = { s with recentActions := t.recentActions } :=
  holds_modify trivial (.of_eq rfl rfl) rfl

theorem sparing_setResponse (f : Response → Response) :
    (sparing y).Holds (setResponse f) s fun _ t => t = { s with response := t.response } :=
  holds_modify trivial (.of_eq rfl rfl) rfl

/-- Mail for somebody else. -/
theorem sparing_storeMessage (message : PersistentMessage) (h : message.header.avatarId ≠ y) :
    (sparing y).Holds (storeMessage message) s fun _ _ => True := by
  refine Holds.bind (Q := fun _ _ => True) ?_ fun _ _ _ _ _ => holds_pure trivial trivial
  unfold Holds Ends
  rcases execute_cases (.insertMessage (messageColumns message)) s with ⟨_, hrun⟩ | ⟨id, db, ⟨_, hinsert⟩, hrun⟩ <;>
    rw [hrun]
  · exact ⟨trivial, .of_eq rfl rfl, trivial⟩
  · have hstored : db.persistentMessage = s.db.persistentMessage ++ [{ messageColumns message with id }] := by
      simp only [Database.run, Database.insertMessage] at hinsert
      split at hinsert
      · exact absurd hinsert (by simp)
      · obtain ⟨rfl, rfl⟩ := Prod.mk.inj (Option.some.inj hinsert)
        rfl
    have hother : message.header.avatarId.toNat ≠ y.toNat := fun heq => h (UInt32.toNat_inj.mp heq)
    refine ⟨trivial, ⟨⟨[], (List.append_nil _).symm, by simp⟩, ?_⟩, trivial⟩
    change db.persistentMessage.filter _ = _
    rw [hstored, List.filter_append, List.filter_cons_of_neg (by simp [messageColumns, hother])]
    simp

/-- A message with one avatar object in it. -/
theorem eq_of_message {f : ChatAvatar → Notification} {n : Notification}
    (hrun : (do pure (f (← readAvatar p)) : Serve Notification) s = (.ok n, t)) : ∃ a, n = f a := by
  cases hobject : s.avatar? p with
  | some a =>
    rw [bind_ok (readAvatar_run hobject)] at hrun
    exact ⟨a, (Except.ok.inj (Prod.mk.inj hrun).1).symm⟩
  | none =>
    rw [bind_error (readAvatar_dangling hobject)] at hrun
    exact absurd hrun (by simp)

theorem sparing_sendInstantMessage (request : ReqSendInstantMessage) (hs : Tended s)
    (hrow : s.db.Ignores y.toNat request.srcAvatarId.toNat) :
    (sparing y).Holds (Handler.sendInstantMessage request) s fun _ _ => True := by
  rw [Handler.sendInstantMessage, requireSrcAvatar_eq, requireDestAvatar_eq]
  refine (sparing_required _ hs.ready hs.works).bind fun p t _ _ ⟨ht, hp, hid⟩ => ?_
  have htended := ht.tended hs
  refine (sparing_required _ htended.ready htended.works).bind fun q u _ _ ⟨hu, hq, _⟩ => ?_
  have hsrc : p.avatarId = request.srcAvatarId := hid
  have hignores : u.db.Ignores y.toNat p.avatarId.toNat := hsrc ▸ hu.ignores (ht.ignores hrow)
  refine (sparing_still (still_isIgnored q (some p))).bind fun ignored v _ _ ⟨hv, hcheck⟩ => ?_
  cases ignored with
  | true => exact holds_throw trivial trivial
  | false =>
    have hother : q.avatarId ≠ y := not_ignored (hu.tended htended) hq hignores hcheck
    refine (sparing_evaluatePolicyEvent _).bind fun _ w _ _ _ => sparing_sendingPast ?_
    apply sendingPast_sendTo _ (still_message p _)
    intro n hn
    obtain ⟨a, rfl⟩ := eq_of_message hn
    exact beq_false_of_ne hother

theorem sparing_sendPersistentMessage (request : ReqSendPersistentMessage) (hs : Tended s)
    (hsender : request.sender = .inl x) (hrow : s.db.Ignores y.toNat x.toNat) :
    (sparing y).Holds (Handler.sendPersistentMessage request) s fun _ _ => True := by
  rw [Handler.sendPersistentMessage, requireDestAvatar_eq, hsender]
  refine (sparing_required _ hs.ready hs.works).bind fun q t _ _ hrequired => ?_
  obtain ⟨ht, hq, _⟩ := hrequired
  have htended := ht.tended hs
  have hmail : (sparing y).Holds (Handler.mailSender (.inl x) q) t fun _ _ => q.avatarId ≠ y := by
    rw [Handler.mailSender, requireSrcAvatar_eq]
    refine (sparing_required _ htended.ready htended.works).bind fun p u _ _ hrequired => ?_
    obtain ⟨hu, _, hid⟩ := hrequired
    have hsrc : p.avatarId = x := hid
    have hignores : u.db.Ignores y.toNat p.avatarId.toNat := hsrc ▸ hu.ignores (ht.ignores hrow)
    refine (sparing_still (still_isIgnored q (some p))).bind fun ignored v _ _ hread => ?_
    obtain ⟨hv, hcheck⟩ := hread
    cases ignored with
    | true => exact holds_throw trivial trivial
    | false => exact holds_pure trivial (not_ignored (hu.tended htended) (hu.grown.live hq) hignores hcheck)
  refine hmail.bind fun sender u _ _ hother => holds_get_bind ?_
  refine Holds.bind (sparing_storeMessage _ hother) fun messageId v _ _ _ => ?_
  refine (sparing_setResponse _).bind fun _ w _ _ _ => sparing_sendingPast ?_
  apply sendingPast_sendTo _ (still_pure _)
  intro n hn
  obtain rfl := Except.ok.inj (Prod.mk.inj hn).1
  exact beq_false_of_ne hother

/-- What a message to a room is sent from: the members are known, and `y` ignores the sender. -/
structure Heard (y : UInt32) (p : AvatarPtr) (s : Server) : Prop where
  tended : Tended s
  members : ∀ r ∈ s.rooms, ∀ q ∈ r.avatars, Live s.avatarCache q
  row : s.db.Ignores y.toNat p.avatarId.toNat

theorem Heard.of_posted (h : Heard y p s) (hst : Posted s t) : Heard y p t := by
  have hunmoved := Unmoved.of_aside (Aside.of_posted hst)
  refine ⟨hunmoved.tended h.tended, ?_, ?_⟩ <;> rw [hst.rest]
  · exact h.members
  · exact h.row

theorem Heard.of_unmoved (h : Heard y p s) (hst : Unmoved s t) (hcache : t.avatarCache = s.avatarCache)
    (hrooms : ∀ r ∈ t.rooms, ∃ r' ∈ s.rooms, r.avatars = r'.avatars) : Heard y p t := by
  refine ⟨hst.tended h.tended, fun r hr q hq => ?_, ?_⟩
  · obtain ⟨r', hr', heq⟩ := hrooms r hr
    rw [hcache]
    exact h.members r' hr' q (heq ▸ hq)
  · rw [Database.Ignores, hst.ignore]
    exact h.row

/-- A room takes the next message id. -/
theorem heard_writeRoom (h : Heard y p s) (room : RoomPtr) {f : ChatRoom → ChatRoom}
    (hf : ∀ r, (f r).avatars = r.avatars) : (sparing y).Holds (writeRoom room f) s fun _ t => Heard y p t := by
  refine (sparing_still (still_readRoom room)).bind fun r t _ _ ⟨ht, _⟩ => ?_
  subst ht
  have hunmoved : Unmoved t (t.updateRoom room f) := ⟨rfl, id, rfl, rfl, rfl, rfl, rfl⟩
  refine holds_modify trivial (.of_eq rfl rfl) (h.of_unmoved hunmoved rfl fun r hr => ?_)
  obtain ⟨i, hi⟩ := List.mem_iff_getElem?.mp hr
  rw [Server.updateRoom, List.getElem?_modify] at hi
  obtain ⟨r', hr', heq⟩ := Option.map_eq_some_iff.mp hi
  refine ⟨r', List.mem_of_getElem? hr', ?_⟩
  rw [← heq]
  split
  · exact hf r'
  · rfl

theorem sendingPast_sendRoomMessageUpdate (h : Heard y p s) (room : RoomPtr) (messageId : UInt32)
    (message oob : U16String) :
    (sendingPast y).Holds (sendRoomMessageUpdate p room messageId message oob) s fun _ _ => True := by
  refine (sendingPast_still (still_readRoom room)).bind fun r t _ _ ⟨ht, _⟩ => ?_
  subst ht
  apply holds_forM _ trivial
  intro address _ t _ hst
  have hheard := h.of_posted hst.1
  refine (sendingPast_still (still_readRoom room)).bind fun r u _ _ ⟨hu, hr⟩ => ?_
  subst hu
  refine (sendingPast_still (still_getAvatarIds r p)).bind fun destList v _ _ ⟨hv, hids⟩ => ?_
  subst hv
  have hmem : r ∈ v.rooms := by
    cases hroom : v.rooms[room]? with
    | none =>
      rw [readRoom_none hroom] at hr
      exact absurd hr (by simp)
    | some r' =>
      rw [readRoom_of_getElem? hroom] at hr
      obtain rfl := Except.ok.inj (Prod.mk.inj hr).1
      exact List.mem_of_getElem? hroom
  have hspares := getAvatarIds_spares hheard.tended (hheard.members r hmem) hheard.row hids
  apply sendingPast_sendTo _ (still_message p _)
  intro n hn
  obtain ⟨a, rfl⟩ := eq_of_message hn
  simpa [Outgoing.delivers] using hspares

theorem sparing_sendRoomMessage (request : ReqSendRoomMessage) (hs : Tended s)
    (hmembers : ∀ r ∈ s.rooms, ∀ q ∈ r.avatars, Live s.avatarCache q)
    (hrow : s.db.Ignores y.toNat request.srcAvatarId.toNat) :
    (sparing y).Holds (Handler.sendRoomMessage request) s fun _ _ => True := by
  rw [Handler.sendRoomMessage, requireSrcAvatar_eq]
  refine (sparing_required _ hs.ready hs.works).bind fun p t _ _ ⟨ht, _, hid⟩ => ?_
  have hsrc : p.avatarId = request.srcAvatarId := hid
  have hrooms : t.rooms = s.rooms := by rw [ht.grown.rest]
  have hheard : Heard y p t := ⟨ht.tended hs, fun r hr q hq => ht.grown.live (hmembers r (hrooms ▸ hr) q hq),
    hsrc ▸ ht.ignores hrow⟩
  refine (sparing_still (still_requireRoom _ _)).bind fun room u _ _ ⟨hu, _⟩ => ?_
  subst hu
  refine (sparing_still (still_readRoom room)).bind fun r v _ _ ⟨hv, hr⟩ => ?_
  subst hv
  refine (sparing_setResponse _).bind fun _ u _ _ hu => ?_
  have hreplied : Unmoved v u := hu ▸ ⟨rfl, id, rfl, rfl, rfl, rfl, rfl⟩
  refine (sparing_evaluatePolicyEvent _).bind fun _ w _ _ hw => ?_
  have hevaluated : Unmoved u w := hw ▸ ⟨rfl, id, rfl, rfl, rfl, rfl, rfl⟩
  have hcache : w.avatarCache = v.avatarCache ∧ w.rooms = v.rooms := by
    rw [hw, hu]
    exact ⟨rfl, rfl⟩
  have hready := hheard.of_unmoved (hreplied.trans hevaluated) hcache.1 fun r hr => ⟨r, hcache.2 ▸ hr, rfl⟩
  refine Holds.bind (heard_writeRoom hready room fun _ => rfl) fun _ _ _ _ hnext => ?_
  exact sparing_sendingPast (sendingPast_sendRoomMessageUpdate hnext room _ _ _)

/-- The three delivery paths. -/
theorem sparing_handler (client : ClientId) {request : Request} (hs : Tended s)
    (hmembers : ∀ r ∈ s.rooms, ∀ q ∈ r.avatars, Live s.avatarCache q) (hrow : s.db.Ignores y.toNat x.toNat)
    (hfrom : request.MessageFrom x) : (sparing y).Holds (request.handler client) s fun _ _ => True := by
  cases request with
  | sendInstantMessage r =>
    obtain rfl : r.srcAvatarId = x := hfrom
    exact sparing_sendInstantMessage r hs hrow
  | sendRoomMessage r =>
    obtain rfl : r.srcAvatarId = x := hfrom
    exact sparing_sendRoomMessage r hs hmembers hrow
  | sendPersistentMessage r => exact sparing_sendPersistentMessage r hs hfrom hrow
  | _ => exact absurd hfrom id

end Handlers

section Runs
variable {db : Database} {version : UInt32} {policyConfig : Policy.Config} {v : Server} {client : ClientId}
  {request : Request} {time : UInt32} {steadyClock : Nat}

/-- A message request while the row is in the table. -/
theorem spared_step (hs : Tended s) (hmembers : ∀ r ∈ s.rooms, ∀ q ∈ r.avatars, Live s.avatarCache q)
    (hrow : s.db.Ignores y.toNat x.toNat) (hfrom : request.MessageFrom x)
    (h : s.step (.request client request time steadyClock) = some t) : Spared y s t := by
  have hholds := sparing_handler client ((unmoved_arrival s request time steadyClock).tended hs) hmembers hrow hfrom
  obtain ⟨u, hhandler, body, rfl⟩ := step_request_cases h
  have hhandled : Spared y (s.arrival request time steadyClock) u := by
    rcases hhandler with hrun | ⟨e, v, code, hrun, _, rfl⟩
    · exact (Ends.ok_of_run hholds hrun).2.1
    · exact (Ends.err_of_run hholds hrun).2.1.trans (.of_eq rfl rfl)
  have harrival : Spared y s (s.arrival request time steadyClock) := .of_eq rfl rfl
  exact harrival.trans (hhandled.trans (.of_send rfl rfl))

/-- The input leads to a state with one cached object for each avatar id. -/
def Server.Singly (s : Server) (input : Input) : Prop := ∀ t ∈ s.step input, t.Unduplicated

instance (s : Server) (input : Input) : Decidable (s.Singly input) :=
  inferInstanceAs (Decidable (∀ t ∈ s.step input, t.Unduplicated))

/-- An ADDIGNORE of `x` by `y` that is answered with success. -/
def Server.StartsIgnoring (y x : UInt32) (s t : Server) : Prop :=
  ∃ client r time steadyClock body, s.step (.request client (.addIgnore r) time steadyClock) = some t ∧
    r.srcAvatarId = y ∧
    ((s.arrival (.addIgnore r) time steadyClock).named y r.destName r.destAddress).map (·.avatarId) = some x ∧
    t.sent.getLast? = some (client, .response .addIgnore r.track .success body)

theorem ignores_of_startsIgnoring (hs : Tended s) (hfit : Fit (fun _ => True) s) (h : s.StartsIgnoring y x t) :
    t.db.Ignores y.toNat x.toNat := by
  obtain ⟨client, r, time, steadyClock, body, hstep, rfl, hnamed, hlast⟩ := h
  have htends := tends_addIgnoreHandler (F := fun _ _ => True) (W := fun _ => True) r
    ((unmoved_arrival s (.addIgnore r) time steadyClock).tended hs)
  obtain ⟨u, hhandler, body', rfl⟩ := step_request_cases hstep
  rw [List.getLast?_append, List.getLast?_singleton, Option.some_or] at hlast
  rcases hhandler with hrun | ⟨e, w, code, hrun, hcode, rfl⟩
  · obtain ⟨_, q, hq, hrow⟩ := htends.ok_of_run hrun
    rw [hq] at hnamed
    exact Option.some.inj hnamed ▸ hrow
  · have hstart : Fit (fun _ => True) (s.arrival (.addIgnore r) time steadyClock) := hfit
    have hends : (gateway (fun _ => True) True).Holds (Handler.addIgnore r) _ fun _ _ => True :=
      holds_addIgnoreHandler r hstart
    obtain ⟨_, _, hallowed⟩ := Ends.err_of_run hends hrun
    have hsuccess : code = .success := by
      simp only [Option.some.injEq, Prod.mk.injEq, Outgoing.response.injEq] at hlast
      exact hlast.2.2.2.1
    cases e with
    | chatResult code' message => exact absurd (Option.some.inj hcode) (hsuccess ▸ hallowed)
    | database => exact absurd (Option.some.inj hcode) (by simp [hsuccess])
    | outOfRange | nullPointer | unsetService | dangling | freedRoom | outOfFuel =>
      exact absurd hcode (by simp [Exn.resultCode])

/-- From the moment an ADDIGNORE of `x` by `y` succeeds until a request of `y` takes `x` out of the ignore
list, no message request of `x` reaches `y`, in any run over a working database. -/
theorem ignoring_enforced (hdb : db.Consistent)
    (hbefore : Server.Reaches Server.Soundly (Server.start db (fun _ => false) version policyConfig) s)
    (hignoring : s.StartsIgnoring y x t) (hsound : Sound s t)
    (hmeanwhile : Server.Reaches (fun s input => s.Soundly input ∧ ¬ input.Withdrawn s ⟨y.toNat, x.toNat⟩) t u)
    (hfrom : request.MessageFrom x) (h : u.step (.request client request time steadyClock) = some v) :
    Spared y u v := by
  have hany : ∀ {s t : Server} {admitted : Server → Input → Prop}, Server.Reaches admitted s t →
      Server.Reaches Server.AnyInput s t := fun hrun => Runs.mono hrun fun _ _ _ => trivial
  have hs := tended_reaches (tended_start hdb version policyConfig) hbefore
  have hfit := fit_reaches_any hdb.referential (hany hbefore)
  have hrow := ignores_of_startsIgnoring hs hfit hignoring
  obtain ⟨client', r, time', steadyClock', body, hstep, _⟩ := hignoring
  have ht := tended_step hs hstep hsound
  have hu : Tended u ∧ u.db.Ignores y.toNat x.toNat := by
    refine Runs.invariant (I := fun u => Tended u ∧ u.db.Ignores y.toNat x.toNat) hmeanwhile ⟨ht, hrow⟩ ?_
    intro s input t ⟨hs, hrow⟩ ⟨hsound, hkept⟩ hstep
    refine ⟨tended_step hs hstep (hsound t hstep), Database.ignores_iff.mpr ?_⟩
    exact (ignored_step hs hstep (Database.ignores_iff.mp hrow)).resolve_right hkept
  have hreached : Server.Reaches Server.AnyInput (Server.start db (fun _ => false) version policyConfig) u :=
    (hany hbefore).trans (Relation.ReflTransGen.head ⟨_, trivial, hstep⟩ (hany hmeanwhile))
  have hlive := (fit_reaches_any hdb.referential hreached).pointers.rooms
  exact spared_step hu.1 (fun r hr q hq => hlive r hr q (List.mem_append_left _ hq)) hu.2 hfrom h

/-- A server that has just started over the players A and B of one game server. -/
def Server.players (a b next : Nat) : Server :=
  Server.start { Database.empty with
    avatar := [⟨a, 1, [0x41], [0x61], 0⟩, ⟨b, 2, [0x42], [0x61], 0⟩]
    nextAvatarId := next } (fun _ => false) 2 {}

/-- Two stored avatars; the first ignores the second, which then sends it a message. -/
theorem ignoring_enforced_message : ∃ t v, (Server.players 1 2 3).connect.StartsIgnoring 1 2 t ∧
    t.step (.request 0 (.sendInstantMessage ⟨2, 2, [0x41], [0x61], [0x68], [], []⟩) 0 0) = some v ∧
    Spared 1 t v := by
  have hrun : ((Server.players 1 2 3).connect.step (.request 0 (.addIgnore ⟨1, 1, [0x42], [0x61], []⟩) 0 0)).any
      (fun t => decide (Sound (Server.players 1 2 3).connect t ∧
        t.sent.getLast? = some (0, .response .addIgnore 1 .success .empty) ∧
        (t.step (.request 0 (.sendInstantMessage ⟨2, 2, [0x41], [0x61], [0x68], [], []⟩) 0 0)).isSome)) = true := by
    decide +kernel
  have hnamed : (((Server.players 1 2 3).connect.arrival (.addIgnore ⟨1, 1, [0x42], [0x61], []⟩) 0 0).named 1
      [0x42] [0x61]).map (·.avatarId) = some 2 := by decide +kernel
  obtain ⟨t, hstep, ht⟩ := (Option.any_eq_true _ _).mp hrun
  obtain ⟨hsound, hlast, hsome⟩ := of_decide_eq_true ht
  obtain ⟨v, hv⟩ := Option.isSome_iff_exists.mp hsome
  have hdb : Database.Consistent { Database.empty with
      avatar := [⟨1, 1, [0x41], [0x61], 0⟩, ⟨2, 2, [0x42], [0x61], 0⟩]
      nextAvatarId := 3 } := ⟨⟨by decide, by decide⟩, ⟨by decide, by decide⟩, by decide⟩
  have hconnect : Server.Reaches Server.Soundly (Server.players 1 2 3) (Server.players 1 2 3).connect :=
    Relation.ReflTransGen.single ⟨.connect, by decide +kernel, rfl⟩
  have hignoring : (Server.players 1 2 3).connect.StartsIgnoring 1 2 t := ⟨0, _, 0, 0, _, hstep, rfl, hnamed, hlast⟩
  have hfrom : Request.MessageFrom 2 (.sendInstantMessage ⟨2, 2, [0x41], [0x61], [0x68], [], []⟩) := rfl
  exact ⟨t, v, hignoring, hv, ignoring_enforced hdb hconnect hignoring hsound .refl hfrom hv⟩

theorem Spared.not_delivers (h : Spared y s t) : (t.sent.drop s.sent.length).any (·.2.delivers y) = false := by
  obtain ⟨new, hnew, hall⟩ := h.sent
  rw [hnew, List.drop_left, List.any_eq_false]
  intro m hm
  simp [hall m hm]

/-- With the next id at 4294967301 a new avatar gets the id 5 of the avatar that ignores. -/
theorem truncated_id_is_reached :
    ∃ s t u v, Server.Reaches Server.Singly (Server.players 5 7 (2 ^ 32 + 5)) s ∧ s.StartsIgnoring 5 7 t ∧
      t.Unduplicated ∧ Server.Reaches (fun s input => s.Singly input ∧ ¬ input.Withdrawn s ⟨5, 7⟩) t u ∧
      u.step (.request 3 (.sendInstantMessage ⟨2, 7, [0x43], [0x61], [0x68], [], []⟩) 0 0) = some v ∧
      ¬ Spared 5 u v := by
  let s := (Server.players 5 7 (2 ^ 32 + 5)).connect
  let inputs : List Input := [.restart, .connect, .request 3 (.loginAvatar ⟨1, 3, [0x43], [0x61], [], 0, 0⟩) 0 0,
    .request 3 (.loginAvatar ⟨1, 4, systemName, [0x61], [], 0, 0⟩) 0 0]
  let greeting : Input := .request 3 (.sendInstantMessage ⟨2, 7, [0x43], [0x61], [0x68], [], []⟩) 0 0
  have hrun : (s.step (.request 0 (.addIgnore ⟨1, 5, [0x42], [0x61], []⟩) 0 0)).any (fun t =>
      decide (t.Unduplicated ∧ t.sent.getLast? = some (0, .response .addIgnore 1 .success .empty) ∧
        (runInputs (fun s i => if s.Singly i ∧ i ∈ inputs then s.step i else none) t inputs).any fun u =>
          decide ((u.step greeting).any fun v => (v.sent.drop u.sent.length).any (·.2.delivers 5)))) = true := by
    decide +kernel
  have hnamed : ((s.arrival (.addIgnore ⟨1, 5, [0x42], [0x61], []⟩) 0 0).named 5 [0x42] [0x61]).map (·.avatarId) =
      some 7 := by decide +kernel
  obtain ⟨t, hstep, ht⟩ := (Option.any_eq_true _ _).mp hrun
  obtain ⟨hsingle, hlast, hrest⟩ := of_decide_eq_true ht
  have hmeanwhile : ∃ u, Runs Server.step (fun s i => s.Singly i ∧ i ∈ inputs) t u ∧
      ((u.step greeting).any fun v => (v.sent.drop u.sent.length).any (·.2.delivers 5)) = true :=
    Runs.exists_of_admitted inputs hrest
  obtain ⟨u, hreached, hgreeting⟩ := hmeanwhile
  obtain ⟨v, hv, hdelivers⟩ := (Option.any_eq_true _ _).mp hgreeting
  refine ⟨s, t, u, v, Relation.ReflTransGen.single ⟨.connect, by decide +kernel, rfl⟩,
    ⟨0, _, 0, 0, _, hstep, rfl, hnamed, hlast⟩, hsingle, Runs.mono hreached ?_, hv, fun hspared => ?_⟩
  · rintro w input ⟨hsingly, hmem⟩
    refine ⟨hsingly, ?_⟩
    simp only [inputs, List.mem_cons, List.not_mem_nil, or_false] at hmem
    rcases hmem with rfl | rfl | rfl | rfl <;> exact id
  · rw [hspared.not_delivers] at hdelivers
    exact absurd hdelivers (by simp)

end Runs

end StationChat
