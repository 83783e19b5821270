import StationChat.Avatars.Contacts
import StationChat.Gateway.AvatarRequest
import StationChat.Gateway.Everyday
import StationChat.Gateway.Safety
import StationChat.Rooms.Outcomes

/-! Who makes rooms disappear. DESTROYROOM does not ask whether its avatar is in charge of the room. -/
namespace StationChat
open Lib Lib.Action Lib.Contract Relation

variable {s t u v : Server}

/-- The avatar is the room's creator or one of its administrators. -/
def ChatRoom.InCharge (r : ChatRoom) (avatarId : UInt32) : Prop :=
  r.isCreator avatarId = true ∨ r.isAdministrator avatarId = true

instance (r : ChatRoom) (avatarId : UInt32) : Decidable (r.InCharge avatarId) :=
  inferInstanceAs (Decidable (_ ∨ _))

namespace Server

/-- The room that an address names. -/
def roomAt (s : Server) (roomAddress : U16String) : Option ChatRoom :=
  s.rooms.find? (roomAddress == ·.roomAddress)

/-- The avatar is cached or stored. -/
def KnowsAvatar (s : Server) (avatarId : UInt32) : Prop :=
  (∃ a ∈ s.avatarCache, a.self.avatarId = avatarId) ∨ s.db.HasAvatar avatarId.toNat

instance (s : Server) (avatarId : UInt32) : Decidable (s.KnowsAvatar avatarId) :=
  inferInstanceAs (Decidable (_ ∨ _))

/-- The login of an avatar named SYSTEM, which loads the rooms anew. -/
def SystemLogin (s : Server) : Request → Prop
  | .loginAvatar r => ∃ avatar t, Handler.loginTarget r.name r.address r.userId
      r.loginAttributes.toUInt32 r.loginLocation s = (.ok avatar, t) ∧ avatar.name = systemName
  | .failoverReLoginAvatar r => ∃ avatar t, Handler.loginTarget r.name r.address r.userId r.attributes
      r.loginLocation s = (.ok avatar, t) ∧ avatar.name = systemName
  | _ => False

/-- The inputs after which the rooms are other objects. -/
def Reloads (s : Server) : Input → Prop
  | .request _ request time steadyClock =>
    ((s.atTime time steadyClock).receiving request).SystemLogin request
  | .restart => True
  | _ => False

end Server

theorem requireRoom_at {roomAddress : U16String} {r : ChatRoom} (h : s.roomAt roomAddress = some r)
    (missing : ChatResultCode) :
    ∃ room, requireRoom roomAddress missing s = (.ok room, s) ∧ s.rooms[room]? = some r := by
  rw [Server.roomAt, List.find?_eq_bind_findIdx?_getElem?] at h
  obtain ⟨room, hidx, hr⟩ := Option.bind_eq_some_iff.mp h
  exact ⟨room, by rw [requireRoom_run, hidx], hr⟩

theorem requireRoom_nowhere {roomAddress : U16String} (h : s.roomAt roomAddress = none) (missing : ChatResultCode) :
    requireRoom roomAddress missing s = (.error (.chatResult missing (cStr (fromWideString roomAddress))), s) := by
  have hidx : s.rooms.findIdx? (fun room => roomAddress == room.roomAddress) = none :=
    List.findIdx?_eq_none_iff.mpr fun r hr => Bool.eq_false_iff.mpr (List.find?_eq_none.mp h r hr)
  rw [requireRoom_run, hidx]

section Kept

/-- The rooms of `s` are there in `t`, perhaps with other lists, and before any others. -/
def KeepsRooms (s t : Server) : Prop := s.rooms.map ChatRoom.identity <+: t.rooms.map ChatRoom.identity

theorem KeepsRooms.refl (s : Server) : KeepsRooms s s := List.prefix_rfl

theorem KeepsRooms.trans (h : KeepsRooms s t) (h' : KeepsRooms t u) : KeepsRooms s u :=
  List.IsPrefix.trans h h'

theorem identity_change {speaking presence : Prop} (h : Change False speaking presence s t) :
    t.rooms.map ChatRoom.identity = s.rooms.map ChatRoom.identity := by
  cases h with
  | lists room f hf => exact identity_modify fun r hr => (hf r hr).1
  | counter room _ => exact identity_modify fun _ _ => rfl
  | rooms rooms nextRoomId h => exact h.elim
  | _ => rfl

theorem keepsRooms_change {speaking presence : Prop} (h : Change False speaking presence s t) : KeepsRooms s t := by
  have hrooms := identity_change h
  exact ⟨[], by rw [hrooms, List.append_nil]⟩

theorem keepsRooms_makes {α : Type} {x : Serve α} (h : x.Makes (Change False True True)) :
    x.Makes KeepsRooms :=
  h.mono fun _ _ => keepsRooms_change

/-- A creation adds its room behind the others. -/
private theorem makes_createRoom_keeping (creator : Option AvatarPtr)
    (roomName roomTopic roomPassword : U16String) (roomAttributes maxRoomSize : UInt32)
    (roomAddress : U16String) :
    (createRoom creator roomName roomTopic roomPassword roomAttributes maxRoomSize roomAddress).Makes
      KeepsRooms := by
  intro s
  apply ReflTransGen.single
  cases hexists : s.roomExists (fullAddress roomAddress roomName) with
  | true =>
    rw [createRoom_refused hexists]
    exact KeepsRooms.refl s
  | false =>
    cases creator with
    | none =>
      rw [createRoom, get_bind_run, if_neg (by simp [hexists])]
      exact KeepsRooms.refl s
    | some creator =>
      rw [createRoom_run hexists]
      obtain ⟨⟨dbId, hrooms⟩, _⟩ := added_rooms (s := s) (ChatRoom.make s.nextRoomId creator roomName
        roomTopic roomPassword roomAttributes maxRoomSize roomAddress)
      rw [KeepsRooms, hrooms, List.map_append]
      exact List.prefix_append _ _

/-- Only DESTROYROOM and the logins of SYSTEM take rooms away. -/
private theorem keepsRooms_handler (client : ClientId) (request : Request)
    (hdestroy : ∀ r, request ≠ .destroyRoom r) (hsystem : ¬ s.SystemLogin request) :
    ReflTransGen KeepsRooms s (request.handler client s).2 := by
  have hkeep : ∀ t u, Change False True True t u → KeepsRooms t u := fun _ _ => keepsRooms_change
  cases request with
  | destroyRoom r => exact absurd rfl (hdestroy r)
  | createRoom r =>
    refine Makes.bind (keepsRooms_makes (makes_getAvatarById r.creatorId)) (fun creator => ?_) s
    refine (makes_createRoom_keeping creator _ _ _ _ _ _).bind fun room => ?_
    exact keepsRooms_makes (makes_setResponse _)
  | loginAvatar r =>
    refine ReflTransGen.mono hkeep _ _ (Handler.changes_loginAvatar trivial client r ?_)
    exact fun avatar t hrun hname => hsystem ⟨avatar, t, hrun, hname⟩
  | failoverReLoginAvatar r =>
    refine ReflTransGen.mono hkeep _ _ (Handler.changes_failoverReLoginAvatar trivial client r ?_)
    exact fun avatar t hrun hname => hsystem ⟨avatar, t, hrun, hname⟩
  | _ => exact keepsRooms_makes (makes_handler client _ id (fun _ => trivial) fun _ => trivial) s

private theorem keepsRooms_handle {client : ClientId} {request : Request}
    (hdestroy : ∀ r, request ≠ .destroyRoom r) (hsystem : ¬ (s.receiving request).SystemLogin request)
    (h : request.handle client s = (.ok (), t)) : KeepsRooms s t := by
  have hchanges := changes_handle (fun _ _ => keepsRooms_change) client request
    (keepsRooms_handler client request hdestroy hsystem)
  rw [h] at hchanges
  exact changes_related KeepsRooms.refl KeepsRooms.trans (fun _ _ h => h) hchanges

end Kept

section Destroy

/-- An avatar that a handler begins with. -/
theorem requireSrcAvatar_found (hs : Fit (fun _ => True) s) (avatarId : UInt32) :
    (requireSrcAvatar avatarId).Ends s
      (fun p t => Fit (fun _ => True) t ∧ Grown s t ∧ Found s avatarId (some p) t)
      (fun e t => Grown s t ∧ e.resultCode ≠ some .roomNoPrivileges) := by
  rw [requireSrcAvatar, ends_bind]
  apply Ends.mono (fit_loads.getAvatarById avatarId hs)
  · rintro found t hfound
    cases found with
    | none => exact ⟨hfound.2.1, by simp [Exn.resultCode]⟩
    | some p => exact hfound
  · rintro e t ⟨_, hgrown, rfl | ⟨rfl, _⟩⟩
    · exact ⟨hgrown, by simp [Exn.resultCode]⟩
    · exact ⟨hgrown, by simp [Exn.resultCode]⟩

theorem Found.knowsAvatar {avatarId : UInt32} {p : AvatarPtr} (h : Found s avatarId (some p) t) :
    s.KnowsAvatar avatarId := h.hasAvatarId

/-- A message about an avatar fails only by a pointer. -/
private theorem sendAbout_ends (address : U16String) (avatar : AvatarPtr) (f : ChatAvatar → Notification) :
    (sendTo address (do pure (f (← readAvatar avatar)))).Ends s (fun _ _ => True)
      (fun e _ => e = .dangling) := by
  unfold Ends
  rw [sendTo, get_bind_run]
  cases s.clientAddressMap address with
  | none => trivial
  | some client =>
    by_cases hclient : client ∈ s.clients
    · simp only [if_pos hclient]
      cases hobject : s.avatar? avatar with
      | some a =>
        rw [bind_assoc, bind_ok (readAvatar_run hobject)]
        trivial
      | none =>
        rw [bind_assoc, bind_error (readAvatar_dangling hobject)]
    · simp only [if_neg hclient]
      rfl

private theorem sendDestroyRoomUpdate_ends (srcAvatar : AvatarPtr) (roomId : UInt32)
    (targets : List U16String) :
    (sendDestroyRoomUpdate srcAvatar roomId targets).Ends s (fun _ t => Posted s t)
      (fun e _ => e = .dangling) := by
  have hposted := posting_sendDestroyRoomUpdate (s := s) srcAvatar roomId targets
  have hends : (sendDestroyRoomUpdate srcAvatar roomId targets).Ends s (fun _ _ => True)
      (fun e _ => e = .dangling) :=
    ends_forM _ (fun _ _ => True) (fun address _ _ _ => sendAbout_ends address srcAvatar _) targets trivial
  exact (Ends.and hposted hends).mono (fun _ _ h => h.1.2.1) fun _ _ h => h.2

/-- The handler takes away the rooms with the id of the room it is told, and asks only for its avatar
and for that room. -/
private theorem destroyRoom_ends (hs : Fit (fun _ => True) s) (request : ReqDestroyRoom) :
    (Handler.destroyRoom request).Ends s
      (fun _ t => t.response.result = s.response.result ∧ ∃ r, s.roomAt request.roomAddress = some r ∧
        s.KnowsAvatar request.srcAvatarId ∧ t.rooms = s.rooms.filter (·.roomId != r.roomId))
      (fun e t => (e.resultCode = none ∨ t.rooms = s.rooms) ∧ e.resultCode ≠ some .roomNoPrivileges) := by
  rw [Handler.destroyRoom, ends_bind]
  apply (requireSrcAvatar_found hs request.srcAvatarId).mono
  case herr => exact fun e t ⟨hgrown, hcode⟩ => ⟨.inr (by rw [hgrown.rest]), hcode⟩
  rintro p t ⟨_, hgrown, hsrc⟩
  have hrooms : t.rooms = s.rooms := by rw [hgrown.rest]
  have hsame : t.roomAt request.roomAddress = s.roomAt request.roomAddress := by rw [Server.roomAt, hrooms]; rfl
  cases hfound : s.roomAt request.roomAddress with
  | none =>
    unfold Ends
    rw [bind_error (requireRoom_nowhere (hsame.trans hfound) _)]
    exact ⟨.inr hrooms, by simp [Exn.resultCode]⟩
  | some r =>
    obtain ⟨room, hrequire, hr⟩ := requireRoom_at (hsame.trans hfound) .addressNotRoom
    unfold Ends
    rw [bind_ok hrequire, bind_ok (readRoom_of_getElem? hr)]
    have hrun := destroyRoom_run (s := { t with response := { t.response with roomId := some r.roomId } }) hr
    change Ends (destroyRoom room >>= _ : Serve Unit)
      { t with response := { t.response with roomId := some r.roomId } } _ _
    unfold Ends
    split at hrun
    · rw [bind_error hrun]
      exact ⟨.inr hrooms, by simp [Exn.resultCode]⟩
    · cases hpass : erasePass r.roomId room [] 0 false t.rooms with
      | none =>
        rw [hpass] at hrun
        rw [bind_error hrun]
        exact ⟨.inl rfl, by simp [Exn.resultCode]⟩
      | some left =>
        rw [hpass] at hrun
        rw [bind_ok hrun]
        apply (sendDestroyRoomUpdate_ends p r.roomId r.getRemoteAddresses).mono
        · intro _ u hu
          rw [hu.rest]
          refine ⟨?_, r, rfl, hsrc.knowsAvatar, ?_⟩
          · have hresponse : t.response = s.response := by rw [hgrown.rest]
            rw [← hresponse]
            cases r.isPersistent <;> rfl
          · rw [← hrooms]
            cases r.isPersistent <;> rfl
        · rintro e u rfl
          exact ⟨.inl rfl, by simp [Exn.resultCode]⟩

/-- A room that is gone after a request was destroyed by an avatar in charge of it. -/
def DestroyedInCharge (u : Server) (input : Input) (v : Server) : Prop :=
  ∀ r ∈ u.rooms, (∃ r' ∈ v.rooms, r'.identity = r.identity) ∨
    ∃ client request time steadyClock, input = .request client (.destroyRoom request) time steadyClock ∧
      r.InCharge request.srcAvatarId

/-- Another avatar that asks for it is refused, and nothing about rooms changes. -/
def RefusesOthers (u : Server) (input : Input) (v : Server) : Prop :=
  ∀ client request time steadyClock r, input = .request client (.destroyRoom request) time steadyClock →
    u.roomAt request.roomAddress = some r → u.KnowsAvatar request.srcAvatarId →
      ¬ r.InCharge request.srcAvatarId →
        (∃ body, v.sent.getLast? =
          some (client, .response .destroyRoom request.track .roomNoPrivileges body)) ∧
        v.rooms = u.rooms ∧ v.db.room = u.db.room ∧ v.db.role = u.db.role

/-- A DESTROYROOM that finds its room and its avatar comes from an avatar in charge of the room. -/
def NamedInCharge (u : Server) (input : Input) : Prop :=
  ∀ client request time steadyClock r, input = .request client (.destroyRoom request) time steadyClock →
    u.roomAt request.roomAddress = some r → u.KnowsAvatar request.srcAvatarId →
      r.InCharge request.srcAvatarId

/-- The same of every room that has the id of the room. -/
def AskedInCharge (u : Server) (input : Input) : Prop :=
  ∀ client request time steadyClock r, input = .request client (.destroyRoom request) time steadyClock →
    u.roomAt request.roomAddress = some r → u.KnowsAvatar request.srcAvatarId →
      ∀ r' ∈ u.rooms, r'.roomId = r.roomId → r'.InCharge request.srcAvatarId

theorem AskedInCharge.named {input : Input} (h : AskedInCharge u input) : NamedInCharge u input :=
  fun client request time steadyClock r heq hr hknown =>
    h client request time steadyClock r heq hr hknown r (List.mem_of_find?_eq_some hr) rfl

theorem NamedInCharge.refuses {input : Input} (h : NamedInCharge u input) : RefusesOthers u input v :=
  fun client request time steadyClock r heq hr hknown hnot =>
    absurd (h client request time steadyClock r heq hr hknown) hnot

/-- What a DESTROYROOM that is answered has done, and that no answer is ROOM_NOPRIVILEGES. -/
private theorem destroyRoom_handled {client : ClientId} {request : ReqDestroyRoom}
    (hs : Fit (fun _ => True) s) (h : (Request.destroyRoom request).handle client s = (.ok (), v)) :
    (v.rooms = s.rooms ∨ ∃ r, s.roomAt request.roomAddress = some r ∧ s.KnowsAvatar request.srcAvatarId ∧
      v.rooms = s.rooms.filter (·.roomId != r.roomId)) ∧
    ∀ body, v.sent.getLast? ≠
      some (client, .response .destroyRoom request.track .roomNoPrivileges body) := by
  obtain ⟨u, body, hcaught, _, rfl⟩ := handle_eq_ok h
  have hends := destroyRoom_ends (s := s.receiving (.destroyRoom request)) hs request
  have hlast : ∀ body', u.response.result ≠ .roomNoPrivileges → (u.sent ++ [(client,
      Outgoing.response u.response.type u.response.track u.response.result body)]).getLast? ≠
        some (client, .response .destroyRoom request.track .roomNoPrivileges body') := by
    intro body' hresult heq
    simp only [List.getLast?_append_cons, List.getLast?_singleton, Option.some.injEq, Prod.mk.injEq,
      Outgoing.response.injEq] at heq
    exact hresult heq.2.2.2.1
  rcases caught_eq_ok hcaught with hrun | ⟨e, t, code, hrun, hcode, rfl⟩
  · obtain ⟨hresult, r, hr, hknown, hrooms⟩ := hends.ok_of_run hrun
    refine ⟨.inr ⟨r, hr, hknown, hrooms⟩, fun body' => hlast body' ?_⟩
    rw [hresult]
    simp [Server.receiving]
  · obtain ⟨hrooms, hrefused⟩ := hends.err_of_run hrun
    refine ⟨.inl (hrooms.resolve_left (by simp [hcode])), fun body' => hlast body' fun heq => ?_⟩
    exact hrefused (hcode.trans (congrArg some heq))

/-- One step that does not load the rooms anew. -/
theorem charge_step {input : Input} (hs : Fit (fun _ => True) u) (hreload : ¬ u.Reloads input)
    (h : u.step input = some v) :
    (AskedInCharge u input → DestroyedInCharge u input v) ∧
      (RefusesOthers u input v → NamedInCharge u input) := by
  have hkept : KeepsRooms u v → DestroyedInCharge u input v := by
    intro hkeep r hr
    obtain ⟨r', hr', heq⟩ := List.mem_map.mp (hkeep.subset (List.mem_map_of_mem hr))
    exact .inl ⟨r', hr', heq⟩
  cases input with
  | connect =>
    obtain rfl := Option.some.inj h
    exact ⟨fun _ => hkept (KeepsRooms.refl _), fun _ _ _ _ _ _ heq => absurd heq (by simp)⟩
  | disconnect client =>
    obtain ⟨_, rfl⟩ := Server.step_disconnect h
    exact ⟨fun _ => hkept (KeepsRooms.refl _), fun _ _ _ _ _ _ heq => absurd heq (by simp)⟩
  | tick =>
    obtain rfl := Option.some.inj h
    exact ⟨fun _ => hkept (KeepsRooms.refl _), fun _ _ _ _ _ _ heq => absurd heq (by simp)⟩
  | restart => exact absurd trivial hreload
  | request client request time steadyClock =>
    obtain ⟨_, _, hrun⟩ := Server.step_request h
    by_cases hdestroy : ∃ r, request = .destroyRoom r
    · obtain ⟨r, rfl⟩ := hdestroy
      obtain ⟨hrooms, hanswer⟩ := destroyRoom_handled (s := u.atTime time steadyClock) hs hrun
      constructor
      · intro hasked r' hr'
        rcases hrooms with hrooms | ⟨named, hnamed, hknown, hrooms⟩
        · exact .inl ⟨r', hrooms ▸ hr', rfl⟩
        · by_cases hid : r'.roomId = named.roomId
          · exact .inr ⟨client, r, time, steadyClock, rfl,
              hasked client r time steadyClock named rfl hnamed hknown r' hr' hid⟩
          · refine .inl ⟨r', ?_, rfl⟩
            rw [hrooms]
            exact List.mem_filter.mpr ⟨hr', by simpa using hid⟩
      · intro hrefuses client' request' time' steadyClock' named heq hnamed hknown
        by_contra hnot
        obtain ⟨⟨body, hbody⟩, _⟩ := hrefuses client' request' time' steadyClock' named heq hnamed hknown hnot
        obtain ⟨rfl, heq, _, _⟩ := Input.request.inj heq
        obtain rfl := Request.destroyRoom.inj heq
        exact hanswer body hbody
    · refine ⟨fun _ => hkept ?_, fun _ client' request' _ _ _ heq => ?_⟩
      · exact keepsRooms_handle (s := u.atTime time steadyClock) (fun r heq => hdestroy ⟨r, heq⟩) hreload hrun
      · exact absurd ⟨request', (Input.request.inj heq).2.1⟩ hdestroy

end Destroy

section Runs
variable {db : Database} {fails : Nat → Bool} {version : UInt32} {config : Policy.Config}

/-- In every run, a step that does not load the rooms anew protects them if each avatar whose
DESTROYROOM finds it and its room is in charge of it; without that it never refuses. -/
theorem rooms_destroyed_in_charge (hdb : db.Referential) (inputs : List Input) :
    ∀ x ∈ runSteps Server.step (Server.start db fails version config) inputs, ¬ x.1.Reloads x.2.1 →
      (AskedInCharge x.1 x.2.1 →
        DestroyedInCharge x.1 x.2.1 x.2.2 ∧ RefusesOthers x.1 x.2.1 x.2.2) ∧
      (RefusesOthers x.1 x.2.1 x.2.2 → NamedInCharge x.1 x.2.1) := by
  intro x hx hreload
  have hreach : Server.Reaches Server.AnyInput (Server.start db fails version config) x.1 :=
    Runs.of_mem_runSteps hx fun _ _ => trivial
  obtain ⟨hdestroyed, hnamed⟩ := charge_step (fit_reaches_any hdb hreach) hreload (step_of_mem_runSteps hx)
  exact ⟨fun hasked => ⟨hdestroyed hasked, hasked.named.refuses⟩, hnamed⟩

/-- Two avatars log in and the first creates a room; then `avatarId` asks to destroy it. -/
def destroyRun (avatarId : UInt32) : List Input :=
  [.connect, .request 0 (.loginAvatar ⟨1, 1, [0x62], [0x61], [], 0, 0⟩) 0 0,
    .request 0 (.loginAvatar ⟨2, 2, [0x63], [0x61], [], 0, 0⟩) 0 0,
    .request 0 (.createRoom ⟨3, 1, [0x72], [], [], 0, 0, [0x61], []⟩) 0 0,
    .request 0 (.destroyRoom ⟨4, avatarId, [0x61, 0x2B, 0x72], []⟩) 0 0]

private theorem not_reloads {avatarId : UInt32} {input : Input}
    (h : input = .request 0 (.destroyRoom ⟨4, avatarId, [0x61, 0x2B, 0x72], []⟩) 0 0) :
    ¬ s.Reloads input := by
  rw [h]
  exact id

/-- The creator destroys the room. -/
theorem rooms_destroyed_in_charge_creator :
    ∃ x ∈ runSteps Server.step Server.blank (destroyRun 1), x.1.rooms.length = 1 ∧ x.2.2.rooms = [] ∧
      DestroyedInCharge x.1 x.2.1 x.2.2 ∧ RefusesOthers x.1 x.2.1 x.2.2 := by
  have hrun : ∃ x ∈ runSteps Server.step Server.blank (destroyRun 1),
      x.2.1 = .request 0 (.destroyRoom ⟨4, 1, [0x61, 0x2B, 0x72], []⟩) 0 0 ∧
      x.1.rooms.length = 1 ∧ x.2.2.rooms = [] ∧ ∀ r ∈ x.1.rooms, r.InCharge 1 := by decide +kernel
  obtain ⟨x, hx, hinput, hbefore, hafter, hcharge⟩ := hrun
  have hasked : AskedInCharge x.1 x.2.1 := by
    rw [hinput]
    rintro client request time steadyClock r heq _ _ r' hr' _
    obtain rfl := Request.destroyRoom.inj (Input.request.inj heq).2.1
    exact hcharge r' hr'
  have hprotected := rooms_destroyed_in_charge Database.referential_empty (destroyRun 1) x hx (not_reloads hinput)
  exact ⟨x, hx, hbefore, hafter, hprotected.1 hasked⟩

/-- The other avatar, that is no administrator either, destroys it as well. -/
theorem stranger_destroys_room :
    ∃ x ∈ runSteps Server.step Server.blank (destroyRun 2), ¬ x.1.Reloads x.2.1 ∧
      ¬ DestroyedInCharge x.1 x.2.1 x.2.2 ∧ ¬ RefusesOthers x.1 x.2.1 x.2.2 := by
  have hrun : ∃ x ∈ runSteps Server.step Server.blank (destroyRun 2),
      x.2.1 = .request 0 (.destroyRoom ⟨4, 2, [0x61, 0x2B, 0x72], []⟩) 0 0 ∧ x.2.2.rooms = [] ∧
      ∃ r ∈ x.1.rooms, x.1.roomAt [0x61, 0x2B, 0x72] = some r ∧ x.1.KnowsAvatar 2 ∧ ¬ r.InCharge 2 := by
    decide +kernel
  obtain ⟨x, hx, hinput, hafter, r, hr, hnamed, hknown, hnot⟩ := hrun
  refine ⟨x, hx, not_reloads hinput, fun hdestroyed => ?_, fun hrefuses => ?_⟩
  · rcases hdestroyed r hr with ⟨r', hr', _⟩ | ⟨_, request, _, _, heq, hcharge⟩
    · rw [hafter] at hr'
      exact absurd hr' List.not_mem_nil
    · rw [hinput] at heq
      obtain rfl := Request.destroyRoom.inj (Input.request.inj heq).2.1
      exact hnot hcharge
  · obtain ⟨_, hrooms, _⟩ := hrefuses _ _ _ _ r hinput hnamed hknown hnot
    rw [← hrooms, hafter] at hr
    exact absurd hr List.not_mem_nil

end Runs
end StationChat
