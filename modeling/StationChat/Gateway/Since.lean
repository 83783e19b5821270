import StationChat.Lib.Since
import StationChat.Rooms.Privilege
import StationChat.Rooms.Views

/-! What holds of the gateway came about by a request and has held since: who is in a room has entered it, who is
online has logged in, and an address leads to the game server that announced itself there. -/
namespace StationChat
open Lib Lib.Action Lib.Contract

variable {s t u : Server} {client c : ClientId} {request : Request} {input : Input} {inputs : List Input} {p q : AvatarPtr}

section Members
variable {r : ChatRoom} {avatarId : UInt32} {place : UInt32 × U16String × U16String} {time : UInt32} {clock : Nat}

/-- What a room is told apart by. -/
def ChatRoom.label (r : ChatRoom) : UInt32 × U16String × U16String := (r.roomId, r.roomName, r.roomAddress)

def Server.Seats (s : Server) (place : UInt32 × U16String × U16String) (avatarId : UInt32) : Prop :=
  ∃ r ∈ s.rooms, r.label = place ∧ r.isInRoom avatarId = true

instance : Decidable (s.Seats place avatarId) :=
  inferInstanceAs (Decidable (∃ r ∈ s.rooms, r.label = place ∧ r.isInRoom avatarId = true))

/-- The avatar asks to enter a room that lets it in: it has the password, it is not banned, and if the room is
private, it is its creator or invited. -/
def Enters (place : UInt32 × U16String × U16String) (avatarId : UInt32) (s : Server) : Input → Server → Prop
  | .request _ (.enterRoom request) _ _, _ => request.srcAvatarId = avatarId ∧ ∃ r ∈ s.rooms, r.label = place ∧
      r.roomAddress = request.roomAddress ∧ (r.roomPassword ≠ [] → r.roomPassword = request.roomPassword) ∧
      r.isBanned avatarId = false ∧
      (r.isPrivate = true → r.isCreator avatarId = true ∨ r.isInvited avatarId = true)
  | _, _ => False

theorem isInRoom_of_leaveRoom (h : (r.leaveRoom p).isInRoom avatarId = true) : r.isInRoom avatarId = true := by
  obtain ⟨q, hq, hid⟩ := List.any_eq_true.mp h
  exact List.any_eq_true.mpr ⟨q, List.mem_of_mem_filter hq, hid⟩

/-- Who is in a room now and was not before, was let in. -/
theorem Move.enters {rooms : List ChatRoom} (h : Move s request rooms) (hs : ¬ s.Seats place avatarId)
    (hr : r ∈ rooms) (hplace : r.label = place) (hin : r.isInRoom avatarId = true) :
    Enters place avatarId s (.request client request time clock) t := by
  have hstayed (hr : r ∈ s.rooms) : False := hs ⟨r, hr, hplace, hin⟩
  have hleft {r₁ : ChatRoom} {p : AvatarPtr} (hr₁ : r₁ ∈ s.rooms) (heq : r = r₁.leaveRoom p) : False :=
    hs ⟨r₁, hr₁, (heq ▸ hplace : (r₁.leaveRoom p).label = place), isInRoom_of_leaveRoom (heq ▸ hin)⟩
  cases h with
  | @enter _ _ r₁ _ p hr₁ haddress hsrc henter =>
    have hmem := List.mem_of_getElem? hr₁
    rcases List.mem_or_eq_of_mem_set hr with hr | rfl
    · exact (hstayed hr).elim
    · obtain ⟨hpassword, hbanned, hprivate⟩ := ChatRoom.enterRoom_allowed henter
      obtain rfl := ChatRoom.enterRoom_ok henter
      rw [ChatRoom.isInRoom, List.any_append, Bool.or_eq_true] at hin
      rcases hin with hin | hin
      · exact (hs ⟨r₁, hmem, hplace, hin⟩).elim
      · obtain rfl : p.avatarId = avatarId := by simpa using hin
        exact ⟨hsrc.symm, r₁, hmem, hplace, haddress, hpassword, hbanned, hprivate⟩
  | leave hr₁ _ _ =>
    rcases List.mem_or_eq_of_mem_set hr with hr | heq
    · exact (hstayed hr).elim
    · exact (hleft (List.mem_of_getElem? hr₁) heq).elim
  | kick hr₁ _ hkick =>
    rcases List.mem_or_eq_of_mem_set hr with hr | heq
    · exact (hstayed hr).elim
    · exact (hleft (List.mem_of_getElem? hr₁) (heq.trans (ChatRoom.kickAvatar_ok hkick))).elim
  | logout _ =>
    obtain ⟨r₁, hr₁, rfl⟩ := List.mem_map.mp hr
    exact (hleft hr₁ rfl).elim
  | nowhere _ => exact (hstayed hr).elim

theorem Seated.seats (h : Seated s t) (ht : t.Seats place avatarId) : s.Seats place avatarId := by
  obtain ⟨r, hr, hplace, hin⟩ := ht
  obtain ⟨q, hq, _⟩ := List.any_eq_true.mp hin
  rcases h r hr with hnobody | ⟨r', hr', hsame⟩
  · exact absurd hq (hnobody ▸ List.not_mem_nil)
  · simp only [ChatRoom.attendance, Prod.mk.injEq] at hsame
    obtain ⟨hid, hname, haddress, havatars⟩ := hsame
    refine ⟨r', hr', ?_, ?_⟩
    · rw [← hplace, ChatRoom.label, ChatRoom.label, hid, hname, haddress]
    · rw [ChatRoom.isInRoom, havatars]
      exact hin

/-- One input. -/
theorem enters_step (hs : Fit (fun _ => True) s) (h : s.step input = some t) (hnot : ¬ s.Seats place avatarId)
    (ht : t.Seats place avatarId) : Enters place avatarId s input t := by
  cases input with
  | request client request time clock =>
    obtain ⟨_, _, hrun⟩ := Server.step_request h
    have hs' : Fit (fun _ => True) (s.atTime time clock) := hs
    by_cases hmoves : request.Moves
    · obtain ⟨r, hr, hplace, hin⟩ := ht
      rcases (move_handle hs' hmoves hrun).2 with hmove | hrooms
      · exact (hmove.of_rooms (s := s) rfl).enters hnot hr hplace hin
      · exact absurd ⟨r, (hrooms ▸ hr : r ∈ (s.atTime time clock).rooms), hplace, hin⟩ hnot
    · exact absurd ((seated_handle hmoves hrun).seats ht) hnot
  | connect =>
    obtain rfl := Option.some.inj h
    exact absurd ht hnot
  | tick =>
    obtain rfl := Option.some.inj h
    exact absurd ht hnot
  | disconnect c =>
    obtain ⟨_, rfl⟩ := Server.step_disconnect h
    exact absurd ht hnot
  | restart =>
    obtain rfl := Option.some.inj h
    obtain ⟨r, hr, _⟩ := ht
    exact absurd hr (by simp [Server.restart, Server.start])

/-- Everybody who is in a room entered it when it let them in, and has been in there since. -/
theorem members_have_entered {db : Database} {fails : Nat → Bool} {version : UInt32} {config : Policy.Config}
    (hdb : db.Referential) (h : runInputs Server.step (Server.start db fails version config) inputs = some t)
    (ht : t.Seats place avatarId) : HeldSince Server.step (fun s => s.Seats place avatarId) (Enters place avatarId)
      (Server.start db fails version config) inputs := by
  have hstart : ¬ (Server.start db fails version config).Seats place avatarId := by
    rintro ⟨r, hr, _⟩
    exact absurd hr (by simp [Server.start])
  exact heldSince (fun s i _ hs hstep => fit_step hs (admitted_any s i) hstep)
    (fun s i t hs hstep hnot ht => enters_step hs hstep hnot ht) (fit_reaches_any hdb .refl) h hstart ht

/-- The avatar that created the room is the first to be in it. -/
theorem members_have_entered_one : HeldSince Server.step (fun s => s.Seats (0, [0x72], [0x61, 0x2B, 0x72]) 3)
    (Enters (0, [0x72], [0x61, 0x2B, 0x72]) 3) Server.blank audienceRun := by
  have hrun : (runInputs Server.step Server.blank audienceRun).any
      (fun t => decide (t.Seats (0, [0x72], [0x61, 0x2B, 0x72]) 3)) = true := by decide +kernel
  obtain ⟨t, hrun, hin⟩ := (Option.any_eq_true _ _).mp hrun
  exact members_have_entered Database.referential_empty hrun (of_decide_eq_true hin)

end Members

section Ungreeted
variable {powers : Powers} {request : Request}

/-- Nobody came online, and no address was announced. -/
structure Ungreeted (s t : Server) : Prop where
  online : t.onlineAvatars ⊆ s.onlineAvatars
  addresses : t.clientAddressMap = s.clientAddressMap

namespace Ungreeted

theorem refl (s : Server) : Ungreeted s s := ⟨List.Subset.refl _, rfl⟩

theorem trans (h : Ungreeted s t) (h' : Ungreeted t u) : Ungreeted s u :=
  ⟨List.Subset.trans h'.online h.online, h'.addresses.trans h.addresses⟩

theorem of_eq (honline : t.onlineAvatars = s.onlineAvatars) (haddresses : t.clientAddressMap = s.clientAddressMap) :
    Ungreeted s t :=
  ⟨honline ▸ List.Subset.refl _, haddresses⟩

end Ungreeted

theorem makes_ungreeted_primitive (hloads : powers.loads) (hgreets : ¬ powers.greets) (α : Type) (x : Serve α)
    (h : Primitive client powers α x) : x.Makes Ungreeted := by
  cases h with
  | execute statement _ =>
    intro s
    rcases execute_cases statement s with ⟨_, hrun⟩ | ⟨_, _, _, hrun⟩ <;> rw [hrun] <;> exact .single (.of_eq rfl rfl)
  | memory f hf =>
    refine makes_modify fun s => ⟨hf.online.resolve_right hgreets s, ?_⟩
    rw [hf.memory s]
    rfl
  | summon _ hnot => exact absurd hloads hnot
  | response | policy => exact makes_modify fun s => .of_eq rfl rfl
  | sendTo address h => exact h.makes_sendTo (fun _ _ _ _ => .of_eq rfl rfl) address
  | forward address h => exact h.makes_forward (fun _ _ _ _ => .of_eq rfl rfl) address
  | greet _ h => exact absurd h hgreets
  | register _ h => exact absurd h hgreets

theorem Routine.ungreeted {α : Type} {x : Serve α} (h : Routine client powers x) (hloads : powers.loads)
    (hgreets : ¬ powers.greets) (s : Server) : Ungreeted s (x s).2 :=
  changes_related Ungreeted.refl Ungreeted.trans (fun _ _ h => h) (h.makes (makes_ungreeted_primitive hloads hgreets) s)

/-- What a request does whose handler greets nobody. -/
theorem ungreeted_handle (hgreets : ¬ request.Greets) (h : request.handle client s = (.ok (), t)) : Ungreeted s t := by
  obtain ⟨u, body, hcaught, _, rfl⟩ := handle_eq_ok h
  have hungreeted := (routine_handler client request).ungreeted trivial hgreets (s.receiving request)
  rcases caught_eq_ok hcaught with hrun | ⟨e, v, code, hrun, _, rfl⟩ <;> rw [hrun] at hungreeted <;>
    exact ⟨hungreeted.online, hungreeted.addresses⟩

end Ungreeted

section Greeting
variable {address : U16String} {request : Request}

/-- The request logs in the avatar of this name and address, as the tables have them. -/
def Request.LogsInAs (name address : U16String) : Request → Prop
  | .loginAvatar r => fromWideString r.name = fromWideString name ∧ fromWideString r.address = fromWideString address
  | .failoverReLoginAvatar r =>
    fromWideString r.name = fromWideString name ∧ fromWideString r.address = fromWideString address
  | _ => False

/-- The avatar may have come online, and if it is that of a game server, the client may have been registered for its
address. -/
structure Greeted (client : ClientId) (p : AvatarPtr) (s t : Server) : Prop where
  online : t.onlineAvatars ⊆ p :: s.onlineAvatars
  addresses : t.clientAddressMap = s.clientAddressMap ∨
    p.name = systemName ∧ t.clientAddressMap = Function.update s.clientAddressMap p.address (some client)

namespace Greeted

theorem refl (s : Server) : Greeted client p s s := ⟨List.subset_cons_self p _, .inl rfl⟩

theorem trans (h : Greeted client p s t) (h' : Greeted client p t u) : Greeted client p s u := by
  refine ⟨fun q hq => ?_, ?_⟩
  · rcases List.mem_cons.mp (h'.online hq) with rfl | hq
    · exact List.mem_cons_self
    · exact h.online hq
  · rcases h'.addresses with hsame | ⟨hsystem, hupdate⟩
    · rw [hsame]
      exact h.addresses
    · refine .inr ⟨hsystem, ?_⟩
      rcases h.addresses with hfirst | ⟨_, hfirst⟩
      · rw [hupdate, hfirst]
      · rw [hupdate, hfirst, Function.update_idem]

end Greeted

theorem Ungreeted.greeted (h : Ungreeted s t) : Greeted client p s t :=
  ⟨fun _ hq => List.mem_cons_of_mem p (h.online hq), .inl h.addresses⟩

section Steps

/-- No powers but over the tables and the cache. -/
private def idle : Powers := ⟨fun _ _ => True, False, fun _ => False, fun _ => False, False, True⟩

private theorem makes_greeted_routine {x : Serve PUnit} (h : Routine client idle x) : x.Makes (Greeted client p) :=
  fun s => .single (h.ungreeted trivial id s).greeted

private theorem makes_greeted_posting {x : Serve PUnit} (h : ∀ s, posting.Holds x s fun _ _ => True) :
    x.Makes (Greeted client p) := by
  intro s
  have hposted : Posted s (x s).2 := by
    rcases hrun : x s with ⟨_ | _, t⟩
    · exact (Ends.err_of_run (h s) hrun).2.1
    · exact (Ends.ok_of_run (h s) hrun).2.1
  exact .single (Ungreeted.of_eq (by rw [hposted.rest]) (by rw [hposted.rest])).greeted

theorem makes_greeted_loginAvatar : (loginAvatar p).Makes (Greeted client p) := by
  refine (makes_greeted_routine (routine_writeAvatar p fun _ => by rfl)).bind fun _ => ?_
  refine (makes_get.bind fun _ => makes_pure _).bind fun online => makes_ite (makes_pure _) ?_
  refine makes_modify fun s => ⟨fun q hq => ?_, .inl rfl⟩
  rcases List.mem_append.mp hq with hq | hq
  · exact List.mem_cons_of_mem p hq
  · exact List.mem_cons.mpr (.inl (List.mem_singleton.mp hq))

theorem makes_greeted_welcome : (Handler.welcome client p address).Makes (Greeted client p) := by
  rw [Handler.welcome]
  split
  · rename_i hsystem
    refine Makes.bind (makes_modify fun s => ⟨List.subset_cons_self p _, .inr ⟨hsystem, rfl⟩⟩) fun _ => ?_
    exact makes_greeted_routine (routine_loadRoomsFromStorage address)
  · exact makes_greeted_posting fun _ => posting_sendFriendLoginUpdates client p

end Steps

/-- The avatar that a login is for has the name and the address of the login. -/
theorem loginTarget_called (hs : Fit (fun _ => True) s) (name address : U16String) (userId attributes : UInt32)
    (loginLocation : U16String) :
    (Handler.loginTarget name address userId attributes loginLocation).Ends s
      (fun p _ => fromWideString name = fromWideString p.name ∧ fromWideString address = fromWideString p.address)
      fun _ _ => True := by
  rw [Handler.loginTarget, ends_bind]
  have hloads := fit_loads.getAvatar name address hs fun t row obj ht _ hsame _ _ _ _ _ hobj hlt =>
    ht.cached rfl rfl (fun a ha => hobj a (hsame ▸ ha)) hlt fun hrange => absurd trivial hrange
  refine Ends.mono hloads ?_ fun _ _ _ => trivial
  rintro (_ | p) t ⟨_, _, hfound⟩
  · refine Returns.ends ?_ t
    exact returns_bind fun _ => returns_bind fun _ => returns_bind fun _ => returns_pure ⟨rfl, rfl⟩
  · rcases hfound with ⟨_, hname, haddress, _⟩ | ⟨_, row, _, hname, haddress, _, ⟨obj, rfl⟩, _⟩
    · rw [ends_pure, hname, haddress]
      exact ⟨rfl, rfl⟩
    · exact ⟨hname.symm.trans (fromWideString_toWideString row.name).symm,
        haddress.symm.trans (fromWideString_toWideString row.address).symm⟩

/-- Whoever a login brings online has the name and the address of the login. -/
theorem login_greets (client : ClientId) (hs : Fit (fun _ => True) s) (name address : U16String)
    (userId attributes : UInt32) (loginLocation : U16String) {more : AvatarPtr → Serve Unit}
    (hmore : ∀ p q, (more q).Makes (Greeted client p)) : ∃ p : AvatarPtr,
      (fromWideString name = fromWideString p.name ∧ fromWideString address = fromWideString p.address) ∧
      Greeted client p s ((Handler.login client name address userId attributes loginLocation >>= more) s).2 := by
  have hquiet : Ungreeted s (Handler.loginTarget name address userId attributes loginLocation s).2 := by
    have hroutine : Routine client idle (Handler.loginTarget name address userId attributes loginLocation) := by
      refine (routine_getAvatar name address).bind fun found => ?_
      cases found with
      | some avatar => exact .pure _
      | none => exact routine_createAvatar _ fun _ => trivial
    exact hroutine.ungreeted trivial id s
  have hcalled := loginTarget_called hs name address userId attributes loginLocation
  rw [Handler.login, bind_assoc, bind_run]
  rcases hrun : Handler.loginTarget name address userId attributes loginLocation s with ⟨e | p, u⟩
  · rw [hrun] at hquiet
    exact ⟨⟨0, 0, name, address⟩, ⟨rfl, rfl⟩, hquiet.greeted⟩
  · rw [hrun] at hquiet
    have hp := Ends.ok_of_run hcalled hrun
    refine ⟨p, hp, hquiet.greeted.trans ?_⟩
    refine changes_related Greeted.refl Greeted.trans (fun _ _ h => h) (Makes.bind ?_ (hmore p) u)
    refine (makes_greeted_routine (routine_evaluatePolicyEvent _)).bind fun _ => ?_
    exact makes_greeted_loginAvatar.bind fun _ => makes_greeted_welcome.bind fun _ => makes_pure _

/-- What a login request does. -/
theorem greets_handle (hs : Fit (fun _ => True) s) (hgreets : request.Greets)
    (h : request.handle client s = (.ok (), t)) :
    ∃ p : AvatarPtr, request.LogsInAs p.name p.address ∧ Greeted client p s t := by
  have hhandler : ∃ p : AvatarPtr, request.LogsInAs p.name p.address ∧
      Greeted client p s (request.handler client (s.receiving request)).2 := by
    cases request with
    | loginAvatar r =>
      obtain ⟨p, hp, hgreeted⟩ := login_greets (s := s.receiving (.loginAvatar r)) client hs r.name
        r.address r.userId r.loginAttributes.toUInt32 r.loginLocation fun p q =>
          makes_greeted_routine (routine_setResponse (fun response => { response with avatar := some q })
            fun _ => ⟨rfl, rfl⟩)
      exact ⟨p, hp, hgreeted.online, hgreeted.addresses⟩
    | failoverReLoginAvatar r =>
      obtain ⟨p, hp, hgreeted⟩ := login_greets (s := s.receiving (.failoverReLoginAvatar r)) client hs
        r.name r.address r.userId r.attributes r.loginLocation fun p q =>
          (still_getJoinedRooms (some q)).makes.bind fun rooms =>
            makes_forM (fun room => makes_greeted_posting fun _ => posting_sendEnterRoomUpdate q room) rooms
      exact ⟨p, hp, hgreeted.online, hgreeted.addresses⟩
    | _ => exact absurd hgreets id
  obtain ⟨p, hp, hgreeted⟩ := hhandler
  obtain ⟨u, body, hcaught, _, rfl⟩ := handle_eq_ok h
  refine ⟨p, hp, ?_⟩
  rcases caught_eq_ok hcaught with hrun | ⟨e, v, code, hrun, _, rfl⟩ <;> rw [hrun] at hgreeted <;>
    exact ⟨hgreeted.online, hgreeted.addresses⟩

/-- One input. -/
theorem greeted_step (hs : Fit (fun _ => True) s) (h : s.step input = some t) : Ungreeted s t ∨
    (t.onlineAvatars = [] ∧ t.clientAddressMap = fun _ => none) ∨
    ∃ (client : ClientId) (request : Request) (time : UInt32) (clock : Nat) (p : AvatarPtr),
      input = .request client request time clock ∧ request.LogsInAs p.name p.address ∧ Greeted client p s t := by
  cases input with
  | request client request time clock =>
    obtain ⟨_, _, hrun⟩ := Server.step_request h
    by_cases hgreets : request.Greets
    · obtain ⟨p, hp, hgreeted⟩ := greets_handle (s := s.atTime time clock) hs hgreets hrun
      exact .inr (.inr ⟨client, request, time, clock, p, rfl, hp, hgreeted.online, hgreeted.addresses⟩)
    · have hungreeted := ungreeted_handle hgreets hrun
      exact .inl ⟨hungreeted.online, hungreeted.addresses⟩
  | connect | tick =>
    obtain rfl := Option.some.inj h
    exact .inl (.of_eq rfl rfl)
  | disconnect c =>
    obtain ⟨_, rfl⟩ := Server.step_disconnect h
    exact .inl (.of_eq rfl rfl)
  | restart =>
    obtain rfl := Option.some.inj h
    exact .inr (.inl ⟨rfl, rfl⟩)

/-- Somebody logs the avatar in. -/
def LoggedIn (p : AvatarPtr) (_ : Server) : Input → Server → Prop
  | .request _ request _ _, _ => request.LogsInAs p.name p.address
  | _, _ => False

/-- The client logs in as the game server of the address. -/
def Announced (address : U16String) (client : ClientId) (_ : Server) : Input → Server → Prop
  | .request c request _ _, _ => c = client ∧ request.LogsInAs systemName address
  | _, _ => False

section Runs
variable {db : Database} {fails : Nat → Bool} {version : UInt32} {config : Policy.Config}

/-- Everybody who is online was logged in by name and address, and has been online since. -/
theorem online_have_logged_in (hdb : db.Referential)
    (h : runInputs Server.step (Server.start db fails version config) inputs = some t) (ht : p ∈ t.onlineAvatars) :
    HeldSince Server.step (fun s => p ∈ s.onlineAvatars) (LoggedIn p) (Server.start db fails version config) inputs := by
  refine heldSince (fun s i _ hs hstep => fit_step hs (admitted_any s i) hstep) ?_ (fit_reaches_any hdb .refl) h
    (by simp [Server.start]) ht
  intro s i t hs hstep hnot ht
  rcases greeted_step hs hstep with hungreeted | ⟨hnobody, _⟩ | ⟨client, request, time, clock, q, rfl, hq, hgreeted⟩
  · exact absurd (hungreeted.online ht) hnot
  · exact absurd ht (hnobody ▸ List.not_mem_nil)
  · rcases List.mem_cons.mp (hgreeted.online ht) with rfl | hp
    · exact hq
    · exact absurd hp hnot

theorem online_have_logged_in_one : ∃ p : AvatarPtr, p.avatarId = 3 ∧
    HeldSince Server.step (fun s => p ∈ s.onlineAvatars) (LoggedIn p) Server.blank audienceRun := by
  have hrun : (runInputs Server.step Server.blank audienceRun).any
      (fun t => t.onlineAvatars.any (·.avatarId == 3)) = true := by decide +kernel
  obtain ⟨t, hrun, honline⟩ := (Option.any_eq_true _ _).mp hrun
  obtain ⟨p, hp, hid⟩ := List.any_eq_true.mp honline
  exact ⟨p, beq_iff_eq.mp hid, online_have_logged_in Database.referential_empty hrun hp⟩

/-- The client that the messages for an address go to logged in as the game server of that address, and no other
has done so since. -/
theorem addresses_are_announced (hdb : db.Referential)
    (h : runInputs Server.step (Server.start db fails version config) inputs = some t)
    (ht : t.clientAddressMap address = some c) : HeldSince Server.step (fun s => s.clientAddressMap address = some c)
      (Announced address c) (Server.start db fails version config) inputs := by
  refine heldSince (fun s i _ hs hstep => fit_step hs (admitted_any s i) hstep) ?_ (fit_reaches_any hdb .refl) h
    (by simp [Server.start]) ht
  intro s i t hs hstep hnot ht
  rcases greeted_step hs hstep with hungreeted | ⟨_, hnone⟩ | ⟨client, request, time, clock, q, rfl, hq, hgreeted⟩
  · exact absurd (hungreeted.addresses ▸ ht) hnot
  · exact absurd (hnone ▸ ht) (by simp)
  · rcases hgreeted.addresses with hsame | ⟨hsystem, hupdate⟩
    · exact absurd (hsame ▸ ht) hnot
    · by_cases haddress : address = q.address
      · rw [hupdate, haddress, Function.update_self] at ht
        rw [hsystem, ← haddress] at hq
        exact ⟨Option.some.inj ht, hq⟩
      · rw [hupdate, Function.update_of_ne haddress] at ht
        exact absurd ht hnot

theorem addresses_are_announced_one : HeldSince Server.step (fun s => s.clientAddressMap [0x62] = some 1)
    (Announced [0x62] 1) Server.blank audienceRun := by
  have hrun : (runInputs Server.step Server.blank audienceRun).any
      (fun t => decide (t.clientAddressMap [0x62] = some 1)) = true := by decide +kernel
  obtain ⟨t, hrun, hin⟩ := (Option.any_eq_true _ _).mp hrun
  exact addresses_are_announced Database.referential_empty hrun (of_decide_eq_true hin)

end Runs
end Greeting

section Leaving
variable {powers : Powers} {may : UInt32 → Prop}

/-- Nobody went offline but those who `may`. -/
def Stayed (may : UInt32 → Prop) (s t : Server) : Prop :=
  ∀ p ∈ s.onlineAvatars, p ∈ t.onlineAvatars ∨ may p.avatarId

namespace Stayed

theorem of_eq (h : t.onlineAvatars = s.onlineAvatars) : Stayed may s t := fun _ hp => .inl (h ▸ hp)

theorem refl (s : Server) : Stayed may s s := of_eq rfl

theorem trans (h : Stayed may s t) (h' : Stayed may t u) : Stayed may s u := by
  intro p hp
  rcases h p hp with hp | hmay
  · exact h' p hp
  · exact .inr hmay

end Stayed

theorem makes_stayed_primitive (hloads : powers.loads) (α : Type) (x : Serve α) (h : Primitive client powers α x) :
    x.Makes (Stayed powers.departs) := by
  have hsame (s t : Server) (_ : t.db = s.db) (_ : t.rooms = s.rooms) (honline : t.onlineAvatars = s.onlineAvatars) :
      Stayed powers.departs s t := .of_eq honline
  refine h.makes hloads hsame (fun β statement _ => ?_) fun f hf s => hf.offline s
  exact makes_statement hsame fun s t _ _ _ honline => .of_eq honline

/-- Whom a request takes offline. -/
theorem stayed_handle (h : request.handle client s = (.ok (), t)) : Stayed request.Departs s t := by
  obtain ⟨u, body, hcaught, _, rfl⟩ := handle_eq_ok h
  have hmakes := (routine_handler client request).makes (makes_stayed_primitive trivial) (s.receiving request)
  have hstayed := changes_related Stayed.refl Stayed.trans (fun _ _ h => h) hmakes
  rcases caught_eq_ok hcaught with hrun | ⟨e, v, code, hrun, _, rfl⟩ <;> rw [hrun] at hstayed <;> exact hstayed

/-- The avatar logs out, or the process ends. -/
def Left (p : AvatarPtr) (_ : Server) : Input → Server → Prop
  | .request _ request _ _, _ => request.Departs p.avatarId
  | .restart, _ => True
  | _, _ => False

/-- Everybody who was online and is not any more logged out, or the process ended, and has been offline since. -/
theorem offline_have_logged_out (h : runInputs Server.step s inputs = some t) (hs : p ∈ s.onlineAvatars)
    (ht : p ∉ t.onlineAvatars) : HeldSince Server.step (fun s => p ∉ s.onlineAvatars) (Left p) s inputs := by
  refine heldSince (I := fun _ => True) (fun _ _ _ _ _ => trivial) ?_ trivial h (not_not_intro hs) ht
  intro s input t _ hstep hwas hnot
  have hp : p ∈ s.onlineAvatars := not_not.mp hwas
  cases input with
  | request client request time clock =>
    have hstayed := stayed_handle (s := s.atTime time clock) (Server.step_request hstep).2.2
    exact (hstayed p hp).resolve_left hnot
  | connect | tick =>
    obtain rfl := Option.some.inj hstep
    exact absurd hp hnot
  | disconnect c =>
    obtain ⟨_, rfl⟩ := Server.step_disconnect hstep
    exact absurd hp hnot
  | restart => trivial

theorem offline_have_logged_out_one : ∃ (s : Server) (p : AvatarPtr),
    runInputs Server.step Server.blank audienceRun = some s ∧ p.avatarId = 3 ∧
      HeldSince Server.step (fun s => p ∉ s.onlineAvatars) (Left p) s [.request 0 (.logoutAvatar ⟨8, 3⟩) 0 0] := by
  have hrun : (runInputs Server.step Server.blank audienceRun).any (fun s => s.onlineAvatars.any (·.avatarId == 3) &&
      (runInputs Server.step s [.request 0 (.logoutAvatar ⟨8, 3⟩) 0 0]).any
        fun t => t.onlineAvatars.all (·.avatarId != 3)) = true := by decide +kernel
  obtain ⟨s, hs, hboth⟩ := (Option.any_eq_true _ _).mp hrun
  obtain ⟨honline, hthen⟩ := Bool.and_eq_true_iff.mp hboth
  obtain ⟨p, hp, hid⟩ := List.any_eq_true.mp honline
  obtain ⟨t, ht, hoffline⟩ := (Option.any_eq_true _ _).mp hthen
  refine ⟨s, p, hs, beq_iff_eq.mp hid, offline_have_logged_out ht hp fun hp => ?_⟩
  exact bne_iff_ne.mp (List.all_eq_true.mp hoffline p hp) (beq_iff_eq.mp hid)

end Leaving
end StationChat
