import StationChat.Avatars.Online
import StationChat.Gateway.Safety

/-! The flags of the avatars over whole runs of the gateway. A run may cache an avatar twice; until it
does, the flags and the online list agree. -/
namespace StationChat
open Lib Lib.Action Lib.Contract Relation

variable {s t u : Server} {p : AvatarPtr}

/-- Avatars are not cached less often, and while none is cached twice the flags stay right. -/
def KeepsFlags (s t : Server) : Prop := t.Unduplicated → s.Unduplicated ∧ (Flagged s → Flagged t)

theorem KeepsFlags.refl (s : Server) : KeepsFlags s s := fun h => ⟨h, id⟩

theorem KeepsFlags.trans (h : KeepsFlags s t) (h' : KeepsFlags t u) : KeepsFlags s u := by
  intro hu
  obtain ⟨ht, hflags'⟩ := h' hu
  obtain ⟨hs, hflags⟩ := h ht
  exact ⟨hs, fun hf => hflags' (hflags hf)⟩

section Changes

/-- What is not about presence. -/
theorem keepsFlags_change {housing speaking : Prop} (h : Change housing speaking False s t) :
    KeepsFlags s t := by
  cases h with
  | cached avatar hoffline =>
    intro ht
    have hids := ht
    rw [Server.Unduplicated, Server.cached, List.map_append, List.nodup_append] at hids
    refine ⟨hids.1, fun hs => hs.entered rfl rfl hoffline fun a ha heq => ?_⟩
    exact hids.2.2 _ (List.mem_map_of_mem ha) _ (List.mem_map_of_mem (List.mem_singleton_self _)) heq
  | avatar p f hself hkept =>
    intro ht
    have hselves := selves_updateAvatar (s := s) (p := p) hself
    refine ⟨unduplicated_of_selves_eq hselves.symm ht, fun hs => hs.rewritten ?_ rfl⟩
    exact presence_updateAvatar hself (hkept.resolve_right id)
  | online _ h => exact h.elim
  | _ => exact fun ht => ⟨ht, fun hs => hs.rewritten rfl rfl⟩

theorem keepsFlags_makes {α : Type} {x : Serve α} (h : x.Makes (Change True True False)) :
    x.Makes KeepsFlags :=
  h.mono fun _ _ => keepsFlags_change

private theorem keepsFlags_of_selves (hselves : t.avatarCache.map (·.self) = s.avatarCache.map (·.self))
    (h : s.Unduplicated → Flagged s → Flagged t) : KeepsFlags s t := by
  intro ht
  have hs := unduplicated_of_selves_eq hselves.symm ht
  exact ⟨hs, h hs⟩

theorem keepsFlags_loginAvatar (hallocated : Allocated s.avatarCache s.objects)
    (hp : Live s.avatarCache p) : KeepsFlags s (loginAvatar p s).2 := by
  obtain ⟨a, _, _, hobject⟩ := avatar?_of_live hallocated hp
  rw [loginAvatar_run hobject]
  apply keepsFlags_of_selves
  · exact selves_updateAvatar fun _ => rfl
  · exact fun hunique hs => hs.loggedIn hallocated hunique hp

theorem keepsFlags_logoutAvatar (hallocated : Allocated s.avatarCache s.objects)
    (hp : Live s.avatarCache p) : KeepsFlags s (logoutAvatar (some p) s).2 := by
  obtain ⟨a, _, _, hobject⟩ := avatar?_of_live hallocated hp
  rw [logoutAvatar_run hobject]
  cases a.isOnline with
  | false => exact KeepsFlags.refl s
  | true =>
    apply keepsFlags_of_selves
    · exact selves_updateAvatar fun _ => rfl
    · exact fun hunique hs => hs.loggedOut hallocated hunique hp

end Changes

section Requests

/-- A login writes the flag of the avatar its lookup returns. -/
theorem keepsFlags_login (hs : Fit (fun _ => True) s) (client : ClientId) (name address : U16String)
    (userId attributes : UInt32) (loginLocation : U16String) :
    ReflTransGen KeepsFlags s
      (Handler.login client name address userId attributes loginLocation s).2 := by
  refine changes_bind (keepsFlags_makes (Handler.makes_loginTarget _ _ _ _ _) s) fun avatar t hrun => ?_
  have hholds : (gateway (fun _ => True) False).Holds
      (Handler.loginTarget name address userId attributes loginLocation) s fun p t => Live t.avatarCache p :=
    holds_loginTarget hs fun h => absurd trivial h
  obtain ⟨hfit, _, hlive⟩ := hholds.ok_of_run hrun
  have hallocated := Fit.allocated (P := fun _ => True) hfit
  refine changes_bind (keepsFlags_makes (makes_evaluatePolicyEvent _) t) fun _ u hpolicy => ?_
  obtain rfl := (Prod.mk.inj hpolicy).2
  refine changes_bind (.single (keepsFlags_loginAvatar hallocated hlive)) fun _ v _ => ?_
  have hwelcome : (Handler.welcome client avatar address).Makes KeepsFlags :=
    keepsFlags_makes (Handler.makes_welcome client avatar address fun _ => trivial)
  exact hwelcome.bind (fun _ => makes_pure avatar) v

/-- A logout writes the flag of the avatar its lookup returns. -/
theorem keepsFlags_logout (hs : Fit (fun _ => True) s) (request : ReqLogoutAvatar) :
    ReflTransGen KeepsFlags s (Handler.logoutAvatar request s).2 := by
  refine changes_bind (keepsFlags_makes (makes_getAvatarById _) s) fun found t hrun => ?_
  obtain ⟨hfit, _, hfound⟩ := (fit_loads.getAvatarById request.avatarId hs).ok_of_run hrun
  have hallocated := Fit.allocated (P := fun _ => True) hfit
  refine changes_bind (keepsFlags_makes (makes_leaveJoinedRooms found) t) fun _ u hleave => ?_
  refine changes_bind (keepsFlags_makes (makes_sendFriendLogoutUpdates found) u) fun _ v hsend => ?_
  cases found with
  | none => exact .refl
  | some p =>
    have hleft := (leaveJoinedRooms_run hleave).1
    have hposted := (posted_of_run (posting_sendFriendLogoutUpdates _) hsend).1.rest
    rw [hposted, hleft]
    exact .single (keepsFlags_logoutAvatar hallocated hfound.live)

/-- Whatever the request is. -/
theorem keepsFlags_handler (hs : Fit (fun _ => True) s) (client : ClientId) (request : Request) :
    ReflTransGen KeepsFlags s (request.handler client s).2 := by
  cases request with
  | loginAvatar r =>
    exact changes_bind (keepsFlags_login hs client _ _ _ _ _) fun _ t _ =>
      keepsFlags_makes (makes_setResponse _) t
  | failoverReLoginAvatar r =>
    refine changes_bind (keepsFlags_login hs client _ _ _ _ _) fun avatar t _ => ?_
    refine Makes.bind (still_getJoinedRooms _).makes (fun rooms => keepsFlags_makes ?_) t
    exact makes_forM (fun room => makes_sendEnterRoomUpdate avatar room) rooms
  | logoutAvatar r => exact keepsFlags_logout hs r
  | _ => exact keepsFlags_makes (makes_handler client _ (fun _ => trivial) (fun _ => trivial) id) s

theorem keepsFlags_handle (hs : Fit (fun _ => True) s) (client : ClientId) (request : Request) :
    KeepsFlags s (request.handle client s).2 := by
  have hchanges := changes_handle (fun _ _ => keepsFlags_change) client request
    (keepsFlags_handler (s := s.receiving request) hs client request)
  exact changes_related KeepsFlags.refl KeepsFlags.trans (fun _ _ h => h) hchanges

end Requests

section Runs
variable {db : Database} {fails : Nat → Bool} {version : UInt32} {config : Policy.Config}

theorem keepsFlags_step {input : Input} (hs : Fit (fun _ => True) s) (h : s.step input = some t) :
    (s.Unduplicated → Flagged s) → t.Unduplicated → Flagged t := by
  intro hflags ht
  cases input with
  | connect | tick =>
    obtain rfl := Option.some.inj h
    exact (hflags ht).rewritten rfl rfl
  | disconnect client =>
    obtain ⟨_, rfl⟩ := Server.step_disconnect h
    exact (hflags ht).rewritten rfl rfl
  | restart =>
    obtain rfl := Option.some.inj h
    exact ⟨fun _ ha => absurd ha List.not_mem_nil, List.nodup_nil, fun _ hp => absurd hp List.not_mem_nil⟩
  | request client request time steadyClock =>
    obtain ⟨_, _, hrun⟩ := Server.step_request h
    have hkeeps := keepsFlags_handle (s := s.atTime time steadyClock) hs client request
    rw [hrun] at hkeeps
    obtain ⟨hs, hflagged⟩ := hkeeps ht
    exact hflagged ((hflags hs).rewritten rfl rfl)

/-- In every state with one cached object for each id. -/
theorem flagged_reaches (hdb : db.Referential)
    (h : Server.Reaches Server.AnyInput (Server.start db fails version config) s) :
    s.Unduplicated → Flagged s := by
  induction h with
  | refl =>
    exact fun _ => ⟨fun _ ha => absurd ha List.not_mem_nil, List.nodup_nil,
      fun _ hp => absurd hp List.not_mem_nil⟩
  | tail hreach hlast ih =>
    obtain ⟨input, _, hstep⟩ := hlast
    exact keepsFlags_step (fit_reaches_any hdb hreach) hstep ih

end Runs
end StationChat
