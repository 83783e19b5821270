import StationChat.Gateway.Answering

/-! Runs of the gateway: what every input preserves, and from it what holds of every state a run
reaches. -/
namespace StationChat
open Lib Lib.Action Lib.Contract

variable {P : Exn → Prop} {s t : Server}

namespace Server

/-- The clients that are registered for an address stay connected. -/
def KeepsRegistered (s : Server) : Prop :=
  ∀ address client, s.clientAddressMap address = some client → client ∉ s.disconnected

/-- The inputs that lead to tolerated trouble only. -/
def Admitted (P : Exn → Prop) (s : Server) : Input → Prop
  | .request _ request time steadyClock => request.Admissible P (s.atTime time steadyClock)
  | .tick => ¬ P .dangling → s.KeepsRegistered
  | _ => True

/-- Any input whatsoever. -/
def AnyInput (_ : Server) (_ : Input) : Prop := True

end Server

section Steps

theorem fit_start {db : Database} (fails : Nat → Bool) (version : UInt32) (config : Policy.Config)
    (hdb : db.Good (P .outOfRange)) : Fit P (Server.start db fails version config) := by
  refine ⟨⟨hdb.1, ⟨?_, ?_⟩, ?_, ?_, ?_, ?_⟩, fun hr => ⟨hdb.2 hr, ?_⟩, fun _ a c h => ?_, fun _ r hr => ?_⟩
  all_goals simp [Server.start] at *

theorem fit_restart (hs : Fit P s) : Fit P s.restart := by
  refine ⟨⟨hs.1.referential, ⟨?_, ?_⟩, ?_, ?_, ?_, ?_⟩, fun hr => ⟨(hs.inRange hr).tables, ?_⟩,
    fun _ a c h => ?_, fun _ r hr => ?_⟩
  all_goals simp [Server.restart, Server.start] at *

theorem fit_connect (hs : Fit P s) : Fit P s.connect := by
  refine ⟨{ hs.1 with allocated := ⟨fun a ha => ?_, hs.allocated.distinct⟩ }, hs.2.1,
    fun hd a c hc => ?_, hs.2.2.2⟩
  · exact Nat.lt_succ_of_lt (hs.allocated.below a ha)
  · exact List.mem_append_left _ (hs.routed hd a c hc)

theorem fit_tick (hs : Fit P s) (hkeep : ¬ P .dangling → s.KeepsRegistered) : Fit P s.tick := by
  refine ⟨hs.1, hs.2.1, fun hd a c hc => ?_, hs.2.2.2⟩
  have hmem := hs.routed hd a c hc
  have hgone := hkeep hd a c hc
  exact List.mem_filter.mpr ⟨hmem, by simpa using hgone⟩

/-- One input. -/
theorem fit_step {input : Input} (hs : Fit P s) (ha : s.Admitted P input)
    (h : s.step input = some t) : Fit P t := by
  cases input with
  | connect =>
    obtain rfl := Option.some.inj h
    exact fit_connect hs
  | request client request time steadyClock =>
    obtain ⟨hclient, _, hrun⟩ := Server.step_request h
    exact ((handle_ends (s := s.atTime time steadyClock) request hs hclient ha).ok_of_run hrun).1
  | disconnect client =>
    obtain ⟨_, rfl⟩ := Server.step_disconnect h
    exact hs
  | tick =>
    obtain rfl := Option.some.inj h
    exact fit_tick hs ha
  | restart =>
    obtain rfl := Option.some.inj h
    exact fit_restart hs

/-- A whole run. -/
theorem fit_reaches {db : Database} {fails : Nat → Bool} {version : UInt32} {config : Policy.Config}
    (hdb : db.Good (P .outOfRange))
    (h : Server.Reaches (Server.Admitted P) (Server.start db fails version config) s) : Fit P s :=
  Runs.invariant h (fit_start fails version config hdb) fun _ _ _ hi ha hstep => fit_step hi ha hstep

theorem admitted_any (s : Server) (input : Input) : s.Admitted (fun _ => True) input := by
  cases input with
  | request => exact ⟨fun hn => absurd trivial hn, fun hn => absurd trivial hn,
      fun hn => absurd trivial hn, fun hn => absurd trivial hn⟩
  | tick => exact fun hn => absurd trivial hn
  | _ => trivial

/-- Whatever the requests are, pointers stay good. -/
theorem fit_reaches_any {db : Database} {fails : Nat → Bool} {version : UInt32} {config : Policy.Config}
    (hdb : db.Referential)
    (h : Server.Reaches Server.AnyInput (Server.start db fails version config) s) :
    Fit (fun _ => True) s :=
  fit_reaches ⟨hdb, fun hr => absurd trivial hr⟩ (h.mono fun s input _ => admitted_any s input)

end Steps
end StationChat
