import StationChat.Lib.Contract
import StationChat.Protocol.Handlers

/-! The gateway as a transition system over what reaches it from outside. -/
namespace StationChat
open Lib

/-- `connect` is `OnConnectRequest`; `tick` is the part of `Tick` after `GiveTime`, whose callbacks
are the other inputs. A request arrives with the readings of the two clocks. -/
inductive Input where
  | connect
  | request (client : ClientId) (request : Request) (time : UInt32) (steadyClock : Nat)
  | disconnect (client : ClientId)
  | tick
  | restart
  deriving DecidableEq, Repr

namespace Server

def connect (s : Server) : Server :=
  { s with clients := s.clients ++ [s.objects], objects := s.objects + 1 }

def disconnect (s : Server) (client : ClientId) : Server :=
  { s with disconnected := client :: s.disconnected }

/-- The clients whose connection is disconnected are destroyed. -/
def tick (s : Server) : Server :=
  { s with clients := s.clients.filter fun client => client ∉ s.disconnected }

def atTime (s : Server) (time : UInt32) (steadyClock : Nat) : Server :=
  { s with time, steadyClock }

/-- One input. There is no next state if the process does not survive it, or if the input cannot
occur. -/
def step (s : Server) : Input → Option Server
  | .connect => some s.connect
  | .request client request time steadyClock =>
    if client ∈ s.clients ∧ client ∉ s.disconnected then
      match request.handle client (s.atTime time steadyClock) with
      | (.ok _, t) => some t
      | (.error _, _) => none
    else none
  | .disconnect client => if client ∈ s.clients then some (s.disconnect client) else none
  | .tick => some s.tick
  | .restart => some s.restart

/-- Runs of the gateway whose every input is admitted where it arrives. -/
def Reaches (admitted : Server → Input → Prop) : Server → Server → Prop := Runs step admitted

theorem step_request {s t : Server} {client : ClientId} {request : Request} {time : UInt32}
    {steadyClock : Nat} (h : s.step (.request client request time steadyClock) = some t) :
    client ∈ s.clients ∧ client ∉ s.disconnected ∧
      request.handle client (s.atTime time steadyClock) = (.ok (), t) := by
  simp only [step] at h
  split at h
  · rename_i hc
    refine ⟨hc.1, hc.2, ?_⟩
    split at h
    · rename_i ht
      rw [ht, Option.some.inj h]
    · exact absurd h (by simp)
  · exact absurd h (by simp)

theorem step_disconnect {s t : Server} {client : ClientId}
    (h : s.step (.disconnect client) = some t) : client ∈ s.clients ∧ t = s.disconnect client := by
  simp only [step] at h
  split at h
  · rename_i hc
    exact ⟨hc, (Option.some.inj h).symm⟩
  · exact absurd h (by simp)

end Server
end StationChat
