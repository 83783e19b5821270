import StationChat.Gateway.Outbox

/-! One request from its handler through the two `catch` clauses to the encoding of its response. -/
namespace StationChat
open Lib Lib.Action Lib.Contract

/-- The response is constructed. -/
def Server.receiving (s : Server) (request : Request) : Server :=
  { s with response := { type := request.type, track := request.track } }

/-- The result code of an exception that is caught. -/
def Exn.resultCode : Exn → Option ChatResultCode
  | .chatResult code _ => some code
  | .database => some .database
  | _ => none

def Server.withResult (s : Server) (code : ChatResultCode) : Server :=
  { s with response := { s.response with result := code } }

/-- A handler with the two `catch` clauses behind it. -/
def caught (handler : Serve Unit) : Serve Unit :=
  tryCatch handler fun
    | .chatResult code _ => setResponse fun r => { r with result := code }
    | .database => setResponse fun r => { r with result := .database }
    | e => throw e

section Catching
variable {handler : Serve Unit} {s t u : Server}

theorem caught_of_ok (h : handler s = (.ok (), t)) : caught handler s = (.ok (), t) := by
  rw [caught, tryCatch_run, h]

theorem caught_of_error {e : Exn} {code : ChatResultCode} (h : handler s = (.error e, t))
    (hcode : e.resultCode = some code) : caught handler s = (.ok (), t.withResult code) := by
  rw [caught, tryCatch_run, h]
  cases e with
  | chatResult code' message =>
    obtain rfl := Option.some.inj hcode
    rfl
  | database =>
    obtain rfl := Option.some.inj hcode
    rfl
  | outOfRange | nullPointer | unsetService | dangling | freedRoom | outOfFuel =>
    exact absurd hcode (by simp [Exn.resultCode])

theorem caught_of_uncaught {e : Exn} (h : handler s = (.error e, t)) (hcode : e.resultCode = none) :
    caught handler s = (.error e, t) := by
  rw [caught, tryCatch_run, h]
  cases e with
  | chatResult code message => exact absurd hcode (by simp [Exn.resultCode])
  | database => exact absurd hcode (by simp [Exn.resultCode])
  | outOfRange | nullPointer | unsetService | dangling | freedRoom | outOfFuel => rfl

/-- A request that is answered had a handler that returned, or one that threw what is caught. -/
theorem caught_eq_ok (h : caught handler s = (.ok (), u)) :
    handler s = (.ok (), u) ∨ ∃ e t code, handler s = (.error e, t) ∧ e.resultCode = some code ∧
      u = t.withResult code := by
  rcases hrun : handler s with ⟨e | _, t⟩
  · cases hcode : e.resultCode with
    | some code =>
      rw [caught_of_error hrun hcode] at h
      exact .inr ⟨e, t, code, rfl, hcode, (Prod.mk.inj h).2.symm⟩
    | none =>
      rw [caught_of_uncaught hrun hcode] at h
      exact absurd h (by simp)
  · rw [caught_of_ok hrun] at h
    rw [(Prod.mk.inj h).2]
    exact .inl rfl

end Catching

section Answer
variable {client : ClientId} {request : Request} {s t : Server}

theorem still_mapM_readAvatar (l : List AvatarPtr) : Still (l.mapM readAvatar) :=
  still_mapM still_readAvatar l

theorem still_roomImage (room : ChatRoom) : Still (roomImage room) :=
  (still_mapM_readAvatar _).bind fun _ => (still_mapM_readAvatar _).bind fun _ =>
    (still_mapM_readAvatar _).bind fun _ => (still_mapM_readAvatar _).bind fun _ =>
      (still_mapM_readAvatar _).bind fun _ => (still_mapM_readAvatar _).bind fun _ =>
        (still_mapM_readAvatar _).bind fun _ => still_pure _

theorem still_friendEntry (contact : FriendContact) : Still (friendEntry contact) :=
  (still_deref _).bind fun _ => (still_readAvatar _).bind fun _ => still_pure _

theorem still_ignoreEntry (contact : IgnoreContact) : Still (ignoreEntry contact) :=
  (still_deref _).bind fun _ => still_pure _

theorem still_roomSummary (room : RoomPtr) : Still (roomSummary room) :=
  (still_readRoom _).bind fun _ => still_pure _

/-- Encoding a response only reads. -/
theorem still_responseBody (r : Response) : Still (responseBody r) := by
  unfold responseBody
  cases r.type
  case loginAvatar | setAvatarAttributes | getAnyAvatar =>
    apply still_ite
    · exact (still_deref _).bind fun _ => (still_readAvatar _).bind fun _ => still_pure _
    · exact still_pure _
  case createRoom | getRoom =>
    apply still_ite
    · exact (still_deref _).bind fun _ => (still_readRoom _).bind fun _ =>
        (still_roomImage _).bind fun _ => still_pure _
    · exact still_pure _
  case friendStatus =>
    dsimp only
    split
    · exact (still_readAvatar _).bind fun _ => (still_mapM still_friendEntry _).bind fun _ => still_pure _
    · exact still_pure _
  case ignoreStatus =>
    dsimp only
    split
    · exact (still_readAvatar _).bind fun _ => (still_mapM still_ignoreEntry _).bind fun _ => still_pure _
    · exact still_pure _
  case getRoomSummaries => exact (still_mapM still_roomSummary _).bind fun _ => still_pure _
  case getPersistentMessage =>
    apply still_ite
    · exact (still_deref _).bind fun _ => still_pure _
    · exact still_pure _
  case sendPersistentMessage => exact still_ite (still_pure _) (still_pure _)
  all_goals exact still_pure _

/-- The last message of an answered request is its response, encoded where the handler ended. -/
theorem handle_eq_ok (h : request.handle client s = (.ok (), t)) :
    ∃ u body, caught (request.handler client) (s.receiving request) = (.ok (), u) ∧
      responseBody u.response u = (.ok body, u) ∧ t = { u with sent := u.sent ++
        [(client, .response u.response.type u.response.track u.response.result body)] } := by
  have hhandle : request.handle client s = (caught (request.handler client) >>= fun _ => do
      let response := (← get).response
      let body ← responseBody response
      send client (.response response.type response.track response.result body)) (s.receiving request) := rfl
  rw [hhandle] at h
  rcases hcaught : caught (request.handler client) (s.receiving request) with ⟨e | _, u⟩
  · rw [bind_error hcaught] at h
    exact absurd h (by simp)
  · rw [bind_ok hcaught, get_bind_run] at h
    have hstill := still_responseBody u.response u
    rcases hbody : responseBody u.response u with ⟨e | body, v⟩
    · rw [bind_error hbody] at h
      exact absurd h (by simp)
    · rw [hbody] at hstill
      obtain rfl : v = u := hstill
      rw [bind_ok hbody] at h
      exact ⟨v, body, rfl, hbody, (Prod.mk.inj h).2.symm⟩

theorem handle_of_caught {u : Server} {body : ResponseBody}
    (hcaught : caught (request.handler client) (s.receiving request) = (.ok (), u))
    (hbody : responseBody u.response u = (.ok body, u)) :
    request.handle client s = (.ok (), { u with sent := u.sent ++
      [(client, .response u.response.type u.response.track u.response.result body)] }) := by
  have hhandle : request.handle client s = (caught (request.handler client) >>= fun _ => do
      let response := (← get).response
      let body ← responseBody response
      send client (.response response.type response.track response.result body)) (s.receiving request) := rfl
  rw [hhandle, bind_ok hcaught, get_bind_run, bind_ok hbody]
  rfl

end Answer
end StationChat
