import StationChat.Lib.Action
import StationChat.Model.Database
import StationChat.Model.Messages
import StationChat.Model.PolicyEngine

/-! The state of the server process and the steps every service is built from: executing a
statement, reading an integer column, following a pointer, reading and writing an object. -/
namespace StationChat
open Lib

/-- How a computation ends early. The last six are no exceptions the handlers catch; all but
`outOfRange` stand for undefined behaviour, and `outOfFuel` for a recursion that goes on. -/
inductive Exn where
  | chatResult (code : ChatResultCode) (message : StdString)
  | database
  | outOfRange
  | nullPointer
  | unsetService
  | dangling
  | freedRoom
  | outOfFuel
  deriving DecidableEq, Repr

/-- A `GatewayClient` object, one for each connection. -/
abbrev ClientId := Nat

/-- The whole process: the database with its failure schedule, the caches of the services, the
clients of the node and what was sent to each. `executed`, `failures` and `roleKeys` record the
statements; `objects` names the next avatar or client object; `response` is the response of the
request being handled. -/
structure Server where
  db : Database
  fails : Nat → Bool
  executed : Nat
  failures : Nat
  roleKeys : List (RoleTable × UInt32)
  avatarCache : List ChatAvatar
  onlineAvatars : List AvatarPtr
  objects : Nat
  rooms : List ChatRoom
  nextRoomId : UInt32
  clients : List ClientId
  disconnected : List ClientId
  clientAddressMap : U16String → Option ClientId
  sent : List (ClientId × Outgoing)
  response : Response
  time : UInt32
  steadyClock : Nat
  version : UInt32
  policyConfig : Policy.Config
  recentActions : Policy.RecentActions

/-- Computations of the server. -/
abbrev Serve := Action Server Exn

/-- A server that has just started over `db`. -/
def Server.start (db : Database) (fails : Nat → Bool) (version : UInt32)
    (policyConfig : Policy.Config) : Server where
  db := db
  fails := fails
  executed := 0
  failures := 0
  roleKeys := []
  avatarCache := []
  onlineAvatars := []
  objects := 0
  rooms := []
  nextRoomId := 0
  clients := []
  disconnected := []
  clientAddressMap := fun _ => none
  sent := []
  response := ⟨.loginAvatar, 0, .success, none, none, none, none, [], [], none, none, none⟩
  time := 0
  steadyClock := 0
  version := version
  policyConfig := policyConfig
  recentActions := fun _ => []

/-- The process ends and a new one starts over the same tables. -/
def Server.restart (s : Server) : Server :=
  { Server.start s.db s.fails s.version s.policyConfig with
    executed := s.executed
    failures := s.failures
    roleKeys := s.roleKeys
    objects := s.objects
    sent := s.sent }

def Server.attempt {α : Type} (s : Server) (statement : Statement α) : Server :=
  { s with
    executed := s.executed + 1
    roleKeys := s.roleKeys ++ statement.roleKey.toList }

/-- Executing a statement. One that fails, by the schedule or by a constraint, changes no row: the connection that is
lost behind a statement already applied is left to `MariaDbStatement::Step`. -/
def execute {α : Type} (statement : Statement α) : Serve α := fun s =>
  match if s.fails s.executed then none else s.db.run statement with
  | none => (.error .database, { s.attempt statement with failures := s.failures + 1 })
  | some (a, db) => (.ok a, { s.attempt statement with db := db })

/-- `ColumnInt`: `std::stoi` reads an `int`, and the caller stores it as `uint32_t`. -/
def columnInt (n : Nat) : Serve UInt32 :=
  if n < 2 ^ 31 then pure (UInt32.ofNat n) else throw .outOfRange

/-- The integers `ColumnInt` reads from the row are in its range. -/
def AvatarRow.Small (row : AvatarRow) : Prop :=
  row.id < 2 ^ 31 ∧ row.userId < 2 ^ 31 ∧ row.attributes < 2 ^ 31

def RoomRow.Small (row : RoomRow) : Prop :=
  row.id < 2 ^ 31 ∧ row.creatorId < 2 ^ 31 ∧ row.roomAttributes < 2 ^ 31 ∧
    row.roomMaxSize < 2 ^ 31 ∧ row.roomMessageId < 2 ^ 31 ∧ row.createdAt < 2 ^ 31 ∧
    row.nodeLevel < 2 ^ 31

def MessageRow.Small (row : MessageRow) : Prop :=
  row.id < 2 ^ 31 ∧ row.avatarId < 2 ^ 31 ∧ row.sentTime < 2 ^ 31 ∧ row.status < 2 ^ 31

instance (row : AvatarRow) : Decidable row.Small := by
  unfold AvatarRow.Small
  infer_instance

instance (row : RoomRow) : Decidable row.Small := by
  unfold RoomRow.Small
  infer_instance

instance (row : MessageRow) : Decidable row.Small := by
  unfold MessageRow.Small
  infer_instance

/-- Following a pointer that may be null. -/
def deref {α : Type} : Option α → Serve α
  | some a => pure a
  | none => throw .nullPointer

def Server.avatar? (s : Server) (avatar : AvatarPtr) : Option ChatAvatar :=
  s.avatarCache.find? (·.self.obj == avatar.obj)

/-- The object behind an avatar pointer; the cache owns every avatar object. -/
def readAvatar (avatar : AvatarPtr) : Serve ChatAvatar := do
  match (← get).avatar? avatar with
  | some a => pure a
  | none => throw .dangling

def Server.updateAvatar (s : Server) (avatar : AvatarPtr) (f : ChatAvatar → ChatAvatar) : Server :=
  { s with avatarCache := s.avatarCache.map fun a => if a.self.obj == avatar.obj then f a else a }

def writeAvatar (avatar : AvatarPtr) (f : ChatAvatar → ChatAvatar) : Serve Unit := do
  let _ ← readAvatar avatar
  modify (·.updateAvatar avatar f)

def readRoom (room : RoomPtr) : Serve ChatRoom := do
  match (← get).rooms[room]? with
  | some r => pure r
  | none => throw .dangling

def Server.updateRoom (s : Server) (room : RoomPtr) (f : ChatRoom → ChatRoom) : Server :=
  { s with rooms := s.rooms.modify room f }

def writeRoom (room : RoomPtr) (f : ChatRoom → ChatRoom) : Serve Unit := do
  let _ ← readRoom room
  modify (·.updateRoom room f)

section Runs
variable {s : Server} {α : Type}

theorem columnInt_of_lt {n : Nat} (h : n < 2 ^ 31) : columnInt n s = (.ok (UInt32.ofNat n), s) := by
  rw [columnInt, if_pos h]
  rfl

theorem columnInt_of_not_lt {n : Nat} (h : ¬ n < 2 ^ 31) : columnInt n s = (.error .outOfRange, s) := by
  rw [columnInt, if_neg h]
  rfl

theorem attempt_of_roleKey_none {statement : Statement α} (h : statement.roleKey = none) :
    s.attempt statement = { s with executed := s.executed + 1 } := by
  simp [Server.attempt, h]

theorem execute_ok {statement : Statement α} {a : α} {db : Database}
    (hf : s.fails s.executed = false) (hrun : s.db.run statement = some (a, db)) :
    execute statement s = (.ok a, { s.attempt statement with db := db }) := by
  simp [execute, hf, hrun]

theorem execute_failed {statement : Statement α}
    (h : s.fails s.executed = true ∨ s.db.run statement = none) :
    execute statement s =
      (.error .database, { s.attempt statement with failures := s.failures + 1 }) := by
  unfold execute
  rcases h with hf | hrun
  · rw [if_pos hf]
  · rw [hrun, ite_self]

/-- A statement fails, or its rows and the tables afterwards are those of `Database.run`. -/
theorem execute_cases (statement : Statement α) (s : Server) :
    ((s.fails s.executed = true ∨ s.db.run statement = none) ∧ execute statement s =
      (.error .database, { s.attempt statement with failures := s.failures + 1 })) ∨
    ∃ a db, (s.fails s.executed = false ∧ s.db.run statement = some (a, db)) ∧
      execute statement s = (.ok a, { s.attempt statement with db := db }) := by
  cases hf : s.fails s.executed with
  | true => exact .inl ⟨.inl rfl, execute_failed (.inl hf)⟩
  | false =>
    cases hrun : s.db.run statement with
    | none => exact .inl ⟨.inr rfl, execute_failed (.inr hrun)⟩
    | some result => exact .inr ⟨result.1, result.2, ⟨rfl, rfl⟩, execute_ok hf hrun⟩

theorem ends_execute {statement : Statement α} {ok : α → Server → Prop} {err : Exn → Server → Prop}
    (hok : ∀ a db, s.fails s.executed = false → s.db.run statement = some (a, db) →
      ok a { s.attempt statement with db := db })
    (herr : s.fails s.executed = true ∨ s.db.run statement = none →
      err .database { s.attempt statement with failures := s.failures + 1 }) :
    (execute statement).Ends s ok err := by
  unfold Action.Ends
  rcases execute_cases statement s with ⟨hfailed, hrun⟩ | ⟨a, db, ⟨hf, hdb⟩, hrun⟩ <;> rw [hrun]
  · exact herr hfailed
  · exact hok a db hf hdb

theorem selves_updateAvatar {p : AvatarPtr} {f : ChatAvatar → ChatAvatar} (hself : ∀ a, (f a).self = a.self) :
    (s.updateAvatar p f).avatarCache.map (·.self) = s.avatarCache.map (·.self) := by
  rw [Server.updateAvatar, List.map_map]
  apply List.map_congr_left
  intro a _
  rw [Function.comp_apply]
  split
  · exact hself a
  · rfl

theorem readRoom_of_getElem? {room : RoomPtr} {r : ChatRoom} (h : s.rooms[room]? = some r) :
    readRoom room s = (.ok r, s) := by
  simp [readRoom, h]

theorem readRoom_none {room : RoomPtr} (h : s.rooms[room]? = none) :
    readRoom room s = (.error .dangling, s) := by
  simp [readRoom, h]

theorem writeRoom_of_getElem? {room : RoomPtr} {r : ChatRoom} (h : s.rooms[room]? = some r)
    (f : ChatRoom → ChatRoom) : writeRoom room f s = (.ok (), s.updateRoom room f) := by
  rw [writeRoom, Action.bind_ok (readRoom_of_getElem? h)]
  rfl

theorem getElem?_updateRoom {room : RoomPtr} {f : ChatRoom → ChatRoom} {r : ChatRoom}
    (h : s.rooms[room]? = some r) : (s.updateRoom room f).rooms[room]? = some (f r) := by
  rw [Server.updateRoom, List.getElem?_modify, h]
  simp

theorem updateRoom_eq_set {room : RoomPtr} {r : ChatRoom} (h : s.rooms[room]? = some r)
    (f : ChatRoom → ChatRoom) : (s.updateRoom room f).rooms = s.rooms.set room (f r) := by
  obtain ⟨hlt, rfl⟩ := List.getElem?_eq_some_iff.mp h
  apply List.ext_getElem?
  intro i
  rw [Server.updateRoom, List.getElem?_modify, List.getElem?_set]
  by_cases hi : room = i
  · subst hi
    simp [hlt]
  · simp [hi]

end Runs

/-- `std::remove_if` with a predicate that follows pointers: the elements that stay. -/
def removeIf {α : Type} (p : α → Serve Bool) : List α → Serve (List α)
  | [] => pure []
  | a :: as => do
    let drop ← p a
    let rest ← removeIf p as
    pure (if drop then rest else a :: rest)

/-- `std::find_if` with such a predicate: the position of the first match. -/
def findIf {α : Type} (p : α → Serve Bool) : List α → Serve (Option Nat)
  | [] => pure none
  | a :: as => do
    if ← p a then pure (some 0)
    else
      let found ← findIf p as
      pure (found.map (· + 1))

end StationChat
