import StationChat.Gateway.Runs

/-! The gateway over whole runs: which requests cannot make it follow a null pointer, when every
request is answered, and when messages go to live clients only. -/
namespace StationChat
open Lib Lib.Action Lib.Contract

variable {db : Database} {fails : Nat → Bool} {version : UInt32} {config : Policy.Config}
  {s t : Server}

theorem Server.exists_reached {Q : Server → Prop} [DecidablePred Q] (inputs : List Input)
    (h : (runInputs Server.step s inputs).any (fun t => decide (Q t)) = true) :
    ∃ t, Server.Reaches Server.AnyInput s t ∧ Q t :=
  Runs.exists_of_inputs inputs h fun _ _ => trivial

/-- A server without any stored avatar or room. -/
def Server.blank : Server := Server.start .empty (fun _ => false) 2 {}

theorem Database.referential_empty : Database.empty.Referential :=
  ⟨by simp [Database.empty], by simp [Database.empty]⟩

theorem Database.small_empty : Database.empty.Small :=
  ⟨by simp [Database.empty], by simp [Database.empty], by simp [Database.empty]⟩

section MissingAvatars

private theorem Fit.of_any (h : Fit (fun _ => True) s) : Fit (· ≠ .nullPointer) s :=
  ⟨h.1, fun hr => absurd (by simp) hr, fun hd => absurd (by simp) hd, fun hu => absurd (by simp) hu⟩

/-- In every reachable state, a request whose unchecked avatars exist follows no null pointer. -/
theorem handle_null_safe (hdb : db.Referential)
    (h : Server.Reaches Server.AnyInput (Server.start db fails version config) s)
    {client : ClientId} (hclient : client ∈ s.clients) (request : Request) (time : UInt32)
    (steadyClock : Nat) (hsafe : request.NullSafe s) (t : Server) :
    request.handle client (s.atTime time steadyClock) ≠ (.error .nullPointer, t) := by
  have hfit := fit_reaches_any hdb h
  have hadmissible : request.Admissible (· ≠ .nullPointer) (s.atTime time steadyClock) := by
    refine ⟨fun _ => ?_, fun hr => absurd (by simp) hr, fun hu => absurd (by simp) hu,
      fun hf => absurd (by simp) hf⟩
    cases request <;> exact hsafe
  intro hrun
  exact (handle_ends (s := s.atTime time steadyClock) request hfit.of_any hclient
    hadmissible).err_of_run hrun rfl

/-- Logging out the only stored avatar. -/
theorem handle_null_safe_logout :
    ((Request.logoutAvatar ⟨1, 1⟩).handle 0 ((Server.start { Database.empty with
      avatar := [⟨1, 1, [0x61], [0x62], 0⟩] } (fun _ => false) 2 {}).connect.atTime 0 0)).1 ≠
        .error .nullPointer := by
  have hdb : Database.Referential { Database.empty with avatar := [⟨1, 1, [0x61], [0x62], 0⟩] } :=
    ⟨by simp [Database.empty], by simp [Database.empty]⟩
  intro hnull
  refine handle_null_safe hdb (Relation.ReflTransGen.single ⟨.connect, trivial, rfl⟩) ?_ _ 0 0 ?_ _
    (Prod.ext hnull rfl)
  · exact List.mem_singleton.mpr rfl
  · exact .inr ⟨⟨1, 1, [0x61], [0x62], 0⟩, List.mem_singleton.mpr rfl, rfl⟩

/-- Three requests naming an avatar that does not exist follow a null pointer: a logout, a creation
and the removal of an ignore by somebody who ignores another. -/
theorem missing_avatar_is_followed :
    (∃ s, Server.Reaches Server.AnyInput Server.blank s ∧ 0 ∈ s.clients ∧
      ((Request.logoutAvatar ⟨1, 7⟩).handle 0 s).1 = .error .nullPointer) ∧
    (∃ s, Server.Reaches Server.AnyInput Server.blank s ∧ 0 ∈ s.clients ∧
      ((Request.createRoom ⟨1, 7, [0x61], [], [], 0, 0, [0x62], []⟩).handle 0 s).1 =
        .error .nullPointer) ∧
    ∃ s, Server.Reaches Server.AnyInput Server.blank s ∧ 0 ∈ s.clients ∧
      ((Request.removeIgnore ⟨1, 1, [0x64], [0x61], []⟩).handle 0 s).1 = .error .nullPointer := by
  refine ⟨?_, ?_, ?_⟩
  · exact Server.exists_reached [.connect] (by decide +kernel)
  · exact Server.exists_reached [.connect] (by decide +kernel)
  · exact Server.exists_reached [.connect,
      .request 0 (.loginAvatar ⟨1, 1, [0x62], [0x61], [], 0, 0⟩) 0 0,
      .request 0 (.loginAvatar ⟨1, 2, [0x63], [0x61], [], 0, 0⟩) 0 0,
      .request 0 (.addIgnore ⟨1, 1, [0x63], [0x61], []⟩) 0 0] (by decide +kernel)

end MissingAvatars

section Answers

/-- Every stored integer that some query reads back through `ColumnInt`. -/
def Database.integers (db : Database) : List Nat :=
  db.avatar.flatMap (fun row => [row.id, row.userId, row.attributes]) ++
    db.room.flatMap (fun row => [row.id, row.creatorId, row.roomAttributes, row.roomMaxSize,
      row.roomMessageId, row.createdAt, row.nodeLevel]) ++
    db.persistentMessage.flatMap (fun row => [row.id, row.avatarId, row.sentTime, row.status]) ++
    db.friend.map (·.friendAvatarId) ++ db.ignore.map (·.ignoreAvatarId)

private theorem Database.Small.integers (h : db.Small) (hdb : db.Referential) :
    ∀ n ∈ db.integers, n < 2 ^ 31 := by
  intro n hn
  simp only [Database.integers, List.mem_append, List.mem_flatMap, List.mem_map, List.mem_cons,
    List.not_mem_nil, or_false] at hn
  rcases hn with (((⟨row, hrow, hn⟩ | ⟨row, hrow, hn⟩) | ⟨row, hrow, hn⟩) | ⟨row, hrow, rfl⟩) |
    ⟨row, hrow, rfl⟩
  · obtain ⟨h1, h2, h3⟩ := h.avatar row hrow
    rcases hn with rfl | rfl | rfl <;> assumption
  · obtain ⟨h1, h2, h3, h4, h5, h6, h7⟩ := h.room row hrow
    rcases hn with rfl | rfl | rfl | rfl | rfl | rfl | rfl <;> assumption
  · obtain ⟨h1, h2, h3, h4⟩ := h.message row hrow
    rcases hn with rfl | rfl | rfl | rfl <;> assumption
  · obtain ⟨avatar, havatar, hid⟩ := hdb.friend row hrow
    exact hid ▸ (h.avatar avatar havatar).1
  · obtain ⟨avatar, havatar, hid⟩ := hdb.ignored row hrow
    exact hid ▸ (h.avatar avatar havatar).1

/-- `ColumnInt` returns the stored integer. -/
def ReadsBack (n : Nat) : Prop :=
  ∀ s : Server, columnInt n s = (.ok (UInt32.ofNat n), s) ∧ (UInt32.ofNat n).toNat = n

private theorem readsBack_of_lt {n : Nat} (h : n < 2 ^ 31) : ReadsBack n := by
  intro s
  refine ⟨?_, ?_⟩
  · rw [columnInt, if_pos h]
    rfl
  · rw [UInt32.toNat_ofNat']
    omega

/-- Nothing is tolerated. -/
def NoTrouble (_ : Exn) : Prop := False

/-- In a run of admissible requests over readable tables every admissible request is answered, by
one response of its type and track number, and every stored integer stays readable. -/
theorem handle_answered (hdb : db.Referential) (hsmall : db.Small)
    (h : Server.Reaches (Server.Admitted NoTrouble) (Server.start db fails version config) s)
    {client : ClientId} (hclient : client ∈ s.clients) (request : Request) (time : UInt32)
    (steadyClock : Nat) (hadmissible : request.Admissible NoTrouble (s.atTime time steadyClock)) :
    (∀ n ∈ s.db.integers, ReadsBack n) ∧
      ∃ t, request.handle client (s.atTime time steadyClock) = (.ok (), t) ∧
        Answered client request s t ∧ ∀ n ∈ t.db.integers, ReadsBack n := by
  have hreads : ∀ {u : Server}, Fit NoTrouble u → ∀ n ∈ u.db.integers, ReadsBack n :=
    fun hu n hn => readsBack_of_lt ((hu.inRange id).tables.integers hu.1.referential n hn)
  have hfit := fit_reaches (P := NoTrouble) ⟨hdb, fun _ => hsmall⟩ h
  have hends := handle_ends (s := s.atTime time steadyClock) request hfit hclient hadmissible
  refine ⟨hreads hfit, ?_⟩
  cases hrun : request.handle client (s.atTime time steadyClock) with
  | mk result t =>
    cases result with
    | error e => exact absurd (hends.err_of_run hrun) id
    | ok _ =>
      obtain ⟨ht, hanswered⟩ := hends.ok_of_run hrun
      exact ⟨t, rfl, hanswered, hreads ht⟩

/-- The first login over empty tables. -/
theorem handle_answered_login :
    ∃ t, (Request.loginAvatar ⟨1, 1, [0x62], [0x61], [], 0, 0⟩).handle 0
        (Server.blank.connect.atTime 0 0) = (.ok (), t) ∧
      Answered 0 (.loginAvatar ⟨1, 1, [0x62], [0x61], [], 0, 0⟩) Server.blank.connect t ∧
      ∀ n ∈ t.db.integers, ReadsBack n := by
  have hreached : Server.Reaches (Server.Admitted NoTrouble) Server.blank Server.blank.connect :=
    Relation.ReflTransGen.single ⟨.connect, trivial, rfl⟩
  have hclient : 0 ∈ Server.blank.connect.clients := List.mem_singleton.mpr rfl
  have hfits : (Server.blank.connect.atTime 0 0).AvatarFits 1 (0 : Int32).toUInt32 :=
    ⟨by decide, by decide, by decide⟩
  exact (handle_answered Database.referential_empty Database.small_empty hreached hclient
    (.loginAvatar ⟨1, 1, [0x62], [0x61], [], 0, 0⟩) 0 0
    ⟨fun _ => trivial, fun _ => .inr hfits, fun _ => trivial, fun _ => trivial⟩).2

/-- A user id of 2147483648 is stored, is not read back, and after a restart stops the server. -/
theorem large_user_id_is_unreadable :
    ∃ s, Server.Reaches Server.AnyInput Server.blank s ∧ 2 ∈ s.clients ∧
      2 ^ 31 ∈ s.db.integers ∧
      ((Request.getAnyAvatar ⟨1, [0x62], [0x61]⟩).handle 2 s).1 = .error .outOfRange :=
  Server.exists_reached [.connect,
    .request 0 (.loginAvatar ⟨1, 0x80000000, [0x62], [0x61], [], 0, 0⟩) 0 0, .restart, .connect]
    (by decide +kernel)

end Answers

section Routing

/-- If no tick takes away a registered client, every registered client is connected, and no request
is sent through a client that is gone. -/
theorem registered_clients_live (hdb : db.Referential)
    (h : Server.Reaches (fun s input => input = .tick → s.KeepsRegistered)
      (Server.start db fails version config) s) :
    Routed s.clients s.clientAddressMap ∧ ∀ client ∈ s.clients, ∀ (request : Request)
      (time : UInt32) (steadyClock : Nat) (t : Server),
        request.handle client (s.atTime time steadyClock) ≠ (.error .dangling, t) := by
  have hadmissible : ∀ (request : Request) (u : Server), request.Admissible (· ≠ .dangling) u :=
    fun _ _ => ⟨fun h => absurd (by simp) h, fun h => absurd (by simp) h,
      fun h => absurd (by simp) h, fun h => absurd (by simp) h⟩
  have hfit : Fit (· ≠ .dangling) s := by
    refine fit_reaches ⟨hdb, fun hr => absurd (by simp) hr⟩ (h.mono fun u input hkeep => ?_)
    cases input with
    | request => exact hadmissible _ _
    | tick => exact fun _ => hkeep rfl
    | _ => trivial
  refine ⟨hfit.routed (by simp), fun client hclient request time steadyClock t hrun => ?_⟩
  exact (handle_ends (s := s.atTime time steadyClock) request hfit hclient
    (hadmissible request _)).err_of_run hrun rfl

/-- A game server is registered, another client disconnects and is taken away by a tick. -/
theorem registered_clients_live_connected : ∃ s : Server, s.clientAddressMap [0x61] = some 0 ∧ 2 < s.objects ∧
    2 ∉ s.clients ∧ Routed s.clients s.clientAddressMap ∧ ∀ (request : Request) (time : UInt32) (steadyClock : Nat)
      (t : Server), request.handle 0 (s.atTime time steadyClock) ≠ (.error .dangling, t) := by
  have hlogin : ∃ u, Server.Reaches (fun s input => input = .tick → s.KeepsRegistered) Server.blank u ∧
      u.clientAddressMap [0x61] = some 0 ∧ u.clients = [0] ∧ u.objects = 2 ∧ u.disconnected = [] := by
    have hrun : ∃ u ∈ runInputs Server.step Server.blank
        [.connect, .request 0 (.loginAvatar ⟨1, 1, systemName, [0x61], [], 0, 0⟩) 0 0],
        u.clientAddressMap [0x61] = some 0 ∧ u.clients = [0] ∧ u.objects = 2 ∧ u.disconnected = [] := by
      decide +kernel
    obtain ⟨u, hu, hstate⟩ := hrun
    exact ⟨u, Runs.of_members hu (by simp), hstate⟩
  obtain ⟨u, hreach, haddress, hclients, hobjects, hdisconnected⟩ := hlogin
  have hlive := (registered_clients_live Database.referential_empty hreach).1
  let v := (u.connect).disconnect 2
  have hdisconnect : u.connect.step (.disconnect 2) = some v :=
    if_pos (by simp [Server.connect, hobjects])
  have hkeeps : v.KeepsRegistered := by
    intro address client hclient hgone
    have hmem := hlive address client hclient
    rw [hclients, List.mem_singleton] at hmem
    simp [v, Server.disconnect, Server.connect, hdisconnected, hmem] at hgone
  have hreach' : Server.Reaches (fun s input => input = .tick → s.KeepsRegistered) Server.blank v.tick :=
    ((hreach.tail ⟨.connect, by simp, rfl⟩).tail ⟨.disconnect 2, by simp, hdisconnect⟩).tail
      ⟨.tick, fun _ => hkeeps, rfl⟩
  have hcleared : v.tick.clients = [0] := by
    simp [v, Server.tick, Server.disconnect, Server.connect, hclients, hobjects, hdisconnected]
  obtain ⟨hrouted, hsends⟩ := registered_clients_live Database.referential_empty hreach'
  refine ⟨v.tick, haddress, ?_, by simp [hcleared], hrouted, hsends 0 (by simp [hcleared])⟩
  simp [v, Server.tick, Server.disconnect, Server.connect, hobjects]

/-- A registered game server that disconnects is destroyed and stays registered, and a message to
one of its avatars goes through it. -/
theorem tick_leaves_client_registered :
    ∃ s, Server.Reaches Server.AnyInput Server.blank s ∧ 4 ∈ s.clients ∧
      s.clientAddressMap [0x61] = some 0 ∧ 0 ∉ s.clients ∧
      ((Request.sendInstantMessage ⟨1, 2, [0x63], [0x61], [], [], []⟩).handle 4 s).1 =
        .error .dangling :=
  Server.exists_reached [.connect,
    .request 0 (.loginAvatar ⟨1, 1, systemName, [0x61], [], 0, 0⟩) 0 0,
    .request 0 (.loginAvatar ⟨1, 2, [0x62], [0x61], [], 0, 0⟩) 0 0,
    .request 0 (.loginAvatar ⟨1, 3, [0x63], [0x61], [], 0, 0⟩) 0 0,
    .connect, .disconnect 0, .tick] (by decide +kernel)

end Routing
end StationChat
