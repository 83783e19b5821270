import StationChat.Avatars.Attending
import StationChat.Avatars.Upkeep

/-! FRIENDSTATUS against the history of requests: a run keeps, beside the server, the friend lists that the
requests alone amount to. -/
namespace StationChat
open Lib Lib.Action Lib.Contract

/-- A friend as the history has it; `requested` tells those of the run from those stored before it. -/
structure Friendship where
  avatarId : Nat
  comment : U16String
  requested : Bool
  deriving DecidableEq, Repr

/-- The avatar of exactly this name and address. -/
def Database.avatarNamed (db : Database) (name address : U16String) : Option Nat :=
  (db.avatar.find? fun row => toWideString row.name = name ∧ toWideString row.address = address).map (·.id)

namespace Friendship

/-- Whoever is a friend already stays as it is. -/
def add (j : Nat) (comment : U16String) (history : List Friendship) : List Friendship :=
  if j ∈ history.map (·.avatarId) then history else history ++ [⟨j, comment, true⟩]

def remove (j : Nat) (history : List Friendship) : List Friendship := history.filter (·.avatarId ≠ j)

end Friendship

namespace Request

/-- What the request means for the friends of `i`. -/
def edit (db : Database) (i : Nat) (history : List Friendship) : Request → List Friendship
  | .addFriend r =>
    match db.avatarNamed r.destName r.destAddress with
    | some j => if r.srcAvatarId.toNat = i then Friendship.add j r.comment history else history
    | none => history
  | .removeFriend r | .addIgnore r =>
    match db.avatarNamed r.destName r.destAddress with
    | some j => if r.srcAvatarId.toNat = i then Friendship.remove j history else history
    | none => history
  | _ => history

/-- The requests of the runs considered, each about stored avatars. -/
def NamesStored (db : Database) : Request → Prop
  | .addFriend r => db.HasAvatar r.srcAvatarId.toNat ∧ (db.avatarNamed r.destName r.destAddress).isSome
  | .removeFriend r | .addIgnore r | .removeIgnore r =>
    db.HasAvatar r.srcAvatarId.toNat ∧ (db.avatarNamed r.destName r.destAddress).isSome
  | .friendStatus r | .ignoreStatus r => db.HasAvatar r.srcAvatarId.toNat
  | .loginAvatar r => (db.avatarNamed r.name r.address).isSome
  | .failoverReLoginAvatar r => (db.avatarNamed r.name r.address).isSome
  | .logoutAvatar r => db.HasAvatar r.avatarId.toNat
  | _ => False

end Request

def Input.edit (db : Database) (i : Nat) (history : List Friendship) : Input → List Friendship
  | .request _ r _ _ => r.edit db i history
  | _ => history

def Input.NamesStored (db : Database) : Input → Prop
  | .request _ r _ _ => r.NamesStored db
  | _ => True

/-- A server with the friend lists its requests amount to. -/
structure Noted where
  server : Server
  friends : Nat → List Friendship

namespace Noted

/-- The rows stored before are where the history starts. -/
def start (db : Database) (version : UInt32) (policyConfig : Policy.Config) : Noted where
  server := Server.start db (fun _ => false) version policyConfig
  friends i := (db.friendRows i).map fun row => ⟨row.friendAvatarId, toWideString row.comment, false⟩

def step (w : Noted) (input : Input) : Option Noted :=
  (w.server.step input).map fun t => ⟨t, fun i => input.edit w.server.db i (w.friends i)⟩

/-- Runs of requests about stored avatars, with connections that come and go and restarts of the process. -/
def Reaches : Noted → Noted → Prop := Runs step fun w input => input.NamesStored w.server.db

end Noted

variable {s t u : Server} {w : Noted} {db : Database} {row : AvatarRow} {p : AvatarPtr} {a : ChatAvatar} {i j : Nat}
  {history : List Friendship} {comment : U16String} {client : ClientId}

theorem avatarNamed_eq_some {name address : U16String} (h : db.avatarNamed name address = some j) :
    ∃ row ∈ db.avatar, row.id = j ∧ (AvatarRequest.byName name address).Seeks row := by
  obtain ⟨row, hfind, hid⟩ := Option.map_eq_some_iff.mp h
  have hseeks : toWideString row.name = name ∧ toWideString row.address = address := by
    simpa using List.find?_some hfind
  exact ⟨row, List.mem_of_find?_eq_some hfind, hid, hseeks⟩

section Records

/-- What the table holds of a friend: a comment that came with a request is not stored. -/
def Friendship.stored (f : Friendship) : Option Nat × U16String :=
  (some f.avatarId, if f.requested then [] else f.comment)

/-- The friend rows of the avatar are the history, comments of requests apart. -/
def Database.Records (db : Database) (i : Nat) (history : List Friendship) : Prop :=
  (db.friendRows i).map FriendRow.entry = history.map Friendship.stored

theorem Database.Records.ids (h : db.Records i history) :
    (db.friendRows i).map (·.friendAvatarId) = history.map (·.avatarId) := by
  have hids := congrArg (List.map Prod.fst) h
  rw [List.map_map, List.map_map] at hids
  have hsome : ((db.friendRows i).map (·.friendAvatarId)).map some = (history.map (·.avatarId)).map some := by
    rw [List.map_map, List.map_map]
    exact hids
  exact List.map_injective_iff.mpr (Option.some_injective _) hsome

theorem befriends_iff_mem_friendRows : db.Befriends i j ↔ j ∈ (db.friendRows i).map (·.friendAvatarId) := by
  simp [Database.Befriends, Database.friendRows, and_assoc]

theorem records_dropFriend (h : db.Records i history) (j : Nat) :
    (db.dropFriend i j).Records i (Friendship.remove j history) := by
  rw [Database.Records, friendRows_dropFriend]
  have hfilter := congrArg (List.filter fun entry => entry.1 ≠ some j) h
  rw [List.filter_map, List.filter_map] at hfilter
  have hrows : (db.friendRows i).filter (fun row => ¬ (i = i ∧ row.friendAvatarId = j)) =
      (db.friendRows i).filter ((fun entry => entry.1 ≠ some j) ∘ FriendRow.entry) :=
    List.filter_congr fun row _ => by simp [FriendRow.entry]
  have hhistory : Friendship.remove j history =
      history.filter ((fun entry => entry.1 ≠ some j) ∘ Friendship.stored) :=
    List.filter_congr fun f _ => by simp [Friendship.stored]
  rw [hhistory, ← hfilter]
  exact congrArg _ hrows

theorem records_addFriend (h : db.Records i history) (j : Nat) (comment : U16String) :
    (db.contact i j (.addFriend [])).Records i (Friendship.add j comment history) := by
  have hold : db.Befriends i j ↔ j ∈ history.map (·.avatarId) := by
    rw [befriends_iff_mem_friendRows, h.ids]
  rw [Friendship.add, Database.contact]
  by_cases hmem : j ∈ history.map (·.avatarId)
  · rw [if_pos hmem, if_pos (hold.mpr hmem)]
    exact h
  · rw [if_neg hmem, if_neg (mt hold.mp hmem), Database.Records, friendRows_putFriend, if_pos rfl,
      List.map_append, List.map_append]
    exact congrArg (· ++ [(some j, [])]) h

/-- Whoever is ignored already is no friend. -/
theorem records_addIgnore (hapart : db.Apart) (h : db.Records i history) (j : Nat) :
    (db.contact i j .addIgnore).Records i (Friendship.remove j history) := by
  rw [Database.contact]
  split
  · rename_i hignores
    have hnot : ¬ db.Befriends i j := fun hfriend => hapart i j hfriend hignores
    have hkept := records_dropFriend h j
    rwa [dropFriend_of_not hnot] at hkept
  · exact records_dropFriend h j

end Records

/-- The invariant of the runs: the tables hold the histories, and the avatars are those of `db`. -/
structure Recorded (db : Database) (friends : Nat → List Friendship) (s : Server) : Prop where
  attentive : Attentive s
  avatar : s.db.avatar = db.avatar
  records : ∀ i, s.db.Records i (friends i)

namespace Recorded
variable {friends : Nat → List Friendship} {operation : ContactOperation}

theorem attended (h : Recorded db friends s) (hst : Attended s t) : Recorded db friends t := by
  refine ⟨hst.attentive h.attentive, hst.avatar.trans h.avatar, fun i => ?_⟩
  rw [Database.Records, Database.friendRows, hst.friend]
  exact h.records i

/-- An operation of `i` about `j` changes the history of `i` alone. -/
theorem contacted (edit : Nat → List Friendship → List Friendship) (h : Recorded db friends s)
    (ht : Contacted s (s.db.contact i j operation) t)
    (hown : (s.db.contact i j operation).Records i (edit i (friends i)))
    (hother : ∀ k, i ≠ k → edit k (friends k) = friends k) : Recorded db (fun k => edit k (friends k)) t := by
  refine ⟨ht.attentive, ht.avatar.trans h.avatar, fun k => ?_⟩
  rw [Database.Records, Database.friendRows, ht.friend]
  by_cases hk : i = k
  · exact hk ▸ hown
  · change (s.db.contact i j operation).Records k _
    rw [hother k hk, Database.Records, (rows_contact s.db (Ne.symm hk) j operation).1]
    exact h.records k

end Recorded

section Requests
variable {friends : Nat → List Friendship} {request : Request} {time : UInt32} {steadyClock : Nat} {input : Input}

private theorem recorded_of_contacted {x : Serve Unit} {db' : Database} {friends' : Nat → List Friendship}
    (hx : x.Ends s (fun _ t => Contacted s db' t) (Recovers (Contacted s db')))
    (h : ∀ t, Contacted s db' t → Recorded db friends' t) :
    x.Ends s (fun _ t => Recorded db friends' t) (Recovers (Recorded db friends')) :=
  hx.mono (fun _ t ht => h t ht) fun _ t ht hcode => h t (ht hcode)

private theorem recorded_of_attends {x : Serve Unit} (h : Recorded db friends s) (hx : Attends x s fun _ _ => True) :
    x.Ends s (fun _ t => Recorded db friends t) (Recovers (Recorded db friends)) :=
  hx.mono (fun _ _ ht => h.attended ht.1) fun _ _ ht hcode => h.attended (ht hcode)

/-- Each handler does to the tables what its request means for the history. -/
theorem recorded_handler (client : ClientId) (h : Recorded db friends s) (hnames : request.NamesStored s.db) :
    (request.handler client).Ends s (fun _ t => Recorded db (fun i => request.edit s.db i (friends i)) t)
      (Recovers (Recorded db fun i => request.edit s.db i (friends i))) := by
  have hs := h.attentive
  cases request with
  | addFriend r =>
    obtain ⟨⟨row, hrow, hid⟩, hnamed⟩ := hnames
    obtain ⟨j, hj⟩ := Option.isSome_iff_exists.mp hnamed
    obtain ⟨row', hrow', hid', hseeks⟩ := avatarNamed_eq_some hj
    apply recorded_of_contacted (contacted_addFriend hs hrow hid hrow' hseeks)
    intro t ht
    rw [hid, hid'] at ht
    apply h.contacted (fun i history => (Request.addFriend r).edit s.db i history) ht
    · simp only [Request.edit, hj, if_true]
      exact records_addFriend (h.records _) j r.comment
    · intro k hk
      simp only [Request.edit, hj, if_neg hk]
  | removeFriend r =>
    obtain ⟨⟨row, hrow, hid⟩, hnamed⟩ := hnames
    obtain ⟨j, hj⟩ := Option.isSome_iff_exists.mp hnamed
    obtain ⟨row', hrow', hid', hseeks⟩ := avatarNamed_eq_some hj
    apply recorded_of_contacted (contacted_dest hs hrow hid hrow' hseeks fun p q t ht hp hq =>
      contacted_operation .removeFriend ht hp hq trivial)
    intro t ht
    rw [hid, hid'] at ht
    apply h.contacted (fun i history => (Request.removeFriend r).edit s.db i history) ht
    · simp only [Request.edit, hj, if_true]
      exact records_dropFriend (h.records _) j
    · intro k hk
      simp only [Request.edit, hj, if_neg hk]
  | addIgnore r =>
    obtain ⟨⟨row, hrow, hid⟩, hnamed⟩ := hnames
    obtain ⟨j, hj⟩ := Option.isSome_iff_exists.mp hnamed
    obtain ⟨row', hrow', hid', hseeks⟩ := avatarNamed_eq_some hj
    apply recorded_of_contacted (contacted_dest hs hrow hid hrow' hseeks fun p q t ht hp hq =>
      contacted_operation .addIgnore ht hp hq trivial)
    intro t ht
    rw [hid, hid'] at ht
    apply h.contacted (fun i history => (Request.addIgnore r).edit s.db i history) ht
    · simp only [Request.edit, hj, if_true]
      exact records_addIgnore hs.apart (h.records _) j
    · intro k hk
      simp only [Request.edit, hj, if_neg hk]
  | removeIgnore r =>
    obtain ⟨⟨row, hrow, hid⟩, hnamed⟩ := hnames
    obtain ⟨j, hj⟩ := Option.isSome_iff_exists.mp hnamed
    obtain ⟨row', hrow', hid', hseeks⟩ := avatarNamed_eq_some hj
    apply recorded_of_contacted (contacted_named hs hrow hid hrow' hseeks fun p q t ht hp hq =>
      contacted_operation .removeIgnore ht hp hq trivial)
    intro t ht
    exact h.contacted (fun _ history => history) ht (h.records _) fun _ _ => rfl
  | friendStatus r =>
    obtain ⟨row, hrow, hid⟩ := hnames
    exact recorded_of_attends h (attends_contactStatus hs hrow hid)
  | ignoreStatus r =>
    obtain ⟨row, hrow, hid⟩ := hnames
    exact recorded_of_attends h (attends_contactStatus hs hrow hid)
  | loginAvatar r =>
    obtain ⟨j, hj⟩ := Option.isSome_iff_exists.mp hnames
    obtain ⟨row, hrow, -, hseeks⟩ := avatarNamed_eq_some hj
    exact recorded_of_attends h (attends_loginAvatar client hs hrow hseeks)
  | failoverReLoginAvatar r =>
    obtain ⟨j, hj⟩ := Option.isSome_iff_exists.mp hnames
    obtain ⟨row, hrow, -, hseeks⟩ := avatarNamed_eq_some hj
    exact recorded_of_attends h (attends_failoverReLoginAvatar client hs hrow hseeks)
  | logoutAvatar r =>
    obtain ⟨row, hrow, hid⟩ := hnames
    exact recorded_of_attends h (attends_logoutAvatar hs hrow hid)
  | _ => exact absurd hnames id

theorem recorded_request (h : Recorded db friends s) (hnames : request.NamesStored s.db)
    (hstep : s.step (.request client request time steadyClock) = some t) :
    Recorded db (fun i => request.edit s.db i (friends i)) t := by
  have harrival := Attended.of_unmoved (unmoved_arrival s request time steadyClock) rfl
  have hends := recorded_handler client (h.attended harrival) hnames
  obtain ⟨u, hhandler, body, rfl⟩ := step_request_cases hstep
  have hanswered : Attended u { u with sent := u.sent ++
      [(client, .response u.response.type u.response.track u.response.result body)] } :=
    Attended.of_unmoved ⟨rfl, id, rfl, rfl, rfl, rfl, rfl⟩ rfl
  rcases hhandler with hrun | ⟨e, v, code, hrun, hcode, rfl⟩
  · exact (hends.ok_of_run hrun).attended hanswered
  · have hcaught : Attended v (v.withResult code) := Attended.of_unmoved ⟨rfl, id, rfl, rfl, rfl, rfl, rfl⟩ rfl
    exact (hends.err_of_run hrun (by rw [hcode]; rfl)).attended (hcaught.trans hanswered)

theorem recorded_restart (h : Recorded db friends s) : Recorded db friends s.restart where
  attentive := ⟨h.attentive.settled.restart, h.attentive.keys, fun _ ha => absurd ha List.not_mem_nil,
    h.attentive.works, h.attentive.apart⟩
  avatar := h.avatar
  records := h.records

/-- One input. -/
theorem recorded_step (h : Recorded db friends s) (hnames : input.NamesStored s.db) (hstep : s.step input = some t) :
    Recorded db (fun i => input.edit s.db i (friends i)) t := by
  cases input with
  | request client request time steadyClock => exact recorded_request h hnames hstep
  | connect =>
    obtain rfl := Option.some.inj hstep
    exact h.attended (Attended.of_unmoved ⟨rfl, fun ha => ⟨fun a hmem => Nat.lt_succ_of_lt (ha.below a hmem),
      ha.distinct⟩, rfl, rfl, rfl, rfl, rfl⟩ rfl)
  | disconnect client =>
    obtain ⟨_, rfl⟩ := Server.step_disconnect hstep
    exact h.attended (Attended.of_unmoved ⟨rfl, id, rfl, rfl, rfl, rfl, rfl⟩ rfl)
  | tick =>
    obtain rfl := Option.some.inj hstep
    exact h.attended (Attended.of_unmoved ⟨rfl, id, rfl, rfl, rfl, rfl, rfl⟩ rfl)
  | restart =>
    obtain rfl := Option.some.inj hstep
    exact recorded_restart h

end Requests

section Reporting
variable {r : ReqFriendStatus} {time : UInt32} {steadyClock : Nat}

/-- The encoded entry of a friend: the name, address and online flag are those of its object. -/
def EntryOf (cache : List ChatAvatar) (contact : Option Nat × U16String) (entry : FriendEntry) : Prop :=
  ∃ b ∈ cache, contact.1 = some b.self.avatarId.toNat ∧
    entry = ⟨b.self.name, b.self.address, contact.2, b.isOnline⟩

theorem friendEntries_run (hs : Allocated s.avatarCache s.objects) (contacts : List FriendContact)
    (hgood : ∀ c ∈ contacts, Good s.avatarCache c.frnd) :
    ∃ entries, contacts.mapM friendEntry s = (.ok entries, s) ∧ List.Forall₂ (EntryOf s.avatarCache)
      (contacts.map fun c => (c.frnd.map (·.avatarId.toNat), c.comment)) entries := by
  induction contacts with
  | nil => exact ⟨[], rfl, .nil⟩
  | cons c contacts ih =>
    obtain ⟨q, hfrnd, hq⟩ := hgood c List.mem_cons_self
    obtain ⟨b, hb, rfl, hobject⟩ := avatar?_of_live hs hq
    obtain ⟨entries, hrun, hentries⟩ := ih fun d hd => hgood d (List.mem_cons_of_mem c hd)
    have hentry : friendEntry c s = (.ok ⟨b.self.name, b.self.address, c.comment, b.isOnline⟩, s) := by
      rw [friendEntry, hfrnd]
      exact bind_ok (readAvatar_run hobject) _
    refine ⟨⟨b.self.name, b.self.address, c.comment, b.isOnline⟩ :: entries, ?_, .cons ?_ hentries⟩
    · rw [List.mapM_cons, bind_ok hentry, bind_ok hrun]
      rfl
    · exact ⟨b, hb, by simp [hfrnd], rfl⟩

/-- FRIENDSTATUS answers with the friend rows of the avatar. -/
theorem friendStatus_run (client : ClientId) (hs : Attentive (s.receiving (.friendStatus r)))
    (hrun : requireSrcAvatar r.srcAvatarId (s.receiving (.friendStatus r)) = (.ok p, u))
    (hp : Looked (s.receiving (.friendStatus r)) row p u) :
    ∃ t entries, (Request.friendStatus r).handle client s = (.ok (), t) ∧
      t.sent = s.sent ++ [(client, .response .friendStatus r.track .success (.friends entries))] ∧
      List.Forall₂ (EntryOf t.avatarCache) ((s.db.friendRows row.id).map FriendRow.entry) entries := by
  have hu := hp.attended.attentive hs
  have hresponse : u.response = { type := .friendStatus, track := r.track } := by rw [hp.grown.rest]; rfl
  have hsent : u.sent = s.sent := by rw [hp.grown.rest]; rfl
  have hdb : u.db = s.db := hp.grown.db
  obtain ⟨a, ha, rfl, hobject⟩ := avatar?_of_live hu.settled.joined.ready.allocated hp.live
  have hwhole := (hu.settled.whole a ha).friendList
  rw [hp.avatarId, hdb] at hwhole
  obtain ⟨v, hv⟩ : ∃ v, v = { u with response := { u.response with avatar := some a.self } } := ⟨_, rfl⟩
  have hcache : v.avatarCache = u.avatarCache := by rw [hv]
  obtain ⟨entries, hentries, hlisted⟩ := friendEntries_run (s := v)
    (by rw [hv]; exact hu.settled.joined.ready.allocated) a.friendList
    (by rw [hcache]; exact hu.settled.joined.friends a ha)
  have hhandler : (Request.friendStatus r).handler client (s.receiving (.friendStatus r)) = (.ok (), v) := by
    change Handler.contactStatus r _ = _
    rw [Handler.contactStatus, bind_ok hrun, hv]
    rfl
  have hbody : responseBody v.response v = (.ok (.friends entries), v) := by
    have hread : readAvatar a.self v = (.ok a, v) := readAvatar_run (by rw [hv]; exact hobject)
    have hfields : v.response = { type := .friendStatus, track := r.track, avatar := some a.self } := by
      rw [hv, hresponse]
    rw [hfields, responseBody]
    dsimp only
    rw [bind_ok hread, bind_ok hentries]
    rfl
  refine ⟨_, entries, handle_of_caught (caught_of_ok hhandler) hbody, ?_, ?_⟩
  · rw [hv, hresponse, hsent]
  · rw [← hwhole]
    exact hlisted

theorem comments_of_entries {cache : List ChatAvatar} {contacts : List (Option Nat × U16String)}
    {entries : List FriendEntry} (h : List.Forall₂ (EntryOf cache) contacts entries) :
    entries.map (·.comment) = contacts.map Prod.snd := by
  induction h with
  | nil => rfl
  | cons hread _ ih =>
    obtain ⟨b, _, _, rfl⟩ := hread
    rw [List.map_cons, List.map_cons, ih]

end Reporting

section Runs
variable {r : ReqFriendStatus} {time : UInt32} {steadyClock : Nat} {version : UInt32} {policyConfig : Policy.Config}

theorem recorded_start (hdb : db.Sound) (hkeys : db.AvatarKeys) (hapart : db.Apart) (version : UInt32)
    (policyConfig : Policy.Config) :
    Recorded db (Noted.start db version policyConfig).friends (Noted.start db version policyConfig).server where
  attentive := ⟨Settled.start hdb _ _ _, hkeys, fun _ ha => absurd ha List.not_mem_nil, fun _ => rfl, hapart⟩
  avatar := rfl
  records i := by
    rw [Noted.start, Database.Records, List.map_map]
    rfl

/-- A whole run. -/
theorem recorded_reaches (hdb : db.Sound) (hkeys : db.AvatarKeys) (hapart : db.Apart)
    (hrun : (Noted.start db version policyConfig).Reaches w) : Recorded db w.friends w.server := by
  apply Runs.invariant hrun (recorded_start hdb hkeys hapart version policyConfig)
  intro v input v' hv hnames hstep
  obtain ⟨t, ht, rfl⟩ := Option.map_eq_some_iff.mp hstep
  exact recorded_step hv hnames ht

theorem small_loads : Loads False fun s => Joined s ∧ ∀ row ∈ s.db.avatar, row.Small where
  allocated h := h.1.ready.allocated
  referential h := h.1.ready.referential
  small h _ := h.2
  bookkeeping _ _ _ h hle := ⟨joined_loads.bookkeeping _ _ _ h.1 hle, h.2⟩
  cache h hrow hsmall hnew hobj hlt := ⟨joined_loads.cache h.1 hrow hsmall hnew hobj hlt, h.2⟩
  friend row h hp hq := ⟨joined_loads.friend row h.1 hp hq, h.2⟩
  ignored row h hp hq := ⟨joined_loads.ignored row h.1 hp hq, h.2⟩

/-- A stored avatar is found if the integers of the rows can be read. -/
theorem requireSrcAvatar_returns {srcAvatarId : UInt32} (hs : Attentive s) (hsmall : ∀ row ∈ s.db.avatar, row.Small)
    (hrow : row ∈ s.db.avatar) (hseeks : (AvatarRequest.byId srcAvatarId).Seeks row) :
    ∃ p t, requireSrcAvatar srcAvatarId s = (.ok p, t) ∧ Looked s row p t := by
  have hends := attentive_run hs hrow hseeks
  have hloads := small_loads.getAvatarById srcAvatarId ⟨hs.settled.joined, hsmall⟩
  rcases hrun : getAvatarById srcAvatarId s with ⟨e | found, t⟩
  · have hcode := hends.err_of_run hrun
    obtain ⟨-, -, hdatabase | ⟨-, hrange⟩⟩ := hloads.err_of_run hrun
    · rw [hdatabase] at hcode
      exact absurd hcode (by simp [Exn.resultCode])
    · exact absurd hrange id
  · obtain ⟨p, rfl, hp⟩ := hends.ok_of_run hrun
    refine ⟨p, t, ?_, hp⟩
    rw [requireSrcAvatar, bind_ok hrun]
    rfl

/-- What the history promises of a friend. -/
def Friendship.promised (f : Friendship) : Option Nat × U16String := (some f.avatarId, f.comment)

/-- The last message of `t` reports the history of the avatar in its order. -/
def Noted.Reports (w : Noted) (client : ClientId) (r : ReqFriendStatus) (t : Server) : Prop :=
  ∃ entries, t.sent = w.server.sent ++ [(client, .response .friendStatus r.track .success (.friends entries))] ∧
    List.Forall₂ (EntryOf t.avatarCache) ((w.friends r.srcAvatarId.toNat).map Friendship.promised) entries

/-- Comments apart, FRIENDSTATUS reports the history. -/
theorem friendStatus_step (hw : Recorded db w.friends w.server) (hstored : w.server.db.HasAvatar r.srcAvatarId.toNat)
    (hstep : w.server.step (.request client (.friendStatus r) time steadyClock) = some t) :
    ∃ entries, t.sent = w.server.sent ++ [(client, .response .friendStatus r.track .success (.friends entries))] ∧
      List.Forall₂ (EntryOf t.avatarCache) ((w.friends r.srcAvatarId.toNat).map Friendship.stored) entries := by
  obtain ⟨row, hrow, hid⟩ := hstored
  have harrival := Attended.of_unmoved (unmoved_arrival w.server (.friendStatus r) time steadyClock) rfl
  have hs := harrival.attentive hw.attentive
  have hseeks : (AvatarRequest.byId r.srcAvatarId).Seeks row := hid
  have hends := attentive_required hs hrow hseeks
  obtain ⟨-, -, hhandle⟩ := Server.step_request hstep
  rcases hrun : requireSrcAvatar r.srcAvatarId (w.server.arrival (.friendStatus r) time steadyClock) with ⟨e | p, u⟩
  · obtain ⟨v, body, hcaught, -, -⟩ := handle_eq_ok hhandle
    have hfailed : (Request.friendStatus r).handler client (w.server.arrival (.friendStatus r) time steadyClock) =
        (.error e, u) := bind_error hrun _
    have huncaught := caught_of_uncaught hfailed (hends.err_of_run hrun)
    exact absurd (hcaught.symm.trans huncaught) (by simp)
  · obtain ⟨t', entries, hanswer, hsent, hlisted⟩ := friendStatus_run client hs hrun (hends.ok_of_run hrun)
    obtain rfl : t' = t := (Prod.mk.inj (hanswer.symm.trans hhandle)).2
    have hrecords := hw.records r.srcAvatarId.toNat
    rw [Database.Records, ← hid] at hrecords
    rw [← hid, ← hrecords]
    exact ⟨entries, hsent, hlisted⟩

/-- In every run, FRIENDSTATUS reports the history of the avatar just if no request of the run that added one
of its friends had a comment, and it answers if the integers of the avatar rows can be read. -/
theorem friend_status_reports_iff (hdb : db.Sound) (hkeys : db.AvatarKeys) (hapart : db.Apart)
    (hrun : (Noted.start db version policyConfig).Reaches w) (hclient : client ∈ w.server.clients)
    (hconnected : client ∉ w.server.disconnected) (r : ReqFriendStatus)
    (hstored : w.server.db.HasAvatar r.srcAvatarId.toNat) (time : UInt32) (steadyClock : Nat) :
    (∀ t, w.server.step (.request client (.friendStatus r) time steadyClock) = some t →
      (w.Reports client r t ↔ ∀ f ∈ w.friends r.srcAvatarId.toNat, f.requested → f.comment = [])) ∧
    ((∀ row ∈ db.avatar, row.Small) →
      (w.server.step (.request client (.friendStatus r) time steadyClock)).isSome) := by
  have hw := recorded_reaches hdb hkeys hapart hrun
  refine ⟨fun t hstep => ⟨?_, fun hempty => ?_⟩, fun hsmall => ?_⟩
  · rintro ⟨entries, hsent, hlisted⟩ f hf hrequested
    obtain ⟨entries', hsent', hlisted'⟩ := friendStatus_step hw hstored hstep
    obtain rfl : entries = entries' := by simpa using hsent.symm.trans hsent'
    have hcomments := (comments_of_entries hlisted).symm.trans (comments_of_entries hlisted')
    rw [List.map_map, List.map_map] at hcomments
    simpa [Friendship.promised, Friendship.stored, hrequested] using List.map_inj_left.mp hcomments f hf
  · have hkept : (w.friends r.srcAvatarId.toNat).map Friendship.stored =
        (w.friends r.srcAvatarId.toNat).map Friendship.promised := by
      apply List.map_congr_left
      intro f hf
      cases hrequested : f.requested with
      | true => simp [Friendship.stored, Friendship.promised, hrequested, hempty f hf hrequested]
      | false => simp [Friendship.stored, Friendship.promised, hrequested]
    obtain ⟨entries, hsent, hlisted⟩ := friendStatus_step hw hstored hstep
    exact ⟨entries, hsent, hkept ▸ hlisted⟩
  · obtain ⟨row, hrow, hid⟩ := hstored
    have hseeks : (AvatarRequest.byId r.srcAvatarId).Seeks row := hid
    have harrival := Attended.of_unmoved (unmoved_arrival w.server (.friendStatus r) time steadyClock) rfl
    have hs := harrival.attentive hw.attentive
    obtain ⟨p, u, hfound, hp⟩ := requireSrcAvatar_returns hs (fun row hrow => hsmall row (hw.avatar ▸ hrow)) hrow hseeks
    obtain ⟨t, -, hanswer, -⟩ := friendStatus_run client hs hfound hp
    rw [Server.step, if_pos ⟨hclient, hconnected⟩, hanswer]
    rfl

end Runs

section Concrete

instance (db : Database) : DecidablePred (Input.NamesStored db) := by
  intro input
  cases input with
  | request client request time steadyClock =>
    cases request <;> simp only [Input.NamesStored, Request.NamesStored] <;> infer_instance
  | connect => exact inferInstanceAs (Decidable True)
  | disconnect client => exact inferInstanceAs (Decidable True)
  | tick => exact inferInstanceAs (Decidable True)
  | restart => exact inferInstanceAs (Decidable True)

theorem Database.strangers_keys : Database.strangers.AvatarKeys := by
  refine ⟨?_, ?_, ?_⟩ <;> simp [Database.strangers, Database.empty]

theorem Database.strangers_apart : Database.strangers.Apart := by
  rintro i j ⟨row, hrow, -⟩
  exact absurd hrow List.not_mem_nil

def Noted.strangers : Noted := Noted.start .strangers 2 {}

/-- A adds B without a comment, B logs in, and the process restarts. -/
theorem friend_status_reports_strangers : ∃ w, Noted.strangers.Reaches w ∧ w.friends 1 = [⟨2, [], true⟩] ∧
    ∃ t, w.server.step (.request 3 (.friendStatus ⟨7, 1, []⟩) 0 0) = some t ∧ w.Reports 3 ⟨7, 1, []⟩ t := by
  obtain ⟨w, hrun, hclient, hconnected, hstored, hfriends⟩ : ∃ w, Noted.strangers.Reaches w ∧
      3 ∈ w.server.clients ∧ 3 ∉ w.server.disconnected ∧ w.server.db.HasAvatar 1 ∧ w.friends 1 = [⟨2, [], true⟩] :=
    Runs.exists_of_admitted [.connect, .request 0 (.addFriend ⟨1, 1, [0x42], [0x61], [], false, []⟩) 0 0,
      .request 0 (.loginAvatar ⟨1, 1, [0x42], [0x61], [], 0, 0⟩) 0 0, .restart, .connect] (by decide +kernel)
  obtain ⟨hreports, hanswers⟩ := friend_status_reports_iff Database.strangers_sound Database.strangers_keys
    Database.strangers_apart hrun hclient hconnected ⟨7, 1, []⟩ hstored 0 0
  obtain ⟨t, hstep⟩ := Option.isSome_iff_exists.mp (hanswers (by decide))
  refine ⟨w, hrun, hfriends, t, hstep, (hreports t hstep).mpr ?_⟩
  simp [hfriends]

/-- The comment of ADDFRIEND is lost: A adds B as h, and B is reported without a comment. -/
theorem comment_not_reported : ∃ w, Noted.strangers.Reaches w ∧ w.friends 1 = [⟨2, [0x68], true⟩] ∧
    ∃ t, w.server.step (.request 0 (.friendStatus ⟨7, 1, []⟩) 0 0) = some t ∧
      t.sent.getLast? = some (0, .response .friendStatus 7 .success (.friends [⟨[0x42], [0x61], [], false⟩])) ∧
      ¬ w.Reports 0 ⟨7, 1, []⟩ t := by
  obtain ⟨w, hrun, hfriends, hlast⟩ : ∃ w, Noted.strangers.Reaches w ∧ w.friends 1 = [⟨2, [0x68], true⟩] ∧
      (w.server.step (.request 0 (.friendStatus ⟨7, 1, []⟩) 0 0)).bind (·.sent.getLast?) =
        some (0, .response .friendStatus 7 .success (.friends [⟨[0x42], [0x61], [], false⟩])) :=
    Runs.exists_of_admitted [.connect, .request 0 (.addFriend ⟨1, 1, [0x42], [0x61], [0x68], false, []⟩) 0 0]
      (by decide +kernel)
  obtain ⟨t, hstep, hsent⟩ := Option.bind_eq_some_iff.mp hlast
  refine ⟨w, hrun, hfriends, t, hstep, hsent, ?_⟩
  rintro ⟨entries, hreported, hlisted⟩
  obtain rfl : entries = [⟨[0x42], [0x61], [], false⟩] := by simpa [hreported] using hsent
  exact absurd (comments_of_entries hlisted) (by simp [hfriends, Friendship.promised])

end Concrete
end StationChat
