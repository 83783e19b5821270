import StationChat.Gateway.Delivery
import StationChat.Lib.Replica
import StationChat.Rooms.Departure

/-! What a game server knows of a room: as long as one of its avatars is in there, the notifications tell it who
comes and who goes. -/
namespace StationChat
open Lib Lib.Action Lib.Contract

variable {s t u : Server} {client : ClientId} {room : RoomPtr} {r r' : ChatRoom} {p : AvatarPtr} {a : ChatAvatar}
  {n : Notification} {address : U16String}

/-- What a listener keeps of a room. -/
structure RoomView where
  roomId : UInt32
  roomName : U16String
  roomAddress : U16String
  members : List UInt32
  deriving DecidableEq

def ChatRoom.view (r : ChatRoom) : RoomView := ⟨r.roomId, r.roomName, r.roomAddress, r.avatars.map (·.avatarId)⟩

namespace Notification

/-- The notification is about the members of the room. ENTERROOM and LEAVEROOM give its id, KICKAVATAR its name
and address. -/
def Names (n : Notification) (v : RoomView) : Prop :=
  match n with
  | .enterRoom _ roomId | .leaveRoom _ roomId => roomId = v.roomId
  | .kickAvatar _ _ name address => name = v.roomName ∧ address = v.roomAddress
  | _ => False

instance (n : Notification) (v : RoomView) : Decidable (n.Names v) := by
  cases n <;> unfold Names <;> infer_instance

/-- What it makes of the members. -/
def change (n : Notification) (members : List UInt32) : List UInt32 :=
  match n with
  | .enterRoom a _ => if a.self.avatarId ∈ members then members else members ++ [a.self.avatarId]
  | .leaveRoom avatarId _ => members.filter (· != avatarId)
  | .kickAvatar _ b _ _ => members.filter (· != b.self.avatarId)
  | _ => members

theorem change_change (n : Notification) (members : List UInt32) : n.change (n.change members) = n.change members := by
  cases n with
  | enterRoom a _ =>
    by_cases hmem : a.self.avatarId ∈ members <;> simp [change, hmem]
  | leaveRoom | kickAvatar => simp [change]
  | _ => rfl

end Notification

namespace RoomView

/-- How a listener follows what it hears. -/
def follow (v : RoomView) : Outgoing → RoomView
  | .notify n => if n.Names v then { v with members := n.change v.members } else v
  | .response .. => v

theorem follow_names {v : RoomView} (h : n.Names v) :
    v.follow (.notify n) = { v with members := n.change v.members } := if_pos h

theorem follow_other {v : RoomView} (h : ¬ n.Names v) : v.follow (.notify n) = v := if_neg h

/-- The members are no part of what a notification is about. -/
theorem names_members {v : RoomView} (members : List UInt32) : n.Names { v with members } ↔ n.Names v := by
  cases n <;> rfl

theorem follow_follow (v : RoomView) (m : Outgoing) : (v.follow m).follow m = v.follow m := by
  cases m with
  | response => rfl
  | notify n =>
    by_cases h : n.Names v
    · rw [follow_names h, follow_names ((names_members _).mpr h), Notification.change_change]
    · rw [follow_other h, follow_other h]

theorem foldl_follow_room (v : RoomView) (messages : List Outgoing) :
    (messages.foldl follow v).roomId = v.roomId := by
  induction messages generalizing v with
  | nil => rfl
  | cons m rest ih =>
    rw [List.foldl_cons, ih]
    cases m with
    | response => rfl
    | notify n => rw [follow]; split <;> rfl

end RoomView

section Watching

/-- A room that a notification about the other one could be about. -/
def ChatRoom.resembles (r' r : ChatRoom) : Bool :=
  r'.roomId = r.roomId ∨ r'.roomName = r.roomName ∧ r'.roomAddress = r.roomAddress

theorem ChatRoom.resembles_of_roomId (h : r'.roomId = r.roomId) : r'.resembles r = true := by
  simp [ChatRoom.resembles, h]

theorem Notification.Names.resembles (h : n.Names r.view) (h' : n.Names r'.view) : r'.resembles r = true := by
  simp only [ChatRoom.resembles, decide_eq_true_eq]
  cases n with
  | enterRoom | leaveRoom => exact .inl (Eq.trans (Eq.symm h') h)
  | kickAvatar => exact .inr ⟨h'.1.symm.trans h.1, h'.2.symm.trans h.2⟩
  | _ => exact absurd h id

namespace Server

/-- Notifications about the room cannot be about another one. -/
structure Sole (s : Server) (room : RoomPtr) (r : ChatRoom) : Prop where
  at_ : s.rooms[room]? = some r
  one : s.rooms.countP (·.resembles r) = 1

/-- The client is registered for an address with a member in the room, which is the only one with its id and the
only one with its name and address; and this is what there is to know of the room. -/
def Watched (s : Server) (client : ClientId) (address : U16String) (roomId : UInt32) (v : RoomView) : Prop :=
  s.clientAddressMap address = some client ∧ ∃ r ∈ s.rooms, s.rooms.countP (·.resembles r) = 1 ∧
    r.roomId = roomId ∧ r.Houses address ∧ r.view = v

instance (s : Server) (client : ClientId) (address : U16String) (roomId : UInt32) (v : RoomView) :
    Decidable (s.Watched client address roomId v) := inferInstanceAs (Decidable (_ ∧ ∃ r ∈ s.rooms, _))

/-- Whoever watches a room of `s` hears of all that changes there until `t`. -/
def Tracks (s t : Server) : Prop :=
  ∃ new, t.sent = s.sent ++ new ∧ ∀ room r, s.Sole room r → ∀ address client,
    s.clientAddressMap address = some client → r.Houses address →
      ∃ r', t.rooms[room]? = some r' ∧ r'.view = (((new.filter (·.1 = client)).map (·.2)).foldl RoomView.follow r.view)

namespace Sole

theorem unique (h : s.Sole room r) {room' : RoomPtr} (hr' : s.rooms[room']? = some r') (hsame : r'.resembles r = true) :
    room' = room ∧ r' = r := by
  obtain rfl := getElem?_of_countP_eq_one h.one hr' h.at_ hsame (ChatRoom.resembles_of_roomId rfl)
  exact ⟨rfl, Option.some.inj (hr'.symm.trans h.at_)⟩

end Sole
end Server

/-- A message that changes no view. -/
def Outgoing.Inert (m : Outgoing) : Prop := ∀ v : RoomView, v.follow m = v

theorem inert_response {type : ChatResponseType} {track : UInt32} {result : ChatResultCode} {body : ResponseBody} :
    (Outgoing.response type track result body).Inert := fun _ => rfl

theorem Server.Tracks.after (h : s.Tracks t) (hrooms : u.rooms = t.rooms) {more : List (ClientId × Outgoing)}
    (hsent : u.sent = t.sent ++ more) (hmore : ∀ m ∈ more, m.2.Inert) : s.Tracks u := by
  obtain ⟨new, ht, htracks⟩ := h
  refine ⟨new ++ more, by rw [hsent, ht, List.append_assoc], fun room r hsole address client hclient hhouses => ?_⟩
  obtain ⟨r', hr', hview⟩ := htracks room r hsole address client hclient hhouses
  refine ⟨r', hrooms ▸ hr', ?_⟩
  rw [hview, List.filter_append, List.map_append, List.foldl_append]
  refine (foldl_inert fun m hm => ?_).symm
  obtain ⟨x, hx, rfl⟩ := List.mem_map.mp hm
  exact hmore x (List.mem_filter.mp hx).1 _

theorem tracks_of_eq (hrooms : t.rooms = s.rooms) (hsent : t.sent = s.sent) : s.Tracks t :=
  ⟨[], by simpa using hsent, fun _ r hsole _ _ _ _ => ⟨r, hrooms ▸ hsole.at_, rfl⟩⟩

theorem Silent.tracks (h : Silent s t) (hrooms : t.rooms = s.rooms) (htracks : t.Tracks u) : s.Tracks u := by
  obtain ⟨new, hsent, htracks⟩ := htracks
  refine ⟨new, h.sent ▸ hsent, fun room r hsole address client hclient hhouses => ?_⟩
  exact htracks room r ⟨hrooms ▸ hsole.at_, hrooms ▸ hsole.one⟩ address client (h.clientAddressMap ▸ hclient) hhouses

end Watching

section Moving
variable {addresses : List U16String}

theorem mem_heard {new : List (ClientId × Outgoing)} {m : Outgoing} :
    m ∈ (new.filter (·.1 = client)).map (·.2) ↔ (client, m) ∈ new := by
  simp [List.mem_map, List.mem_filter]

/-- One room changes, and all its game servers are told of it. -/
theorem tracks_set (hr : s.rooms[room]? = some r) (hrooms : t.rooms = s.rooms.set room r')
    (hsent : t.sent = s.sent ++ s.posts addresses n) (hnames : n.Names r.view)
    (hview : r'.view = { r.view with members := n.change r.view.members })
    (hall : ∀ address, r.Houses address → address ∈ addresses) : s.Tracks t := by
  refine ⟨_, hsent, fun other r₂ hsole address client hclient hhouses => ?_⟩
  have hheard : ∀ m ∈ ((s.posts addresses n).filter (·.1 = client)).map (·.2), m = .notify n := by
    intro m hm
    obtain ⟨_, _, _, _, hm⟩ := mem_posts.mp (mem_heard.mp hm)
    exact (Prod.mk.inj hm).2
  by_cases hother : other = room
  · subst hother
    obtain rfl : r₂ = r := Option.some.inj (hsole.at_.symm.trans hr)
    have hlt := (List.getElem?_eq_some_iff.mp hr).1
    refine ⟨r', by rw [hrooms, List.getElem?_set_self hlt], ?_⟩
    rw [hview, ← RoomView.follow_names hnames]
    refine (foldl_once (RoomView.follow_follow _ _) ?_ fun m hm => .inl (hheard m hm)).symm
    exact mem_heard.mpr (mem_posts.mpr ⟨address, hall address hhouses, client, hclient, rfl⟩)
  · refine ⟨r₂, by rw [hrooms, List.getElem?_set_ne (Ne.symm hother), hsole.at_], ?_⟩
    refine (foldl_inert fun m hm => ?_).symm
    rw [hheard m hm]
    exact RoomView.follow_other fun h => hother (hsole.unique hr (h.resembles hnames)).1.symm

/-- The avatar leaves every room, and of each room it was in, all its game servers are told. -/
theorem tracks_farewells (hrooms : t.rooms = s.rooms.map (·.leaveRoom p))
    (hsent : t.sent = s.sent ++ s.farewells p (s.rooms.filter (·.isInRoom p.avatarId))) : s.Tracks t := by
  refine ⟨_, hsent, fun room r hsole address client hclient hhouses => ?_⟩
  refine ⟨r.leaveRoom p, by rw [hrooms, List.getElem?_map, hsole.at_, Option.map_some], ?_⟩
  have hheard : ∀ m ∈ ((s.farewells p (s.rooms.filter (·.isInRoom p.avatarId))).filter (·.1 = client)).map (·.2),
      ∃ r' ∈ s.rooms, r'.isInRoom p.avatarId = true ∧ m = .notify (.leaveRoom p.avatarId r'.roomId) := by
    intro m hm
    obtain ⟨r', hr', hm⟩ := List.mem_flatMap.mp (mem_heard.mp hm)
    obtain ⟨_, _, _, _, hm⟩ := mem_posts.mp hm
    exact ⟨r', (List.mem_filter.mp hr').1, (List.mem_filter.mp hr').2, (Prod.mk.inj hm).2⟩
  have hnames : (Notification.leaveRoom p.avatarId r.roomId).Names r.view := rfl
  have hview : (r.leaveRoom p).view = r.view.follow (.notify (.leaveRoom p.avatarId r.roomId)) := by
    rw [RoomView.follow_names hnames]
    simp [ChatRoom.view, ChatRoom.leaveRoom, Notification.change, List.filter_map, Function.comp_def]
  -- what is said of another room is not about this one
  have hothers : ∀ r' : ChatRoom, Outgoing.notify (.leaveRoom p.avatarId r'.roomId) =
      .notify (.leaveRoom p.avatarId r.roomId) ∨ ∀ members,
        RoomView.follow { r.view with members } (.notify (.leaveRoom p.avatarId r'.roomId)) = { r.view with members } := by
    intro r'
    by_cases hsame : r'.roomId = r.roomId
    · exact .inl (by rw [hsame])
    · exact .inr fun members => RoomView.follow_other hsame
  by_cases hmember : r.isInRoom p.avatarId = true
  · rw [hview]
    refine (foldl_once (RoomView.follow_follow _ _) ?_ fun m hm => ?_).symm
    · refine mem_heard.mpr (List.mem_flatMap.mpr ⟨r, List.mem_filter.mpr ⟨List.mem_of_getElem? hsole.at_, hmember⟩, ?_⟩)
      exact mem_posts.mpr ⟨address, mem_getConnectedAddresses.mpr hhouses, client, hclient, rfl⟩
    · obtain ⟨r', _, _, rfl⟩ := hheard m hm
      refine (hothers r').imp_right fun hinert => ⟨hinert _, ?_⟩
      rw [RoomView.follow_names hnames]
      exact hinert _
  · rw [leaveRoom_of_not_isInRoom (Bool.eq_false_iff.mpr hmember)]
    refine (foldl_inert fun m hm => ?_).symm
    obtain ⟨r', hr', hin, rfl⟩ := hheard m hm
    refine RoomView.follow_other fun hsame => hmember ?_
    obtain ⟨_, hr'⟩ := List.mem_iff_getElem?.mp hr'
    obtain ⟨_, rfl⟩ := hsole.unique hr' (ChatRoom.resembles_of_roomId hsame)
    exact hin

end Moving

section Handlers

/-- What the four requests that move somebody do to the rooms. -/
inductive Move (s : Server) : Request → List ChatRoom → Prop
  | enter {request : ReqEnterRoom} {room : RoomPtr} {r r' : ChatRoom} {p : AvatarPtr} (hr : s.rooms[room]? = some r)
      (haddress : r.roomAddress = request.roomAddress) (hsrc : p.avatarId = request.srcAvatarId)
      (h : r.enterRoom p request.roomPassword = .ok r') : Move s (.enterRoom request) (s.rooms.set room r')
  | leave {request : ReqLeaveRoom} {room : RoomPtr} {r : ChatRoom} {p : AvatarPtr} (hr : s.rooms[room]? = some r)
      (haddress : r.roomAddress = request.roomAddress) (hsrc : p.avatarId = request.srcAvatarId) :
      Move s (.leaveRoom request) (s.rooms.set room (r.leaveRoom p))
  | kick {request : ReqKickAvatar} {room : RoomPtr} {r r' : ChatRoom} {q : AvatarPtr} (hr : s.rooms[room]? = some r)
      (haddress : r.roomAddress = request.destRoomAddress) (h : r.kickAvatar request.srcAvatarId q = .ok r') :
      Move s (.kickAvatar request) (s.rooms.set room r')
  | logout {request : ReqLogoutAvatar} {p : AvatarPtr} (hid : p.avatarId = request.avatarId) :
      Move s (.logoutAvatar request) (s.rooms.map (·.leaveRoom p))
  | nowhere {request : ReqLogoutAvatar} (h : s.rooms = []) : Move s (.logoutAvatar request) s.rooms

/-- What a handler must do for those who listen: move somebody and tell them, or stop. -/
def Telling (request : Request) (x : Serve Unit) (s : Server) : Prop :=
  x.Ends s (fun _ t => s.Tracks t ∧ Move s request t.rooms)
    (fun e t => e.resultCode = none ∨ s.Tracks t ∧ t.rooms = s.rooms)

variable {request : Request}

theorem Move.of_rooms {rooms : List ChatRoom} (h : Move u request rooms) (hrooms : u.rooms = s.rooms) :
    Move s request rooms := by
  cases h with
  | enter hr haddress hsrc h => exact hrooms ▸ .enter (hrooms ▸ hr) haddress hsrc h
  | leave hr haddress hsrc => exact hrooms ▸ .leave (hrooms ▸ hr) haddress hsrc
  | kick hr haddress h => exact hrooms ▸ .kick (hrooms ▸ hr) haddress h
  | logout hid => exact hrooms ▸ .logout hid
  | nowhere h => exact hrooms ▸ .nowhere (hrooms ▸ h)

/-- A step that tells nobody and moves nobody first. -/
theorem Silent.telling (h : Silent s u) (hrooms : u.rooms = s.rooms) {x : Serve Unit} (hx : Telling request x u) :
    x.Ends u (fun _ t => s.Tracks t ∧ Move s request t.rooms)
      (fun e t => e.resultCode = none ∨ s.Tracks t ∧ t.rooms = s.rooms) :=
  Ends.mono hx (fun _ _ ht => ⟨h.tracks hrooms ht.1, ht.2.of_rooms hrooms⟩)
    fun _ _ he => he.imp_right fun ht => ⟨h.tracks hrooms ht.1, ht.2.trans hrooms⟩

theorem Grown.telling (h : Grown s u) {x : Serve Unit} (hx : Telling request x u) :
    x.Ends u (fun _ t => s.Tracks t ∧ Move s request t.rooms)
      (fun e t => e.resultCode = none ∨ s.Tracks t ∧ t.rooms = s.rooms) :=
  h.silent.telling (by rw [h.rest]) hx

theorem Grown.tracks (h : Grown s u) : s.Tracks u ∧ u.rooms = s.rooms := by
  have hrooms : u.rooms = s.rooms := by rw [h.rest]
  exact ⟨tracks_of_eq hrooms h.silent.sent, hrooms⟩

theorem tracks_refl (h : t = s) : s.Tracks t ∧ t.rooms = s.rooms := h ▸ ⟨tracks_of_eq rfl rfl, rfl⟩

theorem requireRoom_ends (s : Server) (roomAddress : U16String) (missing : ChatResultCode) :
    (requireRoom roomAddress missing).Ends s
      (fun room t => t = s ∧ ∃ r, s.rooms[room]? = some r ∧ r.roomAddress = roomAddress) (fun _ t => t = s) := by
  unfold Ends
  rw [requireRoom_run]
  cases hfind : s.rooms.findIdx? fun room => roomAddress == room.roomAddress with
  | none => rfl
  | some room =>
    obtain ⟨hlt, haddress, _⟩ := List.findIdx?_eq_some_iff_getElem.mp hfind
    exact ⟨rfl, _, List.getElem?_eq_getElem hlt, (beq_iff_eq.mp haddress).symm⟩

/-- A change of one room, of which all its game servers are told. -/
theorem Telling.change {x : Serve Unit} {addresses : List U16String} (hr : s.rooms[room]? = some r)
    (hmove : Move s request (s.rooms.set room r')) (hnames : n.Names r.view)
    (hview : r'.view = { r.view with members := n.change r.view.members })
    (hall : ∀ address, r.Houses address → address ∈ addresses)
    (hsends : Broadcasts (s.updateRoom room fun _ => r') addresses n x) :
    x.Ends (s.updateRoom room fun _ => r') (fun _ t => s.Tracks t ∧ Move s request t.rooms)
      (fun e t => e.resultCode = none ∨ s.Tracks t ∧ t.rooms = s.rooms) := by
  have hrooms := updateRoom_eq_set hr fun _ => r'
  apply (hsends s.sent).mono
  · rintro _ t rfl
    refine ⟨tracks_set hr hrooms rfl hnames hview hall, ?_⟩
    change Move s request (s.updateRoom room fun _ => r').rooms
    rwa [hrooms]
  · rintro e _ ⟨rfl, _⟩
    exact .inl rfl

theorem inert_departureNews : ∀ m ∈ s.departureNews p a, m.2.Inert := by
  intro m hm
  obtain ⟨q, _, hm⟩ := List.mem_flatMap.mp hm
  split at hm
  · obtain ⟨_, _, _, _, rfl⟩ := mem_posts.mp hm
    exact fun _ => rfl
  · exact absurd hm List.not_mem_nil

theorem leaveRoom_view (r : ChatRoom) (p : AvatarPtr) :
    (r.leaveRoom p).view = { r.view with members := r.view.members.filter (· != p.avatarId) } := by
  simp [ChatRoom.view, ChatRoom.leaveRoom, List.filter_map, Function.comp_def]

namespace Handler

theorem enterRoom_tells {request : ReqEnterRoom} (hs : Fit (fun _ => True) s) :
    Telling (.enterRoom request) (enterRoom request) s := by
  rw [Telling, enterRoom, ends_bind]
  refine (requireSrcAvatar_notSuccess hs request.srcAvatarId).mono ?_ fun _ _ h => .inr h.1.tracks
  rintro p u ⟨hu, hgrown, hlive, hsrc, _⟩
  apply hgrown.telling
  rw [Telling, ends_bind]
  refine (requireRoom_ends u _ _).mono ?_ fun _ _ h => .inr (tracks_refl h)
  rintro room u ⟨rfl, r, hr, haddress⟩
  unfold Ends
  rw [bind_ok (readRoom_of_getElem? hr)]
  let v := (evaluatePolicyEvent (policyEvent .roomJoin p request.roomAddress request.roomPassword.length)
    { u with response := { u.response with room := some room, roomId := some r.roomId } }).2
  have hv : v.rooms[room]? = some r := hr
  have hsilent : Silent u v := ⟨rfl, rfl, rfl⟩
  change Ends (changeRoom room _ >>= fun _ => sendEnterRoomUpdate p room) v _ _
  apply hsilent.telling rfl
  have hchange := changeRoom_run hv (·.enterRoom p request.roomPassword)
  unfold Telling Ends
  cases henter : r.enterRoom p request.roomPassword with
  | error code =>
    rw [henter] at hchange
    rw [bind_error hchange]
    exact .inr (tracks_refl rfl)
  | ok r' =>
    rw [henter] at hchange
    rw [bind_ok hchange]
    have hentered := ChatRoom.enterRoom_ok henter
    obtain ⟨a, _, rfl, hobject⟩ := avatar?_of_live hu.allocated hlive
    let w := v.updateRoom room fun _ => r'
    have hw : w.rooms[room]? = some r' := getElem?_updateRoom hv
    have hobject : w.avatar? a.self = some a := hobject
    have hsends := broadcasts_about hobject (.enterRoom · r'.roomId) r'.getConnectedAddresses
    have hnew : a.self.avatarId ∉ r.avatars.map (·.avatarId) := by
      have hout := ChatRoom.enterRoom_isInRoom henter
      simp only [ChatRoom.isInRoom, List.any_eq_false, beq_iff_eq] at hout
      exact fun hmem => (List.mem_map.mp hmem).elim fun q hq => hout q hq.1 hq.2
    have hnames : (Notification.enterRoom a r'.roomId).Names r.view := by
      rw [hentered]
      rfl
    have hview : r'.view = { r.view with members := (Notification.enterRoom a r'.roomId).change r.view.members } := by
      have hchanged : (Notification.enterRoom a r'.roomId).change r.view.members =
          r.view.members ++ [a.self.avatarId] := if_neg hnew
      rw [hchanged, hentered]
      simp [ChatRoom.view]
    have hall : ∀ address, r.Houses address → address ∈ r'.getConnectedAddresses := by
      rintro address ⟨q, hq, hqaddress⟩
      rw [hentered]
      exact mem_getConnectedAddresses.mpr ⟨q, List.mem_append_left _ hq, hqaddress⟩
    rw [sendEnterRoomUpdate, bind_ok (readRoom_of_getElem? hw)]
    exact Telling.change hv (.enter hv haddress hsrc henter) hnames hview hall hsends

theorem leaveRoom_tells {request : ReqLeaveRoom} (hs : Fit (fun _ => True) s) :
    Telling (.leaveRoom request) (leaveRoom request) s := by
  rw [Telling, leaveRoom, ends_bind]
  refine (requireSrcAvatar_notSuccess hs request.srcAvatarId).mono ?_ fun _ _ h => .inr h.1.tracks
  rintro p u ⟨hu, hgrown, _, hsrc, _⟩
  apply hgrown.telling
  rw [Telling, ends_bind]
  refine (requireRoom_ends u _ _).mono ?_ fun _ _ h => .inr (tracks_refl h)
  rintro room u ⟨rfl, r, hr, haddress⟩
  unfold Ends
  rw [bind_ok (readRoom_of_getElem? hr)]
  let v := { u with response := { u.response with roomId := some r.roomId } }
  have hv : v.rooms[room]? = some r := hr
  have hsilent : Silent u v := ⟨rfl, rfl, rfl⟩
  change Ends (writeRoom room (·.leaveRoom p) >>= fun _ => _) v _ _
  apply hsilent.telling rfl
  unfold Telling Ends
  rw [bind_ok (writeRoom_of_getElem? hv _)]
  have hnames : (Notification.leaveRoom p.avatarId r.roomId).Names r.view := rfl
  have hset : v.updateRoom room (·.leaveRoom p) = v.updateRoom room fun _ => r.leaveRoom p :=
    congrArg (fun rooms => { v with rooms })
      ((updateRoom_eq_set hv (·.leaveRoom p)).trans (updateRoom_eq_set hv fun _ => r.leaveRoom p).symm)
  rw [hset]
  exact Telling.change hv (.leave hv haddress hsrc) hnames (leaveRoom_view r p) (fun _ => mem_getConnectedAddresses.mpr)
    (broadcasts_sendLeaveRoomUpdate r.getConnectedAddresses p.avatarId r.roomId)

theorem kickAvatar_tells {request : ReqKickAvatar} (hs : Fit (fun _ => True) s) :
    Telling (.kickAvatar request) (kickAvatar request) s := by
  rw [Telling, kickAvatar, onRoomAvatar, ends_bind]
  refine (requireSrcAvatar_notSuccess hs request.srcAvatarId).mono ?_ fun _ _ h => .inr h.1.tracks
  rintro p u ⟨hu, hgrown, hlive, hsrc, _⟩
  apply hgrown.telling
  rw [Telling, ends_bind]
  refine (requireDestAvatar_found hu _ _).mono ?_ fun _ _ h => .inr h.1.tracks
  rintro q v ⟨hv, hgrown, hkicked, _⟩
  have hlive := hgrown.live hlive
  apply hgrown.telling
  rw [Telling, ends_bind]
  refine (requireRoom_ends v _ _).mono ?_ fun _ _ h => .inr (tracks_refl h)
  rintro room v ⟨rfl, r, hr, haddress⟩
  unfold Ends
  rw [bind_ok (readRoom_of_getElem? hr)]
  let w := { v with response := { v.response with roomId := some r.roomId } }
  have hw : w.rooms[room]? = some r := hr
  have hsilent : Silent v w := ⟨rfl, rfl, rfl⟩
  change Ends (readRoom room >>= fun r => changeRoom room _ >>= fun _ =>
    sendKickAvatarUpdate r.getConnectedAddresses p q room) w _ _
  apply hsilent.telling rfl
  unfold Telling Ends
  rw [bind_ok (readRoom_of_getElem? hw)]
  have hchange := changeRoom_run hw (·.kickAvatar p.avatarId q)
  cases hkick : r.kickAvatar p.avatarId q with
  | error code =>
    rw [hkick] at hchange
    rw [bind_error hchange]
    exact .inr (tracks_refl rfl)
  | ok r' =>
    rw [hkick] at hchange
    rw [bind_ok hchange]
    have hmove : Move w (.kickAvatar request) (w.rooms.set room r') := .kick hw haddress (hsrc ▸ hkick)
    obtain rfl := ChatRoom.kickAvatar_ok hkick
    obtain ⟨a, _, rfl, hobject⟩ := avatar?_of_live hv.allocated hlive
    obtain ⟨b, _, rfl, hobject'⟩ := avatar?_of_live hv.allocated hkicked
    let x := w.updateRoom room fun _ => r.leaveRoom b.self
    have hx : x.rooms[room]? = some (r.leaveRoom b.self) := getElem?_updateRoom hw
    have hsends : Broadcasts x r.getConnectedAddresses (.kickAvatar a b r.roomName r.roomAddress)
        (sendKickAvatarUpdate r.getConnectedAddresses a.self b.self room) := by
      refine broadcasts_forM (fun address sent => ?_) _
      have hread : readRoom room { x with sent } = (.ok (r.leaveRoom b.self), { x with sent }) := readRoom_of_getElem? hx
      unfold Ends
      rw [bind_ok hread]
      refine broadcasts_sendTo (fun sent => ?_) sent
      have hobject : ({ x with sent } : Server).avatar? a.self = some a := hobject
      have hobject' : ({ x with sent } : Server).avatar? b.self = some b := hobject'
      rw [bind_ok (readAvatar_run hobject), bind_ok (readAvatar_run hobject')]
      rfl
    have hnames : (Notification.kickAvatar a b r.roomName r.roomAddress).Names r.view := ⟨rfl, rfl⟩
    exact Telling.change hw hmove hnames (leaveRoom_view r b.self) (fun _ => mem_getConnectedAddresses.mpr) hsends

/-- The result of the lookup is not checked: at last a null pointer is followed. -/
private theorem logoutNobody_tells {request : ReqLogoutAvatar} :
    Telling (.logoutAvatar request) (do
      leaveJoinedRooms none
      sendFriendLogoutUpdates none
      StationChat.logoutAvatar none) s := by
  by_cases hrooms : s.rooms = []
  · have hjoined : getJoinedRooms none s = (.ok [], s) := by
      rw [getJoinedRooms, get_bind_run, if_pos (by simp [hrooms])]
      rfl
    have hleave : leaveJoinedRooms none s = (.ok (), s) := bind_ok hjoined _
    have hstill : (do
        sendFriendLogoutUpdates none
        StationChat.logoutAvatar none : Serve Unit).Makes fun _ _ => False := by
      refine Makes.bind ?_ fun _ => makes_throw _
      refine makes_get.bind fun _ => makes_forM (fun q => ?_) _
      exact (still_isFriend q none).makes.bind fun _ => makes_runIf (makes_throw _)
    have hsame := changes_related (P := fun s t => t = s) (fun _ => rfl) (fun h h' => h'.trans h) (fun _ _ h => h.elim)
      (hstill s)
    rw [Telling, Ends, bind_ok hleave]
    exact (ends_of_state (Q := fun t => t = s) hsame).mono
      (fun _ t h => ⟨(tracks_refl h).1, (tracks_refl h).2 ▸ .nowhere hrooms⟩) fun _ _ h => .inr (tracks_refl h)
  · have hjoined : getJoinedRooms none s = (.error .nullPointer, s) := by
      rw [getJoinedRooms, get_bind_run, if_neg (by simpa using hrooms)]
      rfl
    have hleave : leaveJoinedRooms none s = (.error .nullPointer, s) := bind_error hjoined _
    rw [Telling, Ends, bind_error hleave]
    exact .inl rfl

theorem logoutAvatar_tells {request : ReqLogoutAvatar} (hs : Fit (fun _ => True) s) :
    Telling (.logoutAvatar request) (logoutAvatar request) s := by
  rw [Telling, logoutAvatar, ends_bind]
  apply Ends.mono (fit_loads.getAvatarById request.avatarId hs) _ fun _ _ h => .inr h.2.1.tracks
  rintro found u ⟨hu, hgrown, hfound⟩
  apply hgrown.telling
  cases found with
  | none => exact logoutNobody_tells
  | some p =>
    have hleft : ∀ e v, e = Exn.dangling ∧ (∃ address, u.Stale address) →
        e.resultCode = none ∨ u.Tracks v ∧ v.rooms = u.rooms := fun _ _ h => .inl (h.1 ▸ rfl)
    have hu : Fit (fun _ => True) u := hu
    rw [Telling, ends_bind]
    apply ((holds_leaveJoinedRooms hu hfound.live.pointer).and (leaveJoinedRooms_ends u p)).mono _ fun e v h => hleft e v h.2
    rintro _ v ⟨⟨hv, _⟩, rfl⟩
    obtain ⟨a, _, _, hobject⟩ := avatar?_of_live hu.allocated hfound.live
    let v : Server := { u with
      rooms := u.rooms.map (·.leaveRoom p)
      sent := u.sent ++ u.farewells p (u.rooms.filter (·.isInRoom p.avatarId)) }
    have hv : Fit (fun _ => True) v := hv
    have hobject : v.avatar? p = some a := hobject
    rw [ends_bind]
    apply (emits_sendFriendLogoutUpdates hv hobject v.sent).mono _ hleft
    rintro _ w rfl
    have hobject : ({ v with sent := v.sent ++ v.departureNews p a } : Server).avatar? p = some a := hobject
    unfold Ends
    rw [logoutAvatar_run hobject]
    have htold : u.Tracks v := tracks_farewells rfl rfl
    have hinert : ∀ m ∈ v.departureNews p a, m.2.Inert := inert_departureNews
    change u.Tracks (if a.isOnline then _ else _) ∧ Move u _ (if a.isOnline then _ else _ : Server).rooms
    split <;> exact ⟨htold.after rfl rfl hinert, .logout hfound.1⟩

end Handler

/-- An answered request that moves somebody. -/
theorem move_handle (hs : Fit (fun _ => True) s) (hmoves : request.Moves)
    (h : request.handle client s = (.ok (), t)) : s.Tracks t ∧ (Move s request t.rooms ∨ t.rooms = s.rooms) := by
  have hs' : Fit (fun _ => True) (s.receiving request) := hs
  have htells : Telling request (request.handler client) (s.receiving request) := by
    cases request with
    | enterRoom r => exact Handler.enterRoom_tells hs'
    | leaveRoom r => exact Handler.leaveRoom_tells hs'
    | kickAvatar r => exact Handler.kickAvatar_tells hs'
    | logoutAvatar r => exact Handler.logoutAvatar_tells hs'
    | _ => exact absurd hmoves id
  have hsilent : Silent s (s.receiving request) := ⟨rfl, rfl, rfl⟩
  obtain ⟨u, body, hcaught, _, rfl⟩ := handle_eq_ok h
  have hu : (s.receiving request).Tracks u ∧ (Move s request u.rooms ∨ u.rooms = s.rooms) := by
    rcases caught_eq_ok hcaught with hrun | ⟨e, v, code, hrun, hcode, rfl⟩
    · obtain ⟨htracks, hmove⟩ := Ends.ok_of_run htells hrun
      exact ⟨htracks, .inl (hmove.of_rooms rfl)⟩
    · rcases Ends.err_of_run htells hrun with hnone | ⟨htracks, hrooms⟩
      · exact absurd (hcode.symm.trans hnone) (by simp)
      · exact ⟨htracks.after rfl (List.append_nil _).symm fun _ hm => absurd hm List.not_mem_nil, .inr hrooms⟩
  refine ⟨(hsilent.tracks rfl hu.1).after rfl rfl fun m hm => ?_, hu.2⟩
  obtain rfl := List.mem_singleton.mp hm
  exact inert_response

end Handlers

section Staying
variable {request : Request}

theorem Seated.refl (s : Server) : Seated s s := seated_of_rooms rfl

theorem makes_seated_primitive {powers : Powers} (hloads : powers.loads) (hstays : ¬ powers.moves) (α : Type) (x : Serve α)
    (h : Primitive client powers α x) : x.Makes Seated := by
  have hsame (s t : Server) (_ : t.db = s.db) (hrooms : t.rooms = s.rooms) (_ : t.onlineAvatars = s.onlineAvatars) :
      Seated s t := seated_of_rooms hrooms
  refine h.makes hloads hsame (fun β statement _ => ?_) fun f hf => hf.seated.resolve_right hstays
  exact makes_statement hsame fun s t _ _ hrooms _ => seated_of_rooms hrooms

theorem Routine.seated {powers : Powers} {α : Type} {x : Serve α} (h : Routine client powers x)
    (hloads : powers.loads) (hstays : ¬ powers.moves) (s : Server) : Seated s (x s).2 :=
  changes_related Seated.refl Seated.trans (fun _ _ h => h) (h.makes (makes_seated_primitive hloads hstays) s)

theorem seated_handle (hstays : ¬ request.Moves) (h : request.handle client s = (.ok (), t)) : Seated s t := by
  obtain ⟨u, body, hcaught, _, rfl⟩ := handle_eq_ok h
  have hseated := (routine_handler client request).seated trivial hstays (s.receiving request)
  rcases caught_eq_ok hcaught with hrun | ⟨e, v, code, hrun, _, rfl⟩ <;> rw [hrun] at hseated <;> exact hseated

/-- A room that stays in sight stays the same. -/
theorem Seated.watched (h : Seated s t) {roomId : UInt32} {v w : RoomView} (hs : s.Watched client address roomId v)
    (ht : t.Watched client address roomId w) : w = v := by
  obtain ⟨_, r, hr, hone, hroom, _, rfl⟩ := hs
  obtain ⟨_, r', hr', _, hroom', ⟨q, hq, _⟩, rfl⟩ := ht
  rcases h r' hr' with hnobody | ⟨r'', hr'', hsame⟩
  · exact absurd hq (hnobody ▸ List.not_mem_nil)
  · obtain ⟨room, hroom₁⟩ := List.mem_iff_getElem?.mp hr
    obtain ⟨_, hroom₂⟩ := List.mem_iff_getElem?.mp hr''
    have hid : r''.roomId = r.roomId := (congrArg (·.1) hsame).trans (hroom'.trans hroom.symm)
    obtain ⟨_, rfl⟩ := Server.Sole.unique ⟨hroom₁, hone⟩ hroom₂ (ChatRoom.resembles_of_roomId hid)
    simp only [ChatRoom.attendance, Prod.mk.injEq] at hsame
    obtain ⟨hid, hname, haddress, havatars⟩ := hsame
    rw [ChatRoom.view, ChatRoom.view, hid, hname, haddress, havatars]

/-- What was sent says of nobody that it is in a room, but of those who are. -/
def Server.Repeats (s t : Server) : Prop :=
  ∃ new, t.sent = s.sent ++ new ∧ ∀ m ∈ new, m.2.Inert ∨
    ∃ a, ∃ r ∈ t.rooms, r.isInRoom a.self.avatarId = true ∧ m.2 = .notify (.enterRoom a r.roomId)

theorem Server.Repeats.after (h : s.Repeats t) (hrooms : u.rooms = t.rooms) {more : List (ClientId × Outgoing)}
    (hsent : u.sent = t.sent ++ more) (hmore : ∀ m ∈ more, m.2.Inert) : s.Repeats u := by
  obtain ⟨new, ht, hnew⟩ := h
  refine ⟨new ++ more, by rw [hsent, ht, List.append_assoc], fun m hm => ?_⟩
  rw [hrooms]
  exact (List.mem_append.mp hm).elim (hnew m) fun hm => .inl (hmore m hm)

theorem inert_friendLogin {avatarId : UInt32} {status : U16String} :
    (Outgoing.notify (.friendLogin a address avatarId status)).Inert := fun _ => rfl

/-- A login tells friends only. -/
theorem login_repeats {name loginLocation : U16String} {userId attributes : UInt32} (s : Server) :
    (Handler.login client name address userId attributes loginLocation).Ends s (fun _ t => s.Repeats t)
      (fun _ t => s.Repeats t) := by
  let powers : Powers := ⟨fun _ _ => True, True, fun _ => False, fun n => (Outgoing.notify n).Inert, False, True⟩
  have hroutine : Routine client powers (Handler.login client name address userId attributes loginLocation) :=
    Handler.routine_login trivial (fun _ _ _ _ => inert_friendLogin) _ fun _ => trivial
  obtain ⟨news, hsent, hnews⟩ := (hroutine.announces trivial s).sent
  refine ends_of_state ⟨_, hsent, fun m hm => .inl ?_⟩
  obtain ⟨n, hn, rfl⟩ := List.mem_map.mp hm
  exact (hnews n hn).1

/-- The rooms an avatar is in hear of it. -/
theorem failover_repeats (r : ReqFailoverReLoginAvatar) (hs : Fit (fun _ => True) s) (hclient : client ∈ s.clients) :
    (Handler.failoverReLoginAvatar client r).Ends s (fun _ t => s.Repeats t)
      (fun e t => e.resultCode = none ∨ s.Repeats t) := by
  rw [Handler.failoverReLoginAvatar, ends_bind]
  have hlogin : (gateway (fun _ => True) False).Holds
      (Handler.login client r.name r.address r.userId r.attributes r.loginLocation) s fun p t =>
        Live t.avatarCache p :=
    holds_login hs hclient fun hn => absurd trivial hn
  apply (hlogin.and (login_repeats s)).mono _ fun _ _ h => .inr h.2
  rintro p u ⟨⟨hu, _, hlive⟩, hrepeats⟩
  have hu : Fit (fun _ => True) u := hu
  obtain ⟨a, _, rfl, hobject⟩ := avatar?_of_live hu.allocated hlive
  unfold Ends
  rw [bind_ok (getJoinedRooms_run u)]
  let news (room : RoomPtr) : List (ClientId × Outgoing) :=
    u.rooms[room]?.toList.flatMap fun r => u.posts r.getConnectedAddresses (.enterRoom a r.roomId)
  have hjoined : ∀ room ∈ u.roomsWhere (·.isInRoom a.self.avatarId), ∃ r, u.rooms[room]? = some r ∧
      r.isInRoom a.self.avatarId = true := by
    intro room hroom
    obtain ⟨hlt, hin⟩ := List.mem_findIdxs_iff_exists_getElem_pos.mp hroom
    exact ⟨_, List.getElem?_eq_getElem hlt, hin⟩
  have hemits : Emits u ((u.roomsWhere (·.isInRoom a.self.avatarId)).flatMap news)
      (forM (u.roomsWhere (·.isInRoom a.self.avatarId)) (sendEnterRoomUpdate a.self)) := by
    refine emits_forM fun room hroom => ?_
    obtain ⟨r, hr, _⟩ := hjoined room hroom
    have hnews : news room = u.posts r.getConnectedAddresses (.enterRoom a r.roomId) := by simp [news, hr]
    rw [hnews]
    refine emits_read (fun sent => readRoom_of_getElem? (s := { u with sent }) hr) (Broadcasts.emits ?_)
    exact broadcasts_about hobject (.enterRoom · r.roomId) _
  apply (hemits u.sent).mono _ fun e v h => .inl (h.1 ▸ rfl)
  rintro _ t rfl
  obtain ⟨new, hsent, hnew⟩ := hrepeats
  refine ⟨_, by rw [hsent, List.append_assoc], fun m hm => ?_⟩
  rcases List.mem_append.mp hm with hm | hm
  · exact hnew m hm
  · obtain ⟨room, hroom, hm⟩ := List.mem_flatMap.mp hm
    obtain ⟨r, hr, hin⟩ := hjoined room hroom
    simp only [news, hr, Option.toList_some, List.flatMap_singleton] at hm
    obtain ⟨_, _, _, _, rfl⟩ := mem_posts.mp hm
    exact .inr ⟨a, r, List.mem_of_getElem? hr, hin, rfl⟩

/-- An answered request that moves nobody. -/
theorem repeats_handle (hs : Fit (fun _ => True) s) (hclient : client ∈ s.clients) (hstays : ¬ request.Moves)
    (h : request.handle client s = (.ok (), t)) : s.Repeats t := by
  by_cases hfailover : ∃ r, request = .failoverReLoginAvatar r
  · obtain ⟨r, rfl⟩ := hfailover
    have hs' : Fit (fun _ => True) (s.receiving (.failoverReLoginAvatar r)) := hs
    have hends := failover_repeats r hs' hclient
    obtain ⟨u, body, hcaught, _, rfl⟩ := handle_eq_ok h
    have hu : s.Repeats u := by
      rcases caught_eq_ok hcaught with hrun | ⟨e, v, code, hrun, hcode, rfl⟩
      · exact hends.ok_of_run hrun
      · rcases hends.err_of_run hrun with hnone | hv
        · exact absurd (hcode.symm.trans hnone) (by simp)
        · exact hv
    refine hu.after rfl rfl fun m hm => ?_
    obtain rfl := List.mem_singleton.mp hm
    exact inert_response
  · obtain ⟨⟨news, result, body, hsent, hnews⟩, _⟩ := announces_handle h
    refine ⟨_, by rw [hsent, List.append_assoc], fun m hm => .inl ?_⟩
    rcases List.mem_append.mp hm with hm | hm
    · obtain ⟨n, hn, rfl⟩ := List.mem_map.mp hm
      obtain ⟨htells, _⟩ := hnews n hn
      cases htells' : n.2 <;> rw [htells'] at htells
      case enterRoom =>
        cases htells with
        | rejoin r => exact absurd ⟨r, rfl⟩ hfailover
        | enter => exact absurd trivial hstays
      case leaveRoom | kickAvatar => cases htells <;> exact absurd trivial hstays
      all_goals exact fun _ => rfl
    · obtain rfl := List.mem_singleton.mp hm
      exact inert_response

end Staying

section Runs
variable {input : Input} {inputs : List Input} {roomId : UInt32} {v w : RoomView}

/-- A listener hears of the changes. -/
theorem Server.Tracks.heard (h : s.Tracks t) (hs : s.Watched client address roomId v)
    (ht : t.Watched client address roomId w) :
    ∃ new, t.received client = s.received client ++ new ∧ new.foldl RoomView.follow v = w := by
  obtain ⟨hclient, r, hr, hone, hroom, hhouses, rfl⟩ := hs
  obtain ⟨_, r₂, hr₂, hone₂, hroom₂, _, rfl⟩ := ht
  obtain ⟨room, hr⟩ := List.mem_iff_getElem?.mp hr
  obtain ⟨new, hsent, htracks⟩ := h
  obtain ⟨r', hr', hview⟩ := htracks room r ⟨hr, hone⟩ address client hclient hhouses
  refine ⟨_, received_append client hsent, ?_⟩
  have hid : r'.roomId = r₂.roomId := by
    have hid := congrArg RoomView.roomId hview
    rw [RoomView.foldl_follow_room] at hid
    exact hid.trans (hroom.trans hroom₂.symm)
  obtain ⟨_, hr₂⟩ := List.mem_iff_getElem?.mp hr₂
  obtain ⟨_, rfl⟩ := Server.Sole.unique ⟨hr₂, hone₂⟩ hr' (ChatRoom.resembles_of_roomId hid)
  exact hview.symm

/-- A listener that knows who is in the room learns nothing from hearing it again. -/
theorem Server.Repeats.heard (h : s.Repeats t) (ht : t.Watched client address roomId w) :
    ∃ new, t.received client = s.received client ++ new ∧ new.foldl RoomView.follow w = w := by
  obtain ⟨_, r, hr, hone, rfl, _, rfl⟩ := ht
  obtain ⟨new, hsent, hnew⟩ := h
  refine ⟨_, received_append client hsent, foldl_inert fun m hm => ?_⟩
  rcases hnew _ (mem_heard.mp hm) with hinert | ⟨a, r', hr', hin, rfl⟩
  · exact hinert _
  · by_cases hnames : (Notification.enterRoom a r'.roomId).Names r.view
    · obtain ⟨_, hr⟩ := List.mem_iff_getElem?.mp hr
      obtain ⟨_, hr'⟩ := List.mem_iff_getElem?.mp hr'
      obtain ⟨_, rfl⟩ := Server.Sole.unique ⟨hr, hone⟩ hr' (ChatRoom.resembles_of_roomId hnames)
      have hmem : a.self.avatarId ∈ r'.view.members := by
        obtain ⟨q, hq, hid⟩ := List.any_eq_true.mp hin
        exact List.mem_map.mpr ⟨q, hq, by simpa using hid⟩
      rw [RoomView.follow_names hnames, Notification.change, if_pos hmem]
    · exact RoomView.follow_other hnames

/-- One input. -/
theorem watched_step (hs : Fit (fun _ => True) s) (h : s.step input = some t)
    (hv : s.Watched client address roomId v) (hw : t.Watched client address roomId w) :
    ∃ new, t.received client = s.received client ++ new ∧ new.foldl RoomView.follow v = w := by
  have hidle (hrooms : t.rooms = s.rooms) (hsent : t.sent = s.sent) :
      ∃ new, t.received client = s.received client ++ new ∧ new.foldl RoomView.follow v = w :=
    (tracks_of_eq hrooms hsent).heard hv hw
  cases input with
  | request c request time clock =>
    obtain ⟨hc, _, hrun⟩ := Server.step_request h
    have hs' : Fit (fun _ => True) (s.atTime time clock) := hs
    have hv' : (s.atTime time clock).Watched client address roomId v := hv
    by_cases hmoves : request.Moves
    · exact (move_handle hs' hmoves hrun).1.heard hv' hw
    · obtain rfl := (seated_handle hmoves hrun).watched hv' hw
      exact (repeats_handle hs' hc hmoves hrun).heard hw
  | connect =>
    obtain rfl := Option.some.inj h
    exact hidle rfl rfl
  | tick =>
    obtain rfl := Option.some.inj h
    exact hidle rfl rfl
  | disconnect c =>
    obtain ⟨_, rfl⟩ := Server.step_disconnect h
    exact hidle rfl rfl
  | restart =>
    obtain rfl := Option.some.inj h
    obtain ⟨_, r, hr, _⟩ := hw
    exact absurd hr (by simp [Server.restart, Server.start])

/-- As long as a game server has an avatar in a room, and no other room could be meant, it knows who is in there
from what it heard. -/
theorem watchers_know_members {db : Database} {fails : Nat → Bool} {version : UInt32} {config : Policy.Config}
    (hdb : db.Referential) (hreach : Server.Reaches Server.AnyInput (Server.start db fails version config) s)
    (h : runInputs Server.step s inputs = some t) (hv : s.Watched client address roomId v)
    (hall : ∀ x ∈ runSteps Server.step s inputs, ∃ w, x.2.2.Watched client address roomId w) :
    ∃ new, t.received client = s.received client ++ new ∧
      t.Watched client address roomId (new.foldl RoomView.follow v) :=
  runInputs_replica (fun s i _ hs hstep => fit_step hs (admitted_any s i) hstep)
    (fun _ _ _ _ _ hs hstep hv hw => watched_step hs hstep hv hw) (fit_reaches_any hdb hreach) hv h hall

/-- The first game server hears the avatar of the second one come and go. -/
theorem watchers_know_members_two : ∃ (s t : Server) (new : List Outgoing),
    runInputs Server.step s [.request 1 (.enterRoom ⟨7, 4, [0x61, 0x2B, 0x72], [], none, false, []⟩) 0 0,
      .request 1 (.leaveRoom ⟨8, 4, [0x61, 0x2B, 0x72], []⟩) 0 0] = some t ∧
    t.received 0 = s.received 0 ++ new ∧
    t.Watched 0 [0x61] 0 (new.foldl RoomView.follow ⟨0, [0x72], [0x61, 0x2B, 0x72], [3]⟩) := by
  obtain ⟨s, hreach, hv, hsteps⟩ : ∃ s, Server.Reaches Server.AnyInput Server.blank s ∧
      s.Watched 0 [0x61] 0 ⟨0, [0x72], [0x61, 0x2B, 0x72], [3]⟩ ∧
      (s.step (.request 1 (.enterRoom ⟨7, 4, [0x61, 0x2B, 0x72], [], none, false, []⟩) 0 0)).any (fun u =>
        decide (u.Watched 0 [0x61] 0 ⟨0, [0x72], [0x61, 0x2B, 0x72], [3, 4]⟩) &&
        (u.step (.request 1 (.leaveRoom ⟨8, 4, [0x61, 0x2B, 0x72], []⟩) 0 0)).any fun t =>
          decide (t.Watched 0 [0x61] 0 ⟨0, [0x72], [0x61, 0x2B, 0x72], [3]⟩)) = true :=
    Server.exists_reached (audienceRun.take 8) (by decide +kernel)
  obtain ⟨u, hu, hsteps⟩ := (Option.any_eq_true _ _).mp hsteps
  obtain ⟨hwatched, hsteps⟩ := Bool.and_eq_true_iff.mp hsteps
  obtain ⟨t, ht, hleft⟩ := (Option.any_eq_true _ _).mp hsteps
  have hrun : runInputs Server.step s [.request 1 (.enterRoom ⟨7, 4, [0x61, 0x2B, 0x72], [], none, false, []⟩) 0 0,
      .request 1 (.leaveRoom ⟨8, 4, [0x61, 0x2B, 0x72], []⟩) 0 0] = some t := by
    rw [runInputs, hu, Option.bind_some, runInputs, ht]
    rfl
  obtain ⟨new, hnew, hknown⟩ := watchers_know_members Database.referential_empty hreach hrun hv (by
    simp only [runSteps, hu, ht, List.mem_cons, List.not_mem_nil, or_false]
    rintro x (rfl | rfl)
    · exact ⟨_, of_decide_eq_true hwatched⟩
    · exact ⟨_, of_decide_eq_true hleft⟩)
  exact ⟨s, t, new, hrun, hnew, hknown⟩

end Runs
end StationChat
