import StationChat.Lib.Distinct
import StationChat.Rooms.Charge

/-! Who hears of what happens in a room: the game servers of its members, each once. -/
namespace StationChat
open Lib Lib.Action

variable {s t u : Server} {p : AvatarPtr} {a : ChatAvatar} {r : ChatRoom} {room : RoomPtr}
  {address : U16String} {n : Notification}

section Addresses

/-- Some member of the room lives at the address. -/
def ChatRoom.Houses (r : ChatRoom) (address : U16String) : Prop := ∃ q ∈ r.avatars, q.address = address

instance (r : ChatRoom) (address : U16String) : Decidable (r.Houses address) :=
  inferInstanceAs (Decidable (∃ q ∈ r.avatars, q.address = address))

private theorem collects_connected : Collects
    (fun seen (q : AvatarPtr) => if q.address ∈ seen then seen else seen ++ [q.address])
    (fun _ => True) (·.address) where
  fresh _ _ _ hnew := if_neg hnew
  known _ _ hknown := if_pos hknown
  other _ _ hnot := absurd trivial hnot

private theorem collects_remote (creatorAddress : U16String) : Collects
    (fun seen (q : AvatarPtr) =>
      if creatorAddress ≠ q.address ∧ q.address ∉ seen then seen ++ [q.address] else seen)
    (fun q => creatorAddress ≠ q.address) (·.address) where
  fresh _ _ hremote hnew := if_pos ⟨hremote, hnew⟩
  known _ _ hknown := if_neg fun h => h.2 hknown
  other _ _ hown := if_neg fun h => hown h.1

theorem mem_getConnectedAddresses : address ∈ r.getConnectedAddresses ↔ r.Houses address := by
  simp [ChatRoom.getConnectedAddresses, collects_connected.mem_foldl, ChatRoom.Houses]

theorem nodup_getConnectedAddresses : r.getConnectedAddresses.Nodup :=
  collects_connected.nodup_foldl r.avatars List.nodup_nil

theorem mem_getRemoteAddresses :
    address ∈ r.getRemoteAddresses ↔ r.Houses address ∧ address ≠ r.creatorAddress := by
  rw [ChatRoom.getRemoteAddresses, (collects_remote r.creatorAddress).mem_foldl]
  constructor
  · rintro (hnil | ⟨q, hq, hremote, rfl⟩)
    · exact absurd hnil List.not_mem_nil
    · exact ⟨⟨q, hq, rfl⟩, Ne.symm hremote⟩
  · rintro ⟨⟨q, hq, rfl⟩, hremote⟩
    exact .inr ⟨q, hq, Ne.symm hremote, rfl⟩

theorem nodup_getRemoteAddresses : r.getRemoteAddresses.Nodup :=
  (collects_remote r.creatorAddress).nodup_foldl r.avatars List.nodup_nil

end Addresses

section Posting

theorem Grown.silent (h : Grown s t) : Silent s t := by
  rw [h.rest]
  exact ⟨rfl, rfl, rfl⟩

/-- A message about one avatar object. -/
theorem broadcasts_about (ha : s.avatar? p = some a) (f : ChatAvatar → Notification)
    (addresses : List U16String) : Broadcasts s addresses (f a)
      (forM addresses fun address => sendTo address (do pure (f (← readAvatar p)))) := by
  apply broadcasts_forM
  intro address
  apply broadcasts_sendTo
  intro sent
  have hobject : ({ s with sent } : Server).avatar? p = some a := ha
  rw [bind_ok (readAvatar_run hobject)]
  rfl

/-- Just the registered addresses of a kind are told, each once. -/
def Server.Announced (s : Server) (kind : U16String → Prop) (n : Notification)
    (more : List (ClientId × Outgoing)) : Prop :=
  ∃ addresses : List U16String, addresses.Nodup ∧
    (∀ address, address ∈ addresses ↔ kind address ∧ (s.clientAddressMap address).isSome = true) ∧
    List.Forall₂ (fun address m => s.clientAddressMap address = some m.1 ∧ m.2 = .notify n) addresses more

theorem delivered_posts (s : Server) (addresses : List U16String) (n : Notification) :
    List.Forall₂ (fun address m => s.clientAddressMap address = some m.1 ∧ m.2 = .notify n)
      (addresses.filter fun address => (s.clientAddressMap address).isSome) (s.posts addresses n) := by
  induction addresses with
  | nil => exact .nil
  | cons address rest ih =>
    rw [List.filter_cons, Server.posts, List.filterMap_cons]
    cases hclient : s.clientAddressMap address with
    | none => exact ih
    | some client => exact .cons ⟨hclient, rfl⟩ ih

theorem announced_posts {kind : U16String → Prop} {addresses : List U16String} (hnodup : addresses.Nodup)
    (hkind : ∀ address, address ∈ addresses ↔ kind address) (n : Notification) :
    s.Announced kind n (s.posts addresses n) := by
  refine ⟨_, hnodup.filter _, fun address => ?_, delivered_posts s addresses n⟩
  rw [List.mem_filter, hkind]

end Posting

section Speaking

/-- The avatar behind the first pointer ignores that of the second. -/
def Server.ignoring (s : Server) (q p : AvatarPtr) : Bool := (s.avatar? q).any (·.ignores p.avatarId)

theorem removeIf_run {α : Type} {f : α → Serve Bool} {drop : α → Bool} {l : List α}
    (h : ∀ x ∈ l, f x s = (.ok (drop x), s)) : removeIf f l s = (.ok (l.filter fun x => !drop x), s) := by
  induction l with
  | nil => rfl
  | cons x rest ih =>
    obtain ⟨hx, hrest⟩ := List.forall_mem_cons.mp h
    rw [removeIf, bind_ok hx, bind_ok (ih hrest), List.filter_cons]
    cases drop x <;> rfl

/-- Every member can be asked whom it ignores. -/
def Server.Askable (s : Server) (r : ChatRoom) : Prop :=
  ∀ q ∈ r.avatars, ∃ b, s.avatar? q = some b ∧ NoNull IgnoreContact.ignored b.ignoreList

theorem Fit.askable (hs : Fit (fun _ => True) s) (hr : r ∈ s.rooms) : s.Askable r := by
  intro q hq
  have hlive := hs.pointers.rooms r hr q (List.mem_append_left _ hq)
  obtain ⟨b, hb, _, hobject⟩ := avatar?_of_live hs.allocated hlive
  refine ⟨b, hobject, fun contact hcontact => ?_⟩
  obtain ⟨ignored, hignored, _⟩ := hs.pointers.ignored b hb contact hcontact
  rw [hignored]
  rfl

theorem getAvatarIds_run (h : s.Askable r) : getAvatarIds r p s =
    (.ok ((r.avatars.filter fun q => !s.ignoring q p).map (·.avatarId)), s) := by
  have hask : ∀ q ∈ r.avatars, isIgnored q (some p) s = (.ok (s.ignoring q p), s) := by
    intro q hq
    obtain ⟨b, hobject, hnull⟩ := h q hq
    rw [isIgnored_run hobject hnull, Server.ignoring, hobject]
    rfl
  rw [getAvatarIds, bind_ok (removeIf_run hask)]
  rfl

theorem broadcasts_sendRoomMessageUpdate (hr : s.rooms[room]? = some r) (ha : s.avatar? p = some a)
    (haskable : s.Askable r) (messageId : UInt32) (message oob : U16String) :
    Broadcasts s r.getConnectedAddresses (.roomMessage a r.roomId
        ((r.avatars.filter fun q => !s.ignoring q p).map (·.avatarId)) message oob messageId)
      (sendRoomMessageUpdate p room messageId message oob) := by
  intro sent
  have hread : readRoom room { s with sent } = (.ok r, { s with sent }) := readRoom_of_getElem? hr
  unfold Ends
  rw [sendRoomMessageUpdate, bind_ok hread]
  refine broadcasts_forM (fun address sent => ?_) r.getConnectedAddresses sent
  have hread : readRoom room { s with sent } = (.ok r, { s with sent }) := readRoom_of_getElem? hr
  have hids : getAvatarIds r p { s with sent } = _ := getAvatarIds_run (s := { s with sent }) haskable
  unfold Ends
  rw [bind_ok hread, bind_ok hids]
  refine broadcasts_sendTo (fun sent => ?_) sent
  have hobject : ({ s with sent } : Server).avatar? p = some a := ha
  rw [bind_ok (readAvatar_run hobject)]
  rfl

theorem Grown.avatar? (h : Grown s u) {q : AvatarPtr} {b : ChatAvatar} (hq : s.avatar? q = some b) :
    u.avatar? q = some b := by
  obtain ⟨rest, hrest⟩ := h.cache
  rw [Server.avatar?] at hq
  rw [Server.avatar?, ← hrest, List.find?_append, hq]
  rfl

/-- A lookup changes nobody's mind. -/
theorem Grown.ignoring (h : Grown s u) (haskable : s.Askable r) {q : AvatarPtr} (hq : q ∈ r.avatars) :
    u.ignoring q p = s.ignoring q p := by
  obtain ⟨b, hb, _⟩ := haskable q hq
  rw [Server.ignoring, Server.ignoring, hb, h.avatar? hb]

/-- Where no avatar is twice in the room, the listeners are named once and the ignorers not at all. -/
theorem count_listeners {members : List AvatarPtr} (hnodup : (members.map (·.avatarId)).Nodup)
    (ignores : AvatarPtr → Bool) (avatarId : UInt32) :
    ((members.filter fun q => !ignores q).map (·.avatarId)).count avatarId =
      if ∃ q ∈ members, q.avatarId = avatarId ∧ ignores q = false then 1 else 0 := by
  have hlisteners := hnodup.sublist ((List.filter_sublist (p := fun q => !ignores q)).map _)
  have hmem : avatarId ∈ (members.filter fun q => !ignores q).map (·.avatarId) ↔
      ∃ q ∈ members, q.avatarId = avatarId ∧ ignores q = false := by
    simp only [List.mem_map, List.mem_filter, Bool.not_eq_true']
    exact exists_congr fun q => by rw [and_assoc, and_comm (a := ignores q = false)]
  split <;> rename_i hlistens
  · exact List.count_eq_one_of_mem hlisteners (hmem.mpr hlistens)
  · exact List.count_eq_zero_of_not_mem (mt hmem.mp hlistens)

/-- Two game servers, each with an avatar of its own in the room of the first. -/
def audienceRun : List Input :=
  [.connect, .connect, .request 0 (.loginAvatar ⟨1, 1, systemName, [0x61], [], 0, 0⟩) 0 0,
    .request 1 (.loginAvatar ⟨2, 2, systemName, [0x62], [], 0, 0⟩) 0 0,
    .request 0 (.loginAvatar ⟨3, 3, [0x63], [0x61], [], 0, 0⟩) 0 0,
    .request 1 (.loginAvatar ⟨4, 4, [0x64], [0x62], [], 0, 0⟩) 0 0,
    .request 0 (.createRoom ⟨5, 3, [0x72], [], [], 0, 0, [0x61], []⟩) 0 0,
    .request 0 (.enterRoom ⟨6, 3, [0x61, 0x2B, 0x72], [], none, false, []⟩) 0 0,
    .request 1 (.enterRoom ⟨7, 4, [0x61, 0x2B, 0x72], [], none, false, []⟩) 0 0]

/-- One ROOMMESSAGE goes to each registered address with a member, and to no other. -/
theorem sendRoomMessage_reaches {request : ReqSendRoomMessage} (hs : Fit (fun _ => True) s)
    (hsrc : requireSrcAvatar request.srcAvatarId s = (.ok p, u))
    (hroom : s.roomAt request.destRoomAddress = some r) :
    (Handler.sendRoomMessage request).Ends s
      (fun _ t => ∃ a destList more, a.self = p ∧ t.sent = s.sent ++ more ∧
        s.Announced r.Houses (.roomMessage a r.roomId destList request.message request.oob
          r.roomMessageId) more ∧
        ((r.avatars.map (·.avatarId)).Nodup → ∀ avatarId, destList.count avatarId =
          if ∃ q ∈ r.avatars, q.avatarId = avatarId ∧ s.ignoring q p = false then 1 else 0))
      (fun e _ => e = .dangling ∧ ∃ address, r.Houses address ∧ s.Stale address) := by
  obtain ⟨hu, hgrown, hfound⟩ := (requireSrcAvatar_found hs request.srcAvatarId).ok_of_run hsrc
  obtain ⟨a, _, hself, hobject⟩ := avatar?_of_live hu.allocated hfound.live
  have hrooms : u.rooms = s.rooms := by rw [hgrown.rest]
  have hroom' : u.roomAt request.destRoomAddress = some r := by rw [Server.roomAt, hrooms]; exact hroom
  obtain ⟨room, hrequire, hr⟩ := requireRoom_at hroom' .addressNotRoom
  have haskable := hs.askable (List.mem_of_find?_eq_some hroom)
  have hmembers : u.Askable r := hu.askable (List.mem_of_getElem? hr)
  unfold Ends
  rw [Handler.sendRoomMessage, bind_ok hsrc, bind_ok hrequire, bind_ok (readRoom_of_getElem? hr)]
  let v := (evaluatePolicyEvent (policyEvent .messageSend p request.destRoomAddress
    (request.message.length + request.oob.length)) { u with
      response := { u.response with roomId := some r.roomId } }).2
  have hsilent : Silent s v := hgrown.silent.trans ⟨rfl, rfl, rfl⟩
  have hr : v.rooms[room]? = some r := hr
  have hcounted := getElem?_updateRoom (f := fun r => { r with roomMessageId := r.roomMessageId + 1 }) hr
  change Ends (writeRoom room _ >>= fun _ => _) v _ _
  unfold Ends
  rw [bind_ok (writeRoom_of_getElem? hr _)]
  have hsends := broadcasts_sendRoomMessageUpdate hcounted (p := p) (a := a) hobject hmembers
    r.roomMessageId request.message request.oob
  apply (hsends v.sent).mono
  · rintro _ t rfl
    refine ⟨a, (r.avatars.filter fun q => !u.ignoring q p).map (·.avatarId), _, hself,
      congrArg₂ (· ++ ·) hsilent.sent (congrFun₂ hsilent.posts r.getConnectedAddresses _),
      announced_posts nodup_getConnectedAddresses (fun _ => mem_getConnectedAddresses) _,
      fun hnodup avatarId => ?_⟩
    · rw [count_listeners hnodup]
      refine if_congr (exists_congr fun q => and_congr_right fun hq => ?_) rfl rfl
      rw [hgrown.ignoring haskable hq]
  · rintro e _ ⟨he, address, hmem, hstale⟩
    exact ⟨he, address, mem_getConnectedAddresses.mp hmem, congrFun hsilent.stale address ▸ hstale⟩

/-- The second avatar speaks, and the first hears it. -/
theorem sendRoomMessage_reaches_two : ∃ (s t : Server) (r : ChatRoom) (a : ChatAvatar) (destList : List UInt32)
    (more : List (ClientId × Outgoing)),
      Handler.sendRoomMessage ⟨8, 4, [0x61, 0x2B, 0x72], [0x68], [], []⟩ s = (.ok (), t) ∧
      t.sent = s.sent ++ more ∧ s.Announced r.Houses (.roomMessage a r.roomId destList [0x68] []
        r.roomMessageId) more ∧ destList.count 3 = 1 := by
  have hrun : ∃ s, Server.Reaches Server.AnyInput Server.blank s ∧
      (requireSrcAvatar 4 s).1 = .ok ⟨5, 4, [0x64], [0x62]⟩ ∧
      (∃ r ∈ s.roomAt [0x61, 0x2B, 0x72], (r.avatars.map (·.avatarId)).Nodup ∧
        ∃ q ∈ r.avatars, q.avatarId = 3 ∧ s.ignoring q ⟨5, 4, [0x64], [0x62]⟩ = false) ∧
      (Handler.sendRoomMessage ⟨8, 4, [0x61, 0x2B, 0x72], [0x68], [], []⟩ s).1 = .ok () :=
    Server.exists_reached audienceRun (by decide +kernel)
  obtain ⟨s, hreach, hsrc, ⟨r, hroom, hnodup, hlistens⟩, hok⟩ := hrun
  have hfit := fit_reaches_any Database.referential_empty hreach
  have hends : (Handler.sendRoomMessage ⟨8, 4, [0x61, 0x2B, 0x72], [0x68], [], []⟩).Ends s _ _ :=
    sendRoomMessage_reaches (u := (requireSrcAvatar 4 s).2) hfit (Prod.ext hsrc rfl) hroom
  obtain ⟨a, destList, more, _, hsent, hannounced, hcount⟩ := hends.ok_of_run (Prod.ext hok rfl)
  exact ⟨s, _, r, a, destList, more, Prod.ext hok rfl, hsent, hannounced,
    (hcount hnodup 3).trans (if_pos hlistens)⟩

end Speaking

section Gone

theorem destroyRoom_silent (hr : s.rooms[room]? = some r) (h : destroyRoom room s = (.ok (), t)) :
    Silent s t ∧ t.avatarCache = s.avatarCache := by
  rw [destroyRoom_run hr] at h
  split at h
  · exact absurd (Prod.mk.inj h).1 (by simp)
  split at h
  · obtain ⟨_, rfl⟩ := Prod.mk.inj h
    cases r.isPersistent <;> exact ⟨⟨rfl, rfl, rfl⟩, rfl⟩
  · exact absurd (Prod.mk.inj h).1 (by simp)

/-- The addresses are those of the members, but that of the creator. -/
theorem destroyRoom_tells {request : ReqDestroyRoom} (hs : Fit (fun _ => True) s)
    (hsrc : requireSrcAvatar request.srcAvatarId s = (.ok p, u))
    (hroom : s.roomAt request.roomAddress = some r)
    (hrun : Handler.destroyRoom request s = (.ok (), t)) :
    ∃ a, a.self = p ∧ t.sent = s.sent ++ s.posts r.getRemoteAddresses (.destroyRoom a r.roomId) := by
  obtain ⟨hu, hgrown, hfound⟩ := (requireSrcAvatar_found hs request.srcAvatarId).ok_of_run hsrc
  obtain ⟨a, _, hself, hobject⟩ := avatar?_of_live hu.allocated hfound.live
  have hrooms : u.rooms = s.rooms := by rw [hgrown.rest]
  have hroom' : u.roomAt request.roomAddress = some r := by rw [Server.roomAt, hrooms]; exact hroom
  obtain ⟨room, hrequire, hr⟩ := requireRoom_at hroom' .addressNotRoom
  rw [Handler.destroyRoom, bind_ok hsrc, bind_ok hrequire, bind_ok (readRoom_of_getElem? hr)] at hrun
  let v := { u with response := { u.response with roomId := some r.roomId } }
  have hr : v.rooms[room]? = some r := hr
  change (destroyRoom room >>= fun _ => _) v = _ at hrun
  rcases hdestroy : destroyRoom room v with ⟨e | _, w⟩
  · rw [bind_error hdestroy] at hrun
    exact absurd (Prod.mk.inj hrun).1 (by simp)
  · rw [bind_ok hdestroy] at hrun
    obtain ⟨hsilent, hcache⟩ := destroyRoom_silent hr hdestroy
    have hsilent : Silent s w :=
      hgrown.silent.trans ⟨hsilent.sent, hsilent.clients, hsilent.clientAddressMap⟩
    have hobject : w.avatar? p = some a := by rw [Server.avatar?, hcache]; exact hobject
    have hsends := broadcasts_about hobject (.destroyRoom · r.roomId) r.getRemoteAddresses w.sent
    obtain rfl := hsends.ok_of_run hrun
    exact ⟨a, hself, congrArg₂ (· ++ ·) hsilent.sent (congrFun₂ hsilent.posts _ _)⟩

/-- Every registered address with a member, but for the one the response goes to, is told once exactly
if the creator's own address is none of them. -/
theorem destroyRoom_tells_iff {request : ReqDestroyRoom} (hs : Fit (fun _ => True) s)
    (hsrc : requireSrcAvatar request.srcAvatarId s = (.ok p, u))
    (hroom : s.roomAt request.roomAddress = some r)
    (hrun : Handler.destroyRoom request s = (.ok (), t)) :
    ∃ a more, a.self = p ∧ t.sent = s.sent ++ more ∧ ∃ addresses : List U16String,
      List.Forall₂ (fun address m => s.clientAddressMap address = some m.1 ∧
        m.2 = .notify (.destroyRoom a r.roomId)) addresses more ∧
      ((∀ address, r.Houses address → (s.clientAddressMap address).isSome = true → address ≠ p.address →
          addresses.count address = 1) ↔
        r.creatorAddress = p.address ∨
          ¬ (r.Houses r.creatorAddress ∧ (s.clientAddressMap r.creatorAddress).isSome = true)) := by
  obtain ⟨a, hself, hsent⟩ := destroyRoom_tells hs hsrc hroom hrun
  refine ⟨a, _, hself, hsent, _, delivered_posts s r.getRemoteAddresses _, ?_⟩
  have hnodup := nodup_getRemoteAddresses.filter (l := r.getRemoteAddresses)
    fun address => (s.clientAddressMap address).isSome
  constructor
  · intro htold
    by_contra hnot
    obtain ⟨hother, hcreator⟩ := not_or.mp hnot
    obtain ⟨hhouses, hregistered⟩ := not_not.mp hcreator
    have hcount := htold r.creatorAddress hhouses hregistered hother
    have hmem := List.count_pos_iff.mp (Nat.lt_of_lt_of_eq Nat.zero_lt_one hcount.symm)
    exact (mem_getRemoteAddresses.mp (List.mem_filter.mp hmem).1).2 rfl
  · intro hcreator address hhouses hregistered hother
    have hne : address ≠ r.creatorAddress := by
      rintro rfl
      exact hcreator.elim (fun h => hother h) fun h => h ⟨hhouses, hregistered⟩
    refine List.count_eq_one_of_mem hnodup (List.mem_filter.mpr ⟨?_, hregistered⟩)
    exact mem_getRemoteAddresses.mpr ⟨hhouses, hne⟩

/-- The creator destroys its room, and the other game server is told. -/
theorem destroyRoom_tells_iff_creator : ∃ (s t : Server) (a : ChatAvatar) (roomId : UInt32)
    (more : List (ClientId × Outgoing)) (addresses : List U16String),
    Handler.destroyRoom ⟨8, 3, [0x61, 0x2B, 0x72], []⟩ s = (.ok (), t) ∧ t.sent = s.sent ++ more ∧
      List.Forall₂ (fun address m => s.clientAddressMap address = some m.1 ∧
        m.2 = .notify (.destroyRoom a roomId)) addresses more ∧ addresses.count [0x62] = 1 := by
  have hrun : ∃ s, Server.Reaches Server.AnyInput Server.blank s ∧
      (requireSrcAvatar 3 s).1 = .ok ⟨4, 3, [0x63], [0x61]⟩ ∧
      (∃ r ∈ s.roomAt [0x61, 0x2B, 0x72], r.Houses [0x62] ∧ r.creatorAddress = [0x61]) ∧
      (s.clientAddressMap [0x62]).isSome = true ∧
      (Handler.destroyRoom ⟨8, 3, [0x61, 0x2B, 0x72], []⟩ s).1 = .ok () :=
    Server.exists_reached audienceRun (by decide +kernel)
  obtain ⟨s, hreach, hsrc, ⟨r, hroom, hhouses, hcreator⟩, hregistered, hok⟩ := hrun
  have hfit := fit_reaches_any Database.referential_empty hreach
  have hfound : requireSrcAvatar (⟨8, 3, [0x61, 0x2B, 0x72], []⟩ : ReqDestroyRoom).srcAvatarId s =
      (.ok ⟨4, 3, [0x63], [0x61]⟩, (requireSrcAvatar 3 s).2) := Prod.ext hsrc rfl
  obtain ⟨a, more, _, hsent, addresses, hdelivered, htold⟩ :=
    destroyRoom_tells_iff hfit hfound hroom (Prod.ext hok rfl)
  exact ⟨s, _, a, r.roomId, more, addresses, Prod.ext hok rfl, hsent, hdelivered,
    htold.mpr (.inl hcreator) [0x62] hhouses hregistered (by decide)⟩

/-- The second avatar destroys the room. The game server of its creator is registered, has a member in
the room and hears nothing. -/
theorem destroyRoom_forgets_creator : ∃ s, Server.Reaches Server.AnyInput Server.blank s ∧
    (requireSrcAvatar 4 s).1 = .ok ⟨5, 4, [0x64], [0x62]⟩ ∧
    (∃ r ∈ s.roomAt [0x61, 0x2B, 0x72], r.Houses [0x61]) ∧ s.clientAddressMap [0x61] = some 0 ∧
    (Handler.destroyRoom ⟨8, 4, [0x61, 0x2B, 0x72], []⟩ s).1 = .ok () ∧
    ∀ m ∈ (Handler.destroyRoom ⟨8, 4, [0x61, 0x2B, 0x72], []⟩ s).2.sent.drop s.sent.length, m.1 ≠ 0 :=
  Server.exists_reached audienceRun (by decide +kernel)

end Gone
end StationChat
