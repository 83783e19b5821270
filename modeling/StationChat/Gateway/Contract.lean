import StationChat.Gateway.GetAvatar
import StationChat.Model.GatewayClient

/-! The contract every part of the gateway keeps: which pointers are good, which integers are in
range, what may be thrown, and what a computation leaves alone. -/
namespace StationChat
open Lib Lib.Action Lib.Contract

/-- Every avatar pointer a room holds. -/
def ChatRoom.pointers (r : ChatRoom) : List AvatarPtr :=
  r.avatars ++ (r.administrators ++ (r.moderators ++ (r.tempModerators ++
    (r.banned ++ (r.invited ++ r.voice)))))

/-- Every integer that some query reads back is in the range of `ColumnInt`. -/
structure Database.Small (db : Database) : Prop where
  avatar : ∀ row ∈ db.avatar, row.Small
  room : ∀ row ∈ db.room, row.Small
  message : ∀ row ∈ db.persistentMessage, row.Small

/-- A contact whose pointer is neither null nor dangling. -/
def Good (cache : List ChatAvatar) (contact : Option AvatarPtr) : Prop :=
  ∃ p, contact = some p ∧ Live cache p

theorem Good.mono {cache cache' : List ChatAvatar} {contact : Option AvatarPtr}
    (h : Good cache contact) (hlive : ∀ p, Live cache p → Live cache' p) : Good cache' contact := by
  obtain ⟨p, hc, hp⟩ := h
  exact ⟨p, hc, hlive p hp⟩

/-- No pointer held anywhere is null or dangling. -/
structure Pointers (db : Database) (cache : List ChatAvatar) (objects : Nat)
    (online : List AvatarPtr) (rooms : List ChatRoom) : Prop where
  referential : db.Referential
  allocated : Allocated cache objects
  friends : ∀ a ∈ cache, ∀ c ∈ a.friendList, Good cache c.frnd
  ignored : ∀ a ∈ cache, ∀ c ∈ a.ignoreList, Good cache c.ignored
  online : ∀ p ∈ online, Live cache p
  rooms : ∀ r ∈ rooms, ∀ p ∈ r.pointers, Live cache p

structure InRange (db : Database) (cache : List ChatAvatar) : Prop where
  tables : db.Small
  cached : ∀ a ∈ cache, a.self.avatarId.toNat < 2 ^ 31 ∧ a.userId.toNat < 2 ^ 31

/-- The registered clients are clients of the node. -/
def Routed (clients : List ClientId) (map : U16String → Option ClientId) : Prop :=
  ∀ address client, map address = some client → client ∈ clients

theorem Routed.register {clients : List ClientId} {map : U16String → Option ClientId}
    (h : Routed clients map) (address : U16String) {client : ClientId} (hclient : client ∈ clients) :
    Routed clients (Function.update map address (some client)) := by
  intro a c hc
  by_cases ha : a = address
  · rw [ha, Function.update_self] at hc
    rw [← Option.some.inj hc]
    exact hclient
  · rw [Function.update_of_ne ha] at hc
    exact h a c hc

/-- A persistent room without its service has no moderators, so that only its creator can pass the
checks of a role operation. -/
def Bare (rooms : List ChatRoom) : Prop :=
  ∀ r ∈ rooms, r.roomService = .unset → r.isPersistent = true → r.moderators = []

/-- The invariant. `P` says which kinds of trouble are tolerated; the parts that only exclude a
tolerated kind are not claimed. -/
def Fit (P : Exn → Prop) (s : Server) : Prop :=
  Pointers s.db s.avatarCache s.objects s.onlineAvatars s.rooms ∧
    (¬ P .outOfRange → InRange s.db s.avatarCache) ∧
    (¬ P .dangling → Routed s.clients s.clientAddressMap) ∧
    (¬ P .unsetService → Bare s.rooms)

/-- The exceptions `HandleIncomingMessage` catches, and the trouble that is tolerated. -/
def Allowed (P : Exn → Prop) : Exn → Prop
  | .chatResult code _ => code ≠ .success
  | .database => True
  | .outOfFuel => False
  | e => P e

/-- Pointers stay good, clients stay, notifications are all that is sent; with `keep`, the rooms
keep their positions. -/
structure Kept (keep : Prop) (s t : Server) : Prop where
  live : ∀ p, Live s.avatarCache p → Live t.avatarCache p
  clients : t.clients = s.clients
  type : t.response.type = s.response.type
  track : t.response.track = s.response.track
  notified : ∃ l : List (ClientId × Notification), t.sent = s.sent ++ l.map fun m => (m.1, .notify m.2)
  rooms : keep → s.rooms.length ≤ t.rooms.length

namespace Kept
variable {keep : Prop} {s t u : Server}

theorem refl (s : Server) : Kept keep s s :=
  ⟨fun _ h => h, rfl, rfl, rfl, ⟨[], by simp⟩, fun _ => Nat.le_refl _⟩

theorem trans (h : Kept keep s t) (h' : Kept keep t u) : Kept keep s u := by
  obtain ⟨l, hl⟩ := h.notified
  obtain ⟨l', hl'⟩ := h'.notified
  refine ⟨fun p hp => h'.live p (h.live p hp), h'.clients.trans h.clients, h'.type.trans h.type,
    h'.track.trans h.track, ⟨l ++ l', ?_⟩, fun hk => Nat.le_trans (h.rooms hk) (h'.rooms hk)⟩
  rw [hl', hl, List.map_append, List.append_assoc]

/-- A change of fields the relation does not mention, or only of the cache. -/
theorem of_eq (hlive : ∀ p, Live s.avatarCache p → Live t.avatarCache p)
    (hclients : t.clients = s.clients) (hresponse : t.response = s.response) (hsent : t.sent = s.sent)
    (hrooms : keep → s.rooms.length ≤ t.rooms.length) : Kept keep s t :=
  ⟨hlive, hclients, by rw [hresponse], by rw [hresponse], ⟨[], by simp [hsent]⟩, hrooms⟩

theorem of_grown (h : Grown s t) : Kept keep s t := by
  refine of_eq (fun p hp => h.live hp) ?_ ?_ ?_ ?_
  · rw [h.rest]
  · rw [h.rest]
  · rw [h.rest]
  · rw [h.rest]
    exact fun _ => Nat.le_refl _

theorem mono {keep' : Prop} (h : Kept keep s t) (hk : keep' → keep) : Kept keep' s t :=
  ⟨h.live, h.clients, h.type, h.track, h.notified, fun hk' => h.rooms (hk hk')⟩

end Kept

theorem live_updateAvatar {s : Server} {p : AvatarPtr} {f : ChatAvatar → ChatAvatar}
    (hself : ∀ a, (f a).self = a.self) (q : AvatarPtr) (hq : Live s.avatarCache q) :
    Live (s.updateAvatar p f).avatarCache q := by
  obtain ⟨a, ha, rfl⟩ := hq
  refine ⟨if a.self.obj == p.obj then f a else a, List.mem_map.mpr ⟨a, ha, rfl⟩, ?_⟩
  split
  · exact hself a
  · rfl

/-- The contract of the gateway's computations. -/
def gateway (P : Exn → Prop) (keep : Prop) : Contract Server Exn where
  inv := Fit P
  step := Kept keep
  allowed := Allowed P
  refl := Kept.refl
  trans := Kept.trans

namespace Fit
variable {P : Exn → Prop} {s : Server}

theorem pointers (h : Fit P s) : Pointers s.db s.avatarCache s.objects s.onlineAvatars s.rooms := h.1
theorem inRange (h : Fit P s) (hr : ¬ P .outOfRange) : InRange s.db s.avatarCache := h.2.1 hr
theorem routed (h : Fit P s) (hr : ¬ P .dangling) : Routed s.clients s.clientAddressMap := h.2.2.1 hr
theorem bare (h : Fit P s) (hr : ¬ P .unsetService) : Bare s.rooms := h.2.2.2 hr
theorem allocated (h : Fit P s) : Allocated s.avatarCache s.objects := h.1.allocated

/-- The pointer part for a cache that is longer at its end by one avatar without contacts. -/
theorem cached (h : Fit P s) {avatar : ChatAvatar} (hfriends : avatar.friendList = [])
    (hignored : avatar.ignoreList = []) (hobj : ∀ a ∈ s.avatarCache, a.self.obj < avatar.self.obj)
    (hlt : avatar.self.obj < s.objects)
    (hsmall : ¬ P .outOfRange → avatar.self.avatarId.toNat < 2 ^ 31 ∧ avatar.userId.toNat < 2 ^ 31) :
    Fit P (s.cached avatar) := by
  have hlive : ∀ p, Live s.avatarCache p → Live (s.avatarCache ++ [avatar]) p := fun p hp =>
    hp.mono (List.prefix_append _ _)
  have hmem : ∀ a ∈ s.avatarCache ++ [avatar], a ∈ s.avatarCache ∨ a = avatar := fun a ha => by
    simpa using ha
  refine ⟨⟨h.1.referential, h.allocated.cached hobj hlt, ?_, ?_, fun p hp => hlive p (h.1.online p hp),
    fun r hr p hp => hlive p (h.1.rooms r hr p hp)⟩, fun hr => ⟨(h.inRange hr).tables, ?_⟩, h.2.2⟩
  · intro a ha c hc
    rcases hmem a ha with ha | rfl
    · exact (h.1.friends a ha c hc).mono hlive
    · simp [hfriends] at hc
  · intro a ha c hc
    rcases hmem a ha with ha | rfl
    · exact (h.1.ignored a ha c hc).mono hlive
    · simp [hignored] at hc
  · intro a ha
    rcases hmem a ha with ha | rfl
    · exact (h.inRange hr).cached a ha
    · exact hsmall hr

/-- Overwriting one avatar whose contacts stay good pointers. -/
theorem updateAvatar (h : Fit P s) {p : AvatarPtr} {f : ChatAvatar → ChatAvatar}
    (hself : ∀ a, (f a).self = a.self) (huser : ∀ a, (f a).userId = a.userId)
    (hfriends : ∀ a ∈ s.avatarCache, ∀ c ∈ (f a).friendList,
      c ∈ a.friendList ∨ Good s.avatarCache c.frnd)
    (hignored : ∀ a ∈ s.avatarCache, ∀ c ∈ (f a).ignoreList,
      c ∈ a.ignoreList ∨ Good s.avatarCache c.ignored) :
    Fit P (s.updateAvatar p f) := by
  have hback : ∀ b ∈ (s.updateAvatar p f).avatarCache, ∃ a ∈ s.avatarCache, b = a ∨ b = f a := by
    intro b hb
    obtain ⟨a, ha, rfl⟩ := List.mem_map.mp hb
    refine ⟨a, ha, ?_⟩
    split
    · exact .inr rfl
    · exact .inl rfl
  have hselves : ∀ b ∈ (s.updateAvatar p f).avatarCache,
      ∃ a ∈ s.avatarCache, b.self = a.self ∧ b.userId = a.userId := by
    intro b hb
    obtain ⟨a, ha, rfl | rfl⟩ := hback b hb
    · exact ⟨_, ha, rfl, rfl⟩
    · exact ⟨a, ha, hself a, huser a⟩
  have hlive := live_updateAvatar (s := s) (p := p) hself
  refine ⟨⟨h.1.referential, h.allocated.updateAvatar hself, ?_, ?_, fun q hq => hlive q (h.1.online q hq),
    fun r hr q hq => hlive q (h.1.rooms r hr q hq)⟩, fun hr => ⟨(h.inRange hr).tables, ?_⟩, h.2.2⟩
  · intro b hb c hc
    obtain ⟨a, ha, hba⟩ := hback b hb
    have hgood : c ∈ a.friendList ∨ Good s.avatarCache c.frnd := by
      rcases hba with rfl | rfl
      · exact .inl hc
      · exact hfriends a ha c hc
    rcases hgood with hc | hc
    · exact (h.1.friends a ha c hc).mono hlive
    · exact hc.mono hlive
  · intro b hb c hc
    obtain ⟨a, ha, hba⟩ := hback b hb
    have hgood : c ∈ a.ignoreList ∨ Good s.avatarCache c.ignored := by
      rcases hba with rfl | rfl
      · exact .inl hc
      · exact hignored a ha c hc
    rcases hgood with hc | hc
    · exact (h.1.ignored a ha c hc).mono hlive
    · exact hc.mono hlive
  · intro b hb
    obtain ⟨a, ha, heq, hu⟩ := hselves b hb
    rw [heq, hu]
    exact (h.inRange hr).cached a ha

end Fit
end StationChat
