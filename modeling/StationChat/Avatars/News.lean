import StationChat.Avatars.Contacts
import StationChat.Gateway.Contract
import StationChat.Gateway.Outbox

/-! The messages about presence: what a login, a logout and a new friend make the server send. -/
namespace StationChat
open Lib Lib.Action Lib.Contract

variable {s t u : Server} {p q : AvatarPtr} {a b : ChatAvatar} {client : ClientId}

section Emitting
variable {α : Type} {news news' : List (ClientId × Outgoing)}

/-- Wherever the sending starts, these messages are sent, unless a client is gone. -/
def Emits (s : Server) (news : List (ClientId × Outgoing)) (x : Serve Unit) : Prop :=
  ∀ sent, x.Ends { s with sent } (fun _ t => t = { s with sent := sent ++ news })
    (fun e _ => e = .dangling ∧ ∃ address, s.Stale address)

theorem emits_pure : Emits s [] (pure ()) := by
  intro sent
  simp

theorem Broadcasts.emits {addresses : List U16String} {n : Notification} {x : Serve Unit}
    (h : Broadcasts s addresses n x) : Emits s (s.posts addresses n) x := by
  intro sent
  apply (h sent).mono
  · exact fun _ _ ht => ht
  · exact fun _ _ ⟨he, address, _, hstale⟩ => ⟨he, address, hstale⟩

/-- What is read first does not depend on what was sent. -/
theorem emits_read {x : Serve α} {c : α} {f : α → Serve Unit}
    (hx : ∀ sent, x { s with sent } = (.ok c, { s with sent })) (hf : Emits s news (f c)) :
    Emits s news (x >>= f) := by
  intro sent
  unfold Ends
  rw [bind_ok (hx sent)]
  exact hf sent

theorem emits_runIf {c : Bool} {x : Serve Unit} (hx : Emits s news x) :
    Emits s (if c then news else []) (x.runIf c) := by
  cases c with
  | true => exact hx
  | false => exact emits_pure

theorem emits_bind {x y : Serve Unit} (hx : Emits s news x) (hy : Emits s news' y) :
    Emits s (news ++ news') (x >>= fun _ => y) := by
  intro sent
  rw [ends_bind]
  apply (hx sent).mono
  · rintro _ t rfl
    rw [← List.append_assoc]
    exact hy (sent ++ news)
  · exact fun _ _ he => he

theorem emits_forM {f : α → Serve Unit} {g : α → List (ClientId × Outgoing)} {l : List α}
    (hf : ∀ x ∈ l, Emits s (g x) (f x)) : Emits s (l.flatMap g) (forM l f) := by
  induction l with
  | nil => exact emits_pure
  | cons x rest ih =>
    obtain ⟨hx, hrest⟩ := List.forall_mem_cons.mp hf
    rw [List.forM_cons, List.flatMap_cons]
    exact emits_bind hx (ih hrest)

end Emitting

namespace Server

/-- The avatar behind the first pointer has that of the second as a friend. -/
def befriended (s : Server) (q p : AvatarPtr) : Bool := (s.avatar? q).any (·.hasFriend p.avatarId)

/-- What the friends of an avatar are told that comes online. -/
def arrivalNews (s : Server) (p : AvatarPtr) (a : ChatAvatar) : List (ClientId × Outgoing) :=
  s.onlineAvatars.flatMap fun q =>
    if s.befriended q p then s.posts [q.address] (.friendLogin a p.address q.avatarId a.statusMessage) else []

/-- What an avatar is told about one friend when it comes online. -/
def contactNews (s : Server) (client : ClientId) (avatarId : UInt32) (contact : FriendContact) :
    List (ClientId × Outgoing) :=
  (contact.frnd.bind fun q => (s.avatar? q).map fun f => (q, f)).toList.flatMap fun (q, f) =>
    if f.isOnline then [(client, .notify (.friendLogin f q.address avatarId f.statusMessage))] else []

/-- What the friends of an avatar are told that goes offline. -/
def departureNews (s : Server) (p : AvatarPtr) (a : ChatAvatar) : List (ClientId × Outgoing) :=
  s.onlineAvatars.flatMap fun q =>
    if s.befriended q p then s.posts [q.address] (.friendLogout a p.address q.avatarId) else []

end Server

section Emissions

theorem Fit.friendly (hs : Fit (fun _ => True) s) (hq : Live s.avatarCache q) :
    ∃ b ∈ s.avatarCache, b.self = q ∧ s.avatar? q = some b ∧ NoNull FriendContact.frnd b.friendList := by
  obtain ⟨b, hb, hself, hobject⟩ := avatar?_of_live hs.allocated hq
  refine ⟨b, hb, hself, hobject, fun contact hcontact => ?_⟩
  obtain ⟨frnd, hfrnd, _⟩ := hs.pointers.friends b hb contact hcontact
  rw [hfrnd]
  rfl

theorem isFriend_befriended (hs : Fit (fun _ => True) s) (hq : Live s.avatarCache q) (sent) :
    isFriend q (some p) { s with sent } = (.ok (s.befriended q p), { s with sent }) := by
  obtain ⟨b, _, _, hobject, hnull⟩ := hs.friendly hq
  have hask : isFriend q (some p) { s with sent } = (.ok (b.hasFriend p.avatarId), { s with sent }) :=
    isFriend_run hobject hnull
  rw [hask, Server.befriended, hobject]
  rfl

theorem friendLogin_run (ha : s.avatar? p = some a) (avatarId : UInt32) (sent) :
    friendLogin p avatarId { s with sent } =
      (.ok (.friendLogin a p.address avatarId a.statusMessage), { s with sent }) := by
  have hobject : ({ s with sent } : Server).avatar? p = some a := ha
  rw [friendLogin, bind_ok (readAvatar_run hobject)]
  rfl

theorem emits_sendFriendLoginUpdate (ha : s.avatar? p = some a) (q : AvatarPtr) :
    Emits s (s.posts [q.address] (.friendLogin a p.address q.avatarId a.statusMessage))
      (sendFriendLoginUpdate q p) :=
  emits_read (friendLogin_run ha q.avatarId) (broadcasts_sendTo fun _ => rfl).emits

theorem emits_sendFriendLogoutUpdates (hs : Fit (fun _ => True) s) (ha : s.avatar? p = some a) :
    Emits s (s.departureNews p a) (sendFriendLogoutUpdates (some p)) := by
  intro sent
  unfold Ends
  rw [sendFriendLogoutUpdates, get_bind_run]
  refine emits_forM (fun q hq => ?_) sent
  refine emits_read (isFriend_befriended hs (hs.pointers.online q hq)) (emits_runIf ?_)
  refine emits_read (fun _ => rfl) (broadcasts_sendTo fun sent => ?_).emits
  have hobject : ({ s with sent } : Server).avatar? p = some a := ha
  rw [bind_ok (readAvatar_run hobject)]
  rfl

theorem emits_send (n : Notification) : Emits s [(client, .notify n)] (send client (.notify n)) := by
  intro sent
  exact rfl

theorem emits_sendFriendLoginUpdates (hs : Fit (fun _ => True) s) (ha : a ∈ s.avatarCache)
    (hobject : s.avatar? p = some a) :
    Emits s (s.arrivalNews p a ++ a.friendList.flatMap (s.contactNews client p.avatarId))
      (sendFriendLoginUpdates client p) := by
  have harrival : Emits s (s.arrivalNews p a) (forM s.onlineAvatars fun q => do
      runIf (← isFriend q (some p)) (sendFriendLoginUpdate q p)) := by
    apply emits_forM
    intro q hq
    apply emits_read (isFriend_befriended hs (hs.pointers.online q hq))
    exact emits_runIf (emits_sendFriendLoginUpdate hobject q)
  have hcontacts : Emits s (a.friendList.flatMap (s.contactNews client p.avatarId)) (do
      forM (← readAvatar p).friendList fun contact => do
        let frnd ← deref contact.frnd
        runIf (← readAvatar frnd).isOnline (do
          let message ← friendLogin frnd p.avatarId
          send client (.notify message))) := by
    apply emits_read fun _ => readAvatar_run hobject
    apply emits_forM
    intro contact hcontact
    obtain ⟨frnd, hfrnd, hlive⟩ := hs.pointers.friends a ha contact hcontact
    obtain ⟨f, _, _, hf, _⟩ := hs.friendly hlive
    have hnews : s.contactNews client p.avatarId contact = if f.isOnline then
        [(client, .notify (.friendLogin f frnd.address p.avatarId f.statusMessage))] else [] := by
      simp [Server.contactNews, hfrnd, hf]
    rw [hnews, hfrnd]
    apply emits_read fun _ => rfl
    apply emits_read fun _ => readAvatar_run hf
    exact emits_runIf (emits_read (friendLogin_run hf p.avatarId) (emits_send _))
  exact fun sent => emits_bind harrival hcontacts sent

end Emissions

section Presence
variable {m : ClientId × Outgoing} {y x : UInt32} {c : Bool}

/-- The news about `x` that a message brings `y`: whether `x` is online. -/
def Outgoing.presence (y x : UInt32) : Outgoing → Option Bool
  | .notify (.friendLogin a _ destAvatarId _) =>
    if a.self.avatarId = x ∧ destAvatarId = y then some true else none
  | .notify (.friendLogout a _ destAvatarId) =>
    if a.self.avatarId = x ∧ destAvatarId = y then some false else none
  | _ => none

/-- The last news about `x` that messages bring `y`. -/
def lastNews (y x : UInt32) (messages : List (ClientId × Outgoing)) : Option Bool :=
  (messages.filterMap (·.2.presence y x)).getLast?

theorem lastNews_append (messages more : List (ClientId × Outgoing)) :
    lastNews y x (messages ++ more) = (lastNews y x more).or (lastNews y x messages) := by
  rw [lastNews, List.filterMap_append, List.getLast?_append]
  rfl

theorem exists_of_lastNews {messages : List (ClientId × Outgoing)} (h : lastNews y x messages = some c) :
    ∃ m ∈ messages, m.2.presence y x = some c :=
  List.mem_filterMap.mp (List.mem_of_getLast? h)

theorem isSome_lastNews {messages : List (ClientId × Outgoing)} (hm : m ∈ messages)
    (hnews : (m.2.presence y x).isSome) : (lastNews y x messages).isSome := by
  obtain ⟨c, hc⟩ := Option.isSome_iff_exists.mp hnews
  have hmem : c ∈ messages.filterMap (·.2.presence y x) := List.mem_filterMap.mpr ⟨m, hm, hc⟩
  rw [lastNews, List.getLast?_isSome]
  exact List.ne_nil_of_mem hmem

theorem presence_friendLogin {address statusMessage : U16String} {destAvatarId : UInt32}
    (h : (Outgoing.notify (.friendLogin a address destAvatarId statusMessage)).presence y x = some c) :
    c = true ∧ a.self.avatarId = x := by
  simp only [Outgoing.presence, Option.ite_none_right_eq_some] at h
  exact ⟨(Option.some.inj h.2).symm, h.1.1⟩

theorem presence_friendLogout {address : U16String} {destAvatarId : UInt32}
    (h : (Outgoing.notify (.friendLogout a address destAvatarId)).presence y x = some c) :
    c = false ∧ a.self.avatarId = x := by
  simp only [Outgoing.presence, Option.ite_none_right_eq_some] at h
  exact ⟨(Option.some.inj h.2).symm, h.1.1⟩

theorem presence_arrivalNews (hm : m ∈ s.arrivalNews p a) (h : m.2.presence y x = some c) :
    c = true ∧ a.self.avatarId = x := by
  obtain ⟨q, _, hq⟩ := List.mem_flatMap.mp hm
  split at hq
  · obtain ⟨_, _, _, _, rfl⟩ := mem_posts.mp hq
    exact presence_friendLogin h
  · exact absurd hq List.not_mem_nil

theorem presence_departureNews (hm : m ∈ s.departureNews p a) (h : m.2.presence y x = some c) :
    c = false ∧ a.self.avatarId = x := by
  obtain ⟨q, _, hq⟩ := List.mem_flatMap.mp hm
  split at hq
  · obtain ⟨_, _, _, _, rfl⟩ := mem_posts.mp hq
    exact presence_friendLogout h
  · exact absurd hq List.not_mem_nil

theorem presence_contactNews {contact : FriendContact} {avatarId : UInt32}
    (hm : m ∈ s.contactNews client avatarId contact) (h : m.2.presence y x = some c) :
    c = true ∧ ∃ q f, contact.frnd = some q ∧ s.avatar? q = some f ∧ f.isOnline = true ∧ f.self.avatarId = x := by
  obtain ⟨⟨q, f⟩, hfriend, hsent⟩ := List.mem_flatMap.mp hm
  obtain ⟨q', hq', hf⟩ := Option.bind_eq_some_iff.mp (Option.mem_toList.mp hfriend)
  obtain ⟨f', hf', heq⟩ := Option.map_eq_some_iff.mp hf
  obtain ⟨rfl, rfl⟩ := Prod.mk.inj heq
  dsimp only at hsent
  split at hsent
  · rename_i honline
    obtain rfl := List.mem_singleton.mp hsent
    obtain ⟨hc, hx⟩ := presence_friendLogin h
    exact ⟨hc, q', f', hq', hf', honline, hx⟩
  · exact absurd hsent List.not_mem_nil

/-- Every friend with a registered address hears of it. -/
theorem arrivalNews_reaches (hq : q ∈ s.onlineAvatars) (hfriend : s.befriended q p = true)
    (hregistered : (s.clientAddressMap q.address).isSome) :
    ∃ m ∈ s.arrivalNews p a, (m.2.presence q.avatarId a.self.avatarId).isSome := by
  obtain ⟨client, hclient⟩ := Option.isSome_iff_exists.mp hregistered
  refine ⟨(client, .notify (.friendLogin a p.address q.avatarId a.statusMessage)),
    List.mem_flatMap.mpr ⟨q, hq, ?_⟩, by simp [Outgoing.presence]⟩
  rw [if_pos hfriend]
  exact mem_posts.mpr ⟨q.address, List.mem_singleton_self _, client, hclient, rfl⟩

theorem departureNews_reaches (hq : q ∈ s.onlineAvatars) (hfriend : s.befriended q p = true)
    (hregistered : (s.clientAddressMap q.address).isSome) :
    ∃ m ∈ s.departureNews p a, (m.2.presence q.avatarId a.self.avatarId).isSome := by
  obtain ⟨client, hclient⟩ := Option.isSome_iff_exists.mp hregistered
  refine ⟨(client, .notify (.friendLogout a p.address q.avatarId)),
    List.mem_flatMap.mpr ⟨q, hq, ?_⟩, by simp [Outgoing.presence]⟩
  rw [if_pos hfriend]
  exact mem_posts.mpr ⟨q.address, List.mem_singleton_self _, client, hclient, rfl⟩

theorem contactNews_reaches {contact : FriendContact} {f : ChatAvatar} (hfrnd : contact.frnd = some q)
    (hf : s.avatar? q = some f) (honline : f.isOnline = true) (avatarId : UInt32) :
    ∃ m ∈ s.contactNews client avatarId contact, (m.2.presence avatarId f.self.avatarId).isSome := by
  refine ⟨(client, .notify (.friendLogin f q.address avatarId f.statusMessage)), ?_, by simp [Outgoing.presence]⟩
  simp [Server.contactNews, hfrnd, hf, honline]

end Presence
end StationChat
