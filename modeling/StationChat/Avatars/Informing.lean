import StationChat.Avatars.Hushing

/-! What one avatar hears of another while a request is handled. -/
namespace StationChat
open Lib Lib.Action Lib.Contract

variable {y x : UInt32} {s t u : Server} {p q : AvatarPtr} {a b : ChatAvatar} {more : List (ClientId × Outgoing)}
  {greets befriends : Prop}

/-- None of the avatars with this id is a game server. -/
def Server.Ordinary (s : Server) (y : UInt32) : Prop :=
  ∀ p, Live s.avatarCache p → p.avatarId = y → p.name ≠ systemName

/-- The state in which a request arrives. -/
structure Poised (s : Server) : Prop extends Flagged s where
  tended : Tended s
  fit : Fit (fun _ => True) s
  unduplicated : s.Unduplicated

/-- What is known of the state after a request. Only a request that befriends the two puts `x` on the friend
list of `y`. -/
structure Watchable (y x : UInt32) (befriends : Prop) (s t : Server) : Prop where
  unduplicated : t.Unduplicated
  watcher : t.Ordinary y
  watched : t.Ordinary x
  kept : s.online y = true → t.lists y x = true → s.lists y x = true ∨ befriends

/-- What a request tells `y` about `x` by the messages `more`. With `greets` it logs `y` in. -/
structure Informs (y x : UInt32) (greets : Prop) (s t : Server) (more : List (ClientId × Outgoing)) : Prop where
  sent : t.sent = s.sent ++ more
  truthful : ∀ c, lastNews y x more = some c → c = t.online x
  stays : t.online y = true → greets ∨ s.online y = true
  changed : ¬greets → s.online y = true → s.lists y x = true → s.serves y = true → t.online x ≠ s.online x →
    (lastNews y x more).isSome
  greeted : greets → t.lists y x = true → t.online x = true → (lastNews y x more).isSome
  introduced : ¬greets → s.online y = true → s.lists y x = false → t.lists y x = true → s.serves y = true →
    t.online x = true → (lastNews y x more).isSome

def Apprises (y x : UInt32) (greets befriends : Prop) (s t : Server) : Prop :=
  Watchable y x befriends s t → ∃ more, Informs y x greets s t more

section Quiet

theorem apprises_of_hushed (h : Hushed y x s t) (hgreets : ¬greets) (hbefriends : ¬befriends) :
    Apprises y x greets befriends s t := by
  intro hwatch
  obtain ⟨more, hsent, hnews⟩ := h.sent
  refine ⟨more, hsent, fun c hc => ?_, fun ht => .inr (h.watcher ▸ ht), fun _ _ _ _ hne => ?_,
    fun hg => absurd hg hgreets, fun _ hs hold hnew _ _ => ?_⟩
  · rw [hnews] at hc
    exact absurd hc (by simp)
  · exact absurd h.watched hne
  · have hlisted := (hwatch.kept hs hnew).resolve_right hbefriends
    rw [hlisted] at hold
    exact absurd hold (by simp)

theorem apprises_quiet {α : Type} {z : Serve α} (hmakes : z.Makes (Hushed y x)) (h : Hushed y x s t)
    (hgreets : ¬greets) (hbefriends : ¬befriends) : z.Ends t (fun _ u => Apprises y x greets befriends s u)
      (Recovers (Apprises y x greets befriends s)) := by
  unfold Ends
  rcases hrun : z t with ⟨e | a, u⟩
  · exact fun _ => apprises_of_hushed (h.trans (hushed_of_run hmakes hrun)) hgreets hbefriends
  · exact apprises_of_hushed (h.trans (hushed_of_run hmakes hrun)) hgreets hbefriends

/-- Afterwards only messages about other things are sent. -/
theorem Informs.after (h : Informs y x greets s t more) (hcache : u.avatarCache = t.avatarCache)
    {later : List (ClientId × Outgoing)} (hsent : u.sent = t.sent ++ later) (hnews : lastNews y x later = none) :
    Informs y x greets s u (more ++ later) := by
  have honline : ∀ z, u.online z = t.online z := fun z => by rw [Server.online, Server.online, hcache]
  have hlists : u.lists y x = t.lists y x := by rw [Server.lists, Server.lists, hcache]
  have hsame : lastNews y x (more ++ later) = lastNews y x more := by
    rw [lastNews_append, hnews]
    rfl
  refine ⟨by rw [hsent, h.sent, List.append_assoc], ?_, ?_, ?_, ?_, ?_⟩
  · rw [hsame, honline]
    exact h.truthful
  · rw [honline]
    exact h.stays
  · rw [hsame, honline]
    exact h.changed
  · rw [hsame, honline, hlists]
    exact h.greeted
  · rw [hsame, honline, hlists]
    exact h.introduced

theorem Apprises.after (h : Apprises y x greets befriends s t) (hcache : u.avatarCache = t.avatarCache)
    (hafter : Hushed y x t u) : Apprises y x greets befriends s u := by
  rintro ⟨hunique, hwatcher, hwatched, hkept⟩
  have hlists : u.lists y x = t.lists y x := by rw [Server.lists, Server.lists, hcache]
  rw [Server.Unduplicated, hcache] at hunique
  rw [Server.Ordinary, hcache] at hwatcher hwatched
  rw [hlists] at hkept
  obtain ⟨more, hmore⟩ := h ⟨hunique, hwatcher, hwatched, hkept⟩
  obtain ⟨later, hsent, hnews⟩ := hafter.sent
  exact ⟨_, hmore.after hcache hsent hnews⟩

/-- A computation that only sends, and nothing about the two. -/
theorem Apprises.sending {α : Type} {z : Serve α} {Q : α → Server → Prop} (h : Apprises y x greets befriends s t)
    (hposts : posting.Holds z t Q) (hmakes : z.Makes (Hushed y x)) :
    z.Ends t (fun _ u => Apprises y x greets befriends s u) (Recovers (Apprises y x greets befriends s)) := by
  have hcache : ∀ u, Posted t u → u.avatarCache = t.avatarCache := fun u hu => by rw [hu.rest]
  unfold Ends
  rcases hrun : z t with ⟨e | a, u⟩
  · obtain ⟨-, hposted, -⟩ := Ends.err_of_run hposts hrun
    exact fun _ => h.after (hcache u hposted) (hushed_of_run hmakes hrun)
  · exact h.after (hcache u (posted_of_run hposts hrun).1) (hushed_of_run hmakes hrun)

end Quiet

section Objects

/-- The object that hears of its friend. -/
theorem exists_watcher (hunique : s.Unduplicated) (honline : s.online y = true) (hlists : s.lists y x = true)
    (hserves : s.serves y = true) : ∃ b ∈ s.avatarCache, b.self.avatarId = y ∧ b.isOnline = true ∧
      b.hasFriend x = true ∧ (s.clientAddressMap b.self.address).isSome = true := by
  obtain ⟨b, hb, hid, hflag⟩ := online_iff.mp honline
  obtain ⟨c, hc, hid', hfriend⟩ := lists_iff.mp hlists
  obtain ⟨d, hd, hid'', hregistered⟩ := serves_iff.mp hserves
  obtain rfl := eq_of_same_id hunique hb hc (hid.trans hid'.symm)
  obtain rfl := eq_of_same_id hunique hb hd (hid.trans hid''.symm)
  exact ⟨b, hb, hid, hflag, hfriend, hregistered⟩

theorem befriended_iff (hallocated : Allocated s.avatarCache s.objects) (hb : b ∈ s.avatarCache) :
    s.befriended b.self p = b.hasFriend p.avatarId := by
  rw [Server.befriended, avatar?_self hallocated hb]
  rfl

theorem online_of_mem (hunique : s.Unduplicated) (hb : b ∈ s.avatarCache) :
    s.online b.self.avatarId = b.isOnline := by
  rw [Bool.eq_iff_iff, online_iff]
  constructor
  · rintro ⟨c, hc, hid, honline⟩
    rwa [eq_of_same_id hunique hb hc hid.symm]
  · exact fun h => ⟨b, hb, rfl, h⟩

end Objects

section Entering

/-- Avatars entered the cache, all of them offline. -/
structure Entered (s t : Server) : Prop where
  cache : ∃ loaded, t.avatarCache = s.avatarCache ++ loaded ∧ ∀ a ∈ loaded, a.isOnline = false
  clientAddressMap : t.clientAddressMap = s.clientAddressMap
  onlineAvatars : t.onlineAvatars = s.onlineAvatars

theorem LookedUp.sent (h : LookedUp s t) : t.sent = s.sent := by rw [h.grown.rest]

theorem LookedUp.entered (h : LookedUp s t) : Entered s t := by
  obtain ⟨loaded, hcache, hloaded⟩ := h.cache
  exact ⟨⟨loaded, hcache, fun a ha => (hloaded a ha).2⟩, by rw [h.grown.rest], by rw [h.grown.rest]⟩

namespace Entered

theorem refl (s : Server) : Entered s s := ⟨⟨[], by simp, by simp⟩, rfl, rfl⟩

theorem trans (h : Entered s t) (h' : Entered t u) : Entered s u := by
  obtain ⟨loaded, hcache, hloaded⟩ := h.cache
  obtain ⟨loaded', hcache', hloaded'⟩ := h'.cache
  refine ⟨⟨loaded ++ loaded', by rw [hcache', hcache, List.append_assoc], fun a ha => ?_⟩,
    h'.clientAddressMap.trans h.clientAddressMap, h'.onlineAvatars.trans h.onlineAvatars⟩
  exact (List.mem_append.mp ha).elim (hloaded a) (hloaded' a)

theorem online (h : Entered s t) (z : UInt32) : t.online z = s.online z := by
  obtain ⟨loaded, hcache, hloaded⟩ := h.cache
  exact online_of_loaded hcache hloaded z

theorem hushed (h : Entered s t) (hsent : t.sent = s.sent) : Hushed y x s t := .of_online h.online hsent

theorem mem (h : Entered s t) (ha : a ∈ s.avatarCache) : a ∈ t.avatarCache := by
  obtain ⟨loaded, hcache, -⟩ := h.cache
  exact hcache ▸ List.mem_append_left _ ha

theorem lists (h : Entered s t) (hs : s.lists y x = true) : t.lists y x = true := by
  obtain ⟨a, ha, hid, hfriend⟩ := lists_iff.mp hs
  exact lists_iff.mpr ⟨a, h.mem ha, hid, hfriend⟩

theorem serves (h : Entered s t) (hs : s.serves y = true) : t.serves y = true := by
  obtain ⟨a, ha, hid, hregistered⟩ := serves_iff.mp hs
  exact serves_iff.mpr ⟨a, h.mem ha, hid, h.clientAddressMap ▸ hregistered⟩

theorem flagged (h : Entered s t) (ht : t.Unduplicated) (hs : Flagged s) : Flagged t := by
  obtain ⟨loaded, hcache, hloaded⟩ := h.cache
  refine ⟨fun a ha => ?_, h.onlineAvatars ▸ hs.once, fun q hq => ?_⟩
  · rw [h.onlineAvatars]
    rcases List.mem_append.mp (hcache ▸ ha) with hold | hnew
    · exact hs.flagged a hold
    · rw [hloaded a hnew]
      refine ⟨fun hflag => absurd hflag (by simp), fun hmem => ?_⟩
      obtain ⟨b, hb, hself⟩ := hs.cached _ hmem
      rw [Server.Unduplicated, hcache, List.map_append, List.nodup_append] at ht
      have hne := ht.2.2 _ (List.mem_map_of_mem hb) _ (List.mem_map_of_mem hnew)
      exact absurd (congrArg (·.avatarId) hself) hne
  · obtain ⟨b, hb, hself⟩ := hs.cached q (h.onlineAvatars ▸ hq)
    exact ⟨b, h.mem hb, hself⟩

end Entered

theorem entered_createAvatar {name address : U16String} {userId loginAttributes : UInt32} {loginLocation : U16String}
    (hrun : createAvatar name address userId loginAttributes loginLocation s = (.ok p, t)) :
    Entered s t ∧ t.sent = s.sent := by
  rcases createAvatar_cases name address userId loginAttributes loginLocation s with
    hthrows | ⟨id, db', -, -, hcreates⟩
  · rw [hthrows] at hrun
    exact absurd (Prod.mk.inj hrun).1 (by simp)
  · rw [hcreates] at hrun
    obtain ⟨-, rfl⟩ := Prod.mk.inj hrun
    refine ⟨⟨⟨_, rfl, fun a ha => ?_⟩, rfl, rfl⟩, rfl⟩
    rw [List.mem_singleton.mp ha]

theorem entered_loginTarget {name address : U16String} {userId attributes : UInt32} {loginLocation : U16String}
    (hs : Poised s) (hrun : Handler.loginTarget name address userId attributes loginLocation s = (.ok p, t)) :
    Entered s t ∧ t.sent = s.sent := by
  have hlookup := run_ends (.byName name address) hs.tended.ready hs.tended.works
  rw [Handler.loginTarget] at hrun
  rcases hget : getAvatar name address s with ⟨e | found, u⟩
  · rw [bind_error hget] at hrun
    exact absurd (Prod.mk.inj hrun).1 (by simp)
  · have hlooked : LookedUp s u := (hlookup.ok_of_run hget).1
    rw [bind_ok hget] at hrun
    cases found with
    | some avatar =>
      obtain ⟨-, rfl⟩ := Prod.mk.inj hrun
      exact ⟨hlooked.entered, hlooked.sent⟩
    | none =>
      obtain ⟨hentered, hsent⟩ := entered_createAvatar hrun
      exact ⟨hlooked.entered.trans hentered, hsent.trans hlooked.sent⟩

end Entering

section Flags

theorem online_loggedIn (hallocated : Allocated s.avatarCache s.objects) (hp : Live s.avatarCache p) (z : UInt32) :
    (s.loggedIn p).online z = true ↔ z = p.avatarId ∨ s.online z = true := by
  rw [online_iff, online_iff]
  constructor
  · rintro ⟨b, hb, rfl, honline⟩
    obtain ⟨c, hc, ⟨hobj, rfl⟩ | ⟨hobj, rfl⟩⟩ := back_updateAvatar hb
    · exact .inl (congrArg (·.avatarId) ((updated_obj_iff hallocated hp hc).mp (by simpa using hobj)))
    · exact .inr ⟨b, hc, rfl, honline⟩
  · intro hz
    have hmem : ∀ c ∈ s.avatarCache, (if c.self.obj == p.obj then { c with isOnline := true } else c) ∈
        (s.loggedIn p).avatarCache := fun c hc => List.mem_map_of_mem hc
    rcases hz with rfl | ⟨c, hc, rfl, honline⟩
    · obtain ⟨c, hc, rfl⟩ := hp
      exact ⟨_, hmem c hc, by simp, by simp⟩
    · refine ⟨_, hmem c hc, ?_, ?_⟩ <;> split <;> simp [honline]

theorem online_loggedOut (hallocated : Allocated s.avatarCache s.objects) (hunique : s.Unduplicated)
    (hp : Live s.avatarCache p) (z : UInt32) :
    (s.loggedOut p).online z = true ↔ z ≠ p.avatarId ∧ s.online z = true := by
  rw [online_iff, online_iff]
  constructor
  · rintro ⟨b, hb, rfl, honline⟩
    obtain ⟨c, hc, ⟨hobj, rfl⟩ | ⟨hobj, rfl⟩⟩ := back_updateAvatar hb
    · exact absurd honline (by simp)
    · refine ⟨fun hid => hobj ?_, b, hc, rfl, honline⟩
      rw [eq_of_avatarId hunique ⟨b, hc, rfl⟩ hp hid]
  · rintro ⟨hne, c, hc, rfl, honline⟩
    refine ⟨c, List.mem_map.mpr ⟨c, hc, if_neg ?_⟩, rfl, honline⟩
    intro hobj
    exact hne (congrArg (·.avatarId) ((updated_obj_iff hallocated hp hc).mp hobj))

end Flags

section News

theorem arrivalNews_heard (hs : Flagged s) (hallocated : Allocated s.avatarCache s.objects) (hunique : s.Unduplicated)
    (ha : a.self = p) (honline : s.online y = true) (hlists : s.lists y p.avatarId = true) (hserves : s.serves y = true) :
    ∃ m ∈ s.arrivalNews p a, (m.2.presence y p.avatarId).isSome := by
  obtain ⟨b, hb, rfl, hflag, hfriend, hregistered⟩ := exists_watcher hunique honline hlists hserves
  have hbefriended := (befriended_iff hallocated hb).trans hfriend
  have hreaches := arrivalNews_reaches (a := a) ((hs.flagged b hb).mp hflag) hbefriended hregistered
  rwa [ha] at hreaches

theorem departureNews_heard (hs : Flagged s) (hallocated : Allocated s.avatarCache s.objects) (hunique : s.Unduplicated)
    (ha : a.self = p) (honline : s.online y = true) (hlists : s.lists y p.avatarId = true) (hserves : s.serves y = true) :
    ∃ m ∈ s.departureNews p a, (m.2.presence y p.avatarId).isSome := by
  obtain ⟨b, hb, rfl, hflag, hfriend, hregistered⟩ := exists_watcher hunique honline hlists hserves
  have hbefriended := (befriended_iff hallocated hb).trans hfriend
  have hreaches := departureNews_reaches (a := a) ((hs.flagged b hb).mp hflag) hbefriended hregistered
  rwa [ha] at hreaches

/-- An avatar that comes online hears of each friend that is online. -/
theorem contactNews_heard {client : ClientId} (hs : Fit (fun _ => True) s) (hunique : s.Unduplicated)
    (ha : a ∈ s.avatarCache) (honline : s.online x = true) (hlists : s.lists a.self.avatarId x = true) :
    ∃ m ∈ a.friendList.flatMap (s.contactNews client a.self.avatarId), (m.2.presence a.self.avatarId x).isSome := by
  obtain ⟨b, hb, hid, hfriend⟩ := lists_iff.mp hlists
  obtain rfl := eq_of_same_id hunique hb ha hid
  obtain ⟨contact, hcontact, hnames⟩ := List.any_eq_true.mp hfriend
  obtain ⟨q, hfrnd, f, hf, rfl⟩ := hs.pointers.friends b hb contact hcontact
  have hx : f.self.avatarId = x := by simpa [Names, hfrnd] using hnames
  have hflag : f.isOnline = true := by rw [← online_of_mem hunique hf, hx, honline]
  obtain ⟨m, hm, hnews⟩ := contactNews_reaches hfrnd (avatar?_self hs.allocated hf) hflag b.self.avatarId
  exact ⟨m, List.mem_flatMap.mpr ⟨contact, hcontact, hm⟩, hx ▸ hnews⟩

end News

section Logins
variable {client : ClientId} {name address loginLocation : U16String} {userId attributes : UInt32}

/-- The id of the avatar a login is for. -/
def Server.loginId (s : Server) (name address : U16String) (userId attributes : UInt32) (loginLocation : U16String) :
    Option UInt32 :=
  match Handler.loginTarget name address userId attributes loginLocation s with
  | (.ok p, _) => some p.avatarId
  | (.error _, _) => none

/-- The request logs the avatar in. -/
def Request.LogsIn (s : Server) (y : UInt32) : Request → Prop
  | .loginAvatar r =>
    s.loginId r.name r.address r.userId r.loginAttributes.toUInt32 r.loginLocation = some y
  | .failoverReLoginAvatar r => s.loginId r.name r.address r.userId r.attributes r.loginLocation = some y
  | _ => False

theorem fit_loggedIn (hs : Fit (fun _ => True) s) (hp : Live s.avatarCache p) : Fit (fun _ => True) (s.loggedIn p) := by
  obtain ⟨a, -, -, hobject⟩ := avatar?_of_live hs.allocated hp
  have hholds : (gateway (fun _ => True) True).Holds (loginAvatar p) s fun _ _ => True := holds_loginAvatar hs hp
  exact (hholds.ok_of_run (loginAvatar_run hobject)).1

theorem live_loggedIn (hq : Live s.avatarCache q) : Live (s.loggedIn p).avatarCache q :=
  live_updateAvatar (f := fun a => { a with isOnline := true }) (fun _ => rfl) q hq

theorem unduplicated_loggedIn (h : (s.loggedIn p).Unduplicated) : s.Unduplicated := by
  refine unduplicated_of_selves_eq (Eq.symm ?_) h
  exact selves_updateAvatar (f := fun a => { a with isOnline := true }) fun _ => rfl

/-- A flag is no contact and no address. -/
theorem lists_loggedIn (h : s.lists y x = true) : (s.loggedIn p).lists y x = true := by
  obtain ⟨a, ha, hid, hfriend⟩ := lists_iff.mp h
  refine lists_iff.mpr ⟨_, List.mem_map_of_mem ha, ?_, ?_⟩ <;> split
  exacts [hid, hid, hfriend, hfriend]

theorem serves_loggedIn (h : s.serves y = true) : (s.loggedIn p).serves y = true := by
  obtain ⟨a, ha, hid, hregistered⟩ := serves_iff.mp h
  refine serves_iff.mpr ⟨_, List.mem_map_of_mem ha, ?_, ?_⟩ <;> split
  exacts [hid, hid, hregistered, hregistered]

/-- The friends of an avatar that comes online hear of it, and it hears of them. -/
theorem informs_arrival (hs : Flagged s) (hentered : Entered s u) (hu : Fit (fun _ => True) u) (hp : Live u.avatarCache p)
    (ha : a ∈ (u.loggedIn p).avatarCache) (hself : a.self = p)
    (hsent : t.sent = s.sent ++ ((u.loggedIn p).arrivalNews p a ++
      a.friendList.flatMap ((u.loggedIn p).contactNews client p.avatarId)))
    (hcache : t.avatarCache = (u.loggedIn p).avatarCache) (hwatch : Watchable y x False s t) :
    Informs y x (p.avatarId = y) s t ((u.loggedIn p).arrivalNews p a ++
      a.friendList.flatMap ((u.loggedIn p).contactNews client p.avatarId)) := by
  have hv := fit_loggedIn hu hp
  have hunique : (u.loggedIn p).Unduplicated := by
    rw [Server.Unduplicated, ← hcache]
    exact hwatch.unduplicated
  have hunique' := unduplicated_loggedIn hunique
  have hflagged := (hentered.flagged hunique' hs).loggedIn hu.allocated hunique' hp
  have hsame : ∀ z, t.online z = (u.loggedIn p).online z := fun z => by rw [Server.online, Server.online, hcache]
  have honline : ∀ z, t.online z = true ↔ z = p.avatarId ∨ s.online z = true := by
    intro z
    rw [hsame, online_loggedIn hu.allocated hp, hentered.online]
  refine ⟨hsent, fun c hc => ?_, fun hy => ?_, fun _ hy hlists hserves hne => ?_, ?_, fun _ hy hold hnew _ _ => ?_⟩
  · obtain ⟨m, hm, hnews⟩ := exists_of_lastNews hc
    rcases List.mem_append.mp hm with hm | hm
    · obtain ⟨rfl, rfl⟩ := presence_arrivalNews hm hnews
      rw [hself]
      exact ((honline _).mpr (.inl rfl)).symm
    · obtain ⟨contact, -, hm⟩ := List.mem_flatMap.mp hm
      obtain ⟨rfl, q, f, -, hf, hflag, rfl⟩ := presence_contactNews hm hnews
      rw [hsame, online_of_mem hunique (List.mem_of_find?_eq_some hf), hflag]
  · exact ((honline y).mp hy).imp Eq.symm id
  · have hx : x = p.avatarId := by
      by_contra hother
      apply hne
      rw [Bool.eq_iff_iff, honline]
      exact or_iff_right hother
    subst hx
    have hlists' := lists_loggedIn (p := p) (hentered.lists hlists)
    have hy' : (u.loggedIn p).online y = true := by rw [← hsame, honline]; exact .inr hy
    obtain ⟨m, hm, hnews⟩ := arrivalNews_heard hflagged hv.allocated hunique hself hy' hlists'
      (serves_loggedIn (hentered.serves hserves))
    exact isSome_lastNews (List.mem_append_left _ hm) hnews
  · rintro rfl hlists hx
    have hlists' : (u.loggedIn p).lists a.self.avatarId x = true := by
      rw [Server.lists, ← hcache, hself]
      exact hlists
    rw [hsame] at hx
    obtain ⟨m, hm, hnews⟩ := contactNews_heard hv hunique ha hx hlists'
    rw [hself] at hm hnews
    exact isSome_lastNews (List.mem_append_right _ hm) hnews
  · have hlisted := (hwatch.kept hy hnew).resolve_right id
    rw [hlisted] at hold
    exact absurd hold (by simp)

theorem online_loggedIn_of_ne (hallocated : Allocated s.avatarCache s.objects) (hp : Live s.avatarCache p) {z : UInt32}
    (h : z ≠ p.avatarId) : (s.loggedIn p).online z = s.online z := by
  rw [Bool.eq_iff_iff, online_loggedIn hallocated hp]
  exact or_iff_right h

/-- A game server is nobody's friend here, and a player's friends hear of it. -/
theorem apprises_welcome (hs : Flagged s) (hentered : Entered s u) (hsent : u.sent = s.sent) (hu : Fit (fun _ => True) u)
    (hclient : client ∈ u.clients) (hp : Live u.avatarCache p) :
    (Handler.welcome client p address).Ends (u.loggedIn p) (fun _ t => Apprises y x (p.avatarId = y) False s t)
      (Recovers (Apprises y x (p.avatarId = y) False s)) := by
  have hv := fit_loggedIn hu hp
  have hlive : Live (u.loggedIn p).avatarCache p := live_loggedIn hp
  have hholds : (gateway (fun _ => True) False).Holds (Handler.welcome client p address) (u.loggedIn p) _ :=
    holds_welcome address hv hclient hlive
  by_cases hname : p.name = systemName
  · have hserver : ∀ t, Live t.avatarCache p → Hushed y x (u.loggedIn p) t →
        Apprises y x (p.avatarId = y) False s t := by
      intro t hlive hafter hwatch
      have hy : y ≠ p.avatarId := fun heq => hwatch.watcher p hlive heq.symm hname
      have hx : x ≠ p.avatarId := fun heq => hwatch.watched p hlive heq.symm hname
      have hlogin : Hushed y x u (u.loggedIn p) := ⟨online_loggedIn_of_ne hu.allocated hp hy,
        online_loggedIn_of_ne hu.allocated hp hx, [], (List.append_nil _).symm, rfl⟩
      exact apprises_of_hushed ((hentered.hushed hsent).trans (hlogin.trans hafter)) (fun heq => hy heq.symm) id hwatch
    have hmakes : (Handler.welcome client p address).Makes (Hushed y x) := by
      rw [Handler.welcome, if_pos hname]
      exact hushed_registering _ _ client
    unfold Ends
    rcases hrun : Handler.welcome client p address (u.loggedIn p) with ⟨e | _, t⟩
    · exact fun _ => hserver t ((hholds.err_of_run hrun).2.1.live p hlive) (hushed_of_run hmakes hrun)
    · exact hserver t ((hholds.ok_of_run hrun).2.1.live p hlive) (hushed_of_run hmakes hrun)
  · obtain ⟨a, ha, hself, hobject⟩ := avatar?_of_live hv.allocated hlive
    rw [Handler.welcome, if_neg hname]
    apply (emits_sendFriendLoginUpdates hv ha hobject (u.loggedIn p).sent).mono
    · rintro _ t rfl hwatch
      have hsent : (u.loggedIn p).sent = s.sent := hsent
      exact ⟨_, informs_arrival hs hentered hu hp ha hself (by rw [hsent]) rfl hwatch⟩
    · rintro e t ⟨rfl, -⟩
      exact recovers_of_none rfl t

theorem apprises_login (hs : Poised s) (hclient : client ∈ s.clients) :
    (Handler.login client name address userId attributes loginLocation).Ends s
      (fun _ t => Apprises y x (s.loginId name address userId attributes loginLocation = some y) False s t)
      (Recovers (Apprises y x (s.loginId name address userId attributes loginLocation = some y) False s)) := by
  unfold Ends
  rw [Handler.login]
  rcases htarget : Handler.loginTarget name address userId attributes loginLocation s with ⟨e | p, u⟩
  · have hnobody : ¬ s.loginId name address userId attributes loginLocation = some y := by
      rw [Server.loginId, htarget]
      simp
    rw [bind_error htarget]
    exact fun _ => apprises_of_hushed (hushed_of_run (hushed_loginTarget _ _ _ _ _) htarget) hnobody id
  · have hid : s.loginId name address userId attributes loginLocation = some y ↔ p.avatarId = y := by
      rw [Server.loginId, htarget]
      simp
    have hholds : (gateway (fun _ => True) True).Holds
        (Handler.loginTarget name address userId attributes loginLocation) s fun p t => Live t.avatarCache p :=
      holds_loginTarget hs.fit fun h => absurd trivial h
    obtain ⟨hfit, hkept, hlive⟩ := hholds.ok_of_run htarget
    obtain ⟨⟨hcache, hmap, honline⟩, hsent⟩ := entered_loginTarget hs htarget
    rw [bind_ok htarget, propext hid]
    let v : Server := { u with recentActions := (Policy.evaluate u.policyConfig u.recentActions {
      policyEvent .login p loginLocation 0 with actorAddress := fromWideString address } u.steadyClock).2 }
    have hv : Fit (fun _ => True) v := hfit
    obtain ⟨b, -, -, hobject⟩ := avatar?_of_live hv.allocated hlive
    change Ends (loginAvatar p >>= fun _ => Handler.welcome client p address >>= fun _ => pure p) v _ _
    rw [Ends, bind_ok (loginAvatar_run hobject)]
    exact (ends_bind _ _ _).mpr (apprises_welcome hs.toFlagged ⟨hcache, hmap, honline⟩ hsent hv
      (hkept.clients ▸ hclient) hlive)

theorem apprises_loginAvatar {request : ReqLoginAvatar} (hs : Poised s) (hclient : client ∈ s.clients) :
    (Handler.loginAvatar client request).Ends s
      (fun _ t => Apprises y x ((Request.loginAvatar request).LogsIn s y) False s t)
      (Recovers (Apprises y x ((Request.loginAvatar request).LogsIn s y) False s)) := by
  rw [Handler.loginAvatar, ends_bind]
  apply (apprises_login hs hclient).mono
  · intro p t ht
    exact ht.after rfl (.of_cache rfl rfl)
  · exact fun _ _ he => he

theorem apprises_failoverReLoginAvatar {request : ReqFailoverReLoginAvatar} (hs : Poised s)
    (hclient : client ∈ s.clients) : (Handler.failoverReLoginAvatar client request).Ends s
      (fun _ t => Apprises y x ((Request.failoverReLoginAvatar request).LogsIn s y) False s t)
      (Recovers (Apprises y x ((Request.failoverReLoginAvatar request).LogsIn s y) False s)) := by
  rw [Handler.failoverReLoginAvatar, ends_bind]
  apply (apprises_login hs hclient).mono
  · intro p t ht
    apply ht.sending
    · exact (posting_still (still_getJoinedRooms _)).bind fun rooms _ _ _ _ =>
        holds_forM rooms trivial fun room _ _ _ _ => posting_sendEnterRoomUpdate p room
    · exact (still_getJoinedRooms _).makes.bind fun rooms =>
        makes_forM (fun room => hushed_sendEnterRoomUpdate p room) rooms
  · exact fun _ _ he => he

end Logins

section Logouts

/-- The friends of an avatar that goes offline hear of it. -/
theorem informs_departure (hs : Flagged s) (hentered : Entered s u) (hu : Fit (fun _ => True) u)
    (hp : Live u.avatarCache p) (ha : a ∈ u.avatarCache) (hself : a.self = p) {before : List (ClientId × Outgoing)}
    (hsent : t.sent = s.sent ++ (before ++ u.departureNews p a)) (hbefore : lastNews y x before = none)
    (hcache : t.avatarCache = if a.isOnline then (u.loggedOut p).avatarCache else u.avatarCache)
    (hwatch : Watchable y x False s t) : Informs y x False s t (before ++ u.departureNews p a) := by
  have hunique : u.Unduplicated := by
    have ht := hwatch.unduplicated
    rw [Server.Unduplicated, hcache] at ht
    split at ht
    · refine unduplicated_of_selves_eq (Eq.symm ?_) (show (u.loggedOut p).Unduplicated from ht)
      exact selves_updateAvatar (f := fun a => { a with isOnline := false }) fun _ => rfl
    · exact ht
  have hflagged := hentered.flagged hunique hs
  have honline : ∀ z, t.online z = true ↔ z ≠ p.avatarId ∧ s.online z = true := by
    intro z
    rw [← hentered.online z]
    cases hflag : a.isOnline with
    | true =>
      rw [hflag, if_pos rfl] at hcache
      rw [Server.online, hcache]
      exact online_loggedOut hu.allocated hunique hp z
    | false =>
      rw [hflag, if_neg (by simp)] at hcache
      rw [Server.online, hcache]
      refine (and_iff_right_of_imp fun hz heq => ?_).symm
      have hoffline : u.online z = false := by rw [heq, ← hself, online_of_mem hunique ha, hflag]
      exact absurd (hoffline.symm.trans hz) (by simp)
  have hnews : lastNews y x (before ++ u.departureNews p a) = lastNews y x (u.departureNews p a) := by
    rw [lastNews_append, hbefore, Option.or_none]
  refine ⟨hsent, fun c hc => ?_, fun hy => .inr ((honline y).mp hy).2, fun _ hy hlists hserves hne => ?_,
    fun hf => hf.elim, fun _ hy hold hnew _ _ => ?_⟩
  · rw [hnews] at hc
    obtain ⟨m, hm, hpresence⟩ := exists_of_lastNews hc
    obtain ⟨rfl, rfl⟩ := presence_departureNews hm hpresence
    rw [hself, eq_comm, ← Bool.not_eq_true, honline]
    exact fun h => h.1 rfl
  · have hx : x = p.avatarId := by
      by_contra hother
      apply hne
      rw [Bool.eq_iff_iff, honline]
      exact and_iff_right hother
    subst hx
    have hy' : u.online y = true := by rw [hentered.online, hy]
    obtain ⟨m, hm, hpresence⟩ := departureNews_heard hflagged hu.allocated hunique hself hy' (hentered.lists hlists)
      (hentered.serves hserves)
    exact isSome_lastNews (List.mem_append_right _ hm) hpresence
  · have hlisted := (hwatch.kept hy hnew).resolve_right id
    rw [hlisted] at hold
    exact absurd hold (by simp)

/-- What a logout does once the rooms are left. -/
theorem apprises_departing (hs : Flagged s) (hentered : Entered s u) (hu : Fit (fun _ => True) u)
    (hp : Live u.avatarCache p) {before : List (ClientId × Outgoing)} (hsent : u.sent = s.sent ++ before)
    (hbefore : lastNews y x before = none) : (do
      sendFriendLogoutUpdates (some p)
      logoutAvatar (some p) : Serve Unit).Ends u (fun _ t => Apprises y x False False s t)
      (Recovers (Apprises y x False False s)) := by
  obtain ⟨a, ha, hself, hobject⟩ := avatar?_of_live hu.allocated hp
  rw [ends_bind]
  apply (emits_sendFriendLogoutUpdates hu hobject u.sent).mono
  · rintro _ t rfl
    have hobject' : ({ u with sent := u.sent ++ u.departureNews p a } : Server).avatar? p = some a := hobject
    apply Ends.of_run (logoutAvatar_run hobject')
    intro hwatch
    refine ⟨_, informs_departure hs hentered hu hp ha hself ?_ hbefore ?_ hwatch⟩
    · split <;> exact hsent ▸ List.append_assoc _ _ _
    · split <;> rfl
  · rintro e t ⟨rfl, -⟩
    exact recovers_of_none rfl t

/-- The result of the lookup is not checked, so without an avatar a null pointer is followed at last. -/
theorem hushed_logoutNobody : (do
      Handler.leaveJoinedRooms none
      sendFriendLogoutUpdates none
      logoutAvatar none : Serve Unit).Makes (Hushed y x) := by
  refine (hushed_leaveJoinedRooms none).bind fun _ => Makes.bind ?_ fun _ => makes_throw _
  refine makes_get.bind fun _ => makes_forM (fun q => ?_) _
  exact (still_isFriend q none).makes.bind fun _ => makes_runIf (makes_throw _)

theorem apprises_leaving (hs : Flagged s) (hentered : Entered s u) (hu : Fit (fun _ => True) u) (hsent : u.sent = s.sent)
    (hp : Live u.avatarCache p) : (do
      Handler.leaveJoinedRooms (some p)
      sendFriendLogoutUpdates (some p)
      logoutAvatar (some p) : Serve Unit).Ends u (fun _ t => Apprises y x False False s t)
      (Recovers (Apprises y x False False s)) := by
  unfold Ends
  rcases hleave : Handler.leaveJoinedRooms (some p) u with ⟨e | _, v⟩
  · rw [bind_error hleave]
    obtain ⟨rfl, -⟩ := (leaveJoinedRooms_ends u p).err_of_run hleave
    exact recovers_of_none rfl v
  · have hv : Fit (fun _ => True) v := ((holds_leaveJoinedRooms hu hp.pointer).ok_of_run hleave).1
    obtain ⟨before, hmore, hbefore⟩ := (hushed_of_run (y := y) (x := x) (hushed_leaveJoinedRooms _) hleave).sent
    obtain ⟨hrest, -⟩ := leaveJoinedRooms_run hleave
    have hcache : v.avatarCache = u.avatarCache := by rw [hrest]
    have hmap : v.clientAddressMap = u.clientAddressMap := by rw [hrest]
    have honline : v.onlineAvatars = u.onlineAvatars := by rw [hrest]
    have hentered' : Entered s v := ⟨hcache ▸ hentered.cache, hmap.trans hentered.clientAddressMap,
      honline.trans hentered.onlineAvatars⟩
    rw [bind_ok hleave]
    exact apprises_departing hs hentered' hv (hcache ▸ hp) (hsent ▸ hmore) hbefore

theorem apprises_logoutAvatar {request : ReqLogoutAvatar} (hs : Poised s) : (Handler.logoutAvatar request).Ends s
    (fun _ t => Apprises y x False False s t) (Recovers (Apprises y x False False s)) := by
  have hlookup := run_ends (.byId request.avatarId) hs.tended.ready hs.tended.works
  have hholds : (gateway (fun _ => True) True).Holds (getAvatarById request.avatarId) s _ :=
    holds_getAvatarById request.avatarId hs.fit
  unfold Ends
  rw [Handler.logoutAvatar]
  rcases hget : getAvatarById request.avatarId s with ⟨e | found, u⟩
  · rw [bind_error hget]
    exact fun _ => apprises_of_hushed (hushed_of_run (Hushed.avatarChanges.makes_getAvatarById _) hget) id id
  obtain ⟨hlooked, hfound⟩ := hlookup.ok_of_run hget
  have hu : Fit (fun _ => True) u := (hholds.ok_of_run hget).1
  rw [bind_ok hget]
  cases found with
  | some p => exact apprises_leaving hs.toFlagged hlooked.entered hu hlooked.sent (hfound p rfl).1
  | none => exact apprises_quiet hushed_logoutNobody (hlooked.entered.hushed hlooked.sent) id id

end Logouts

section Contacts
variable {comment : U16String}

theorem befriend_works (hworks : s.Works)
    (hrow : (s.db.insertFriend p.avatarId.toNat q.avatarId.toNat (fromWideString comment)).isSome) :
    ∃ t, befriend p q comment s = (.ok (), t) := by
  obtain ⟨db, hdb⟩ := Option.isSome_iff_exists.mp hrow
  have hstatement : (s.pushFriend p ⟨some q, comment⟩).db.run
      (.insertFriend p.avatarId q.avatarId (fromWideString comment)) = some ((), db) := by
    change (s.db.insertFriend _ _ _).map _ = _
    rw [hdb]
    rfl
  exact ⟨_, execute_ok (hworks s.executed) hstatement⟩

/-- With a working database the only trouble is a null pointer. -/
theorem addFriend_works (hs : Tended s) (h : s.avatar? p = some a) (ha : a.self = p) (hq : Live s.avatarCache q) :
    (addFriend p (some q) comment).Ends s (fun _ _ => True) fun e _ => e.resultCode = none := by
  by_cases hnew : NewFriend a q.avatarId
  · obtain ⟨b, hb, rfl⟩ := hq
    have hmem := List.mem_of_find?_eq_some h
    have hfresh : ¬ s.db.Befriends p.avatarId.toNat b.self.avatarId.toNat := by
      rw [← ha, ← (hs.synced a hmem).friends, hnew.fresh]
      simp
    have hinserts : ∀ t : Server, t.Works → t.db.friend = s.db.friend → t.db.avatar = s.db.avatar →
        ∃ u, befriend p b.self comment t = (.ok (), u) := by
      intro t hworks hfriend havatar
      apply befriend_works hworks
      apply isSome_insertFriend
      · rwa [Database.Befriends, hfriend]
      · rw [Database.HasAvatar, havatar]
        exact ha ▸ hs.ready.stored a hmem
      · rw [Database.HasAvatar, havatar]
        exact hs.ready.stored b hb
    unfold Ends
    rw [addFriend_run h hnew]
    by_cases hignores : a.ignores b.self.avatarId = true
    · obtain ⟨t, hdelete, hworks, hfriend, havatar⟩ : ∃ t, execute (.deleteIgnore p.avatarId b.self.avatarId)
          (s.setIgnored p (a.withoutIgnored b.self.avatarId)) = (.ok (), t) ∧ t.Works ∧ t.db.friend = s.db.friend ∧
          t.db.avatar = s.db.avatar := ⟨_, execute_ok (hs.works s.executed) rfl, hs.works, rfl, rfl⟩
      obtain ⟨u, hrun⟩ := hinserts t hworks hfriend havatar
      rw [if_pos hignores, bind_ok hdelete, hrun]
      trivial
    · obtain ⟨u, hrun⟩ := hinserts s hs.works rfl rfl
      rw [if_neg hignores, hrun]
      trivial
  · unfold Ends
    rcases addFriend_idle h hnew comment with ⟨hrun, -⟩ | hrun <;> rw [hrun]
    · trivial
    · rfl

/-- The game servers do not change with the contacts. -/
theorem routes_avatarChanges : AvatarChanges fun s t : Server => t.clientAddressMap = s.clientAddressMap where
  execute statement _ := makes_execute_of statement fun _ _ _ => rfl
  object _ := rfl
  cached _ _ _ := rfl
  write p _ _ _ := (still_readAvatar p).makes.bind fun _ => makes_modify fun _ => rfl

/-- What ADDFRIEND does once the two avatars are found. -/
theorem informs_befriending (hp : Live u.avatarCache p) (hb : b ∈ u.avatarCache)
    (honline : ∀ z, z = y ∨ z = x → u.online z = s.online z) (hserves : s.serves y = true → u.serves y = true)
    {before : List (ClientId × Outgoing)} (hsent : t.sent = s.sent ++ (before ++ if b.isOnline then
      u.posts [p.address] (.friendLogin b b.self.address p.avatarId b.statusMessage) else []))
    (hbefore : lastNews y x before = none) (hcache : t.avatarCache = u.avatarCache)
    (hconcerns : befriends → p.avatarId = y ∧ b.self.avatarId = x) (hwatch : Watchable y x befriends s t) :
    Informs y x False s t (before ++ if b.isOnline then
      u.posts [p.address] (.friendLogin b b.self.address p.avatarId b.statusMessage) else []) := by
  have hunique : u.Unduplicated := by
    rw [Server.Unduplicated, ← hcache]
    exact hwatch.unduplicated
  have hsame : ∀ z, t.online z = u.online z := fun z => by rw [Server.online, Server.online, hcache]
  refine ⟨hsent, fun c hc => ?_, fun hy => .inr ?_, fun _ _ _ _ hne => ?_, fun hf => hf.elim,
    fun _ hy hold hnew hregistered hx => ?_⟩
  · rw [lastNews_append, hbefore, Option.or_none] at hc
    obtain ⟨m, hm, hnews⟩ := exists_of_lastNews hc
    split at hm
    · obtain ⟨_, _, _, _, rfl⟩ := mem_posts.mp hm
      obtain ⟨rfl, rfl⟩ := presence_friendLogin hnews
      rw [hsame, online_of_mem hunique hb]
      exact Eq.symm ‹_›
    · exact absurd hm List.not_mem_nil
  · rwa [← honline y (.inl rfl), ← hsame]
  · exact absurd ((hsame x).trans (honline x (.inr rfl))) hne
  · have hbefriends : befriends := (hwatch.kept hy hnew).resolve_left (by simp [hold])
    obtain ⟨rfl, rfl⟩ := hconcerns hbefriends
    have hflag : b.isOnline = true := by rw [← online_of_mem hunique hb, ← hsame, hx]
    obtain ⟨c, hc, hid, hclient⟩ := serves_iff.mp (hserves hregistered)
    obtain rfl := eq_of_avatarId hunique ⟨c, hc, rfl⟩ hp hid
    obtain ⟨client, hclient⟩ := Option.isSome_iff_exists.mp hclient
    rw [if_pos hflag]
    have hpost : (client, Outgoing.notify (.friendLogin b b.self.address c.self.avatarId b.statusMessage)) ∈
        u.posts [c.self.address] (.friendLogin b b.self.address c.self.avatarId b.statusMessage) :=
      mem_posts.mpr ⟨_, List.mem_singleton_self _, client, hclient, rfl⟩
    exact isSome_lastNews (List.mem_append_right _ hpost) (by simp [Outgoing.presence])

theorem apprises_befriending (hentered : Entered s u) (hsent : u.sent = s.sent) (hu : Fit (fun _ => True) u)
    (htended : Tended u) (hp : Live u.avatarCache p) (hq : Live u.avatarCache q)
    (hconcerns : befriends → p.avatarId = y ∧ q.avatarId = x) : (do
      addFriend p (some q) []
      runIf (← readAvatar q).isOnline (sendFriendLoginUpdate p q) : Serve Unit).Ends u
      (fun _ t => Apprises y x False befriends s t) (Recovers (Apprises y x False befriends s)) := by
  obtain ⟨a, -, hself, hobject⟩ := avatar?_of_live hu.allocated hp
  have hends : (addFriend p (some q) []).Ends u _ _ := addFriend_works htended hobject hself hq
  have hholds : (gateway (fun _ => True) True).Holds (addFriend p (some q) []) u _ := holds_addFriend hu hp hq
  unfold Ends
  rcases hadd : addFriend p (some q) [] u with ⟨e | _, v⟩
  · rw [bind_error hadd]
    exact recovers_of_none (hends.err_of_run hadd) v
  · obtain ⟨hv, hkept, -⟩ := hholds.ok_of_run hadd
    have hv : Fit (fun _ => True) v := hv
    have hroutes : v.clientAddressMap = u.clientAddressMap := by
      have hchanges := routes_avatarChanges.makes_addFriend p (some q) [] u
      rw [hadd] at hchanges
      exact changes_related (P := fun s t : Server => t.clientAddressMap = s.clientAddressMap) (fun _ => rfl)
        (fun h h' => h'.trans h) (fun _ _ h => h) hchanges
    have hhushed : Hushed y x u v := hushed_of_run (Hushed.avatarChanges.makes_addFriend p (some q) []) hadd
    obtain ⟨before, hmore, hbefore⟩ := hhushed.sent
    obtain ⟨b, hb, hself', hobject'⟩ := avatar?_of_live hv.allocated (hkept.live q hq)
    have honline : ∀ z, z = y ∨ z = x → v.online z = s.online z := by
      rintro z (rfl | rfl)
      · exact hhushed.watcher.trans (hentered.online z)
      · exact hhushed.watched.trans (hentered.online z)
    have hserves : s.serves y = true → v.serves y = true := by
      intro hs
      obtain ⟨c, hc, rfl, hregistered⟩ := serves_iff.mp (hentered.serves hs)
      obtain ⟨d, hd, hdself⟩ := hkept.live c.self ⟨c, hc, rfl⟩
      exact serves_iff.mpr ⟨d, hd, by rw [hdself], by rw [hdself, hroutes, hregistered]⟩
    rw [bind_ok hadd, bind_ok (readAvatar_run hobject')]
    apply (emits_runIf (emits_sendFriendLoginUpdate hobject' p) v.sent).mono
    · rintro _ t rfl hwatch
      subst hself'
      exact ⟨_, informs_befriending (hkept.live p hp) hb honline hserves
        (by rw [hmore, hsent, List.append_assoc]) hbefore rfl hconcerns hwatch⟩
    · rintro e t ⟨rfl, -⟩
      exact recovers_of_none rfl t

theorem required_ends (request : AvatarRequest) (hs : Tended s) : request.required.Ends s
    (fun p t => LookedUp s t ∧ Live t.avatarCache p ∧ request.Yields p) fun _ _ => True := by
  rw [AvatarRequest.required, ends_bind]
  apply (run_ends request hs.ready hs.works).mono
  · rintro found t ⟨hlooked, hfound⟩
    cases found with
    | some p => exact ⟨hlooked, hfound p rfl⟩
    | none => trivial
  · exact fun _ _ _ => trivial

/-- Whom a contact request is about, if its lookups succeed. -/
theorem named_of_run {srcAvatarId : UInt32} {name address : U16String} {result : Except Exn AvatarPtr}
    (hsrc : requireSrcAvatar srcAvatarId s = (.ok p, t)) (hdest : requireDestAvatar name address t = (result, u)) :
    s.named srcAvatarId name address = result.toOption := by
  rw [Server.named, bind_ok hsrc]
  rw [requireDestAvatar] at hdest
  rcases hget : getAvatar name address t with ⟨e | found, v⟩
  · rw [bind_error hget] at hdest
    obtain ⟨rfl, -⟩ := Prod.mk.inj hdest
    rfl
  · rw [bind_ok hget] at hdest
    cases found <;> obtain ⟨rfl, -⟩ := Prod.mk.inj hdest <;> rfl

theorem apprises_addFriendHandler {request : ReqAddFriend} (hs : Poised s) : (Handler.addFriend request).Ends s
    (fun _ t => Apprises y x False ((Request.addFriend request).Befriended s y.toNat x.toNat) s t)
    (Recovers (Apprises y x False ((Request.addFriend request).Befriended s y.toNat x.toNat) s)) := by
  have hsrcs : (gateway (fun _ => True) True).Holds (requireSrcAvatar request.srcAvatarId) s _ :=
    holds_requireSrcAvatar request.srcAvatarId hs.fit
  unfold Ends
  rw [Handler.addFriend]
  rcases hsrc : requireSrcAvatar request.srcAvatarId s with ⟨e | p, t⟩
  · have hnobody : ¬ (Request.addFriend request).Befriended s y.toNat x.toNat := by
      rintro ⟨⟨-, hnamed⟩, -⟩
      rw [Server.named, bind_error hsrc] at hnamed
      exact absurd hnamed (by simp)
    rw [bind_error hsrc]
    exact fun _ => apprises_of_hushed (hushed_of_run (Hushed.avatarChanges.makes_requireSrcAvatar _) hsrc) id hnobody
  obtain ⟨hlooked, hp, hid⟩ := (required_ends (.byId request.srcAvatarId) hs.tended).ok_of_run hsrc
  have ht : Fit (fun _ => True) t := (hsrcs.ok_of_run hsrc).1
  have hdests : (gateway (fun _ => True) True).Holds (requireDestAvatar request.destName request.destAddress) t _ :=
    holds_requireDestAvatar request.destName request.destAddress ht
  have htended := hlooked.tended hs.tended
  rw [bind_ok hsrc]
  rcases hdest : requireDestAvatar request.destName request.destAddress t with ⟨e | q, u⟩
  · have hnobody : ¬ (Request.addFriend request).Befriended s y.toNat x.toNat := by
      rintro ⟨⟨-, hnamed⟩, -⟩
      rw [named_of_run hsrc hdest] at hnamed
      exact absurd hnamed (by simp [Except.toOption])
    have hquiet := hushed_of_run (y := y) (x := x) (Hushed.avatarChanges.makes_requireDestAvatar _ _) hdest
    rw [bind_error hdest]
    exact fun _ => apprises_of_hushed ((hlooked.entered.hushed hlooked.sent).trans hquiet) id hnobody
  · obtain ⟨hlooked', hq, -⟩ :=
      (required_ends (.byName request.destName request.destAddress) htended).ok_of_run hdest
    have hu : Fit (fun _ => True) u := (hdests.ok_of_run hdest).1
    rw [bind_ok hdest]
    apply apprises_befriending (hlooked.trans hlooked').entered (hlooked.trans hlooked').sent hu
      (hlooked'.tended htended) (hlooked'.grown.live hp) hq
    rintro ⟨⟨hsrcId, hnamed⟩, -⟩
    rw [named_of_run hsrc hdest] at hnamed
    exact ⟨hid.trans (UInt32.toNat_inj.mp hsrcId), UInt32.toNat_inj.mp (Option.some.inj hnamed)⟩

end Contacts

section Requests
variable {client : ClientId} {request : Request}

/-- The requests about who is online and who is whose contact. -/
def Request.Social : Request → Prop
  | .loginAvatar _ | .failoverReLoginAvatar _ | .logoutAvatar _ | .addFriend _ | .removeFriend _ | .addIgnore _
  | .removeIgnore _ => True
  | _ => False

theorem apprises_handler (hs : Poised s) (hclient : client ∈ s.clients) (hsocial : request.Social) :
    (request.handler client).Ends s
      (fun _ t => Apprises y x (request.LogsIn s y) (request.Befriended s y.toNat x.toNat) s t)
      (Recovers (Apprises y x (request.LogsIn s y) (request.Befriended s y.toNat x.toNat) s)) := by
  cases request with
  | loginAvatar r => exact apprises_loginAvatar hs hclient
  | failoverReLoginAvatar r => exact apprises_failoverReLoginAvatar hs hclient
  | logoutAvatar r => exact apprises_logoutAvatar hs
  | addFriend r => exact apprises_addFriendHandler hs
  | removeFriend r => exact apprises_quiet (hushed_removeFriendHandler r) (Hushed.refl s) id id
  | addIgnore r => exact apprises_quiet (hushed_addIgnoreHandler r) (Hushed.refl s) id id
  | removeIgnore r => exact apprises_quiet (hushed_removeIgnoreHandler r) (Hushed.refl s) id id
  | _ => exact hsocial.elim

end Requests

end StationChat
