import StationChat.Avatars.Informing

/-! Friends see who is online, over whole runs of requests about logins and contacts. -/
namespace StationChat
open Lib Lib.Action Lib.Contract

/-- A server, how much it had sent at the later of the last login of `y` and the last addition of `x` to its list,
and whether since then a client was registered for the address of `y` whenever `x` was added, came online or went
offline. -/
structure Watched where
  server : Server
  since : UInt32 → UInt32 → Nat
  reached : UInt32 → UInt32 → Bool

namespace Input

/-- The input logs the avatar in. -/
def LogsIn (s : Server) (y : UInt32) : Input → Prop
  | .request _ r time steadyClock => r.LogsIn (s.arrival r time steadyClock) y
  | _ => False

def Social : Input → Prop
  | .request _ r _ _ => r.Social
  | .restart => False
  | _ => True

end Input

section Deciding

instance (s : Server) (y : UInt32) : DecidablePred (Request.LogsIn s y) := by
  intro request
  apply Request.casesOn (motive := fun request => Decidable (request.LogsIn s y)) request
  case loginAvatar => exact fun r => inferInstanceAs (Decidable (s.loginId _ _ _ _ _ = some y))
  case failoverReLoginAvatar => exact fun r => inferInstanceAs (Decidable (s.loginId _ _ _ _ _ = some y))
  all_goals exact fun _ => instDecidableFalse

instance (s : Server) (y : UInt32) : DecidablePred (Input.LogsIn s y)
  | .request _ r time steadyClock => inferInstanceAs (Decidable (r.LogsIn (s.arrival r time steadyClock) y))
  | .connect | .disconnect _ | .tick | .restart => instDecidableFalse

instance : DecidablePred Request.Social := by
  intro request
  apply Request.casesOn (motive := fun request => Decidable request.Social) request
  all_goals first | exact fun _ => instDecidableTrue | exact fun _ => instDecidableFalse

instance : DecidablePred Input.Social
  | .request _ r _ _ => inferInstanceAs (Decidable r.Social)
  | .restart => instDecidableFalse
  | .connect | .disconnect _ | .tick => instDecidableTrue

end Deciding

namespace Watched

def start (db : Database) (version : UInt32) (policyConfig : Policy.Config) : Watched where
  server := Server.start db (fun _ => false) version policyConfig
  since _ _ := 0
  reached _ _ := false

/-- The input led to the server `t`. -/
def after (w : Watched) (input : Input) (t : Server) : Watched where
  server := t
  since y x :=
    if input.LogsIn w.server y ∨ w.server.lists y x = false ∧ t.lists y x = true then w.server.sent.length
    else w.since y x
  reached y x :=
    if input.LogsIn w.server y then true
    else if w.server.lists y x = false ∧ t.lists y x = true then w.server.serves y
    else w.reached y x && (t.online x == w.server.online x || w.server.serves y)

def step (w : Watched) (input : Input) : Option Watched := (w.server.step input).map (w.after input)

/-- Runs of such requests, with connections that come and go, in which every avatar id is one object's. -/
def Reaches : Watched → Watched → Prop := Runs step fun w input => input.Social ∧ w.server.Soundly input

/-- The last thing `y` heard about `x` since the later of its own last login and the last addition of `x`. -/
def heard (w : Watched) (y x : UInt32) : Option Bool := lastNews y x (w.server.sent.drop (w.since y x))

end Watched

variable {s t : Server} {w : Watched} {input : Input} {y x : UInt32} {client : ClientId} {request : Request}
  {time : UInt32} {steadyClock : Nat} {db : Database} {version : UInt32} {policyConfig : Policy.Config}

section Steps

/-- Only an ADDFRIEND puts an avatar on the list of one that is online. -/
theorem lists_request (hs : Poised s) (h : s.step (.request client request time steadyClock) = some t)
    (hsound : Sound s t) (hy : s.online y = true) (hlists : t.lists y x = true) :
    s.lists y x = true ∨ request.Befriended (s.arrival request time steadyClock) y.toNat x.toNat := by
  have hfollows := follows_request hs.tended h
  obtain ⟨a, ha, rfl, hfriend⟩ := lists_iff.mp hlists
  obtain ⟨b, hb, hid, -⟩ := online_iff.mp hy
  have hrow := (((hfollows.tended hsound hs.tended).synced a ha).friends x).mp hfriend
  refine (hfollows.friends _ _ hrow).imp_left fun hrow => lists_iff.mpr ⟨b, hb, hid, ?_⟩
  exact ((hs.tended.synced b hb).friends x).mpr (hid ▸ hrow)

/-- One request. -/
theorem informs_request (hs : Poised s) (hsocial : request.Social)
    (h : s.step (.request client request time steadyClock) = some t) (hsound : Sound s t) (hy : t.Ordinary y)
    (hx : t.Ordinary x) :
    ∃ more, Informs y x (request.LogsIn (s.arrival request time steadyClock) y) s t more := by
  have harrival : Poised (s.arrival request time steadyClock) :=
    ⟨⟨hs.flagged, hs.once, hs.cached⟩, (unmoved_arrival s request time steadyClock).tended hs.tended, hs.fit,
      hs.unduplicated⟩
  have happrises := apprises_handler (y := y) (x := x) harrival (Server.step_request h).1 hsocial
  have hkept := lists_request (y := y) (x := x) hs h hsound
  obtain ⟨u, hhandler, body, rfl⟩ := step_request_cases h
  have hhandled : Apprises y x (request.LogsIn (s.arrival request time steadyClock) y)
      (request.Befriended (s.arrival request time steadyClock) y.toNat x.toNat)
      (s.arrival request time steadyClock) u := by
    rcases hhandler with hrun | ⟨e, v, code, hrun, hcode, rfl⟩
    · exact happrises.ok_of_run hrun
    · have hcaught := happrises.err_of_run hrun (by rw [hcode]; rfl)
      exact hcaught.after rfl (.of_cache rfl rfl)
  have hresponse : Hushed y x u { u with sent := u.sent ++
      [(client, .response u.response.type u.response.track u.response.result body)] } := .of_send _ _ rfl
  obtain ⟨more, hmore⟩ := hhandled.after (by rfl) hresponse ⟨hsound.unduplicated, hy, hx, hkept⟩
  exact ⟨more, hmore.sent, hmore.truthful, hmore.stays, hmore.changed, hmore.greeted, hmore.introduced⟩

theorem poised_step (hs : Poised s) (h : s.step input = some t) (hsound : Sound s t) : Poised t where
  toFlagged := keepsFlags_step hs.fit h (fun _ => hs.toFlagged) hsound.unduplicated
  tended := tended_step hs.tended h hsound
  fit := fit_step hs.fit (admitted_any s input) h
  unduplicated := hsound.unduplicated

end Steps

/-- The news about a friend is right. -/
def Watched.Right (w : Watched) (y x : UInt32) : Prop :=
  (∀ c, w.heard y x = some c → c = w.server.online x) ∧ (w.server.online x = true → (w.heard y x).isSome)

/-- The invariant of the runs. -/
structure Told (w : Watched) : Prop where
  poised : Poised w.server
  told : ∀ y x, w.server.Ordinary y → w.server.Ordinary x → w.server.online y = true →
    w.server.lists y x = true → w.reached y x = true → w.since y x ≤ w.server.sent.length ∧ w.Right y x

section Runs

/-- A run from which something new counts. -/
theorem right_of_restarted {more : List (ClientId × Outgoing)} {greets : Prop} (h : Informs y x greets w.server t more)
    (hsince : (w.after input t).since y x = w.server.sent.length)
    (hnews : t.online x = true → (lastNews y x more).isSome) :
    (w.after input t).since y x ≤ t.sent.length ∧ (w.after input t).Right y x := by
  have hheard : (w.after input t).heard y x = lastNews y x more := by
    rw [Watched.heard, hsince]
    change lastNews y x (t.sent.drop _) = _
    rw [h.sent, List.drop_left]
  rw [Watched.Right, hheard, hsince, h.sent, List.length_append]
  exact ⟨Nat.le_add_right _ _, h.truthful, hnews⟩

/-- What counted before counts on. -/
theorem right_of_continued {more : List (ClientId × Outgoing)} {greets : Prop} (h : Informs y x greets w.server t more)
    (hle : w.since y x ≤ w.server.sent.length) (hw : w.Right y x)
    (hsince : (w.after input t).since y x = w.since y x)
    (hchanged : t.online x ≠ w.server.online x → (lastNews y x more).isSome) :
    (w.after input t).since y x ≤ t.sent.length ∧ (w.after input t).Right y x := by
  have hheard : (w.after input t).heard y x = (lastNews y x more).or (w.heard y x) := by
    rw [Watched.heard, hsince]
    change lastNews y x (t.sent.drop _) = _
    rw [h.sent, List.drop_append_of_le_length hle, lastNews_append]
    rfl
  rw [Watched.Right, hheard, hsince, h.sent, List.length_append]
  refine ⟨Nat.le_add_right_of_le hle, ?_⟩
  change (∀ c, _ = some c → c = t.online x) ∧ (t.online x = true → _)
  cases hmore : lastNews y x more with
  | some c =>
    rw [Option.some_or]
    exact ⟨fun d hd => Option.some.inj hd ▸ h.truthful c hmore, fun _ => rfl⟩
  | none =>
    have hsame : t.online x = w.server.online x := by
      by_contra hne
      have hsome := hchanged hne
      rw [hmore] at hsome
      exact absurd hsome (by simp)
    rw [Option.none_or, hsame]
    exact hw

theorem ordinary_of_selves (h : s.avatarCache.map (·.self) <+: t.avatarCache.map (·.self)) (ht : t.Ordinary y) :
    s.Ordinary y := by
  rintro _ ⟨a, ha, rfl⟩
  obtain ⟨b, hb, hself⟩ := List.mem_map.mp (h.subset (List.mem_map_of_mem ha))
  exact ht _ ⟨b, hb, hself⟩

/-- One request: what `y` hears counts from its own login, from the addition of `x`, or from before. -/
theorem told_request (hw : Told w) (hsocial : request.Social)
    (h : w.server.step (.request client request time steadyClock) = some t) (hsound : Sound w.server t) :
    Told (w.after (.request client request time steadyClock) t) := by
  refine ⟨poised_step hw.poised h hsound, fun y x hy hx honline hlists hreached => ?_⟩
  obtain ⟨more, hmore⟩ := informs_request hw.poised hsocial h hsound hy hx
  by_cases hgreets : (Input.request client request time steadyClock).LogsIn w.server y
  · apply right_of_restarted hmore
    · simp only [Watched.after, hgreets, true_or, if_true]
    · exact hmore.greeted hgreets hlists
  have hbefore := (hmore.stays honline).resolve_left hgreets
  cases hold : w.server.lists y x with
  | false =>
    have hnew : w.server.lists y x = false ∧ t.lists y x = true := ⟨hold, hlists⟩
    simp only [Watched.after, hgreets, hnew, if_false, and_self, if_true] at hreached
    apply right_of_restarted hmore
    · simp only [Watched.after, hnew, and_self, or_true, if_true]
    · exact hmore.introduced hgreets hbefore hold hlists hreached
  | true =>
    simp only [Watched.after, hgreets, hold, Bool.true_eq_false, false_and, if_false, Bool.and_eq_true,
      Bool.or_eq_true, beq_iff_eq] at hreached
    have hselves := (follows_request hw.poised.tended h).selves
    obtain ⟨hle, hright⟩ := hw.told y x (ordinary_of_selves hselves hy) (ordinary_of_selves hselves hx) hbefore hold
      hreached.1
    apply right_of_continued hmore hle hright
    · simp only [Watched.after, hgreets, hold, Bool.true_eq_false, false_and, or_self, if_false]
    · exact fun hne => hmore.changed hgreets hbefore hold (hreached.2.resolve_left hne) hne

/-- Connections come and go. -/
theorem told_idle (hw : Told w) (ht : Poised t) (hcache : t.avatarCache = w.server.avatarCache)
    (hsent : t.sent = w.server.sent) (hlogs : ∀ y, ¬ input.LogsIn w.server y) : Told (w.after input t) := by
  refine ⟨ht, fun y x hy hx honline hlists hreached => ?_⟩
  have hback : ∀ z, t.Ordinary z → w.server.Ordinary z := fun z hz => by rwa [Server.Ordinary, ← hcache]
  have hsame : t.online y = w.server.online y := by rw [Server.online, Server.online, hcache]
  have hlist : t.lists y x = w.server.lists y x := by rw [Server.lists, Server.lists, hcache]
  have honline : t.online y = true := honline
  have hlists : t.lists y x = true := hlists
  have hquiet : Hushed y x w.server t := .of_cache hcache hsent
  obtain ⟨more, hmore⟩ := apprises_of_hushed hquiet not_false not_false
    ⟨ht.unduplicated, hy, hx, fun _ h => .inl (hlist ▸ h)⟩
  rw [hlist] at hlists
  simp only [Watched.after, hlogs, hlists, Bool.true_eq_false, false_and, if_false, Bool.and_eq_true] at hreached
  obtain ⟨hle, hright⟩ := hw.told y x (hback y hy) (hback x hx) (hsame ▸ honline) hlists hreached.1
  apply right_of_continued hmore hle hright
  · simp only [Watched.after, hlogs, hlists, Bool.true_eq_false, false_and, or_self, if_false]
  · exact fun hne => absurd hquiet.watched hne

theorem told_step {v : Watched} (hw : Told w) (hsocial : input.Social) (hsound : w.server.Soundly input)
    (h : w.step input = some v) : Told v := by
  obtain ⟨t, hstep, rfl⟩ := Option.map_eq_some_iff.mp h
  have ht := poised_step hw.poised hstep (hsound t hstep)
  cases input with
  | request client request time steadyClock => exact told_request hw hsocial hstep (hsound t hstep)
  | connect | tick =>
    obtain rfl := Option.some.inj hstep
    exact told_idle hw ht rfl rfl fun _ => id
  | disconnect client =>
    obtain ⟨-, rfl⟩ := Server.step_disconnect hstep
    exact told_idle hw ht rfl rfl fun _ => id
  | restart => exact hsocial.elim

theorem told_start (hdb : db.Consistent) (version : UInt32) (policyConfig : Policy.Config) :
    Told (Watched.start db version policyConfig) := by
  refine ⟨⟨⟨fun _ ha => absurd ha List.not_mem_nil, List.nodup_nil, fun _ hp => absurd hp List.not_mem_nil⟩,
    tended_start hdb version policyConfig, ?_, List.nodup_nil⟩, fun _ _ _ _ _ _ hreached => ?_⟩
  · exact fit_start _ version policyConfig ⟨hdb.referential, fun hr => absurd trivial hr⟩
  · exact Bool.noConfusion hreached

/-- An online avatar has heard last, since its own last login and the last addition of a friend, that the friend is
online if it is, and that it went offline or nothing if it is not, as long as a client was registered for its address
whenever since then the friend was added, came online or went offline. -/
theorem friends_see_presence (hdb : db.Consistent) (h : (Watched.start db version policyConfig).Reaches w)
    {a : ChatAvatar} (ha : a ∈ w.server.avatarCache) (honline : a.isOnline = true)
    (hname : a.self.name ≠ systemName) :
    ∀ contact ∈ a.friendList, ∃ b ∈ w.server.avatarCache, contact.frnd = some b.self ∧
      (b.self.name ≠ systemName → w.reached a.self.avatarId b.self.avatarId = true →
        if b.isOnline then w.heard a.self.avatarId b.self.avatarId = some true
        else w.heard a.self.avatarId b.self.avatarId = some false ∨
          w.heard a.self.avatarId b.self.avatarId = none) := by
  have hw : Told w := Runs.invariant h (told_start hdb version policyConfig) fun _ _ _ hw hadmitted hstep =>
    told_step hw hadmitted.1 hadmitted.2 hstep
  have hunique := hw.poised.unduplicated
  intro contact hcontact
  obtain ⟨q, hfrnd, b, hb, rfl⟩ := hw.poised.fit.pointers.friends a ha contact hcontact
  refine ⟨b, hb, hfrnd, fun hname' hreached => ?_⟩
  have hordinary : ∀ c ∈ w.server.avatarCache, c.self.name ≠ systemName → w.server.Ordinary c.self.avatarId := by
    intro c hc hname p hp hid
    rwa [eq_of_avatarId hunique hp ⟨c, hc, rfl⟩ hid]
  have hlists : w.server.lists a.self.avatarId b.self.avatarId = true :=
    lists_iff.mpr ⟨a, ha, rfl, List.any_eq_true.mpr ⟨contact, hcontact, by simp [Names, hfrnd]⟩⟩
  obtain ⟨-, htrue, hsome⟩ := hw.told _ _ (hordinary a ha hname) (hordinary b hb hname')
    ((online_of_mem hunique ha).trans honline) hlists hreached
  rw [online_of_mem hunique hb] at htrue hsome
  split
  · rename_i hflag
    obtain ⟨c, hc⟩ := Option.isSome_iff_exists.mp (hsome hflag)
    rw [hc, htrue c hc, hflag]
  · rename_i hflag
    cases hheard : w.heard a.self.avatarId b.self.avatarId with
    | none => exact .inr rfl
    | some c =>
      have hoffline : b.isOnline = false := by simpa using hflag
      exact .inl (by rw [htrue c hheard, hoffline])

/-- The server of the players A and B that has just started, watched. -/
def Watched.players : Watched :=
  Watched.start { Database.empty with
    avatar := [⟨1, 1, [0x41], [0x61], 0⟩, ⟨2, 2, [0x42], [0x61], 0⟩]
    nextAvatarId := 3 } 2 {}

/-- A game server registers, A comes online and befriends B, and B comes online. -/
theorem friends_see_presence_login : ∃ w, Watched.players.Reaches w ∧
    ∃ a ∈ w.server.avatarCache, a.isOnline = true ∧ a.self.name ≠ systemName ∧
      ∃ contact ∈ a.friendList, ∃ b ∈ w.server.avatarCache, contact.frnd = some b.self ∧ b.isOnline = true ∧
        w.heard a.self.avatarId b.self.avatarId = some true := by
  obtain ⟨w, hreached, hw⟩ : ∃ w, Watched.players.Reaches w ∧ decide (∃ a ∈ w.server.avatarCache,
      (a.isOnline = true ∧ a.self.name ≠ systemName) ∧ a.friendList ≠ [] ∧ ∀ contact ∈ a.friendList,
        ∀ b ∈ w.server.avatarCache, contact.frnd = some b.self → b.self.name ≠ systemName ∧
          b.isOnline = true ∧ w.reached a.self.avatarId b.self.avatarId = true) = true :=
    Runs.exists_of_admitted [.connect, .request 0 (.loginAvatar ⟨1, 3, systemName, [0x61], [], 0, 0⟩) 0 0,
      .request 0 (.loginAvatar ⟨2, 1, [0x41], [0x61], [], 0, 0⟩) 0 0,
      .request 0 (.addFriend ⟨3, 1, [0x42], [0x61], [], false, []⟩) 0 0,
      .request 0 (.loginAvatar ⟨4, 2, [0x42], [0x61], [], 0, 0⟩) 0 0] (by decide +kernel)
  obtain ⟨a, ha, ⟨honline, hname⟩, hlist, hfriends⟩ := of_decide_eq_true hw
  obtain ⟨contact, hcontact⟩ := List.exists_mem_of_ne_nil _ hlist
  have hdb : Database.Consistent { Database.empty with
      avatar := [⟨1, 1, [0x41], [0x61], 0⟩, ⟨2, 2, [0x42], [0x61], 0⟩]
      nextAvatarId := 3 } := ⟨⟨by decide, by decide⟩, ⟨by decide, by decide⟩, by decide⟩
  obtain ⟨b, hb, hfrnd, hnews⟩ := friends_see_presence hdb hreached ha honline hname contact hcontact
  obtain ⟨hname', honline', hregistered⟩ := hfriends contact hcontact b hb hfrnd
  have hheard := hnews hname' hregistered
  rw [if_pos honline'] at hheard
  exact ⟨w, hreached, a, ha, honline, hname, contact, hcontact, b, hb, hfrnd, honline', hheard⟩

/-- No game server has registered; A hears nothing of B, which comes online. -/
theorem unregistered_hears_nothing : ∃ w, Watched.players.Reaches w ∧
    ∃ a ∈ w.server.avatarCache, ∃ b ∈ w.server.avatarCache, a.isOnline = true ∧ b.isOnline = true ∧
      a.self.name ≠ systemName ∧ b.self.name ≠ systemName ∧ a.hasFriend b.self.avatarId = true ∧
      w.heard a.self.avatarId b.self.avatarId = none :=
  Runs.exists_of_admitted [.connect, .request 0 (.loginAvatar ⟨1, 1, [0x41], [0x61], [], 0, 0⟩) 0 0,
    .request 0 (.addFriend ⟨2, 1, [0x42], [0x61], [], false, []⟩) 0 0,
    .request 0 (.loginAvatar ⟨3, 2, [0x42], [0x61], [], 0, 0⟩) 0 0] (by decide +kernel)

end Runs

end StationChat
