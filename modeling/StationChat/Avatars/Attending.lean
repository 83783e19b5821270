import StationChat.Avatars.ContactLists

/-! Requests that name stored avatars exactly: the lookups find them, and the contacts change by the
operation that was asked for and by nothing else. -/
namespace StationChat
open Lib Lib.Action Lib.Contract

variable {α β : Type} {s t u : Server} {p q : AvatarPtr} {db : Database} {row row' : AvatarRow}
  {request : AvatarRequest} {Q : α → Server → Prop}

/-- The cache is a copy of the tables in which avatars are told apart by their names too. -/
structure Attentive (s : Server) : Prop where
  settled : Settled s
  keys : s.db.AvatarKeys
  rows : ∀ a ∈ s.avatarCache, OfRow s.db a.self
  works : s.Works
  apart : s.db.Apart

theorem Attentive.matched (hs : Attentive s) : Matched s :=
  ⟨hs.settled.joined.ready.allocated, hs.settled.sound.referential, hs.keys, hs.rows, hs.settled.joined.unduplicated⟩

/-- The request is for the avatar of the row, by its id or by its name and address. -/
def AvatarRequest.Seeks (row : AvatarRow) : AvatarRequest → Prop
  | byId avatarId => row.id = avatarId.toNat
  | byName name address => toWideString row.name = name ∧ toWideString row.address = address

/-- The tables of avatars and friends are those of before, and so is whoever is cached. -/
structure Attended (s t : Server) : Prop where
  avatar : t.db.avatar = s.db.avatar
  friend : t.db.friend = s.db.friend
  live : ∀ p, Live s.avatarCache p → Live t.avatarCache p
  attentive : Attentive s → Attentive t

namespace Attended

theorem refl (s : Server) : Attended s s := ⟨rfl, rfl, fun _ h => h, fun h => h⟩

theorem trans (h : Attended s t) (h' : Attended t u) : Attended s u :=
  ⟨h'.avatar.trans h.avatar, h'.friend.trans h.friend, fun p hp => h'.live p (h.live p hp),
    fun hs => h'.attentive (h.attentive hs)⟩

/-- What changes no contact and no row of an avatar. -/
theorem of_unmoved (h : Unmoved s t) (havatar : t.db.avatar = s.db.avatar) : Attended s t := by
  refine ⟨havatar, h.friend, fun p hp => ?_, fun hs => ⟨hs.settled.unmoved h, ⟨?_, ?_, ?_⟩, fun b hb => ?_, ?_, ?_⟩⟩
  · obtain ⟨a, ha, rfl⟩ := hp
    have hmem : a.self ∈ t.avatarCache.map (·.self) := h.selves ▸ List.mem_map_of_mem ha
    exact List.mem_map.mp hmem
  · exact havatar ▸ hs.keys.ids
  · exact havatar ▸ hs.keys.names
  · exact h.next hs.keys.next
  · obtain ⟨a, ha, heq⟩ := h.before hb
    have hself : b.self = a.self := congrArg Prod.fst heq
    rw [hself, OfRow, havatar]
    exact hs.rows a ha
  · exact fun k => h.fails ▸ hs.works k
  · intro i j
    rw [Database.Befriends, h.friend, Database.Ignores, h.ignore]
    exact hs.apart i j

end Attended

section Lookups

theorem Attentive.recognised (hs : Attentive s) (hrow : row ∈ s.db.avatar) (hseeks : request.Seeks row) :
    s.Recognised request := by
  cases request with
  | byId avatarId => exact recognised_byId s avatarId
  | byName name address =>
    obtain ⟨rfl, rfl⟩ := hseeks
    rintro row' hrow' hmatch ⟨a, ha, hid⟩
    have hsame : row'.name = row.name ∧ row'.address = row.address := by
      simpa [AvatarRequest.matchesRow] using hmatch
    obtain rfl := hs.keys.names row' hrow' row hrow hsame.1 hsame.2
    obtain ⟨row'', hrow'', hid', hname, haddress⟩ := hs.rows a ha
    obtain rfl := hs.keys.ids row'' hrow'' row' hrow (hid'.trans hid)
    exact ⟨a, ha, by simp [AvatarRequest.matchesObject, hname, haddress]⟩

theorem matches_of_seeks (hseeks : request.Seeks row) : request.matchesRow row = true := by
  cases request with
  | byId avatarId =>
    have hid : row.id = avatarId.toNat := hseeks
    simp [AvatarRequest.matchesRow, hid]
  | byName name address =>
    obtain ⟨rfl, rfl⟩ := hseeks
    simp [AvatarRequest.matchesRow]

/-- What the lookup yields is the object of the row. -/
theorem yields_of_seeks (hs : Attentive s) (hrow : row ∈ s.db.avatar) (hseeks : request.Seeks row)
    (hrun : request.run s = (.ok (some p), t)) (hyields : request.Yields p) :
    Matched t ∧ p.avatarId.toNat = row.id := by
  cases request with
  | byId avatarId =>
    have hyields : p.avatarId = avatarId := hyields
    exact ⟨((matched_getAvatarById hs.matched avatarId).ok_of_run hrun).1, by rw [hyields, hseeks]⟩
  | byName name address =>
    obtain ⟨rfl, rfl⟩ := hseeks
    have hstorable : (AvatarCall.getByName (toWideString row.name) (toWideString row.address)).Storable s :=
      .inl ⟨narrowable_toWideString _, narrowable_toWideString _⟩
    obtain ⟨ht, hdb, ⟨hname, haddress⟩, row', hrow', hid, hname', haddress'⟩ := matched_found hs.matched hstorable hrun
    have hsame : row' = row := by
      apply hs.keys.names row' (hdb ▸ hrow') row hrow
      · exact toWideString_injective (hname'.symm.trans hname)
      · exact toWideString_injective (haddress'.symm.trans haddress)
    exact ⟨ht, by rw [← hid, hsame]⟩

/-- `t` is `s` after a lookup that yielded `p`, the object of the row. -/
structure Looked (s : Server) (row : AvatarRow) (p : AvatarPtr) (t : Server) : Prop where
  attended : Attended s t
  grown : Grown s t
  live : Live t.avatarCache p
  avatarId : p.avatarId.toNat = row.id

/-- A lookup of a stored avatar finds it or ends the process. -/
theorem attentive_run (hs : Attentive s) (hrow : row ∈ s.db.avatar) (hseeks : request.Seeks row) :
    request.run.Ends s (fun found t => ∃ p, found = some p ∧ Looked s row p t) fun e _ => e.resultCode = none := by
  have hknown := hs.recognised hrow hseeks
  have hends := run_ends request hs.settled.joined.ready hs.works
  unfold Ends at hends ⊢
  rcases hrun : request.run s with ⟨e | found, t⟩ <;> rw [hrun] at hends
  · exact hends
  · obtain ⟨hsettled, hgrown, hfound⟩ := settled_run hs.settled hknown (fun e he => absurd he (by simp)) hrun
    obtain ⟨-, -, -, hnone⟩ := (joined_run hs.settled.joined hknown).ok_of_run hrun
    cases found with
    | none =>
      have hmatch := hnone rfl row hrow
      rw [matches_of_seeks hseeks] at hmatch
      exact absurd hmatch (by simp)
    | some p =>
      obtain ⟨hlive, hyields⟩ := hfound p rfl
      obtain ⟨hmatched, hid⟩ := yields_of_seeks hs hrow hseeks hrun hyields
      have hattentive : Attentive t :=
        ⟨hsettled, hmatched.keys, hmatched.rows, hends.1.works hs.works, hgrown.db ▸ hs.apart⟩
      have hattended : Attended s t :=
        ⟨by rw [hgrown.db], by rw [hgrown.db], fun q hq => hgrown.live hq, fun _ => hattentive⟩
      exact ⟨p, rfl, hattended, hgrown, hlive, hid⟩

theorem attentive_required (hs : Attentive s) (hrow : row ∈ s.db.avatar) (hseeks : request.Seeks row) :
    request.required.Ends s (Looked s row) fun e _ => e.resultCode = none := by
  rw [AvatarRequest.required, ends_bind]
  apply (attentive_run hs hrow hseeks).mono
  · rintro _ t ⟨p, rfl, hp⟩
    exact hp
  · exact fun _ _ he => he

end Lookups

/-- The computation returns, or throws what is caught, with the tables of before; the process may also end. -/
def Attends (x : Serve α) (s : Server) (Q : α → Server → Prop) : Prop :=
  x.Ends s (fun a t => Attended s t ∧ Q a t) (Recovers (Attended s))

theorem Attends.bind {x : Serve α} {f : α → Serve β} {R : β → Server → Prop} (hx : Attends x s Q)
    (hf : ∀ a t, Attended s t → Q a t → Attends (f a) t R) : Attends (x >>= f) s R := by
  rw [Attends, ends_bind]
  apply Ends.mono hx
  · rintro a t ⟨hst, hQ⟩
    apply Ends.mono (hf a t hst hQ)
    · exact fun b u hu => ⟨hst.trans hu.1, hu.2⟩
    · exact fun e u hu hcode => hst.trans (hu hcode)
  · exact fun _ _ he => he

/-- Neither contacts nor rows of avatars change. -/
def undisturbed : Contract Server Exn where
  inv _ := True
  step s t := Unmoved s t ∧ t.db.avatar = s.db.avatar
  allowed _ := True
  refl s := ⟨Unmoved.refl s, rfl⟩
  trans h h' := ⟨h.1.trans h'.1, h'.2.trans h.2⟩

section Undisturbed

theorem attends_undisturbed {x : Serve α} (h : undisturbed.Holds x s Q) : Attends x s Q :=
  Ends.mono h (fun _ _ ht => ⟨Attended.of_unmoved ht.2.1.1 ht.2.1.2, ht.2.2⟩)
    fun _ _ ht _ => Attended.of_unmoved ht.2.1.1 ht.2.1.2

theorem undisturbed_aside {x : Serve α} (h : aside.Holds x s Q) : undisturbed.Holds x s Q :=
  h.weaken (fun _ _ _ => trivial) (fun _ _ hst => ⟨Unmoved.of_aside hst, hst.avatar⟩) fun _ _ => trivial

theorem undisturbed_still {x : Serve α} (h : Still x) : undisturbed.Holds x s fun a t => t = s ∧ x s = (.ok a, s) :=
  holds_still h trivial fun _ _ _ => trivial

theorem undisturbed_modify {f : Server → Server} (h : Unmoved s (f s)) (havatar : (f s).db.avatar = s.db.avatar) :
    undisturbed.Holds (modify f) s fun _ _ => True :=
  holds_modify trivial ⟨h, havatar⟩ trivial

theorem undisturbed_setResponse (f : Response → Response) : undisturbed.Holds (setResponse f) s fun _ _ => True :=
  undisturbed_modify ⟨rfl, id, rfl, rfl, rfl, rfl, rfl⟩ rfl

theorem undisturbed_writeAvatar (p : AvatarPtr) {f : ChatAvatar → ChatAvatar}
    (hf : ∀ a, (f a).contacts = a.contacts) : undisturbed.Holds (writeAvatar p f) s fun _ _ => True :=
  (undisturbed_still (still_readAvatar p)).bind fun _ t _ _ _ => undisturbed_modify (Unmoved.updateAvatar t p hf) rfl

theorem undisturbed_loginAvatar (avatar : AvatarPtr) : undisturbed.Holds (loginAvatar avatar) s fun _ _ => True := by
  refine Holds.bind (undisturbed_writeAvatar avatar fun _ => rfl) fun _ t _ _ _ => ?_
  refine holds_get_bind (holds_ite (fun _ => holds_pure trivial trivial) fun _ => ?_)
  exact undisturbed_modify ⟨rfl, id, rfl, rfl, rfl, rfl, rfl⟩ rfl

theorem undisturbed_logoutAvatar (avatar : Option AvatarPtr) :
    undisturbed.Holds (logoutAvatar avatar) s fun _ _ => True := by
  refine (undisturbed_still (still_deref avatar)).bind fun p _ _ _ _ => ?_
  refine (undisturbed_still (still_readAvatar p)).bind fun a _ _ _ _ => ?_
  refine holds_ite (fun _ => ?_) fun _ => holds_pure trivial trivial
  refine Holds.bind (undisturbed_writeAvatar p fun _ => rfl) fun _ t _ _ _ => ?_
  exact undisturbed_modify ⟨rfl, id, rfl, rfl, rfl, rfl, rfl⟩ rfl

end Undisturbed

section Handlers
variable {ok : α → Server → Prop} {err : Exn → Server → Prop}

theorem attends_run (hs : Attentive s) (hrow : row ∈ s.db.avatar) (hseeks : request.Seeks row) :
    Attends request.run s fun found t => ∃ p, found = some p ∧ Looked s row p t := by
  apply (attentive_run hs hrow hseeks).mono
  · rintro _ t ⟨p, rfl, hp⟩
    exact ⟨hp.attended, p, rfl, hp⟩
  · exact fun e t he => recovers_of_none he t

theorem attends_required (hs : Attentive s) (hrow : row ∈ s.db.avatar) (hseeks : request.Seeks row) :
    Attends request.required s (Looked s row) := by
  apply (attentive_required hs hrow hseeks).mono
  · exact fun p t hp => ⟨hp.attended, hp⟩
  · exact fun e t he => recovers_of_none he t

theorem attends_login (client : ClientId) {name address : U16String} (userId attributes : UInt32)
    (loginLocation : U16String) (hs : Attentive s) (hrow : row ∈ s.db.avatar)
    (hseeks : (AvatarRequest.byName name address).Seeks row) :
    Attends (Handler.login client name address userId attributes loginLocation) s fun _ _ => True := by
  have htarget : Attends (Handler.loginTarget name address userId attributes loginLocation) s fun _ _ => True := by
    refine (attends_run hs hrow hseeks).bind fun found t _ hfound => ?_
    obtain ⟨p, rfl, -⟩ := hfound
    exact ⟨Attended.refl t, trivial⟩
  refine htarget.bind fun p t _ _ => attends_undisturbed ?_
  refine (undisturbed_aside (aside_evaluatePolicyEvent _)).bind fun _ _ _ _ _ => ?_
  refine (undisturbed_loginAvatar p).bind fun _ _ _ _ _ => ?_
  exact (undisturbed_aside (aside_welcome client p address)).bind fun _ _ _ _ _ => holds_pure trivial trivial

theorem attends_loginAvatar (client : ClientId) {r : ReqLoginAvatar} (hs : Attentive s) (hrow : row ∈ s.db.avatar)
    (hseeks : (AvatarRequest.byName r.name r.address).Seeks row) :
    Attends (Handler.loginAvatar client r) s fun _ _ => True :=
  (attends_login client _ _ _ hs hrow hseeks).bind fun _ _ _ _ => attends_undisturbed (undisturbed_setResponse _)

theorem attends_failoverReLoginAvatar (client : ClientId) {r : ReqFailoverReLoginAvatar} (hs : Attentive s)
    (hrow : row ∈ s.db.avatar) (hseeks : (AvatarRequest.byName r.name r.address).Seeks row) :
    Attends (Handler.failoverReLoginAvatar client r) s fun _ _ => True := by
  refine (attends_login client _ _ _ hs hrow hseeks).bind fun p t _ _ => attends_undisturbed ?_
  refine (undisturbed_still (still_getJoinedRooms _)).bind fun rooms _ _ _ _ => undisturbed_aside ?_
  exact holds_forM rooms trivial fun room _ _ _ _ => aside_posting (posting_sendEnterRoomUpdate p room)

theorem attends_logoutAvatar {r : ReqLogoutAvatar} (hs : Attentive s) (hrow : row ∈ s.db.avatar)
    (hseeks : (AvatarRequest.byId r.avatarId).Seeks row) : Attends (Handler.logoutAvatar r) s fun _ _ => True := by
  refine (attends_run hs hrow hseeks).bind fun found t _ _ => attends_undisturbed ?_
  refine (undisturbed_aside (aside_leaveJoinedRooms found)).bind fun _ _ _ _ _ => ?_
  refine (undisturbed_aside (aside_posting (posting_sendFriendLogoutUpdates found))).bind fun _ _ _ _ _ => ?_
  exact undisturbed_logoutAvatar found

theorem attends_contactStatus {r : ReqContactStatus} (hs : Attentive s) (hrow : row ∈ s.db.avatar)
    (hseeks : (AvatarRequest.byId r.srcAvatarId).Seeks row) : Attends (Handler.contactStatus r) s fun _ _ => True := by
  rw [Handler.contactStatus, requireSrcAvatar_eq]
  refine (attends_required hs hrow hseeks).bind fun p t _ _ => ?_
  exact attends_undisturbed (undisturbed_setResponse _)

end Handlers

section Contacts
variable {operation : ContactOperation} {i j : Nat}

/-- The tables of friends became those of `db`. -/
structure Contacted (s : Server) (db : Database) (t : Server) : Prop where
  attentive : Attentive t
  avatar : t.db.avatar = s.db.avatar
  friend : t.db.friend = db.friend

theorem Attended.contacted (h : Attended s t) (hs : Attentive s) : Contacted s s.db t :=
  ⟨h.attentive hs, h.avatar, h.friend⟩

theorem Contacted.attended (h : Contacted s db t) (hst : Attended t u) : Contacted s db u :=
  ⟨hst.attentive h.attentive, hst.avatar.trans h.avatar, hst.friend.trans h.friend⟩

theorem avatars_contact (db : Database) (i j : Nat) (operation : ContactOperation) :
    (db.contact i j operation).avatar = db.avatar ∧ (db.contact i j operation).nextAvatarId = db.nextAvatarId := by
  cases operation with
  | addFriend comment =>
    rw [Database.contact]
    split <;> exact ⟨rfl, rfl⟩
  | addIgnore =>
    rw [Database.contact]
    split <;> exact ⟨rfl, rfl⟩
  | removeFriend => exact ⟨rfl, rfl⟩
  | updateFriendComment comment => exact ⟨rfl, rfl⟩
  | removeIgnore => exact ⟨rfl, rfl⟩

theorem Rewritten.contacted (h : Rewritten s (s.db.contact i j operation) t) (hs : Attentive s) :
    Contacted s (s.db.contact i j operation) t := by
  obtain ⟨havatar, hnext⟩ := avatars_contact s.db i j operation
  have hdb := h.db
  refine ⟨⟨h.settled, ⟨?_, ?_, ?_⟩, fun b hb => ?_, fun k => h.fails ▸ hs.works k, ?_⟩, ?_, by rw [hdb]⟩
  · rw [hdb, havatar]
    exact hs.keys.ids
  · rw [hdb, havatar]
    exact hs.keys.names
  · rw [hdb, havatar, hnext]
    exact hs.keys.next
  · have hmem : b.self ∈ s.avatarCache.map (·.self) := h.selves ▸ List.mem_map_of_mem hb
    obtain ⟨a, ha, hself⟩ := List.mem_map.mp hmem
    rw [← hself, OfRow, hdb, havatar]
    exact hs.rows a ha
  · rw [hdb]
    exact apart_contact hs.apart i j operation
  · rw [hdb, havatar]

/-- The operation a handler ends with. -/
theorem contacted_run (operation : ContactOperation) (hs : Attentive s) (hp : Live s.avatarCache p)
    (hq : Live s.avatarCache q) (hstorable : operation.Storable) : ∃ t, operation.run p (some q) s = (.ok (), t) ∧
      Contacted s (s.db.contact p.avatarId.toNat q.avatarId.toNat operation) t := by
  obtain ⟨t, hrun, ht⟩ := contact_run hs.settled hp hq (fun k _ _ => hs.works k) hstorable
  exact ⟨t, hrun, ht.contacted hs⟩

variable {srcAvatarId : UInt32} {name address : U16String}

/-- A handler that looks up an avatar and the one its request names. -/
theorem contacted_named {rest : AvatarPtr → Option AvatarPtr → Serve Unit} (hs : Attentive s) (hrow : row ∈ s.db.avatar)
    (hseeks : (AvatarRequest.byId srcAvatarId).Seeks row) (hrow' : row' ∈ s.db.avatar)
    (hseeks' : (AvatarRequest.byName name address).Seeks row')
    (hrest : ∀ p q t, Attentive t → Live t.avatarCache p → Live t.avatarCache q →
      (rest p (some q)).Ends t (fun _ u => Contacted t (t.db.contact p.avatarId.toNat q.avatarId.toNat operation) u)
        (Recovers (Contacted t (t.db.contact p.avatarId.toNat q.avatarId.toNat operation)))) :
    (do
      let srcAvatar ← requireSrcAvatar srcAvatarId
      let destAvatar ← getAvatar name address
      rest srcAvatar destAvatar).Ends s (fun _ t => Contacted s (s.db.contact row.id row'.id operation) t)
        (Recovers (Contacted s (s.db.contact row.id row'.id operation))) := by
  rw [requireSrcAvatar_eq, ends_bind]
  apply (attentive_required hs hrow hseeks).mono
  case herr => exact fun e t he => recovers_of_none he t
  intro p t hp
  rw [ends_bind]
  have ht := hp.attended.attentive hs
  apply (attentive_run ht (hp.grown.db ▸ hrow') hseeks').mono
  case herr => exact fun e t he => recovers_of_none he t
  rintro _ u ⟨q, rfl, hq⟩
  have hback : ∀ v, Contacted u (u.db.contact p.avatarId.toNat q.avatarId.toNat operation) v →
      Contacted s (s.db.contact row.id row'.id operation) v := by
    rw [hq.grown.db, hp.grown.db, hp.avatarId, hq.avatarId]
    exact fun v hv => ⟨hv.attentive, by rw [hv.avatar, hq.grown.db, hp.grown.db], hv.friend⟩
  apply (hrest p q u (hq.attended.attentive ht) (hq.attended.live p hp.live) hq.live).mono
  · exact fun _ v hv => hback v hv
  · exact fun e v hv hcode => hback v (hv hcode)

theorem contacted_dest {rest : AvatarPtr → AvatarPtr → Serve Unit} (hs : Attentive s) (hrow : row ∈ s.db.avatar)
    (hseeks : (AvatarRequest.byId srcAvatarId).Seeks row) (hrow' : row' ∈ s.db.avatar)
    (hseeks' : (AvatarRequest.byName name address).Seeks row')
    (hrest : ∀ p q t, Attentive t → Live t.avatarCache p → Live t.avatarCache q →
      (rest p q).Ends t (fun _ u => Contacted t (t.db.contact p.avatarId.toNat q.avatarId.toNat operation) u)
        (Recovers (Contacted t (t.db.contact p.avatarId.toNat q.avatarId.toNat operation)))) :
    (do
      let srcAvatar ← requireSrcAvatar srcAvatarId
      let destAvatar ← requireDestAvatar name address
      rest srcAvatar destAvatar).Ends s (fun _ t => Contacted s (s.db.contact row.id row'.id operation) t)
        (Recovers (Contacted s (s.db.contact row.id row'.id operation))) := by
  simp only [requireDestAvatar, bind_assoc]
  exact contacted_named hs hrow hseeks hrow' hseeks' hrest

theorem contacted_operation (operation : ContactOperation) (hs : Attentive s) (hp : Live s.avatarCache p)
    (hq : Live s.avatarCache q) (hstorable : operation.Storable) : (operation.run p (some q)).Ends s
      (fun _ t => Contacted s (s.db.contact p.avatarId.toNat q.avatarId.toNat operation) t)
      (Recovers (Contacted s (s.db.contact p.avatarId.toNat q.avatarId.toNat operation))) := by
  obtain ⟨t, hrun, ht⟩ := contacted_run operation hs hp hq hstorable
  exact Ends.of_run hrun ht

/-- ADDFRIEND tells the avatar at last whether its new friend is online. -/
theorem contacted_addFriend {r : ReqAddFriend} (hs : Attentive s) (hrow : row ∈ s.db.avatar)
    (hseeks : (AvatarRequest.byId r.srcAvatarId).Seeks row) (hrow' : row' ∈ s.db.avatar)
    (hseeks' : (AvatarRequest.byName r.destName r.destAddress).Seeks row') :
    (Handler.addFriend r).Ends s (fun _ t => Contacted s (s.db.contact row.id row'.id (.addFriend [])) t)
      (Recovers (Contacted s (s.db.contact row.id row'.id (.addFriend [])))) := by
  apply contacted_dest hs hrow hseeks hrow' hseeks'
  intro p q t ht hp hq
  obtain ⟨u, hrun, hu⟩ := contacted_run (.addFriend []) ht hp hq rfl
  rw [ends_bind]
  apply Ends.of_run hrun
  have htold : Attends (do
      runIf (← readAvatar q).isOnline (sendFriendLoginUpdate p q)) u fun _ _ => True := by
    apply attends_undisturbed
    refine (undisturbed_still (still_readAvatar q)).bind fun b _ _ _ _ => holds_runIf trivial fun _ => ?_
    exact undisturbed_aside (aside_posting (posting_sendFriendLoginUpdate p q))
  apply htold.mono
  · exact fun _ v hv => hu.attended hv.1
  · exact fun e v hv hcode => hu.attended (hv hcode)

end Contacts
end StationChat
