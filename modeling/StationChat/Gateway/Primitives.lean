import StationChat.Gateway.Contract
import StationChat.Model.PersistentMessageService

/-! The contract of the building blocks: lookups, statements, pointers, objects and sending. -/
namespace StationChat
open Lib Lib.Action Lib.Contract

variable {P : Exn → Prop} {keep : Prop} {s : Server}

section Lookups

theorem fit_loads : Loads (P .outOfRange) (Fit P) where
  allocated h := h.allocated
  referential h := h.1.referential
  small h hr := (h.inRange hr).tables.avatar
  bookkeeping _ _ _ h hle :=
    ⟨{ h.1 with allocated := ⟨fun a ha => Nat.lt_of_lt_of_le (h.allocated.below a ha) hle,
        h.allocated.distinct⟩ }, h.2⟩
  cache h _ hsmall _ hobj hlt := by
    refine h.cached rfl rfl hobj hlt fun _ => ?_
    simp only [storedAvatar, UInt32.toNat_ofNat']
    have := hsmall.1
    have := hsmall.2.1
    omega
  friend row h _ hq := by
    refine h.updateAvatar (fun _ => rfl) (fun _ => rfl) (fun a _ c hc => ?_) fun _ _ _ hc => .inl hc
    rcases List.mem_append.mp hc with hc | hc
    · exact .inl hc
    · rw [List.mem_singleton.mp hc]
      exact .inr ⟨_, rfl, hq⟩
  ignored row h _ hq := by
    refine h.updateAvatar (fun _ => rfl) (fun _ => rfl) (fun _ _ _ hc => .inl hc) fun a _ c hc => ?_
    rcases List.mem_append.mp hc with hc | hc
    · exact .inl hc
    · rw [List.mem_singleton.mp hc]
      exact .inr ⟨_, rfl, hq⟩

/-- What keeps the contract of lookups keeps that of the gateway. -/
theorem holds_of_lookup {α : Type} {x : Serve α} {Q : α → Server → Prop}
    (h : (lookups (P .outOfRange) (Fit P)).Holds x s Q) :
    (gateway P keep).Holds x s fun a t => Grown s t ∧ Q a t := by
  refine (h.mono fun _ _ _ hst hQ => ⟨hst, hQ⟩).weaken (fun _ ht _ => ht)
    (fun _ _ ht => Kept.of_grown ht) fun e he => ?_
  rcases he with rfl | ⟨rfl, hr⟩
  · exact trivial
  · exact hr

theorem holds_getAvatarById (avatarId : UInt32) (hs : Fit P s) :
    (gateway P keep).Holds (getAvatarById avatarId) s fun avatar t =>
      Grown s t ∧ Found s avatarId avatar t :=
  holds_of_lookup (fit_loads.getAvatarById avatarId hs)

theorem holds_getAvatar (name address : U16String) (hs : Fit P s) :
    (gateway P keep).Holds (getAvatar name address) s fun avatar t =>
      Grown s t ∧ FoundNamed s name address avatar t := by
  refine holds_of_lookup (fit_loads.getAvatar name address hs ?_)
  intro t row obj ht _ hsame _ _ _ hsmall _ hobj hlt
  refine ht.cached rfl rfl (fun a ha => hobj a (hsame ▸ ha)) hlt fun _ => ?_
  simp only [storedAvatar, UInt32.toNat_ofNat']
  have := hsmall.1
  have := hsmall.2.1
  omega

theorem holds_gatewayColumnInt {n : Nat} (hs : Fit P s) (hn : ¬ P .outOfRange → n < 2 ^ 31) :
    (gateway P keep).Holds (columnInt n) s fun a t => a.toNat = n ∧ n < 2 ^ 31 ∧ t = s :=
  (holds_of_lookup (holds_columnInt hs hn)).mono fun _ _ _ _ h => h.2

end Lookups

section Statements

/-- A statement keeps the contract if the tables it leads to are as good as the old ones. -/
theorem holds_execute {α : Type} {statement : Statement α} (hs : Fit P s)
    (hdb : ∀ a db, s.db.run statement = some (a, db) →
      db.Referential ∧ (¬ P .outOfRange → db.Small)) :
    (gateway P keep).Holds (execute statement) s fun a t =>
      ∃ db, s.db.run statement = some (a, db) ∧ t = { s.attempt statement with db := db } := by
  have hkept : ∀ db failures, Kept keep s { s.attempt statement with db := db, failures := failures } :=
    fun _ _ => Kept.of_eq (fun _ h => h) rfl rfl rfl fun _ => Nat.le_refl _
  unfold Holds Ends execute
  by_cases hf : s.fails s.executed = true
  · simp only [hf, if_true]
    exact ⟨hs, hkept _ _, trivial⟩
  · simp only [hf]
    cases hrun : s.db.run statement with
    | none => exact ⟨hs, hkept _ _, trivial⟩
    | some result =>
      obtain ⟨a, db⟩ := result
      obtain ⟨hfk, hsmall⟩ := hdb a db hrun
      exact ⟨⟨{ hs.1 with referential := hfk }, fun hr => ⟨hsmall hr, (hs.inRange hr).cached⟩, hs.2.2⟩,
        hkept _ s.failures, db, rfl, rfl⟩

/-- A statement that changes no row. -/
theorem holds_select {α : Type} {statement : Statement α} {a : α} (hs : Fit P s)
    (hrun : s.db.run statement = some (a, s.db)) :
    (gateway P keep).Holds (execute statement) s fun b t =>
      b = a ∧ t = { s.attempt statement with db := s.db } := by
  refine (holds_execute hs fun b db h => ?_).mono ?_
  · obtain ⟨rfl, rfl⟩ := Prod.ext_iff.mp (Option.some.inj (hrun.symm.trans h))
    exact ⟨hs.1.referential, fun hr => (hs.inRange hr).tables⟩
  · rintro b t _ _ ⟨db, h, rfl⟩
    obtain ⟨rfl, rfl⟩ := Prod.ext_iff.mp (Option.some.inj (hrun.symm.trans h))
    exact ⟨rfl, rfl⟩

end Statements

section Pointers
variable {p : AvatarPtr} {room : RoomPtr}

theorem holds_deref {α : Type} {a : α} (hs : Fit P s) :
    (gateway P keep).Holds (deref (some a)) s fun b t => b = a ∧ t = s :=
  holds_pure hs ⟨rfl, rfl⟩

theorem holds_readAvatar (hs : Fit P s) (hp : Live s.avatarCache p) :
    (gateway P keep).Holds (readAvatar p) s fun a t => t = s ∧ a ∈ s.avatarCache ∧ a.self = p := by
  obtain ⟨a, hmem, hself, hread⟩ := readAvatar_of_live hs.allocated hp
  exact Ends.of_run hread ⟨hs, Kept.refl s, rfl, hmem, hself⟩

theorem holds_writeAvatar {f : ChatAvatar → ChatAvatar} (hs : Fit P s) (hp : Live s.avatarCache p)
    (hf : Fit P (s.updateAvatar p f)) (hself : ∀ a, (f a).self = a.self) :
    (gateway P keep).Holds (writeAvatar p f) s fun _ t => t = s.updateAvatar p f := by
  refine Ends.of_run (writeAvatar_of_live hs.allocated hp f) ⟨hf, ?_, rfl⟩
  exact Kept.of_eq (live_updateAvatar hself) rfl rfl rfl fun _ => Nat.le_refl _

theorem readRoom_run (h : room < s.rooms.length) :
    ∃ r, s.rooms[room]? = some r ∧ readRoom room s = (.ok r, s) := by
  have hget := List.getElem?_eq_getElem h
  exact ⟨s.rooms[room], hget, readRoom_of_getElem? hget⟩

theorem holds_readRoom (hs : Fit P s) (h : room < s.rooms.length) :
    (gateway P keep).Holds (readRoom room) s fun r t => t = s ∧ s.rooms[room]? = some r := by
  obtain ⟨r, hget, hread⟩ := readRoom_run h
  exact Ends.of_run hread ⟨hs, Kept.refl s, rfl, hget⟩

theorem Fit.updateRoom (hs : Fit P s) {f : ChatRoom → ChatRoom}
    (hpointers : ∀ r, s.rooms[room]? = some r → ∀ p ∈ (f r).pointers, Live s.avatarCache p)
    (hbare : ¬ P .unsetService → ∀ r, s.rooms[room]? = some r → (f r).roomService = .unset →
      (f r).isPersistent = true → (f r).moderators = []) : Fit P (s.updateRoom room f) := by
  have hback : ∀ r ∈ s.rooms.modify room f, r ∈ s.rooms ∨ ∃ r', s.rooms[room]? = some r' ∧ r = f r' := by
    intro r hr
    obtain ⟨i, hi⟩ := List.mem_iff_getElem?.mp hr
    rw [List.getElem?_modify] at hi
    obtain ⟨r', hr', heq⟩ := Option.map_eq_some_iff.mp hi
    by_cases h : room = i
    · subst h
      exact .inr ⟨r', hr', by simpa using heq.symm⟩
    · rw [if_neg h] at heq
      exact .inl (heq ▸ List.mem_of_getElem? hr')
  refine ⟨{ hs.1 with rooms := fun r hr => ?_ }, hs.2.1, hs.2.2.1, fun hu r hr hunset hpersistent => ?_⟩
  · rcases hback r hr with hr | ⟨r', hr', rfl⟩
    · exact hs.1.rooms r hr
    · exact hpointers r' hr'
  · rcases hback r hr with hr | ⟨r', hr', rfl⟩
    · exact hs.bare hu r hr hunset hpersistent
    · exact hbare hu r' hr' hunset hpersistent

theorem holds_writeRoom {f : ChatRoom → ChatRoom} (hf : Fit P (s.updateRoom room f))
    (h : room < s.rooms.length) :
    (gateway P keep).Holds (writeRoom room f) s fun _ t => t = s.updateRoom room f := by
  obtain ⟨r, _, hread⟩ := readRoom_run h
  unfold Holds Ends writeRoom
  rw [bind_ok hread]
  refine ⟨hf, Kept.of_eq (fun _ h => h) rfl rfl rfl fun _ => ?_, rfl⟩
  exact Nat.le_of_eq (List.length_modify ..).symm

theorem holds_getRoom (roomAddress : U16String) (hs : Fit P s) :
    (gateway P keep).Holds (getRoom roomAddress) s fun room t => t = s ∧
      (∀ i, room = some i → ∃ r, s.rooms[i]? = some r ∧ r.roomAddress = roomAddress ∧
        s.rooms.findIdx? (roomAddress == ·.roomAddress) = some i) := by
  refine holds_get_bind (holds_pure hs ⟨rfl, fun i hi => ?_⟩)
  obtain ⟨hlt, hp, _⟩ := List.findIdx?_eq_some_iff_getElem.mp hi
  exact ⟨s.rooms[i], List.getElem?_eq_getElem hlt, by simpa using (eq_of_beq hp).symm, hi⟩

end Pointers

section Sending

theorem holds_setResponse {f : Response → Response} (hs : Fit P s)
    (htype : (f s.response).type = s.response.type) (htrack : (f s.response).track = s.response.track) :
    (gateway P keep).Holds (setResponse f) s fun _ t => t = { s with response := f s.response } :=
  have hkept : Kept keep s { s with response := f s.response } :=
    ⟨fun _ h => h, rfl, htype, htrack, ⟨[], by simp⟩, fun _ => Nat.le_refl _⟩
  ⟨hs, hkept, rfl⟩

theorem holds_notify (client : ClientId) (message : Notification) (hs : Fit P s) :
    (gateway P keep).Holds (send client (.notify message)) s fun _ _ => True :=
  have hkept : Kept keep s { s with sent := s.sent ++ [(client, .notify message)] } :=
    ⟨fun _ h => h, rfl, rfl, rfl, ⟨[(client, message)], rfl⟩, fun _ => Nat.le_refl _⟩
  ⟨hs, hkept, trivial⟩

/-- Sending to an address: the receiver is a client of the node unless dangling is tolerated. -/
theorem holds_sendTo {address : U16String} {message : Serve Notification} (hs : Fit P s)
    (hmessage : (gateway P keep).Holds message s fun _ _ => True) :
    (gateway P keep).Holds (sendTo address message) s fun _ _ => True := by
  refine holds_get_bind ?_
  cases hmap : s.clientAddressMap address with
  | none => exact holds_pure hs trivial
  | some client =>
    refine holds_ite (fun _ => hmessage.bind fun m t ht _ _ => holds_notify client m ht) fun hgone => ?_
    refine holds_throw hs ?_
    by_contra hd
    exact hgone (hs.routed hd address client hmap)

end Sending
end StationChat
