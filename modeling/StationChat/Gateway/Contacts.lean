import StationChat.Gateway.Primitives
import StationChat.Gateway.Tables

/-! The contract of the contact lists and of logging in and out. -/
namespace StationChat
open Lib Lib.Action Lib.Contract

variable {P : Exn → Prop} {keep : Prop} {s : Server}

theorem Fit.good (h : Fit P s) : s.db.Good (P .outOfRange) :=
  ⟨h.1.referential, fun hr => (h.inRange hr).tables⟩

/-- A pointer that is good, or null where that is tolerated. -/
def Pointer (P : Exn → Prop) (cache : List ChatAvatar) : Option AvatarPtr → Prop
  | some p => Live cache p
  | none => P .nullPointer

theorem Pointer.mono {cache cache' : List ChatAvatar} {avatar : Option AvatarPtr}
    (h : Pointer P cache avatar) (hlive : ∀ p, Live cache p → Live cache' p) :
    Pointer P cache' avatar := by
  cases avatar with
  | none => exact h
  | some p => exact hlive p h

theorem Live.pointer {cache : List ChatAvatar} {p : AvatarPtr} (h : Live cache p) :
    Pointer P cache (some p) := h

theorem Good.pointer {cache : List ChatAvatar} {avatar : Option AvatarPtr} (h : Good cache avatar) :
    Pointer P cache avatar := by
  obtain ⟨p, rfl, hp⟩ := h
  exact hp

theorem holds_derefPointer {avatar : Option AvatarPtr} (hs : Fit P s)
    (ha : Pointer P s.avatarCache avatar) :
    (gateway P keep).Holds (deref avatar) s fun p t => t = s ∧ avatar = some p ∧ Live s.avatarCache p := by
  cases avatar with
  | none => exact holds_throw hs ha
  | some p => exact holds_pure hs ⟨rfl, rfl, ha⟩

theorem holds_sameAvatar {contact avatar : Option AvatarPtr} (hs : Fit P s)
    (hc : Good s.avatarCache contact) (ha : Pointer P s.avatarCache avatar) :
    (gateway P keep).Holds (sameAvatar contact avatar) s fun _ t => t = s := by
  refine (holds_derefPointer hs hc.pointer).bind fun _ t ht _ ⟨heq, _, _⟩ => ?_
  subst heq
  exact (holds_derefPointer ht ha).bind fun _ _ hu _ ⟨heq, _, _⟩ => holds_pure hu heq

theorem holds_removeIf {α : Type} {p : α → Serve Bool} (xs : List α) (hs : Fit P s)
    (hp : ∀ x ∈ xs, ∀ t, Fit P t → Kept keep s t → (gateway P keep).Holds (p x) t fun _ _ => True) :
    (gateway P keep).Holds (removeIf p xs) s fun kept _ => ∀ x ∈ kept, x ∈ xs := by
  induction xs generalizing s with
  | nil => exact holds_pure hs fun _ h => h
  | cons x xs ih =>
    refine (hp x List.mem_cons_self s hs (Kept.refl s)).bind fun drop t ht hst _ => ?_
    refine (ih ht fun y hy u hu htu => hp y (List.mem_cons_of_mem x hy) u hu (hst.trans htu)).bind ?_
    intro rest u hu _ hrest
    refine holds_pure hu fun y hy => ?_
    cases drop with
    | true => exact List.mem_cons_of_mem x (hrest y hy)
    | false =>
      rcases List.mem_cons.mp hy with rfl | hy
      · exact List.mem_cons_self
      · exact List.mem_cons_of_mem x (hrest y hy)

section Contacts
variable {self p : AvatarPtr} {avatar : Option AvatarPtr}

theorem holds_isFriend (hs : Fit P s) (hself : Live s.avatarCache self)
    (ha : Pointer P s.avatarCache avatar) :
    (gateway P keep).Holds (isFriend self avatar) s fun _ t => t = s := by
  refine (holds_readAvatar hs hself).bind fun a t ht _ ⟨heq, hmem, _⟩ => ?_
  subst heq
  exact holds_anyM a.friendList ht fun c hc => holds_sameAvatar ht (hs.1.friends a hmem c hc) ha

theorem holds_isIgnored (hs : Fit P s) (hself : Live s.avatarCache self)
    (ha : Pointer P s.avatarCache avatar) :
    (gateway P keep).Holds (isIgnored self avatar) s fun _ t => t = s := by
  refine (holds_readAvatar hs hself).bind fun a t ht _ ⟨heq, hmem, _⟩ => ?_
  subst heq
  exact holds_anyM a.ignoreList ht fun c hc => holds_sameAvatar ht (hs.1.ignored a hmem c hc) ha

/-- Replacing the friend list by one of good pointers. -/
theorem Fit.setFriends (hs : Fit P s) {f : ChatAvatar → List FriendContact}
    (hf : ∀ a ∈ s.avatarCache, ∀ c ∈ f a, c ∈ a.friendList ∨ Good s.avatarCache c.frnd) :
    Fit P (s.updateAvatar self fun a => { a with friendList := f a }) :=
  hs.updateAvatar (fun _ => rfl) (fun _ => rfl) hf fun _ _ _ hc => .inl hc

theorem Fit.setIgnored (hs : Fit P s) {f : ChatAvatar → List IgnoreContact}
    (hf : ∀ a ∈ s.avatarCache, ∀ c ∈ f a, c ∈ a.ignoreList ∨ Good s.avatarCache c.ignored) :
    Fit P (s.updateAvatar self fun a => { a with ignoreList := f a }) :=
  hs.updateAvatar (fun _ => rfl) (fun _ => rfl) (fun _ _ _ hc => .inl hc) hf

theorem holds_removeFriend (hs : Fit P s) (hself : Live s.avatarCache self)
    (ha : Pointer P s.avatarCache avatar) :
    (gateway P keep).Holds (removeFriend self avatar) s fun _ _ => True := by
  refine (holds_readAvatar hs hself).bind fun a t ht _ ⟨heq, hmem, _⟩ => ?_
  subst heq
  have hgood := hs.1.friends a hmem
  refine (holds_removeIf a.friendList ht fun c hc u hu htu =>
    (holds_sameAvatar hu ((hgood c hc).mono htu.live) (ha.mono htu.live)).mono
      fun _ _ _ _ _ => trivial).bind ?_
  intro kept u hu htu hkept
  refine holds_ite (fun _ => ?_) fun _ => holds_pure hu trivial
  have hfit : Fit P (u.updateAvatar self fun a => { a with friendList := kept }) :=
    hu.setFriends fun _ _ c hc => .inr ((hgood c (hkept c hc)).mono htu.live)
  refine (holds_writeAvatar hu (htu.live self hself) hfit fun _ => rfl).bind fun _ v hv huv _ => ?_
  refine (holds_derefPointer hv ((ha.mono htu.live).mono huv.live)).bind fun q w hw _ _ => ?_
  refine (holds_execute hw fun _ db h => ?_).mono fun _ _ _ _ _ => trivial
  obtain ⟨_, rfl⟩ := Prod.ext_iff.mp (Option.some.inj h)
  exact hw.good.of_sub rfl rfl rfl (fun _ hr => (List.mem_filter.mp hr).1) fun _ hr => hr

/-- A null second avatar does no harm if there is nothing to compare it with. -/
theorem holds_removeIgnore (hs : Fit P s) (hself : Live s.avatarCache self)
    (ha : Pointer P s.avatarCache avatar ∨
      ∀ a ∈ s.avatarCache, a.self = self → a.ignoreList = []) :
    (gateway P keep).Holds (removeIgnore self avatar) s fun _ _ => True := by
  refine (holds_readAvatar hs hself).bind fun a t ht _ ⟨heq, hmem, hptr⟩ => ?_
  subst heq
  have hgood := hs.1.ignored a hmem
  rcases ha with ha | hnone
  · refine (holds_removeIf a.ignoreList ht fun c hc u hu htu =>
      (holds_sameAvatar hu ((hgood c hc).mono htu.live) (ha.mono htu.live)).mono
      fun _ _ _ _ _ => trivial).bind ?_
    intro kept u hu htu hkept
    refine holds_ite (fun _ => ?_) fun _ => holds_pure hu trivial
    have hfit : Fit P (u.updateAvatar self fun a => { a with ignoreList := kept }) :=
      hu.setIgnored fun _ _ c hc => .inr ((hgood c (hkept c hc)).mono htu.live)
    refine (holds_writeAvatar hu (htu.live self hself) hfit fun _ => rfl).bind fun _ v hv huv _ => ?_
    refine (holds_derefPointer hv ((ha.mono htu.live).mono huv.live)).bind fun q w hw _ _ => ?_
    refine (holds_execute hw fun _ db h => ?_).mono fun _ _ _ _ _ => trivial
    obtain ⟨_, rfl⟩ := Prod.ext_iff.mp (Option.some.inj h)
    exact hw.good.of_sub rfl rfl rfl (fun _ hr => hr) fun _ hr => (List.mem_filter.mp hr).1
  · rw [hnone a hmem hptr]
    exact holds_pure ht trivial

theorem holds_addFriend {comment : U16String} (hs : Fit P s) (hself : Live s.avatarCache self)
    (hp : Live s.avatarCache p) :
    (gateway P keep).Holds (addFriend self (some p) comment) s fun _ _ => True := by
  refine (holds_isFriend hs hself hp.pointer).bind fun b t ht hst _ => ?_
  refine holds_ite (fun _ => holds_pure ht trivial) fun _ => ?_
  refine (holds_isIgnored ht (hst.live self hself) (hst.live p hp).pointer).bind fun b u hu htu _ => ?_
  have hsu := hst.trans htu
  refine (holds_runIf hu fun _ =>
    holds_removeIgnore hu (hsu.live self hself) (.inl (hsu.live p hp).pointer)).bind ?_
  intro _ v hv huv _
  have hsv := hsu.trans huv
  have hfit : Fit P (v.updateAvatar self fun a =>
      { a with friendList := a.friendList ++ [⟨some p, comment⟩] }) := by
    refine hv.setFriends fun a _ c hc => ?_
    rcases List.mem_append.mp hc with hc | hc
    · exact .inl hc
    · rw [List.mem_singleton.mp hc]
      exact .inr ⟨p, rfl, hsv.live p hp⟩
  refine (holds_writeAvatar hv (hsv.live self hself) hfit fun _ => rfl).bind fun _ w hw _ _ => ?_
  refine (holds_execute hw fun _ db h => ?_).mono fun _ _ _ _ _ => trivial
  obtain ⟨db', hrun, heq⟩ := Option.map_eq_some_iff.mp h
  obtain ⟨_, rfl⟩ := Prod.ext_iff.mp heq
  exact hw.good.insertFriend hrun

theorem holds_addIgnore (hs : Fit P s) (hself : Live s.avatarCache self)
    (hp : Live s.avatarCache p) :
    (gateway P keep).Holds (addIgnore self (some p)) s fun _ _ => True := by
  refine (holds_isIgnored hs hself hp.pointer).bind fun b t ht hst _ => ?_
  refine holds_ite (fun _ => holds_pure ht trivial) fun _ => ?_
  refine (holds_isFriend ht (hst.live self hself) (hst.live p hp).pointer).bind fun b u hu htu _ => ?_
  have hsu := hst.trans htu
  refine (holds_runIf hu fun _ =>
    holds_removeFriend hu (hsu.live self hself) (hsu.live p hp).pointer).bind ?_
  intro _ v hv huv _
  have hsv := hsu.trans huv
  have hfit : Fit P (v.updateAvatar self fun a =>
      { a with ignoreList := a.ignoreList ++ [⟨some p⟩] }) := by
    refine hv.setIgnored fun a _ c hc => ?_
    rcases List.mem_append.mp hc with hc | hc
    · exact .inl hc
    · rw [List.mem_singleton.mp hc]
      exact .inr ⟨p, rfl, hsv.live p hp⟩
  refine (holds_writeAvatar hv (hsv.live self hself) hfit fun _ => rfl).bind fun _ w hw _ _ => ?_
  refine (holds_execute hw fun _ db h => ?_).mono fun _ _ _ _ _ => trivial
  obtain ⟨db', hrun, heq⟩ := Option.map_eq_some_iff.mp h
  obtain ⟨_, rfl⟩ := Prod.ext_iff.mp heq
  exact hw.good.insertIgnore hrun

end Contacts

section Presence
variable {p : AvatarPtr}

/-- Changing neither pointers nor stored integers of an avatar. -/
theorem Fit.setPlain (hs : Fit P s) {f : ChatAvatar → ChatAvatar} (hself : ∀ a, (f a).self = a.self)
    (huser : ∀ a, (f a).userId = a.userId) (hfriends : ∀ a, (f a).friendList = a.friendList)
    (hignored : ∀ a, (f a).ignoreList = a.ignoreList) : Fit P (s.updateAvatar p f) :=
  hs.updateAvatar hself huser (fun a _ _ hc => .inl (hfriends a ▸ hc))
    fun a _ _ hc => .inl (hignored a ▸ hc)

theorem holds_loginAvatar (hs : Fit P s) (hp : Live s.avatarCache p) :
    (gateway P keep).Holds (loginAvatar p) s fun _ _ => True := by
  have hfit := hs.setPlain (p := p) (f := fun a => { a with isOnline := true }) (fun _ => rfl)
    (fun _ => rfl) (fun _ => rfl) fun _ => rfl
  refine (holds_writeAvatar hs hp hfit fun _ => rfl).bind fun _ t ht hst _ => holds_get_bind ?_
  refine holds_ite (fun _ => holds_pure ht trivial) fun _ => ?_
  refine holds_modify ⟨{ ht.1 with online := fun q hq => ?_ }, ht.2⟩ ?_ trivial
  · rcases List.mem_append.mp hq with hq | hq
    · exact ht.1.online q hq
    · rw [List.mem_singleton.mp hq]
      exact hst.live p hp
  · exact Kept.of_eq (fun _ h => h) rfl rfl rfl fun _ => Nat.le_refl _

theorem holds_logoutAvatar {avatar : Option AvatarPtr} (hs : Fit P s)
    (ha : Pointer P s.avatarCache avatar) :
    (gateway P keep).Holds (logoutAvatar avatar) s fun _ _ => True := by
  refine (holds_derefPointer hs ha).bind fun q t ht _ ⟨heq, _, hp⟩ => ?_
  subst heq
  refine (holds_readAvatar ht hp).bind fun a t ht _ ⟨heq, _, _⟩ => ?_
  subst heq
  refine holds_ite (fun _ => ?_) fun _ => holds_pure ht trivial
  have hfit := ht.setPlain (p := q) (f := fun a => { a with isOnline := false }) (fun _ => rfl)
    (fun _ => rfl) (fun _ => rfl) fun _ => rfl
  refine (holds_writeAvatar ht hp hfit fun _ => rfl).bind fun _ u hu _ _ => ?_
  refine holds_modify ⟨{ hu.1 with online := fun r hr => ?_ }, hu.2⟩ ?_ trivial
  · exact hu.1.online r (List.mem_filter.mp hr).1
  · exact Kept.of_eq (fun _ h => h) rfl rfl rfl fun _ => Nat.le_refl _

/-- `CreateAvatar`: the id the table assigns must be readable, and so must the two other values. -/
theorem holds_createAvatar {name address loginLocation : U16String} {userId attributes : UInt32}
    (hs : Fit P s) (hsmall : ¬ P .outOfRange → s.db.nextAvatarId < 2 ^ 31 ∧ userId.toNat < 2 ^ 31 ∧
      attributes.toNat < 2 ^ 31) :
    (gateway P keep).Holds (createAvatar name address userId attributes loginLocation) s
      fun p t => Live t.avatarCache p := by
  refine (holds_of_lookup (fit_loads.newObject hs)).bind fun obj t ht _ ⟨_, hobj, heq⟩ => ?_
  subst hobj heq
  have hinsert : ∀ id db, s.db.insertAvatar userId.toNat (fromWideString name)
      (fromWideString address) attributes.toNat = some (id, db) →
      db.Good (P .outOfRange) ∧ id = s.db.nextAvatarId := fun _ _ h =>
    hs.good.insertAvatar hsmall h
  refine (holds_execute ht fun id db h => ?_).bind ?_
  · exact (hinsert id db h).1
  rintro id u hu _ ⟨db, hrun, rfl⟩
  have hid := (hinsert id db hrun).2
  let self : AvatarPtr := ⟨s.objects, UInt32.ofNat id, name, address⟩
  let avatar : ChatAvatar := { self, userId, attributes, loginLocation }
  have hrange : ¬ P .outOfRange → avatar.self.avatarId.toNat < 2 ^ 31 ∧
      avatar.userId.toNat < 2 ^ 31 := by
    intro hr
    have h := hsmall hr
    simp only [avatar, self, hid, UInt32.toNat_ofNat']
    omega
  have hfit : Fit P (Server.cached _ avatar) :=
    hu.cached rfl rfl hs.allocated.below (Nat.lt_succ_self _) hrange
  refine holds_modify_bind hfit ?_ (holds_pure hfit ⟨avatar, ?_, rfl⟩)
  · exact Kept.of_eq (fun q hq => hq.mono (List.prefix_append _ _)) rfl rfl rfl fun _ => Nat.le_refl _
  · exact List.mem_append_right _ (List.mem_singleton.mpr rfl)

theorem holds_persistAvatar (hs : Fit P s) (hp : Live s.avatarCache p)
    (hsmall : ¬ P .outOfRange → ∀ a ∈ s.avatarCache, a.self = p → a.attributes.toNat < 2 ^ 31) :
    (gateway P keep).Holds (persistAvatar p) s fun _ t => t.response = s.response := by
  refine (holds_readAvatar hs hp).bind fun a t ht _ ⟨heq, hmem, hself⟩ => ?_
  subst heq
  refine (holds_execute ht fun _ db h => ?_).mono fun _ _ _ _ ⟨_, _, hu⟩ => by rw [hu]; rfl
  obtain ⟨db', hrun, heq⟩ := Option.map_eq_some_iff.mp h
  obtain ⟨_, rfl⟩ := Prod.ext_iff.mp heq
  exact ht.good.updateAvatar (fun hr => ⟨((ht.inRange hr).cached a hmem).2, hsmall hr a hmem hself⟩) hrun

end Presence
end StationChat
