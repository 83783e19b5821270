import StationChat.Avatars.Accurate
import StationChat.Gateway.Everyday
import StationChat.Gateway.Safety

/-! SETAVATARATTRIBUTES skips a value that is in memory already. When a persistent change that is
answered with SUCCESS is in the table. -/
namespace StationChat
open Lib Lib.Action Lib.Contract Relation

variable {s t u v : Server}

section Keys
variable {db db' : Database}

theorem Database.AvatarKeys.of_eq (h : db.AvatarKeys) (havatar : db'.avatar = db.avatar)
    (hnext : db'.nextAvatarId = db.nextAvatarId) : db'.AvatarKeys := by
  refine ⟨?_, ?_, ?_⟩
  · rw [havatar]
    exact h.ids
  · rw [havatar]
    exact h.names
  · rw [havatar, hnext]
    exact h.next

theorem Database.AvatarKeys.updateAvatar (h : db.AvatarKeys) {userId attributes avatarId : Nat}
    {name address : StdString} (hrun : db.updateAvatar userId name address attributes avatarId = some db') :
    db'.AvatarKeys := by
  unfold Database.updateAvatar at hrun
  split at hrun
  · exact absurd hrun (by simp)
  rename_i hnew
  obtain rfl := Option.some.inj hrun
  have hid : ∀ row : AvatarRow,
      (if row.id = avatarId then ⟨row.id, userId, name, address, attributes⟩ else row : AvatarRow).id =
        row.id := fun row => by split <;> rfl
  refine ⟨fun row hrow row' hrow' heq => ?_, fun row hrow row' hrow' hname haddress => ?_, fun row hrow => ?_⟩
  · obtain ⟨a, ha, rfl⟩ := List.mem_map.mp hrow
    obtain ⟨b, hb, rfl⟩ := List.mem_map.mp hrow'
    rw [hid, hid] at heq
    rw [h.ids a ha b hb heq]
  · obtain ⟨a, ha, rfl⟩ := List.mem_map.mp hrow
    obtain ⟨b, hb, rfl⟩ := List.mem_map.mp hrow'
    by_cases hai : a.id = avatarId <;> by_cases hbi : b.id = avatarId
    · rw [h.ids a ha b hb (hai.trans hbi.symm)]
    · rw [if_pos hai, if_neg hbi] at hname haddress
      exact absurd ⟨b, hb, hbi, hname.symm, haddress.symm⟩ hnew
    · rw [if_neg hai, if_pos hbi] at hname haddress
      exact absurd ⟨a, ha, hai, hname, haddress⟩ hnew
    · rw [if_neg hai, if_neg hbi] at hname haddress
      rw [h.names a ha b hb hname haddress]
  · obtain ⟨a, ha, rfl⟩ := List.mem_map.mp hrow
    rw [hid]
    exact h.next a ha

theorem Database.AvatarKeys.deleteAvatar (h : db.AvatarKeys) {avatarId : Nat}
    (hrun : db.deleteAvatar avatarId = some db') : db'.AvatarKeys := by
  unfold Database.deleteAvatar at hrun
  split at hrun
  · exact absurd hrun (by simp)
  obtain rfl := Option.some.inj hrun
  have hold : ∀ row ∈ db.avatar.filter (·.id ≠ avatarId), row ∈ db.avatar := fun row hrow =>
    (List.mem_filter.mp hrow).1
  exact ⟨fun row hrow row' hrow' => h.ids row (hold row hrow) row' (hold row' hrow'),
    fun row hrow row' hrow' => h.names row (hold row hrow) row' (hold row' hrow'),
    fun row hrow => h.next row (hold row hrow)⟩

/-- No statement breaks the keys of the avatar table. -/
theorem Database.AvatarKeys.run (h : db.AvatarKeys) {α : Type} {statement : Statement α} {a : α}
    (hrun : db.run statement = some (a, db')) : db'.AvatarKeys := by
  have helsewhere : statement.Elsewhere → db'.AvatarKeys := fun he =>
    h.of_eq (he db a db' hrun).1 (he db a db' hrun).2.1
  cases statement with
  | insertAvatar => exact h.insertAvatar hrun
  | updateAvatar =>
    obtain ⟨_, hupdate, heq⟩ := Option.map_eq_some_iff.mp hrun
    exact (Prod.mk.inj heq).2 ▸ h.updateAvatar hupdate
  | deleteAvatar =>
    obtain ⟨_, hdelete, heq⟩ := Option.map_eq_some_iff.mp hrun
    exact (Prod.mk.inj heq).2 ▸ h.deleteAvatar hdelete
  | insertFriend =>
    obtain ⟨_, hinsert, heq⟩ := Option.map_eq_some_iff.mp hrun
    rw [← (Prod.mk.inj heq).2, (insertFriend_eq_some hinsert).2.2]
    exact h.of_eq rfl rfl
  | insertIgnore =>
    obtain ⟨_, hinsert, heq⟩ := Option.map_eq_some_iff.mp hrun
    rw [← (Prod.mk.inj heq).2, (insertIgnore_eq_some hinsert).2.2]
    exact h.of_eq rfl rfl
  | updateFriend | deleteFriend | deleteIgnore =>
    obtain ⟨_, rfl⟩ := Prod.mk.inj (Option.some.inj hrun)
    exact h.of_eq rfl rfl
  | insertRoom columns => exact helsewhere (elsewhere_insertRoom columns)
  | deleteRoom id => exact helsewhere (elsewhere_deleteRoom id)
  | insertRole table avatarId roomId => exact helsewhere (elsewhere_insertRole table avatarId roomId)
  | deleteRole table avatarId roomId => exact helsewhere (elsewhere_deleteRole table avatarId roomId)
  | insertMessage columns => exact helsewhere (elsewhere_insertMessage columns)
  | updateStatus status messageId avatarId =>
    exact helsewhere (elsewhere_updateStatus status messageId avatarId)
  | bulkUpdateStatus status avatarId category =>
    exact helsewhere (elsewhere_bulkUpdateStatus status avatarId category)
  | selectAvatarByName | selectAvatarById | selectFriends | selectIgnored | selectRooms | selectRole
  | selectHeaders | selectMessage => exact helsewhere (elsewhere_select fun _ => ⟨_, rfl⟩)

end Keys

section Lookup

/-- The objects that lookups from `s` add have the attributes of their rows. -/
structure Reads (s t : Server) : Prop where
  allocated : Allocated t.avatarCache t.objects
  referential : t.db.Referential
  db : t.db = s.db
  fresh : ∀ b ∈ t.avatarCache, (∃ a ∈ s.avatarCache, a.self = b.self) ∨
    ∃ row ∈ s.db.avatar, row.id = b.self.avatarId.toNat ∧ row.attributes = b.attributes.toNat

theorem Reads.updateAvatar (h : Reads s t) {p : AvatarPtr} {f : ChatAvatar → ChatAvatar}
    (hself : ∀ a, (f a).self = a.self) (hattributes : ∀ a, (f a).attributes = a.attributes) :
    Reads s (t.updateAvatar p f) := by
  refine ⟨h.allocated.updateAvatar hself, h.referential, h.db, fun b hb => ?_⟩
  obtain ⟨a, ha, rfl⟩ := List.mem_map.mp hb
  have hfresh := h.fresh a ha
  split
  · rw [hself, hattributes]
    exact hfresh
  · exact hfresh

end Lookup

section Request

/-- The row of the avatar has the attributes of the request. -/
def ReqSetAvatarAttributes.Stored (r : ReqSetAvatarAttributes) (db : Database) : Prop :=
  ∀ row ∈ db.avatar, row.id = r.avatarId.toNat → row.attributes = r.avatarAttributes.toNat

end Request

section Runs
variable {db : Database} {fails : Nat → Bool} {version : UInt32} {config : Policy.Config}

end Runs
end StationChat
