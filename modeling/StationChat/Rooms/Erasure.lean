import StationChat.Model.ChatRoomService
import Mathlib.Data.List.DropRight

/-! When the erase pass of `DestroyRoom` reads the room it has destroyed. -/
namespace StationChat

variable {roomId : UInt32} {target : Nat} {rooms : List ChatRoom}

private theorem erasePass_skips {r : ChatRoom} (h : r.roomId = roomId) (kept rest : List ChatRoom)
    (visited : Nat) :
    erasePass roomId target kept visited false (r :: rest) =
      erasePass roomId target kept (visited + 1) false rest := by
  rw [erasePass, if_neg (by simp), if_pos (by simpa using h)]

private theorem erasePass_keeps {r : ChatRoom} (h : r.roomId ≠ roomId) (kept rest : List ChatRoom)
    (visited : Nat) :
    erasePass roomId target kept visited false (r :: rest) =
      erasePass roomId target (kept ++ [r]) (visited + 1)
        (decide (kept.length < visited) && kept.length == target) rest := by
  rw [erasePass, if_neg (by simp), if_neg (by simpa using h)]

/-- The slot of the target is not written before the target is visited. -/
theorem erasePass_before (front rest kept : List ChatRoom) {visited : Nat}
    (hkept : kept.length ≤ visited) (hfront : visited + front.length ≤ target) :
    erasePass roomId target kept visited false (front ++ rest) =
      erasePass roomId target (kept ++ front.filter (·.roomId != roomId)) (visited + front.length)
        false rest := by
  induction front generalizing kept visited with
  | nil => simp
  | cons r front ih =>
    rw [List.length_cons] at hfront
    have hcount : visited + 1 + front.length = visited + (r :: front).length := by
      rw [List.length_cons]
      omega
    rw [List.cons_append]
    by_cases hr : r.roomId = roomId
    · rw [erasePass_skips hr, ih kept (by omega) (by omega), hcount,
        List.filter_cons_of_neg (by simpa using hr)]
    · have hslot : (decide (kept.length < visited) && kept.length == target) = false := by
        simp only [Bool.and_eq_false_iff, decide_eq_false_iff_not, beq_eq_false_iff_ne]
        omega
      have hlen : (kept ++ [r]).length ≤ visited + 1 := by
        rw [List.length_append, List.length_singleton]
        omega
      rw [erasePass_keeps hr, hslot, ih _ hlen (by omega), hcount,
        List.filter_cons_of_pos (by simpa using hr), List.append_assoc, List.singleton_append]

/-- Behind the target the pass ends exactly if its slot is not written before the last room. -/
theorem erasePass_behind (rest kept : List ChatRoom) {visited : Nat} (hvisited : target < visited)
    (hkept : kept.length ≤ target) :
    (erasePass roomId target kept visited false rest).isSome = true ↔
      kept.length + rest.dropLast.countP (·.roomId != roomId) ≤ target := by
  induction rest generalizing kept visited with
  | nil => simpa [erasePass] using hkept
  | cons r rest ih =>
    by_cases hr : r.roomId = roomId
    · rw [erasePass_skips hr, ih kept (by omega) hkept]
      cases rest with
      | nil => rfl
      | cons r' rest => rw [List.dropLast_cons_cons, List.countP_cons_of_neg (by simpa using hr)]
    · have hmoved : decide (kept.length < visited) = true := decide_eq_true (by omega)
      rw [erasePass_keeps hr, hmoved, Bool.true_and]
      by_cases hslot : kept.length = target
      · rw [beq_iff_eq.mpr hslot]
        cases rest with
        | nil => simpa [erasePass] using hkept
        | cons r' rest =>
          rw [List.dropLast_cons_cons, List.countP_cons_of_pos (by simpa using hr)]
          simp only [erasePass, if_true, Option.isSome_none, Bool.false_eq_true, false_iff]
          omega
      · have hlen : (kept ++ [r]).length = kept.length + 1 := List.length_append
        rw [beq_eq_false_iff_ne.mpr hslot, ih _ (by omega) (by omega), hlen]
        cases rest with
        | nil =>
          simp only [List.dropLast_nil, List.countP_nil, List.dropLast_singleton]
          omega
        | cons r' rest =>
          rw [List.dropLast_cons_cons, List.countP_cons_of_pos (by simpa using hr)]
          omega

private theorem length_others (roomId : UInt32) (rooms : List ChatRoom) :
    (rooms.filter (·.roomId != roomId)).length + rooms.countP (·.roomId == roomId) = rooms.length := by
  induction rooms with
  | nil => rfl
  | cons r rooms ih =>
    by_cases hr : r.roomId = roomId
    · rw [List.filter_cons_of_neg (by simpa using hr), List.countP_cons_of_pos (by simpa using hr),
        List.length_cons]
      omega
    · rw [List.filter_cons_of_pos (by simpa using hr), List.countP_cons_of_neg (by simpa using hr),
        List.length_cons, List.length_cons]
      omega

/-- The pass over all rooms, split at its target. -/
theorem erasePass_isSome_iff {r : ChatRoom} (hr : rooms[target]? = some r) :
    (erasePass r.roomId target [] 0 false rooms).isSome = true ↔
      (rooms.drop (target + 1)).dropLast.countP (·.roomId != r.roomId) ≤
        (rooms.take target).countP (·.roomId == r.roomId) := by
  obtain ⟨hlt, rfl⟩ := List.getElem?_eq_some_iff.mp hr
  have hfront : (rooms.take target).length = target := List.length_take_of_le (Nat.le_of_lt hlt)
  have hsplit : rooms = rooms.take target ++ rooms[target] :: rooms.drop (target + 1) := by
    rw [← List.drop_eq_getElem_cons hlt, List.take_append_drop]
  have hbefore := @erasePass_before rooms[target].roomId target (rooms.take target)
    (rooms[target] :: rooms.drop (target + 1)) [] 0 (Nat.le_refl 0) (by omega)
  have hlen := length_others rooms[target].roomId (rooms.take target)
  rw [← hsplit, hfront, List.nil_append, Nat.zero_add, erasePass_skips rfl] at hbefore
  rw [hbefore, erasePass_behind _ _ (Nat.lt_succ_self target) (by omega)]
  omega

/-- The pass never reads a destroyed room, and leaves the rooms of other ids in their order, exactly if
the rooms behind the target that stay, the last room aside, are no more than the rooms in front of it
that carry its id. -/
theorem erases_exactly_iff (rooms : List ChatRoom) (target : RoomPtr) (r : ChatRoom)
    (hr : rooms[target]? = some r) :
    erasePass r.roomId target [] 0 false rooms = some (rooms.filter (·.roomId != r.roomId)) ↔
      (rooms.drop (target + 1)).dropLast.countP (·.roomId != r.roomId) ≤
        (rooms.take target).countP (·.roomId == r.roomId) := by
  rw [← erasePass_isSome_iff hr]
  constructor
  · intro h
    rw [h]
    rfl
  · intro h
    obtain ⟨left, hleft⟩ := Option.isSome_iff_exists.mp h
    rw [hleft, erasePass_eq_some hleft, List.nil_append]

/-- A room that avatar 1 creates under the id `roomId`. -/
def roomWithId (roomId : UInt32) : ChatRoom :=
  .make roomId ⟨0, 1, [0x61], [0x62]⟩ [roomId.toUInt16] [] [] 0 10 [0x62]

/-- The first of two rooms goes. -/
theorem erases_exactly_two :
    erasePass 0 0 [] 0 false [roomWithId 0, roomWithId 1] = some [roomWithId 1] :=
  (erases_exactly_iff [roomWithId 0, roomWithId 1] 0 (roomWithId 0) rfl).mpr (by decide)

/-- With three rooms the id of the first is read after the second took its slot. -/
theorem first_of_three_is_read :
    ¬ ∀ (rooms : List ChatRoom) (target : RoomPtr) (r : ChatRoom), rooms[target]? = some r →
      erasePass r.roomId target [] 0 false rooms = some (rooms.filter (·.roomId != r.roomId)) := by
  intro h
  have hnone : erasePass 0 0 [] 0 false [roomWithId 0, roomWithId 1, roomWithId 2] = none := by decide
  exact absurd (hnone.symm.trans (h _ 0 (roomWithId 0) rfl)) (by simp)

end StationChat
