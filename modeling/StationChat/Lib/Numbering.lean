import Mathlib.Data.List.Induction
import Mathlib.Data.List.Nodup

/-! Numbering the distinct elements of a list in the order of their first occurrence, and where each of
them occurs. -/
namespace StationChat.Lib
variable {α β : Type}

/-- Read backwards, a table of places finds the element at a place. -/
theorem find?_zipIdx (l : List α) (k i : Nat) :
    ((l.zipIdx k).find? (·.2 == k + i)).map (·.1) = l[i]? := by
  induction l generalizing k i with
  | nil => rfl
  | cons b l ih =>
    rw [List.zipIdx_cons, List.find?_cons]
    cases i with
    | zero => rw [Nat.add_zero, beq_self_eq_true]; rfl
    | succ i =>
      have hne : (k == k + (i + 1)) = false := beq_false_of_ne (by omega)
      have hnext : k + (i + 1) = k + 1 + i := by omega
      rw [hne, hnext]
      exact ih (k + 1) i

variable [BEq α]

/-- Where the element occurs, counted from one. -/
def positions (a : α) (l : List α) : List Nat := ((l.zipIdx 1).filter (·.1 == a)).map (·.2)

section Positions

theorem positions_concat (a b : α) (l : List α) :
    positions a (l ++ [b]) = positions a l ++ if b == a then [l.length + 1] else [] := by
  rw [positions, List.zipIdx_append, List.filter_append, List.map_append, Nat.add_comm l.length 1]
  congr 1
  cases h : b == a <;> simp [h]

variable [LawfulBEq α] {l : List α} {a b : α}

theorem positions_concat_self (a : α) (l : List α) : positions a (l ++ [a]) = positions a l ++ [l.length + 1] := by
  rw [positions_concat, if_pos (beq_self_eq_true a)]

theorem positions_concat_of_ne (h : b ≠ a) (l : List α) : positions a (l ++ [b]) = positions a l := by
  rw [positions_concat, if_neg (by simpa using h), List.append_nil]

theorem mem_positions_iff {p : Nat} : p ∈ positions a l ↔ 1 ≤ p ∧ l[p - 1]? = some a := by
  rw [positions, List.mem_map]
  constructor
  · rintro ⟨entry, hentry, rfl⟩
    obtain ⟨hmem, heq⟩ := List.mem_filter.mp hentry
    obtain ⟨hle, hget⟩ := List.mem_zipIdx_iff_le_and_getElem?_sub.mp hmem
    exact ⟨hle, hget.trans (congrArg some (eq_of_beq heq))⟩
  · rintro ⟨hle, hget⟩
    exact ⟨(a, p), List.mem_filter.mpr ⟨List.mem_zipIdx_iff_le_and_getElem?_sub.mpr ⟨hle, hget⟩,
      beq_self_eq_true a⟩, rfl⟩

theorem positions_eq_nil (h : a ∉ l) : positions a l = [] := by
  apply List.eq_nil_iff_forall_not_mem.mpr
  intro p hp
  exact h (List.mem_of_getElem? (mem_positions_iff.mp hp).2)

theorem positions_ne_nil (h : a ∈ l) : positions a l ≠ [] := by
  obtain ⟨i, hi⟩ := List.mem_iff_getElem?.mp h
  exact List.ne_nil_of_mem (mem_positions_iff.mpr ⟨Nat.le_add_left 1 i, hi⟩)

theorem positions_increasing (a : α) (l : List α) : (positions a l).Pairwise (· < ·) := by
  induction l using List.reverseRecOn with
  | nil => exact List.Pairwise.nil
  | append_singleton l b ih =>
    rw [positions_concat]
    apply List.pairwise_append.mpr
    refine ⟨ih, by split <;> simp, ?_⟩
    intro p hp q hq
    have hbelow : p - 1 < l.length := (List.getElem?_eq_some_iff.mp (mem_positions_iff.mp hp).2).1
    split at hq
    · rw [List.mem_singleton] at hq
      omega
    · exact absurd hq List.not_mem_nil

end Positions

section Firsts
variable [LawfulBEq α] {l : List α} {a b : α}

theorem eraseDups_concat_of_mem (h : a ∈ l) : (l ++ [a]).eraseDups = l.eraseDups := by
  have hnone : [a].removeAll l = [] := by simp [List.removeAll, h]
  rw [List.eraseDups_append, hnone, List.eraseDups_nil, List.append_nil]

theorem eraseDups_concat_of_notMem (h : a ∉ l) : (l ++ [a]).eraseDups = l.eraseDups ++ [a] := by
  have hone : [a].removeAll l = [a] := by simp [List.removeAll, h]
  rw [List.eraseDups_append, hone, List.eraseDups_cons, List.filter_nil, List.eraseDups_nil]

theorem nodup_eraseDups (l : List α) : l.eraseDups.Nodup := by
  induction l using List.reverseRecOn with
  | nil => exact List.nodup_nil
  | append_singleton l a ih =>
    by_cases h : a ∈ l
    · rw [eraseDups_concat_of_mem h]
      exact ih
    · rw [eraseDups_concat_of_notMem h, ← List.concat_eq_append]
      exact ih.concat fun hmem => h (List.mem_eraseDups.mp hmem)

theorem length_eraseDups_le (l : List α) : l.eraseDups.length ≤ l.length := by
  induction l using List.reverseRecOn with
  | nil => exact Nat.le_refl 0
  | append_singleton l a ih =>
    by_cases h : a ∈ l
    · rw [eraseDups_concat_of_mem h, List.length_append]
      exact Nat.le_add_right_of_le ih
    · rw [eraseDups_concat_of_notMem h, List.length_append, List.length_append]
      exact Nat.add_le_add_right ih 1

/-- A later element changes no number that was given out. -/
theorem idxOf_eraseDups_concat (h : a ∈ l) (b : α) : (l ++ [b]).eraseDups.idxOf a = l.eraseDups.idxOf a := by
  rw [List.eraseDups_append, List.idxOf_append, if_pos (List.mem_eraseDups.mpr h)]

theorem idxOf_eraseDups_self (h : a ∉ l) : (l ++ [a]).eraseDups.idxOf a = l.eraseDups.length := by
  rw [eraseDups_concat_of_notMem h, List.idxOf_append, if_neg (fun hmem => h (List.mem_eraseDups.mp hmem)),
    List.idxOf_cons_self, Nat.zero_add]

/-- The numbers are in the order of the first occurrences. -/
theorem idxOf_eraseDups_lt_iff (ha : a ∈ l) (hb : b ∈ l) :
    l.eraseDups.idxOf a < l.eraseDups.idxOf b ↔ l.idxOf a < l.idxOf b := by
  induction l using List.reverseRecOn with
  | nil => exact absurd ha List.not_mem_nil
  | append_singleton l c ih =>
    have hnumber : ∀ {x : α}, x ∈ l → (l ++ [c]).eraseDups.idxOf x < l.eraseDups.length := by
      intro x hx
      rw [idxOf_eraseDups_concat hx]
      exact List.idxOf_lt_length_of_mem (List.mem_eraseDups.mpr hx)
    have hplace : ∀ {x : α}, x ∈ l → (l ++ [c]).idxOf x < l.length := by
      intro x hx
      rw [List.idxOf_append, if_pos hx]
      exact List.idxOf_lt_length_of_mem hx
    have hlast : ∀ {x : α}, x ∈ l ++ [c] → x ∉ l →
        (l ++ [c]).eraseDups.idxOf x = l.eraseDups.length ∧ (l ++ [c]).idxOf x = l.length := by
      intro x hx hnew
      obtain rfl : x = c := List.mem_singleton.mp ((List.mem_append.mp hx).resolve_left hnew)
      refine ⟨idxOf_eraseDups_self hnew, ?_⟩
      rw [List.idxOf_append, if_neg hnew, List.idxOf_cons_self, Nat.zero_add]
    by_cases ha' : a ∈ l <;> by_cases hb' : b ∈ l
    · rw [idxOf_eraseDups_concat ha', idxOf_eraseDups_concat hb', List.idxOf_append, if_pos ha', List.idxOf_append,
        if_pos hb']
      exact ih ha' hb'
    · rw [(hlast hb hb').1, (hlast hb hb').2]
      exact iff_of_true (hnumber ha') (hplace ha')
    · rw [(hlast ha ha').1, (hlast ha ha').2]
      exact iff_of_false (Nat.lt_asymm (hnumber hb')) (Nat.lt_asymm (hplace hb'))
    · rw [(hlast ha ha').1, (hlast ha ha').2, (hlast hb hb').1, (hlast hb hb').2]
      exact iff_of_false (Nat.lt_irrefl _) (Nat.lt_irrefl _)

end Firsts

section Tables
variable [LawfulBEq α] {l : List α} {a b : α}

/-- A table from elements to their places finds the place of the first. -/
theorem lookup_zipIdx (a : α) (l : List α) (k : Nat) :
    (l.zipIdx k).lookup a = if a ∈ l then some (k + l.idxOf a) else none := by
  induction l generalizing k with
  | nil => rfl
  | cons b l ih =>
    rw [List.zipIdx_cons, List.lookup_cons]
    by_cases h : a = b
    · subst h
      rw [beq_self_eq_true, if_pos List.mem_cons_self, List.idxOf_cons_self]
      rfl
    · have hmem : a ∈ b :: l ↔ a ∈ l := by rw [List.mem_cons, or_iff_right h]
      have hplace : (b :: l).idxOf a = l.idxOf a + 1 := by
        rw [List.idxOf_cons, beq_false_of_ne (Ne.symm h)]
        rfl
      rw [beq_false_of_ne h, ih, hplace]
      simp only [hmem, Nat.add_assoc, Nat.add_comm 1]

/-- Changing the entry of one element. -/
theorem modify_map_idxOf (hnodup : l.Nodup) (f : α → β) (g : β → β) :
    (l.map f).modify (l.idxOf a) g = l.map fun b => if b == a then g (f b) else f b := by
  induction l with
  | nil => simp
  | cons b l ih =>
    obtain ⟨hnew, hrest⟩ := List.nodup_cons.mp hnodup
    rw [List.map_cons, List.map_cons, List.idxOf_cons]
    cases h : b == a with
    | true =>
      have hne : ∀ c ∈ l, (c == a) = false := fun c hc =>
        beq_false_of_ne fun heq => hnew (eq_of_beq h ▸ heq ▸ hc)
      have hsame : (l.map fun c => if c == a then g (f c) else f c) = l.map f := by
        apply List.map_congr_left
        intro c hc
        rw [hne c hc]
        rfl
      rw [hsame]
      rfl
    | false =>
      rw [← ih hrest]
      rfl

end Tables
end StationChat.Lib
