import Mathlib.Data.List.Nodup

/-! Collecting the keys of a list without repetitions, in the order of their first appearance. -/
namespace StationChat.Lib

variable {α β : Type} {f : List β → α → List β} {p : α → Prop} {key : α → β} {seen : List β}

/-- One step of a loop that appends the keys of the elements of a kind it has not seen. -/
structure Collects (f : List β → α → List β) (p : α → Prop) (key : α → β) : Prop where
  fresh : ∀ seen a, p a → key a ∉ seen → f seen a = seen ++ [key a]
  known : ∀ seen a, key a ∈ seen → f seen a = seen
  other : ∀ seen a, ¬ p a → f seen a = seen

namespace Collects

theorem cases (h : Collects f p key) (seen : List β) (a : α) :
    f seen a = seen ++ [key a] ∧ p a ∧ key a ∉ seen ∨ f seen a = seen ∧ (p a → key a ∈ seen) := by
  by_cases hp : p a
  · by_cases hseen : key a ∈ seen
    · exact .inr ⟨h.known seen a hseen, fun _ => hseen⟩
    · exact .inl ⟨h.fresh seen a hp hseen, hp, hseen⟩
  · exact .inr ⟨h.other seen a hp, fun hpa => absurd hpa hp⟩

theorem mem_step (h : Collects f p key) (a : α) (b : β) :
    b ∈ f seen a ↔ b ∈ seen ∨ p a ∧ key a = b := by
  rcases h.cases seen a with ⟨hstep, hp, _⟩ | ⟨hstep, hknown⟩ <;> rw [hstep]
  · rw [List.mem_append, List.mem_singleton, and_iff_right hp, eq_comm]
  · constructor
    · exact .inl
    · rintro (hb | ⟨hp, rfl⟩)
      · exact hb
      · exact hknown hp

theorem nodup_step (h : Collects f p key) (a : α) (hseen : seen.Nodup) : (f seen a).Nodup := by
  rcases h.cases seen a with ⟨hstep, _, hfresh⟩ | ⟨hstep, _⟩ <;> rw [hstep]
  · rw [← List.concat_eq_append]
    exact hseen.concat hfresh
  · exact hseen

theorem mem_foldl (h : Collects f p key) (l : List α) (b : β) :
    b ∈ l.foldl f seen ↔ b ∈ seen ∨ ∃ a ∈ l, p a ∧ key a = b := by
  induction l generalizing seen with
  | nil => simp
  | cons a rest ih =>
    rw [List.foldl_cons, ih, h.mem_step, or_assoc, List.exists_mem_cons_iff]

theorem nodup_foldl (h : Collects f p key) (l : List α) (hseen : seen.Nodup) :
    (l.foldl f seen).Nodup := by
  induction l generalizing seen with
  | nil => exact hseen
  | cons a rest ih => exact ih (h.nodup_step a hseen)

end Collects

/-- If a list has just one element of a kind, it is at one place. -/
theorem getElem?_of_countP_eq_one {p : α → Bool} {l : List α} (h : l.countP p = 1) {i j : Nat} {a b : α}
    (hi : l[i]? = some a) (hj : l[j]? = some b) (ha : p a = true) (hb : p b = true) : i = j := by
  induction l generalizing i j with
  | nil => exact absurd hi (by simp)
  | cons c rest ih =>
    have hnone : ∀ (k : Nat) (d : α), p c = true → rest[k]? = some d → p d = true → False := by
      intro k d hc hk hd
      rw [List.countP_cons_of_pos hc] at h
      exact List.countP_eq_zero.mp (Nat.succ.inj h) d (List.mem_of_getElem? hk) hd
    cases i with
    | zero =>
      cases j with
      | zero => rfl
      | succ j => exact (hnone j b (Option.some.inj hi ▸ ha) hj hb).elim
    | succ i =>
      cases j with
      | zero => exact (hnone i a (Option.some.inj hj ▸ hb) hi ha).elim
      | succ j =>
        have hc : ¬ p c = true := fun hc => hnone i a hc hi ha
        rw [List.countP_cons_of_neg hc] at h
        exact congrArg Nat.succ (ih h hi hj)

end StationChat.Lib
