import StationChat.Lib.Contract
import Mathlib.Data.List.Forall2

/-! Tables whose rows keep their place: new rows come behind the old ones, and of an old row only a mark may
change. And lists that a run only appends to, block by block. -/
namespace StationChat.Lib

variable {α β : Type} {fixed : α → β} {may may' : β → Prop} {xs ys zs : List α} {added added' : List β}

/-- `ys` continues `xs` by rows that show `added`. An old row still shows what it showed, and is the same as
before unless `may` lets its mark change. -/
structure Continues (fixed : α → β) (may : β → Prop) (xs ys : List α) (added : List β) : Prop where
  rows : ys.map fixed = xs.map fixed ++ added
  kept : ∀ (i : Nat) (x : α), xs[i]? = some x → ¬ may (fixed x) → ys[i]? = some x

namespace Continues

theorem refl (xs : List α) : Continues fixed may xs xs [] := ⟨by simp, fun _ _ h _ => h⟩

theorem trans (h : Continues fixed may xs ys added) (h' : Continues fixed may ys zs added') :
    Continues fixed may xs zs (added ++ added') := by
  refine ⟨by rw [h'.rows, h.rows, List.append_assoc], fun i x hx hmay => ?_⟩
  exact h'.kept i x (h.kept i x hx hmay) hmay

theorem mono (h : Continues fixed may xs ys added) (hmay : ∀ b, may b → may' b) :
    Continues fixed may' xs ys added :=
  ⟨h.rows, fun i x hx hnot => h.kept i x hx fun hx => hnot (hmay _ hx)⟩

theorem append (xs new : List α) : Continues fixed may xs (xs ++ new) (new.map fixed) := by
  refine ⟨List.map_append, fun i x hx _ => ?_⟩
  obtain ⟨hlt, _⟩ := List.getElem?_eq_some_iff.mp hx
  rw [List.getElem?_append_left hlt, hx]

/-- A change of marks. -/
theorem map {f : α → α} (hfixed : ∀ x, fixed (f x) = fixed x) (hmay : ∀ x, ¬ may (fixed x) → f x = x)
    (xs : List α) : Continues fixed may xs (xs.map f) [] := by
  refine ⟨by simp [Function.comp_def, hfixed], fun i x hx hnot => ?_⟩
  rw [List.getElem?_map, hx, Option.map_some, hmay x hnot]

end Continues

section Blocks
variable {σ ι γ : Type} {step : σ → ι → Option σ} {inputs : List ι} {s t : σ}

/-- What each step appends, with the invariant it may use. -/
theorem runSteps_blocks (out : σ → List β) (P : σ × ι × σ → List β → Prop) {I : σ → Prop}
    (hkeep : ∀ s i t, I s → step s i = some t → I t)
    (hstep : ∀ s i t, I s → step s i = some t → ∃ block, out t = out s ++ block ∧ P (s, i, t) block)
    (hs : I s) (h : runInputs step s inputs = some t) :
    ∃ blocks, out t = out s ++ blocks.flatten ∧ List.Forall₂ P (runSteps step s inputs) blocks := by
  induction inputs generalizing s with
  | nil =>
    obtain rfl := Option.some.inj h
    exact ⟨[], by simp, .nil⟩
  | cons i inputs ih =>
    obtain ⟨u, hu, hrest⟩ := Option.bind_eq_some_iff.mp h
    obtain ⟨block, hblock, hP⟩ := hstep s i u hs hu
    obtain ⟨blocks, hblocks, hall⟩ := ih (hkeep s i u hs hu) hrest
    refine ⟨block :: blocks, ?_, ?_⟩
    · rw [hblocks, hblock, List.flatten_cons, List.append_assoc]
    · rw [runSteps, hu]
      exact .cons hP hall

/-- Empty blocks are left out. -/
theorem forall₂_filterMap {f : α → Option γ} {P : α → List β → Prop} {Q : γ → List β → Prop} {xs : List α}
    {blocks : List (List β)} (h : List.Forall₂ P xs blocks) (hnone : ∀ x block, P x block → f x = none → block = [])
    (hsome : ∀ x block c, P x block → f x = some c → Q c block) :
    ∃ kept, kept.flatten = blocks.flatten ∧ List.Forall₂ Q (xs.filterMap f) kept := by
  induction h with
  | nil => exact ⟨[], rfl, .nil⟩
  | @cons x block xs blocks hx _ ih =>
    obtain ⟨kept, hflatten, hall⟩ := ih
    rw [List.filterMap_cons]
    cases hf : f x with
    | none => exact ⟨kept, by rw [hflatten, hnone x block hx hf, List.flatten_cons, List.nil_append], hall⟩
    | some c => exact ⟨block :: kept, by rw [List.flatten_cons, hflatten, List.flatten_cons], .cons (hsome x block c hx hf) hall⟩

end Blocks
end StationChat.Lib
