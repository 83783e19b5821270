import StationChat.Lib.Contract

/-! What has held since: a fact about the last state of a run that is no fact about its first state became one at
some step, and has been one ever since. -/
namespace StationChat.Lib

variable {σ ι : Type} {step : σ → ι → Option σ} {P I : σ → Prop} {cause : σ → ι → σ → Prop} {s t u v : σ} {inputs : List ι}

/-- Some input of the run brought `P` about in the way of `cause`, and after it no state was without. -/
def HeldSince (step : σ → ι → Option σ) (P : σ → Prop) (cause : σ → ι → σ → Prop) (s : σ) (inputs : List ι) : Prop :=
  ∃ front i back u v, inputs = front ++ i :: back ∧ runInputs step s front = some u ∧ step u i = some v ∧
    cause u i v ∧ P v ∧ ∀ x ∈ runSteps step v back, P x.2.2

theorem HeldSince.cons {i : ι} (hstep : step s i = some u) (h : HeldSince step P cause u inputs) :
    HeldSince step P cause s (i :: inputs) := by
  obtain ⟨front, j, back, v, w, rfl, hfront, hrest⟩ := h
  refine ⟨i :: front, j, back, v, w, rfl, ?_, hrest⟩
  rw [runInputs, hstep, Option.bind_some, hfront]

/-- Either it held all the time, or it has held since. -/
theorem held_or_heldSince (hkeep : ∀ s i t, I s → step s i = some t → I t)
    (hcause : ∀ s i t, I s → step s i = some t → ¬ P s → P t → cause s i t)
    (hs : I s) (h : runInputs step s inputs = some t) (ht : P t) :
    (P s ∧ ∀ x ∈ runSteps step s inputs, P x.2.2) ∨ HeldSince step P cause s inputs := by
  induction inputs generalizing s with
  | nil =>
    obtain rfl := Option.some.inj h
    exact .inl ⟨ht, fun x hx => absurd hx (by simp [runSteps])⟩
  | cons i inputs ih =>
    obtain ⟨u, hu, hrest⟩ := Option.bind_eq_some_iff.mp h
    rcases ih (hkeep s i u hs hu) hrest with ⟨hPu, hall⟩ | hsince
    · by_cases hPs : P s
      · refine .inl ⟨hPs, ?_⟩
        rw [runSteps, hu]
        exact List.forall_mem_cons.mpr ⟨hPu, hall⟩
      · exact .inr ⟨[], i, inputs, s, u, rfl, rfl, hu, hcause s i u hs hu hPs hPu, hPu, hall⟩
    · exact .inr (hsince.cons hu)

theorem heldSince (hkeep : ∀ s i t, I s → step s i = some t → I t)
    (hcause : ∀ s i t, I s → step s i = some t → ¬ P s → P t → cause s i t)
    (hs : I s) (h : runInputs step s inputs = some t) (hnot : ¬ P s) (ht : P t) :
    HeldSince step P cause s inputs :=
  (held_or_heldSince hkeep hcause hs h ht).resolve_left fun hheld => hnot hheld.1

end StationChat.Lib
