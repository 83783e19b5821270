import StationChat.Lib.Contract

/-! One system that follows another, input by input. -/
namespace StationChat.Lib

variable {σ τ ι κ : Type} {step : σ → ι → Option σ} {step' : τ → κ → Option τ} {s : σ} {s' : τ} {t : σ}

theorem runInputs_append (s : τ) (first second : List κ) :
    runInputs step' s (first ++ second) = (runInputs step' s first).bind fun t => runInputs step' t second := by
  induction first generalizing s with
  | nil => rfl
  | cons k first ih =>
    rw [List.cons_append, runInputs, runInputs, Option.bind_assoc]
    exact congrArg _ (funext ih)

/-- What each input of a run is translated to, the other system takes from a related state to a related one. -/
theorem runInputs_simulated {R : σ → τ → Prop} {translate : ι → List κ} {inputs : List ι}
    (hstep : ∀ s s' i t, R s s' → step s i = some t → ∃ t', runInputs step' s' (translate i) = some t' ∧ R t t')
    (h : R s s') (hrun : runInputs step s inputs = some t) :
    ∃ t', runInputs step' s' (inputs.flatMap translate) = some t' ∧ R t t' := by
  induction inputs generalizing s s' with
  | nil =>
    obtain rfl := Option.some.inj hrun
    exact ⟨s', rfl, h⟩
  | cons i inputs ih =>
    obtain ⟨u, hu, hrest⟩ := Option.bind_eq_some_iff.mp hrun
    obtain ⟨u', hu', hR⟩ := hstep s s' i u h hu
    obtain ⟨t', ht', hR'⟩ := ih hR hrest
    refine ⟨t', ?_, hR'⟩
    rw [List.flatMap_cons, runInputs_append, hu', Option.bind_some, ht']

end StationChat.Lib
