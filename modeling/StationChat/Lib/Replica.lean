import StationChat.Lib.Contract

/-! Replicas: a listener that folds the messages it hears has what they are about, as long as every step of the
system tells it enough. -/
namespace StationChat.Lib

variable {σ ι V M : Type} {update : V → M → V} {v : V} {n : M} {messages : List M}

theorem foldl_inert (h : ∀ m ∈ messages, update v m = v) : messages.foldl update v = v := by
  induction messages with
  | nil => rfl
  | cons m rest ih =>
    obtain ⟨hm, hrest⟩ := List.forall_mem_cons.mp h
    rw [List.foldl_cons, hm, ih hrest]

/-- A message may come several times among others that say nothing new. -/
theorem foldl_once (hidem : update (update v n) n = update v n) (hmem : n ∈ messages)
    (h : ∀ m ∈ messages, m = n ∨ update v m = v ∧ update (update v n) m = update v n) :
    messages.foldl update v = update v n := by
  induction messages with
  | nil => exact absurd hmem List.not_mem_nil
  | cons m rest ih =>
    obtain ⟨hm, hrest⟩ := List.forall_mem_cons.mp h
    rw [List.foldl_cons]
    rcases hm with rfl | ⟨hinert, _⟩
    · refine foldl_inert fun m' hm' => ?_
      rcases hrest m' hm' with rfl | ⟨_, hlater⟩
      · exact hidem
      · exact hlater
    · rw [hinert]
      rcases List.mem_cons.mp hmem with rfl | hmem
      · rw [hinert]
        refine foldl_inert fun m' hm' => ?_
        rcases hrest m' hm' with rfl | ⟨hm', _⟩
        · exact hinert
        · exact hm'
      · exact ih hmem hrest

section Runs
variable {step : σ → ι → Option σ} {truth : σ → V → Prop} {heard : σ → List M} {inputs : List ι} {s t : σ}

/-- As long as there is a truth, the listener has it. -/
theorem runInputs_replica {I : σ → Prop} (hkeep : ∀ s i t, I s → step s i = some t → I t)
    (hstep : ∀ s i t v w, I s → step s i = some t → truth s v → truth t w →
      ∃ new, heard t = heard s ++ new ∧ new.foldl update v = w)
    (hs : I s) (hv : truth s v) (h : runInputs step s inputs = some t)
    (hall : ∀ x ∈ runSteps step s inputs, ∃ w, truth x.2.2 w) :
    ∃ new, heard t = heard s ++ new ∧ truth t (new.foldl update v) := by
  induction inputs generalizing s v with
  | nil =>
    obtain rfl := Option.some.inj h
    exact ⟨[], by simp, hv⟩
  | cons i inputs ih =>
    obtain ⟨u, hu, hrest⟩ := Option.bind_eq_some_iff.mp h
    rw [runSteps, hu] at hall
    obtain ⟨⟨w, hw⟩, hall⟩ := List.forall_mem_cons.mp hall
    obtain ⟨new, hnew, rfl⟩ := hstep s i u v w hs hu hv hw
    obtain ⟨more, hmore, ht⟩ := ih (hkeep s i u hs hu) hw hrest hall
    refine ⟨new ++ more, ?_, ?_⟩
    · rw [hmore, hnew, List.append_assoc]
    · rwa [List.foldl_append]

end Runs
end StationChat.Lib
