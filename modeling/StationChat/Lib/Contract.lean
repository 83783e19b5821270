import StationChat.Lib.Action
import Mathlib.Logic.Relation

/-! Contracts: an invariant, a preorder on states and the exceptions that may leave. One contract
is proved of every primitive and then composes over programs. -/
namespace StationChat.Lib

/-- `step` relates the state before a computation to every state it can end in. -/
structure Contract (σ ε : Type) where
  inv : σ → Prop
  step : σ → σ → Prop
  allowed : ε → Prop
  refl : ∀ s, step s s
  trans : ∀ {s t u}, step s t → step t u → step s u

namespace Contract
variable {σ ε α β : Type} (C : Contract σ ε)

/-- The computation keeps the contract from `s` and establishes `Q` of its value. -/
def Holds (x : Action σ ε α) (s : σ) (Q : α → σ → Prop) : Prop :=
  x.Ends s (fun a t => C.inv t ∧ C.step s t ∧ Q a t) (fun e t => C.inv t ∧ C.step s t ∧ C.allowed e)

variable {C} {s : σ}

theorem Holds.mono {x : Action σ ε α} {Q R : α → σ → Prop} (h : C.Holds x s Q)
    (hQ : ∀ a t, C.inv t → C.step s t → Q a t → R a t) : C.Holds x s R :=
  Action.Ends.mono h (fun a t ht => ⟨ht.1, ht.2.1, hQ a t ht.1 ht.2.1 ht.2.2⟩) (fun _ _ he => he)

theorem holds_pure {a : α} {Q : α → σ → Prop} (hs : C.inv s) (h : Q a s) :
    C.Holds (pure a) s Q :=
  ⟨hs, C.refl s, h⟩

theorem holds_throw {e : ε} {Q : α → σ → Prop} (hs : C.inv s) (h : C.allowed e) :
    C.Holds (throw e) s Q :=
  ⟨hs, C.refl s, h⟩

theorem holds_modify {f : σ → σ} {Q : PUnit → σ → Prop} (hf : C.inv (f s)) (hs : C.step s (f s))
    (h : Q ⟨⟩ (f s)) : C.Holds (modify f) s Q :=
  ⟨hf, hs, h⟩

/-- The sequencing rule. What `x` established is read at the state it reached. -/
theorem Holds.bind {x : Action σ ε α} {f : α → Action σ ε β} {Q : α → σ → Prop} {R : β → σ → Prop}
    (hx : C.Holds x s Q)
    (hf : ∀ a t, C.inv t → C.step s t → Q a t → C.Holds (f a) t R) : C.Holds (x >>= f) s R := by
  refine (Action.ends_bind x f _).mpr (Action.Ends.mono hx ?_ fun _ _ he => he)
  intro a t ⟨hi, hs, hQ⟩
  exact Action.Ends.mono (hf a t hi hs hQ)
    (fun b u hu => ⟨hu.1, C.trans hs hu.2.1, hu.2.2⟩)
    (fun e u hu => ⟨hu.1, C.trans hs hu.2.1, hu.2.2⟩)

/-- A computation that only reads keeps every contract that allows its exceptions. -/
theorem holds_still {x : Action σ ε α} (hx : x.Still) (hs : C.inv s)
    (hallowed : ∀ e t, x s = (.error e, t) → C.allowed e) :
    C.Holds x s fun a t => t = s ∧ x s = (.ok a, s) := by
  have hstill := hx s
  unfold Holds Action.Ends
  rcases h : x s with ⟨e | a, t⟩ <;> rw [h] at hstill <;> obtain rfl : t = s := hstill
  · exact ⟨hs, C.refl t, hallowed e t h⟩
  · exact ⟨hs, C.refl t, rfl, rfl⟩

/-- Reading the state first: the rest is looked at where it starts. -/
theorem holds_get_bind {f : σ → Action σ ε β} {R : β → σ → Prop} (h : C.Holds (f s) s R) :
    C.Holds (get >>= f) s R := h

theorem holds_modify_bind {g : σ → σ} {f : PUnit → Action σ ε β} {R : β → σ → Prop}
    (hg : C.inv (g s)) (hs : C.step s (g s)) (h : C.Holds (f ⟨⟩) (g s) R) :
    C.Holds (modify g >>= f) s R :=
  Holds.bind (holds_modify (Q := fun _ t => t = g s) hg hs rfl) fun _ _ _ _ ht => ht ▸ h

theorem holds_ite {p : Prop} [Decidable p] {x y : Action σ ε α} {Q : α → σ → Prop}
    (hx : p → C.Holds x s Q) (hy : ¬ p → C.Holds y s Q) : C.Holds (if p then x else y) s Q := by
  by_cases hp : p
  · rw [if_pos hp]
    exact hx hp
  · rw [if_neg hp]
    exact hy hp

theorem holds_runIf {b : Bool} {x : Action σ ε PUnit} (hs : C.inv s)
    (hx : b = true → C.Holds x s fun _ _ => True) : C.Holds (x.runIf b) s fun _ _ => True :=
  holds_ite hx fun _ => holds_pure hs trivial

/-- What is caught may end anywhere the contract allows; the handler goes on from there. -/
theorem holds_tryCatch {x : Action σ ε α} {h : ε → Action σ ε α} {D : Contract σ ε}
    {Q R : α → σ → Prop} (hx : D.Holds x s Q) (hstep : ∀ t, D.step s t → C.step s t)
    (hok : ∀ a t, D.inv t → D.step s t → Q a t → C.inv t ∧ R a t)
    (herr : ∀ e t, D.inv t → D.step s t → D.allowed e → C.Holds (h e) t R) :
    C.Holds (tryCatch x h) s R := by
  refine (Action.ends_tryCatch x h).mpr (Action.Ends.mono hx ?_ ?_)
  · intro a t ⟨hi, hs, hq⟩
    exact ⟨(hok a t hi hs hq).1, hstep t hs, (hok a t hi hs hq).2⟩
  · intro e t ⟨hi, hs, ha⟩
    exact Action.Ends.mono (herr e t hi hs ha)
      (fun b u hu => ⟨hu.1, C.trans (hstep t hs) hu.2.1, hu.2.2⟩)
      (fun b u hu => ⟨hu.1, C.trans (hstep t hs) hu.2.1, hu.2.2⟩)

/-- A computation that keeps one contract keeps any it implies. -/
theorem Holds.weaken {D : Contract σ ε} {x : Action σ ε α} {Q : α → σ → Prop} (h : D.Holds x s Q)
    (hinv : ∀ t, D.inv t → D.step s t → C.inv t) (hstep : ∀ t, D.inv t → D.step s t → C.step s t)
    (hallowed : ∀ e, D.allowed e → C.allowed e) : C.Holds x s Q :=
  Action.Ends.mono h
    (fun _ t ht => ⟨hinv t ht.1 ht.2.1, hstep t ht.1 ht.2.1, ht.2.2⟩)
    (fun e t ht => ⟨hinv t ht.1 ht.2.1, hstep t ht.1 ht.2.1, hallowed e ht.2.2⟩)

/-- A loop whose body keeps the contract from every state that follows `s`. -/
theorem holds_forM {ι : Type} {f : ι → Action σ ε PUnit} (xs : List ι) (hs : C.inv s)
    (hf : ∀ i ∈ xs, ∀ t, C.inv t → C.step s t → C.Holds (f i) t fun _ _ => True) :
    C.Holds (forM xs f) s fun _ _ => True := by
  induction xs generalizing s with
  | nil => exact holds_pure hs trivial
  | cons i rest ih =>
    rw [List.forM_cons]
    refine (hf i (by simp) s hs (C.refl s)).bind fun _ t ht hst _ => ih ht ?_
    intro j hj u hu htu
    exact hf j (by simp [hj]) u hu (C.trans hst htu)

theorem holds_mapM {ι : Type} {f : ι → Action σ ε β} (xs : List ι) (hs : C.inv s)
    (hf : ∀ i ∈ xs, ∀ t, C.inv t → C.step s t → C.Holds (f i) t fun _ _ => True) :
    C.Holds (xs.mapM f) s fun _ _ => True := by
  induction xs generalizing s with
  | nil => exact holds_pure hs trivial
  | cons i rest ih =>
    rw [List.mapM_cons]
    refine (hf i (by simp) s hs (C.refl s)).bind fun _ t ht hst _ => ?_
    refine (ih ht fun j hj u hu htu => hf j (by simp [hj]) u hu (C.trans hst htu)).bind ?_
    exact fun _ u hu _ _ => holds_pure hu trivial

/-- A search whose test leaves the state alone. -/
theorem holds_anyM {ι : Type} {f : ι → Action σ ε Bool} (xs : List ι) (hs : C.inv s)
    (hf : ∀ i ∈ xs, C.Holds (f i) s fun _ t => t = s) :
    C.Holds (xs.anyM f) s fun _ t => t = s := by
  induction xs with
  | nil => exact holds_pure hs rfl
  | cons i rest ih =>
    refine (hf i List.mem_cons_self).bind fun b t ht _ heq => ?_
    subst heq
    cases b with
    | true => exact holds_pure ht rfl
    | false => exact ih fun j hj => hf j (List.mem_cons_of_mem i hj)

end Contract

section Runs
variable {σ ι : Type}

/-- Some admitted input takes the system from one state to the next. -/
def Steps (step : σ → ι → Option σ) (admitted : σ → ι → Prop) (s t : σ) : Prop :=
  ∃ i, admitted s i ∧ step s i = some t

/-- A run is any number of admitted steps. -/
def Runs (step : σ → ι → Option σ) (admitted : σ → ι → Prop) : σ → σ → Prop :=
  Relation.ReflTransGen (Steps step admitted)

/-- The state after a list of inputs, if each can be taken. -/
def runInputs (step : σ → ι → Option σ) : σ → List ι → Option σ
  | s, [] => some s
  | s, i :: inputs => (step s i).bind fun t => runInputs step t inputs

/-- The steps of a run on a list of inputs, up to the first input that cannot be taken. -/
def runSteps (step : σ → ι → Option σ) : σ → List ι → List (σ × ι × σ)
  | _, [] => []
  | s, i :: inputs =>
    match step s i with
    | none => []
    | some t => (s, i, t) :: runSteps step t inputs

variable {step : σ → ι → Option σ} {admitted : σ → ι → Prop}

/-- An assertion kept by each admitted step holds in every state a run reaches. -/
theorem Runs.invariant {I : σ → Prop} {s t : σ} (h : Runs step admitted s t) (hs : I s)
    (hstep : ∀ s i t, I s → admitted s i → step s i = some t → I t) : I t := by
  induction h with
  | refl => exact hs
  | tail _ hlast ih =>
    obtain ⟨i, ha, hi⟩ := hlast
    exact hstep _ i _ ih ha hi

theorem Runs.mono {admitted' : σ → ι → Prop} {s t : σ} (h : Runs step admitted s t)
    (himp : ∀ s i, admitted s i → admitted' s i) : Runs step admitted' s t := by
  induction h with
  | refl => exact Relation.ReflTransGen.refl
  | tail _ hlast ih =>
    obtain ⟨i, ha, hi⟩ := hlast
    exact Relation.ReflTransGen.tail ih ⟨i, himp _ i ha, hi⟩

theorem Runs.of_members {inputs : List ι} {s t : σ} (h : runInputs step s inputs = some t)
    (hall : ∀ s, ∀ i ∈ inputs, admitted s i) : Runs step admitted s t := by
  induction inputs generalizing s with
  | nil =>
    obtain rfl := Option.some.inj h
    exact Relation.ReflTransGen.refl
  | cons i inputs ih =>
    obtain ⟨u, hu, hrest⟩ := Option.bind_eq_some_iff.mp h
    have hthen := ih hrest fun s i hi => hall s i (List.mem_cons_of_mem _ hi)
    exact Relation.ReflTransGen.head ⟨i, hall s i List.mem_cons_self, hu⟩ hthen

theorem Runs.of_inputs {inputs : List ι} {s t : σ} (h : runInputs step s inputs = some t)
    (hall : ∀ s i, admitted s i) : Runs step admitted s t :=
  Runs.of_members h fun s i _ => hall s i

theorem step_of_mem_runSteps {inputs : List ι} {s : σ} {x : σ × ι × σ}
    (h : x ∈ runSteps step s inputs) : step x.1 x.2.1 = some x.2.2 := by
  induction inputs generalizing s with
  | nil => exact absurd h (by simp [runSteps])
  | cons i inputs ih =>
    rw [runSteps] at h
    split at h
    · exact absurd h (by simp)
    · rename_i t ht
      rcases List.mem_cons.mp h with rfl | h
      · exact ht
      · exact ih h

theorem Runs.of_mem_runSteps {inputs : List ι} {s : σ} {x : σ × ι × σ} (h : x ∈ runSteps step s inputs)
    (hall : ∀ s i, admitted s i) : Runs step admitted s x.1 := by
  induction inputs generalizing s with
  | nil => exact absurd h (by simp [runSteps])
  | cons i inputs ih =>
    rw [runSteps] at h
    split at h
    · exact absurd h (by simp)
    · rename_i t ht
      rcases List.mem_cons.mp h with rfl | h
      · exact .refl
      · exact .head ⟨i, hall s i, ht⟩ (ih h)

/-- A state with a given property that a list of inputs leads to. -/
theorem Runs.exists_of_inputs {Q : σ → Prop} [DecidablePred Q] {s : σ} (inputs : List ι)
    (h : (runInputs step s inputs).any (fun t => decide (Q t)) = true)
    (hall : ∀ s i, admitted s i) : ∃ t, Runs step admitted s t ∧ Q t := by
  cases hrun : runInputs step s inputs with
  | none => simp [hrun] at h
  | some t =>
    refine ⟨t, Runs.of_inputs hrun hall, ?_⟩
    simpa [hrun] using h

/-- The same with inputs that are tested where they are made. -/
theorem Runs.exists_of_admitted {Q : σ → Prop} [DecidablePred Q] [∀ s i, Decidable (admitted s i)] {s : σ}
    (inputs : List ι) (h : (runInputs (fun s i => if admitted s i then step s i else none) s inputs).any
      (fun t => decide (Q t)) = true) : ∃ t, Runs step admitted s t ∧ Q t := by
  obtain ⟨t, hrun, hQ⟩ := Runs.exists_of_inputs inputs h fun _ _ => trivial
  refine ⟨t, hrun.invariant .refl fun u i v hu _ hstep => ?_, hQ⟩
  split at hstep
  · exact hu.tail ⟨i, ‹_›, hstep⟩
  · exact absurd hstep (by simp)

end Runs
end StationChat.Lib
