import StationChat.Lib.Changes

/-! Computations put together from primitive ones. What each primitive keeps, all of them together keep, and
what none of them looks at cannot be told from outside. -/
namespace StationChat.Lib.Action

variable {σ ε α β : Type}

/-- What sequencing and catching make of the primitives `P`. The state is looked at through `view` only. -/
inductive Composed (view : σ → σ) (P : (α : Type) → Action σ ε α → Prop) :
    {α : Type} → Action σ ε α → Prop
  | primitive {α : Type} {x : Action σ ε α} (h : P α x) : Composed view P x
  | pure {α : Type} (a : α) : Composed view P (pure a : Action σ ε α)
  | throw {α : Type} (e : ε) : Composed view P (throw e : Action σ ε α)
  | look {α : Type} (f : σ → Action σ ε α) (hview : ∀ s, f s = f (view s))
      (hf : ∀ s, Composed view P (f s)) : Composed view P (get >>= f)
  | bind {α β : Type} {x : Action σ ε α} {f : α → Action σ ε β} (hx : Composed view P x)
      (hf : ∀ a, Composed view P (f a)) : Composed view P (x >>= f)
  | tryCatch {α : Type} {x : Action σ ε α} {h : ε → Action σ ε α} (hx : Composed view P x)
      (hh : ∀ e, Composed view P (h e)) : Composed view P (tryCatch x h)

/-- The computations that have no primitives. -/
abbrev Looks (view : σ → σ) (x : Action σ ε α) : Prop := Composed view (fun _ _ => False) x

section Composing
variable {view : σ → σ} {P : (α : Type) → Action σ ε α → Prop}

theorem Composed.mono {Q : (α : Type) → Action σ ε α → Prop} {x : Action σ ε α} (h : Composed view P x)
    (hPQ : ∀ α x, P α x → Q α x) : Composed view Q x := by
  induction h with
  | primitive h => exact .primitive (hPQ _ _ h)
  | pure a => exact .pure a
  | throw e => exact .throw e
  | look f hview _ ih => exact .look f hview ih
  | bind _ _ ihx ihf => exact .bind ihx ihf
  | tryCatch _ _ ihx ihh => exact .tryCatch ihx ihh

theorem Looks.composed {x : Action σ ε α} (h : Looks view x) : Composed view P x :=
  h.mono fun _ _ hx => hx.elim

/-- What follows a computation need only be composed for the values that it can return. -/
theorem Composed.bind_returns [Nonempty ε] {Q : α → Prop} {x : Action σ ε α} {f : α → Action σ ε β}
    (hx : Composed view P x) (hQ : x.Returns Q) (hf : ∀ a, Q a → Composed view P (f a)) :
    Composed view P (x >>= f) := by
  classical
  obtain ⟨e⟩ := ‹Nonempty ε›
  have heq : x >>= f = x >>= fun a => if Q a then f a else MonadExcept.throw e := by
    funext s
    rw [bind_run, bind_run]
    rcases hrun : x s with ⟨_ | a, t⟩
    · rfl
    · exact (congrFun (if_pos (hQ s a t hrun)) t).symm
  rw [heq]
  refine hx.bind fun a => ?_
  split
  · exact hf a ‹_›
  · exact .throw e

theorem composed_ite {p : Prop} [Decidable p] {x y : Action σ ε α} (hx : Composed view P x)
    (hy : Composed view P y) : Composed view P (if p then x else y) := by
  split
  · exact hx
  · exact hy

theorem composed_runIf {b : Bool} {x : Action σ ε PUnit} (hx : Composed view P x) :
    Composed view P (x.runIf b) :=
  composed_ite hx (.pure _)

theorem composed_forM {ι : Type} {f : ι → Action σ ε PUnit} (hf : ∀ i, Composed view P (f i)) (xs : List ι) :
    Composed view P (forM xs f : Action σ ε PUnit) := by
  induction xs with
  | nil => exact .pure _
  | cons i rest ih =>
    rw [List.forM_cons]
    exact (hf i).bind fun _ => ih

theorem composed_mapM {ι : Type} {f : ι → Action σ ε β} (hf : ∀ i, Composed view P (f i)) (xs : List ι) :
    Composed view P (xs.mapM f) := by
  induction xs with
  | nil => exact .pure _
  | cons i rest ih =>
    rw [List.mapM_cons]
    exact (hf i).bind fun _ => ih.bind fun _ => .pure _

theorem composed_anyM {ι : Type} {f : ι → Action σ ε Bool} (hf : ∀ i, Composed view P (f i)) (xs : List ι) :
    Composed view P (xs.anyM f) := by
  induction xs with
  | nil => exact .pure _
  | cons i rest ih =>
    refine (hf i).bind fun b => ?_
    cases b with
    | true => exact .pure _
    | false => exact ih

/-- The changes of a composed computation are those of its primitives. -/
theorem Composed.makes {R : σ → σ → Prop} {x : Action σ ε α} (h : Composed view P x)
    (hP : ∀ α x, P α x → x.Makes R) : x.Makes R := by
  induction h with
  | primitive h => exact hP _ _ h
  | pure a => exact makes_pure a
  | throw e => exact makes_throw e
  | look f _ _ ih => exact makes_get.bind ih
  | bind _ _ ihx ihf => exact ihx.bind ihf
  | tryCatch _ _ ihx ihh => exact makes_tryCatch ihx ihh

theorem Looks.still {x : Action σ ε α} (h : Looks view x) : x.Still := by
  intro s
  have hmakes := h.makes (R := fun _ _ => False) (fun _ _ hx => hx.elim) s
  rcases Relation.ReflTransGen.cases_tail hmakes with heq | ⟨_, _, hfalse⟩
  · exact heq
  · exact hfalse.elim

end Composing

theorem ends_of_state {x : Action σ ε α} {s : σ} {Q : σ → Prop} (h : Q (x s).2) :
    x.Ends s (fun _ t => Q t) fun _ t => Q t := by
  unfold Ends
  rcases hrun : x s with ⟨_ | _, t⟩ <;> rwa [hrun] at h

section Agreement
variable {R : σ → σ → Prop}

/-- From related states the computation ends alike, in related states. -/
def Agrees (R : σ → σ → Prop) (x : Action σ ε α) : Prop :=
  ∀ ⦃s t : σ⦄, R s t → (x s).1 = (x t).1 ∧ R (x s).2 (x t).2

theorem agrees_pure (a : α) : (pure a : Action σ ε α).Agrees R := fun _ _ h => ⟨rfl, h⟩

theorem agrees_throw (e : ε) : (throw e : Action σ ε α).Agrees R := fun _ _ h => ⟨rfl, h⟩

theorem agrees_modify {f : σ → σ} (hf : ∀ s t, R s t → R (f s) (f t)) :
    (modify f : Action σ ε PUnit).Agrees R :=
  fun s t h => ⟨rfl, hf s t h⟩

theorem Agrees.bind {x : Action σ ε α} {f : α → Action σ ε β} (hx : x.Agrees R) (hf : ∀ a, (f a).Agrees R) :
    (x >>= f).Agrees R := by
  intro s t h
  obtain ⟨hvalue, hstate⟩ := hx h
  rw [bind_run, bind_run]
  rcases hs : x s with ⟨e | a, s'⟩ <;> rcases ht : x t with ⟨e' | a', t'⟩ <;> rw [hs, ht] at hvalue hstate
  · obtain rfl := Except.error.inj hvalue
    exact ⟨rfl, hstate⟩
  · exact absurd hvalue (by simp)
  · exact absurd hvalue (by simp)
  · obtain rfl := Except.ok.inj hvalue
    exact hf a hstate

theorem agrees_tryCatch {x : Action σ ε α} {h : ε → Action σ ε α} (hx : x.Agrees R)
    (hh : ∀ e, (h e).Agrees R) : (tryCatch x h).Agrees R := by
  intro s t hst
  obtain ⟨hvalue, hstate⟩ := hx hst
  rw [tryCatch_run, tryCatch_run]
  rcases hs : x s with ⟨e | a, s'⟩ <;> rcases ht : x t with ⟨e' | a', t'⟩ <;> rw [hs, ht] at hvalue hstate
  · obtain rfl := Except.error.inj hvalue
    exact hh e hstate
  · exact absurd hvalue (by simp)
  · exact absurd hvalue (by simp)
  · obtain rfl := Except.ok.inj hvalue
    exact ⟨rfl, hstate⟩

theorem agrees_look {f : σ → Action σ ε α} (hview : ∀ s t, R s t → f s = f t) (hf : ∀ s, (f s).Agrees R) :
    (get >>= f).Agrees R := by
  intro s t h
  change (f s s).1 = (f t t).1 ∧ R (f s s).2 (f t t).2
  rw [← hview s t h]
  exact hf s h

/-- States that look the same are told apart by no composed computation, if its primitives do not. -/
theorem Composed.agrees {view : σ → σ} {P : (α : Type) → Action σ ε α → Prop} {x : Action σ ε α}
    (h : Composed view P x) (hview : ∀ s t, R s t → view s = view t)
    (hP : ∀ α x, P α x → x.Agrees R) : x.Agrees R := by
  induction h with
  | primitive h => exact hP _ _ h
  | pure a => exact agrees_pure a
  | throw e => exact agrees_throw e
  | look f hf _ ih => exact agrees_look (fun s t h => by rw [hf s, hview s t h, ← hf t]) ih
  | bind _ _ ihx ihf => exact ihx.bind ihf
  | tryCatch _ _ ihx ihh => exact agrees_tryCatch ihx ihh

end Agreement
end StationChat.Lib.Action
