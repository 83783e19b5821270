import Mathlib.Algebra.Group.Nat.Defs
import Mathlib.Tactic.Common

/-! Computations that keep their state when they throw, with the weakest precondition of each
building block. A thrown exception leaves every earlier effect in place. -/
namespace StationChat.Lib

/-- A computation returns its value or its exception beside the state it reached. -/
def Action (σ ε α : Type) : Type := σ → Except ε α × σ

namespace Action
variable {σ ε α β : Type}

instance : Monad (Action σ ε) where
  pure a s := (.ok a, s)
  bind x f s := match x s with
    | (.ok a, t) => f a t
    | (.error e, t) => (.error e, t)

instance : MonadStateOf σ (Action σ ε) where
  get s := (.ok s, s)
  set t _ := (.ok ⟨⟩, t)
  modifyGet f s := (.ok (f s).1, (f s).2)

instance : MonadExceptOf ε (Action σ ε) where
  throw e s := (.error e, s)
  tryCatch x h s := match x s with
    | (.ok a, t) => (.ok a, t)
    | (.error e, t) => h e t

@[simp] theorem pure_run (a : α) (s : σ) : (pure a : Action σ ε α) s = (.ok a, s) := rfl

@[simp] theorem throw_run (e : ε) (s : σ) : (throw e : Action σ ε α) s = (.error e, s) := rfl

@[simp] theorem get_run (s : σ) : (get : Action σ ε σ) s = (.ok s, s) := rfl

@[simp] theorem modify_run (f : σ → σ) (s : σ) :
    (modify f : Action σ ε PUnit) s = (.ok ⟨⟩, f s) := rfl

theorem bind_run (x : Action σ ε α) (f : α → Action σ ε β) (s : σ) :
    (x >>= f) s = match x s with
      | (.ok a, t) => f a t
      | (.error e, t) => (.error e, t) := rfl

theorem bind_ok {x : Action σ ε α} {s t : σ} {a : α} (h : x s = (.ok a, t))
    (f : α → Action σ ε β) : (x >>= f) s = f a t := by
  rw [bind_run, h]

theorem bind_error {x : Action σ ε α} {s t : σ} {e : ε} (h : x s = (.error e, t))
    (f : α → Action σ ε β) : (x >>= f) s = (.error e, t) := by
  rw [bind_run, h]

@[simp] theorem pure_bind_run (a : α) (f : α → Action σ ε β) (s : σ) :
    ((pure a : Action σ ε α) >>= f) s = f a s := rfl

@[simp] theorem get_bind_run (f : σ → Action σ ε β) (s : σ) :
    ((get : Action σ ε σ) >>= f) s = f s s := rfl

@[simp] theorem modify_bind_run (g : σ → σ) (f : PUnit → Action σ ε β) (s : σ) :
    ((modify g : Action σ ε PUnit) >>= f) s = f ⟨⟩ (g s) := rfl

@[simp] theorem throw_bind_run (e : ε) (f : α → Action σ ε β) (s : σ) :
    ((throw e : Action σ ε α) >>= f) s = (.error e, s) := rfl

theorem tryCatch_run (x : Action σ ε α) (h : ε → Action σ ε α) (s : σ) :
    tryCatch x h s = match x s with
      | (.ok a, t) => (.ok a, t)
      | (.error e, t) => h e t := rfl

instance : LawfulMonad (Action σ ε) := by
  refine LawfulMonad.mk' _ ?_ ?_ ?_
  · intro α x
    funext s
    change (match x s with | (.ok a, t) => (.ok a, t) | (.error e, t) => (.error e, t)) = x s
    split <;> simp_all
  · intro α β a f
    rfl
  · intro α β γ x f g
    funext s
    change (match (match x s with | (.ok a, t) => f a t | (.error e, t) => (.error e, t)) with
      | (.ok b, t) => g b t | (.error e, t) => (.error e, t)) =
        (match x s with
          | (.ok a, t) => (match f a t with | (.ok b, u) => g b u | (.error e, u) => (.error e, u))
          | (.error e, t) => (.error e, t))
    split <;> rename_i h <;> split at h <;> simp_all

/-- The computation, or nothing. -/
def runIf (b : Bool) (x : Action σ ε PUnit) : Action σ ε PUnit := if b then x else pure ⟨⟩

/-- What holds when the computation ends: `ok` after a value, `err` after an exception. -/
def Ends (x : Action σ ε α) (s : σ) (ok : α → σ → Prop) (err : ε → σ → Prop) : Prop :=
  match x s with
  | (.ok a, t) => ok a t
  | (.error e, t) => err e t

section Rules
variable {s : σ} {ok : α → σ → Prop} {err : ε → σ → Prop}

@[simp] theorem ends_pure (a : α) : (pure a : Action σ ε α).Ends s ok err ↔ ok a s := Iff.rfl

@[simp] theorem ends_throw (e : ε) : (throw e : Action σ ε α).Ends s ok err ↔ err e s := Iff.rfl

@[simp] theorem ends_get (ok : σ → σ → Prop) :
    (get : Action σ ε σ).Ends s ok err ↔ ok s s := Iff.rfl

@[simp] theorem ends_modify (f : σ → σ) (ok : PUnit → σ → Prop) :
    (modify f : Action σ ε PUnit).Ends s ok err ↔ ok ⟨⟩ (f s) := Iff.rfl

@[simp] theorem ends_bind (x : Action σ ε α) (f : α → Action σ ε β) (ok : β → σ → Prop) :
    (x >>= f).Ends s ok err ↔ x.Ends s (fun a t => (f a).Ends t ok err) err := by
  unfold Ends
  rw [bind_run]
  rcases x s with ⟨_ | _, t⟩ <;> rfl

theorem ends_tryCatch (x : Action σ ε α) (h : ε → Action σ ε α) :
    (tryCatch x h).Ends s ok err ↔ x.Ends s ok (fun e t => (h e).Ends t ok err) := by
  unfold Ends
  rw [tryCatch_run]
  rcases x s with ⟨_ | _, t⟩ <;> rfl

@[simp] theorem ends_ite {p : Prop} [Decidable p] (x y : Action σ ε α) :
    (if p then x else y).Ends s ok err ↔ if p then x.Ends s ok err else y.Ends s ok err := by
  split <;> rfl

/-- The rule of consequence. -/
theorem Ends.mono {x : Action σ ε α} {ok' : α → σ → Prop} {err' : ε → σ → Prop}
    (h : x.Ends s ok err) (hok : ∀ a t, ok a t → ok' a t) (herr : ∀ e t, err e t → err' e t) :
    x.Ends s ok' err' := by
  unfold Ends at h ⊢
  split
  · rename_i hx
    rw [hx] at h
    exact hok _ _ h
  · rename_i hx
    rw [hx] at h
    exact herr _ _ h

theorem Ends.and {x : Action σ ε α} {ok' : α → σ → Prop} {err' : ε → σ → Prop}
    (h : x.Ends s ok err) (h' : x.Ends s ok' err') :
    x.Ends s (fun a t => ok a t ∧ ok' a t) (fun e t => err e t ∧ err' e t) := by
  unfold Ends at h h' ⊢
  split <;> rename_i hx <;> rw [hx] at h h' <;> exact ⟨h, h'⟩

theorem ends_of_forall {x : Action σ ε α} (hok : ∀ a t, ok a t)
    (herr : ∀ e t, err e t := by intros; trivial) : x.Ends s ok err := by
  unfold Ends
  split
  · exact hok _ _
  · exact herr _ _

theorem Ends.of_run {x : Action σ ε α} {a : α} {t : σ} (hx : x s = (.ok a, t)) (h : ok a t) :
    x.Ends s ok err := by
  unfold Ends
  rwa [hx]

theorem Ends.ok_of_run {x : Action σ ε α} {a : α} {t : σ} (h : x.Ends s ok err)
    (hx : x s = (.ok a, t)) : ok a t := by
  unfold Ends at h
  rwa [hx] at h

theorem Ends.err_of_run {x : Action σ ε α} {e : ε} {t : σ} (h : x.Ends s ok err)
    (hx : x s = (.error e, t)) : err e t := by
  unfold Ends at h
  rwa [hx] at h

/-- An assertion about the result and the state together. -/
theorem Ends.run {x : Action σ ε α} {P : Except ε α → σ → Prop}
    (h : x.Ends s (fun a t => P (.ok a) t) fun e t => P (.error e) t) : P (x s).1 (x s).2 := by
  unfold Ends at h
  split at h <;> rename_i hx <;> rw [hx] <;> exact h

theorem Ends.elim {x : Action σ ε α} (h : x.Ends s (fun _ _ => False) fun _ _ => False) : False := by
  unfold Ends at h
  split at h <;> exact h

/-- A loop keeps an assertion indexed by the elements still to come. -/
theorem ends_forM {ι : Type} (f : ι → Action σ ε PUnit) (I : List ι → σ → Prop)
    (hf : ∀ i rest t, I (i :: rest) t → (f i).Ends t (fun _ u => I rest u) err)
    (xs : List ι) (h : I xs s) :
    (forM xs f : Action σ ε PUnit).Ends s (fun _ t => I [] t) err := by
  induction xs generalizing s with
  | nil => exact h
  | cons i rest ih =>
    rw [List.forM_cons, ends_bind]
    exact (hf i rest s h).mono (fun _ t ht => ih ht) (fun _ _ he => he)

end Rules

/-- The computation only reads. -/
def Still (x : Action σ ε α) : Prop := ∀ s, (x s).2 = s

section Still
variable {x : Action σ ε α}

theorem still_pure (a : α) : (pure a : Action σ ε α).Still := fun _ => rfl

theorem still_throw (e : ε) : (throw e : Action σ ε α).Still := fun _ => rfl

theorem still_get : (get : Action σ ε σ).Still := fun _ => rfl

theorem Still.bind (hx : x.Still) {f : α → Action σ ε β} (hf : ∀ a, (f a).Still) : (x >>= f).Still := by
  intro s
  have hs := hx s
  rw [bind_run]
  rcases h : x s with ⟨_ | a, t⟩ <;> rw [h] at hs
  · exact hs
  · exact (hf a t).trans hs

theorem still_ite {p : Prop} [Decidable p] {y : Action σ ε α} (hx : x.Still) (hy : y.Still) :
    (if p then x else y).Still := by
  split
  · exact hx
  · exact hy

theorem still_anyM {ι : Type} {f : ι → Action σ ε Bool} (hf : ∀ i, (f i).Still) (xs : List ι) :
    (xs.anyM f).Still := by
  induction xs with
  | nil => exact still_pure false
  | cons i rest ih =>
    refine (hf i).bind fun b => ?_
    cases b with
    | true => exact still_pure true
    | false => exact ih

theorem still_mapM {ι : Type} {f : ι → Action σ ε β} (hf : ∀ i, (f i).Still) (xs : List ι) :
    (xs.mapM f).Still := by
  induction xs with
  | nil => exact still_pure []
  | cons i rest ih =>
    rw [List.mapM_cons]
    exact (hf i).bind fun _ => ih.bind fun _ => still_pure _

end Still

/-- The computation ends the same way in every state and leaves it alone. -/
def Yields (x : Action σ ε α) (y : Except ε α) : Prop := ∀ s, x s = (y, s)

section Yields

theorem Yields.ends {x : Action σ ε α} {y : Except ε α} (hx : x.Yields y) {s : σ}
    {ok : α → σ → Prop} {err : ε → σ → Prop} (hok : ∀ a, y = .ok a → ok a s)
    (herr : ∀ e, y = .error e → err e s) : x.Ends s ok err := by
  unfold Ends
  rw [hx s]
  cases y with
  | error e => exact herr e rfl
  | ok a => exact hok a rfl

theorem yields_pure (a : α) : (pure a : Action σ ε α).Yields (pure a) := fun _ => rfl

theorem yields_throw (e : ε) : (throw e : Action σ ε α).Yields (throw e) := fun _ => rfl

theorem Yields.bind {x : Action σ ε α} {y : Except ε α} (hx : x.Yields y) {f : α → Action σ ε β}
    {g : α → Except ε β} (hf : ∀ a, (f a).Yields (g a)) : (x >>= f).Yields (y >>= g) := by
  intro s
  rw [bind_run, hx s]
  cases y with
  | error e => rfl
  | ok a => exact hf a s

theorem yields_mapM {ι : Type} {f : ι → Action σ ε β} {g : ι → Except ε β}
    (hf : ∀ i, (f i).Yields (g i)) (xs : List ι) : (xs.mapM f).Yields (xs.mapM g) := by
  induction xs with
  | nil => exact yields_pure []
  | cons i rest ih =>
    rw [List.mapM_cons, List.mapM_cons]
    exact (hf i).bind fun _ => ih.bind fun _ => yields_pure _

end Yields

end Action
end StationChat.Lib
