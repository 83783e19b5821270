import Mathlib.Logic.Relation
import StationChat.Lib.Action

/-! Computations as sequences of small changes. What each change keeps, the computation keeps. -/
namespace StationChat.Lib.Action
open Relation

variable {σ ε α β : Type} {R : σ → σ → Prop}

/-- However the computation ends, it made changes of the kind `R` only. -/
def Makes (R : σ → σ → Prop) (x : Action σ ε α) : Prop := ∀ s, ReflTransGen R s (x s).2

theorem Still.makes {x : Action σ ε α} (h : x.Still) : x.Makes R := by
  intro s
  rw [h s]

theorem makes_pure (a : α) : (pure a : Action σ ε α).Makes R := (still_pure a).makes

theorem makes_throw (e : ε) : (throw e : Action σ ε α).Makes R := (still_throw e).makes

theorem makes_get : (get : Action σ ε σ).Makes R := still_get.makes

theorem makes_modify {f : σ → σ} (h : ∀ s, R s (f s)) : (modify f : Action σ ε PUnit).Makes R :=
  fun s => ReflTransGen.single (h s)

/-- The changes after a prefix that ends in a value, or those up to an exception. -/
theorem changes_bind {x : Action σ ε α} {f : α → Action σ ε β} {s : σ}
    (hx : ReflTransGen R s (x s).2)
    (hf : ∀ a t, x s = (.ok a, t) → ReflTransGen R t (f a t).2) : ReflTransGen R s ((x >>= f) s).2 := by
  rw [bind_run]
  rcases hrun : x s with ⟨e | a, t⟩
  · simpa [hrun] using hx
  · have hfirst : ReflTransGen R s t := by simpa [hrun] using hx
    exact hfirst.trans (hf a t hrun)

theorem Makes.bind {x : Action σ ε α} {f : α → Action σ ε β} (hx : x.Makes R)
    (hf : ∀ a, (f a).Makes R) : (x >>= f).Makes R :=
  fun s => changes_bind (hx s) fun a t _ => hf a t

theorem makes_ite {p : Prop} [Decidable p] {x y : Action σ ε α} (hx : x.Makes R) (hy : y.Makes R) :
    (if p then x else y).Makes R := by
  split
  · exact hx
  · exact hy

theorem makes_runIf {b : Bool} {x : Action σ ε PUnit} (hx : x.Makes R) : (x.runIf b).Makes R :=
  makes_ite hx (makes_pure _)

theorem makes_tryCatch {x : Action σ ε α} {h : ε → Action σ ε α} (hx : x.Makes R)
    (hh : ∀ e, (h e).Makes R) : (tryCatch x h).Makes R := by
  intro s
  have hfirst := hx s
  rw [tryCatch_run]
  rcases hrun : x s with ⟨e | a, t⟩ <;> rw [hrun] at hfirst
  · exact hfirst.trans (hh e t)
  · exact hfirst

theorem makes_forM {ι : Type} {f : ι → Action σ ε PUnit} (hf : ∀ i, (f i).Makes R) (xs : List ι) :
    (forM xs f : Action σ ε PUnit).Makes R := by
  induction xs with
  | nil => exact makes_pure _
  | cons i rest ih =>
    rw [List.forM_cons]
    exact (hf i).bind fun _ => ih

theorem Makes.mono {S : σ → σ → Prop} {x : Action σ ε α} (h : x.Makes R)
    (hRS : ∀ s t, R s t → S s t) : x.Makes S :=
  fun s => ReflTransGen.mono hRS _ _ (h s)

/-- Whatever value the computation returns satisfies `Q`. -/
def Returns (x : Action σ ε α) (Q : α → Prop) : Prop := ∀ s a t, x s = (.ok a, t) → Q a

theorem returns_pure {a : α} {Q : α → Prop} (h : Q a) : (pure a : Action σ ε α).Returns Q := by
  intro s b t hrun
  obtain rfl := Except.ok.inj (Prod.mk.inj hrun).1
  exact h

theorem Returns.bind {x : Action σ ε α} {f : α → Action σ ε β} {P : α → Prop} {Q : β → Prop} (hx : x.Returns P)
    (h : ∀ a, P a → (f a).Returns Q) : (x >>= f).Returns Q := by
  intro s b t hrun
  rw [bind_run] at hrun
  split at hrun
  · rename_i hfirst
    exact h _ (hx _ _ _ hfirst) _ _ _ hrun
  · exact absurd hrun (by simp)

theorem returns_bind {x : Action σ ε α} {f : α → Action σ ε β} {Q : β → Prop}
    (h : ∀ a, (f a).Returns Q) : (x >>= f).Returns Q :=
  Returns.bind (P := fun _ => True) (fun _ _ _ _ => trivial) fun a _ => h a

theorem Returns.ends {x : Action σ ε α} {Q : α → Prop} (h : x.Returns Q) (s : σ) :
    x.Ends s (fun a _ => Q a) fun _ _ => True := by
  unfold Ends
  rcases hrun : x s with ⟨_ | a, t⟩
  · trivial
  · exact h s a t hrun

theorem Makes.bind_returns {x : Action σ ε α} {f : α → Action σ ε β} {Q : α → Prop}
    (hx : x.Makes R) (hQ : x.Returns Q) (hf : ∀ a, Q a → (f a).Makes R) : (x >>= f).Makes R :=
  fun s => changes_bind (hx s) fun a t hrun => hf a (hQ s a t hrun) t

/-- A preorder that contains every change contains all of them together. -/
theorem changes_related {P : σ → σ → Prop} (hrefl : ∀ s, P s s)
    (htrans : ∀ {s t u}, P s t → P t u → P s u) (hchange : ∀ s t, R s t → P s t) {s t : σ}
    (h : ReflTransGen R s t) : P s t := by
  induction h with
  | refl => exact hrefl s
  | tail _ hlast ih => exact htrans ih (hchange _ _ hlast)

end StationChat.Lib.Action
