import Mathlib.Tactic.Common

/-! Services whose state has a part for each owner. A call of one owner leaves the parts of the others
alone, so whole runs split into a run for each owner. -/
namespace StationChat.Lib

/-- `input` is what a call takes from outside the parts; `alone` is the call on its owner's part. -/
structure Service (σ ι κ α β ε : Type) where
  step : σ → κ → α × σ
  owner : κ → ι
  part : ι → σ → β
  input : σ → κ → ε
  alone : β → κ → ε → α × β

namespace Service
variable {σ ι κ α β ε : Type} (S : Service σ ι κ α β ε)

/-- A call answers and changes its owner's part as it would alone, and changes no other part. -/
structure Isolated : Prop where
  answer : ∀ s c, (S.step s c).1 = (S.alone (S.part (S.owner c) s) c (S.input s c)).1
  part : ∀ s c, S.part (S.owner c) (S.step s c).2 = (S.alone (S.part (S.owner c) s) c (S.input s c)).2
  frame : ∀ s c i, i ≠ S.owner c → S.part i (S.step s c).2 = S.part i s

def run : σ → List κ → σ
  | s, [] => s
  | s, c :: calls => run (S.step s c).2 calls

section Frame
variable {S} {i : ι}

/-- An owner without calls finds its part as it was. -/
theorem Isolated.run_frame (h : S.Isolated) (s : σ) (cs : List κ) (hcs : ∀ c ∈ cs, S.owner c ≠ i) :
    S.part i (S.run s cs) = S.part i s := by
  induction cs generalizing s with
  | nil => rfl
  | cons c rest ih =>
    obtain ⟨hc, hrest⟩ := List.forall_mem_cons.mp hcs
    rw [run, ih _ hrest, h.frame s c i fun heq => hc heq.symm]

/-- An assertion kept by each call holds after a run. -/
theorem run_invariant {P : σ → Prop} (hstep : ∀ s c, P s → P (S.step s c).2) {s : σ} (hs : P s)
    (cs : List κ) : P (S.run s cs) := by
  induction cs generalizing s with
  | nil => exact hs
  | cons c rest ih => exact ih (hstep s c hs)

end Frame

variable [DecidableEq ι] (i : ι)

/-- The calls of one owner in a run, with their inputs. -/
def calls : σ → List κ → List (κ × ε)
  | _, [] => []
  | s, c :: rest =>
    if S.owner c = i then (c, S.input s c) :: calls (S.step s c).2 rest else calls (S.step s c).2 rest

/-- What one owner is answered in a run. -/
def answers : σ → List κ → List α
  | _, [] => []
  | s, c :: rest =>
    if S.owner c = i then (S.step s c).1 :: answers (S.step s c).2 rest
    else answers (S.step s c).2 rest

/-- The calls of one owner on its part alone. -/
def runAlone : β → List (κ × ε) → List α × β
  | b, [] => ([], b)
  | b, (c, e) :: rest =>
    let next := S.alone b c e
    let after := runAlone next.2 rest
    (next.1 :: after.1, after.2)

variable {S i}

/-- A run is, for each owner, the run of its own calls. -/
theorem Isolated.run_alone (h : S.Isolated) (s : σ) (cs : List κ) :
    (S.answers i s cs, S.part i (S.run s cs)) = S.runAlone (S.part i s) (S.calls i s cs) := by
  induction cs generalizing s with
  | nil => rfl
  | cons c rest ih =>
    rw [answers, run, calls]
    by_cases hc : S.owner c = i
    · subst hc
      rw [if_pos rfl, if_pos rfl, runAlone, ← h.part, ← h.answer, ← ih]
    · rw [if_neg hc, if_neg hc, ih, h.frame s c i fun heq => hc heq.symm]

/-- Noninterference: an owner's part, its calls and their inputs fix everything it is answered. -/
theorem Isolated.noninterference (h : S.Isolated) {s t : σ} {cs ds : List κ}
    (hpart : S.part i s = S.part i t) (hcalls : S.calls i s cs = S.calls i t ds) :
    S.answers i s cs = S.answers i t ds ∧ S.part i (S.run s cs) = S.part i (S.run t ds) := by
  have hrun : (S.answers i s cs, S.part i (S.run s cs)) = (S.answers i t ds, S.part i (S.run t ds)) := by
    rw [h.run_alone, h.run_alone, hpart, hcalls]
  exact Prod.mk.inj hrun

end Service
end StationChat.Lib
