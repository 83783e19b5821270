import Mathlib.Data.List.Infix
import Mathlib.Data.List.Forall2

/-! The pattern language of SQL's LIKE over an arbitrary alphabet and an arbitrary collation of it. -/
namespace StationChat.Lib

inductive LikeToken (α : Type) where
  | any : LikeToken α
  | one : LikeToken α
  | lit : α → LikeToken α
  deriving DecidableEq, Repr

/-- The three characters with a meaning of their own. -/
structure LikeAlphabet (α : Type) where
  percent : α
  underscore : α
  escape : α

/-- Which characters compare as equal. -/
structure Collation (α : Type) where
  same : α → α → Bool
  same_self : ∀ c, same c c = true

/-- Each character by itself. -/
def Collation.binary {α : Type} [DecidableEq α] : Collation α := ⟨fun c d => c == d, fun _ => beq_self_eq_true _⟩

section Matching
variable {α : Type} (C : Collation α)

def likeMatches : List (LikeToken α) → List α → Bool
  | [], text => text.isEmpty
  | .any :: tokens, text => text.tails.any (likeMatches tokens)
  | .one :: tokens, _ :: text => likeMatches tokens text
  | .lit c :: tokens, d :: text => C.same c d && likeMatches tokens text
  | _ :: _, [] => false

/-- No character but itself compares as equal to one of the text. -/
def Collation.Exact (text : List α) : Prop := ∀ c ∈ text, ∀ d, C.same c d = true → d = c

/-- A text that the tokens match, with nothing taken for `any`. -/
def shortest (filler : α) : List (LikeToken α) → List α
  | [] => []
  | .any :: tokens => shortest filler tokens
  | .one :: tokens => filler :: shortest filler tokens
  | .lit c :: tokens => c :: shortest filler tokens

end Matching

section Patterns
variable {α : Type} [DecidableEq α] (C : Collation α) (A : LikeAlphabet α)

/-- An escape takes the next character literally; at the end of a pattern it stands for itself. -/
def likeTokens : List α → List (LikeToken α)
  | [] => []
  | [c] => if c = A.percent then [.any] else if c = A.underscore then [.one] else [.lit c]
  | c :: d :: rest =>
    if c = A.escape then .lit d :: likeTokens rest
    else (if c = A.percent then .any else if c = A.underscore then .one else .lit c) ::
      likeTokens (d :: rest)

/-- `text LIKE pattern`. -/
def like (pattern text : List α) : Bool := likeMatches C (likeTokens A pattern) text

/-- None of the characters has a meaning of its own. -/
def LikeAlphabet.Plain (text : List α) : Prop :=
  ∀ c ∈ text, c ≠ A.percent ∧ c ≠ A.underscore ∧ c ≠ A.escape

instance (text : List α) : Decidable (A.Plain text) :=
  inferInstanceAs (Decidable (∀ c ∈ text, c ≠ A.percent ∧ c ≠ A.underscore ∧ c ≠ A.escape))

end Patterns

section Literals
variable {α : Type} {C : Collation α} {filler : α}

end Literals

section Prefix
variable {α : Type} [DecidableEq α] {C : Collation α} {A : LikeAlphabet α} {filler : α}

theorem likeTokens_cons {c : α} (hc : c ≠ A.escape) (base : List α) :
    likeTokens A (c :: base ++ [A.percent]) =
      (if c = A.percent then .any else if c = A.underscore then .one else .lit c) ::
        likeTokens A (base ++ [A.percent]) := by
  obtain ⟨d, rest, hrest⟩ := List.exists_cons_of_ne_nil (l := base ++ [A.percent]) (by simp)
  rw [List.cons_append, hrest, likeTokens, if_neg hc]

/-- The shortest text that `base%` matches is no longer than `base`, and another text if `base` is not plain. -/
def Outdone (filler : α) (A : LikeAlphabet α) (base : List α) : Prop :=
  (shortest filler (likeTokens A (base ++ [A.percent]))).length ≤ base.length ∧
    (shortest filler (likeTokens A (base ++ [A.percent])) = base → A.Plain base)

theorem Outdone.cons (hfiller : filler ≠ A.underscore) {c : α} (hc : c ≠ A.escape) {base : List α}
    (h : Outdone filler A base) : Outdone filler A (c :: base) := by
  obtain ⟨hle, hplain⟩ := h
  rw [Outdone, likeTokens_cons hc]
  by_cases hpercent : c = A.percent
  · rw [if_pos hpercent, shortest]
    constructor
    · exact Nat.le_succ_of_le hle
    · intro heq
      rw [heq, List.length_cons] at hle
      omega
  · rw [if_neg hpercent]
    by_cases hunderscore : c = A.underscore
    · rw [if_pos hunderscore, shortest]
      exact ⟨Nat.succ_le_succ hle, fun heq => absurd ((List.cons.inj heq).1.trans hunderscore) hfiller⟩
    · rw [if_neg hunderscore, shortest]
      refine ⟨Nat.succ_le_succ hle, fun heq => List.forall_mem_cons.mpr ⟨⟨hpercent, hunderscore, hc⟩, ?_⟩⟩
      exact hplain (List.cons.inj heq).2

end Prefix
end StationChat.Lib
